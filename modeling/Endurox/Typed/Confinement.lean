/-
# Typed.Confinement -- what a `TypedUbf` wraps

`from_typed` asks what it is given before it makes a `TypedUbf`, and the type of an
allocation never changes.  The wrapper can be dereferenced to the buffer in it, though,
and whatever takes a buffer can put another allocation there: a reply that replaces it,
an assignment, a swap.  As long as those put a UBF there, every `TypedUbf` wraps one.
-/
import Endurox.Typed.Steady

namespace Endurox.Typed

open Endurox.Theory

set_option autoImplicit false

/-- **Type confinement**: every `TypedUbf` wraps an allocation that was made as a UBF. -/
def State.Confined (s : State) : Prop :=
  ∀ id place, s.bufs.get id = some place → place.wrapper = .ubf → s.HasType place.buffer.ptr "UBF"

/-! ## Addresses -/

/-- No allocation was made yet where the next one goes. -/
def State.Below (s : State) : Prop := ∀ ptr allocation, s.heap.get ptr = some allocation → ptr < s.next

namespace State.Below

variable {s : State}

theorem rewrite (below : s.Below) (ptr : Addr) (change : Allocation → Allocation) :
    (s.rewrite ptr change).Below := by
  intro addr a found
  rw [(State.rewrite_rest ptr change s).1]
  rw [State.get_rewrite] at found
  split at found
  · rename_i same
    obtain ⟨before, there, _⟩ := Option.map_eq_some_iff.1 found
    exact same ▸ below ptr before there
  · exact below addr a found

theorem bury (below : s.Below) (ptr : Addr) : (s.bury ptr).2.Below := by
  intro addr a found
  rw [(State.bury_rest ptr s).1]
  rw [State.get_bury] at found
  split at found
  · rename_i same
    obtain ⟨before, there, _⟩ := Option.map_eq_some_iff.1 found
    exact same ▸ below ptr before there
  · exact below addr a found

theorem release : ∀ (fuel : Nat) (work : List Addr) {s : State}, s.Below → (s.release fuel work).Below
  | 0, _, _, below => below
  | _ + 1, [], _, below => below
  | fuel + 1, ptr :: _, _, below => release fuel _ (below.bury ptr)

theorem tpfree (below : s.Below) (ptr : Addr) : (s.tpfree ptr).Below := by
  unfold State.tpfree
  split
  · exact below
  · exact release _ _ below

theorem allocate (below : s.Below) (allocation : Allocation) : (s.allocate allocation).2.Below := by
  intro addr a found
  simp only [State.allocate, Table.get_set] at found ⊢
  split at found
  · rename_i here
    exact here ▸ Nat.lt_succ_self s.next
  · exact Nat.lt_succ_of_lt (below addr a found)

theorem hasType {ptr : Addr} {typeName : String} (below : s.Below) (known : s.HasType ptr typeName) :
    ptr < s.next := by
  obtain ⟨a, found, _⟩ := known
  exact below ptr a found

end State.Below

/-! ## The invariant -/

structure Sealed (s : State) : Prop where
  confined : s.Confined
  below : s.Below

namespace Sealed

variable {s s' : State}

/-- Values as they were, and no allocation of another type. -/
theorem frame (holds : Sealed s) (bufs : s'.bufs = s.bufs)
    (typed : ∀ ptr, s.HasType ptr "UBF" → s'.HasType ptr "UBF") (below : s'.Below) : Sealed s' :=
  ⟨fun id place owned wrapped => typed _ (holds.confined id place (bufs ▸ owned) wrapped), below⟩

theorem answered : Answerable Sealed := fun _ holds => ⟨holds.confined, holds.below⟩

theorem rewrite (holds : Sealed s) (ptr : Addr) {change : Allocation → Allocation}
    (kept : ∀ a, (change a).typeName = a.typeName) : Sealed (s.rewrite ptr change) :=
  holds.frame (State.rewrite_rest ptr change s).2.1 (fun _ known => known.rewrite ptr kept)
    (holds.below.rewrite ptr change)

theorem tpfree (holds : Sealed s) (ptr : Addr) : Sealed (s.tpfree ptr) :=
  holds.frame (State.tpfree_rest ptr s).2.1 (fun _ known => known.tpfree ptr) (holds.below.tpfree ptr)

theorem allocate (holds : Sealed s) (allocation : Allocation) : Sealed (s.allocate allocation).2 :=
  holds.frame rfl
    (fun _ known => known.allocate fun here => absurd (holds.below.hasType known) (here ▸ Nat.lt_irrefl _))
    (holds.below.allocate allocation)

theorem forget (holds : Sealed s) (id : BufId) : Sealed (s.forget id) where
  confined other place owned := by
    simp only [State.forget, Table.get_del] at owned
    split at owned
    · cases owned
    · exact holds.confined other place owned
  below := holds.below

theorem drop (holds : Sealed s) (id : BufId) : Sealed (s.drop id) := (holds.forget id).tpfree _

/-- A new value; if it is a `TypedUbf`, around a UBF. -/
theorem own (holds : Sealed s) {place : Place}
    (ubf : place.wrapper = .ubf → s.HasType place.buffer.ptr "UBF") : Sealed (s.own place).2 where
  confined id other owned := by
    simp only [State.own, Table.get_set] at owned
    split at owned
    · exact Option.some.inj owned ▸ ubf
    · exact holds.confined id other owned
  below := holds.below

/-- A value given another buffer; if it is a `TypedUbf`, a UBF. -/
theorem setBuffer (holds : Sealed s) {id : BufId} {buffer : TypedBuffer}
    (ubf : s.hasUbf id = true → s.HasType buffer.ptr "UBF") : Sealed (s.setBuffer id buffer) := by
  unfold State.setBuffer
  cases here : s.bufs.get id with
  | none => exact holds
  | some place =>
      refine ⟨fun other there owned wrapped => ?_, holds.below⟩
      simp only [Table.get_set] at owned
      split at owned
      · cases owned
        exact ubf (by simpa [State.hasUbf, here] using wrapped)
      · exact holds.confined other there owned wrapped

theorem setWrapper (holds : Sealed s) {id : BufId} {wrapper : Wrapper}
    (ubf : wrapper = .ubf → s.HasType (s.buffer id).ptr "UBF") : Sealed (s.setWrapper id wrapper) := by
  unfold State.setWrapper
  cases here : s.bufs.get id with
  | none => exact holds
  | some place =>
      refine ⟨fun other there owned wrapped => ?_, holds.below⟩
      simp only [Table.get_set] at owned
      split at owned
      · cases owned
        have known := ubf wrapped
        rw [State.buffer, here] at known
        exact known
      · exact holds.confined other there owned wrapped

/-- A `TypedUbf` has a UBF. -/
theorem buffer (holds : Sealed s) {id : BufId} (ubf : s.hasUbf id = true) :
    s.HasType (s.buffer id).ptr "UBF" := by
  cases owned : s.bufs.get id with
  | none => simp [State.hasUbf, owned] at ubf
  | some place =>
      have wrapped : place.wrapper = .ubf := by simpa [State.hasUbf, owned] using ubf
      have same : s.buffer id = place.buffer := by simp [State.buffer, owned]
      rw [same]
      exact holds.confined id place owned wrapped

end Sealed

/-! ## Reallocation and allocation -/

section Reallocate

variable {s : State} {ptr addr : Addr} {size : Nat} {moves : Bool} {typeName : String}

theorem State.reallocate_bufs : (s.reallocate ptr size moves).2.bufs = s.bufs := by
  unfold State.reallocate
  split
  · split
    · split
      · exact (State.bury_rest ptr s).2.1
      · rfl
    · rfl
  · rfl

/-- A reallocation that moves takes the next address. -/
theorem State.Below.reallocate (below : s.Below) : (s.reallocate ptr size moves).2.Below := by
  unfold State.reallocate
  split
  · rename_i a found
    split
    · split
      · exact (below.bury ptr).allocate _
      · intro other b there
        simp only [Table.get_set] at there
        split at there
        · rename_i here
          exact here ▸ below ptr a found
        · exact below other b there
    · exact below
  · exact below

/-- A type stays with its address, also where the buffer moves away. -/
theorem State.HasType.reallocate (known : s.HasType addr typeName) (below : s.Below) :
    (s.reallocate ptr size moves).2.HasType addr typeName := by
  unfold State.reallocate
  split
  · rename_i a found
    split
    · split
      · refine (known.bury ptr).allocate fun here => absurd ((below.bury ptr).hasType (known.bury ptr)) ?_
        exact here ▸ Nat.lt_irrefl _
      · obtain ⟨b, there, same⟩ := known
        by_cases here : addr = ptr
        · subst here
          rw [found] at there
          cases there
          exact ⟨a.resize size, by simp, same⟩
        · exact ⟨b, by simp [here, there], same⟩
    · exact known
  · exact known

/-- What takes the place of an allocation has its type. -/
theorem State.hasType_reallocate {ptr' : Addr} (known : s.HasType ptr typeName)
    (done : (s.reallocate ptr size moves).1 = some ptr') :
    (s.reallocate ptr size moves).2.HasType ptr' typeName := by
  obtain ⟨a, found, same⟩ := known
  unfold State.reallocate at done ⊢
  simp only [found] at done ⊢
  by_cases live : a.live = true
  · cases moves with
    | true =>
        simp only [live, if_true] at done ⊢
        cases done
        exact ⟨a.resize size, by simp [State.allocate], same⟩
    | false =>
        simp only [live, if_true] at done ⊢
        cases done
        exact ⟨a.resize size, by simp, same⟩
  · simp [live] at done

end Reallocate

theorem Sealed.reallocate {s : State} (holds : Sealed s) {ptr : Addr} {size : Nat} {moves : Bool} :
    Sealed (s.reallocate ptr size moves).2 :=
  holds.frame State.reallocate_bufs (fun _ known => known.reallocate holds.below) holds.below.reallocate

/-- `tprealloc` keeps the type of what it moves. -/
theorem tprealloc_sealed (id : BufId) (newSize : Nat) : Keeps Sealed (tprealloc id newSize).run := by
  unfold tprealloc
  refine Ends.tryRead fun now => ?_
  -- the value keeps its buffer until the reallocated one is its own
  let Q : State → Prop := fun s => Sealed s ∧ (s.buffer id).ptr = (now.buffer id).ptr
  have answered : Answerable Q := fun later holds => ⟨Sealed.answered later holds.1, holds.2⟩
  refine Ends.mono (B := Q) ?_ (fun s holds => ⟨holds.1, holds.2 ▸ rfl⟩) fun _ _ holds => holds
  refine Ends.tryBind (Keeps.lift (next_keeps answered Queue.reallocs_shrinks)) (fun _ _ holds => holds.1)
    fun answer => ?_
  refine Ends.tryOutcome ((tptypesOf_ends answer.before _).mono (fun _ holds => holds)
    fun _ _ holds => holds.1) fun before => ?_
  refine Ends.tryBind Keeps.throwIf (fun _ _ holds => holds.1) fun _ => ?_
  refine Ends.tryBind (refuseShrink_keeps _ _ _) (fun _ _ holds => holds.1) fun _ => ?_
  split
  · exact Ends.throw fun _ holds => holds.1
  · rename_i more moves _
    let R : Addr → State → Prop := fun ptr s => Sealed s ∧ (s.hasUbf id = true → s.HasType ptr "UBF")
    refine Ends.tryBind (F := fun moved s => Sealed s ∧ ∀ ptr, moved = .ok (some ptr) → R ptr s)
      (Ends.tryModifyGet fun s holds => ?_) (fun _ _ holds => holds.1) fun moved => ?_
    · have grown : Sealed (s.reallocate (now.buffer id).ptr (newSize + more) moves).2 := holds.1.reallocate
      refine ⟨grown, fun ptr same => ⟨grown, fun ubf => State.hasType_reallocate ?_ (Except.ok.inj same)⟩⟩
      rw [State.hasUbf, State.reallocate_bufs] at ubf
      exact holds.2 ▸ holds.1.buffer ubf
    · cases moved with
      | none => exact Ends.throw fun _ holds => holds.1
      | some ptr =>
          refine Ends.mono (B := R ptr) ?_ (fun _ holds => holds.2 ptr rfl) fun _ _ holds => holds
          refine Ends.tryOutcome ((tptypesOf_ends answer.after ptr).mono (fun _ holds => holds)
            fun _ _ holds => holds.1) fun grown => ?_
          refine Ends.tryBind (F := fun _ => R ptr) ?_ (fun _ _ holds => holds.1) fun _ => ?_
          · unfold clearGrowth
            split
            · refine Keeps.runIf fun _ => Keeps.tryModify fun s holds => ?_
              refine ⟨holds.1.rewrite ptr fun _ => rfl, fun ubf => (holds.2 ?_).rewrite ptr fun _ => rfl⟩
              rwa [State.hasUbf, (State.rewrite_rest _ _ _).2.1] at ubf
            · exact Keeps.tryPure
          · exact Ends.tryModify fun s holds => holds.1.setBuffer holds.2

theorem allocNative_sealed (type_ subtype : String) (size : Nat) (answer : AllocAnswer) :
    Ends Sealed (allocNative type_ subtype size answer).run fun result s =>
      Sealed s ∧ ∀ ptr, result = .ok ptr → s.HasType ptr (bufferType type_) := by
  unfold allocNative
  split
  · exact Ends.throw fun _ holds => ⟨holds, fun _ impossible => nomatch impossible⟩
  · exact Ends.tryModifyGet fun s holds =>
      ⟨holds.allocate _, fun _ same => Except.ok.inj same ▸ State.hasType_allocate _ s⟩

/-- A value that is allocated is typed, not a `TypedUbf`. -/
theorem tpalloc_sealed (type_ subtype : String) (size : Nat) :
    Keeps Sealed (tpalloc type_ subtype size).run := by
  refine Keeps.tryBind Keeps.throwIf fun _ => Keeps.tryBind Keeps.throwIf fun _ => ?_
  refine Keeps.tryBind Keeps.throwIf fun _ => ?_
  refine Keeps.tryBind (Keeps.lift (next_keeps Sealed.answered Queue.allocs_shrinks)) fun answer => ?_
  refine Keeps.tryBind ((allocNative_sealed _ _ _ _).mono (fun _ holds => holds) fun _ _ holds => holds.1)
    fun ptr => ?_
  refine Keeps.tryBind (Keeps.outcome ((tptypesOf_ends answer.types ptr).mono (fun _ holds => holds)
    fun _ _ holds => holds.1)) fun types => ?_
  refine Keeps.tryBind ?_ fun _ => Keeps.tryModifyGet fun s holds => holds.own nofun
  unfold clearAll
  split
  · exact Keeps.runIf fun _ => Keeps.tryModify fun s holds => holds.rewrite _ fun _ => rfl
  · exact Keeps.tryPure

/-- `tpalloc_ubf` makes a UBF and wraps it. -/
theorem tpallocUbf_sealed (size : Nat) : Keeps Sealed (tpallocUbf size).run := by
  refine Keeps.tryBind Keeps.throwIf fun _ => ?_
  refine Keeps.tryBind (Keeps.lift (next_keeps Sealed.answered Queue.allocs_shrinks)) fun answer => ?_
  refine Ends.tryBind (allocNative_sealed "UBF" "" size answer) (fun _ _ holds => holds.1) fun ptr => ?_
  exact Ends.tryModifyGet fun s holds => holds.1.own fun _ => holds.2 ptr rfl

theorem Sealed.copyMemory {s : State} (holds : Sealed s) (source copy : Addr) (size : Nat) :
    Sealed (copyMemory source copy size s) := by
  unfold Typed.copyMemory
  split
  · exact holds.rewrite copy fun _ => rfl
  · exact holds

/-- A copy byte by byte is not wrapped. -/
theorem clonePlain_sealed (source : Addr) (info : TpTypeInfo) : Keeps Sealed (clonePlain source info).run := by
  refine Keeps.tryBind (cloneSize_keeps info) fun size => Keeps.tryBind Keeps.throwIf fun _ => ?_
  refine Keeps.tryBind (allocating_keeps (tpalloc_sealed _ _ _)) fun copy => ?_
  refine Keeps.tryBind (orDrop_always ?_ fun _ holds => holds.drop copy) fun _ => Keeps.tryPure
  refine Keeps.tryBind Keeps.tryGet fun now => ?_
  refine Keeps.tryBind (allocating_keeps (tptypes_keeps Sealed.answered _)) fun made => ?_
  exact Keeps.tryBind Keeps.throwIf fun _ => Keeps.tryModify fun s holds => holds.copyMemory _ _ _

/-- **Each change keeps wrapped values UBFs**: no operation changes the type of a buffer. -/
theorem sealed_steady : Steady False fun _ => Sealed where
  inside := nofun
  rebase holds := holds
  lower _ holds := holds
  answered _ := Sealed.answered
  fields _ _ _ holds := holds.rewrite _ fun _ => rfl
  freed ptr holds := holds.tpfree ptr
  forgotten id holds := holds.forget id
  owned _ _ holds := holds.own nofun
  unwrapped _ holds := holds.setWrapper nofun
  dumped _ holds := holds.frame rfl (fun _ known => known) holds.below
  tprealloc _ := tprealloc_sealed
  tpallocUbf _ := tpallocUbf_sealed
  tpalloc _ := tpalloc_sealed
  copied ptr _ holds := holds.rewrite ptr fun _ => rfl
  masked ptr _ _ holds := holds.rewrite ptr fun _ => rfl
  measured _ _ holds := holds.setBuffer fun ubf => holds.buffer ubf
  clonePlain _ source info := (clonePlain_sealed source info).mono (fun _ holds => holds.1) fun _ _ holds => holds

/-! ## What a reply puts in place of a buffer -/

/-- What is left in place of a UBF is a UBF. -/
def Install.Ubf : Install → Prop
  | .untouched _ | .inPlace .. => True
  | .replaced message => bufferType message.root.typeName = "UBF"
  | .null => False

section Install

variable {s : State}

theorem Sealed.allocateParts {base : Addr} :
    ∀ {parts : List Part} {s : State}, Sealed s → Sealed (s.allocateParts base parts)
  | [], _, holds => holds
  | _ :: _, _, holds => (holds.allocate _).allocateParts

theorem State.HasType.allocateParts {base ptr : Addr} {typeName : String} :
    ∀ {parts : List Part} {s : State}, s.HasType ptr typeName → s.Below →
      (s.allocateParts base parts).HasType ptr typeName
  | [], _, known, _ => known
  | _ :: _, _, known, below =>
      (known.allocate fun here => absurd (below.hasType known) (here ▸ Nat.lt_irrefl _)).allocateParts
        (below.allocate _)

/-- A received message brings its own type, in the place of another. -/
theorem Sealed.overwrite (holds : Sealed s) (ptr : Addr) (message : Message) :
    Sealed (s.overwrite ptr message) :=
  Sealed.allocateParts (holds.rewrite ptr fun _ => rfl)

theorem Sealed.install (holds : Sealed s) (ptr : Addr) (install : Install) :
    Sealed (s.install ptr install).2 := by
  cases install with
  | untouched olen => exact holds
  | null => exact holds.tpfree ptr
  | replaced message => exact ((holds.tpfree ptr).allocate _).allocateParts
  | inPlace message moves =>
      simp only [State.install]
      split
      · exact holds.reallocate.overwrite _ message
      · exact holds

/-- A reply of the same type in the place of a UBF. -/
theorem Sealed.install_ubf (holds : Sealed s) {ptr : Addr} (known : s.HasType ptr "UBF") {install : Install}
    (ubf : install.Ubf) : (s.install ptr install).2.HasType (s.install ptr install).1 "UBF" := by
  cases install with
  | untouched olen => exact known
  | null => exact ubf.elim
  | replaced message =>
      have made := State.hasType_allocate (message.root.allocation (s.tpfree ptr).next) (s.tpfree ptr)
      rw [show (message.root.allocation (s.tpfree ptr).next).typeName = "UBF" from ubf] at made
      exact made.allocateParts ((holds.tpfree ptr).allocate _).below
  | inPlace message moves =>
      simp only [State.install]
      split
      · rename_i info _
        have grown : Sealed (s.reallocate ptr info.size moves).2 := holds.reallocate
        refine State.HasType.allocateParts ?_ (grown.below.rewrite _ _)
        refine State.HasType.rewrite ?_ _ fun _ => rfl
        cases done : (s.reallocate ptr info.size moves).1 with
        | none => exact known.reallocate holds.below
        | some ptr' => exact State.hasType_reallocate known done
      · exact known

theorem State.install_bufs (ptr : Addr) (s : State) (install : Install) :
    (s.install ptr install).2.bufs = s.bufs := by
  have parts : ∀ (base : Addr) (parts : List Part) (s : State), (s.allocateParts base parts).bufs = s.bufs := by
    intro base parts
    induction parts with
    | nil => exact fun _ => rfl
    | cons part parts ih => exact fun s => ih _
  cases install with
  | untouched olen => rfl
  | null => exact (State.tpfree_rest ptr s).2.1
  | replaced message => exact (parts _ _ _).trans (State.tpfree_rest ptr s).2.1
  | inPlace message moves =>
      simp only [State.install]
      split
      · exact (parts _ _ _).trans ((State.rewrite_rest _ _ _).2.1.trans State.reallocate_bufs)
      · rfl

/-- A reply for a value that is not wrapped, or one that is a UBF again. -/
theorem Sealed.adopt (holds : Sealed s) (id : BufId) {install : Install}
    (ubf : s.hasUbf id = true → install.Ubf) : Sealed ((adopt id install).run s).2 := by
  refine (holds.install (s.buffer id).ptr install).setBuffer fun wrapped => ?_
  rw [State.hasUbf, State.install_bufs] at wrapped
  exact holds.install_ubf (holds.buffer wrapped) (ubf wrapped)

end Install

/-! ## Runs -/

/-- What takes the place of the buffer of a `TypedUbf` is a UBF. -/
def Typechecked (s : State) (label : Label) : Prop :=
  match label.op with
  | .tpcall svc id reply => containsNul svc = false → s.hasUbf id = true → reply.install.Ubf
  | .tpgetrply id _ reply => s.hasUbf id = true → reply.install.Ubf
  | .assign dst src => s.hasUbf dst = true → s.HasType (s.buffer src).ptr "UBF"
  | .swap a b =>
      (s.hasUbf a = true → s.HasType (s.buffer b).ptr "UBF") ∧
        (s.hasUbf b = true → s.HasType (s.buffer a).ptr "UBF")
  | _ => True

theorem hasUbf_setBuffer (id other : BufId) (buffer : TypedBuffer) (s : State) :
    (s.setBuffer id buffer).hasUbf other = s.hasUbf other := by
  unfold State.setBuffer
  cases found : s.bufs.get id with
  | none => rfl
  | some place =>
      by_cases same : other = id
      · simp [State.hasUbf, same, found]
      · simp [State.hasUbf, same]

/-- A value assigned over a wrapped one is a UBF. -/
theorem Sealed.assign {s : State} (holds : Sealed s) {dst src : BufId} (apart : dst ≠ src)
    (ubf : s.hasUbf dst = true → s.HasType (s.buffer src).ptr "UBF") :
    Sealed (((s.forget src).tpfree (s.buffer dst).ptr).setBuffer dst (s.buffer src)) := by
  refine ((holds.forget src).tpfree _).setBuffer fun wrapped => ?_
  rw [State.hasUbf, (State.tpfree_rest _ _).2.1] at wrapped
  have known : (s.forget src).HasType (s.buffer src).ptr "UBF" :=
    ubf (by simpa [State.hasUbf, State.forget, apart] using wrapped)
  exact known.tpfree _

theorem tpimport_sealed (received : Except AtmiError Message) : Keeps Sealed (tpimport received).run := by
  unfold tpimport
  cases received with
  | error e => exact Keeps.throw
  | ok message => exact Keeps.tryModifyGet fun s holds => Sealed.own (holds.allocate _).allocateParts nofun

theorem tpcall_sealed (svc : String) (odata : BufId) (reply : Reply) :
    Ends (fun s => Sealed s ∧ (containsNul svc = false → s.hasUbf odata = true → reply.install.Ubf))
      (tpcall svc odata reply).run fun _ => Sealed := by
  unfold tpcall
  refine Ends.tryBind (F := fun result s => Sealed s ∧ (result = .ok ⟨⟩ → s.hasUbf odata = true →
      reply.install.Ubf)) (Ends.throwIf ?_ ?_) (fun _ _ holds => holds.1) fun _ => ?_
  · exact fun s _ holds => ⟨holds.1, fun impossible => nomatch impossible⟩
  · exact fun s named holds => ⟨holds.1, fun _ => holds.2 (Bool.eq_false_iff.2 named)⟩
  · exact Ends.tryBind (F := fun _ => Sealed) (fun s holds => holds.1.adopt odata (holds.2 rfl))
      (fun _ _ holds => holds) fun _ => Keeps.throwIf

/-- A buffer that is a UBF can be wrapped. -/
theorem Sealed.wrapped {s : State} (holds : Sealed s) {id : BufId} {info : TpTypeInfo}
    (known : s.typesOf (s.buffer id).ptr = some info) (ubf : info.typeName = "UBF") :
    Sealed (s.setWrapper id .ubf) :=
  holds.setWrapper fun _ => by
    obtain ⟨a, found, _, rfl⟩ := State.typesOf_some known
    exact ⟨a, found, ubf⟩

/-- What is swapped with a wrapped value is a UBF. -/
theorem Sealed.swap {s : State} (holds : Sealed s) {a b : BufId}
    (left : s.hasUbf a = true → s.HasType (s.buffer b).ptr "UBF")
    (right : s.hasUbf b = true → s.HasType (s.buffer a).ptr "UBF") :
    Sealed ((s.setBuffer a (s.buffer b)).setBuffer b (s.buffer a)) := by
  refine (holds.setBuffer left).setBuffer fun wrapped => ?_
  rw [hasUbf_setBuffer] at wrapped
  have heap : (s.setBuffer a (s.buffer b)).heap = s.heap := by
    unfold State.setBuffer
    split <;> rfl
  rw [State.HasType, heap]
  exact right wrapped

/-- **A step keeps wrapped values UBFs**, if no wrapped one is given another type. -/
theorem Sealed.step {s : State} {label : Label} (checked : Typechecked s label) (holds : Sealed s) :
    Sealed (s.step label) := by
  unfold State.step
  split
  · rename_i accepted
    obtain ⟨op, answers⟩ := label
    have asked : Sealed { s with answers } := ⟨holds.confined, holds.below⟩
    cases op with
    | tpimport received => exact tpimport_sealed received _ asked
    | tpcall svc id reply => exact tpcall_sealed svc id reply _ ⟨asked, checked⟩
    | tpgetrply id cd reply => exact asked.adopt id checked
    | fromTyped id =>
        exact fromTyped_keeps Sealed.answered id (fun _ _ holds known ubf => holds.wrapped known ubf)
          (fun _ holds => holds.drop id) _ asked
    | editUbf id =>
        exact editUbf_keeps Sealed.answered id (fun _ _ holds known ubf => holds.wrapped known ubf)
          (fun _ holds => holds.drop id) _ asked
    | assign dst src =>
        simp only [State.accepts, Bool.and_eq_true, decide_eq_true_eq] at accepted
        exact asked.assign accepted.1.1 checked
    | swap a b => exact asked.swap checked.1 checked.2
    | _ => exact sealed_steady.run (n := 0) rfl asked
  · exact holds

theorem Sealed.init : Sealed {} where
  confined _ _ owned := by simp at owned
  below _ _ found := by simp at found

/-- **Type confinement**: when no other buffer is put where a UBF was, no sequence of safe operations
leaves a `TypedUbf` around an allocation of another type. -/
theorem typedUbf_confined (labels : List Label) (checked : program.Along Typechecked labels) :
    (program.run labels).Confined :=
  (Machine.invariantAlong (M := program) Sealed.init (fun _ _ checked holds => holds.step checked)
    labels checked).confined

/-- A UBF, a `TypedBuffer` of another type, and the one assigned to the other. -/
def assigned (type_ : String) : List Label :=
  [{ op := .tpallocUbf 64 }, { op := .tpalloc type_ "" 64 }, { op := .assign 0 1 }]

theorem assigned_confined : (program.run (assigned "UBF")).Confined := by
  have run : ((program.run ((assigned "UBF").take 2)).heap.get 2).map (·.typeName) = some "UBF" := by
    decide +kernel
  obtain ⟨allocation, found, ubf⟩ := Option.map_eq_some_iff.1 run
  exact typedUbf_confined (assigned "UBF") ⟨trivial, trivial, fun _ => ⟨allocation, found, ubf⟩, trivial⟩

/-- `*ubf = buffer` in safe code leaves a `TypedUbf` around a STRING. -/
theorem assigned_escapes : ¬ ∀ labels : List Label, (program.run labels).Confined := by
  intro all
  have owned : (program.run (assigned "STRING")).bufs.get 0 = some ⟨⟨2, 0⟩, .ubf⟩ := by decide +kernel
  have type : ((program.run (assigned "STRING")).heap.get 2).map (·.typeName) = some "STRING" := by
    decide +kernel
  obtain ⟨allocation, found, ubf⟩ := all (assigned "STRING") 0 _ owned rfl
  rw [found] at type
  exact absurd (ubf.symm.trans (Option.some.inj type)) (by decide)

end Endurox.Typed
