/-
# Typed.Initialised -- CARRAY bytes are written before they are read

`set_len` takes any length up to the allocation and relies on every byte there
having been cleared or written.  Allocation and growth see to that.  A receive does
not: the buffer it leaves may be larger than the message in it.  As long as no
message leaves such room, no sequence of safe operations publishes a byte nobody
has written.
-/
import Endurox.Typed.Steady

namespace Endurox.Typed

open Endurox.Theory

set_option autoImplicit false

/-! ## Bytes -/

theorem none_copied {source memory : List Byte} (read : none ∉ source) (there : none ∉ memory) :
    none ∉ copied source memory := by
  intro member
  rcases List.mem_append.1 (List.mem_of_mem_take member) with inside | beyond
  · exact read inside
  · exact there (List.mem_of_mem_drop beyond)

theorem none_cleared (memory : List Byte) : none ∉ cleared 0 memory := by
  simp [cleared]

/-- What reallocation keeps was written before. -/
theorem none_shrunk {size : Nat} {memory : List Byte} (written : none ∉ memory)
    (fits : size ≤ memory.length) : none ∉ resized size memory := by
  intro member
  simp only [resized, Nat.sub_eq_zero_of_le fits, List.replicate_zero, List.append_nil] at member
  exact written (List.mem_of_mem_take member)

/-- What it adds is cleared. -/
theorem none_grown {size : Nat} {memory : List Byte} (written : none ∉ memory)
    (grows : memory.length < size) : none ∉ cleared memory.length (resized size memory) := by
  have kept : (resized size memory).take memory.length = memory := by
    rw [resized, List.take_of_length_le (Nat.le_of_lt grows), List.take_left]
  simp only [cleared, kept, List.mem_append, List.mem_replicate]
  rintro (inside | ⟨_, impossible⟩)
  · exact written inside
  · cases impossible

@[simp] theorem length_resized (size : Nat) (memory : List Byte) : (resized size memory).length = size := by
  simp [resized]
  omega

/-! ## The invariant -/

/-- A CARRAY whose bytes have all been written. -/
def Allocation.Initialised (allocation : Allocation) : Prop :=
  allocation.typeName = "CARRAY" → none ∉ allocation.bytes

/-- Initialised, under the name `tptypes` reports. -/
def Allocation.Sound (allocation : Allocation) : Prop :=
  allocation.typeName ≠ "X_OCTET" ∧ allocation.Initialised

theorem bufferType_ne (type_ : String) : bufferType type_ ≠ "X_OCTET" := by
  unfold bufferType
  split
  · decide
  · assumption

theorem bufferType_of_ne {type_ : String} (settled : type_ ≠ "X_OCTET") : bufferType type_ = type_ :=
  if_neg settled

structure Cleared (s : State) : Prop where
  all : s.All Allocation.Sound
  /-- The type of what is allocated or grown is known. -/
  allocs : ∀ answer ∈ s.answers.allocs, answer.types = none
  reallocs : ∀ answer ∈ s.answers.reallocs, answer.before = none ∧ answer.after = none

namespace Cleared

theorem frame {s s' : State} (cleared : Cleared s) (all : s'.All Allocation.Sound)
    (same : s'.answers = s.answers) : Cleared s' :=
  ⟨all, same ▸ cleared.allocs, same ▸ cleared.reallocs⟩

/-- Only the values changed, or what was written out. -/
theorem apart {s s' : State} (cleared : Cleared s) (heap : s'.heap = s.heap)
    (same : s'.answers = s.answers) : Cleared s' :=
  cleared.frame (fun ptr a found => cleared.all ptr a (heap ▸ found)) same

theorem rewrite {s : State} (cleared : Cleared s) (ptr : Addr) {change : Allocation → Allocation}
    (kept : ∀ a, a.Sound → (change a).Sound) : Cleared (s.rewrite ptr change) :=
  cleared.frame (cleared.all.rewrite ptr kept) (State.rewrite_rest ptr change s).2.2.2.1

theorem allocate {s : State} (cleared : Cleared s) {a : Allocation} (made : a.Sound) :
    Cleared (s.allocate a).2 :=
  cleared.frame (cleared.all.allocate made) rfl

theorem tpfree {s : State} (cleared : Cleared s) (ptr : Addr) : Cleared (s.tpfree ptr) :=
  cleared.frame (cleared.all.tpfree (fun _ sound => sound) ptr) (State.tpfree_rest ptr s).2.2.2

theorem setBuffer {s : State} (cleared : Cleared s) (id : BufId) (buffer : TypedBuffer) :
    Cleared (s.setBuffer id buffer) := by
  unfold State.setBuffer
  split
  · exact cleared.apart rfl rfl
  · exact cleared

theorem setWrapper {s : State} (cleared : Cleared s) (id : BufId) (wrapper : Wrapper) :
    Cleared (s.setWrapper id wrapper) := by
  unfold State.setWrapper
  split
  · exact cleared.apart rfl rfl
  · exact cleared

theorem drop {s : State} (cleared : Cleared s) (id : BufId) : Cleared (s.drop id) :=
  (show Cleared (s.forget id) from cleared.apart rfl rfl).tpfree _

theorem answered : Answerable Cleared := fun later cleared =>
  ⟨cleared.all, fun answer member => cleared.allocs answer (later.allocs member),
    fun answer member => cleared.reallocs answer (later.reallocs member)⟩

end Cleared

/-! ## Allocation and growth -/

/-- What `tptypes` reports, when its call does not fail. -/
def State.types (ptr : Addr) (s : State) : Except AtmiError TpTypeInfo :=
  match s.typesOf ptr with
  | some info => .ok info
  | none => .error notABuffer

theorem tptypesOf_none {P : State → Prop} (ptr : Addr) :
    Ends P (tptypesOf none ptr).run fun result s => P s ∧ result = s.types ptr := by
  unfold tptypesOf
  refine Ends.tryBind (F := fun result s => P s ∧ result = .ok s) (Ends.tryGet fun _ holds => ⟨holds, rfl⟩)
    (fun _ _ holds => nomatch holds.2) fun before => ?_
  rintro _ ⟨holds, ⟨⟩⟩
  cases known : before.typesOf ptr with
  | none => exact ⟨holds, by simp only [State.types]; exact (known ▸ rfl)⟩
  | some info => exact ⟨holds, by simp only [State.types]; exact (known ▸ rfl)⟩

/-- Everything is sound but one live allocation, which is `allocation`. -/
structure Pending (ptr : Addr) (allocation : Allocation) (s : State) : Prop where
  there : s.heap.get ptr = some allocation
  live : allocation.live = true
  rest : ∀ addr a, addr ≠ ptr → s.heap.get addr = some a → a.Sound
  allocs : ∀ answer ∈ s.answers.allocs, answer.types = none
  reallocs : ∀ answer ∈ s.answers.reallocs, answer.before = none ∧ answer.after = none

namespace Pending

variable {ptr : Addr} {allocation : Allocation} {s : State}

theorem types (pending : Pending ptr allocation s) : s.types ptr = .ok allocation.info := by
  simp [State.types, State.typesOf, pending.there, pending.live]

theorem sound (pending : Pending ptr allocation s) (sound : allocation.Sound) : Cleared s where
  all addr a found := by
    by_cases same : addr = ptr
    · subst same
      rw [pending.there] at found
      exact Option.some.inj found ▸ sound
    · exact pending.rest addr a same found
  allocs := pending.allocs
  reallocs := pending.reallocs

/-- The allocation rewritten soundly. -/
theorem rewrite (pending : Pending ptr allocation s) {change : Allocation → Allocation}
    (sound : (change allocation).Sound) : Cleared (s.rewrite ptr change) where
  all addr a found := by
    rw [State.get_rewrite, pending.there] at found
    split at found
    · exact Option.some.inj found ▸ sound
    · rename_i other
      exact pending.rest addr a other found
  allocs := (State.rewrite_rest ptr change s).2.2.2.1 ▸ pending.allocs
  reallocs := (State.rewrite_rest ptr change s).2.2.2.1 ▸ pending.reallocs

end Pending

theorem Cleared.pending {s : State} (cleared : Cleared s) {allocation : Allocation}
    (live : allocation.live = true) : Pending s.next allocation (s.allocate allocation).2 where
  there := by simp [State.allocate]
  live := live
  rest addr a other found := by
    simp only [State.allocate, Table.get_set, if_neg other] at found
    exact cleared.all addr a found
  allocs := cleared.allocs
  reallocs := cleared.reallocs

/-- What `tprealloc` leaves when the native call succeeds. -/
theorem Cleared.reallocate {s : State} (cleared : Cleared s) {ptr ptr' : Addr} {size : Nat} {moves : Bool}
    (done : (s.reallocate ptr size moves).1 = some ptr') :
    ∃ a : Allocation, a.Sound ∧ s.types ptr = .ok a.info ∧
      Pending ptr' (a.resize size) (s.reallocate ptr size moves).2 := by
  unfold State.reallocate at done ⊢
  cases found : s.heap.get ptr with
  | none => simp [found] at done
  | some a =>
      simp only [found] at done ⊢
      by_cases live : a.live = true
      · refine ⟨a, cleared.all ptr a found, by simp [State.types, State.typesOf, found, live], ?_⟩
        cases moves with
        | true =>
            simp only [live, if_true] at done ⊢
            cases done
            have buried : Cleared (s.bury ptr).2 := cleared.frame (fun addr b there => by
              rw [State.get_bury] at there
              split at there
              · obtain ⟨before, known, rfl⟩ := Option.map_eq_some_iff.1 there
                exact cleared.all ptr before known
              · exact cleared.all addr b there) (State.bury_rest ptr s).2.2.2
            exact buried.pending live
        | false =>
            simp only [live, if_true] at done ⊢
            cases done
            exact
              { there := by simp
                live := live
                rest := fun addr b other there => cleared.all addr b (by simpa [other] using there)
                allocs := cleared.allocs
                reallocs := cleared.reallocs }
      · simp [live] at done

/-- What native reallocation ends in: with the buffer it made, not yet cleared. -/
def Grown (before : Except AtmiError TpTypeInfo) (size : Nat) (moved : Option Addr) (s : State) : Prop :=
  match moved with
  | none => Cleared s
  | some ptr => ∃ a : Allocation, a.Sound ∧ before = .ok a.info ∧ Pending ptr (a.resize size) s

theorem Cleared.grown {s : State} (cleared : Cleared s) {ptr : Addr} {size : Nat} {moves : Bool}
    {before : Except AtmiError TpTypeInfo} (known : before = s.types ptr) :
    Grown before size (s.reallocate ptr size moves).1 (s.reallocate ptr size moves).2 := by
  cases done : (s.reallocate ptr size moves).1 with
  | none => exact (State.reallocate_none done).symm ▸ cleared
  | some ptr' =>
      obtain ⟨a, sound, types, pending⟩ := cleared.reallocate done
      exact ⟨a, sound, known.trans types, pending⟩

/-- Growth is cleared when both types are known. -/
theorem clearGrowth_ends {ptr : Addr} {a : Allocation} {size : Nat} (sound : a.Sound) :
    Ends (Pending ptr (a.resize size))
      (clearGrowth ptr (.ok a.info) (.ok (a.resize size).info)).run
      fun _ => Cleared := by
  unfold clearGrowth
  refine Ends.runIf (fun grows => Ends.tryModify fun s pending => pending.rewrite ⟨sound.1, fun carray => ?_⟩)
    fun s shrinks pending => pending.sound ⟨sound.1, fun carray => ?_⟩
  · exact none_grown (sound.2 carray) (by simpa [Allocation.info, Allocation.resize] using grows.2)
  · refine none_shrunk (sound.2 carray) (Nat.le_of_not_lt fun grows => shrinks ⟨carray, ?_⟩)
    simpa [Allocation.info, Allocation.resize] using grows

theorem tprealloc_cleared (id : BufId) (newSize : Nat) : Keeps Cleared (tprealloc id newSize).run := by
  unfold tprealloc
  refine Keeps.tryBind Keeps.tryGet fun s₀ => ?_
  refine Ends.tryBind (F := fun (answer : Except AtmiError ReallocAnswer) s =>
      Cleared s ∧ ∀ a, answer = .ok a → a.before = none ∧ a.after = none)
    (Ends.lift ((next_ends Cleared.answered Queue.reallocs_shrinks ⟨rfl, rfl⟩
      fun s cleared => cleared.reallocs).mono (fun _ holds => holds)
        fun _ _ holds => ⟨holds.1, fun _ same => Except.ok.inj same ▸ holds.2⟩))
    (fun _ _ holds => holds.1) fun answer => ?_
  refine (Ends.ofFact (P := Cleared) fun known => ?_).mono (fun _ holds => ⟨holds.1, holds.2 answer rfl⟩)
    fun _ _ holds => holds
  rw [known.1, known.2]
  refine Ends.tryOutcome (tptypesOf_none _) fun before => ?_
  refine Ends.tryBind Keeps.throwIf (fun _ _ holds => holds.1) fun _ => ?_
  refine Ends.tryBind (refuseShrink_keeps _ _ _) (fun _ _ holds => holds.1) fun _ => ?_
  split
  · exact Ends.throw fun _ holds => holds.1
  · rename_i more moves _
    refine Ends.tryBind (F := fun moved s => ∃ ptr', moved = .ok ptr' ∧ Grown before (newSize + more) ptr' s)
      (Ends.tryModifyGet fun s holds => ⟨_, rfl, holds.1.grown holds.2⟩)
      (fun _ _ ⟨_, impossible, _⟩ => nomatch impossible) fun moved => ?_
    refine Ends.mono (B := Grown before (newSize + more) moved) ?_
      (fun s ⟨_, same, grown⟩ => Except.ok.inj same ▸ grown) fun _ _ cleared => cleared
    cases moved with
    | none => exact Ends.throw fun _ cleared => cleared
    | some ptr =>
        refine Ends.ofExists fun a => Ends.ofThen fun sound => Ends.ofThen fun same => ?_
        subst same
        refine Ends.tryOutcome (tptypesOf_none ptr) fun grown => ?_
        refine Ends.mono (B := fun s => Pending ptr (a.resize (newSize + more)) s ∧
            grown = .ok (a.resize (newSize + more)).info) (Ends.ofFact fun same => ?_)
          (fun s holds => ⟨holds.1, holds.2.trans holds.1.types⟩) fun _ _ cleared => cleared
        subst same
        exact Ends.tryBind (clearGrowth_ends sound) (fun _ _ cleared => cleared) fun _ =>
          Ends.tryModify fun _ cleared => cleared.setBuffer id _

/-- An answer to `tpalloc`, when the type of what it makes is known. -/
theorem nextAlloc_known : Ends Cleared nextAlloc fun answer s => Cleared s ∧ answer.types = none :=
  next_ends Cleared.answered Queue.allocs_shrinks rfl fun _ cleared => cleared.allocs

/-- A new allocation, whose bytes nobody has written. -/
def fresh (type_ subtype : String) (size : Nat) : Allocation where
  typeName := bufferType type_
  subtype := subtype
  bytes := List.replicate size none

theorem allocNative_ends (type_ subtype : String) (size : Nat) (answer : AllocAnswer) :
    Ends Cleared (allocNative type_ subtype size answer).run fun result s => match result with
      | .error _ => Cleared s
      | .ok ptr => ∃ more, Pending ptr (fresh type_ subtype (size + more)) s := by
  unfold allocNative
  split
  · exact Ends.throw fun _ cleared => cleared
  · rename_i more _
    exact Ends.tryModifyGet fun s cleared => ⟨more, cleared.pending rfl⟩

theorem clearAll_ends {ptr : Addr} {type_ subtype : String} {size : Nat} :
    Ends (Pending ptr (fresh type_ subtype size)) (clearAll ptr (.ok (fresh type_ subtype size).info)).run
      fun _ => Cleared := by
  unfold clearAll
  refine Ends.runIf (fun _ => Ends.tryModify fun s pending => pending.rewrite
      ⟨bufferType_ne type_, fun _ => none_cleared _⟩)
    fun s unneeded pending => pending.sound ⟨bufferType_ne type_, fun carray => ?_⟩
  -- a CARRAY of no bytes
  have empty : size = 0 := Nat.eq_zero_of_not_pos fun positive =>
    unneeded ⟨carray, by simpa [fresh, Allocation.info] using positive⟩
  simp [fresh, empty]

/-- **A new buffer is cleared**, whatever it was asked for. -/
theorem tpalloc_cleared (type_ subtype : String) (size : Nat) :
    Keeps Cleared (tpalloc type_ subtype size).run := by
  unfold tpalloc
  refine Keeps.tryBind Keeps.throwIf fun _ => Keeps.tryBind Keeps.throwIf fun _ => ?_
  refine Keeps.tryBind Keeps.throwIf fun _ => ?_
  refine Ends.tryBind (F := fun (answer : Except AtmiError AllocAnswer) s =>
      Cleared s ∧ ∀ a, answer = .ok a → a.types = none)
    (Ends.lift (nextAlloc_known.mono (fun _ holds => holds)
      fun _ _ holds => ⟨holds.1, fun _ same => Except.ok.inj same ▸ holds.2⟩))
    (fun _ _ holds => holds.1) fun answer => ?_
  refine (Ends.ofFact (P := Cleared) fun known => ?_).mono (fun _ holds => ⟨holds.1, holds.2 answer rfl⟩)
    fun _ _ holds => holds
  rw [known]
  refine Ends.tryBind (allocNative_ends type_ subtype size answer) (fun _ _ cleared => cleared) fun ptr => ?_
  refine Ends.ofExists fun more => Ends.tryOutcome (tptypesOf_none ptr) fun types => ?_
  refine Ends.mono (B := fun s => Pending ptr (fresh type_ subtype (size + more)) s ∧
      types = .ok (fresh type_ subtype (size + more)).info) (Ends.ofFact fun same => ?_)
    (fun s holds => ⟨holds.1, holds.2.trans holds.1.types⟩) fun _ _ cleared => cleared
  subst same
  exact Ends.tryBind clearAll_ends (fun _ _ cleared => cleared) fun _ =>
    Ends.tryModifyGet fun _ cleared => cleared.apart rfl rfl

theorem tpallocUbf_cleared (size : Nat) : Keeps Cleared (tpallocUbf size).run := by
  unfold tpallocUbf
  refine Keeps.tryBind Keeps.throwIf fun _ => ?_
  refine Keeps.tryBind (Keeps.lift (next_keeps Cleared.answered Queue.allocs_shrinks)) fun answer => ?_
  refine Ends.tryBind (allocNative_ends "UBF" "" size answer) (fun _ _ cleared => cleared) fun ptr => ?_
  refine Ends.tryModifyGet fun s ⟨more, pending⟩ => ?_
  have ubf : bufferType "UBF" = "UBF" := by decide
  have cleared := pending.sound ⟨bufferType_ne "UBF", fun carray => absurd (ubf.symm.trans carray) (by decide)⟩
  exact cleared.apart rfl rfl

/-! ## Cloning -/

theorem hasType_answered (ptr : Addr) (typeName : String) : Answerable fun s => s.HasType ptr typeName :=
  fun _ known => known

/-- A new buffer has the type asked for, and leaves alone one that has it already. -/
theorem tpalloc_typed (type_ subtype : String) (size : Nat) (source : Addr) :
    Ends (fun s => s.HasType source (bufferType type_)) (tpalloc type_ subtype size).run fun result s =>
      s.HasType source (bufferType type_) ∧ ∀ id, result = .ok id →
        s.HasType (s.buffer id).ptr (bufferType type_) := by
  have failed : ∀ (e : AtmiError) (s : State), s.HasType source (bufferType type_) →
      s.HasType source (bufferType type_) ∧ ∀ id, (Except.error e : Except AtmiError BufId) = .ok id →
        s.HasType (s.buffer id).ptr (bufferType type_) :=
    fun _ _ known => ⟨known, fun _ impossible => nomatch impossible⟩
  unfold tpalloc
  refine Ends.tryBind Keeps.throwIf failed fun _ => Ends.tryBind Keeps.throwIf failed fun _ => ?_
  refine Ends.tryBind Keeps.throwIf failed fun _ => ?_
  refine Ends.tryBind (Keeps.lift (next_keeps (hasType_answered source _) Queue.allocs_shrinks)) failed fun answer => ?_
  refine Ends.tryBind (F := fun result s => s.HasType source (bufferType type_) ∧
      ∀ ptr, result = .ok ptr → s.HasType ptr (bufferType type_)) ?_
    (fun e s holds => failed e s holds.1) fun ptr => ?_
  · unfold allocNative
    split
    · exact Ends.throw fun _ known => ⟨known, fun _ impossible => nomatch impossible⟩
    · refine Ends.tryModifyGet fun s known => ⟨known.allocate fun _ => rfl, fun _ same => ?_⟩
      exact Except.ok.inj same ▸ State.hasType_allocate _ s
  · refine Ends.mono (B := fun s => s.HasType source (bufferType type_) ∧ s.HasType ptr (bufferType type_)) ?_
      (fun s holds => ⟨holds.1, holds.2 ptr rfl⟩) fun _ _ holds => holds
    refine Ends.tryOutcome ((tptypesOf_ends answer.types ptr).mono (fun _ holds => holds)
      fun _ _ holds => holds.1) fun types => ?_
    refine Ends.tryBind (F := fun _ s => s.HasType source (bufferType type_) ∧ s.HasType ptr (bufferType type_))
      ?_ (fun e s holds => failed e s holds.1) fun _ => ?_
    · unfold clearAll
      split
      · exact Keeps.runIf fun _ => Keeps.tryModify fun s holds =>
          ⟨holds.1.rewrite ptr fun _ => rfl, holds.2.rewrite ptr fun _ => rfl⟩
      · exact Keeps.tryPure
    · refine Ends.tryModifyGet fun s holds => ⟨holds.1, fun id same => ?_⟩
      cases same
      simpa [State.own, State.buffer, State.HasType] using holds.2

/-- A copy of the same type is as sound as what it copies. -/
theorem Cleared.copyMemory {s : State} (cleared : Cleared s) {source copy : Addr} {typeName : String}
    (from_ : s.HasType source typeName) (into : s.HasType copy typeName) (size : Nat) :
    Cleared (copyMemory source copy size s) := by
  obtain ⟨a, found, same⟩ := from_
  obtain ⟨b, there, same'⟩ := into
  unfold Typed.copyMemory
  simp only [found]
  refine cleared.frame (fun addr c known => ?_) (State.rewrite_rest copy _ s).2.2.2.1
  rw [State.get_rewrite, there] at known
  split at known
  · cases known
    refine ⟨(cleared.all copy b there).1, fun carray => none_copied (fun member => ?_)
      ((cleared.all copy b there).2 carray)⟩
    exact (cleared.all source a found).2 (same.trans (same'.symm.trans carray)) (List.mem_of_mem_take member)
  · exact cleared.all addr c known

theorem clonePlain_cleared (source : Addr) (info : TpTypeInfo) :
    Ends (fun s => Cleared s ∧ s.typesOf source = some info) (clonePlain source info).run fun _ => Cleared := by
  -- the source keeps its type, and the copy has it too
  let Q : State → Prop := fun s => Cleared s ∧ s.HasType source (bufferType info.typeName)
  have start : ∀ s, Cleared s ∧ s.typesOf source = some info → Q s := by
    rintro s ⟨cleared, known⟩
    obtain ⟨a, found, _, rfl⟩ := State.typesOf_some known
    exact ⟨cleared, a, found, (bufferType_of_ne (cleared.all source a found).1).symm⟩
  refine Ends.mono (B := Q) ?_ start fun _ _ cleared => cleared
  unfold clonePlain
  refine Ends.tryBind (cloneSize_keeps info) (fun _ _ holds => holds.1) fun size => ?_
  refine Ends.tryBind Keeps.throwIf (fun _ _ holds => holds.1) fun _ => ?_
  have made : Ends Q (tpalloc info.typeName info.subtype size).run fun result s =>
      Q s ∧ ∀ copy, result = .ok copy → s.HasType (s.buffer copy).ptr (bufferType info.typeName) :=
    (Ends.and ((tpalloc_cleared _ _ _).mono (fun _ holds => holds.1) fun _ _ holds => holds)
      ((tpalloc_typed _ _ _ source).mono (fun _ holds => holds.2) fun _ _ holds => holds)).mono
      (fun _ holds => holds) fun _ _ holds => ⟨⟨holds.1, holds.2.1⟩, holds.2.2⟩
  refine Ends.tryBind (allocating_ends made) (fun _ _ holds => holds.1.1) fun copy => ?_
  refine Ends.mono (B := fun s => Q s ∧ s.HasType (s.buffer copy).ptr (bufferType info.typeName)) ?_
    (fun _ holds => ⟨holds.1, holds.2 copy rfl⟩) fun _ _ cleared => cleared
  refine Ends.tryBind (F := fun _ => Cleared) (orDrop_always ?_ fun s cleared => cleared.drop copy)
    (fun _ _ cleared => cleared) fun _ => Ends.tryPure fun _ cleared => cleared
  refine Ends.tryRead fun now => ?_
  refine Ends.mono (B := fun s => Q s ∧ s.HasType (now.buffer copy).ptr (bufferType info.typeName)) ?_
    (fun s ⟨holds, same⟩ => same ▸ holds) fun _ _ cleared => cleared
  have kept : Answerable fun s => Q s ∧ s.HasType (now.buffer copy).ptr (bufferType info.typeName) :=
    fun later holds => ⟨⟨Cleared.answered later holds.1.1, holds.1.2⟩, holds.2⟩
  refine Ends.tryBind (allocating_keeps (tptypes_keeps kept _)) (fun _ _ holds => holds.1.1) fun made => ?_
  refine Ends.tryBind Keeps.throwIf (fun _ _ holds => holds.1.1) fun _ => ?_
  exact Ends.tryModify fun s holds => holds.1.1.copyMemory holds.1.2 holds.2 size

/-! ## What a program writes -/

theorem none_written {bytes : List Byte} (write : Nat → Option UInt8) (len : Nat) (written : none ∉ bytes) :
    none ∉ bytes.mapIdx fun i byte => if i < len then (write i <|> byte) else byte := by
  intro member
  obtain ⟨i, inside, same⟩ := List.mem_mapIdx.1 member
  have there : bytes[i] ∈ bytes := List.getElem_mem inside
  cases here : bytes[i] with
  | none => exact written (here ▸ there)
  | some byte =>
      rw [here] at same
      split at same
      · cases chosen : write i <;> simp [chosen] at same
      · cases same

theorem cleared_steady : Steady False fun _ => Cleared where
  inside := nofun
  rebase cleared := cleared
  lower _ cleared := cleared
  answered _ := Cleared.answered
  fields _ _ _ cleared := cleared.rewrite _ fun _ sound => sound
  freed ptr cleared := cleared.tpfree ptr
  forgotten _ cleared := cleared.apart rfl rfl
  owned _ _ cleared := cleared.apart rfl rfl
  unwrapped id cleared := cleared.setWrapper id .typed
  dumped _ cleared := cleared.apart rfl rfl
  tprealloc _ := tprealloc_cleared
  tpallocUbf _ := tpallocUbf_cleared
  tpalloc _ := tpalloc_cleared
  copied ptr bytes cleared := cleared.rewrite ptr fun _ sound =>
    ⟨sound.1, fun carray => none_copied (by simp) (sound.2 carray)⟩
  masked ptr len write cleared := cleared.rewrite ptr fun _ sound =>
    ⟨sound.1, fun carray => none_written write len (sound.2 carray)⟩
  measured id _ cleared := cleared.setBuffer id _
  clonePlain _ := clonePlain_cleared

/-! ## What is received -/

/-- A CARRAY received in an allocation no larger. -/
def Part.Full (part : Part) : Prop := bufferType part.typeName = "CARRAY" → part.spare = 0

def Message.Full (message : Message) : Prop := message.root.Full ∧ ∀ part ∈ message.parts, part.Full

/-- A message leaves no room behind it in a CARRAY that was not there before. -/
def Install.Fills (ptr : Addr) (s : State) : Install → Prop
  | .untouched _ | .null => True
  | .inPlace message _ =>
      (∀ part ∈ message.parts, part.Full) ∧ ∀ info ∈ s.typesOf ptr, info.typeName = "CARRAY" →
        message.root.payload.length + message.root.spare ≤ max info.size message.root.payload.length
  | .replaced message => message.Full

theorem Part.sound {part : Part} (full : part.Full) (base : Addr) : (part.allocation base).Sound :=
  ⟨bufferType_ne _, fun carray => by
    have none_spare : part.spare = 0 := full carray
    simp [Part.allocation, none_spare]⟩

theorem Cleared.allocateParts {base : Addr} :
    ∀ {parts : List Part} {s : State}, Cleared s → (∀ part ∈ parts, part.Full) →
      Cleared (s.allocateParts base parts)
  | [], _, cleared, _ => cleared
  | part :: _, _, cleared, full =>
      (cleared.allocate (Part.sound (full part List.mem_cons_self) base)).allocateParts
        fun other member => full other (List.mem_cons_of_mem part member)

theorem Cleared.allocateMessage {s : State} (cleared : Cleared s) {message : Message} (full : message.Full) :
    Cleared (s.allocateMessage message).2 :=
  (cleared.allocate (Part.sound full.1 s.next)).allocateParts full.2

/-- A message that fills the allocation it made larger. -/
theorem none_received {payload : List UInt8} {bytes : List Byte} {spare : Nat} (written : none ∉ bytes)
    (fills : payload.length + spare ≤ max bytes.length payload.length) :
    none ∉ copied (payload.map some)
      (bytes ++ List.replicate (payload.length + spare - bytes.length) none) := by
  intro member
  rcases List.mem_append.1 (List.mem_of_mem_take member) with inside | beyond
  · simp at inside
  · by_cases longer : bytes.length < payload.length
    · rw [List.drop_of_length_le (by simp; omega)] at beyond
      cases beyond
    · rw [Nat.sub_eq_zero_of_le (by omega), List.replicate_zero, List.append_nil] at beyond
      exact written (List.mem_of_mem_drop beyond)

theorem Cleared.install {s : State} (cleared : Cleared s) {ptr : Addr} {install : Install}
    (fills : install.Fills ptr s) : Cleared (s.install ptr install).2 := by
  cases install with
  | untouched olen => exact cleared
  | null => exact cleared.tpfree ptr
  | replaced message => exact (cleared.tpfree ptr).allocateMessage fills
  | inPlace message moves =>
      unfold State.install
      cases known : s.typesOf ptr with
      | none => exact cleared
      | some info =>
          have live : ∃ ptr', (s.reallocate ptr info.size moves).1 = some ptr' := by
            obtain ⟨a, found, alive, _⟩ := State.typesOf_some known
            cases moves <;> exact ⟨_, by simp [State.reallocate, found, alive]; rfl⟩
          obtain ⟨ptr', done⟩ := live
          obtain ⟨a, sound, types, pending⟩ := cleared.reallocate done
          have same : info = a.info := by simpa [State.types, known] using types
          subst same
          simp only [done, Option.getD_some, State.overwrite]
          refine Cleared.allocateParts (pending.rewrite ⟨sound.1, fun carray => ?_⟩) fills.1
          refine none_received (none_shrunk (sound.2 carray) (Nat.le_refl _)) ?_
          simpa [Allocation.resize, Allocation.info] using fills.2 a.info known carray

theorem adopt_cleared (id : BufId) (install : Install) :
    Ends (fun s => Cleared s ∧ install.Fills (s.buffer id).ptr s) (adopt id install) fun _ => Cleared :=
  Ends.ofModify fun _ ⟨cleared, fills⟩ => (cleared.install fills).setBuffer id _

theorem tpcall_cleared (svc : String) (odata : BufId) (reply : Reply) :
    Ends (fun s => Cleared s ∧ (containsNul svc = false → reply.install.Fills (s.buffer odata).ptr s))
      (tpcall svc odata reply).run fun _ => Cleared := by
  refine Ends.tryBind (F := fun result s => Cleared s ∧ (result = .ok ⟨⟩ →
      reply.install.Fills (s.buffer odata).ptr s)) (Ends.throwIf ?_ ?_) (fun _ _ holds => holds.1) fun _ => ?_
  · exact fun s _ holds => ⟨holds.1, fun impossible => nomatch impossible⟩
  · exact fun s named holds => ⟨holds.1, fun _ => holds.2 (Bool.eq_false_iff.2 named)⟩
  · refine Ends.tryBind (F := fun _ => Cleared) (Ends.lift ((adopt_cleared odata reply.install).mono
      (fun _ holds => ⟨holds.1, holds.2 rfl⟩) fun _ _ cleared => cleared)) (fun _ _ cleared => cleared) fun _ => ?_
    exact Keeps.throwIf

theorem tpgetrply_cleared (data : BufId) (cd : Int) (reply : Reply) :
    Ends (fun s => Cleared s ∧ reply.install.Fills (s.buffer data).ptr s) (tpgetrply data cd reply)
      fun _ => Cleared :=
  Ends.bind (adopt_cleared data reply.install) fun _ => Keeps.pure

theorem tpimport_cleared {received : Except AtmiError Message}
    (full : ∀ message, received = .ok message → message.Full) : Keeps Cleared (tpimport received).run := by
  unfold tpimport
  cases received with
  | error e => exact Keeps.throw
  | ok message =>
      exact Keeps.tryModifyGet fun s cleared => (cleared.allocateMessage (full message rfl)).apart rfl rfl

/-! ## Runs -/

/-- The native layer says what type it allocated, and a message it delivers fills what it is in. -/
def Fills (s : State) (label : Label) : Prop :=
  (∀ answer ∈ label.answers.allocs, answer.types = none) ∧
  (∀ answer ∈ label.answers.reallocs, answer.before = none ∧ answer.after = none) ∧
  match label.op with
  | .tpcall svc id reply => containsNul svc = false → reply.install.Fills (s.buffer id).ptr s
  | .tpgetrply id _ reply => reply.install.Fills (s.buffer id).ptr s
  | .tpimport received => ∀ message, received = .ok message → message.Full
  | _ => True

theorem Cleared.step {s : State} {label : Label} (fills : Fills s label) (cleared : Cleared s) :
    Cleared (s.step label) := by
  unfold State.step
  split
  · obtain ⟨op, answers⟩ := label
    obtain ⟨allocs, reallocs, filled⟩ := fills
    have asked : Cleared { s with answers } := ⟨cleared.all, allocs, reallocs⟩
    generalize asking : ({ s with answers } : State) = now at asked ⊢
    cases op with
    | tpimport received => exact tpimport_cleared filled now asked
    | tpcall svc id reply => subst asking; exact tpcall_cleared svc id reply _ ⟨asked, filled⟩
    | tpgetrply id cd reply => subst asking; exact tpgetrply_cleared id cd reply _ ⟨asked, filled⟩
    | fromTyped id =>
        exact fromTyped_keeps Cleared.answered id (fun _ _ cleared _ _ => cleared.setWrapper id .ubf)
          (fun _ cleared => cleared.drop id) now asked
    | editUbf id =>
        exact editUbf_keeps Cleared.answered id (fun _ _ cleared _ _ => cleared.setWrapper id .ubf)
          (fun _ cleared => cleared.drop id) now asked
    | assign dst src =>
        have forgotten : Cleared (now.forget src) := asked.apart rfl rfl
        exact (forgotten.tpfree _).setBuffer dst _
    | swap a b => exact (asked.setBuffer a _).setBuffer b _
    | _ => exact cleared_steady.run (n := 0) rfl asked
  · exact cleared

theorem Cleared.init : Cleared {} where
  all _ _ found := by simp at found
  allocs _ member := nomatch member
  reallocs _ member := nomatch member

/-- What `as_bytes` reads once `set_len` was called with `len`, and what native calls answer in both. -/
def State.published (id : BufId) (len : Nat) (first second : Answers) (s : State) : List Byte :=
  ((asBytes id).run { ({ s with answers := first }.after (setLen id len)) with answers := second }).1

/-- Every byte of a CARRAY is written; no length publishes another, or one past its end. -/
def State.Initialised (s : State) : Prop :=
  ∀ id place allocation, s.bufs.get id = some place → s.heap.get place.buffer.ptr = some allocation →
    allocation.typeName = "CARRAY" →
      none ∉ allocation.bytes ∧
        ∀ len first second, none ∉ s.published id len first second ∧
          (s.published id len first second).length ≤ allocation.bytes.length

/-- `as_bytes` reads the beginning of the allocation. -/
theorem asBytes_prefix {id : BufId} {s : State} {allocation : Allocation}
    (found : s.heap.get (s.buffer id).ptr = some allocation) :
    ∃ n, ((asBytes id).run s).1 = allocation.bytes.take n := by
  have ends : Ends (fun now => now = s) (asBytes id) fun bytes _ => ∃ n, bytes = allocation.bytes.take n := by
    unfold asBytes
    refine Ends.bind (Q := fun now _ => now = s) (Ends.ofGet fun _ same => same) fun now => ?_
    refine Ends.ofOnly fun same => Ends.bind Ends.anyhow fun size => Ends.pure fun _ _ => ?_
    exact ⟨_, by rw [same, found]⟩
  exact ends s rfl

theorem buffer_setBuffer (id other : BufId) (buffer : TypedBuffer) (s : State) :
    (s.setBuffer id buffer).buffer other =
      if other = id ∧ s.has id then buffer else s.buffer other := by
  unfold State.setBuffer State.buffer State.has
  cases found : s.bufs.get id with
  | none => simp
  | some place =>
      by_cases same : other = id
      · simp [same]
      · simp [same]

/-- `set_len` leaves the allocation of a value as it is. -/
theorem setLen_same (id : BufId) (len : Nat) (s : State) :
    (s.after (setLen id len)).heap = s.heap ∧ ((s.after (setLen id len)).buffer id).ptr = (s.buffer id).ptr := by
  have answered : Answerable fun now => now.heap = s.heap ∧ (now.buffer id).ptr = (s.buffer id).ptr :=
    fun _ same => same
  have keeps : Keeps (fun now => now.heap = s.heap ∧ (now.buffer id).ptr = (s.buffer id).ptr)
      (setLen id len).run := by
    refine Keeps.tryBind (requireCarray_keeps answered _ id) fun _ => Keeps.tryBind Keeps.throwIf fun _ => ?_
    refine Keeps.tryModify fun now same => ⟨?_, ?_⟩
    · rw [← same.1]
      unfold State.setBuffer
      split <;> rfl
    · rw [buffer_setBuffer, ← same.2]
      split <;> rfl
  exact keeps s ⟨rfl, rfl⟩

theorem Cleared.initialised {s : State} (cleared : Cleared s) : s.Initialised := by
  intro id place allocation owned found carray
  have written := (cleared.all _ allocation found).2 carray
  refine ⟨written, fun len first second => ?_⟩
  obtain ⟨heap, ptr⟩ := setLen_same id len { s with answers := first }
  have there : (({ s with answers := first } : State).buffer id).ptr = place.buffer.ptr := by
    simp [State.buffer, owned]
  have still : (({ s with answers := first } : State).after (setLen id len)).heap.get
      ((({ s with answers := first } : State).after (setLen id len)).buffer id).ptr = some allocation := by
    rw [heap, ptr, there]
    exact found
  have reading : ({ ({ s with answers := first } : State).after (setLen id len) with answers := second } :
      State).heap.get (({ ({ s with answers := first } : State).after (setLen id len) with
        answers := second } : State).buffer id).ptr = some allocation := still
  obtain ⟨n, read⟩ := asBytes_prefix reading
  rw [State.published, read]
  exact ⟨fun member => written (List.mem_of_mem_take member), List.length_take_le' n _⟩

/-- **Initialised CARRAY bytes**: when every message fills the allocation it is received into, no
sequence of safe operations publishes a byte nobody has written, or one past an allocation's end. -/
theorem carray_initialised (labels : List Label) (fills : program.Along Fills labels) :
    (program.run labels).Initialised :=
  (Machine.invariantAlong (M := program) Cleared.init (fun _ _ fills cleared => cleared.step fills)
    labels fills).initialised

/-- A CARRAY, and a reply of one byte in an allocation with `spare` more. -/
def oneByteReply (spare : Nat) : List Label :=
  [{ op := .tpalloc "CARRAY" "" 8 },
    { op := .tpcall "SVC" 0
        { ok := true, install := .replaced ⟨{ typeName := "CARRAY", payload := [1], spare }, []⟩ } }]

theorem oneByteReply_initialised : (program.run (oneByteReply 0)).Initialised :=
  carray_initialised (oneByteReply 0)
    ⟨⟨nofun, nofun, trivial⟩, ⟨nofun, nofun, fun _ => ⟨fun _ => rfl, nofun⟩⟩, trivial⟩

/-- `set_len(16)` is accepted and `as_bytes` reads fifteen bytes nobody has written. -/
theorem oneByteReply_publishes : ¬ ∀ labels : List Label, (program.run labels).Initialised := by
  intro all
  have owned : (program.run (oneByteReply 15)).bufs.get 0 = some ⟨⟨2, 1⟩, .typed⟩ := by decide +kernel
  have type : ((program.run (oneByteReply 15)).heap.get 2).map (·.typeName) = some "CARRAY" := by decide +kernel
  have read : none ∈ (program.run (oneByteReply 15)).published 0 16 {} {} := by decide +kernel
  obtain ⟨allocation, found, carray⟩ := Option.map_eq_some_iff.1 type
  exact ((all (oneByteReply 15) 0 _ allocation owned found carray).2 16 {} {}).1 read

end Endurox.Typed
