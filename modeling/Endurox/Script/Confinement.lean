/-
# Script.Confinement -- a collection holds allocations of its own context

`set` refuses a buffer of another context and `tpscrexec` a collection of another.  A
closure passed to `edit` may leave any buffer behind the reference it is given, and the
write-back does not look at its context.  `Home` is the invariant: what the slots and
the program's variables name is of the context they say.  A pointer that was freed is
no allocation, so `Of` speaks of a pointer as long as it is live.
-/
import Endurox.Script.Links

namespace Endurox.Script

open Endurox.Theory

set_option autoImplicit false

/-- Every allocation a slot holds is of the context. -/
def Confined (ctx : CtxId) (s : State) : Prop := ∀ p ∈ s.inSlots, ∀ c, s.live.get p = some c → c = ctx

/-- What the closure leaves behind its reference, when there was a buffer to take. -/
def leaves (acts : List EditAct) : TpScrResult (Option TypedBuffer) × State → Option TypedBuffer
  | (.ok (some buffer), taken) => some (State.runEdit acts buffer taken).1
  | _ => none

namespace State

/-- The buffer the closure of an edit leaves behind its reference. -/
def edited (s : State) : Label → Option TypedBuffer
  | .edit slot answer acts _ => leaves acts (s.take slot answer)
  | .editUbf slot answer acts _ =>
      match s.get slot answer.get, answer.kind, answer.typed with
      | .ok (some _), .ok kind, .ok () => if kind = "UBF" then leaves acts (s.take slot answer.take) else none
      | _, _, _ => none
  | _ => none

/-- A closure leaves no buffer of another context. -/
def leavesHome (s : State) (label : Label) : Bool :=
  !s.alive || (s.edited label).all fun left => left.ptr = 0 || left.ctx = s.slots.ctx

/-! ## Whose a pointer is -/

/-- The pointer was handed out, and while it is live it is the context's. -/
def Of (p : Ptr) (c : CtxId) (s : State) : Prop :=
  p ≠ 0 → p < s.nextPtr ∧ ∀ c', s.live.get p = some c' → c' = c

/-- What the allocator does, seen from the pointers handed out before: some are freed. -/
structure Later (s s' : State) : Prop where
  next : s.nextPtr ≤ s'.nextPtr
  kept : ∀ p c, p < s.nextPtr → s'.live.get p = some c → s.live.get p = some c

theorem Later.refl (s : State) : Later s s := ⟨Nat.le_refl _, fun _ _ _ found => found⟩

theorem Later.trans {s s' s'' : State} (first : Later s s') (second : Later s' s'') : Later s s'' where
  next := Nat.le_trans first.next second.next
  kept p c old found := first.kept p c old (second.kept p c (Nat.lt_of_lt_of_le old first.next) found)

theorem Of.later {p : Ptr} {c : CtxId} {s s' : State} (of : Of p c s) (later : Later s s') : Of p c s' := by
  intro present
  obtain ⟨old, own⟩ := of present
  exact ⟨Nat.lt_of_lt_of_le old later.next, fun c' found => own c' (later.kept p c' old found)⟩

theorem of_null (c : CtxId) (s : State) : Of 0 c s := fun present => absurd rfl present

theorem later_tpfree (p : Ptr) (s : State) : Later s (s.tpfree p) := by
  unfold tpfree
  split
  · exact .refl s
  · refine ⟨Nat.le_refl _, fun q c _ found => ?_⟩
    rw [Table.get_del] at found
    split at found
    · cases found
    · exact found

theorem later_tpalloc (ctx : CtxId) (s : State) : Later s (s.tpalloc ctx).2 where
  next := Nat.le_succ _
  kept p c old found := by
    rw [tpalloc, Table.get_set, if_neg (Nat.ne_of_lt old)] at found
    exact found

theorem of_tpalloc (ctx : CtxId) (s : State) : Of (s.tpalloc ctx).1 ctx (s.tpalloc ctx).2 := by
  refine fun _ => ⟨Nat.lt_succ_self _, fun c found => ?_⟩
  rw [tpalloc, Table.get_set, if_pos rfl] at found
  exact (Option.some.inj found).symm

theorem later_allocFresh : ∀ (n : Nat) (s : State), Later s (s.allocFresh n)
  | 0, s => .refl s
  | n + 1, s => (later_tpalloc s.slots.ctx s).trans (later_allocFresh n (s.tpalloc s.slots.ctx).2)

theorem of_allocFresh : ∀ (n : Nat) (s : State) (k : Nat), k < n →
    Of (s.nextPtr + k) s.slots.ctx (s.allocFresh n)
  | n + 1, s, 0, _ => (of_tpalloc s.slots.ctx s).later (later_allocFresh n (s.tpalloc s.slots.ctx).2)
  | n + 1, s, k + 1, within => by
      have rest := of_allocFresh n (s.tpalloc s.slots.ctx).2 k (Nat.lt_of_succ_lt_succ within)
      have place : (s.tpalloc s.slots.ctx).2.nextPtr + k = s.nextPtr + (k + 1) :=
        Nat.succ_add_eq_add_succ s.nextPtr k
      rw [place] at rest
      exact rest

/-! ## The invariant -/

/-- What the slots and the variables name is of the context they say. -/
structure Home (ctx : CtxId) (s : State) : Prop where
  context : s.slots.ctx = ctx
  slots : ∀ i, Of (s.slots.pointers i) ctx s
  bufs : ∀ id buffer, s.bufs.get id = some buffer → Of buffer.ptr buffer.ctx s

theorem Home.confined {ctx : CtxId} {s : State} (home : Home ctx s) : Confined ctx s := by
  intro p named
  unfold inSlots at named
  split at named
  · obtain ⟨present, i, _, rfl⟩ := mem_slotPtrs.1 named
    exact (home.slots i present).2
  · exact nomatch named

section Steps

variable {ctx : CtxId} {s s' : State}

/-- A later state whose slots name what they did or something of the context. -/
theorem Home.later (home : Home ctx s) (later : Later s s') (same : s'.slots.ctx = s.slots.ctx)
    (slots : ∀ i, (∃ j, s'.slots.pointers i = s.slots.pointers j) ∨ Of (s'.slots.pointers i) ctx s')
    (bufs : ∀ id buffer, s'.bufs.get id = some buffer →
      s.bufs.get id = some buffer ∨ Of buffer.ptr buffer.ctx s') : Home ctx s' where
  context := same.trans home.context
  slots i := by
    rcases slots i with ⟨j, named⟩ | of
    · rw [named]
      exact (home.slots j).later later
    · exact of
  bufs id buffer found := by
    rcases bufs id buffer found with kept | of
    · exact (home.bufs id buffer kept).later later
    · exact of

theorem home_tpfree (p : Ptr) (home : Home ctx s) : Home ctx (s.tpfree p) := by
  refine home.later (later_tpfree p s) (by rw [(tpfree_slots p s).1]) (fun i => .inl ⟨i, ?_⟩)
    fun id buffer found => .inl ?_
  · rw [(tpfree_slots p s).1]
  · unfold tpfree at found
    split at found <;> exact found

theorem home_frees (ps : List Ptr) (home : Home ctx s) :
    Home ctx (ps.foldl (fun s p => s.tpfree p) s) := by
  induction ps generalizing s with
  | nil => exact home
  | cons p ps ih => exact ih (home_tpfree p home)

/-- The slots rewritten and the native ones after them. -/
theorem home_repoint (pointers : TpScrSlot → Ptr) (lengths : TpScrSlot → Int) (home : Home ctx s)
    (slots : ∀ i, Of (pointers i) ctx s) :
    Home ctx (syncNative { s with slots := { s.slots with pointers, lengths } }) := by
  obtain ⟨ptrAt, lenAt, same⟩ := syncNative_frame { s with slots := { s.slots with pointers, lengths } }
  rw [same]
  exact ⟨home.context, slots, home.bufs⟩

theorem home_replace {next : Ptr} (index : TpScrSlot) (length : Int) (home : Home ctx s)
    (own : Of next ctx s) : Home ctx (s.replace index next length) := by
  have moved := home_repoint (fun i => if s.slots.links i = s.slots.links index then next
    else s.slots.pointers i) (fun i => if s.slots.links i = s.slots.links index then length
      else s.slots.lengths i) home fun i => by
    split
    · exact own
    · exact home.slots i
  unfold replace
  simp only
  split
  · exact home_tpfree _ moved
  · exact moved

theorem home_set {buffer : Option TypedBuffer} (slot : TpScrSlot) (home : Home ctx s)
    (own : ∀ b, buffer = some b → Of b.ptr b.ctx s) : Home ctx (s.set slot buffer).2 := by
  unfold set
  split
  · cases buffer with
    | none => exact home
    | some buffer => exact home_tpfree buffer.ptr home
  · cases buffer with
    | none => exact home_replace slot 0 home (of_null ctx s)
    | some buffer =>
        simp only
        split
        · exact home_tpfree buffer.ptr home
        · rename_i context
          split
          · exact home_tpfree buffer.ptr home
          · have same : buffer.ctx = ctx := (not_not.1 context).trans home.context
            exact home_replace slot _ home (same ▸ own buffer rfl)

theorem home_clear (p : Ptr) (home : Home ctx s) : Home ctx (s.clear p) := by
  refine home_repoint _ _ home fun i => ?_
  split
  · exact of_null ctx s
  · exact home.slots i

theorem later_clear (p : Ptr) (s : State) : Later s (s.clear p) := by
  unfold clear
  obtain ⟨ptrAt, lenAt, same⟩ := syncNative_frame { s with slots :=
    { s.slots with
      pointers := fun i => if s.slots.pointers i = p then 0 else s.slots.pointers i
      lengths := fun i => if s.slots.pointers i = p then 0 else s.slots.lengths i } }
  rw [same]
  exact ⟨Nat.le_refl _, fun _ _ _ found => found⟩

/-- What is taken is of the context. -/
theorem home_take {buffer : TypedBuffer} {slot : TpScrSlot} {answer : Answer} (home : Home ctx s)
    (took : s.take slot answer = (.ok (some buffer), s')) :
    Home ctx s' ∧ Of buffer.ptr buffer.ctx s' := by
  rcases take_cases slot answer s with ⟨result, kept, none⟩ | ⟨len, _, gone⟩
  · rw [kept] at took
    exact absurd (Prod.ext_iff.1 took).1 (none buffer)
  · rw [gone] at took
    cases took
    refine ⟨home_clear _ home, ?_⟩
    rw [home.context]
    exact (home.slots slot).later (later_clear _ s)

theorem home_allocBuf (id : BufId) (c : CtxId) (len : Nat) (home : Home ctx s) :
    Home ctx (s.allocBuf id c len) ∧ Later s (s.allocBuf id c len) := by
  unfold allocBuf
  cases found : s.bufs.get id with
  | some => exact ⟨home, .refl s⟩
  | none =>
      have later := later_tpalloc c s
      refine ⟨home.later ⟨later.next, later.kept⟩ rfl (fun i => .inl ⟨i, rfl⟩) fun id' buffer' named => ?_,
        ⟨later.next, later.kept⟩⟩
      rw [Table.get_set] at named
      split at named
      · cases named
        exact .inr (of_tpalloc c s)
      · exact .inl named

theorem home_dropBuf (id : BufId) (home : Home ctx s) :
    Home ctx (s.dropBuf id) ∧ Later s (s.dropBuf id) := by
  unfold dropBuf
  cases found : s.bufs.get id with
  | none => exact ⟨home, .refl s⟩
  | some buffer =>
      have less : Home ctx { s with bufs := s.bufs.del id } := by
        refine ⟨home.context, home.slots, fun id' buffer' named => ?_⟩
        rw [Table.get_del] at named
        split at named
        · cases named
        · exact home.bufs id' buffer' named
      refine ⟨home_tpfree _ less, ?_⟩
      have freed := later_tpfree buffer.ptr { s with bufs := s.bufs.del id }
      exact ⟨freed.next, freed.kept⟩

/-- A closure's own step, whatever buffer it has in hand. -/
theorem home_editAct {buffer : TypedBuffer} (act : EditAct) (home : Home ctx s)
    (own : Of buffer.ptr buffer.ctx s) : Home ctx (s.editAct buffer act).2 ∧
      Of (s.editAct buffer act).1.ptr (s.editAct buffer act).1.ctx (s.editAct buffer act).2 := by
  cases act with
  | tprealloc len =>
      have freed := home_tpfree buffer.ptr home
      have later := later_tpalloc buffer.ctx (s.tpfree buffer.ptr)
      exact ⟨freed.later later rfl (fun i => .inl ⟨i, rfl⟩) (fun _ _ found => .inl found), of_tpalloc _ _⟩
  | setLen len => exact ⟨home, own⟩
  | swap id =>
      simp only [editAct]
      cases found : s.bufs.get id with
      | none => exact ⟨home, own⟩
      | some other =>
          refine ⟨⟨home.context, home.slots, fun id' buffer' named => ?_⟩, home.bufs id other found⟩
          rw [Table.get_set] at named
          split at named
          · cases named
            exact own
          · exact home.bufs id' buffer' named
  | gone => exact ⟨home_tpfree buffer.ptr home, of_null _ _⟩
  | tpalloc id c len =>
      obtain ⟨after, later⟩ := home_allocBuf id c len home
      exact ⟨after, own.later later⟩
  | drop id =>
      obtain ⟨after, later⟩ := home_dropBuf id home
      exact ⟨after, own.later later⟩

/-- A whole closure. -/
theorem home_runEdit : ∀ (acts : List EditAct) {buffer : TypedBuffer} {s : State}, Home ctx s →
    Of buffer.ptr buffer.ctx s → Home ctx (runEdit acts buffer s).2 ∧
      Of (runEdit acts buffer s).1.ptr (runEdit acts buffer s).1.ctx (runEdit acts buffer s).2
  | [], _, _, home, own => ⟨home, own⟩
  | act :: acts, _, _, home, own => by
      obtain ⟨after, left⟩ := home_editAct act home own
      exact home_runEdit acts after left

theorem home_writeback {buffer : TypedBuffer} (aliases : TpScrSlot → Bool) (home : Home ctx s)
    (own : Of buffer.ptr ctx s) : Home ctx (s.writeback aliases buffer) := by
  refine home_repoint _ _ home fun i => ?_
  split
  · exact own
  · exact home.slots i

/-- The write-back of what a closure left, when it is of the context. -/
theorem home_edited {buffer : TypedBuffer} {taken : State} {slot : TpScrSlot} {answer : Answer}
    {acts : List EditAct} (aliases : TpScrSlot → Bool) (home : Home ctx s)
    (took : s.take slot answer = (.ok (some buffer), taken))
    (left : (runEdit acts buffer taken).1.ptr = 0 ∨ (runEdit acts buffer taken).1.ctx = s.slots.ctx) :
    Home ctx ((runEdit acts buffer taken).2.writeback aliases (runEdit acts buffer taken).1) := by
  obtain ⟨after, own⟩ := home_take home took
  obtain ⟨ran, named⟩ := home_runEdit acts after own
  refine home_writeback aliases ran ?_
  rcases left with null | same
  · rw [null]
    exact of_null ctx _
  · rw [← same.trans home.context]
    exact named

/-- A take that gives nothing leaves everything. -/
theorem take_nothing {result : TpScrResult (Option TypedBuffer)} {slot : TpScrSlot} {answer : Answer}
    (took : s.take slot answer = (result, s')) (nothing : ∀ buffer, result ≠ .ok (some buffer)) : s' = s := by
  rcases take_cases slot answer s with ⟨other, kept, _⟩ | ⟨len, _, gone⟩
  · exact (Prod.ext_iff.1 (took.symm.trans kept)).2
  · exact absurd (Prod.ext_iff.1 (took.symm.trans gone)).1 (nothing _)

theorem home_edit {slot : TpScrSlot} {answer : Answer} {acts : List EditAct} (outcome : Outcome)
    (alive : s.alive = true) (home : Home ctx s)
    (leaves : s.leavesHome (.edit slot answer acts outcome) = true) :
    Home ctx (s.edit slot answer acts outcome).2 := by
  simp only [leavesHome, alive, edited, Bool.not_true, Bool.false_or] at leaves
  unfold edit
  rcases took : s.take slot answer with ⟨found | found, taken⟩
  · exact take_nothing took nofun ▸ home
  · cases found with
    | none => exact take_nothing took nofun ▸ home
    | some buffer =>
        rw [took] at leaves
        exact home_edited (s.aliases slot) home took (by simpa [Script.leaves] using leaves)

theorem home_editUbf {slot : TpScrSlot} {answer : UbfAnswer} {acts : List EditAct} (outcome : Outcome)
    (alive : s.alive = true) (home : Home ctx s)
    (leaves : s.leavesHome (.editUbf slot answer acts outcome) = true) :
    Home ctx (s.editUbf slot answer acts outcome).2 := by
  simp only [leavesHome, alive, edited, Bool.not_true, Bool.false_or] at leaves
  unfold editUbf
  split
  · exact home
  · exact home
  · rename_i got
    split
    · exact home
    · rename_i kind told
      split
      · exact home
      · rename_i ubf
        rcases took : s.take slot answer.take with ⟨found | found, taken⟩
        · exact take_nothing took nofun ▸ home
        · cases found with
          | none => exact take_nothing took nofun ▸ home
          | some buffer =>
              simp only
              split
              · exact home_tpfree buffer.ptr (home_take home took).1
              · rename_i typed
                simp only [got, told, typed, not_not.1 ubf, if_true, took] at leaves
                exact home_edited (s.aliases slot) home took (by simpa [Script.leaves] using leaves)

theorem allocFresh_bufs : ∀ (n : Nat) (s : State), (s.allocFresh n).bufs = s.bufs
  | 0, _ => rfl
  | n + 1, s => allocFresh_bufs n (s.tpalloc s.slots.ctx).2

theorem home_runVm (script : VmScript) (home : Home ctx s) : Home ctx (s.runVm script) := by
  have later := later_allocFresh script.fresh s
  have slots := (allocFresh_slots script.fresh s).1
  have own : ∀ at?, Of (s.resolve script at?) ctx (s.allocFresh script.fresh) := by
    intro at?
    cases at? with
    | null => exact of_null ctx _
    | slot i => exact (home.slots i).later later
    | fresh k =>
        simp only [resolve]
        split
        · rename_i made
          rw [← home.context]
          exact of_allocFresh script.fresh s k made
        · exact of_null ctx _
  refine home_frees _ ⟨(congrArg TpScrBuffers.ctx slots).trans home.context, fun i => own _, ?_⟩
  intro id buffer found
  have kept : s.bufs.get id = some buffer := by rwa [← allocFresh_bufs script.fresh s]
  exact (home.bufs id buffer kept).later ⟨later.next, later.kept⟩

theorem home_dropSlots (home : Home ctx s) : Home ctx s.dropSlots := by
  unfold dropSlots
  split
  · exact ⟨home.context, home.slots, home.bufs⟩
  · have emptied := home_repoint (fun _ => 0) (fun _ => 0) home fun _ => of_null ctx s
    exact home_frees _ ⟨emptied.context, emptied.slots, emptied.bufs⟩

/-- **One step** keeps everything of its context, unless a closure leaves a buffer of another. -/
theorem home_step (label : Label) (leaves : s.leavesHome label = true) (home : Home ctx s) :
    Home ctx (s.step label) := by
  unfold step
  split
  · rename_i alive
    cases label with
    | tpalloc id c len => exact (home_allocBuf id c len home).1
    | drop id => exact (home_dropBuf id home).1
    | set slot id =>
        cases id with
        | none => exact home_set slot home (by simp)
        | some id =>
            simp only [stepSlots, setFrom]
            cases found : s.bufs.get id with
            | none => exact home
            | some buffer =>
                refine home_set slot ⟨home.context, home.slots, fun id' buffer' named => ?_⟩ fun b same => ?_
                · rw [Table.get_del] at named
                  split at named
                  · cases named
                  · exact home.bufs id' buffer' named
                · cases same
                  exact home.bufs id buffer found
    | aliasSlot destination source =>
        simp only [stepSlots, aliasSlot]
        split
        · exact home
        · exact home_replace _ _ home (home.slots source)
    | get => exact home
    | take slot answer id =>
        simp only [stepSlots, takeInto]
        split
        · exact home
        · rcases took : s.take slot answer with ⟨found | found, taken⟩
          · exact take_nothing took (by simp) ▸ home
          · cases found with
            | none => exact take_nothing took (by simp) ▸ home
            | some buffer =>
                obtain ⟨after, own⟩ := home_take home took
                refine ⟨after.context, after.slots, fun id' buffer' named => ?_⟩
                rw [Table.get_set] at named
                split at named
                · cases named
                  exact own
                · exact after.bufs id' buffer' named
    | edit slot answer acts outcome => exact home_edit outcome alive home leaves
    | editUbf slot answer acts outcome => exact home_editUbf outcome alive home leaves
    | tpscrexec c name script =>
        simp only [stepSlots, executeValue]
        split
        · exact home
        · split
          · exact home
          · exact home_repoint _ (s.runVm script).slots.lengths (home_runVm script home)
              (home_runVm script home).slots
    | dropSlots => exact home_dropSlots home
  · cases label with
    | tpalloc id c len => exact (home_allocBuf id c len home).1
    | drop id => exact (home_dropBuf id home).1
    | _ => exact home

/-- An edit that took its buffer is the closure and then the write-back. -/
theorem edited_step {label : Label} {left : TypedBuffer} (alive : s.alive = true)
    (edited : s.edited label = some left) :
    ∃ slot answer acts buffer taken, s.take slot answer = (.ok (some buffer), taken) ∧
      left = (runEdit acts buffer taken).1 ∧
      s.step label = (runEdit acts buffer taken).2.writeback (s.aliases slot) left := by
  have left_of : ∀ {slot : TpScrSlot} {answer : Answer} {acts : List EditAct},
      Script.leaves acts (s.take slot answer) = some left → ∃ buffer taken,
        s.take slot answer = (.ok (some buffer), taken) ∧ left = (runEdit acts buffer taken).1 := by
    intro slot answer acts leaves
    rcases took : s.take slot answer with ⟨found | found, taken⟩
    · rw [took] at leaves
      cases leaves
    · rw [took] at leaves
      cases found with
      | none => cases leaves
      | some buffer => exact ⟨buffer, taken, rfl, (Option.some.inj leaves).symm⟩
  cases label with
  | edit slot answer acts outcome =>
      obtain ⟨buffer, taken, took, rfl⟩ := left_of edited
      refine ⟨slot, answer, acts, buffer, taken, took, rfl, ?_⟩
      simp only [step, alive, if_true, stepSlots, edit, took]
  | editUbf slot answer acts outcome =>
      simp only [State.edited] at edited
      split at edited
      · rename_i found kind got told typed
        split at edited
        · rename_i ubf
          obtain ⟨buffer, taken, took, rfl⟩ := left_of edited
          refine ⟨slot, answer.take, acts, buffer, taken, took, rfl, ?_⟩
          simp [step, alive, stepSlots, editUbf, got, told, ubf, took, typed]
        · cases edited
      · cases edited
  | _ => cases edited

theorem writeback_frame (aliases : TpScrSlot → Bool) (buffer : TypedBuffer) (s : State) :
    (s.writeback aliases buffer).live = s.live ∧ (s.writeback aliases buffer).alive = s.alive ∧
      ∀ i, (s.writeback aliases buffer).slots.pointers i =
        if aliases i then buffer.ptr else s.slots.pointers i := by
  unfold writeback
  refine ⟨?_, ?_, fun i => by rw [syncNative_slots]⟩
  all_goals
    obtain ⟨_, _, same⟩ := syncNative_frame { s with slots :=
      { s.slots with
        pointers := fun i => if aliases i then buffer.ptr else s.slots.pointers i
        lengths := fun i => if aliases i then Int.bmod buffer.len (2 ^ 64) else s.slots.lengths i } }
    rw [same]

/-- A buffer of another context shows in the slot it is written back to. -/
theorem foreign_shows {hand : List Ptr} {label : Label} (home : Home ctx s)
    (after : Balanced hand (s.step label)) (confined : Confined ctx (s.step label)) :
    s.leavesHome label = true := by
  by_cases alive : s.alive = true
  · cases edited : s.edited label with
    | none => simp [leavesHome, edited]
    | some left =>
        obtain ⟨slot, answer, acts, buffer, taken, took, rfl, stepped⟩ := edited_step alive edited
        obtain ⟨tookHome, own⟩ := home_take home took
        obtain ⟨ran, named⟩ := home_runEdit acts tookHome own
        by_cases null : (runEdit acts buffer taken).1.ptr = 0
        · simp [leavesHome, edited, null]
        have opened : s.slots.pointers slot ≠ 0 ∧ taken.alive = true := by
          rcases take_cases slot answer s with ⟨result, kept, none⟩ | ⟨len, present, gone⟩
          · exact absurd (Prod.ext_iff.1 (kept.symm.trans took)).1 (none buffer)
          · have cleared : s.clear (s.slots.pointers slot) = taken := (Prod.ext_iff.1 (gone.symm.trans took)).2
            exact ⟨present, cleared ▸ (clear_slots _ s).1.trans alive⟩
        obtain ⟨live, still, pointers⟩ := writeback_frame (s.aliases slot) (runEdit acts buffer taken).1
          (runEdit acts buffer taken).2
        rw [stepped] at after confined
        have inSlots : (runEdit acts buffer taken).1.ptr ∈
            ((runEdit acts buffer taken).2.writeback (s.aliases slot) (runEdit acts buffer taken).1).inSlots := by
          rw [State.inSlots, still, (runEdit_slots acts buffer taken).2, opened.2, if_pos rfl]
          refine mem_slotPtrs.2 ⟨null, names_iff.2 ⟨slot, ?_⟩⟩
          rw [pointers, if_pos (by simp [aliases, opened.1])]
        obtain ⟨c, found⟩ := Option.isSome_iff_exists.1
          (Table.mem_keys.1 (after.refs (List.mem_append_left _ inSlots)).1)
        have context := confined _ inSlots c found
        rw [live] at found
        have same := (named null).2 c found
        simp [leavesHome, edited, ← same, context, home.context]
  · simp [leavesHome, alive]

end Steps

end State

/-! ## Runs -/

/-- How a collection is made: by `new`, or around the arguments of a callback. -/
inductive Made : CtxId → State → Prop
  | new (ctx : CtxId) : Made ctx { slots := .new ctx }
  | callback (args : Args) (slots : TpScrBuffers)
      (made : State.callback args.ctx args.native args.ptrAt args.lenAt = .ok slots) :
      Made args.ctx (args.start slots)

theorem Made.home {ctx : CtxId} {start : State} (made : Made ctx start) : State.Home ctx start := by
  cases made with
  | new => exact ⟨rfl, fun _ => State.of_null _ _, nofun⟩
  | callback args slots made =>
      obtain ⟨-, -, reads⟩ := State.callback_reads made
      have context : slots.ctx = args.ctx := by
        unfold State.callback at made
        split at made
        · exact nomatch made
        · cases made
          rfl
      refine ⟨context, fun i present => ?_, fun id buffer found => ?_⟩
      · have named : slots.pointers i ≠ 0 := present
        rw [(reads i).1] at named
        split at named
        · exact absurd rfl named
        · rename_i supplied
          have bound := args.valid i supplied
          have own := State.of_allocFresh args.allocated { slots := .new args.ctx }
            (slots.pointers i - 1)
            (by rw [(reads i).1, if_neg supplied]
                exact Nat.sub_one_lt_of_le (Nat.pos_of_ne_zero named) bound)
          have place : ({ slots := .new args.ctx } : State).nextPtr + (slots.pointers i - 1) =
              slots.pointers i := Nat.add_sub_of_le (Nat.pos_of_ne_zero present)
          rw [place] at own
          exact own present
      · have none := State.allocFresh_bufs args.allocated { slots := .new args.ctx }
        have found : (State.allocFresh args.allocated { slots := .new args.ctx }).bufs.get id = some buffer :=
          found
        rw [none] at found
        exact nomatch found

/-- **Script buffers stay in their context** in every run whose closures leave no buffer of another
context behind their reference, and for a collection made by `new` in no other. -/
theorem script_slots_confined {ctx : CtxId} {start : State} (made : Made ctx start) (labels : List Label) :
    ((machine start).Along (State.leavesHome · · = true) labels →
      ∀ earlier, earlier <+: labels → Confined ctx ((machine start).run earlier)) ∧
    (start = { slots := .new ctx } →
      (∀ earlier, earlier <+: labels → Confined ctx ((machine start).run earlier)) →
      (machine start).Along (State.leavesHome · · = true) labels) := by
  constructor
  · rintro along earlier ⟨later, rfl⟩
    exact (Machine.invariantAlong (M := machine start) (P := State.Home ctx) made.home
      (fun s label => State.home_step label) earlier along.before).confined
  · rintro rfl each
    have first := new_reachable ctx []
    refine Machine.alongFrom_of_prefixes (M := machine { slots := .new ctx }) (Q := Confined ctx)
      (P := fun s => State.Home ctx s ∧ s.slots.links = TpScrSlot.index ∧ s.slots.owned = true ∧
        State.Balanced [] s) ?_ ?_ labels _ ⟨made.home, first⟩ each
    · rintro s label leaves ⟨home, reached⟩
      exact ⟨State.home_step label leaves home, new_step label reached⟩
    · rintro s label ⟨home, reached⟩ confined
      exact State.foreign_shows home (new_step label reached).2.2 confined

/-- A buffer of context 2 is swapped in while the output is edited. -/
def foreignRun : List Label :=
  [.tpalloc 0 1 4, .set .Output (some 0), .tpalloc 7 2 4, .edit .Output {} [.swap 7] (.returned (.ok ()))]

theorem homeRun_confined :
    Confined 1 ((machine { slots := .new 1 }).run (foreignRun.take 3)) :=
  (script_slots_confined (.new 1) (foreignRun.take 3)).1 (by decide +kernel) _ (List.prefix_refl _)

/-- **A closure brings a buffer of another context in**: `set` would have refused it. -/
theorem foreignRun_escapes : ¬ Confined 1 ((machine { slots := .new 1 }).run foreignRun) := by
  intro confined
  exact absurd (confined 2 (by decide +kernel) 2 (by decide +kernel)) (by decide)

end Endurox.Script
