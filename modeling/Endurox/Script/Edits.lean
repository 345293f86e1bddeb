/-
# Script.Edits -- an edit keeps the aliases of its buffer

`edit` and `edit_ubf` take the buffer out of every slot that names it, hand it to a
closure and write what the closure leaves back to the same slots, however the closure
ends.  `Rewritten` says so of the Rust slots, `HoldsAddress` of the native ones.  The
native pointer slots are written in the order of the Rust slots: behind two linked
slots that no longer agree stands what the later one names.
-/
import Endurox.Script.Confinement

namespace Endurox.Script

open Endurox.Theory

set_option autoImplicit false

/-! ## What an edit comes to -/

/-- `edit` or `edit_ubf`, with what the native layer answers. -/
inductive EditCall
  | edit (answer : Answer)
  | editUbf (answer : UbfAnswer)

namespace EditCall

def label (slot : TpScrSlot) (acts : List EditAct) (outcome : Outcome) : EditCall → Label
  | .edit answer => .edit slot answer acts outcome
  | .editUbf answer => .editUbf slot answer acts outcome

def run (slot : TpScrSlot) (acts : List EditAct) (outcome : Outcome) (s : State) :
    EditCall → Outcome × State
  | .edit answer => s.edit slot answer acts outcome
  | .editUbf answer => s.editUbf slot answer acts outcome

/-- `tptypes` names one type for one allocation: what was a UBF is one when it is wrapped. -/
def Steady : EditCall → Prop
  | .edit _ => True
  | .editUbf answer => answer.kind = .ok "UBF" → answer.typed = .ok ()

end EditCall

/-- The last slot that stands for the native pointer slot of this one. -/
def NativeSlots.last (native : NativeSlots) (i : TpScrSlot) : TpScrSlot :=
  (TpScrSlot.all.reverse.find? fun j => native.pointers j = native.pointers i).getD i

namespace State

/-- The slots that named the edited buffer name what the closure left, with its length as a
`c_long`; no other slot does, or has changed; and nobody freed it. -/
structure Rewritten (slot : TpScrSlot) (left : TypedBuffer) (s s' : State) : Prop where
  aliased : ∀ i, s.aliases slot i = true →
    s'.slots.pointers i = left.ptr ∧ s'.slots.lengths i = Int.bmod left.len (2 ^ 64)
  others : ∀ i, s.aliases slot i = false →
    s'.slots.pointers i = s.slots.pointers i ∧ s'.slots.lengths i = s.slots.lengths i
  exactly : left.ptr ≠ 0 → ∀ i, s'.slots.pointers i = left.ptr ↔ s.aliases slot i = true
  kept : left.ptr ≠ 0 → left.ptr ∈ s'.live.keys ∧ left.ptr ∉ s'.freed

/-- The native pointer slots of a callback hold the new address. -/
def HoldsAddress (slot : TpScrSlot) (left : TypedBuffer) (s s' : State) : Prop :=
  ∀ native, s.slots.nativeSlots = some native → ∀ i, s.aliases slot i = true →
    native.pointers i ≠ 0 → s'.ptrAt (native.pointers i) = left.ptr

/-- An edit changes nothing and returns an error, or ends as its closure does with the aliases
rewritten. -/
def KeepsAliases (slot : TpScrSlot) (call : EditCall) (acts : List EditAct) (outcome : Outcome)
    (s : State) : Prop :=
  match s.edited (call.label slot acts outcome) with
  | none => ∃ e, call.run slot acts outcome s = (.returned (.error e), s)
  | some left => ∃ s', call.run slot acts outcome s = (outcome, s') ∧
      s.Rewritten slot left s' ∧ s.HoldsAddress slot left s'

/-- Of the slots with one native pointer slot the last names the buffer, if one does. -/
def Followed (slot : TpScrSlot) (s : State) : Prop :=
  ∀ native, s.slots.nativeSlots = some native → ∀ i, s.aliases slot i = true →
    native.pointers i ≠ 0 → s.aliases slot (native.last i) = true

/-! ## One owner each, in every run -/

section Owned

variable {s : State} {hand : List Ptr}

/-- Replacing a slot leaves at most one owner, also where linked slots name different
allocations: what no slot names any more is freed or nobody's. -/
theorem balanced_replaced {next : Ptr} (index : TpScrSlot) (length : Int) (alive : s.alive = true)
    (balanced : Balanced (incoming s.slots.pointers next ++ hand) s) :
    ∃ hand, Balanced hand (s.replace index next length) := by
  let pool := incoming s.slots.pointers next ++ slotPtrs s.slots.pointers
  let pointers := repointed (fun i => s.slots.links i = s.slots.links index) next s.slots.pointers
  let rest := pool.filter fun p => ∀ i ∈ TpScrSlot.all, pointers i ≠ p
  have once : pool.Nodup := by
    have total := List.nodup_iff_count_le_one.1 balanced.ledger.held_nodup
    refine List.nodup_iff_count_le_one.2 fun p => Nat.le_trans ?_ (total p)
    simp only [pool, inSlots, alive, if_true, List.count_append]
    omega
  have positive : 0 ∉ pool := by
    refine fun member => (List.mem_append.1 member).elim (fun entering => ?_)
      fun named => (mem_slotPtrs.1 named).1 rfl
    unfold incoming at entering
    split at entering
    · rename_i new
      exact new.1 (List.mem_singleton.1 entering).symm
    · exact List.not_mem_nil entering
  have within : ∀ i, pointers i ≠ 0 → pointers i ∈ pool := by
    intro i present
    simp only [pointers, repointed] at present ⊢
    split
    · rename_i chosen
      rw [if_pos chosen] at present
      by_cases named : Names s.slots.pointers next
      · exact List.mem_append_right _ (mem_slotPtrs.2 ⟨present, named⟩)
      · exact List.mem_append_left _ (by simp [incoming, present, named])
    · rename_i kept
      rw [if_neg kept] at present
      exact List.mem_append_right _ (mem_slotPtrs.2 ⟨present, names_iff.2 ⟨i, rfl⟩⟩)
  have counts (p : Ptr) : rest.count p + (slotPtrs pointers).count p =
      (incoming s.slots.pointers next).count p + (slotPtrs s.slots.pointers).count p := by
    rw [counts_unnamed once positive within p, List.count_append]
  have moved := balanced_sync (balanced_repoint hand { s.slots with
      pointers
      lengths := fun i => if s.slots.links i = s.slots.links index then length else s.slots.lengths i }
    alive balanced counts)
  simp only [replace, syncNative_slots]
  split
  · rename_i freed
    have unnamed : s.slots.pointers index ∈ rest := by
      refine List.mem_filter.2 ⟨List.mem_append_right _ (mem_slotPtrs.2 ⟨freed.1, names_iff.2 ⟨index, rfl⟩⟩), ?_⟩
      simpa [pointers, repointed] using freed.2
    refine ⟨rest.erase (s.slots.pointers index) ++ hand, balanced_tpfree freed.1 ?_⟩
    refine moved.moved ⟨rfl, rfl, rfl, rfl⟩ fun p => congrArg (· + _) ?_
    rw [← List.cons_append, List.count_append, List.count_append,
      (List.perm_cons_erase unnamed).count_eq p]
  · exact ⟨rest ++ hand, moved⟩

theorem balanced_setting {buffer : Option TypedBuffer} (slot : TpScrSlot) (alive : s.alive = true)
    (balanced : Balanced (buffer.toList.flatMap TypedBuffer.owned ++ hand) s) :
    ∃ hand, Balanced hand (s.set slot buffer).2 := by
  cases buffer with
  | none =>
      unfold set
      split
      · exact ⟨_, balanced⟩
      · exact balanced_replaced slot 0 alive (by simpa [incoming] using balanced)
  | some buffer =>
      have inHand : Balanced (buffer.owned ++ hand) s := by simpa using balanced
      unfold set
      split
      · exact ⟨_, balanced_drop inHand⟩
      · simp only
        split
        · exact ⟨_, balanced_drop inHand⟩
        · split
          · exact ⟨_, balanced_drop inHand⟩
          · exact balanced_replaced slot _ alive (by rwa [owned_incoming alive inHand])

theorem balanced_aliasing (destination source : TpScrSlot) (alive : s.alive = true)
    (balanced : Balanced hand s) : ∃ hand, Balanced hand (s.aliasSlot destination source).2 := by
  unfold aliasSlot
  split
  · exact ⟨hand, balanced⟩
  · have named : Names s.slots.pointers (s.slots.pointers source) := names_iff.2 ⟨source, rfl⟩
    have known : Balanced (incoming s.slots.pointers (s.slots.pointers source) ++ hand) s := by
      simpa [incoming, named] using balanced
    exact balanced_replaced destination _ alive known

/-- The collection owns its slots, and nothing has two owners. -/
structure Sole (s : State) : Prop where
  owned : s.slots.owned = true
  balanced : ∃ hand, Balanced hand s

/-- **One step** leaves nothing with two owners. -/
theorem sole_step (label : Label) (sole : Sole s) : Sole (s.step label) := by
  obtain ⟨owned, hand, balanced⟩ := sole
  obtain ⟨pointers, lengths, shape⟩ := (step_slots s label).shape
  refine ⟨(congrArg TpScrBuffers.owned shape).trans owned, ?_⟩
  by_cases other : replaces label = true
  · by_cases alive : s.alive = true
    · cases label with
      | set slot id =>
          simp only [step, alive, if_true, stepSlots]
          cases id with
          | none => exact @balanced_setting _ _ none slot alive balanced
          | some id =>
              simp only [setFrom]
              cases found : s.bufs.get id with
              | none => exact ⟨hand, balanced⟩
              | some buffer =>
                  have inHand := balanced_load found balanced
                  exact balanced_setting slot alive (by simpa using inHand)
      | aliasSlot destination source =>
          simp only [step, alive, if_true, stepSlots]
          exact balanced_aliasing destination source alive balanced
      | _ => cases other
    · cases label with
      | set | aliasSlot => simpa [step, alive] using ⟨hand, balanced⟩
      | _ => cases other
  · exact ⟨hand, balanced_step label owned (fun replaced => absurd replaced other) balanced⟩

end Owned

end State

theorem Made.sole {ctx : CtxId} {start : State} (made : Made ctx start) : State.Sole start := by
  cases made with
  | new => exact ⟨rfl, [], Ledger.empty, rfl⟩
  | callback args slots made =>
      obtain ⟨-, owned, -⟩ := State.callback_reads made
      exact ⟨owned, _, State.balanced_start made⟩

/-- The run of any collection: nothing has two owners. -/
theorem sole_run {ctx : CtxId} {start : State} (made : Made ctx start) (labels : List Label) :
    State.Sole ((machine start).run labels) :=
  Machine.invariant (M := machine start) made.sole (fun _ label sole => State.sole_step label sole) labels

/-! ## The native slots -/

namespace State

theorem writeNative_ptrAt (native : NativeSlots) (s : State) (j : TpScrSlot) {a : Addr} (supplied : a ≠ 0) :
    (s.writeNative native j).ptrAt a =
      if native.pointers j = a then s.slots.pointers j else s.ptrAt a := by
  unfold writeNative
  by_cases missing : native.pointers j = 0
  · have other : native.pointers j ≠ a := fun same => supplied (same.symm.trans missing)
    rw [if_pos missing, if_neg other]
  · rw [if_neg missing]
    simp only [eq_comm]

/-- A native pointer slot holds what the last of its Rust slots names. -/
theorem syncNative_last {native : NativeSlots} {s : State} (callback : s.slots.nativeSlots = some native)
    {i : TpScrSlot} (supplied : native.pointers i ≠ 0) :
    s.syncNative.ptrAt (native.pointers i) = s.slots.pointers (native.last i) := by
  simp only [syncNative, callback, TpScrSlot.all, List.foldl_cons, List.foldl_nil,
    writeNative_ptrAt _ _ _ supplied, writeNative_slots, NativeSlots.last, List.reverse_cons,
    List.reverse_nil, List.nil_append, List.cons_append, List.find?_cons]
  by_cases output : native.pointers .Output = native.pointers i
  · simp [output]
  · by_cases input : native.pointers .Input = native.pointers i
    · simp [output, input]
    · have param : native.pointers .Param = native.pointers i := by
        cases i with
        | Param => rfl
        | Input => exact absurd rfl input
        | Output => exact absurd rfl output
      simp [output, input, param]

/-! ## The closure and the write-back -/

theorem writeback_slots (aliases : TpScrSlot → Bool) (buffer : TypedBuffer) (s : State) :
    (s.writeback aliases buffer).slots = { s.slots with
      pointers := fun i => if aliases i then buffer.ptr else s.slots.pointers i
      lengths := fun i => if aliases i then Int.bmod buffer.len (2 ^ 64) else s.slots.lengths i } :=
  syncNative_slots _

section Closure

variable {s : State} {slot : TpScrSlot} (len : Nat) (acts : List EditAct)

/-- While the closure runs, the slots are as before but for the aliases, which are empty. -/
theorem closure_slots (s : State) (slot : TpScrSlot) :
    let edited := runEdit acts ⟨s.slots.ctx, s.slots.pointers slot, len⟩ (s.clear (s.slots.pointers slot))
    edited.2.alive = s.alive ∧ edited.2.slots.nativeSlots = s.slots.nativeSlots ∧
      ∀ i, s.slots.pointers i ≠ s.slots.pointers slot →
        edited.2.slots.pointers i = s.slots.pointers i ∧ edited.2.slots.lengths i = s.slots.lengths i := by
  intro edited
  obtain ⟨slots, still⟩ := runEdit_slots acts ⟨s.slots.ctx, s.slots.pointers slot, len⟩
    (s.clear (s.slots.pointers slot))
  obtain ⟨cleared, emptied⟩ := clear_slots (s.slots.pointers slot) s
  rw [emptied] at slots
  refine ⟨still.trans cleared, (congrArg TpScrBuffers.nativeSlots slots).trans rfl, fun i other => ⟨?_, ?_⟩⟩
  · exact (congrFun (congrArg TpScrBuffers.pointers slots) i).trans (if_neg other)
  · exact (congrFun (congrArg TpScrBuffers.lengths slots) i).trans (if_neg other)

/-- **The write-back** rewrites the aliases and nothing else. -/
theorem rewritten {hand : List Ptr} (alive : s.alive = true) (present : s.slots.pointers slot ≠ 0)
    (balanced : Balanced hand s) :
    let edited := runEdit acts ⟨s.slots.ctx, s.slots.pointers slot, len⟩ (s.clear (s.slots.pointers slot))
    s.Rewritten slot edited.1 (edited.2.writeback (s.aliases slot) edited.1) := by
  intro edited
  have owned := balanced_closure len acts alive present balanced
  have after := balanced_edited len acts alive present balanced
  obtain ⟨still, -, apart⟩ := closure_slots len acts s slot
  have slots := writeback_slots (s.aliases slot) edited.1 edited.2
  have aliased : ∀ i, s.aliases slot i = true →
      (edited.2.writeback (s.aliases slot) edited.1).slots.pointers i = edited.1.ptr ∧
        (edited.2.writeback (s.aliases slot) edited.1).slots.lengths i = Int.bmod edited.1.len (2 ^ 64) := by
    intro i chosen
    simp only [slots, chosen, if_true, and_self]
  have others : ∀ i, s.aliases slot i = false →
      (edited.2.writeback (s.aliases slot) edited.1).slots.pointers i = s.slots.pointers i ∧
        (edited.2.writeback (s.aliases slot) edited.1).slots.lengths i = s.slots.lengths i := by
    intro i other
    have different : s.slots.pointers i ≠ s.slots.pointers slot := fun same => by
      simp [aliases, present, same] at other
    simpa [slots, other] using apart i different
  refine ⟨aliased, others, fun named i => ⟨fun same => ?_, fun chosen => (aliased i chosen).1⟩, fun named => ?_⟩
  · by_contra other
    -- what the closure left is in hand, so no slot names it
    have entering := owned_incoming (still.trans alive) owned
    unfold incoming TypedBuffer.owned at entering
    rw [if_neg named] at entering
    split at entering
    · rename_i unnamed
      refine unnamed.2 (names_iff.2 ⟨i, ?_⟩)
      have different : s.slots.pointers i ≠ s.slots.pointers slot := fun same => by
        simp [aliases, present, same] at other
      exact (apart i different).1.trans
        ((others i (Bool.eq_false_iff.2 other)).1.symm.trans same)
    · cases entering
  · have inSlots : edited.1.ptr ∈ (edited.2.writeback (s.aliases slot) edited.1).inSlots := by
      rw [State.inSlots, (writeback_frame _ _ _).2.1, still, alive, if_pos rfl]
      exact mem_slotPtrs.2 ⟨named, names_iff.2 ⟨slot, (aliased slot (by simp [aliases, present])).1⟩⟩
    exact after.refs (List.mem_append_left _ inSlots)

/-- The native pointer slots hold the new address, if each is written last from an alias. -/
theorem holds_address (followed : s.Followed slot) :
    let edited := runEdit acts ⟨s.slots.ctx, s.slots.pointers slot, len⟩ (s.clear (s.slots.pointers slot))
    s.HoldsAddress slot edited.1 (edited.2.writeback (s.aliases slot) edited.1) := by
  intro edited native callback i chosen supplied
  obtain ⟨-, shape, -⟩ := closure_slots len acts s slot
  unfold writeback
  rw [syncNative_last (by exact shape.trans callback) supplied]
  exact if_pos (followed native callback i chosen supplied)

end Closure

/-! ## `edit` and `edit_ubf` -/

/-- A slot gives nothing only when it names nothing. -/
theorem take_none {s taken : State} {slot : TpScrSlot} {answer : Answer}
    (took : s.take slot answer = (.ok none, taken)) : s.slots.pointers slot = 0 := by
  have got : s.get slot answer = .ok none := by
    unfold take at took
    split at took
    · exact nomatch (Prod.ext_iff.1 took).1
    · exact (Prod.ext_iff.1 took).1
  unfold get at got
  split at got
  · assumption
  · split at got
    · exact nomatch got
    · split at got
      · exact nomatch got
      · simp only at got
        split at got <;> exact nomatch got

/-- An edit whose closure did not run changes nothing and returns an error. -/
theorem edit_refused {s : State} {slot : TpScrSlot} {call : EditCall} {acts : List EditAct}
    {outcome : Outcome} (steady : call.Steady)
    (nothing : s.edited (call.label slot acts outcome) = none) :
    ∃ e, call.run slot acts outcome s = (.returned (.error e), s) := by
  cases call with
  | edit answer =>
      simp only [EditCall.label, State.edited] at nothing
      simp only [EditCall.run, edit]
      rcases took : s.take slot answer with ⟨e | found, taken⟩
      · exact ⟨e, by rw [take_nothing took (by simp)]⟩
      · cases found with
        | none => exact ⟨slotEmpty, by rw [take_nothing took (by simp)]⟩
        | some buffer =>
            rw [took] at nothing
            cases nothing
  | editUbf answer =>
      simp only [EditCall.label, State.edited] at nothing
      simp only [EditCall.run, editUbf]
      rcases got : s.get slot answer.get with e | found
      · exact ⟨e, rfl⟩
      · cases found with
        | none => exact ⟨slotEmpty, rfl⟩
        | some seen =>
            rcases told : answer.kind with e | kind
            · exact ⟨e, rfl⟩
            · by_cases ubf : kind = "UBF"
              · subst ubf
                rw [got, told, steady told] at nothing
                simp only [ne_eq, not_true_eq_false, if_false]
                rcases took : s.take slot answer.take with ⟨e | found, taken⟩
                · exact ⟨e, by rw [take_nothing took (by simp)]⟩
                · cases found with
                  | none =>
                      have absent : s.get slot answer.get = .ok none := if_pos (take_none took)
                      cases got.symm.trans absent
                  | some buffer =>
                      simp only [if_true, took] at nothing
                      cases nothing
              · exact ⟨_, if_pos ubf⟩

/-- An edit whose closure ran is the closure, the write-back and the closure's own end. -/
theorem edit_ran {s : State} {slot : TpScrSlot} (call : EditCall) {acts : List EditAct}
    {outcome : Outcome} {left : TypedBuffer} (ran : s.edited (call.label slot acts outcome) = some left) :
    ∃ len, s.slots.pointers slot ≠ 0 ∧
      let edited := runEdit acts ⟨s.slots.ctx, s.slots.pointers slot, len⟩ (s.clear (s.slots.pointers slot))
      left = edited.1 ∧
        call.run slot acts outcome s = (outcome, edited.2.writeback (s.aliases slot) edited.1) := by
  have left_of : ∀ {answer : Answer}, Script.leaves acts (s.take slot answer) = some left →
      ∃ len, s.slots.pointers slot ≠ 0 ∧
        s.take slot answer = (.ok (some ⟨s.slots.ctx, s.slots.pointers slot, len⟩),
          s.clear (s.slots.pointers slot)) ∧
        left = (runEdit acts ⟨s.slots.ctx, s.slots.pointers slot, len⟩
          (s.clear (s.slots.pointers slot))).1 := by
    intro answer leaves
    rcases take_cases slot answer s with ⟨result, took, none⟩ | ⟨len, present, took⟩
    · rw [took] at leaves
      unfold Script.leaves at leaves
      split at leaves
      · rename_i same
        exact absurd (Prod.ext_iff.1 same).1 (none _)
      · exact nomatch leaves
    · rw [took] at leaves
      exact ⟨len, present, took, (Option.some.inj leaves).symm⟩
  cases call with
  | edit answer =>
      obtain ⟨len, present, took, same⟩ := left_of ran
      exact ⟨len, present, same, by simp only [EditCall.run, edit, took]⟩
  | editUbf answer =>
      simp only [EditCall.label, State.edited] at ran
      split at ran
      · rename_i found kind got told typed
        split at ran
        · rename_i ubf
          obtain ⟨len, present, took, same⟩ := left_of ran
          refine ⟨len, present, same, ?_⟩
          simp [EditCall.run, editUbf, got, told, ubf, took, typed]
        · exact nomatch ran
      · exact nomatch ran

/-- An edit of a collection that owns its slots. -/
theorem keeps_aliases {s : State} {slot : TpScrSlot} (alive : s.alive = true) (sole : Sole s)
    (followed : s.Followed slot) {call : EditCall} (steady : call.Steady) (acts : List EditAct)
    (outcome : Outcome) : s.KeepsAliases slot call acts outcome := by
  obtain ⟨-, hand, balanced⟩ := sole
  unfold KeepsAliases
  cases ran : s.edited (call.label slot acts outcome) with
  | none => exact edit_refused steady ran
  | some left =>
      obtain ⟨len, present, same, ended⟩ := edit_ran call ran
      subst same
      exact ⟨_, ended, rewritten len acts alive present balanced, holds_address len acts followed⟩

/-- A slot that names nothing, or has a negative length, gives no buffer. -/
theorem get_refused {s : State} {slot : TpScrSlot}
    (refused : s.slots.pointers slot = 0 ∨ s.slots.lengths slot < 0) (answer : Answer)
    (buffer : TypedBuffer) : s.get slot answer ≠ .ok (some buffer) := by
  intro got
  unfold get at got
  split at got
  · exact nomatch got
  · rename_i present
    rw [if_pos (refused.resolve_left present)] at got
    exact nomatch got

/-- So no closure edits it. -/
theorem not_edited {s : State} {slot : TpScrSlot}
    (refused : s.slots.pointers slot = 0 ∨ s.slots.lengths slot < 0) (call : EditCall)
    (acts : List EditAct) (outcome : Outcome) : s.edited (call.label slot acts outcome) = none := by
  cases call with
  | edit answer =>
      simp only [EditCall.label, State.edited, take]
      split
      · rename_i got
        exact absurd got (get_refused refused answer _)
      · rename_i other
        unfold leaves
        split
        · rename_i same
          exact absurd (Prod.ext_iff.1 same).1 (other _)
        · rfl
  | editUbf answer =>
      simp only [EditCall.label, State.edited]
      split
      · rename_i got _ _
        exact absurd got (get_refused refused answer.get _)
      · rfl

/-- A buffer that its closure makes grow is somewhere else afterwards. -/
theorem moved_edit {s : State} {slot : TpScrSlot} (alive : s.alive = true) (sole : Sole s)
    (present : s.slots.pointers slot ≠ 0) (length : 0 ≤ s.slots.lengths slot) (outcome : Outcome) :
    ∃ left, left.ptr ≠ 0 ∧ s.edited (.edit slot
      { types := .ok ("CARRAY", (s.slots.lengths slot).toNat) } [.tprealloc 1] outcome) = some left := by
  obtain ⟨-, hand, balanced⟩ := sole
  have freed := balanced_tpfree present (balanced_clear alive present balanced)
  refine ⟨⟨s.slots.ctx, ((s.clear (s.slots.pointers slot)).tpfree (s.slots.pointers slot)).nextPtr, 1⟩,
    Nat.ne_of_gt freed.ledger.positive, ?_⟩
  simp [State.edited, take, get, present, Int.not_lt.2 length, leaves, runEdit, editAct, tpalloc]

/-- A buffer that moves tells whether each native slot follows. -/
theorem followed_of_keeps {s : State} (slot : TpScrSlot) (alive : s.alive = true) (sole : Sole s)
    (present : s.slots.pointers slot ≠ 0) (length : 0 ≤ s.slots.lengths slot)
    (keeps : ∀ call : EditCall, call.Steady → ∀ acts outcome, s.KeepsAliases slot call acts outcome) :
    s.Followed slot := by
  intro native callback i chosen supplied
  obtain ⟨left, named, edited⟩ := moved_edit alive sole present length (.returned (.ok ()))
  have kept := keeps (.edit { types := .ok ("CARRAY", (s.slots.lengths slot).toNat) }) trivial
    [.tprealloc 1] (.returned (.ok ()))
  unfold KeepsAliases EditCall.label at kept
  rw [edited] at kept
  obtain ⟨s', ended, rewritten, holds⟩ := kept
  have address := holds native callback i chosen supplied
  obtain ⟨len, -, same, again⟩ := edit_ran (.edit _) edited
  obtain ⟨-, rfl⟩ := Prod.ext_iff.1 (ended.symm.trans again)
  obtain ⟨-, shape, -⟩ := closure_slots len [.tprealloc 1] s slot
  refine (rewritten.exactly named _).1 ?_
  rw [← address]
  unfold writeback
  rw [syncNative_last (by exact shape.trans callback) supplied, syncNative_slots]

end State

/-! ## Every collection -/

/-- **An edit keeps the aliases of its buffer**, in every collection and after every run of it: for
every closure and end of it, exactly when the slot gives no buffer or each native pointer slot behind
an alias is written last from an alias. -/
theorem edits_keep_aliases {ctx : CtxId} {start : State} (made : Made ctx start) (labels : List Label)
    (slot : TpScrSlot) :
    let s := (machine start).run labels
    s.alive = true →
      ((∀ call : EditCall, call.Steady → ∀ acts outcome, s.KeepsAliases slot call acts outcome) ↔
        s.slots.pointers slot = 0 ∨ s.slots.lengths slot < 0 ∨ s.Followed slot) := by
  intro s alive
  have sole := sole_run made labels
  constructor
  · intro keeps
    by_cases present : s.slots.pointers slot = 0
    · exact .inl present
    · by_cases length : s.slots.lengths slot < 0
      · exact .inr (.inl length)
      · exact .inr (.inr (State.followed_of_keeps slot alive sole present (Int.not_lt.1 length) keeps))
  · intro condition call steady acts outcome
    rcases condition with absent | negative | followed
    · have nothing := State.not_edited (.inl absent) call acts outcome
      unfold State.KeepsAliases
      rw [nothing]
      exact State.edit_refused steady nothing
    · have nothing := State.not_edited (.inr negative) call acts outcome
      unfold State.KeepsAliases
      rw [nothing]
      exact State.edit_refused steady nothing
    · exact State.keeps_aliases alive sole followed steady acts outcome

theorem sharedRun_edits :
    let s := (machine (sharedArgs.start sharedSlots)).run sharedRun
    s.alive = true ∧
      ((∀ call : EditCall, call.Steady → ∀ acts outcome, s.KeepsAliases .Param call acts outcome) ↔
        s.slots.pointers .Param = 0 ∨ s.slots.lengths .Param < 0 ∨ s.Followed .Param) :=
  ⟨by decide +kernel,
    edits_keep_aliases (.callback sharedArgs sharedSlots sharedSlots_made) sharedRun .Param
      (by decide +kernel)⟩

/-- **A native slot is left behind**: parameter and output are one native slot, a nested script gave
the output a buffer of its own, and the parameter is edited. -/
theorem edit_leaves_native_behind : ¬ ∀ (ctx : CtxId) (start : State), Made ctx start →
    ∀ (labels : List Label) (slot : TpScrSlot),
      ((machine start).run labels).alive = true →
      ∀ call : EditCall, call.Steady → ∀ acts outcome,
        ((machine start).run labels).KeepsAliases slot call acts outcome := by
  intro keeps
  have made : Made 1 (sharedArgs.start sharedSlots) := .callback sharedArgs sharedSlots sharedSlots_made
  have followed := State.followed_of_keeps .Param (by decide +kernel) (sole_run made nestedRun)
    (by decide +kernel) (by decide +kernel)
    (keeps 1 _ made nestedRun .Param (by decide +kernel))
  have last := followed sharedArgs.native rfl .Param (by decide +kernel) (by decide +kernel)
  revert last
  decide +kernel

end Endurox.Script
