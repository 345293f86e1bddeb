/-
# Script.Links -- the slots of a callback agree with the native ones

A callback's collection stands for native pointer slots, and two arguments may
be the same one.  `Agreed` says linked Rust slots are equal, `Synced` that the
native slots hold what the Rust slots do.  Every operation keeps both except a
nested script run, which is handed the Rust slots one by one: it may rewrite a
slot and not the one linked to it.
-/
import Endurox.Script.Ownership

namespace Endurox.Script

open Endurox.Theory

set_option autoImplicit false

/-! ## Arguments -/

/-- The arguments of a native callback.  Their allocations are the provider's first ones. -/
structure Args where
  ctx : CtxId
  native : NativeSlots
  ptrAt : Addr → Ptr
  lenAt : Addr → Int
  allocated : Nat
  valid : ∀ i, native.pointers i ≠ 0 → ptrAt (native.pointers i) ≤ allocated

namespace Args

/-- The state in which a callback begins to run. -/
def start (args : Args) (slots : TpScrBuffers) : State :=
  { State.allocFresh args.allocated { slots := .new args.ctx } with
    slots, ptrAt := args.ptrAt, lenAt := args.lenAt }

/-- The allocations the provider keeps for itself. -/
def kept (args : Args) (slots : TpScrBuffers) : List Ptr :=
  ((List.range args.allocated).map (1 + ·)).filter fun p =>
    ∀ i ∈ TpScrSlot.all, slots.pointers i ≠ p

/-- Arguments sharing a pointer slot have equal lengths, others have length slots of their own. -/
def Matching (args : Args) : Prop :=
  ∀ i ∈ TpScrSlot.all, ∀ j ∈ TpScrSlot.all, args.native.pointers i ≠ 0 → args.native.pointers j ≠ 0 →
    (args.native.pointers i = args.native.pointers j →
      args.lenAt (args.native.lengths i) = args.lenAt (args.native.lengths j)) ∧
    (args.native.lengths i = args.native.lengths j → args.native.pointers i = args.native.pointers j)

instance (args : Args) : Decidable args.Matching :=
  inferInstanceAs (Decidable (∀ i ∈ TpScrSlot.all, ∀ j ∈ TpScrSlot.all, _ → _ → _ ∧ _))

end Args

/-- A nested script leaves linked slots with one pointer and one length. -/
def keepsLinks (s : State) : Label → Bool
  | .tpscrexec ctx name script =>
      s.alive → ctx = s.slots.ctx → Char.ofNat 0 ∉ name.toList →
        ∀ i ∈ TpScrSlot.all, ∀ j ∈ TpScrSlot.all, s.slots.links i = s.slots.links j →
          s.resolve script (script.pointers i) = s.resolve script (script.pointers j) ∧
            script.lengths i = script.lengths j
  | _ => true

namespace State

/-! ## Native memory -/

/-- The native slots hold what the Rust slots do. -/
def Synced (native : NativeSlots) (s : State) : Prop :=
  ∀ i, native.pointers i ≠ 0 →
    s.ptrAt (native.pointers i) = s.slots.pointers i ∧ s.lenAt (native.lengths i) = s.slots.lengths i

/-- Equal native slots stand behind linked Rust slots. -/
structure Backed (native : NativeSlots) (slots : TpScrBuffers) : Prop where
  pointers : ∀ i j, native.pointers i ≠ 0 → native.pointers i = native.pointers j →
    slots.links i = slots.links j
  lengths : ∀ i j, native.pointers i ≠ 0 → native.pointers j ≠ 0 → native.lengths i = native.lengths j →
    slots.links i = slots.links j

@[simp] theorem writeNative_slots (native : NativeSlots) (s : State) (i : TpScrSlot) :
    (s.writeNative native i).slots = s.slots := by
  unfold writeNative
  split <;> rfl

/-- After writing some slots, each of them and each that was right before is right. -/
theorem writeNative_synced {native : NativeSlots} {slots : TpScrBuffers} (backed : Backed native slots)
    (agreed : Agreed slots) (i : TpScrSlot) (supplied : native.pointers i ≠ 0) :
    ∀ (is : List TpScrSlot) (s : State), s.slots = slots →
      (i ∈ is ∨ s.ptrAt (native.pointers i) = slots.pointers i ∧
        s.lenAt (native.lengths i) = slots.lengths i) →
      (is.foldl (writeNative native) s).ptrAt (native.pointers i) = slots.pointers i ∧
        (is.foldl (writeNative native) s).lenAt (native.lengths i) = slots.lengths i
  | [], s, _, right => right.resolve_left (List.not_mem_nil)
  | j :: is, s, same, right => by
      refine writeNative_synced backed agreed i supplied is (s.writeNative native j)
        ((writeNative_slots native s j).trans same) ?_
      by_cases later : i ∈ is
      · exact .inl later
      · refine .inr ?_
        unfold writeNative
        by_cases missing : native.pointers j = 0
        · have other : i ≠ j := fun equal => supplied (equal ▸ missing)
          simpa [missing] using right.resolve_left (by simp [other, later])
        · simp only [missing, if_false, same]
          have before : i ≠ j → s.ptrAt (native.pointers i) = slots.pointers i ∧
              s.lenAt (native.lengths i) = slots.lengths i :=
            fun other => right.resolve_left (by simp [other, later])
          by_cases equal : i = j
          · subst equal
            simp
          · constructor
            · split
              · rename_i shared
                exact (agreed j i (backed.pointers j i missing shared.symm)).1
              · exact (before equal).1
            · split
              · rename_i shared
                exact (agreed j i (backed.lengths j i missing supplied shared.symm)).2
              · exact (before equal).2

/-- `sync_native` writes the slots out, if linked slots agree. -/
theorem syncNative_synced {native : NativeSlots} {s : State} (backed : Backed native s.slots)
    (agreed : Agreed s.slots) (callback : s.slots.nativeSlots = some native) :
    Synced native s.syncNative := by
  intro i supplied
  simp only [syncNative_slots]
  unfold syncNative
  simp only [callback]
  exact writeNative_synced backed agreed i supplied TpScrSlot.all s rfl (.inl i.mem_all)

/-- A step leaves slots and native memory alone, or writes the slots out. -/
def Written (s s' : State) : Prop :=
  (s'.slots = s.slots ∧ s'.ptrAt = s.ptrAt ∧ s'.lenAt = s.lenAt) ∨
    ∃ t : State, s'.slots = t.slots ∧ s'.ptrAt = t.syncNative.ptrAt ∧ s'.lenAt = t.syncNative.lenAt

/-- What the allocator does is not seen in the native slots. -/
structure Unseen (s s' : State) : Prop where
  slots : s'.slots = s.slots
  ptrAt : s'.ptrAt = s.ptrAt
  lenAt : s'.lenAt = s.lenAt

theorem Unseen.refl (s : State) : Unseen s s := ⟨rfl, rfl, rfl⟩

theorem Unseen.trans {s s' s'' : State} (first : Unseen s s') (second : Unseen s' s'') : Unseen s s'' :=
  ⟨second.slots.trans first.slots, second.ptrAt.trans first.ptrAt, second.lenAt.trans first.lenAt⟩

theorem Written.unseen {s s' s'' : State} (written : Written s s') (after : Unseen s' s'') :
    Written s s'' := by
  obtain ⟨slots, ptrAt, lenAt⟩ := after
  unfold Written
  rw [slots, ptrAt, lenAt]
  exact written

theorem Unseen.written {s s' : State} (unseen : Unseen s s') : Written s s' :=
  .inl ⟨unseen.slots, unseen.ptrAt, unseen.lenAt⟩

theorem written_sync (s t : State) : Written s t.syncNative := .inr ⟨t, syncNative_slots t, rfl, rfl⟩

theorem tpfree_unseen (p : Ptr) (s : State) : Unseen s (s.tpfree p) := by
  unfold tpfree
  split <;> exact ⟨rfl, rfl, rfl⟩

theorem fold_unseen : ∀ (ps : List Ptr) (s : State), Unseen s (ps.foldl (fun s p => s.tpfree p) s)
  | [], s => .refl s
  | p :: ps, s => (tpfree_unseen p s).trans (fold_unseen ps (s.tpfree p))

theorem allocBuf_unseen (id : BufId) (ctx : CtxId) (len : Nat) (s : State) :
    Unseen s (s.allocBuf id ctx len) := by
  unfold allocBuf
  split <;> exact ⟨rfl, rfl, rfl⟩

theorem dropBuf_unseen (id : BufId) (s : State) : Unseen s (s.dropBuf id) := by
  unfold dropBuf
  split
  · rename_i buffer _
    obtain ⟨slots, ptrAt, lenAt⟩ := tpfree_unseen buffer.ptr { s with bufs := s.bufs.del id }
    exact ⟨slots, ptrAt, lenAt⟩
  · exact .refl s

theorem replace_written (s₀ : State) (index : TpScrSlot) (next : Ptr) (length : Int) (s : State) :
    Written s₀ (s.replace index next length) := by
  unfold replace
  simp only
  split
  · exact (written_sync s₀ _).unseen (tpfree_unseen _ _)
  · exact written_sync s₀ _

theorem set_written {s₀ s : State} (slot : TpScrSlot) (buffer : Option TypedBuffer) (same : Unseen s₀ s) :
    Written s₀ (s.set slot buffer).2 := by
  unfold set
  split
  · cases buffer with
    | none => exact same.written
    | some buffer => exact (same.trans (tpfree_unseen _ _)).written
  · cases buffer with
    | none => exact replace_written s₀ _ _ _ s
    | some buffer =>
        simp only
        split
        · exact (same.trans (tpfree_unseen _ _)).written
        · split
          · exact (same.trans (tpfree_unseen _ _)).written
          · exact replace_written s₀ _ _ _ s

theorem edit_written (slot : TpScrSlot) (answer : Answer) (acts : List EditAct) (outcome : Outcome)
    (s : State) : Written s (s.edit slot answer acts outcome).2 := by
  unfold edit
  rcases take_cases slot answer s with ⟨result, took, none⟩ | ⟨len, present, took⟩ <;> rw [took]
  · cases result with
    | error => exact (Unseen.refl s).written
    | ok found =>
        cases found with
        | none => exact (Unseen.refl s).written
        | some buffer => exact absurd rfl (none buffer)
  · exact written_sync s _

theorem editUbf_written (slot : TpScrSlot) (answer : UbfAnswer) (acts : List EditAct)
    (outcome : Outcome) (s : State) : Written s (s.editUbf slot answer acts outcome).2 := by
  have unchanged := (Unseen.refl s).written
  unfold editUbf
  split
  · exact unchanged
  · exact unchanged
  · split
    · exact unchanged
    · split
      · exact unchanged
      · rcases take_cases slot answer.take s with ⟨result, took, none⟩ | ⟨len, present, took⟩ <;> rw [took]
        · cases result with
          | error => exact unchanged
          | ok found =>
              cases found with
              | none => exact unchanged
              | some buffer => exact absurd rfl (none buffer)
        · simp only
          split
          · exact (written_sync s _).unseen (tpfree_unseen _ _)
          · exact written_sync s _

theorem takeInto_written (slot : TpScrSlot) (answer : Answer) (id : BufId) (s : State) :
    Written s (s.takeInto slot answer id) := by
  have unchanged := (Unseen.refl s).written
  unfold takeInto
  split
  · exact unchanged
  · rcases take_cases slot answer s with ⟨result, took, none⟩ | ⟨len, present, took⟩ <;> rw [took]
    · cases result with
      | error => exact unchanged
      | ok found =>
          cases found with
          | none => exact unchanged
          | some buffer => exact absurd rfl (none buffer)
    · exact (written_sync s _).unseen ⟨rfl, rfl, rfl⟩

theorem dropSlots_written (s : State) : Written s s.dropSlots := by
  unfold dropSlots
  split
  · exact Unseen.written ⟨rfl, rfl, rfl⟩
  · obtain ⟨slots, ptrAt, lenAt⟩ := fold_unseen (slotPtrs s.slots.pointers) { syncNative { s with slots :=
      { s.slots with pointers := fun _ => 0, lengths := fun _ => 0 } } with alive := false }
    exact (written_sync s _).unseen ⟨slots, ptrAt, lenAt⟩

/-- Whatever changes the slots ends by writing them out. -/
theorem step_written (s : State) (label : Label) : Written s (s.step label) := by
  have unchanged := (Unseen.refl s).written
  unfold step
  split
  · cases label with
    | tpalloc id ctx len => exact (allocBuf_unseen id ctx len s).written
    | drop id => exact (dropBuf_unseen id s).written
    | set slot id =>
        cases id with
        | none => exact set_written slot none (.refl s)
        | some id =>
            simp only [stepSlots, setFrom]
            split
            · exact set_written slot _ ⟨rfl, rfl, rfl⟩
            · exact unchanged
    | aliasSlot destination source =>
        simp only [stepSlots, aliasSlot]
        split
        · exact unchanged
        · exact replace_written s _ _ _ s
    | get => exact unchanged
    | take slot answer id => exact takeInto_written slot answer id s
    | edit slot answer acts outcome => exact edit_written slot answer acts outcome s
    | editUbf slot answer acts outcome => exact editUbf_written slot answer acts outcome s
    | tpscrexec ctx name script =>
        simp only [stepSlots, executeValue]
        split
        · exact unchanged
        · split
          · exact unchanged
          · exact written_sync s _
    | dropSlots => exact dropSlots_written s
  · cases label with
    | tpalloc id ctx len => exact (allocBuf_unseen id ctx len s).written
    | drop id => exact (dropBuf_unseen id s).written
    | _ => exact unchanged

/-! ## Agreement -/

/-- **One step** keeps linked slots equal, if a nested script does. -/
theorem agreed_step {s : State} (label : Label) (keeps : keepsLinks s label = true)
    (agreed : Agreed s.slots) : Agreed (s.step label).slots := by
  have moved := step_slots s label
  generalize (s.step label).slots = slots at moved
  cases moved with
  | same => exact agreed
  | replaced index next length =>
      intro i j linked
      have before := agreed i j linked
      simp only at linked
      by_cases chosen : s.slots.links j = s.slots.links index
      · simp [repointed, linked, chosen]
      · simp [repointed, linked, chosen, before]
  | renamed slot next length present =>
      intro i j linked
      have before := agreed i j linked
      by_cases named : s.slots.pointers j = s.slots.pointers slot
      · simp [repointed, before, named]
      · simp [repointed, before, named]
  | ran ctx name script same alive own text =>
      subst same
      simp only [keepsLinks, decide_eq_true_eq] at keeps
      exact fun i j linked => keeps alive own text i i.mem_all j j.mem_all linked
  | dropped => exact fun i j linked => ⟨rfl, rfl⟩

theorem synced_step {native : NativeSlots} {s : State} (label : Label)
    (callback : s.slots.nativeSlots = some native) (backed : Backed native s.slots)
    (agreed : Agreed (s.step label).slots) (synced : Synced native s) :
    Synced native (s.step label) := by
  obtain ⟨pointers, lengths, shape⟩ := (step_slots s label).shape
  rcases step_written s label with ⟨slots, ptrAt, lenAt⟩ | ⟨t, slots, ptrAt, lenAt⟩
  · unfold Synced
    rw [slots, ptrAt, lenAt]
    exact synced
  · have kept : Backed native t.slots := by
      rw [← slots, shape]
      exact ⟨backed.pointers, backed.lengths⟩
    have written := syncNative_synced kept (slots ▸ agreed)
      (by rw [← slots, shape]; exact callback)
    unfold Synced at written ⊢
    rw [syncNative_slots] at written
    rw [slots, ptrAt, lenAt]
    exact written

/-- Agreeing slots are returned without conflict. -/
theorem returnCheck_agreed {native : NativeSlots} {slots : TpScrBuffers} (backed : Backed native slots)
    (agreed : Agreed slots) : ∀ is, returnCheck native slots is ≠ .error conflictingAliases
  | [] => nofun
  | i :: is => by
      unfold returnCheck
      split
      · simp [conflictingAliases]
      · split
        · rename_i conflict
          obtain ⟨j, _, supplied, shared, differ⟩ := conflict
          have same := agreed i j (backed.pointers i j supplied shared)
          rcases differ with differ | differ
          · exact absurd same.1 differ
          · exact absurd same.2 differ
        · exact returnCheck_agreed backed agreed is

theorem returnToNative_agreed {native : NativeSlots} {s : State} (ctx : CtxId)
    (backed : Backed native s.slots) (agreed : Agreed s.slots) :
    (s.returnToNative ctx native).1 ≠ .error conflictingAliases := by
  have checked := returnCheck_agreed backed agreed TpScrSlot.all
  unfold returnToNative
  split
  · simp [conflictingAliases]
  · split
    · rename_i e failed
      rw [failed] at checked
      exact fun same => checked (congrArg Except.error (Except.error.inj same))
    · nofun

/-! ## Runs -/

/-- Rust slots are linked exactly when they stand for one native slot. -/
theorem callback_links {ctx : CtxId} {native : NativeSlots} {ptrAt : Addr → Ptr} {lenAt : Addr → Int}
    {slots : TpScrBuffers} (made : callback ctx native ptrAt lenAt = .ok slots) (i j : TpScrSlot) :
    slots.links i = slots.links j ↔
      i = j ∨ native.pointers i ≠ 0 ∧ native.pointers i = native.pointers j := by
  unfold callback at made
  split at made
  · cases made
  · cases made
    cases i <;> cases j <;> simp [TpScrSlot.before, TpScrSlot.index, List.find?_cons] <;> grind

/-- What `callback` reads from the native slots. -/
theorem callback_reads {ctx : CtxId} {native : NativeSlots} {ptrAt : Addr → Ptr} {lenAt : Addr → Int}
    {slots : TpScrBuffers} (made : callback ctx native ptrAt lenAt = .ok slots) :
    slots.nativeSlots = some native ∧ slots.owned = true ∧ ∀ i,
      slots.pointers i = (if native.pointers i = 0 then 0 else ptrAt (native.pointers i)) ∧
      slots.lengths i = if native.pointers i = 0 then 0 else lenAt (native.lengths i) := by
  unfold callback at made
  split at made
  · cases made
  · cases made
    exact ⟨rfl, rfl, fun i => ⟨rfl, rfl⟩⟩

/-- The slots own what they name of the provider's allocations. -/
theorem balanced_start {args : Args} {slots : TpScrBuffers}
    (made : State.callback args.ctx args.native args.ptrAt args.lenAt = .ok slots) :
    Balanced (args.kept slots) (args.start slots) := by
  obtain ⟨-, -, reads⟩ := callback_reads made
  have fresh := balanced_allocFresh args.allocated
    (show Balanced [] ({ slots := .new args.ctx } : State) from ⟨Ledger.empty, rfl⟩)
  obtain ⟨unset, alive⟩ := allocFresh_slots args.allocated ({ slots := .new args.ctx } : State)
  have pool : Balanced ((List.range args.allocated).map (1 + ·) ++ [])
      (allocFresh args.allocated ({ slots := .new args.ctx } : State)) := fresh
  have once : ((List.range args.allocated).map (1 + ·)).Nodup :=
    List.nodup_range.map fun _ _ same => Nat.add_left_cancel same
  have within : ∀ i, slots.pointers i ≠ 0 → slots.pointers i ∈ (List.range args.allocated).map (1 + ·) := by
    intro i named
    rw [(reads i).1] at named ⊢
    split at named
    · exact absurd rfl named
    · rename_i supplied
      have bound := args.valid i supplied
      rw [if_neg supplied]
      exact List.mem_map.2 ⟨_, List.mem_range.2 (Nat.sub_one_lt_of_le (Nat.pos_of_ne_zero named) bound),
        Nat.add_sub_of_le (Nat.pos_of_ne_zero named)⟩
  have moved := balanced_repoint [] slots alive pool fun p => by
    have none : slotPtrs (TpScrBuffers.new args.ctx).pointers = [] := rfl
    rw [unset, counts_unnamed once (by simp) within p, none]
    rfl
  refine moved.moved ⟨rfl, rfl, rfl, rfl⟩ fun p => ?_
  rw [List.append_nil]
  rfl

/-- What a callback's collection keeps through every run. -/
structure Linked (args : Args) (slots₀ : TpScrBuffers) (s : State) : Prop where
  callback : s.slots.nativeSlots = some args.native
  owned : s.slots.owned = true
  backed : Backed args.native s.slots
  agreed : Agreed s.slots
  synced : Synced args.native s
  balanced : Balanced (args.kept slots₀) s

theorem linked_start {args : Args} {slots : TpScrBuffers} (matching : args.Matching)
    (made : State.callback args.ctx args.native args.ptrAt args.lenAt = .ok slots) :
    Linked args slots (args.start slots) := by
  obtain ⟨callback, owned, reads⟩ := callback_reads made
  have links := callback_links made
  refine ⟨callback, owned, ⟨fun i j supplied shared => ?_, fun i j one two shared => ?_⟩,
    fun i j linked => ?_, fun i supplied => ?_, balanced_start made⟩
  · exact (links i j).2 (.inr ⟨supplied, shared⟩)
  · exact (links i j).2 (.inr ⟨one, (matching i i.mem_all j j.mem_all one two).2 shared⟩)
  · rcases (links i j).1 linked with same | ⟨supplied, shared⟩
    · subst same
      exact ⟨rfl, rfl⟩
    · have other : args.native.pointers j ≠ 0 := shared ▸ supplied
      have lengths := (matching i i.mem_all j j.mem_all supplied other).1 shared
      show slots.pointers i = slots.pointers j ∧ slots.lengths i = slots.lengths j
      rw [(reads i).1, (reads i).2, (reads j).1, (reads j).2]
      simp only [other, if_false, lengths, shared, and_self]
  · show args.ptrAt _ = slots.pointers i ∧ args.lenAt _ = slots.lengths i
    simp [(reads i).1, (reads i).2, supplied]

theorem linked_step {args : Args} {slots₀ : TpScrBuffers} {s : State} (label : Label)
    (keeps : keepsLinks s label = true) (linked : Linked args slots₀ s) :
    Linked args slots₀ (s.step label) := by
  obtain ⟨pointers, lengths, shape⟩ := (step_slots s label).shape
  have agreed := agreed_step label keeps linked.agreed
  refine ⟨?_, ?_, ?_, agreed, synced_step label linked.callback linked.backed agreed linked.synced,
    balanced_step label linked.owned (fun _ => linked.agreed) linked.balanced⟩
  · exact (congrArg TpScrBuffers.nativeSlots shape).trans linked.callback
  · exact (congrArg TpScrBuffers.owned shape).trans linked.owned
  · rw [shape]
    exact ⟨linked.backed.pointers, linked.backed.lengths⟩

end State

/-- **Linked slots stay in agreement.**  In every run of a callback with matching arguments whose
nested scripts leave linked slots equal: slots that stand for one native slot are equal, the
native slots hold what they do, no return conflicts, and everything live is named by a slot or a
variable, or the provider's own. -/
theorem linked_slots_agree (args : Args) (slots : TpScrBuffers)
    (made : State.callback args.ctx args.native args.ptrAt args.lenAt = .ok slots)
    (matching : args.Matching) (labels : List Label)
    (keeps : (machine (args.start slots)).Along (keepsLinks · · = true) labels) :
    let s := (machine (args.start slots)).run labels
    (∀ i j, args.native.pointers i ≠ 0 → args.native.pointers i = args.native.pointers j →
      s.slots.pointers i = s.slots.pointers j ∧ s.slots.lengths i = s.slots.lengths j) ∧
    s.Synced args.native ∧ (∀ ctx, (s.returnToNative ctx args.native).1 ≠ .error State.conflictingAliases) ∧
    (args.kept slots ++ (s.inSlots ++ s.inBufs)).Perm s.live.keys := by
  intro s
  have linked : State.Linked args slots s := Machine.invariantAlong (M := machine (args.start slots))
    (P := State.Linked args slots) (State.linked_start matching made)
    (fun _ label keeps linked => State.linked_step label keeps linked) labels keeps
  refine ⟨fun i j supplied shared => ?_, linked.synced, fun ctx => ?_, linked.balanced.ledger.balanced⟩
  · exact linked.agreed i j (linked.backed.pointers i j supplied shared)
  · exact State.returnToNative_agreed ctx linked.backed linked.agreed

/-- Parameter and output are one native slot; the input is not supplied. -/
def sharedArgs : Args where
  ctx := 1
  native :=
    { pointers := fun i => if i = .Input then 0 else 1, lengths := fun i => if i = .Input then 0 else 1 }
  ptrAt := fun _ => 1
  lenAt := fun _ => 8
  allocated := 1
  valid := fun _ _ => Nat.le_refl 1

def sharedSlots : TpScrBuffers :=
  { ctx := 1
    pointers := fun i => if sharedArgs.native.pointers i = 0 then 0 else 1
    lengths := fun i => if sharedArgs.native.pointers i = 0 then 0 else 8
    links := fun i => if sharedArgs.native.pointers i = 0 then i.index
      else ((i.before.find? fun j =>
        sharedArgs.native.pointers j = sharedArgs.native.pointers i).getD i).index
    enabled := fun i => sharedArgs.native.pointers i ≠ 0
    nativeSlots := some sharedArgs.native }

theorem sharedSlots_made : State.callback sharedArgs.ctx sharedArgs.native sharedArgs.ptrAt
    sharedArgs.lenAt = .ok sharedSlots := rfl

/-- A callback grows the shared buffer, runs a script that keeps both slots, and replaces one. -/
def sharedRun : List Label :=
  [.edit .Param {} [.tprealloc 32] (.returned (.ok ())),
   .tpscrexec 1 "inner" { lengths := fun _ => 32 }, .tpalloc 0 1 4, .set .Output (some 0)]

theorem sharedRun_agrees :
    let s := (machine (sharedArgs.start sharedSlots)).run sharedRun
    (∀ i j, sharedArgs.native.pointers i ≠ 0 →
      sharedArgs.native.pointers i = sharedArgs.native.pointers j →
      s.slots.pointers i = s.slots.pointers j ∧ s.slots.lengths i = s.slots.lengths j) ∧
    s.Synced sharedArgs.native ∧
    (∀ ctx, (s.returnToNative ctx sharedArgs.native).1 ≠ .error State.conflictingAliases) ∧
    (sharedArgs.kept sharedSlots ++ (s.inSlots ++ s.inBufs)).Perm s.live.keys :=
  linked_slots_agree sharedArgs sharedSlots sharedSlots_made (by decide +kernel) sharedRun
    (by decide +kernel)

/-- A nested script puts a buffer of its own into the output slot and leaves the parameter. -/
def nestedRun : List Label :=
  [.tpscrexec 1 "inner"
    { fresh := 1, pointers := fun i => if i = .Output then .fresh 0 else .slot i, lengths := fun _ => 8 }]

/-- **A nested script breaks the agreement**: the collection cannot be returned. -/
theorem nestedRun_conflicts : ¬ ∀ (args : Args) (slots : TpScrBuffers),
    State.callback args.ctx args.native args.ptrAt args.lenAt = .ok slots → ∀ labels : List Label,
    let s := (machine (args.start slots)).run labels
    (∀ i j, args.native.pointers i ≠ 0 → args.native.pointers i = args.native.pointers j →
      s.slots.pointers i = s.slots.pointers j ∧ s.slots.lengths i = s.slots.lengths j) ∧
    s.Synced args.native ∧
    (∀ ctx, (s.returnToNative ctx args.native).1 ≠ .error State.conflictingAliases) ∧
    (args.kept slots ++ (s.inSlots ++ s.inBufs)).Perm s.live.keys := by
  intro agree
  have returned := (agree sharedArgs sharedSlots sharedSlots_made nestedRun).2.2.1 1
  revert returned
  decide +kernel

end Endurox.Script
