/-
# Script.Ownership -- who frees a script buffer

Slots share allocations, so a slot is not an owner: the collection is, of each
distinct pointer its slots name.  `Balanced hand s` is the allocator's ledger with
the collection, the program's variables and `hand` for owners.  Every operation
rewrites the pointers of some slots; `balanced_repoint` is that move, checked by
counting what comes in and what no slot names any more.
-/
import Endurox.Script.Buffers
import Endurox.Theory.Ledger

namespace Endurox.Script

open Endurox.Theory

set_option autoImplicit false

theorem TpScrSlot.mem_all (i : TpScrSlot) : i ∈ TpScrSlot.all := by
  cases i <;> simp [TpScrSlot.all]

/-- Some slot names the pointer. -/
def Names (pointers : TpScrSlot → Ptr) (p : Ptr) : Prop := ∃ i ∈ TpScrSlot.all, pointers i = p

instance (pointers : TpScrSlot → Ptr) (p : Ptr) : Decidable (Names pointers p) :=
  inferInstanceAs (Decidable (∃ i ∈ TpScrSlot.all, pointers i = p))

theorem names_iff {pointers : TpScrSlot → Ptr} {p : Ptr} : Names pointers p ↔ ∃ i, pointers i = p :=
  ⟨fun ⟨i, _, named⟩ => ⟨i, named⟩, fun ⟨i, named⟩ => ⟨i, i.mem_all, named⟩⟩

/-- A pointer is counted once, however many slots name it. -/
theorem count_slotPtrs (pointers : TpScrSlot → Ptr) (p : Ptr) :
    (slotPtrs pointers).count p = if p ≠ 0 ∧ Names pointers p then 1 else 0 := by
  have slots : Names pointers p ↔
      pointers .Param = p ∨ pointers .Input = p ∨ pointers .Output = p := by
    simp [Names, TpScrSlot.all]
  simp only [slots, slotPtrs, TpScrSlot.all, TpScrSlot.before, List.filter_cons, List.filter_nil]
  by_cases a : pointers .Param = p <;> by_cases b : pointers .Input = p <;>
    by_cases c : pointers .Output = p <;> grind

theorem mem_slotPtrs {pointers : TpScrSlot → Ptr} {p : Ptr} :
    p ∈ slotPtrs pointers ↔ p ≠ 0 ∧ Names pointers p := by
  rw [← List.count_pos_iff, count_slotPtrs]
  split <;> simp_all

/-! ## Repointing selected slots -/

section Repoint

variable {pointers : TpScrSlot → Ptr} {select : TpScrSlot → Prop} [DecidablePred select] {old next : Ptr}

/-- What comes into the collection with `next`. -/
def incoming (pointers : TpScrSlot → Ptr) (next : Ptr) : List Ptr :=
  if next ≠ 0 ∧ ¬ Names pointers next then [next] else []

/-- What leaves it when no slot names `old` any more. -/
def displaced (pointers : TpScrSlot → Ptr) (old : Ptr) : List Ptr := incoming pointers old

def repointed (select : TpScrSlot → Prop) [DecidablePred select] (next : Ptr)
    (pointers : TpScrSlot → Ptr) : TpScrSlot → Ptr :=
  fun i => if select i then next else pointers i

theorem names_repointed {p : Ptr} (other : p ≠ next) :
    Names (repointed select next pointers) p ↔ ∃ i, ¬ select i ∧ pointers i = p := by
  rw [names_iff]
  constructor
  · rintro ⟨i, named⟩
    by_cases chosen : select i
    · exact absurd (by simpa [repointed, chosen] using named.symm) other
    · exact ⟨i, chosen, by simpa [repointed, chosen] using named⟩
  · rintro ⟨i, kept, named⟩
    exact ⟨i, by simpa [repointed, kept] using named⟩

/-- Slots that all named `old` name `next` instead. -/
theorem counts_repointed (some : ∃ i, select i) (agree : ∀ i, select i → pointers i = old) (p : Ptr) :
    (displaced (repointed select next pointers) old).count p +
        (slotPtrs (repointed select next pointers)).count p =
      (incoming pointers next).count p + (slotPtrs pointers).count p := by
  obtain ⟨i, chosen⟩ := some
  have now : Names (repointed select next pointers) next :=
    names_iff.2 ⟨i, by simp [repointed, chosen]⟩
  have before : Names pointers old := names_iff.2 ⟨i, agree i chosen⟩
  rw [count_slotPtrs, count_slotPtrs]
  unfold displaced incoming
  by_cases same : p = next
  · subst same
    by_cases named : Names pointers p <;> by_cases null : p = 0 <;> by_cases kept : old = p <;> grind
  · have kept : p ≠ old → (Names (repointed select next pointers) p ↔ Names pointers p) := by
      intro other
      rw [names_repointed same, names_iff]
      refine ⟨fun ⟨j, _, named⟩ => ⟨j, named⟩, fun ⟨j, named⟩ => ⟨j, fun chosen => ?_, named⟩⟩
      exact other (named.symm.trans (agree j chosen))
    by_cases gone : p = old
    · subst gone
      by_cases named : Names (repointed select next pointers) p <;> by_cases null : p = 0 <;> grind
    · simp only [kept gone]
      grind

end Repoint

namespace State

/-! ## The ledger -/

structure Balanced (hand : List Ptr) (s : State) : Prop where
  ledger : Ledger (hand ++ (s.inSlots ++ s.inBufs)) s.live.keys s.freed s.nextPtr
  /-- Nothing was freed while a slot or a variable named it. -/
  inTime : s.early = []

/-- A change of owners, checked by counting. -/
theorem Balanced.moved {hand hand' : List Ptr} {s s' : State} (balanced : Balanced hand s)
    (native : s'.live = s.live ∧ s'.freed = s.freed ∧ s'.nextPtr = s.nextPtr ∧ s'.early = s.early)
    (same : ∀ p, hand'.count p + (s'.inSlots.count p + s'.inBufs.count p) =
      hand.count p + (s.inSlots.count p + s.inBufs.count p)) : Balanced hand' s' where
  ledger := by
    rw [native.1, native.2.1, native.2.2.1]
    exact balanced.ledger.move fun p => by simpa [List.count_append] using same p
  inTime := native.2.2.2.trans balanced.inTime

/-- An allocation comes into hand. -/
theorem balanced_tpalloc {hand : List Ptr} {s : State} (ctx : CtxId) (balanced : Balanced hand s) :
    Balanced ((s.tpalloc ctx).1 :: hand) (s.tpalloc ctx).2 where
  ledger := by
    have fresh : s.nextPtr ∉ s.live.keys := fun member =>
      Nat.lt_irrefl _ ((balanced.ledger.all _).1 (List.mem_append_left _ member)).2
    have absent : s.live.get s.nextPtr = none := by simpa [Table.mem_keys] using fresh
    refine balanced.ledger.alloc ?_
    simp only [tpalloc, Table.keys_set, Table.del_of_get_none absent]
    exact .refl _
  inTime := balanced.inTime

/-- What is in hand is freed. -/
theorem balanced_tpfree {hand : List Ptr} {p : Ptr} {s : State} (positive : p ≠ 0)
    (balanced : Balanced (p :: hand) s) : Balanced hand (s.tpfree p) := by
  obtain ⟨info, found⟩ := Option.isSome_iff_exists.1
    (Table.mem_keys.1 (balanced.ledger.held_live (p := p) (by simp)).1)
  have unnamed : p ∉ s.inSlots ++ s.inBufs := by
    have once := List.nodup_cons.1 balanced.ledger.held_nodup
    exact fun member => once.1 (List.mem_append_right _ member)
  simp only [tpfree, positive, if_false, unnamed]
  exact ⟨balanced.ledger.free (Table.keys_perm_of_get found), balanced.inTime⟩

/-- An owner dropped. -/
theorem balanced_drop {hand : List Ptr} {buffer : TypedBuffer} {s : State}
    (balanced : Balanced (buffer.owned ++ hand) s) : Balanced hand (s.tpfree buffer.ptr) := by
  by_cases null : buffer.ptr = 0
  · simpa [tpfree, null, TypedBuffer.owned] using balanced
  · exact balanced_tpfree null (by simpa [TypedBuffer.owned, null] using balanced)

theorem balanced_freeAll {hand : List Ptr} {ps : List Ptr} (positive : 0 ∉ ps) :
    ∀ {s : State}, Balanced (ps ++ hand) s → Balanced hand (ps.foldl (fun s p => s.tpfree p) s) := by
  induction ps with
  | nil => exact fun balanced => balanced
  | cons p ps ih =>
      intro s balanced
      rw [List.mem_cons, not_or] at positive
      exact ih positive.2 (balanced_tpfree (Ne.symm positive.1) balanced)

/-! ## Repointing slots -/

/-- The collection's pointers rewritten: what comes in and what no slot names any more agree
with the change. -/
theorem balanced_repoint {incoming dropped : List Ptr} {s : State} (hand : List Ptr)
    (slots : TpScrBuffers) (alive : s.alive = true) (balanced : Balanced (incoming ++ hand) s)
    (counts : ∀ p, dropped.count p + (slotPtrs slots.pointers).count p =
      incoming.count p + (slotPtrs s.slots.pointers).count p) :
    Balanced (dropped ++ hand) { s with slots } := by
  refine balanced.moved ⟨rfl, rfl, rfl, rfl⟩ fun p => ?_
  have change := counts p
  simp only [inSlots, inBufs, alive, if_true, List.count_append]
  omega

theorem syncNative_frame (s : State) :
    ∃ ptrAt lenAt, s.syncNative = { s with ptrAt, lenAt } := by
  have one : ∀ native (is : List TpScrSlot) (s : State), ∃ ptrAt lenAt,
      is.foldl (writeNative native) s = { s with ptrAt, lenAt } := by
    intro native is
    induction is with
    | nil => exact fun s => ⟨s.ptrAt, s.lenAt, rfl⟩
    | cons i is ih =>
        intro s
        obtain ⟨ptrAt, lenAt, same⟩ := ih (s.writeNative native i)
        refine ⟨ptrAt, lenAt, ?_⟩
        rw [List.foldl_cons, same]
        unfold writeNative
        split <;> rfl
  unfold syncNative
  split
  · exact one _ _ s
  · exact ⟨s.ptrAt, s.lenAt, rfl⟩

theorem balanced_sync {hand : List Ptr} {s : State} (balanced : Balanced hand s) :
    Balanced hand s.syncNative := by
  obtain ⟨ptrAt, lenAt, same⟩ := syncNative_frame s
  rw [same]
  exact balanced.moved ⟨rfl, rfl, rfl, rfl⟩ fun _ => rfl

@[simp] theorem syncNative_slots (s : State) : s.syncNative.slots = s.slots := by
  obtain ⟨_, _, same⟩ := syncNative_frame s
  rw [same]

/-- Linked slots name one allocation and its length. -/
def Agreed (slots : TpScrBuffers) : Prop :=
  ∀ i j, slots.links i = slots.links j →
    slots.pointers i = slots.pointers j ∧ slots.lengths i = slots.lengths j

theorem balanced_replace {hand : List Ptr} {s : State} {index : TpScrSlot} {next : Ptr} (length : Int)
    (alive : s.alive = true) (agreed : Agreed s.slots)
    (balanced : Balanced (incoming s.slots.pointers next ++ hand) s) :
    Balanced hand (s.replace index next length) := by
  have agree : ∀ i, s.slots.links i = s.slots.links index → s.slots.pointers i = s.slots.pointers index :=
    fun i linked => (agreed i index linked).1
  have moved := balanced_sync (balanced_repoint hand { s.slots with
      pointers := repointed (fun i => s.slots.links i = s.slots.links index) next s.slots.pointers
      lengths := fun i => if s.slots.links i = s.slots.links index then length else s.slots.lengths i }
    alive balanced (counts_repointed ⟨index, rfl⟩ agree))
  simp only [replace, syncNative_slots]
  split
  · rename_i freed
    have unnamed : ¬ Names (repointed (fun i => s.slots.links i = s.slots.links index) next
        s.slots.pointers) (s.slots.pointers index) := fun ⟨i, member, named⟩ => freed.2 i member named
    rw [displaced, incoming, if_pos ⟨freed.1, unnamed⟩] at moved
    exact balanced_tpfree freed.1 moved
  · rename_i kept
    have nothing : displaced (repointed (fun i => s.slots.links i = s.slots.links index) next
        s.slots.pointers) (s.slots.pointers index) = [] := by
      refine if_neg fun gone => kept ⟨gone.1, fun i member named => gone.2 ⟨i, member, named⟩⟩
    rw [nothing] at moved
    exact moved

/-- A buffer in hand is named by no slot. -/
theorem owned_incoming {hand : List Ptr} {s : State} {buffer : TypedBuffer} (alive : s.alive = true)
    (balanced : Balanced (buffer.owned ++ hand) s) :
    incoming s.slots.pointers buffer.ptr = buffer.owned := by
  unfold incoming TypedBuffer.owned
  by_cases null : buffer.ptr = 0
  · simp [null]
  · have once := balanced.ledger.held_nodup
    simp only [TypedBuffer.owned, null, if_false, List.cons_append, List.nodup_cons] at once
    have unnamed : ¬ Names s.slots.pointers buffer.ptr := fun named => once.1 (by
      simp [inSlots, alive, mem_slotPtrs, null, named])
    simp [null, unnamed]

theorem balanced_set {hand : List Ptr} {s : State} (slot : TpScrSlot) {buffer : Option TypedBuffer}
    (alive : s.alive = true) (agreed : Agreed s.slots)
    (balanced : Balanced (buffer.toList.flatMap TypedBuffer.owned ++ hand) s) :
    Balanced hand (s.set slot buffer).2 := by
  cases buffer with
  | none =>
      unfold set
      split
      · exact balanced
      · exact balanced_replace 0 alive agreed (by simpa [incoming] using balanced)
  | some buffer =>
      have inHand : Balanced (buffer.owned ++ hand) s := by simpa using balanced
      unfold set
      split
      · exact balanced_drop inHand
      · simp only
        split
        · exact balanced_drop inHand
        · split
          · exact balanced_drop inHand
          · exact balanced_replace _ alive agreed (by rwa [owned_incoming alive inHand])

theorem balanced_alias {hand : List Ptr} {s : State} (destination source : TpScrSlot)
    (alive : s.alive = true) (agreed : Agreed s.slots) (balanced : Balanced hand s) :
    Balanced hand (s.aliasSlot destination source).2 := by
  unfold aliasSlot
  split
  · exact balanced
  · refine balanced_replace _ alive agreed ?_
    have named : Names s.slots.pointers (s.slots.pointers source) := names_iff.2 ⟨source, rfl⟩
    simpa [incoming, named] using balanced

/-! ## Taking and editing -/

theorem take_cases (slot : TpScrSlot) (answer : Answer) (s : State) :
    (∃ result, s.take slot answer = (result, s) ∧ ∀ buffer, result ≠ .ok (some buffer)) ∨
    ∃ len, s.slots.pointers slot ≠ 0 ∧
      s.take slot answer = (.ok (some ⟨s.slots.ctx, s.slots.pointers slot, len⟩),
        s.clear (s.slots.pointers slot)) := by
  unfold take
  cases got : s.get slot answer with
  | error e => exact .inl ⟨_, rfl, nofun⟩
  | ok found =>
      cases found with
      | none => exact .inl ⟨_, rfl, nofun⟩
      | some buffer =>
          unfold get at got
          split at got
          · cases got
          · rename_i present
            split at got
            · cases got
            · split at got
              · cases got
              · simp only at got
                split at got
                · cases got
                · cases got
                  exact .inr ⟨_, present, rfl⟩

/-- What is taken leaves every slot that named it. -/
theorem balanced_clear {hand : List Ptr} {s : State} {slot : TpScrSlot} (alive : s.alive = true)
    (present : s.slots.pointers slot ≠ 0) (balanced : Balanced hand s) :
    Balanced (s.slots.pointers slot :: hand) (s.clear (s.slots.pointers slot)) := by
  have nothing : Balanced (incoming s.slots.pointers 0 ++ hand) s := by
    simpa [incoming] using balanced
  have moved := balanced_sync (balanced_repoint hand { s.slots with
      pointers := repointed (fun i => s.slots.pointers i = s.slots.pointers slot) 0 s.slots.pointers
      lengths := fun i => if s.slots.pointers i = s.slots.pointers slot then 0 else s.slots.lengths i }
    alive nothing (counts_repointed ⟨slot, rfl⟩ fun _ chosen => chosen))
  have gone : ¬ Names (repointed (fun i => s.slots.pointers i = s.slots.pointers slot) 0
      s.slots.pointers) (s.slots.pointers slot) := by
    rw [names_repointed present]
    exact fun ⟨i, other, named⟩ => other named
  rw [displaced, incoming, if_pos ⟨present, gone⟩] at moved
  exact moved

/-! ### The program's variables -/

theorem count_set (s : State) (id : BufId) (buffer : TypedBuffer) (p : Ptr) :
    ({ s with bufs := s.bufs.set id buffer } : State).inBufs.count p = buffer.owned.count p +
      ((s.bufs.del id).gather fun _ buffer => buffer.owned).count p :=
  Table.gather_set (fun _ buffer => TypedBuffer.owned buffer) s.bufs id buffer p

theorem count_of_get {s : State} {id : BufId} {buffer : TypedBuffer} (found : s.bufs.get id = some buffer)
    (p : Ptr) : s.inBufs.count p = buffer.owned.count p +
      ((s.bufs.del id).gather fun _ buffer => buffer.owned).count p :=
  Table.gather_of_get (fun _ buffer => TypedBuffer.owned buffer) found p

/-- A new variable takes a buffer in hand. -/
theorem balanced_store {hand : List Ptr} {s : State} {id : BufId} {buffer : TypedBuffer}
    (unused : s.bufs.get id = none) (balanced : Balanced (buffer.owned ++ hand) s) :
    Balanced hand { s with bufs := s.bufs.set id buffer } := by
  refine balanced.moved ⟨rfl, rfl, rfl, rfl⟩ fun p => ?_
  have after := count_set s id buffer p
  have before : s.inBufs.count p = ((s.bufs.del id).gather fun _ buffer => buffer.owned).count p := by
    rw [Table.del_of_get_none unused]
    rfl
  have slots : ({ s with bufs := s.bufs.set id buffer } : State).inSlots = s.inSlots := rfl
  rw [slots, List.count_append]
  omega

/-- A variable read out by move gives its buffer into hand. -/
theorem balanced_load {hand : List Ptr} {s : State} {id : BufId} {buffer : TypedBuffer}
    (found : s.bufs.get id = some buffer) (balanced : Balanced hand s) :
    Balanced (buffer.owned ++ hand) { s with bufs := s.bufs.del id } := by
  refine balanced.moved ⟨rfl, rfl, rfl, rfl⟩ fun p => ?_
  have split := count_of_get found p
  have slots : ({ s with bufs := s.bufs.del id } : State).inSlots = s.inSlots := rfl
  have after : ({ s with bufs := s.bufs.del id } : State).inBufs =
      (s.bufs.del id).gather fun _ buffer => buffer.owned := rfl
  rw [slots, after, List.count_append]
  omega

/-- A buffer in hand and a variable change places. -/
theorem balanced_swap {hand : List Ptr} {s : State} {id : BufId} {buffer other : TypedBuffer}
    (found : s.bufs.get id = some other) (balanced : Balanced (buffer.owned ++ hand) s) :
    Balanced (other.owned ++ hand) { s with bufs := s.bufs.set id buffer } := by
  refine balanced.moved ⟨rfl, rfl, rfl, rfl⟩ fun p => ?_
  have split := count_of_get found p
  have after := count_set s id buffer p
  have slots : ({ s with bufs := s.bufs.set id buffer } : State).inSlots = s.inSlots := rfl
  rw [slots, List.count_append, List.count_append]
  omega

theorem balanced_allocBuf {hand : List Ptr} {s : State} (id : BufId) (ctx : CtxId) (len : Nat)
    (balanced : Balanced hand s) : Balanced hand (s.allocBuf id ctx len) := by
  unfold allocBuf
  cases found : s.bufs.get id with
  | some => exact balanced
  | none =>
      have positive : s.nextPtr ≠ 0 := Nat.ne_of_gt balanced.ledger.positive
      have allocated := balanced_tpalloc ctx balanced
      have inHand : Balanced (TypedBuffer.owned ⟨ctx, (s.tpalloc ctx).1, len⟩ ++ hand)
          (s.tpalloc ctx).2 := by
        simpa [TypedBuffer.owned, tpalloc, positive] using allocated
      exact balanced_store found inHand

theorem balanced_dropBuf {hand : List Ptr} {s : State} (id : BufId) (balanced : Balanced hand s) :
    Balanced hand (s.dropBuf id) := by
  unfold dropBuf
  cases found : s.bufs.get id with
  | none => exact balanced
  | some buffer => exact balanced_drop (balanced_load found balanced)

/-- Whatever a closure does with its buffer, it leaves with one it owns. -/
theorem balanced_editAct {hand : List Ptr} {s : State} {buffer : TypedBuffer} (act : EditAct)
    (balanced : Balanced (buffer.owned ++ hand) s) :
    Balanced ((s.editAct buffer act).1.owned ++ hand) (s.editAct buffer act).2 := by
  cases act with
  | tprealloc len =>
      have freed := balanced_drop balanced
      have positive : (s.tpfree buffer.ptr).nextPtr ≠ 0 := Nat.ne_of_gt freed.ledger.positive
      have allocated := balanced_tpalloc buffer.ctx freed
      simpa [editAct, TypedBuffer.owned, tpalloc, positive] using allocated
  | setLen len => exact balanced
  | swap id =>
      simp only [editAct]
      cases found : s.bufs.get id with
      | none => exact balanced
      | some other => exact balanced_swap found balanced
  | gone => simpa [editAct, TypedBuffer.owned] using balanced_drop balanced
  | tpalloc id ctx len => exact balanced_allocBuf id ctx len balanced
  | drop id => exact balanced_dropBuf id balanced

theorem balanced_runEdit {hand : List Ptr} : ∀ (acts : List EditAct) {buffer : TypedBuffer} {s : State},
    Balanced (buffer.owned ++ hand) s →
      Balanced ((runEdit acts buffer s).1.owned ++ hand) (runEdit acts buffer s).2
  | [], _, _, balanced => balanced
  | act :: acts, _, _, balanced => balanced_runEdit acts (balanced_editAct act balanced)

@[simp] theorem tpfree_slots (p : Ptr) (s : State) :
    (s.tpfree p).slots = s.slots ∧ (s.tpfree p).alive = s.alive := by
  unfold tpfree
  split <;> exact ⟨rfl, rfl⟩

theorem editAct_slots (buffer : TypedBuffer) (s : State) (act : EditAct) :
    (s.editAct buffer act).2.slots = s.slots ∧ (s.editAct buffer act).2.alive = s.alive := by
  cases act with
  | tprealloc | gone => simp [editAct, State.tpalloc]
  | setLen => exact ⟨rfl, rfl⟩
  | swap id | tpalloc id =>
      simp only [editAct, allocBuf]
      split <;> exact ⟨rfl, rfl⟩
  | drop id =>
      simp only [editAct, dropBuf]
      split <;> simp

/-- A closure does not see the slots. -/
theorem runEdit_slots : ∀ (acts : List EditAct) (buffer : TypedBuffer) (s : State),
    (runEdit acts buffer s).2.slots = s.slots ∧ (runEdit acts buffer s).2.alive = s.alive
  | [], _, _ => ⟨rfl, rfl⟩
  | act :: acts, buffer, s => by
      obtain ⟨slots, alive⟩ := runEdit_slots acts (s.editAct buffer act).1 (s.editAct buffer act).2
      obtain ⟨slots₁, alive₁⟩ := editAct_slots buffer s act
      exact ⟨slots.trans slots₁, alive.trans alive₁⟩

theorem clear_slots (p : Ptr) (s : State) : (s.clear p).alive = s.alive ∧ (s.clear p).slots =
    { s.slots with
      pointers := repointed (fun i => s.slots.pointers i = p) 0 s.slots.pointers
      lengths := fun i => if s.slots.pointers i = p then 0 else s.slots.lengths i } := by
  unfold clear
  refine ⟨?_, syncNative_slots _⟩
  obtain ⟨_, _, same⟩ := syncNative_frame _
  rw [same]

theorem clear_bufs (p : Ptr) (s : State) : (s.clear p).bufs = s.bufs := by
  unfold clear
  obtain ⟨_, _, same⟩ := syncNative_frame _
  rw [same]

/-- The edited buffer goes back to the slots its take emptied. -/
theorem balanced_writeback {hand : List Ptr} {s : State} {aliases : TpScrSlot → Bool}
    {buffer : TypedBuffer} (alive : s.alive = true) (some : ∃ i, aliases i = true)
    (emptied : ∀ i, aliases i = true → s.slots.pointers i = 0)
    (balanced : Balanced (buffer.owned ++ hand) s) : Balanced hand (s.writeback aliases buffer) := by
  have moved := balanced_sync (balanced_repoint hand { s.slots with
      pointers := repointed (fun i => aliases i = true) buffer.ptr s.slots.pointers
      lengths := fun i => if aliases i then Int.bmod buffer.len (2 ^ 64) else s.slots.lengths i }
    alive (by rwa [owned_incoming alive balanced]) (counts_repointed some emptied))
  rw [displaced, incoming, if_neg (by simp)] at moved
  exact moved

/-- The buffer a closure leaves behind is in hand until it is written back. -/
theorem balanced_closure {hand : List Ptr} {s : State} {slot : TpScrSlot} (len : Nat)
    (acts : List EditAct) (alive : s.alive = true) (present : s.slots.pointers slot ≠ 0)
    (balanced : Balanced hand s) :
    let edited := runEdit acts ⟨s.slots.ctx, s.slots.pointers slot, len⟩ (s.clear (s.slots.pointers slot))
    Balanced (edited.1.owned ++ hand) edited.2 := by
  intro edited
  have taken := balanced_clear alive present balanced
  have inHand : Balanced (TypedBuffer.owned ⟨s.slots.ctx, s.slots.pointers slot, len⟩ ++ hand)
      (s.clear (s.slots.pointers slot)) := by
    simpa [TypedBuffer.owned, present] using taken
  exact balanced_runEdit acts inHand

/-- An edit that took its buffer gives it back, however its closure ends. -/
theorem balanced_edited {hand : List Ptr} {s : State} {slot : TpScrSlot} (len : Nat)
    (acts : List EditAct) (alive : s.alive = true) (present : s.slots.pointers slot ≠ 0)
    (balanced : Balanced hand s) :
    let edited := runEdit acts ⟨s.slots.ctx, s.slots.pointers slot, len⟩ (s.clear (s.slots.pointers slot))
    Balanced hand (edited.2.writeback (s.aliases slot) edited.1) := by
  intro edited
  have after := balanced_closure len acts alive present balanced
  obtain ⟨slots, still⟩ := runEdit_slots acts ⟨s.slots.ctx, s.slots.pointers slot, len⟩
    (s.clear (s.slots.pointers slot))
  obtain ⟨cleared, emptied⟩ := clear_slots (s.slots.pointers slot) s
  refine balanced_writeback (still.trans (cleared.trans alive)) ⟨slot, ?_⟩ (fun i named => ?_) after
  · simpa [aliases] using present
  · have same : s.slots.pointers i = s.slots.pointers slot := by
      simp only [aliases, decide_eq_true_eq] at named
      exact named.2
    rw [slots, emptied]
    simp [repointed, same]

theorem balanced_edit {hand : List Ptr} {s : State} (slot : TpScrSlot) (answer : Answer)
    (acts : List EditAct) (outcome : Outcome) (alive : s.alive = true) (balanced : Balanced hand s) :
    Balanced hand (s.edit slot answer acts outcome).2 := by
  unfold edit
  rcases take_cases slot answer s with ⟨result, took, none⟩ | ⟨len, present, took⟩ <;> rw [took]
  · cases result with
    | error => exact balanced
    | ok found =>
        cases found with
        | none => exact balanced
        | some buffer => exact absurd rfl (none buffer)
  · exact balanced_edited len acts alive present balanced

theorem balanced_editUbf {hand : List Ptr} {s : State} (slot : TpScrSlot) (answer : UbfAnswer)
    (acts : List EditAct) (outcome : Outcome) (alive : s.alive = true) (balanced : Balanced hand s) :
    Balanced hand (s.editUbf slot answer acts outcome).2 := by
  unfold editUbf
  split
  · exact balanced
  · exact balanced
  · split
    · exact balanced
    · split
      · exact balanced
      · rcases take_cases slot answer.take s with ⟨result, took, none⟩ | ⟨len, present, took⟩ <;> rw [took]
        · cases result with
          | error => exact balanced
          | ok found =>
              cases found with
              | none => exact balanced
              | some buffer => exact absurd rfl (none buffer)
        · simp only
          split
          · exact balanced_tpfree present (balanced_clear alive present balanced)
          · exact balanced_edited len acts alive present balanced

/-! ## The script VM and the end of the collection -/

/-- The numbers of the next allocations. -/
theorem balanced_allocFresh {hand : List Ptr} : ∀ (n : Nat) {s : State}, Balanced hand s →
    Balanced ((List.range n).map (s.nextPtr + ·) ++ hand) (s.allocFresh n)
  | 0, _, balanced => balanced
  | n + 1, s, balanced => by
      have rest := balanced_allocFresh n (balanced_tpalloc s.slots.ctx balanced)
      have numbers : (List.range (n + 1)).map (s.nextPtr + ·) =
          s.nextPtr :: (List.range n).map ((s.tpalloc s.slots.ctx).2.nextPtr + ·) := by
        rw [List.range_succ_eq_map, List.map_cons, List.map_map, Nat.add_zero]
        refine congrArg (s.nextPtr :: ·) (List.map_congr_left fun k _ => ?_)
        exact (Nat.succ_add_eq_add_succ s.nextPtr k).symm
      rw [numbers]
      refine rest.moved ⟨rfl, rfl, rfl, rfl⟩ fun p => ?_
      simp only [allocFresh, tpalloc, List.cons_append, List.count_append, List.count_cons]
      omega

theorem allocFresh_slots : ∀ (n : Nat) (s : State),
    (s.allocFresh n).slots = s.slots ∧ (s.allocFresh n).alive = s.alive
  | 0, _ => ⟨rfl, rfl⟩
  | n + 1, s => allocFresh_slots n (s.tpalloc s.slots.ctx).2

theorem fold_slots : ∀ (ps : List Ptr) (s : State),
    (ps.foldl (fun s p => s.tpfree p) s).slots = s.slots ∧
      (ps.foldl (fun s p => s.tpfree p) s).alive = s.alive
  | [], _ => ⟨rfl, rfl⟩
  | p :: ps, s => by
      obtain ⟨slots, alive⟩ := fold_slots ps (s.tpfree p)
      exact ⟨slots.trans (tpfree_slots p s).1, alive.trans (tpfree_slots p s).2⟩

/-- A slot of the script points to nothing, to what a slot had, or to something new. -/
theorem resolve_mem {script : VmScript} {s : State} {at? : VmPtr} (named : s.resolve script at? ≠ 0) :
    s.resolve script at? ∈ s.candidates script := by
  unfold candidates
  cases at? with
  | null => exact absurd rfl named
  | slot i => exact List.mem_append_left _ (mem_slotPtrs.2 ⟨named, names_iff.2 ⟨i, rfl⟩⟩)
  | fresh k =>
      simp only [resolve] at named ⊢
      split at named
      · rename_i made
        refine List.mem_append_right _ (List.mem_map.2 ⟨k, List.mem_range.2 made, ?_⟩)
        simp [made]
      · exact absurd rfl named

/-- Of a pool that holds all the slots name, what no slot names is the rest. -/
theorem counts_unnamed {pool : List Ptr} {pointers : TpScrSlot → Ptr} (once : pool.Nodup)
    (positive : 0 ∉ pool) (within : ∀ i, pointers i ≠ 0 → pointers i ∈ pool) (p : Ptr) :
    (pool.filter fun p => ∀ i ∈ TpScrSlot.all, pointers i ≠ p).count p + (slotPtrs pointers).count p =
      pool.count p := by
  rw [count_slotPtrs]
  by_cases named : Names pointers p
  · obtain ⟨i, member, same⟩ := named
    have kept : p ∉ pool.filter fun p => ∀ i ∈ TpScrSlot.all, pointers i ≠ p := by
      simp only [List.mem_filter, decide_eq_true_eq, not_and]
      exact fun _ other => other i member same
    rw [List.count_eq_zero.2 kept]
    by_cases null : p = 0
    · subst null
      simp [List.count_eq_zero.2 positive]
    · have inPool : p ∈ pool := same ▸ within i fun zero => null (same.symm.trans zero)
      have isNamed : Names pointers p := ⟨i, member, same⟩
      simp [List.count_eq_one_of_mem once inPool, null, isNamed]
  · rw [List.count_filter]
    · simp [named]
    · simpa [Names] using named

/-- The script may rewrite the slots as it likes: it frees each allocation it drops. -/
theorem balanced_runVm {hand : List Ptr} {s : State} (script : VmScript) (alive : s.alive = true)
    (balanced : Balanced hand s) : Balanced hand (s.runVm script) := by
  have fresh := balanced_allocFresh script.fresh balanced
  obtain ⟨slots, still⟩ := allocFresh_slots script.fresh s
  have once : (s.candidates script).Nodup := by
    have total := List.nodup_iff_count_le_one.1 fresh.ledger.held_nodup
    refine List.nodup_iff_count_le_one.2 fun p => Nat.le_trans ?_ (total p)
    simp only [candidates, inSlots, still, alive, slots, if_true, List.count_append]
    omega
  have positive : 0 ∉ s.candidates script := by
    have next := balanced.ledger.positive
    simp only [candidates, List.mem_append, mem_slotPtrs, List.mem_map, not_or]
    refine ⟨fun zero => zero.1 rfl, fun ⟨k, _, zero⟩ => ?_⟩
    exact Nat.ne_of_gt (Nat.add_pos_left next k) zero
  have within : ∀ i, s.resolve script (script.pointers i) ≠ 0 →
      s.resolve script (script.pointers i) ∈ s.candidates script := fun i named => resolve_mem named
  have moved := balanced_repoint hand { s.slots with
      pointers := fun i => s.resolve script (script.pointers i), lengths := script.lengths } (still.trans alive) fresh fun p => by
      rw [slots, counts_unnamed once positive within p, candidates, List.count_append]
      omega
  have freed := balanced_freeAll (fun zero => positive (List.mem_filter.1 zero).1) moved
  simp only [runVm, slots]
  exact freed

theorem balanced_executeValue {hand : List Ptr} {s : State} (ctx : CtxId) (name : String)
    (script : VmScript) (alive : s.alive = true) (balanced : Balanced hand s) :
    Balanced hand (s.executeValue ctx name script).2 := by
  unfold executeValue
  split
  · exact balanced
  · split
    · exact balanced
    · exact balanced_sync (balanced_runVm script alive balanced)

/-- Dropping the collection frees each allocation once. -/
theorem balanced_dropSlots {hand : List Ptr} {s : State} (alive : s.alive = true)
    (owned : s.slots.owned = true) (balanced : Balanced hand s) : Balanced hand s.dropSlots := by
  have none : slotPtrs (fun _ => 0) = [] := rfl
  have counts : ∀ p, (slotPtrs s.slots.pointers).count p + (slotPtrs fun _ => 0).count p =
      [].count p + (slotPtrs s.slots.pointers).count p := fun p => by simp [none]
  have moved := balanced_sync (balanced_repoint hand
    { s.slots with pointers := fun _ => 0, lengths := fun _ => 0 } alive
    (show Balanced ([] ++ hand) s from balanced) counts)
  have gone : Balanced (slotPtrs s.slots.pointers ++ hand) { syncNative { s with slots :=
      { s.slots with pointers := fun _ => 0, lengths := fun _ => 0 } } with alive := false } := by
    refine moved.moved ⟨rfl, rfl, rfl, rfl⟩ fun p => ?_
    have slots : inSlots (syncNative { s with slots :=
        { s.slots with pointers := fun _ => 0, lengths := fun _ => 0 } }) = [] := by
      simp [inSlots, none]
    rw [slots]
    rfl
  unfold dropSlots
  rw [if_neg (by simp [owned])]
  exact balanced_freeAll (fun zero => (mem_slotPtrs.1 zero).1 rfl) gone

/-! ## Steps -/

/-- How a step leaves the slots, as one rewriting of pointers and lengths. -/
inductive Move (s : State) (label : Label) : TpScrBuffers → Prop
  | same : Move s label s.slots
  /-- One slot and those linked to it. -/
  | replaced (index : TpScrSlot) (next : Ptr) (length : Int) : Move s label
      { s.slots with
        pointers := repointed (fun i => s.slots.links i = s.slots.links index) next s.slots.pointers
        lengths := fun i => if s.slots.links i = s.slots.links index then length else s.slots.lengths i }
  /-- Every slot that names one allocation. -/
  | renamed (slot : TpScrSlot) (next : Ptr) (length : Int) (present : s.slots.pointers slot ≠ 0) :
      Move s label
      { s.slots with
        pointers := repointed (fun i => s.slots.pointers i = s.slots.pointers slot) next s.slots.pointers
        lengths := fun i =>
          if s.slots.pointers i = s.slots.pointers slot then length else s.slots.lengths i }
  | ran (ctx : CtxId) (name : String) (script : VmScript) (same : label = .tpscrexec ctx name script)
      (alive : s.alive = true) (own : ctx = s.slots.ctx) (text : Char.ofNat 0 ∉ name.toList) :
      Move s label
      { s.slots with
        pointers := fun i => s.resolve script (script.pointers i), lengths := script.lengths }
  | dropped : Move s label { s.slots with pointers := fun _ => 0, lengths := fun _ => 0 }

theorem replace_slots {s₀ s : State} {label : Label} (index : TpScrSlot) (next : Ptr) (length : Int)
    (same : s.slots = s₀.slots) : Move s₀ label (s.replace index next length).slots := by
  have moved : Move s₀ label _ := .replaced index next length
  rw [← same] at moved
  unfold replace
  simp only
  split
  · rw [(tpfree_slots _ _).1, syncNative_slots]
    exact moved
  · rw [syncNative_slots]
    exact moved

theorem set_slots {s₀ s : State} {label : Label} (slot : TpScrSlot) (buffer : Option TypedBuffer)
    (same : s.slots = s₀.slots) : Move s₀ label (s.set slot buffer).2.slots := by
  have unchanged : Move s₀ label s.slots := same ▸ .same
  unfold set
  split
  · cases buffer <;> simpa using unchanged
  · cases buffer with
    | none => exact replace_slots slot 0 0 same
    | some buffer =>
        simp only
        split
        · simpa using unchanged
        · split
          · simpa using unchanged
          · exact replace_slots slot _ _ same

theorem clear_move {label : Label} {slot : TpScrSlot} {s : State} (present : s.slots.pointers slot ≠ 0) :
    Move s label (s.clear (s.slots.pointers slot)).slots := by
  rw [(clear_slots _ s).2]
  exact .renamed slot 0 0 present

theorem writeback_move {label : Label} {s : State} {slot : TpScrSlot} (len : Nat) (acts : List EditAct)
    (present : s.slots.pointers slot ≠ 0) :
    let edited := runEdit acts ⟨s.slots.ctx, s.slots.pointers slot, len⟩ (s.clear (s.slots.pointers slot))
    Move s label (edited.2.writeback (s.aliases slot) edited.1).slots := by
  intro edited
  have moved : Move s label _ := .renamed slot edited.1.ptr (Int.bmod edited.1.len (2 ^ 64)) present
  have slots := (runEdit_slots acts ⟨s.slots.ctx, s.slots.pointers slot, len⟩
    (s.clear (s.slots.pointers slot))).1.trans (clear_slots _ s).2
  have aliased : ∀ i, s.aliases slot i = true ↔ s.slots.pointers i = s.slots.pointers slot :=
    fun i => by simp [aliases, present]
  have pointers : (fun i => if s.aliases slot i = true then edited.1.ptr else edited.2.slots.pointers i) =
      repointed (fun i => s.slots.pointers i = s.slots.pointers slot) edited.1.ptr s.slots.pointers := by
    funext i
    by_cases named : s.slots.pointers i = s.slots.pointers slot <;> simp [aliased, repointed, slots, edited, named]
  have lengths : (fun i => if s.aliases slot i = true then Int.bmod edited.1.len (2 ^ 64)
        else edited.2.slots.lengths i) =
      fun i => if s.slots.pointers i = s.slots.pointers slot then Int.bmod edited.1.len (2 ^ 64)
        else s.slots.lengths i := by
    funext i
    by_cases named : s.slots.pointers i = s.slots.pointers slot <;> simp [aliased, slots, edited, named]
  simp only [writeback, syncNative_slots, pointers, lengths]
  rw [show edited.2.slots = _ from slots]
  exact moved

theorem edit_slots (slot : TpScrSlot) (answer : Answer) (acts : List EditAct) (outcome : Outcome)
    (s : State) {label : Label} : Move s label (s.edit slot answer acts outcome).2.slots := by
  unfold edit
  rcases take_cases slot answer s with ⟨result, took, none⟩ | ⟨len, present, took⟩ <;> rw [took]
  · cases result with
    | error => exact .same
    | ok found =>
        cases found with
        | none => exact .same
        | some buffer => exact absurd rfl (none buffer)
  · exact writeback_move len acts present

theorem editUbf_slots (slot : TpScrSlot) (answer : UbfAnswer) (acts : List EditAct) (outcome : Outcome)
    (s : State) {label : Label} : Move s label (s.editUbf slot answer acts outcome).2.slots := by
  unfold editUbf
  split
  · exact .same
  · exact .same
  · split
    · exact .same
    · split
      · exact .same
      · rcases take_cases slot answer.take s with ⟨result, took, none⟩ | ⟨len, present, took⟩ <;> rw [took]
        · cases result with
          | error => exact .same
          | ok found =>
              cases found with
              | none => exact .same
              | some buffer => exact absurd rfl (none buffer)
        · simp only
          split
          · rw [(tpfree_slots _ _).1]
            exact clear_move present
          · exact writeback_move len acts present

theorem runVm_slots (script : VmScript) (s : State) : (s.runVm script).slots =
    { s.slots with
      pointers := fun i => s.resolve script (script.pointers i), lengths := script.lengths } := by
  simp only [runVm, (allocFresh_slots script.fresh s).1]
  rw [(fold_slots _ _).1]

theorem takeInto_slots (slot : TpScrSlot) (answer : Answer) (id : BufId) (s : State)
    {label : Label} : Move s label (s.takeInto slot answer id).slots := by
  unfold takeInto
  split
  · exact .same
  · rcases take_cases slot answer s with ⟨result, took, none⟩ | ⟨len, present, took⟩ <;> rw [took]
    · cases result with
      | error => exact .same
      | ok found =>
          cases found with
          | none => exact .same
          | some buffer => exact absurd rfl (none buffer)
    · exact clear_move present

theorem allocBuf_slots (id : BufId) (ctx : CtxId) (len : Nat) (s : State) :
    (s.allocBuf id ctx len).slots = s.slots := (editAct_slots ⟨ctx, 0, len⟩ s (.tpalloc id ctx len)).1

theorem dropBuf_slots (id : BufId) (s : State) : (s.dropBuf id).slots = s.slots :=
  (editAct_slots ⟨0, 0, 0⟩ s (.drop id)).1

theorem dropSlots_slots (s : State) {label : Label} : Move s label s.dropSlots.slots := by
  unfold dropSlots
  split
  · exact .same
  · simp only
    rw [(fold_slots _ _).1]
    simp only [syncNative_slots]
    exact .dropped

/-- **What a step can do to the slots.** -/
theorem step_slots (s : State) (label : Label) : Move s label (s.step label).slots := by
  unfold step
  split
  · rename_i alive
    cases label with
    | tpalloc id ctx len =>
        rw [stepSlots, allocBuf_slots]
        exact .same
    | drop id =>
        rw [stepSlots, dropBuf_slots]
        exact .same
    | set slot id =>
        cases id with
        | none => exact set_slots slot none rfl
        | some id =>
            simp only [stepSlots, setFrom]
            split
            · exact set_slots slot _ rfl
            · exact .same
    | aliasSlot destination source =>
        simp only [stepSlots, aliasSlot]
        split
        · exact .same
        · exact replace_slots _ _ _ rfl
    | get => exact .same
    | take slot answer id => exact takeInto_slots slot answer id s
    | edit slot answer acts outcome => exact edit_slots slot answer acts outcome s
    | editUbf slot answer acts outcome => exact editUbf_slots slot answer acts outcome s
    | tpscrexec ctx name script =>
        simp only [stepSlots, executeValue]
        split
        · exact .same
        · rename_i own
          split
          · exact .same
          · rename_i text
            rw [syncNative_slots, runVm_slots]
            exact .ran ctx name script rfl alive (not_not.1 own) text
    | dropSlots => exact dropSlots_slots s
  · cases label with
    | tpalloc id ctx len =>
        rw [allocBuf_slots]
        exact .same
    | drop id =>
        rw [dropBuf_slots]
        exact .same
    | _ => exact .same

/-- No step changes the shape of a collection. -/
theorem Move.shape {s : State} {label : Label} {slots : TpScrBuffers} (moved : Move s label slots) :
    ∃ pointers lengths, slots = { s.slots with pointers, lengths } := by
  cases moved with
  | same => exact ⟨s.slots.pointers, s.slots.lengths, rfl⟩
  | replaced | renamed | ran | dropped => exact ⟨_, _, rfl⟩

/-- The steps that put something else in a slot. -/
def replaces : Label → Bool
  | .set _ _ | .aliasSlot _ _ => true
  | _ => false

/-- **One step** keeps the ledger, if linked slots agree whenever one is replaced. -/
theorem balanced_step {hand : List Ptr} {s : State} (label : Label) (owned : s.slots.owned = true)
    (agreed : replaces label = true → Agreed s.slots) (balanced : Balanced hand s) :
    Balanced hand (s.step label) := by
  unfold step
  split
  · rename_i alive
    cases label with
    | tpalloc id ctx len => exact balanced_allocBuf id ctx len balanced
    | drop id => exact balanced_dropBuf id balanced
    | set slot id =>
        cases id with
        | none => exact balanced_set slot alive (agreed rfl) balanced
        | some id =>
            simp only [stepSlots, setFrom]
            cases found : s.bufs.get id with
            | none => exact balanced
            | some buffer =>
                have inHand := balanced_load found balanced
                exact balanced_set slot alive (agreed rfl) (by simpa using inHand)
    | aliasSlot destination source => exact balanced_alias destination source alive (agreed rfl) balanced
    | get => exact balanced
    | take slot answer id =>
        simp only [stepSlots, takeInto]
        split
        · exact balanced
        · rename_i unused
          have free : s.bufs.get id = none := by simpa using unused
          rcases take_cases slot answer s with ⟨result, took, none⟩ | ⟨len, present, took⟩ <;> rw [took]
          · cases result with
            | error => exact balanced
            | ok found =>
                cases found with
                | none => exact balanced
                | some buffer => exact absurd rfl (none buffer)
          · refine balanced_store (by rw [clear_bufs]; exact free) ?_
            simpa [TypedBuffer.owned, present] using balanced_clear alive present balanced
    | edit slot answer acts outcome => exact balanced_edit slot answer acts outcome alive balanced
    | editUbf slot answer acts outcome => exact balanced_editUbf slot answer acts outcome alive balanced
    | tpscrexec ctx name script => exact balanced_executeValue ctx name script alive balanced
    | dropSlots => exact balanced_dropSlots alive owned balanced
  · cases label with
    | tpalloc id ctx len => exact balanced_allocBuf id ctx len balanced
    | drop id => exact balanced_dropBuf id balanced
    | _ => exact balanced

theorem Balanced.refs {hand : List Ptr} {s : State} (balanced : Balanced hand s) {p : Ptr}
    (named : p ∈ s.inSlots ++ s.inBufs) : p ∈ s.live.keys ∧ p ∉ s.freed :=
  balanced.ledger.held_live (List.mem_append_right _ named)

end State

/-! ## Runs -/

theorem index_injective {i j : TpScrSlot} (same : i.index = j.index) : i = j := by
  cases i <;> cases j <;> simp_all [TpScrSlot.index]

/-- What a collection made by `new` keeps. -/
theorem new_step {s : State} (label : Label)
    (reached : s.slots.links = TpScrSlot.index ∧ s.slots.owned = true ∧ State.Balanced [] s) :
    (s.step label).slots.links = TpScrSlot.index ∧ (s.step label).slots.owned = true ∧
      State.Balanced [] (s.step label) := by
  obtain ⟨links, owned, balanced⟩ := reached
  obtain ⟨pointers, lengths, same⟩ := (State.step_slots s label).shape
  have agreed : State.Agreed s.slots := fun i j linked => by
    rw [links] at linked
    rw [index_injective linked]
    exact ⟨rfl, rfl⟩
  refine ⟨?_, ?_, State.balanced_step label owned (fun _ => agreed) balanced⟩
  · exact (congrArg TpScrBuffers.links same).trans links
  · exact (congrArg TpScrBuffers.owned same).trans owned

/-- The run of a collection made by `new`, with the shape it keeps. -/
theorem new_reachable (ctx : CtxId) (labels : List Label) :
    let s := (machine { slots := .new ctx }).run labels
    s.slots.links = TpScrSlot.index ∧ s.slots.owned = true ∧ State.Balanced [] s :=
  Machine.invariant (M := machine { slots := .new ctx })
    (P := fun s => s.slots.links = TpScrSlot.index ∧ s.slots.owned = true ∧ State.Balanced [] s)
    ⟨rfl, rfl, ⟨Ledger.empty, rfl⟩⟩ (fun _ label reached => new_step label reached) labels

/-- **Script buffers are freed once, by their last owner**: after any run from `new`, what a slot
or a variable names is live, no allocation has two owners, nothing was freed twice or while it
was named, and what nobody names was freed. -/
theorem script_buffers_owned (ctx : CtxId) (labels : List Label) :
    let s := (machine { slots := .new ctx }).run labels
    (∀ p ∈ s.inSlots ++ s.inBufs, p ∈ s.live.keys ∧ p ∉ s.freed) ∧ (s.inSlots ++ s.inBufs).Nodup ∧
      s.early = [] ∧ s.freed.Nodup ∧
      (∀ p, 0 < p ∧ p < s.nextPtr → p ∉ s.inSlots ++ s.inBufs → p ∈ s.freed) ∧
      (s.alive = false → s.inSlots = []) := by
  intro s
  obtain ⟨-, -, balanced⟩ := new_reachable ctx labels
  refine ⟨fun p named => balanced.refs named, ?_, balanced.inTime, balanced.ledger.freed_nodup, ?_, ?_⟩
  · simpa using balanced.ledger.held_nodup
  · intro p handed unnamed
    rcases balanced.ledger.accounted handed with held | gone
    · exact absurd (by simpa using held) unnamed
    · exact gone
  · intro dropped
    simp [State.inSlots, dropped]

end Endurox.Script
