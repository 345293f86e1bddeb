/-
# Typed.Settled -- addresses are handed out in order

Native code hands out the addresses, and a pointer that is stored, held by a value or
written out was copied from one that was there.  So no pointer of a state that a program
reaches names an allocation still to come (`settled_reachable`), if the messages it
receives point within themselves: which is what the deep clone asks of the state it
starts from.
-/
import Endurox.Typed.Steady

namespace Endurox.Typed

open Endurox.Theory

set_option autoImplicit false

namespace State

variable {n : Addr} {s u : State}

/-! ## Allocations -/

/-- A step that leaves values and dumps alone. -/
theorem Inside.onHeap (inside : s.Inside n) (bufs : u.bufs = s.bufs) (nextBuf : u.nextBuf = s.nextBuf)
    (dumps : u.dumps = s.dumps) (next : s.next ≤ u.next) (null : u.heap.get 0 = none)
    (entries : ∀ a allocation, u.heap.get a = some allocation →
      a < u.next ∧ ∀ p ∈ targetsIn allocation.fields, p < u.next) : u.Inside n where
  settled :=
    { null
      positive := Nat.lt_of_lt_of_le inside.settled.positive next
      inside := entries
      fresh := fun id later => bufs ▸ inside.settled.fresh id (nextBuf ▸ later) }
  reach := Nat.le_trans inside.reach next
  held id place owned := Nat.lt_of_lt_of_le (inside.held id place (bufs ▸ owned)) next
  dumped fields member p there := Nat.lt_of_lt_of_le (inside.dumped fields (dumps ▸ member) p there) next

theorem dumps_rewrite (ptr : Addr) (change : Allocation → Allocation) (s : State) :
    (s.rewrite ptr change).dumps = s.dumps := by
  unfold rewrite
  split <;> rfl

theorem dumps_bury (ptr : Addr) (s : State) : (s.bury ptr).2.dumps = s.dumps := by
  unfold bury
  split <;> rfl

/-- One allocation changes, and points to what it did or to what was handed out. -/
theorem Inside.onEntry (inside : s.Inside n) {ptr : Addr} {change : Allocation → Allocation}
    (get : ∀ a, u.heap.get a = if a = ptr then (s.heap.get ptr).map change else s.heap.get a)
    (bufs : u.bufs = s.bufs) (nextBuf : u.nextBuf = s.nextBuf) (dumps : u.dumps = s.dumps)
    (next : u.next = s.next)
    (fields : ∀ a, ∀ p ∈ targetsIn (change a).fields, p ∈ targetsIn a.fields ∨ p < s.next) : u.Inside n := by
  refine inside.onHeap bufs nextBuf dumps (Nat.le_of_eq next.symm) ?_ fun a allocation found => ?_
  · rw [get]
    split
    · rename_i here
      rw [← here, inside.settled.null]
      rfl
    · exact inside.settled.null
  · rw [get] at found
    rw [next]
    split at found
    · rename_i here
      obtain ⟨was, there, rfl⟩ := Option.map_eq_some_iff.1 found
      obtain ⟨named, pointed⟩ := inside.settled.inside ptr was there
      exact ⟨here ▸ named, fun p member => (fields was p member).elim (pointed p) id⟩
    · exact inside.settled.inside a allocation found

theorem Inside.rewrite (inside : s.Inside n) (ptr : Addr) {change : Allocation → Allocation}
    (fields : ∀ a, ∀ p ∈ targetsIn (change a).fields, p ∈ targetsIn a.fields ∨ p < s.next) :
    (s.rewrite ptr change).Inside n :=
  have ⟨next, bufs, nextBuf, _, _⟩ := rewrite_rest ptr change s
  inside.onEntry (fun a => get_rewrite ptr a change s) bufs nextBuf (dumps_rewrite ptr change s) next fields

/-- Nothing but the bytes of an allocation. -/
theorem Inside.bytes (inside : s.Inside n) (ptr : Addr) (change : Allocation → List Byte) :
    (s.rewrite ptr fun a => { a with bytes := change a }).Inside n :=
  inside.rewrite ptr fun _ _ member => .inl member

theorem Inside.bury (inside : s.Inside n) (ptr : Addr) : (s.bury ptr).2.Inside n :=
  have ⟨next, bufs, nextBuf, _⟩ := bury_rest ptr s
  inside.onEntry (fun a => get_bury ptr a s) bufs nextBuf (dumps_bury ptr s) next fun _ _ member => .inl member

theorem Inside.release :
    ∀ (fuel : Nat) (work : List Addr) {s : State}, s.Inside n → (s.release fuel work).Inside n
  | 0, _, _, inside => inside
  | _ + 1, [], _, inside => inside
  | fuel + 1, ptr :: _, _, inside => Inside.release fuel _ (inside.bury ptr)

theorem Inside.tpfree (inside : s.Inside n) (ptr : Addr) : (s.tpfree ptr).Inside n := by
  unfold State.tpfree
  split
  · exact inside
  · exact Inside.release _ _ inside

/-- A new allocation may point to itself and to what was there. -/
theorem Inside.allocate (inside : s.Inside n) {allocation : Allocation}
    (fields : ∀ p ∈ targetsIn allocation.fields, p ≤ s.next) : (s.allocate allocation).2.Inside n := by
  refine inside.onHeap rfl rfl rfl (Nat.le_succ s.next) ?_ fun a made found => ?_
  · simp [State.allocate, Nat.ne_of_lt inside.settled.positive, inside.settled.null]
  · simp only [State.allocate, Table.get_set] at found ⊢
    split at found
    · rename_i here
      cases found
      exact ⟨here ▸ Nat.lt_succ_self _, fun p member => Nat.lt_succ_of_le (fields p member)⟩
    · obtain ⟨named, pointed⟩ := inside.settled.inside a made found
      exact ⟨Nat.lt_succ_of_lt named, fun p member => Nat.lt_succ_of_lt (pointed p member)⟩

/-- What is reallocated keeps its pointers, wherever it goes. -/
theorem Inside.reallocate (inside : s.Inside n) (ptr : Addr) (size : Nat) (moves : Bool) :
    (s.reallocate ptr size moves).2.Inside n ∧
      ∀ ptr', (s.reallocate ptr size moves).1 = some ptr' → ptr' < (s.reallocate ptr size moves).2.next := by
  unfold State.reallocate
  split
  · rename_i allocation found
    obtain ⟨named, pointed⟩ := inside.settled.inside ptr allocation found
    split
    · split
      · refine ⟨(inside.bury ptr).allocate fun p member => ?_, fun ptr' same => ?_⟩
        · rw [(bury_rest ptr s).1]
          exact Nat.le_of_lt (pointed p member)
        · cases same
          exact Nat.lt_succ_self _
      · have resized : (s.rewrite ptr (Allocation.resize size)).Inside n :=
          inside.rewrite ptr fun _ _ member => .inl member
        unfold State.rewrite at resized
        rw [found] at resized
        exact ⟨resized, fun ptr' same => Option.some.inj same ▸ named⟩
    · exact ⟨inside, nofun⟩
  · exact ⟨inside, nofun⟩

/-! ## Values -/

/-- A step that leaves allocations and dumps alone. -/
theorem Inside.onBufs (inside : s.Inside n) (heap : u.heap = s.heap) (next : u.next = s.next)
    (dumps : u.dumps = s.dumps)
    (entries : ∀ id place, u.bufs.get id = some place → id < u.nextBuf ∧ place.buffer.ptr < s.next) :
    u.Inside n where
  settled :=
    { null := heap ▸ inside.settled.null
      positive := next ▸ inside.settled.positive
      inside := heap ▸ next ▸ inside.settled.inside
      fresh := fun id later => by
        cases found : u.bufs.get id with
        | none => rfl
        | some place => exact absurd (entries id place found).1 (Nat.not_lt_of_le later) }
  reach := next ▸ inside.reach
  held id place owned := next ▸ (entries id place owned).2
  dumped := dumps ▸ next ▸ inside.dumped

/-- A value that is there was handed out. -/
theorem Settled.handed (settled : s.Settled) {id : BufId} {place : Place} (owned : s.bufs.get id = some place) :
    id < s.nextBuf := by
  by_contra late
  rw [settled.fresh id (Nat.le_of_not_lt late)] at owned
  cases owned

theorem Inside.own (inside : s.Inside n) {place : Place} (below : place.buffer.ptr < s.next) :
    (s.own place).2.Inside n := by
  refine inside.onBufs rfl rfl rfl fun id other owned => ?_
  simp only [State.own, Table.get_set] at owned ⊢
  split at owned
  · rename_i here
    cases owned
    exact ⟨here ▸ Nat.lt_succ_self _, below⟩
  · exact ⟨Nat.lt_succ_of_lt (inside.settled.handed owned), inside.held id other owned⟩

theorem Inside.forget (inside : s.Inside n) (id : BufId) : (s.forget id).Inside n := by
  refine inside.onBufs rfl rfl rfl fun other place owned => ?_
  simp only [State.forget, Table.get_del] at owned
  split at owned
  · cases owned
  · exact ⟨inside.settled.handed owned, inside.held other place owned⟩

theorem Inside.drop (inside : s.Inside n) (id : BufId) : (s.drop id).Inside n := (inside.forget id).tpfree _

/-- A place written over, with an address that was handed out. -/
theorem Inside.place (inside : s.Inside n) {id : BufId} {was place : Place} (there : s.bufs.get id = some was)
    (below : place.buffer.ptr < s.next) : State.Inside n { s with bufs := s.bufs.set id place } := by
  refine inside.onBufs rfl rfl rfl fun other found owned => ?_
  simp only [Table.get_set] at owned
  split at owned
  · rename_i here
    cases owned
    subst here
    exact ⟨inside.settled.handed there, below⟩
  · exact ⟨inside.settled.handed owned, inside.held other found owned⟩

theorem Inside.setBuffer (inside : s.Inside n) (id : BufId) {buffer : TypedBuffer} (below : buffer.ptr < s.next) :
    (s.setBuffer id buffer).Inside n := by
  unfold State.setBuffer
  split
  · rename_i place there
    exact inside.place there below
  · exact inside

theorem next_setBuffer (id : BufId) (buffer : TypedBuffer) (s : State) : (s.setBuffer id buffer).next = s.next := by
  unfold State.setBuffer
  split <;> rfl

theorem Inside.setWrapper (inside : s.Inside n) (id : BufId) (wrapper : Wrapper) :
    (s.setWrapper id wrapper).Inside n := by
  unfold State.setWrapper
  split
  · rename_i place there
    exact inside.place there (inside.held id place there)
  · exact inside

theorem Inside.answered (n : Addr) : Answerable (State.Inside n) := fun _ inside =>
  inside.onBufs rfl rfl rfl fun id place owned => ⟨inside.settled.handed owned, inside.held id place owned⟩

end State

open State

/-! ## Reallocation and allocation -/

section Calls

variable (n : Addr)

/-- Work on an address that was handed out. -/
def Aims (ptr : Addr) (s : State) : Prop := s.Inside n ∧ ptr < s.next

variable {n}

theorem Aims.bytes {ptr : Addr} {s : State} (aims : Aims n ptr s) (change : Allocation → List Byte) :
    Aims n ptr (s.rewrite ptr fun a => { a with bytes := change a }) :=
  ⟨aims.1.bytes ptr change, by rw [(rewrite_rest _ _ s).1]; exact aims.2⟩

variable (n)

theorem tprealloc_inside (id : BufId) (newSize : Nat) : Keeps (State.Inside n) (tprealloc id newSize).run := by
  unfold tprealloc
  refine Keeps.tryBind Keeps.tryGet fun now => ?_
  refine Keeps.tryBind (Keeps.lift (next_keeps (Inside.answered n) Queue.reallocs_shrinks)) fun answer => ?_
  refine Keeps.tryBind (Keeps.outcome ((tptypesOf_ends answer.before _).mono (fun _ inside => inside)
    fun _ _ holds => holds.1)) fun before => ?_
  refine Keeps.tryBind Keeps.throwIf fun _ => Keeps.tryBind (refuseShrink_keeps _ _ _) fun _ => ?_
  split
  · exact Keeps.throw
  · rename_i more moves _
    refine Ends.tryBind (F := fun moved s => s.Inside n ∧ ∀ ptr, moved = .ok (some ptr) → ptr < s.next)
      (Ends.tryModifyGet fun s inside => ?_) (fun _ _ holds => holds.1) fun moved => ?_
    · have grown := inside.reallocate (now.buffer id).ptr (newSize + more) moves
      exact ⟨grown.1, fun ptr same => grown.2 ptr (Except.ok.inj same)⟩
    · cases moved with
      | none => exact Ends.throw fun _ holds => holds.1
      | some ptr =>
          refine Ends.mono (B := Aims n ptr) ?_ (fun _ holds => ⟨holds.1, holds.2 ptr rfl⟩) fun _ _ holds => holds
          refine Ends.tryOutcome ((tptypesOf_ends answer.after ptr).mono (fun _ aims => aims)
            fun _ _ holds => holds.1) fun grown => ?_
          refine Ends.tryBind (F := fun _ => Aims n ptr) ?_ (fun _ _ aims => aims.1) fun _ =>
            Ends.tryModify fun s aims => aims.1.setBuffer id aims.2
          unfold clearGrowth
          split
          · exact Keeps.runIf fun _ => Keeps.tryModify fun s aims => aims.bytes _
          · exact Keeps.tryPure

theorem allocNative_inside (type_ subtype : String) (size : Nat) (answer : AllocAnswer) :
    Ends (State.Inside n) (allocNative type_ subtype size answer).run fun result s =>
      s.Inside n ∧ ∀ ptr, result = .ok ptr → ptr < s.next := by
  unfold allocNative
  split
  · exact Ends.throw fun _ inside => ⟨inside, nofun⟩
  · exact Ends.tryModifyGet fun s inside =>
      ⟨inside.allocate nofun, fun _ same => Except.ok.inj same ▸ Nat.lt_succ_self s.next⟩

theorem tpalloc_inside (type_ subtype : String) (size : Nat) :
    Keeps (State.Inside n) (tpalloc type_ subtype size).run := by
  refine Keeps.tryBind Keeps.throwIf fun _ => Keeps.tryBind Keeps.throwIf fun _ => ?_
  refine Keeps.tryBind Keeps.throwIf fun _ => ?_
  refine Keeps.tryBind (Keeps.lift (next_keeps (Inside.answered n) Queue.allocs_shrinks)) fun answer => ?_
  refine Ends.tryBind (allocNative_inside n _ _ _ _) (fun _ _ holds => holds.1) fun ptr => ?_
  refine Ends.mono (B := Aims n ptr) ?_ (fun _ holds => ⟨holds.1, holds.2 ptr rfl⟩) fun _ _ holds => holds
  refine Ends.tryOutcome ((tptypesOf_ends answer.types ptr).mono (fun _ aims => aims) fun _ _ holds => holds.1)
    fun types => ?_
  refine Ends.tryBind (F := fun _ => Aims n ptr) ?_ (fun _ _ aims => aims.1) fun _ =>
    Ends.tryModifyGet fun s aims => aims.1.own aims.2
  unfold clearAll
  split
  · exact Keeps.runIf fun _ => Keeps.tryModify fun s aims => aims.bytes _
  · exact Keeps.tryPure

theorem tpallocUbf_inside (size : Nat) : Keeps (State.Inside n) (tpallocUbf size).run := by
  refine Keeps.tryBind Keeps.throwIf fun _ => ?_
  refine Keeps.tryBind (Keeps.lift (next_keeps (Inside.answered n) Queue.allocs_shrinks)) fun answer => ?_
  refine Ends.tryBind (allocNative_inside n _ _ _ answer) (fun _ _ holds => holds.1) fun ptr => ?_
  exact Ends.tryModifyGet fun s holds => holds.1.own (holds.2 ptr rfl)

theorem clonePlain_inside (source : Addr) (info : TpTypeInfo) :
    Keeps (State.Inside n) (clonePlain source info).run := by
  refine Keeps.tryBind (cloneSize_keeps info) fun size => Keeps.tryBind Keeps.throwIf fun _ => ?_
  refine Keeps.tryBind (allocating_keeps (tpalloc_inside n _ _ _)) fun copy => ?_
  refine Keeps.tryBind (orDrop_always ?_ fun _ inside => inside.drop copy) fun _ => Keeps.tryPure
  refine Keeps.tryBind Keeps.tryGet fun now => ?_
  refine Keeps.tryBind (allocating_keeps (tptypes_keeps (Inside.answered n) _)) fun made => ?_
  refine Keeps.tryBind Keeps.throwIf fun _ => Keeps.tryModify fun s inside => ?_
  unfold copyMemory
  split
  · exact inside.bytes _ _
  · exact inside

end Calls

/-- **Each change stays inside**: what it stores was handed out. -/
theorem inside_steady : Steady True State.Inside where
  inside _ inside := inside
  rebase inside := inside.rebase
  lower less inside := inside.lower (less trivial)
  answered := Inside.answered
  fields id change adds inside := inside.rewrite _ fun a p member =>
    (adds trivial a.fields p member).imp_right fun below => Nat.lt_of_lt_of_le below inside.reach
  freed ptr inside := inside.tpfree ptr
  forgotten id inside := inside.forget id
  owned _ below inside := inside.own (Nat.lt_of_lt_of_le (below trivial) inside.reach)
  unwrapped id inside := inside.setWrapper id .typed
  dumped id inside :=
    { inside with
      settled := ⟨inside.settled.null, inside.settled.positive, inside.settled.inside, inside.settled.fresh⟩
      dumped := fun fields member => by
        rcases List.mem_append.1 member with before | now
        · exact inside.dumped fields before
        · obtain rfl := List.mem_singleton.1 now
          exact inside.fieldsAt _ }
  tprealloc := tprealloc_inside
  tpallocUbf := tpallocUbf_inside
  tpalloc := tpalloc_inside
  copied ptr _ inside := inside.bytes ptr _
  masked ptr _ _ inside := inside.bytes ptr _
  measured id _ inside := inside.setBuffer id (inside.buffer id)
  clonePlain n source info :=
    (clonePlain_inside n source info).mono (fun _ holds => holds.1) fun _ _ inside => inside

/-! ## Messages -/

/-- A message whose pointers name its own buffers. -/
def Message.Closed (message : Message) : Prop :=
  ∀ part ∈ message.root :: message.parts, ∀ k ∈ targetsIn part.fields, k ≤ message.parts.length

mutual

theorem FieldValue.relocate_targets (base : Addr) : ∀ (value : FieldValue) (p : Addr),
    p ∈ (value.relocate base).targets → ∃ k ∈ value.targets, p = base + k
  | .plain .., _, member => nomatch member
  | .ptr target, p, member => by
      by_cases null : target = 0
      · simp [FieldValue.relocate, null] at member
      · rw [FieldValue.relocate, if_neg null, targets_ptr] at member
        split at member
        · cases member
        · exact ⟨target, by simp [null], List.mem_singleton.1 member⟩
  | .ubf fields, p, member => relocateIn_targets base fields p member

theorem relocateIn_targets (base : Addr) : ∀ (fields : Fields) (p : Addr),
    p ∈ targetsIn (relocateIn base fields) → ∃ k ∈ targetsIn fields, p = base + k
  | [], _, member => nomatch member
  | (_, value) :: fields, p, member => by
      rcases List.mem_append.1 member with here | later
      · obtain ⟨k, there, same⟩ := FieldValue.relocate_targets base value p here
        exact ⟨k, List.mem_append_left _ there, same⟩
      · obtain ⟨k, there, same⟩ := relocateIn_targets base fields p later
        exact ⟨k, List.mem_append_right _ there, same⟩

end

/-- A message's pointers reach no further than its parts. -/
theorem Message.Closed.below {message : Message} (closed : message.Closed) (base : Addr) :
    ∀ part ∈ message.root :: message.parts, ∀ p ∈ targetsIn (part.allocation base).fields,
      p < base + message.parts.length + 1 := by
  intro part member p there
  obtain ⟨k, held, rfl⟩ := relocateIn_targets base part.fields p there
  exact Nat.lt_succ_of_le (Nat.add_le_add_left (closed part member k held) base)

namespace State

variable {n bound : Addr} {s : State}

/-- More addresses may have been handed out than there are allocations. -/
theorem Inside.raise (inside : s.Inside n) (more : s.next ≤ bound) : State.Inside n { s with next := bound } :=
  inside.onHeap rfl rfl rfl more inside.settled.null fun a allocation found =>
    have ⟨named, pointed⟩ := inside.settled.inside a allocation found
    ⟨Nat.lt_of_lt_of_le named more, fun p member => Nat.lt_of_lt_of_le (pointed p member) more⟩

/-- While the parts of a message are allocated, its pointers name what is still to come. -/
theorem Inside.entry (inside : State.Inside n { s with next := bound }) {allocation : Allocation}
    (positive : 0 < s.next) (room : s.next < bound) (fields : ∀ p ∈ targetsIn allocation.fields, p < bound) :
    State.Inside n { (s.allocate allocation).2 with next := bound } := by
  refine inside.onHeap rfl rfl rfl (Nat.le_refl _) ?_ fun a made found => ?_
  · simpa [State.allocate, Nat.ne_of_lt positive] using inside.settled.null
  · simp only [State.allocate, Table.get_set] at found
    split at found
    · rename_i here
      cases found
      exact ⟨here ▸ room, fields⟩
    · exact inside.settled.inside a made found

theorem next_allocateParts (base : Addr) : ∀ (parts : List Part) (s : State),
    (s.allocateParts base parts).next = s.next + parts.length
  | [], _ => rfl
  | part :: parts, s => by
      have later := next_allocateParts base parts (s.allocate (part.allocation base)).2
      rw [List.length_cons, ← Nat.add_assoc, Nat.add_right_comm]
      exact later

/-- **When the last part is there**, everything named is. -/
theorem Inside.parts {base : Addr} : ∀ (parts : List Part) {s : State},
    State.Inside n { s with next := bound } → 0 < s.next → s.next + parts.length = bound →
    (∀ part ∈ parts, ∀ p ∈ targetsIn (part.allocation base).fields, p < bound) →
    (s.allocateParts base parts).Inside n
  | [], s, inside, _, full, _ => by
      obtain rfl : s.next = bound := full
      exact inside
  | part :: parts, s, inside, positive, full, below => by
      have room : s.next < bound := full ▸ Nat.lt_add_of_pos_right (Nat.succ_pos _)
      have made := inside.entry positive room (below part List.mem_cons_self)
      refine Inside.parts parts made (Nat.succ_pos _) ?_ fun other member =>
        below other (List.mem_cons_of_mem part member)
      exact (Nat.succ_add_eq_add_succ s.next parts.length).trans full

theorem Inside.allocateMessage (inside : s.Inside n) {message : Message} (closed : message.Closed) :
    (s.allocateMessage message).2.Inside n ∧ (s.allocateMessage message).1 < (s.allocateMessage message).2.next := by
  have below := closed.below s.next
  have room : s.next < s.next + message.parts.length + 1 := Nat.lt_succ_of_le (Nat.le_add_right _ _)
  have raised : State.Inside n { s with next := s.next + message.parts.length + 1 } :=
    inside.raise (Nat.le_of_lt room)
  have root := raised.entry inside.settled.positive room (below message.root List.mem_cons_self)
  refine ⟨Inside.parts message.parts root (Nat.succ_pos _) (Nat.add_right_comm _ _ _) fun part member =>
    below part (List.mem_cons_of_mem _ member), ?_⟩
  show s.next < (State.allocateParts s.next message.parts _).next
  rw [next_allocateParts]
  exact Nat.lt_of_lt_of_le (Nat.lt_succ_self s.next) (Nat.le_add_right _ _)

theorem rewrite_next (ptr : Addr) (change : Allocation → Allocation) (s : State) :
    State.rewrite ptr change { s with next := bound } = { s.rewrite ptr change with next := bound } := by
  unfold State.rewrite
  cases s.heap.get ptr <;> rfl

theorem next_overwrite (ptr : Addr) (message : Message) (s : State) :
    (s.overwrite ptr message).next = s.next + message.parts.length := by
  unfold State.overwrite
  rw [next_allocateParts, (rewrite_rest _ _ s).1]

theorem Inside.overwrite (inside : s.Inside n) (ptr : Addr) {message : Message} (closed : message.Closed) :
    (s.overwrite ptr message).Inside n := by
  have positive := inside.settled.positive
  have below : ∀ part ∈ message.root :: message.parts, ∀ p ∈ targetsIn (part.allocation (s.next - 1)).fields,
      p < s.next + message.parts.length := fun part member p there => by
    have reached := closed.below (s.next - 1) part member p there
    rwa [Nat.add_right_comm, Nat.sub_add_cancel positive] at reached
  have raised : State.Inside n { s with next := s.next + message.parts.length } :=
    inside.raise (Nat.le_add_right _ _)
  unfold State.overwrite
  refine Inside.parts message.parts ?_ ?_ ?_ fun part member => below part (List.mem_cons_of_mem _ member)
  · rw [← rewrite_next]
    exact raised.rewrite ptr fun _ p there => .inr (below message.root List.mem_cons_self p there)
  · rw [(rewrite_rest _ _ s).1]
    exact positive
  · rw [(rewrite_rest _ _ s).1]

end State

/-- What takes the place of a buffer is closed. -/
def Install.Closed : Install → Prop
  | .untouched _ | .null => True
  | .inPlace message _ | .replaced message => message.Closed

theorem State.Inside.install {n : Addr} {s : State} (inside : s.Inside n) {ptr : Addr} (named : ptr < s.next)
    {install : Install} (closed : install.Closed) :
    (s.install ptr install).2.Inside n ∧ (s.install ptr install).1 < (s.install ptr install).2.next := by
  cases install with
  | untouched olen => exact ⟨inside, named⟩
  | null => exact ⟨inside.tpfree ptr, (inside.tpfree ptr).settled.positive⟩
  | replaced message => exact (inside.tpfree ptr).allocateMessage closed
  | inPlace message moves =>
      simp only [State.install]
      split
      · rename_i info _
        obtain ⟨moved, below⟩ := inside.reallocate ptr info.size moves
        refine ⟨moved.overwrite _ closed, ?_⟩
        rw [next_overwrite]
        refine Nat.lt_of_lt_of_le ?_ (Nat.le_add_right _ _)
        cases done : (s.reallocate ptr info.size moves).1 with
        | none =>
            rw [State.reallocate_none done]
            exact named
        | some ptr' => exact below ptr' done
      · exact ⟨inside, named⟩

theorem State.Inside.adopt {n : Addr} {s : State} (inside : s.Inside n) (id : BufId) {install : Install}
    (closed : install.Closed) : ((adopt id install).run s).2.Inside n :=
  have installed := inside.install (inside.buffer id) closed
  installed.1.setBuffer id installed.2

theorem tpimport_inside (n : Addr) {received : Except AtmiError Message}
    (closed : ∀ message, received = .ok message → message.Closed) :
    Keeps (State.Inside n) (tpimport received).run := by
  unfold tpimport
  cases received with
  | error e => exact Keeps.throw
  | ok message =>
      exact Keeps.tryModifyGet fun s inside =>
        have made := inside.allocateMessage (closed message rfl)
        made.1.own made.2

theorem tpcall_inside (n : Addr) (svc : String) (odata : BufId) {reply : Reply} (closed : reply.install.Closed) :
    Keeps (State.Inside n) (tpcall svc odata reply).run :=
  Keeps.tryBind Keeps.throwIf fun _ =>
    Keeps.tryBind (fun _ inside => inside.adopt odata closed) fun _ => Keeps.throwIf

/-! ## Runs -/

/-- The messages received point within themselves. -/
def Delivers (_ : State) (label : Label) : Prop :=
  match label.op with
  | .tpimport received => ∀ message, received = .ok message → message.Closed
  | .tpcall _ _ reply | .tpgetrply _ _ reply => reply.install.Closed
  | _ => True

theorem State.Inside.step {n : Addr} {s : State} {label : Label} (delivers : Delivers s label)
    (inside : s.Inside n) : (s.step label).Inside n := by
  unfold State.step
  split
  · obtain ⟨op, answers⟩ := label
    have asked : State.Inside n { s with answers } :=
      inside.onBufs rfl rfl rfl fun id place owned => ⟨inside.settled.handed owned, inside.held id place owned⟩
    cases op with
    | tpimport received => exact tpimport_inside n delivers _ asked
    | tpcall svc id reply => exact tpcall_inside n svc id delivers _ asked
    | tpgetrply id cd reply => exact asked.adopt id delivers
    | fromTyped id =>
        exact fromTyped_keeps (Inside.answered n) id (fun _ _ inside _ _ => inside.setWrapper id .ubf)
          (fun _ inside => inside.drop id) _ asked
    | editUbf id =>
        exact editUbf_keeps (Inside.answered n) id (fun _ _ inside _ _ => inside.setWrapper id .ubf)
          (fun _ inside => inside.drop id) _ asked
    | assign dst src =>
        refine ((asked.forget src).tpfree _).setBuffer dst ?_
        rw [(tpfree_rest _ _).1]
        exact asked.buffer src
    | swap a b =>
        refine (asked.setBuffer a (asked.buffer b)).setBuffer b ?_
        rw [next_setBuffer]
        exact asked.buffer a
    | _ => exact inside_steady.run rfl asked
  · exact inside

theorem State.inside_init : State.Inside 0 {} where
  settled := ⟨rfl, Nat.one_pos, fun _ _ none => by simp at none, fun _ _ => by simp⟩
  reach := Nat.zero_le _
  held _ _ none := by simp at none
  dumped _ none := nomatch none

/-- **Every state a program reaches is settled**, if the messages it receives point within themselves. -/
theorem settled_reachable (labels : List Label) (delivers : program.Along Delivers labels) :
    (program.run labels).Settled :=
  (Machine.invariantAlong (M := program) State.inside_init (fun _ _ delivers inside => inside.step delivers)
    labels delivers).settled

end Endurox.Typed
