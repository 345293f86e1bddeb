/-
# Typed.Since -- work that touches nothing there was

A function that builds a copy allocates what it writes.  `Touching ids ptrs t s`
says what changed between two states besides what is new: at most these values and
these allocations.  `Since t s` is the case of none, with what keeps it so: what is
new points only to what is new, so that even a cascading free stays within.  Each
change the cloning code makes to what is new keeps `Since`.
-/
import Endurox.Typed.Confinement
import Endurox.Typed.Custody

namespace Endurox.Typed

open Endurox.Theory

set_option autoImplicit false

/-! ## Answers -/

/-- The answers left are among those there were, and sizes are measured as before. -/
structure Answers.Left (later before : Answers) : Prop where
  allocs : later.allocs ⊆ before.allocs
  types : later.types ⊆ before.types
  writes : later.writes ⊆ before.writes
  displaced : later.displaced = before.displaced
  present : later.present ⊆ before.present
  shell : later.shell ⊆ before.shell
  calls : later.calls ⊆ before.calls
  viewSize : later.viewSize = before.viewSize
  used : later.used = before.used

namespace Answers.Left

variable {answers later before : Answers}

theorem refl (answers : Answers) : answers.Left answers :=
  ⟨List.Subset.refl _, List.Subset.refl _, List.Subset.refl _, rfl, List.Subset.refl _, List.Subset.refl _,
    List.Subset.refl _, rfl, rfl⟩

theorem trans (last : answers.Left later) (first : later.Left before) : answers.Left before where
  allocs := List.Subset.trans last.allocs first.allocs
  types := List.Subset.trans last.types first.types
  writes := List.Subset.trans last.writes first.writes
  displaced := last.displaced.trans first.displaced
  present := List.Subset.trans last.present first.present
  shell := List.Subset.trans last.shell first.shell
  calls := List.Subset.trans last.calls first.calls
  viewSize := last.viewSize.trans first.viewSize
  used := last.used.trans first.used

end Answers.Left

/-- Taking an answer of the queue leaves those there were. -/
def Queue.Spends {α : Type} (queue : Queue α) : Prop :=
  ∀ (answers : Answers) (answer : α) (later : List α), queue.read answers = answer :: later →
    (queue.write later answers).Left answers

theorem Queue.allocs_spends : Queue.allocs.Spends := fun answers _ _ here =>
  { Answers.Left.refl answers with allocs := by rw [show answers.allocs = _ from here]; exact List.subset_cons_self _ _ }

theorem Queue.reallocs_spends : Queue.reallocs.Spends := fun _ _ _ _ =>
  ⟨List.Subset.refl _, List.Subset.refl _, List.Subset.refl _, rfl, List.Subset.refl _, List.Subset.refl _,
    List.Subset.refl _, rfl, rfl⟩

theorem Queue.types_spends : Queue.types.Spends := fun answers _ _ here =>
  { Answers.Left.refl answers with types := by rw [show answers.types = _ from here]; exact List.subset_cons_self _ _ }

theorem Queue.writes_spends : Queue.writes.Spends := fun answers _ _ here =>
  { Answers.Left.refl answers with writes := by rw [show answers.writes = _ from here]; exact List.subset_cons_self _ _ }

theorem Queue.present_spends : Queue.present.Spends := fun answers _ _ here =>
  { Answers.Left.refl answers with present := by rw [show answers.present = _ from here]; exact List.subset_cons_self _ _ }

theorem Queue.shell_spends : Queue.shell.Spends := fun answers _ _ here =>
  { Answers.Left.refl answers with shell := by rw [show answers.shell = _ from here]; exact List.subset_cons_self _ _ }

theorem Queue.calls_spends : Queue.calls.Spends := fun answers _ _ here =>
  { Answers.Left.refl answers with calls := by rw [show answers.calls = _ from here]; exact List.subset_cons_self _ _ }

namespace State

/-! ## What is touched -/

/-- Apart from these values, these allocations and what is new, everything is as it was. -/
structure Touching (ids : List BufId) (ptrs : List Addr) (t s : State) : Prop where
  next : t.next ≤ s.next
  nextBuf : t.nextBuf ≤ s.nextBuf
  heap : ∀ a, a < t.next → a ∉ ptrs → s.heap.get a = t.heap.get a
  bufs : ∀ id, id < t.nextBuf → id ∉ ids → s.bufs.get id = t.bufs.get id

section Touching

variable {ids ids' : List BufId} {ptrs ptrs' : List Addr} {t s u : State}

theorem Touching.refl (ids : List BufId) (ptrs : List Addr) (s : State) : s.Touching ids ptrs s :=
  ⟨Nat.le_refl _, Nat.le_refl _, fun _ _ _ => rfl, fun _ _ _ => rfl⟩

/-- What a later step touches was touched before, or is new. -/
theorem Touching.trans (first : t.Touching ids ptrs s) (second : s.Touching ids' ptrs' u)
    (values : ∀ id ∈ ids', id ∈ ids ∨ t.nextBuf ≤ id) (addresses : ∀ a ∈ ptrs', a ∈ ptrs ∨ t.next ≤ a) :
    t.Touching ids ptrs u where
  next := Nat.le_trans first.next second.next
  nextBuf := Nat.le_trans first.nextBuf second.nextBuf
  heap a old other := by
    have apart : a ∉ ptrs' := fun member => (addresses a member).elim other fun new => absurd old (Nat.not_lt_of_le new)
    rw [second.heap a (Nat.lt_of_lt_of_le old first.next) apart, first.heap a old other]
  bufs id old other := by
    have apart : id ∉ ids' := fun member => (values id member).elim other fun new => absurd old (Nat.not_lt_of_le new)
    rw [second.bufs id (Nat.lt_of_lt_of_le old first.nextBuf) apart, first.bufs id old other]

theorem touching_answers (answers : Answers) (s : State) : s.Touching [] [] { s with answers } :=
  ⟨Nat.le_refl _, Nat.le_refl _, fun _ _ _ => rfl, fun _ _ _ => rfl⟩

theorem touching_rewrite (ptr : Addr) (change : Allocation → Allocation) (s : State) :
    s.Touching [] [ptr] (s.rewrite ptr change) where
  next := Nat.le_of_eq (rewrite_rest ptr change s).1.symm
  nextBuf := Nat.le_of_eq (rewrite_rest ptr change s).2.2.1.symm
  heap a _ other := by rw [get_rewrite, if_neg (by simpa using other)]
  bufs id _ _ := by rw [(rewrite_rest ptr change s).2.1]

theorem touching_bury (ptr : Addr) (s : State) : s.Touching [] [ptr] (s.bury ptr).2 where
  next := Nat.le_of_eq (bury_rest ptr s).1.symm
  nextBuf := Nat.le_of_eq (bury_rest ptr s).2.2.1.symm
  heap a _ other := by rw [get_bury, if_neg (by simpa using other)]
  bufs id _ _ := by rw [(bury_rest ptr s).2.1]

theorem touching_allocate (allocation : Allocation) (s : State) : s.Touching [] [] (s.allocate allocation).2 where
  next := Nat.le_succ _
  nextBuf := Nat.le_refl _
  heap a old _ := by simp [allocate, Nat.ne_of_lt old]
  bufs _ _ _ := rfl

/-- A reallocation touches the buffer it moves. -/
theorem touching_reallocate (ptr : Addr) (size : Nat) (moves : Bool) (s : State) :
    s.Touching [] [ptr] (s.reallocate ptr size moves).2 := by
  unfold reallocate
  split
  · rename_i allocation found
    split
    · split
      · exact (touching_bury ptr s).trans (touching_allocate _ _) (by simp) (by simp)
      · exact ⟨Nat.le_refl _, Nat.le_refl _, fun a _ other => by simp [show a ≠ ptr by simpa using other],
          fun _ _ _ => rfl⟩
    · exact Touching.refl _ _ s
  · exact Touching.refl _ _ s

theorem touching_forget (id : BufId) (s : State) : s.Touching [id] [] (s.forget id) where
  next := Nat.le_refl _
  nextBuf := Nat.le_refl _
  heap _ _ _ := rfl
  bufs other _ apart := by simp [forget, show other ≠ id by simpa using apart]

theorem touching_setBuffer (id : BufId) (buffer : TypedBuffer) (s : State) :
    s.Touching [id] [] (s.setBuffer id buffer) := by
  obtain ⟨heap, -, next, nextBuf, -⟩ := setBuffer_rest id buffer s
  refine ⟨Nat.le_of_eq next.symm, Nat.le_of_eq nextBuf.symm, fun a _ _ => by rw [heap], fun other _ apart => ?_⟩
  unfold setBuffer
  split
  · simp [show other ≠ id by simpa using apart]
  · rfl

end Touching

/-! ## What is kept -/

/-- Since `t` nothing that was there has been touched; what is new points only to what is new. -/
structure Since (t s : State) : Prop where
  untouched : t.Touching [] [] s
  positive : 0 < t.next
  settled : s.Settled
  apart : ∀ a allocation, t.next ≤ a → s.heap.get a = some allocation →
    ∀ p ∈ targetsIn allocation.fields, t.next ≤ p
  owns : ∀ id place, t.nextBuf ≤ id → s.bufs.get id = some place → t.next ≤ place.buffer.ptr
  answers : s.answers.Left t.answers

/-- New, or null. -/
def NewOrNull (t : State) (p : Addr) : Prop := p = 0 ∨ t.next ≤ p

section Since

variable {t s u : State} {ids : List BufId} {ptrs : List Addr}

/-- Nothing has been touched before anything was done. -/
theorem Settled.since (settled : s.Settled) : Since s s where
  untouched := Touching.refl _ _ s
  positive := settled.positive
  settled := settled
  apart a allocation new found := absurd (settled.inside a allocation found).1 (Nat.not_lt_of_le new)
  owns id place new owned := by
    rw [settled.fresh id new] at owned
    cases owned
  answers := Answers.Left.refl _

/-- Step after step. -/
theorem Since.trans (first : Since t s) (second : Since s u) : Since t u where
  untouched := first.untouched.trans second.untouched (fun _ none => (List.not_mem_nil none).elim)
    fun _ none => (List.not_mem_nil none).elim
  positive := first.positive
  settled := second.settled
  apart a allocation new found p member := by
    by_cases old : a < s.next
    · rw [second.untouched.heap a old (List.not_mem_nil)] at found
      exact first.apart a allocation new found p member
    · exact Nat.le_trans first.untouched.next (second.apart a allocation (Nat.le_of_not_lt old) found p member)
  owns id place new owned := by
    by_cases old : id < s.nextBuf
    · rw [second.untouched.bufs id old (List.not_mem_nil)] at owned
      exact first.owns id place new owned
    · exact Nat.le_trans first.untouched.next (second.owns id place (Nat.le_of_not_lt old) owned)
  answers := second.answers.trans first.answers

theorem Since.ptr (since : Since t s) {id : BufId} (fresh : t.nextBuf ≤ id) : t.NewOrNull (s.buffer id).ptr := by
  unfold buffer
  split
  · rename_i place owned
    exact .inr (since.owns id place fresh owned)
  · exact .inl rfl

/-- Answers given are no change to what was there. -/
theorem Since.answered (since : Since t s) {later : Answers} (left : later.Left s.answers) :
    Since t { s with answers := later } :=
  { since with
    settled := ⟨since.settled.null, since.settled.positive, since.settled.inside, since.settled.fresh⟩
    untouched := since.untouched.trans (touching_answers later s) (by simp) (by simp)
    answers := left.trans since.answers }

/-- A step that leaves the values alone, and whose allocations are as they must be. -/
theorem Since.onHeap (since : Since t s) (bufs : u.bufs = s.bufs) (nextBuf : u.nextBuf = s.nextBuf)
    (answers : u.answers = s.answers) (next : s.next ≤ u.next)
    (old : ∀ a, a < t.next → u.heap.get a = s.heap.get a)
    (new : ∀ a allocation, t.next ≤ a → u.heap.get a = some allocation →
      a < u.next ∧ ∀ p ∈ targetsIn allocation.fields, t.next ≤ p ∧ p < u.next) : Since t u where
  untouched :=
    { next := Nat.le_trans since.untouched.next next
      nextBuf := nextBuf ▸ since.untouched.nextBuf
      heap := fun a before none => (old a before).trans (since.untouched.heap a before none)
      bufs := fun id before none => bufs ▸ since.untouched.bufs id before none }
  positive := since.positive
  settled :=
    { null := (old 0 since.positive).trans since.settled.null
      positive := Nat.lt_of_lt_of_le since.settled.positive next
      inside := fun a allocation found => by
        by_cases before : a < t.next
        · rw [old a before] at found
          obtain ⟨named, pointed⟩ := since.settled.inside a allocation found
          exact ⟨Nat.lt_of_lt_of_le named next, fun p member => Nat.lt_of_lt_of_le (pointed p member) next⟩
        · obtain ⟨named, pointed⟩ := new a allocation (Nat.le_of_not_lt before) found
          exact ⟨named, fun p member => (pointed p member).2⟩
      fresh := fun id later => by
        rw [bufs]
        exact since.settled.fresh id (nextBuf ▸ later) }
  apart a allocation later found p member := ((new a allocation later found).2 p member).1
  owns id place later owned := since.owns id place later (bufs ▸ owned)
  answers := answers ▸ since.answers

/-- A step that leaves the allocations alone, and whose values own what is new. -/
theorem Since.onBufs (since : Since t s) (heap : u.heap = s.heap) (next : u.next = s.next)
    (answers : u.answers = s.answers) (nextBuf : s.nextBuf ≤ u.nextBuf)
    (old : ∀ id, id < t.nextBuf → u.bufs.get id = s.bufs.get id)
    (new : ∀ id place, t.nextBuf ≤ id → u.bufs.get id = some place →
      id < u.nextBuf ∧ t.next ≤ place.buffer.ptr) : Since t u where
  untouched :=
    { next := next ▸ since.untouched.next
      nextBuf := Nat.le_trans since.untouched.nextBuf nextBuf
      heap := fun a before none => heap ▸ since.untouched.heap a before none
      bufs := fun id before none => (old id before).trans (since.untouched.bufs id before none) }
  positive := since.positive
  settled :=
    { null := heap ▸ since.settled.null
      positive := next ▸ since.settled.positive
      inside := heap ▸ next ▸ since.settled.inside
      fresh := fun id later => by
        cases found : u.bufs.get id with
        | none => rfl
        | some place =>
            have after : t.nextBuf ≤ id := Nat.le_trans since.untouched.nextBuf (Nat.le_trans nextBuf later)
            exact absurd (new id place after found).1 (Nat.not_lt_of_le later) }
  apart := heap ▸ since.apart
  owns id place later owned := (new id place later owned).2
  answers := answers ▸ since.answers

/-! ### Allocations -/

/-- A change to what was made since. -/
theorem Since.rewrite (since : Since t s) {ptr : Addr} (new : t.NewOrNull ptr) {change : Allocation → Allocation}
    (fields : ∀ a, ∀ p ∈ targetsIn (change a).fields,
      p ∈ targetsIn a.fields ∨ (t.next ≤ p ∧ p < s.next)) : Since t (s.rewrite ptr change) := by
  obtain ⟨next, bufs, nextBuf, answers, -⟩ := rewrite_rest ptr change s
  refine since.onHeap bufs nextBuf answers (Nat.le_of_eq next.symm) (fun a before => ?_) fun a allocation later found => ?_
  · rw [get_rewrite]
    split
    · rename_i here
      subst here
      rcases new with null | new
      · rw [null, since.settled.null]
        rfl
      · exact absurd before (Nat.not_lt_of_le new)
    · rfl
  · rw [next]
    rw [get_rewrite] at found
    split at found
    · rename_i here
      subst here
      obtain ⟨was, there, rfl⟩ := Option.map_eq_some_iff.1 found
      refine ⟨(since.settled.inside a was there).1, fun p member => ?_⟩
      rcases fields was p member with kept | written
      · exact ⟨since.apart a was later there p kept, (since.settled.inside a was there).2 p kept⟩
      · exact written
    · exact ⟨(since.settled.inside a allocation found).1, fun p member =>
        ⟨since.apart a allocation later found p member, (since.settled.inside a allocation found).2 p member⟩⟩

/-- What was made since may be freed. -/
theorem Since.bury (since : Since t s) {ptr : Addr} (new : t.NewOrNull ptr) : Since t (s.bury ptr).2 := by
  obtain ⟨next, bufs, nextBuf, answers⟩ := bury_rest ptr s
  refine since.onHeap bufs nextBuf answers (Nat.le_of_eq next.symm) (fun a before => ?_) fun a allocation later found => ?_
  · rw [get_bury]
    split
    · rename_i here
      subst here
      rcases new with null | new
      · rw [null, since.settled.null]
        rfl
      · exact absurd before (Nat.not_lt_of_le new)
    · rfl
  · rw [next]
    rw [get_bury] at found
    split at found
    · rename_i here
      subst here
      obtain ⟨was, there, rfl⟩ := Option.map_eq_some_iff.1 found
      exact ⟨(since.settled.inside a was there).1, fun p member =>
        ⟨since.apart a was later there p member, (since.settled.inside a was there).2 p member⟩⟩
    · exact ⟨(since.settled.inside a allocation found).1, fun p member =>
        ⟨since.apart a allocation later found p member, (since.settled.inside a allocation found).2 p member⟩⟩

/-- What a buried allocation held is new, if it is. -/
theorem Since.buried (since : Since t s) {ptr : Addr} (new : t.NewOrNull ptr) :
    ∀ p ∈ (s.bury ptr).1, t.NewOrNull p := by
  intro p member
  unfold State.bury at member
  split at member
  · rename_i allocation found
    split at member
    · rcases new with null | new
      · rw [null, since.settled.null] at found
        cases found
      · exact .inr (since.apart ptr allocation new found p member)
    · cases member
  · cases member

/-- **A cascading free of what is new frees nothing else.** -/
theorem Since.release : ∀ (fuel : Nat) (work : List Addr) {s : State}, Since t s → (∀ p ∈ work, t.NewOrNull p) →
    Since t (s.release fuel work)
  | 0, _, _, since, _ => since
  | _ + 1, [], _, since, _ => since
  | fuel + 1, ptr :: rest, s, since, new => by
      have first := new ptr List.mem_cons_self
      refine Since.release fuel _ (since.bury first) fun p member => ?_
      rcases List.mem_append.1 member with held | left
      · exact since.buried first p held
      · exact new p (List.mem_cons_of_mem ptr left)

/-- With all it points to, which was made since as well. -/
theorem Since.tpfree (since : Since t s) {ptr : Addr} (new : t.NewOrNull ptr) : Since t (s.tpfree ptr) := by
  unfold State.tpfree
  split
  · exact since
  · exact Since.release _ _ since (by simpa using new)

/-- A new allocation that points to what was made since. -/
theorem Since.allocate (since : Since t s) {allocation : Allocation}
    (fields : ∀ p ∈ targetsIn allocation.fields, t.next ≤ p ∧ p < s.next) : Since t (s.allocate allocation).2 := by
  refine since.onHeap rfl rfl rfl (Nat.le_succ s.next) (fun a before => ?_) fun a made later found => ?_
  · simp [State.allocate, Nat.ne_of_lt (Nat.lt_of_lt_of_le before since.untouched.next)]
  · simp only [State.allocate, Table.get_set] at found ⊢
    split at found
    · rename_i here
      cases found
      exact ⟨here ▸ Nat.lt_succ_self _, fun p member => ⟨(fields p member).1, Nat.lt_succ_of_lt (fields p member).2⟩⟩
    · obtain ⟨named, pointed⟩ := since.settled.inside a made found
      exact ⟨Nat.lt_succ_of_lt named, fun p member =>
        ⟨since.apart a made later found p member, Nat.lt_succ_of_lt (pointed p member)⟩⟩

/-- What was made since may move. -/
theorem Since.reallocate (since : Since t s) {ptr : Addr} (new : t.NewOrNull ptr) (size : Nat) (moves : Bool) :
    Since t (s.reallocate ptr size moves).2 := by
  cases moves with
  | false =>
      unfold State.reallocate
      cases found : s.heap.get ptr with
      | none => exact since
      | some allocation =>
          by_cases live : allocation.live = true
          · have resized : Since t (s.rewrite ptr (Allocation.resize size)) :=
              since.rewrite new fun a p member => .inl member
            unfold State.rewrite at resized
            rw [found] at resized
            simpa only [live, if_true, Bool.false_eq_true, if_false] using resized
          · simpa only [live, Bool.false_eq_true, if_false] using since
  | true =>
      unfold State.reallocate
      split
      · rename_i allocation found
        split
        · rcases new with null | later
          · rw [null, since.settled.null] at found
            cases found
          · refine (since.bury (.inr later)).allocate fun p member => ?_
            exact ⟨since.apart ptr allocation later found p member,
              (bury_rest ptr s).1 ▸ (since.settled.inside ptr allocation found).2 p member⟩
        · exact since
      · exact since

/-! ### Values -/

/-- A new value of a new buffer. -/
theorem Since.own (since : Since t s) {place : Place} (new : t.next ≤ place.buffer.ptr) :
    Since t (s.own place).2 := by
  refine since.onBufs rfl rfl rfl (Nat.le_succ _) (fun id before => ?_) fun id other later owned => ?_
  · simp [State.own, Nat.ne_of_lt (Nat.lt_of_lt_of_le before since.untouched.nextBuf)]
  · simp only [State.own, Table.get_set] at owned ⊢
    split at owned
    · rename_i here
      cases owned
      exact ⟨here ▸ Nat.lt_succ_self _, new⟩
    · refine ⟨?_, since.owns id other later owned⟩
      by_cases before : id < s.nextBuf
      · exact Nat.lt_succ_of_lt before
      · rw [since.settled.fresh id (Nat.le_of_not_lt before)] at owned
        cases owned

/-- A value that is there was handed out. -/
theorem Since.handed (since : Since t s) {id : BufId} {place : Place} (owned : s.bufs.get id = some place) :
    id < s.nextBuf := by
  by_cases before : id < s.nextBuf
  · exact before
  · rw [since.settled.fresh id (Nat.le_of_not_lt before)] at owned
    cases owned

theorem Since.forget (since : Since t s) {id : BufId} (fresh : t.nextBuf ≤ id) : Since t (s.forget id) := by
  refine since.onBufs rfl rfl rfl (Nat.le_refl _) (fun other before => ?_) fun other place later owned => ?_
  · simp [State.forget, Nat.ne_of_lt (Nat.lt_of_lt_of_le before fresh)]
  · simp only [State.forget, Table.get_del] at owned
    split at owned
    · cases owned
    · exact ⟨since.handed owned, since.owns other place later owned⟩

theorem Since.drop (since : Since t s) {id : BufId} (fresh : t.nextBuf ≤ id) : Since t (s.drop id) :=
  (since.forget fresh).tpfree (since.ptr fresh)

theorem Since.setBuffer (since : Since t s) {id : BufId} (fresh : t.nextBuf ≤ id) {buffer : TypedBuffer}
    (new : t.next ≤ buffer.ptr) : Since t (s.setBuffer id buffer) := by
  unfold State.setBuffer
  split
  · rename_i place there
    refine since.onBufs rfl rfl rfl (Nat.le_refl _) (fun other before => ?_) fun other place' later owned => ?_
    · simp [Nat.ne_of_lt (Nat.lt_of_lt_of_le before fresh)]
    · simp only [Table.get_set] at owned
      split at owned
      · rename_i here
        cases owned
        subst here
        exact ⟨since.handed there, new⟩
      · exact ⟨since.handed owned, since.owns other place' later owned⟩
  · exact since

theorem Since.setWrapper (since : Since t s) {id : BufId} (fresh : t.nextBuf ≤ id) (wrapper : Wrapper) :
    Since t (s.setWrapper id wrapper) := by
  unfold State.setWrapper
  split
  · rename_i place there
    refine since.onBufs rfl rfl rfl (Nat.le_refl _) (fun other before => ?_) fun other place' later owned => ?_
    · simp [Nat.ne_of_lt (Nat.lt_of_lt_of_le before fresh)]
    · simp only [Table.get_set] at owned
      split at owned
      · rename_i here
        cases owned
        subst here
        exact ⟨since.handed there, since.owns _ place fresh there⟩
      · exact ⟨since.handed owned, since.owns other place' later owned⟩
  · exact since

/-- Fields changed in a value made since, to point to what was made since. -/
theorem Since.changeFields (since : Since t s) {id : BufId} (fresh : t.nextBuf ≤ id) {change : Fields → Fields}
    (fields : ∀ held, ∀ p ∈ targetsIn (change held), p ∈ targetsIn held ∨ (t.next ≤ p ∧ p < s.next)) :
    Since t (s.changeFields id change) :=
  since.rewrite (since.ptr fresh) fun a => fields a.fields

end Since

end State

end Endurox.Typed
