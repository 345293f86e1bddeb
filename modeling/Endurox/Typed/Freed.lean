/-
# Typed.Freed -- what a cascading free takes along

A free goes through everything the freed allocation points to.  `Felled s u` is what a
number of frees leaves of `s`: nothing that was dead comes back, and what was live and is
not has taken along all it pointed to.  `Accounted list t s` lists what was allocated since
`t` and is still live; a function that gives up must end with an empty list.
-/
import Endurox.Typed.Since

namespace Endurox.Typed

open Endurox.Theory

set_option autoImplicit false

namespace State

/-! ## Frees -/

/-- Nothing live is there. -/
def Dead (s : State) (ptr : Addr) : Prop := ∀ allocation, s.heap.get ptr = some allocation → allocation.live = false

theorem not_dead {s : State} {ptr : Addr} (alive : ¬ s.Dead ptr) :
    ∃ allocation, s.heap.get ptr = some allocation ∧ allocation.live = true := by
  unfold Dead at alive
  push Not at alive
  obtain ⟨allocation, found, live⟩ := alive
  exact ⟨allocation, found, by simpa using live⟩

theorem dead_bury {s : State} (ptr : Addr) {a : Addr} (gone : a = ptr ∨ s.Dead a) : (s.bury ptr).2.Dead a := by
  intro allocation found
  rw [get_bury] at found
  split at found
  · obtain ⟨_, -, rfl⟩ := Option.map_eq_some_iff.1 found
    rfl
  · rename_i other
    exact gone.resolve_left other allocation found

/-- The type of an allocation, live or not. -/
def typeAt (ptr : Addr) (s : State) : Option String := (s.heap.get ptr).map Allocation.typeName

theorem typeAt_bury (a ptr : Addr) (s : State) : (s.bury ptr).2.typeAt a = s.typeAt a := by
  unfold typeAt
  rw [get_bury]
  by_cases same : a = ptr
  · rw [if_pos same, same, Option.map_map]
    rfl
  · rw [if_neg same]

/-- Only frees lie between these states. -/
structure Felled (s u : State) : Prop where
  dead : ∀ a, s.Dead a → u.Dead a
  types : ∀ a, u.typeAt a = s.typeAt a
  fields : ∀ a, u.fieldsAt a = s.fieldsAt a
  fells : ∀ a, ¬ s.Dead a → u.Dead a → ∀ p ∈ targetsIn (s.fieldsAt a), u.Dead p

section Felled

variable {s u v : State}

theorem Felled.refl (s : State) : s.Felled s :=
  ⟨fun _ dead => dead, fun _ => rfl, fun _ => rfl, fun _ alive dead => absurd dead alive⟩

theorem Felled.trans (first : s.Felled u) (second : u.Felled v) : s.Felled v where
  dead a dead := second.dead a (first.dead a dead)
  types a := (second.types a).trans (first.types a)
  fields a := (second.fields a).trans (first.fields a)
  fells a alive dead p member := by
    by_cases already : u.Dead a
    · exact second.dead p (first.fells a alive already p member)
    · exact second.fells a already dead p (first.fields a ▸ member)

/-- Values do not matter. -/
theorem Felled.onBufs (heap : u.heap = s.heap) : s.Felled u where
  dead a dead := by rwa [Dead, heap]
  types a := by unfold typeAt; rw [heap]
  fields a := by unfold fieldsAt; rw [heap]
  fells a alive dead := absurd (show s.Dead a by rwa [Dead, heap] at dead) alive

/-- **The cascade** frees its work list, and all that what it frees points to. -/
theorem release_felled : ∀ (fuel : Nat) (work : List Addr) (s : State), work.length + s.stored.length ≤ fuel →
    (∀ p ∈ work, (s.release fuel work).Dead p) ∧ s.Felled (s.release fuel work)
  | 0, work, s, enough => by
      have empty : work = [] := List.eq_nil_of_length_eq_zero (by omega)
      subst empty
      exact ⟨fun _ none => absurd none List.not_mem_nil, .refl s⟩
  | _ + 1, [], s, _ => ⟨fun _ none => absurd none List.not_mem_nil, .refl s⟩
  | fuel + 1, ptr :: rest, s, enough => by
      have fewer := bury_stored_length ptr s
      rw [release, bury_targets]
      have lasts : (s.targetsAt ptr ++ rest).length + (s.bury ptr).2.stored.length ≤ fuel := by
        rw [List.length_append]
        simp only [List.length_cons] at enough
        omega
      obtain ⟨gone, felled⟩ := release_felled fuel (s.targetsAt ptr ++ rest) (s.bury ptr).2 lasts
      refine ⟨List.forall_mem_cons.2 ⟨?_, fun p member => gone p (List.mem_append_right _ member)⟩, ?_⟩
      · exact felled.dead ptr (dead_bury ptr (.inl rfl))
      refine ⟨fun a dead => felled.dead a (dead_bury ptr (.inr dead)),
        fun a => (felled.types a).trans (typeAt_bury a ptr s), fun a => (felled.fields a).trans (fieldsAt_bury a ptr s), fun a alive dead p member => ?_⟩
      by_cases here : a = ptr
      · -- what it pointed to is on the list
        subst here
        obtain ⟨allocation, found, live⟩ := not_dead alive
        have held : s.targetsAt a = targetsIn (s.fieldsAt a) := by
          unfold targetsAt fieldsAt
          rw [found]
          exact if_pos live
        exact gone p (List.mem_append_left _ (held ▸ member))
      · have other : (s.bury ptr).2.heap.get a = s.heap.get a := by rw [get_bury, if_neg here]
        exact felled.fells a (by rwa [Dead, other]) dead p (fieldsAt_bury a ptr s ▸ member)

theorem tpfree_felled (ptr : Addr) (s : State) : s.Felled (s.tpfree ptr) := by
  unfold tpfree
  split
  · exact .refl s
  · exact (release_felled _ [ptr] s (Nat.le_of_eq (Nat.add_comm _ _))).2

theorem tpfree_dead {ptr : Addr} (named : ptr ≠ 0) (s : State) : (s.tpfree ptr).Dead ptr := by
  unfold tpfree
  rw [if_neg named]
  exact (release_felled _ [ptr] s (Nat.le_of_eq (Nat.add_comm _ _))).1 ptr List.mem_cons_self

theorem drop_felled (id : BufId) (s : State) : s.Felled (s.drop id) :=
  (Felled.onBufs rfl : s.Felled (s.forget id)).trans (tpfree_felled _ _)

theorem drop_dead {id : BufId} {s : State} (named : (s.buffer id).ptr ≠ 0) : (s.drop id).Dead (s.buffer id).ptr :=
  tpfree_dead named _

end Felled

/-! ## What is left -/

/-- What was allocated since `t` and is still live is listed. -/
def Accounted (list : List Addr) (t s : State) : Prop := ∀ a, t.next ≤ a → ¬ s.Dead a → a ∈ list

section Accounted

variable {list left more : List Addr} {t s u : State} {ptr : Addr}

/-- Nothing has been allocated yet. -/
theorem Settled.accounted (settled : s.Settled) : Accounted [] s s := by
  intro a later alive
  obtain ⟨allocation, found, -⟩ := not_dead alive
  exact absurd (settled.inside a allocation found).1 (Nat.not_lt_of_le later)

theorem Accounted.mono (accounted : Accounted list t s) (among : ∀ a ∈ list, a ∈ more) : Accounted more t s :=
  fun a later alive => among a (accounted a later alive)

/-- What a step leaves of the list. -/
theorem Accounted.step (accounted : Accounted list t s) (dead : ∀ a, s.Dead a → u.Dead a)
    (gone : ∀ a ∈ list, a ∈ left ∨ u.Dead a) : Accounted left t u := fun a later alive =>
  (gone a (accounted a later fun already => alive (dead a already))).resolve_right alive

theorem Accounted.onHeap (accounted : Accounted list t s) (heap : u.heap = s.heap) : Accounted list t u :=
  accounted.step (fun a dead => by rwa [Dead, heap]) fun _ member => .inl member

theorem Accounted.rewrite (accounted : Accounted list t s) (ptr : Addr) {change : Allocation → Allocation}
    (live : ∀ a, (change a).live = a.live) : Accounted list t (s.rewrite ptr change) := by
  refine accounted.step (fun a dead allocation found => ?_) fun _ member => .inl member
  rw [get_rewrite] at found
  split at found
  · rename_i here
    obtain ⟨was, there, rfl⟩ := Option.map_eq_some_iff.1 found
    exact (live was).trans (dead was (here ▸ there))
  · exact dead allocation found

theorem Accounted.changeFields (accounted : Accounted list t s) (id : BufId) (change : Fields → Fields) :
    Accounted list t (s.changeFields id change) := accounted.rewrite _ fun _ => rfl

theorem Accounted.allocate (accounted : Accounted list t s) (allocation : Allocation) :
    Accounted (s.next :: list) t (s.allocate allocation).2 := by
  intro a later alive
  by_cases new : a = s.next
  · exact new ▸ List.mem_cons_self
  · have same : (s.allocate allocation).2.heap.get a = s.heap.get a := by simp [State.allocate, new]
    exact List.mem_cons_of_mem _ (accounted a later (by rwa [Dead, same] at alive))

/-- A reallocated buffer takes the place of the one there was. -/
theorem Accounted.reallocate (accounted : Accounted (ptr :: list) t s) {size : Nat} {moves : Bool} {ptr' : Addr}
    (done : (s.reallocate ptr size moves).1 = some ptr') : Accounted (ptr' :: list) t (s.reallocate ptr size moves).2 := by
  unfold State.reallocate at done ⊢
  cases found : s.heap.get ptr with
  | none =>
      rw [found] at done
      cases done
  | some allocation =>
      simp only [found] at done ⊢
      by_cases live : allocation.live = true
      · cases moves with
        | true =>
            simp only [live, if_true, Option.some.injEq] at done ⊢
            subst done
            have buried : Accounted list t (s.bury ptr).2 := by
              refine accounted.step (fun a dead => dead_bury ptr (.inr dead)) fun a member => ?_
              rcases List.mem_cons.1 member with rfl | member
              · exact .inr (dead_bury a (.inl rfl))
              · exact .inl member
            exact buried.allocate _
        | false =>
            simp only [live, if_true, Bool.false_eq_true, if_false, Option.some.injEq] at done ⊢
            subst done
            have resized : Accounted (ptr :: list) t (s.rewrite ptr (Allocation.resize size)) :=
              accounted.rewrite ptr fun _ => rfl
            unfold State.rewrite at resized
            rwa [found] at resized
      · simp [live] at done

/-- What was accounted for, with what was allocated after. -/
theorem Accounted.later (accounted : Accounted list t s) (since : s.Since u) (after : Accounted more s u) :
    Accounted (list ++ more) t u := by
  intro a later alive
  by_cases old : a < s.next
  · have same : u.heap.get a = s.heap.get a := since.untouched.heap a old List.not_mem_nil
    exact List.mem_append_left _ (accounted a later (by rwa [Dead, same] at alive))
  · exact List.mem_append_right _ (after a (Nat.le_of_not_lt old) alive)

end Accounted

end State

end Endurox.Typed
