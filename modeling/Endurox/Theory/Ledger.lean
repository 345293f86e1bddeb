/-
# Theory.Ledger -- who owns what was allocated

An allocator hands out the numbers `1, 2, ..` and never one twice.  `Ledger held
live freed next` accounts for all of them below `next`: each is live or was
freed, exactly once, and `held` names one owner for each live one.  The rules
are what a program does with an allocation: get one, free one it holds, or move
one between owners; the last changes no count, so it is checked by counting.
-/
import Mathlib.Data.List.Perm.Basic
import Mathlib.Data.List.Nodup

namespace Endurox.Theory

set_option autoImplicit false

structure Ledger (held live freed : List Nat) (next : Nat) : Prop where
  balanced : held.Perm live
  once : (live ++ freed).Nodup
  all : ∀ p, p ∈ live ++ freed ↔ 0 < p ∧ p < next
  positive : 0 < next

namespace Ledger

variable {held held' live live' freed : List Nat} {next : Nat}

theorem empty : Ledger [] [] [] 1 where
  balanced := .nil
  once := by simp
  all p := by simp; omega
  positive := by omega

/-- Moving allocations between owners changes no count. -/
theorem move (ledger : Ledger held live freed next) (same : ∀ p, held'.count p = held.count p) :
    Ledger held' live freed next where
  balanced := (List.perm_iff_count.2 same).trans ledger.balanced
  once := ledger.once
  all := ledger.all
  positive := ledger.positive

theorem alloc (ledger : Ledger held live freed next) (allocated : live'.Perm (next :: live)) :
    Ledger (next :: held) live' freed (next + 1) where
  balanced := (ledger.balanced.cons next).trans allocated.symm
  once := by
    have fresh : next ∉ live ++ freed := fun member => Nat.lt_irrefl _ ((ledger.all next).1 member).2
    have perm : (live' ++ freed).Perm (next :: (live ++ freed)) := allocated.append_right freed
    exact perm.nodup_iff.2 (List.nodup_cons.2 ⟨fresh, ledger.once⟩)
  all p := by
    have perm : (live' ++ freed).Perm (next :: (live ++ freed)) := allocated.append_right freed
    have positive := ledger.positive
    rw [perm.mem_iff, List.mem_cons, ledger.all p]
    omega
  positive := by omega

theorem free {p : Nat} (ledger : Ledger (p :: held) live freed next)
    (left : live.Perm (p :: live')) : Ledger held live' (p :: freed) next := by
  have perm : (live' ++ p :: freed).Perm (live ++ freed) :=
    List.perm_middle.trans (left.append_right freed).symm
  exact
    { balanced := List.Perm.cons_inv (ledger.balanced.trans left)
      once := perm.nodup_iff.2 ledger.once
      all := fun q => by rw [perm.mem_iff, ledger.all q]
      positive := ledger.positive }

/-- Nothing has two owners. -/
theorem held_nodup (ledger : Ledger held live freed next) : held.Nodup :=
  ledger.balanced.nodup_iff.2 (List.nodup_append.1 ledger.once).1

/-- Nothing was freed twice. -/
theorem freed_nodup (ledger : Ledger held live freed next) : freed.Nodup :=
  (List.nodup_append.1 ledger.once).2.1

/-- What somebody owns is live and was not freed. -/
theorem held_live (ledger : Ledger held live freed next) {p : Nat} (owned : p ∈ held) :
    p ∈ live ∧ p ∉ freed := by
  have alive := ledger.balanced.mem_iff.1 owned
  exact ⟨alive, fun gone => (List.nodup_append.1 ledger.once).2.2 p alive p gone rfl⟩

/-- Everything handed out is owned or was freed. -/
theorem accounted (ledger : Ledger held live freed next) {p : Nat} (handed : 0 < p ∧ p < next) :
    p ∈ held ∨ p ∈ freed := by
  rcases List.mem_append.1 ((ledger.all p).2 handed) with alive | gone
  · exact .inl (ledger.balanced.mem_iff.2 alive)
  · exact .inr gone

end Ledger

end Endurox.Theory
