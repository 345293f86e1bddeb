/-
# Theory.Walks -- walks of a graph, and checks that follow them to a bounded depth

A recursive function over a graph of buffers visits a place, checks it, and visits
the places one step on, with a bound on how deep it goes.  `Within fuel` is what
such a function accepts; `within_iff` says it without the recursion: every walk
from there is shorter than the bound, and every place on it passes.
-/
import Mathlib.Init

namespace Endurox.Theory

set_option autoImplicit false

universe u

variable {α : Type u} (onward : α → α → Prop) (sound : α → Prop)

/-- `Walk onward n a b`: from `a` to `b` in `n` steps. -/
inductive Walk : Nat → α → α → Prop
  | here (a : α) : Walk 0 a a
  | step {n : Nat} {a b c : α} (first : onward a b) (rest : Walk n b c) : Walk (n + 1) a c

/-- What a check that descends at most `fuel` places deep accepts. -/
def Within : Nat → α → Prop
  | 0, _ => False
  | fuel + 1, a => sound a ∧ ∀ b, onward a b → Within fuel b

variable {onward sound}

/-- **Bounded descent**: it accepts where every walk is short and meets sound places only. -/
theorem within_iff : ∀ {fuel : Nat} {a : α},
    Within onward sound fuel a ↔ ∀ n b, Walk onward n a b → n < fuel ∧ sound b
  | 0, a => by
      constructor
      · intro impossible
        exact impossible.elim
      · intro short
        exact absurd (short 0 a (.here a)).1 (Nat.not_lt_zero 0)
  | fuel + 1, a => by
      constructor
      · rintro ⟨passes, deeper⟩ n c walk
        cases walk with
        | here => exact ⟨Nat.succ_pos fuel, passes⟩
        | step first rest =>
            obtain ⟨short, end_⟩ := within_iff.1 (deeper _ first) _ c rest
            exact ⟨Nat.succ_lt_succ short, end_⟩
      · intro short
        refine ⟨(short 0 a (.here a)).2, fun b first => within_iff.2 fun n c walk => ?_⟩
        obtain ⟨within, passes⟩ := short (n + 1) c (.step first walk)
        exact ⟨Nat.lt_of_succ_lt_succ within, passes⟩

end Endurox.Theory
