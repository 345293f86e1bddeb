/-
# Theory.Run -- runs of a deterministic labelled machine

A `Machine` is a state, a label type and a total step function; every choice
the environment makes (a native result, a clock reading, which task runs next)
is data of the label, so a run is a fold over a list of labels and "for every
interleaving" is "for every list".  `Along ok` says that every step of a run
meets a condition on the state before the step and the label.  `invariant` and
`invariantAlong` package the one induction the safety results share.
-/
import Mathlib.Data.List.Basic
import Mathlib.Data.List.Induction

namespace Endurox.Theory

set_option autoImplicit false

universe u v

/-- A deterministic machine: a label carries whatever the environment decides. -/
structure Machine (σ : Type u) (ℓ : Type v) where
  init : σ
  step : σ → ℓ → σ

namespace Machine

variable {σ : Type u} {ℓ : Type v} (M : Machine σ ℓ)

/-- The state a run reaches from `s`. -/
def runFrom (s : σ) (ls : List ℓ) : σ := ls.foldl M.step s

/-- The state a run reaches from the initial state. -/
def run (ls : List ℓ) : σ := M.runFrom M.init ls

/-- Every step of the run from `s` meets `ok` in the state it starts in. -/
def AlongFrom (ok : σ → ℓ → Prop) : σ → List ℓ → Prop
  | _, [] => True
  | s, l :: ls => ok s l ∧ AlongFrom ok (M.step s l) ls

/-- Every step of the run from the initial state meets `ok`. -/
def Along (ok : σ → ℓ → Prop) (ls : List ℓ) : Prop := M.AlongFrom ok M.init ls

instance decidableAlongFrom (ok : σ → ℓ → Prop) [∀ s l, Decidable (ok s l)] :
    ∀ s ls, Decidable (M.AlongFrom ok s ls)
  | _, [] => isTrue trivial
  | s, l :: ls =>
      have := decidableAlongFrom ok (M.step s l) ls
      inferInstanceAs (Decidable (ok s l ∧ M.AlongFrom ok (M.step s l) ls))

instance (ok : σ → ℓ → Prop) [∀ s l, Decidable (ok s l)] (ls : List ℓ) :
    Decidable (M.Along ok ls) := M.decidableAlongFrom ok M.init ls

/-- How many steps of the run from `s` meet `p` in the state they start in. -/
def countFrom (p : σ → ℓ → Bool) : σ → List ℓ → Nat
  | _, [] => 0
  | s, l :: ls => (p s l).toNat + countFrom p (M.step s l) ls

/-- How many steps of the run from the initial state meet `p`. -/
def count (p : σ → ℓ → Bool) (ls : List ℓ) : Nat := M.countFrom p M.init ls

@[simp] theorem runFrom_nil (s : σ) : M.runFrom s [] = s := rfl

@[simp] theorem runFrom_cons (s : σ) (l : ℓ) (ls : List ℓ) :
    M.runFrom s (l :: ls) = M.runFrom (M.step s l) ls := rfl

theorem runFrom_append (s : σ) (ls ls' : List ℓ) :
    M.runFrom s (ls ++ ls') = M.runFrom (M.runFrom s ls) ls' := List.foldl_append

variable {M}

/-- **The run rule**: what holds at `s` and is kept by every step meeting `ok`
holds wherever a run of such steps arrives. -/
theorem invariantAlongFrom {P : σ → Prop} {ok : σ → ℓ → Prop}
    (step : ∀ s l, ok s l → P s → P (M.step s l)) :
    ∀ (ls : List ℓ) (s : σ), M.AlongFrom ok s ls → P s → P (M.runFrom s ls)
  | [], _, _, holds => holds
  | l :: ls, s, along, holds =>
      invariantAlongFrom step ls (M.step s l) along.2 (step s l along.1 holds)

theorem invariantAlong {P : σ → Prop} {ok : σ → ℓ → Prop} (init : P M.init)
    (step : ∀ s l, ok s l → P s → P (M.step s l)) (ls : List ℓ) (along : M.Along ok ls) :
    P (M.run ls) :=
  invariantAlongFrom step ls M.init along init

/-- What follows from an invariant at every step of a run is met along it. -/
theorem alongFrom_of {P : σ → Prop} {ok each : σ → ℓ → Prop}
    (step : ∀ s l, ok s l → P s → P (M.step s l)) (follows : ∀ s l, ok s l → P s → each s l) :
    ∀ (ls : List ℓ) (s : σ), M.AlongFrom ok s ls → P s → M.AlongFrom each s ls
  | [], _, _, _ => trivial
  | l :: ls, s, along, holds =>
      ⟨follows s l along.1 holds,
        alongFrom_of step follows ls (M.step s l) along.2 (step s l along.1 holds)⟩

theorem along_of {P : σ → Prop} {ok each : σ → ℓ → Prop} (init : P M.init)
    (step : ∀ s l, ok s l → P s → P (M.step s l)) (follows : ∀ s l, ok s l → P s → each s l)
    (ls : List ℓ) (along : M.Along ok ls) : M.Along each ls :=
  alongFrom_of step follows ls M.init along init

theorem alongFrom_congr {ok each : σ → ℓ → Prop} (same : ∀ s l, ok s l ↔ each s l) :
    ∀ (ls : List ℓ) (s : σ), M.AlongFrom ok s ls ↔ M.AlongFrom each s ls
  | [], _ => Iff.rfl
  | l :: ls, s => and_congr (same s l) (alongFrom_congr same ls (M.step s l))

theorem along_congr {ok each : σ → ℓ → Prop} (same : ∀ s l, ok s l ↔ each s l) (ls : List ℓ) :
    M.Along ok ls ↔ M.Along each ls := alongFrom_congr same ls M.init

theorem AlongFrom.before {ok : σ → ℓ → Prop} {ls' : List ℓ} :
    ∀ {ls : List ℓ} {s : σ}, M.AlongFrom ok s (ls ++ ls') → M.AlongFrom ok s ls
  | [], _, _ => trivial
  | _ :: _, _, along => ⟨along.1, AlongFrom.before along.2⟩

/-- What is met along a run is met along each of its prefixes. -/
theorem Along.before {ok : σ → ℓ → Prop} {ls ls' : List ℓ} (along : M.Along ok (ls ++ ls')) :
    M.Along ok ls := AlongFrom.before along

/-- **The counting rule**: what goes up by one with each step that meets `p` has gone up, after a run, by the number
of such steps. -/
theorem invariantCountFrom {P : Nat → σ → Prop} {p : σ → ℓ → Bool}
    (step : ∀ n s l, P n s → P (n + (p s l).toNat) (M.step s l)) :
    ∀ (ls : List ℓ) (n : Nat) (s : σ), P n s → P (n + M.countFrom p s ls) (M.runFrom s ls)
  | [], _, _, holds => holds
  | l :: ls, n, s, holds => by
      have rest := invariantCountFrom step ls _ (M.step s l) (step n s l holds)
      rwa [Nat.add_assoc] at rest

theorem invariantCount {P : Nat → σ → Prop} {p : σ → ℓ → Bool} (init : P 0 M.init)
    (step : ∀ n s l, P n s → P (n + (p s l).toNat) (M.step s l)) (ls : List ℓ) :
    P (M.count p ls) (M.run ls) := by
  have counted := invariantCountFrom step ls 0 M.init init
  rwa [Nat.zero_add] at counted

/-- A condition each of whose breaches shows at once is met along a run that shows none. -/
theorem alongFrom_of_prefixes {P Q : σ → Prop} {ok : σ → ℓ → Prop}
    (step : ∀ s l, ok s l → P s → P (M.step s l)) (shows : ∀ s l, P s → Q (M.step s l) → ok s l) :
    ∀ (ls : List ℓ) (s : σ), P s → (∀ earlier, earlier <+: ls → Q (M.runFrom s earlier)) →
      M.AlongFrom ok s ls
  | [], _, _, _ => trivial
  | l :: ls, s, holds, each =>
      have met : ok s l := shows s l holds (each [l] ⟨ls, rfl⟩)
      ⟨met, alongFrom_of_prefixes step shows ls (M.step s l) (step s l met holds) fun earlier before =>
        each (l :: earlier) (List.cons_prefix_cons.2 ⟨rfl, before⟩)⟩

theorem invariantFrom {P : σ → Prop} (step : ∀ s l, P s → P (M.step s l)) :
    ∀ (ls : List ℓ) (s : σ), P s → P (M.runFrom s ls)
  | [], _, holds => holds
  | l :: ls, s, holds => invariantFrom step ls (M.step s l) (step s l holds)

theorem invariant {P : σ → Prop} (init : P M.init)
    (step : ∀ s l, P s → P (M.step s l)) (ls : List ℓ) : P (M.run ls) :=
  invariantFrom step ls M.init init

theorem run_append (ls : List ℓ) (l : ℓ) : M.run (ls ++ [l]) = M.step (M.run ls) l :=
  M.runFrom_append M.init ls [l]

/-- **The trace rule**: what a step adds to a run and its state, any run has. -/
theorem invariantTrace {P : List ℓ → σ → Prop} (init : P [] M.init)
    (step : ∀ ls l, P ls (M.run ls) → P (ls ++ [l]) (M.step (M.run ls) l)) (ls : List ℓ) :
    P ls (M.run ls) := by
  induction ls using List.reverseRecOn with
  | nil => exact init
  | append_singleton ls l ih =>
      rw [run_append]
      exact step ls l ih

end Machine

end Endurox.Theory
