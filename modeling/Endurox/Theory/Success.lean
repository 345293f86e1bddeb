/-
# Theory.Success -- runs of fallible code that succeed

`Succeeds m s a s'` says that from `s` the action `m` succeeds with `a` and leaves `s'`.
There is one equivalence for each way to build an action, so that a success is taken apart
step by step, and put together again the same way.
-/
import Endurox.Theory.Action

namespace Endurox.Theory

set_option autoImplicit false

universe u

section Succeeds

variable {ε σ α β : Type u} {s s' : σ} {a : α} {b : β}

/-- From `s` the action succeeds with `a`, and leaves `s'`. -/
def Succeeds (m : Fallible ε σ α) (s : σ) (a : α) (s' : σ) : Prop := m.run.run s = (.ok a, s')

theorem succeeds_pure {a' : α} : Succeeds (pure a' : Fallible ε σ α) s a s' ↔ a' = a ∧ s = s' := by
  constructor
  · intro ran
    cases ran
    exact ⟨rfl, rfl⟩
  · rintro ⟨rfl, rfl⟩
    rfl

theorem succeeds_throw {e : ε} : ¬ Succeeds (throw e : Fallible ε σ α) s a s' := by
  intro ran
  cases ran

theorem succeeds_bind {m : Fallible ε σ α} {next : α → Fallible ε σ β} :
    Succeeds (m >>= next) s b s' ↔ ∃ a s₁, Succeeds m s a s₁ ∧ Succeeds (next a) s₁ b s' := by
  unfold Succeeds
  rcases first : m.run.run s with ⟨e | a, s₁⟩
  · rw [run_tryBind_error first]
    constructor
    · intro ran
      cases ran
    · rintro ⟨_, _, same, -⟩
      cases same
  · rw [run_tryBind_ok first]
    constructor
    · exact fun rest => ⟨a, s₁, rfl, rest⟩
    · rintro ⟨a', s₁', same, rest⟩
      cases same
      exact rest

theorem succeeds_ofExcept {result : Except ε α} :
    Succeeds (MonadExcept.ofExcept result : Fallible ε σ α) s a s' ↔ result = .ok a ∧ s = s' := by
  cases result with
  | error e =>
      constructor
      · intro ran
        cases ran
      · rintro ⟨same, -⟩
        cases same
  | ok a' =>
      constructor
      · intro ran
        cases ran
        exact ⟨rfl, rfl⟩
      · rintro ⟨same, rfl⟩
        cases same
        rfl

theorem succeeds_throwIf {c : Prop} [Decidable c] {e : ε} {u : PUnit} :
    Succeeds (throwIf c e : Fallible ε σ PUnit) s u s' ↔ ¬ c ∧ s = s' := by
  unfold throwIf
  split
  · rename_i holds
    exact ⟨fun ran => absurd ran succeeds_throw, fun ⟨fails, _⟩ => absurd holds fails⟩
  · rename_i fails
    rw [succeeds_pure]
    exact ⟨fun ran => ⟨fails, ran.2⟩, fun ran => ⟨rfl, ran.2⟩⟩

theorem succeeds_runIf {c : Prop} [Decidable c] {m : Fallible ε σ PUnit} {u : PUnit} :
    Succeeds (runIf c m) s u s' ↔ (c ∧ Succeeds m s u s') ∨ (¬ c ∧ s = s') := by
  unfold runIf
  split
  · rename_i holds
    simp [holds]
  · rename_i fails
    simp [fails, succeeds_pure]

theorem succeeds_get {held : σ} : Succeeds (get : Fallible ε σ σ) s held s' ↔ s = held ∧ s = s' := by
  constructor
  · intro ran
    cases ran
    exact ⟨rfl, rfl⟩
  · rintro ⟨rfl, rfl⟩
    rfl

theorem succeeds_modify {change : σ → σ} {u : PUnit} :
    Succeeds (modify change : Fallible ε σ PUnit) s u s' ↔ change s = s' := by
  constructor
  · intro ran
    cases ran
    rfl
  · rintro rfl
    rfl

theorem succeeds_lift {m : StateM σ α} : Succeeds (liftM m : Fallible ε σ α) s a s' ↔ m.run s = (a, s') := by
  unfold Succeeds
  rw [show (liftM m : Fallible ε σ α).run.run s = (.ok (m.run s).1, (m.run s).2) from rfl]
  constructor
  · intro ran
    cases ran
    rfl
  · intro ran
    rw [ran]

theorem succeeds_outcomeOf {m : Fallible ε σ α} {result : Except ε α} :
    Succeeds (outcomeOf m) s result s' ↔ m.run.run s = (result, s') := by
  unfold Succeeds
  rw [show (outcomeOf m).run.run s = (.ok (m.run.run s).1, (m.run.run s).2) from rfl]
  constructor
  · intro ran
    cases ran
    rfl
  · intro ran
    rw [ran]

/-- What an action keeps, its success has kept. -/
theorem Succeeds.keeps {P : σ → Prop} {m : Fallible ε σ α} (ran : Succeeds m s a s') (keeps : Keeps P m.run)
    (holds : P s) : P s' := by
  have after := keeps s holds
  have ended : (m.run.run s).2 = s' := congrArg Prod.snd ran
  rwa [ended] at after

end Succeeds

end Endurox.Theory
