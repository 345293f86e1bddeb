/-
# Ubf.Success -- writes that succeed

What a write has done is read off its run: `Ran` is a run that succeeds, and a rule for
each way to build one takes it apart again.  Of the native calls a success says what
became of the buffer.
-/
import Endurox.Ubf.Groups

namespace Endurox.Ubf

open Endurox.Theory
open Endurox.Typed (BFLDID UbfFieldType UbfError UbfCode)

set_option autoImplicit false

/-! ## Writes that succeed -/

section Ran

variable {α β : Type} {t t' : Target} {a : α} {b : β}

/-- The write succeeds. -/
def Ran (w : Writing α) (t : Target) (a : α) (t' : Target) : Prop := w.run.run t = (.ok a, t')

theorem ran_pure {a' : α} : Ran (pure a') t a t' ↔ a' = a ∧ t = t' := by
  constructor
  · intro ran
    cases ran
    exact ⟨rfl, rfl⟩
  · rintro ⟨rfl, rfl⟩
    rfl

theorem ran_throw {e : UbfError} : ¬ Ran (throw e : Writing α) t a t' := nofun

theorem ran_bind {w : Writing α} {next : α → Writing β} :
    Ran (w >>= next) t b t' ↔ ∃ a t₁, Ran w t a t₁ ∧ Ran (next a) t₁ b t' := by
  unfold Ran
  rcases first : w.run.run t with ⟨e | a, t₁⟩
  · rw [run_tryBind_error first]
    constructor
    · exact nofun
    · rintro ⟨_, _, same, -⟩
      exact nomatch same
  · rw [run_tryBind_ok first]
    constructor
    · exact fun rest => ⟨a, t₁, rfl, rest⟩
    · rintro ⟨a', t₁', same, rest⟩
      cases same
      exact rest

theorem ran_check {result : Except UbfError α} : Ran (check result) t a t' ↔ result = .ok a ∧ t = t' := by
  unfold Ran
  rw [check_run]
  constructor
  · intro ran
    cases ran
    exact ⟨rfl, rfl⟩
  · rintro ⟨rfl, rfl⟩
    rfl

theorem ran_throwIf {c : Prop} [Decidable c] {e : UbfError} {u : PUnit} :
    Ran (throwIf c e) t u t' ↔ ¬ c ∧ t = t' := by
  unfold Ran
  rw [run_throwIf]
  split
  · rename_i holds
    constructor
    · exact nofun
    · exact fun ⟨fails, _⟩ => absurd holds fails
  · rename_i fails
    constructor
    · intro ran
      cases ran
      exact ⟨fails, rfl⟩
    · rintro ⟨-, rfl⟩
      rfl

theorem ran_get {s : Target} : Ran get t s t' ↔ t = s ∧ t = t' := by
  constructor
  · intro ran
    cases ran
    exact ⟨rfl, rfl⟩
  · rintro ⟨rfl, rfl⟩
    rfl

theorem ran_set {s : Target} {u : PUnit} : Ran (set s) t u t' ↔ s = t' := by
  constructor
  · intro ran
    cases ran
    rfl
  · rintro rfl
    rfl

theorem ran_modify {change : Target → Target} {u : PUnit} : Ran (modify change) t u t' ↔ change t = t' := by
  constructor
  · intro ran
    cases ran
    rfl
  · rintro rfl
    rfl

theorem ran_outcomeOf {w : Writing α} {result : Except UbfError α} :
    Ran (outcomeOf w) t result t' ↔ w.run.run t = (result, t') := by
  unfold Ran
  rw [show (outcomeOf w).run.run t = (.ok (w.run.run t).1, (w.run.run t).2) from rfl]
  constructor
  · intro ran
    cases ran
    rfl
  · intro ran
    rw [ran]

/-- A label changes errors only. -/
theorem ran_labelled {w : Writing α} (name member : String) :
    Ran (labelled name member w) t a t' ↔ Ran w t a t' := by
  unfold labelled
  rw [ran_bind]
  constructor
  · rintro ⟨result, t₁, first, rest⟩
    rw [ran_outcomeOf] at first
    cases result with
    | error e => exact absurd rest ran_throw
    | ok a' =>
        obtain ⟨rfl, rfl⟩ := ran_pure.1 rest
        exact first
  · exact fun ran => ⟨.ok a, t', ran_outcomeOf.2 ran, ran_pure.2 ⟨rfl, rfl⟩⟩

/-- Native calls do not touch the buffer on their own. -/
theorem ran_native {u : PUnit} (ran : Ran native t u t') : t'.fields = t.fields := by
  unfold native at ran
  obtain ⟨s, t₁, got, rest⟩ := ran_bind.1 ran
  obtain ⟨rfl, rfl⟩ := ran_get.1 got
  split at rest
  · obtain ⟨-, rfl⟩ := ran_pure.1 rest
    rfl
  · obtain ⟨_, t₂, taken, answered⟩ := ran_bind.1 rest
    cases ran_set.1 taken
    split at answered
    · obtain ⟨-, rfl⟩ := ran_pure.1 answered
      rfl
    · exact absurd answered ran_throw

end Ran

/-! ## The native calls -/

section NativeCalls

variable {t t' : Target} {u : PUnit} {f : BFLDID}

theorem Native.changed_eq_ok {N : Native} {occ : Int} {datum : Datum} {fields fields' : Buffer}
    (places : N.Places occ) (changed : N.changed f occ datum fields = .ok fields') :
    0 ≤ occ ∧ fields' = change (placeholder f.type) f occ.toNat datum fields := by
  unfold Native.changed at changed
  split at changed
  · rename_i placed
    cases changed
    exact ⟨placed, rfl⟩
  · rename_i below
    obtain ⟨error, refused⟩ := places.resolve_left below f occ datum fields (Int.not_le.1 below)
    rw [refused] at changed
    cases changed

theorem putNative_ran {N : Native} {occ : Int} {datum : Datum} (places : N.Places occ)
    (ran : Ran (putNative N f occ datum) t u t') :
    0 ≤ occ ∧ t'.fields = change (placeholder f.type) f occ.toNat datum t.fields := by
  obtain ⟨_, t₁, called, rest⟩ := ran_bind.1 ran
  obtain ⟨_, t₂, got, rest⟩ := ran_bind.1 rest
  obtain ⟨rfl, rfl⟩ := ran_get.1 got
  obtain ⟨fields, t₃, given, put⟩ := ran_bind.1 rest
  obtain ⟨changed, rfl⟩ := ran_check.1 given
  obtain ⟨placed, rfl⟩ := Native.changed_eq_ok places changed
  exact ⟨placed, by rw [← ran_set.1 put, ← ran_native called]⟩

theorem bdelOwned_ran {occ : Nat} (ran : Ran (bdelOwned f occ) t u t') :
    t'.fields = remove f occ t.fields := by
  obtain ⟨_, t₁, called, rest⟩ := ran_bind.1 ran
  obtain ⟨s, t₂, got, later⟩ := ran_bind.1 rest
  obtain ⟨rfl, rfl⟩ := ran_get.1 got
  obtain ⟨_, t₃, checked, removed⟩ := ran_bind.1 later
  obtain ⟨-, rfl⟩ := ran_throwIf.1 checked
  rw [← ran_modify.1 removed, ← ran_native called]

theorem clearLoop_ran (first : Nat) : ∀ (count : Nat) {t : Target}, Ran (clearLoop f first count) t u t' →
    t'.fields = removeLast f first count t.fields
  | 0, _, ran => by
      obtain ⟨-, rfl⟩ := ran_pure.1 ran
      rfl
  | count + 1, t, ran => by
      obtain ⟨_, t₁, deleted, rest⟩ := ran_bind.1 ran
      rw [clearLoop_ran first count rest, bdelOwned_ran deleted]
      rfl

/-- **`clear_from`** removes every occurrence from the first one on. -/
theorem clearFrom_ran {first : Int} (ran : Ran (clearFrom f first) t u t') :
    0 ≤ first ∧ t'.fields = truncate f first.toNat t.fields := by
  obtain ⟨_, t₁, checked, rest⟩ := ran_bind.1 ran
  obtain ⟨positive, rfl⟩ := ran_throwIf.1 checked
  obtain ⟨total, t₂, counted, cleared⟩ := ran_bind.1 rest
  obtain ⟨_, t₃, called, later⟩ := ran_bind.1 counted
  obtain ⟨s, t₄, got, returned⟩ := ran_bind.1 later
  obtain ⟨rfl, rfl⟩ := ran_get.1 got
  obtain ⟨rfl, rfl⟩ := ran_pure.1 returned
  refine ⟨Int.not_lt.1 positive, ?_⟩
  rw [clearLoop_ran _ _ cleared, ran_native called]
  rfl

/-- A nested write starts from an empty buffer and leaves the outer one alone. -/
theorem nested_ran {write : Writing PUnit} {fields : Buffer} (ran : Ran (nested write) t fields t') :
    t'.fields = t.fields ∧ ∃ s s' u, s.fields = [] ∧ Ran write s u s' ∧ s'.fields = fields := by
  obtain ⟨_, t₁, called, rest⟩ := ran_bind.1 ran
  obtain ⟨outer, t₂, got, rest⟩ := ran_bind.1 rest
  obtain ⟨rfl, rfl⟩ := ran_get.1 got
  obtain ⟨_, t₃, emptied, rest⟩ := ran_bind.1 rest
  cases ran_set.1 emptied
  obtain ⟨outcome, t₄, wrote, rest⟩ := ran_bind.1 rest
  rw [ran_outcomeOf] at wrote
  obtain ⟨child, t₅, read, rest⟩ := ran_bind.1 rest
  obtain ⟨rfl, rfl⟩ := ran_get.1 read
  obtain ⟨_, t₆, restored, rest⟩ := ran_bind.1 rest
  cases ran_set.1 restored
  obtain ⟨u, t₇, ended, rest⟩ := ran_bind.1 rest
  obtain ⟨succeeded, rfl⟩ := ran_check.1 ended
  obtain ⟨rfl, rfl⟩ := ran_pure.1 rest
  have kept := ran_native called
  exact ⟨kept, _, t₄, u, rfl, succeeded ▸ wrote, rfl⟩

end NativeCalls

end Endurox.Ubf
