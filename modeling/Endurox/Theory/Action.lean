/-
# Theory.Action -- what a stateful computation ends in

Code that always finishes is a `StateM σ` action; code that may leave early is
`Fallible ε σ`, which keeps the state it had reached.  `Ends P m Q` says that
from every state meeting `P` the action ends in a result and a state meeting
`Q`; its rules follow the do-blocks (`bind`, `tryBind` for a step whose error
leaves the block, `throw`, `lift`).  `Keeps P` is the case where `Q` is `P`
whatever the result: an invariant kept by every operation is kept by the code
built from them.
-/
import Mathlib.Init

namespace Endurox.Theory

set_option autoImplicit false

universe u

/-- State passing with an early exit that keeps the state reached so far. -/
abbrev Fallible (ε σ : Type u) := ExceptT ε (StateM σ)

/-- Run a fallible action to its result, without leaving the block on an error. -/
def outcomeOf {ε σ α : Type u} (m : Fallible ε σ α) : Fallible ε σ (Except ε α) :=
  ExceptT.lift m.run

variable {ε σ α β : Type u}

/-- Leave early when `c` holds. -/
def throwIf (c : Prop) [Decidable c] (e : ε) : Fallible ε σ PUnit := if c then throw e else pure ⟨⟩

/-- A step taken only when `c` holds. -/
def runIf (c : Prop) [Decidable c] (m : Fallible ε σ PUnit) : Fallible ε σ PUnit :=
  if c then m else pure ⟨⟩

/-- From every state meeting `P`, `m` ends in a result and a state meeting `Q`. -/
def Ends (P : σ → Prop) (m : StateM σ α) (Q : α → σ → Prop) : Prop :=
  ∀ s, P s → Q (m.run s).1 (m.run s).2

/-- `m` leaves `P` true, whatever it returns. -/
def Keeps (P : σ → Prop) (m : StateM σ α) : Prop := Ends P m fun _ => P

section Rules

variable {P B : σ → Prop} {Q : α → σ → Prop} {R : β → σ → Prop}

theorem Ends.pure {a : α} (holds : ∀ s, P s → Q a s) : Ends P (Pure.pure a) Q := holds

theorem Ends.bind {m : StateM σ α} {f : α → StateM σ β} (first : Ends P m Q)
    (rest : ∀ a, Ends (Q a) (f a) R) : Ends P (m >>= f) R :=
  fun s holds => rest _ _ (first s holds)

theorem Ends.mono {m : StateM σ α} {R : α → σ → Prop} (ends : Ends B m R)
    (before : ∀ s, P s → B s) (after : ∀ a s, R a s → Q a s) : Ends P m Q :=
  fun s holds => after _ _ (ends s (before s holds))

theorem Ends.and {m : StateM σ α} {Q' : α → σ → Prop} (first : Ends P m Q) (second : Ends P m Q') :
    Ends P m fun a s => Q a s ∧ Q' a s :=
  fun s holds => ⟨first s holds, second s holds⟩

theorem Ends.anyhow {m : StateM σ α} : Ends P m fun _ _ => True := fun _ _ => True.intro

theorem Ends.ofModify {f : σ → σ} {Q : PUnit → σ → Prop} (holds : ∀ s, P s → Q ⟨⟩ (f s)) :
    Ends P (modify f) Q := holds

theorem Ends.ofModifyGet {f : σ → α × σ} (holds : ∀ s, P s → Q (f s).1 (f s).2) :
    Ends P (modifyGet f) Q := holds

theorem Ends.ofGet {Q : σ → σ → Prop} (holds : ∀ s, P s → Q s s) : Ends P get Q := holds

variable {F : Except ε α → σ → Prop} {G : Except ε β → σ → Prop}

theorem Ends.tryBind {m : Fallible ε σ α} {f : α → Fallible ε σ β} (first : Ends P m.run F)
    (error : ∀ e s, F (.error e) s → G (.error e) s)
    (rest : ∀ a, Ends (F (.ok a)) (f a).run G) : Ends P (m >>= f).run G := by
  rw [ExceptT.run_bind]
  refine Ends.bind first fun outcome => ?_
  cases outcome with
  | error e => exact Ends.pure (error e)
  | ok a => exact rest a

theorem Ends.tryPure {a : α} (holds : ∀ s, P s → F (.ok a) s) :
    Ends P (Pure.pure a : Fallible ε σ α).run F := holds

theorem Ends.throw {e : ε} (holds : ∀ s, P s → F (.error e) s) :
    Ends P (throw e : Fallible ε σ α).run F := holds

theorem Ends.lift {m : StateM σ α} (ends : Ends P m fun a => F (.ok a)) :
    Ends P (liftM m : Fallible ε σ α).run F := ends

theorem Ends.tryModify {f : σ → σ} {F : Except ε PUnit → σ → Prop}
    (holds : ∀ s, P s → F (.ok ⟨⟩) (f s)) : Ends P (modify f : Fallible ε σ PUnit).run F := holds

theorem Ends.tryModifyGet {f : σ → α × σ} (holds : ∀ s, P s → F (.ok (f s).1) (f s).2) :
    Ends P (modifyGet f : Fallible ε σ α).run F := holds

theorem Ends.tryGet {F : Except ε σ → σ → Prop} (holds : ∀ s, P s → F (.ok s) s) :
    Ends P (get : Fallible ε σ σ).run F := holds

/-- What is read is the state that holds. -/
theorem Ends.tryRead {f : σ → Fallible ε σ β} (rest : ∀ now, Ends (fun s => P s ∧ s = now) (f now).run G) :
    Ends P ((get : Fallible ε σ σ) >>= f).run G := fun s holds => rest s s ⟨holds, rfl⟩

theorem Ends.ofExcept {result : Except ε α} (holds : ∀ s, P s → F result s) :
    Ends P (MonadExcept.ofExcept result : Fallible ε σ α).run F := by
  cases result <;> exact holds

theorem Ends.tryOutcome {m : Fallible ε σ α} {f : Except ε α → Fallible ε σ β}
    (first : Ends P m.run F) (rest : ∀ result, Ends (F result) (f result).run G) :
    Ends P (outcomeOf m >>= f).run G :=
  Ends.tryBind (F := fun outcome s => ∃ result, outcome = .ok result ∧ F result s)
    (fun s holds => ⟨_, rfl, first s holds⟩) (fun _ _ impossible => nomatch impossible)
    fun result s ⟨_, same, holds⟩ => rest result s (Except.ok.inj same ▸ holds)

theorem Ends.throwIf {c : Prop} [Decidable c] {e : ε} {F : Except ε PUnit → σ → Prop}
    (thrown : ∀ s, c → P s → F (.error e) s) (passed : ∀ s, ¬ c → P s → F (.ok ⟨⟩) s) :
    Ends P (throwIf c e).run F := by
  unfold Theory.throwIf
  split
  · rename_i holds
    exact fun s before => thrown s holds before
  · rename_i fails
    exact fun s before => passed s fails before

theorem Ends.runIf {c : Prop} [Decidable c] {m : Fallible ε σ PUnit} {F : Except ε PUnit → σ → Prop}
    (ran : c → Ends P m.run F) (passed : ∀ s, ¬ c → P s → F (.ok ⟨⟩) s) : Ends P (runIf c m).run F := by
  unfold Theory.runIf
  split
  · rename_i holds
    exact ran holds
  · rename_i fails
    exact fun s before => passed s fails before

/-- A fact about values moves out of the precondition. -/
theorem Ends.ofFact {fact : Prop} {m : StateM σ α} (ends : fact → Ends P m Q) :
    Ends (fun s => P s ∧ fact) m Q := fun s holds => ends holds.2 s holds.1

/-- The same, with the fact in front. -/
theorem Ends.ofThen {fact : Prop} {m : StateM σ α} (ends : fact → Ends P m Q) :
    Ends (fun s => fact ∧ P s) m Q := fun s holds => ends holds.1 s holds.2

/-- A precondition that is only a fact about values. -/
theorem Ends.ofOnly {fact : Prop} {m : StateM σ α} (ends : fact → Ends (fun _ => True) m Q) :
    Ends (fun _ => fact) m Q := fun s holds => ends holds s trivial

/-- A value known to exist moves out of the precondition. -/
theorem Ends.ofExists {γ : Type} {P : γ → σ → Prop} {m : StateM σ α} (ends : ∀ c, Ends (P c) m Q) :
    Ends (fun s => ∃ c, P c s) m Q := fun s ⟨c, holds⟩ => ends c s holds

theorem Keeps.pure {a : α} : Keeps P (Pure.pure a) := fun _ holds => holds

theorem Keeps.bind {m : StateM σ α} {f : α → StateM σ β} (first : Keeps P m)
    (rest : ∀ a, Keeps P (f a)) : Keeps P (m >>= f) :=
  Ends.bind first rest

theorem Keeps.ofModify {f : σ → σ} (holds : ∀ s, P s → P (f s)) : Keeps P (modify f) := holds

theorem Keeps.ofGet : Keeps P (get : StateM σ σ) := fun _ holds => holds

theorem Keeps.tryBind {m : Fallible ε σ α} {f : α → Fallible ε σ β} (first : Keeps P m.run)
    (rest : ∀ a, Keeps P (f a).run) : Keeps P (m >>= f).run :=
  Ends.tryBind first (fun _ _ holds => holds) rest

theorem Keeps.tryPure {a : α} : Keeps P (Pure.pure a : Fallible ε σ α).run := fun _ holds => holds

theorem Keeps.throw {e : ε} : Keeps P (throw e : Fallible ε σ α).run := fun _ holds => holds

theorem Keeps.lift {m : StateM σ α} (keeps : Keeps P m) :
    Keeps P (liftM m : Fallible ε σ α).run := keeps

theorem Keeps.outcome {m : Fallible ε σ α} (keeps : Keeps P m.run) :
    Keeps P (outcomeOf m).run := keeps

theorem Keeps.tryModify {f : σ → σ} (holds : ∀ s, P s → P (f s)) :
    Keeps P (modify f : Fallible ε σ PUnit).run := holds

theorem Keeps.tryModifyGet {f : σ → α × σ} (holds : ∀ s, P s → P (f s).2) :
    Keeps P (modifyGet f : Fallible ε σ α).run := holds

theorem Keeps.tryGet : Keeps P (get : Fallible ε σ σ).run := fun _ holds => holds

theorem Keeps.ofExcept {result : Except ε α} :
    Keeps P (MonadExcept.ofExcept result : Fallible ε σ α).run :=
  Ends.ofExcept fun _ holds => holds

theorem Keeps.throwIf {c : Prop} [Decidable c] {e : ε} : Keeps P (throwIf c e : Fallible ε σ PUnit).run :=
  Ends.throwIf (fun _ _ holds => holds) fun _ _ holds => holds

theorem Keeps.runIf {c : Prop} [Decidable c] {m : Fallible ε σ PUnit} (keeps : c → Keeps P m.run) :
    Keeps P (runIf c m).run :=
  Ends.runIf keeps fun _ _ holds => holds

theorem Keeps.tryFoldlM {f : β → α → Fallible ε σ β} (step : ∀ b a, Keeps P (f b a).run) :
    ∀ (as : List α) (b : β), Keeps P (as.foldlM f b).run
  | [], _ => Keeps.tryPure
  | a :: as, b => by
      rw [List.foldlM_cons]
      exact Keeps.tryBind (step b a) fun b => Keeps.tryFoldlM step as b

/-- An action that keeps every predicate leaves the state it found. -/
theorem Keeps.unchanged {m : StateM σ α} {s : σ} (keeps : Keeps (· = s) m) :
    ∃ result, m.run s = (result, s) :=
  ⟨(m.run s).1, Prod.ext rfl (keeps s rfl)⟩

theorem run_tryBind_error {m : Fallible ε σ α} {f : α → Fallible ε σ β} {s s' : σ} {e : ε}
    (ran : m.run.run s = (.error e, s')) : (m >>= f).run.run s = (.error e, s') := by
  rw [ExceptT.run_bind, StateT.run_bind, ran]
  rfl

theorem run_tryBind_ok {m : Fallible ε σ α} {f : α → Fallible ε σ β} {s s' : σ} {a : α}
    (ran : m.run.run s = (.ok a, s')) : (m >>= f).run.run s = (f a).run.run s' := by
  rw [ExceptT.run_bind, StateT.run_bind, ran]
  rfl

theorem run_throwIf (c : Prop) [Decidable c] (e : ε) (s : σ) :
    (throwIf c e : Fallible ε σ PUnit).run.run s = (if c then .error e else .ok ⟨⟩, s) := by
  unfold throwIf
  split <;> rfl

theorem run_tryOutcome {m : Fallible ε σ α} {f : Except ε α → Fallible ε σ β} {s s' : σ}
    {result : Except ε α} (ran : m.run.run s = (result, s')) :
    (outcomeOf m >>= f).run.run s = (f result).run.run s' :=
  run_tryBind_ok (m := outcomeOf m) (show _ = _ by
    rw [show (outcomeOf m).run.run s = (.ok (m.run.run s).1, (m.run.run s).2) from rfl, ran])

end Rules

/-! ## Early exits apart -/

/-- It ends in a result and a state meeting `Q`, or leaves early in a state meeting `E`. -/
def Yields (P : σ → Prop) (m : Fallible ε σ α) (Q : α → σ → Prop) (E : σ → Prop) : Prop :=
  Ends P m.run fun result s => match result with
    | .ok a => Q a s
    | .error _ => E s

section Yields

variable {P B E : σ → Prop} {Q : α → σ → Prop} {R : β → σ → Prop}

theorem Yields.bind {m : Fallible ε σ α} {f : α → Fallible ε σ β} (first : Yields P m Q E)
    (rest : ∀ a, Yields (Q a) (f a) R E) : Yields P (m >>= f) R E :=
  Ends.tryBind first (fun _ _ left => left) rest

theorem Yields.mono {m : Fallible ε σ α} {Q' : α → σ → Prop} {E' : σ → Prop} (yields : Yields B m Q' E')
    (before : ∀ s, P s → B s) (after : ∀ a s, Q' a s → Q a s) (left : ∀ s, E' s → E s) : Yields P m Q E :=
  Ends.mono yields before fun result s holds => match result, holds with
    | .ok a, holds => after a s holds
    | .error _, holds => left s holds

theorem Yields.pure {a : α} (holds : ∀ s, P s → Q a s) : Yields P (Pure.pure a : Fallible ε σ α) Q E := holds

theorem Yields.throw {e : ε} (left : ∀ s, P s → E s) : Yields P (throw e : Fallible ε σ α) Q E := left

theorem Yields.ofKeeps {m : Fallible ε σ α} (keeps : Keeps P m.run) : Yields P m (fun _ => P) P :=
  Ends.mono keeps (fun _ holds => holds) fun result _ holds => match result with
    | .ok _ => holds
    | .error _ => holds

theorem Yields.modify {f : σ → σ} {Q : PUnit → σ → Prop} (holds : ∀ s, P s → Q ⟨⟩ (f s)) :
    Yields P (modify f : Fallible ε σ PUnit) Q E := holds

theorem Yields.modifyGet {f : σ → α × σ} (holds : ∀ s, P s → Q (f s).1 (f s).2) :
    Yields P (modifyGet f : Fallible ε σ α) Q E := holds

/-- What is read is the state that holds. -/
theorem Yields.read {f : σ → Fallible ε σ β} (rest : ∀ now, P now → Yields (· = now) (f now) R E) :
    Yields P ((get : Fallible ε σ σ) >>= f) R E := fun s holds => rest s holds s rfl

/-- What is read need not be the state that holds later. -/
theorem Yields.peek {f : σ → Fallible ε σ β} (rest : ∀ now, Yields P (f now) R E) :
    Yields P ((get : Fallible ε σ σ) >>= f) R E := fun s holds => rest s s holds

theorem Yields.throwIf {c : Prop} [Decidable c] {e : ε} {Q : PUnit → σ → Prop} (left : ∀ s, c → P s → E s)
    (passed : ∀ s, ¬ c → P s → Q ⟨⟩ s) : Yields P (throwIf c e) Q E :=
  Ends.throwIf left passed

theorem Yields.runIf {c : Prop} [Decidable c] {m : Fallible ε σ PUnit} {Q : PUnit → σ → Prop}
    (ran : c → Yields P m Q E) (passed : ∀ s, ¬ c → P s → Q ⟨⟩ s) : Yields P (runIf c m) Q E :=
  Ends.runIf ran passed

theorem Yields.lift {m : StateM σ α} (ends : Ends P m Q) : Yields P (liftM m : Fallible ε σ α) Q E := ends

theorem Yields.outcome {m : Fallible ε σ α} {Q : Except ε α → σ → Prop} (ends : Ends P m.run Q) :
    Yields P (outcomeOf m) Q E := ends

end Yields

end Endurox.Theory
