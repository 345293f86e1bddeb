/-
# Ubf.Expressions -- evaluations inside callbacks inside evaluations

An expression is evaluated by native code, which calls back into Rust, which may evaluate
further expressions.  `ExprEvaluation` keeps the context of the innermost evaluation in
`EXPR_CONTEXT`; `ExprCallbackTls` takes the thread's native TLS apart while a callback
runs.  A program is the tree of its evaluations and callbacks, with what native code
answers at each suspension.

What the thread had at every entry and exit, and which context a callback received, is
logged; nothing reads the log.
-/
import Mathlib.Init

namespace Endurox.Ubf.Expressions

set_option autoImplicit false

/-! ## The thread -/

/-- An `AtmiCtx`. -/
abbrev Ctx := Nat

/-- The native TLS components attached to the thread, each with its context.  NSTD and UBF are
attached by the Object API of UBF, ATMI by a dispatcher or an ATMI call. -/
structure Tls where
  nstd : Option Ctx := none
  ubf : Option Ctx := none
  atmi : Option Ctx := none
  deriving DecidableEq, Repr

structure Thread where
  /-- `EXPR_CONTEXT`. -/
  exprContext : Option Ctx := none
  tls : Tls := {}
  deriving DecidableEq, Repr

/-- What `ndrx_tpgetctxt` returns. -/
inductive Taken
  | EXFAIL | TPNULLCONTEXT | TPMULTICONTEXTS
  deriving DecidableEq, Repr

namespace Tls

/-- `ndrx_tpgetctxt` of ATMI: the component it detached, if there was one. -/
def getAtmi (succeeds : Bool) (tls : Tls) : Taken × Option Ctx × Tls :=
  if succeeds = false then (.EXFAIL, none, tls)
  else
    match tls.atmi with
    | some ctx => (.TPMULTICONTEXTS, some ctx, { tls with atmi := none })
    | none => (.TPNULLCONTEXT, none, tls)

/-- `ndrx_tpgetctxt` of NSTD and UBF, into their context; an Object API call attaches both. -/
def getUbf (succeeds : Bool) (ctx : Ctx) (tls : Tls) : Taken × Tls :=
  if succeeds = false then (.EXFAIL, tls)
  else if tls.nstd = some ctx ∧ tls.ubf = some ctx then
    (.TPMULTICONTEXTS, { tls with nstd := none, ubf := none })
  else (.TPNULLCONTEXT, tls)

/-- `ndrx_tpsetctxt` of a component that was detached. -/
def setAtmi (ctx : Ctx) (tls : Tls) : Tls := { tls with atmi := some ctx }

def setUbf (ctx : Ctx) (tls : Tls) : Tls := { tls with nstd := some ctx, ubf := some ctx }

end Tls

/-! ## The guards -/

structure ExprEvaluation where
  ctx : Ctx
  previous : Option Ctx

namespace ExprEvaluation

def enter (ctx : Ctx) (t : Thread) : ExprEvaluation × Thread :=
  (⟨ctx, t.exprContext⟩, { t with exprContext := some ctx })

def drop (guard : ExprEvaluation) (t : Thread) : Thread := { t with exprContext := guard.previous }

end ExprEvaluation

structure ExprCallbackTls where
  ctx : Ctx
  previousAtmi : Option Ctx
  ubfDetached : Bool

namespace ExprCallbackTls

/-- `Drop for ExprCallbackTls`. -/
def drop (guard : ExprCallbackTls) (tls : Tls) : Tls :=
  let tls := if guard.ubfDetached then tls.setUbf guard.ctx else tls
  match guard.previousAtmi with
  | some ctx => tls.setAtmi ctx
  | none => tls

/-- `suspend`; a guard it does not return is dropped. -/
def suspend (ctx : Ctx) (atmi ubf : Bool) (tls : Tls) : Option ExprCallbackTls × Tls :=
  match tls.getAtmi atmi with
  | (.EXFAIL, _, tls) => (none, tls)
  | (_, previousAtmi, tls) =>
      match tls.getUbf ubf ctx with
      | (.TPMULTICONTEXTS, tls) => (some ⟨ctx, previousAtmi, true⟩, tls)
      | (_, tls) => (none, drop ⟨ctx, previousAtmi, false⟩ tls)

end ExprCallbackTls

/-! ## Programs -/

/-- How Rust code ends. -/
inductive Ending
  | returned (value : Int)
  | panicked
  deriving DecidableEq, Repr

/-- `catch_unwind(..).unwrap_or(0)`. -/
def Ending.caught : Ending → Ending
  | .returned value => .returned value
  | .panicked => .returned 0

mutual

/-- `bboolev` or `bfloatev` on a context, and the callbacks the evaluator makes. -/
inductive Evaluation
  | eval (ctx : Ctx) (calls : List Invocation)

/-- One call of the proxy: whether its pointers are there and a callback is registered, how the
two suspension steps answer, and what the callback evaluates before it ends. -/
inductive Invocation
  | call (pointers resolved atmi ubf : Bool) (body : List Evaluation) (ending : Ending)

end

/-- What is seen of a run. -/
inductive Event
  /-- A callback ran on the context it received, inside an evaluation of the other. -/
  | callback (received innermost : Ctx)
  /-- The proxy returned to the native evaluator. -/
  | left (before after : Thread) (result : Ending)
  | evaluated (before after : Thread)

/-- What an Object API call does to the TLS: what is attached while it runs, and what is left of
that, when it ends, by what it had found. -/
structure ObjectApi where
  attach : Ctx → Tls → Tls
  finish : Ctx → Tls → Tls → Tls

/-- What is relied on: a call whose callbacks leave the TLS alone leaves it as it was. -/
def ObjectApi.Contract (api : ObjectApi) : Prop := ∀ ctx tls, api.finish ctx tls (api.attach ctx tls) = tls

section Run

-- the Object API, when the build has `ctx-send`; without it no call touches the TLS
variable (api : Option ObjectApi)

def attached (ctx : Ctx) (t : Thread) : Thread :=
  match api with
  | some api => { t with tls := api.attach ctx t.tls }
  | none => t

def finished (ctx : Ctx) (before t : Thread) : Thread :=
  match api with
  | some api => { t with tls := api.finish ctx before.tls t.tls }
  | none => t

mutual

/-- `bboolev_value`, `bfloatev_value`. -/
def evaluate : Evaluation → Thread → Thread × List Event
  | .eval ctx calls, t =>
      let entered := ExprEvaluation.enter ctx t
      let ran := invokeAll ctx calls (attached api ctx entered.2)
      let after := entered.1.drop (finished api ctx entered.2 ran.1)
      (after, ran.2 ++ [.evaluated t after])

/-- The evaluator's calls; `innermost` is its context. -/
def invokeAll (innermost : Ctx) : List Invocation → Thread → Thread × List Event
  | [], t => (t, [])
  | call :: calls, t =>
      let first := invoke innermost call t
      let rest := invokeAll innermost calls first.1
      (rest.1, first.2 ++ rest.2)

/-- `expr_callback_proxy_impl`. -/
def invoke (innermost : Ctx) : Invocation → Thread → Thread × List Event
  | .call pointers resolved atmi ubf body ending, t =>
      if pointers = false ∨ resolved = false then (t, [.left t t (.returned 0)])
      else
        match t.exprContext with
        | none => (t, [.left t t (.returned 0)])
        | some ctx =>
            if api.isSome then
              match ExprCallbackTls.suspend ctx atmi ubf t.tls with
              | (none, tls) => ({ t with tls }, [.left t { t with tls } (Ending.returned 0).caught])
              | (some guard, tls) =>
                  let ran := evaluateAll body { t with tls }
                  let after := { ran.1 with tls := guard.drop ran.1.tls }
                  (after, .callback ctx innermost :: ran.2 ++ [.left t after ending.caught])
            else
              let ran := evaluateAll body t
              (ran.1, .callback ctx innermost :: ran.2 ++ [.left t ran.1 ending.caught])

/-- What a callback evaluates, one after the other. -/
def evaluateAll : List Evaluation → Thread → Thread × List Event
  | [], t => (t, [])
  | evaluation :: evaluations, t =>
      let first := evaluate evaluation t
      let rest := evaluateAll evaluations first.1
      (rest.1, first.2 ++ rest.2)

end

end Run

/-! ## Restoration -/

/-- A callback received the context of the innermost evaluation, no panic went into native code, and
what was entered was left as it was found. -/
def Event.Sound : Event → Prop
  | .callback received innermost => received = innermost
  | .left before after result => after = before ∧ result ≠ .panicked
  | .evaluated before after => after = before

/-- A run that leaves the thread as it found it, and was sound. -/
def Restores (t : Thread) (ran : Thread × List Event) : Prop := ran.1 = t ∧ ∀ event ∈ ran.2, event.Sound

theorem Restores.none (t : Thread) : Restores t (t, []) := ⟨rfl, nofun⟩

theorem Restores.append {t : Thread} {first : Thread × List Event} (one : Restores t first)
    (rest : Thread → Thread × List Event) (two : Restores t (rest t)) :
    Restores t ((rest first.1).1, first.2 ++ (rest first.1).2) := by
  obtain ⟨same, sound⟩ := one
  rw [same]
  refine ⟨two.1, fun event member => ?_⟩
  rcases List.mem_append.1 member with early | late
  · exact sound event early
  · exact two.2 event late

/-- The proxy returned and nothing else happened. -/
theorem Restores.quiet (t : Thread) {after : Thread} {result : Ending} (same : after = t)
    (returned : result ≠ .panicked) : Restores t (after, [.left t after result]) := by
  refine ⟨same, fun event member => ?_⟩
  cases List.mem_singleton.1 member
  exact ⟨same, returned⟩

/-- A callback ran: what it evaluated was sound, and the thread is as the proxy found it. -/
theorem Restores.called {t after : Thread} {ctx : Ctx} {inner : List Event} {result : Ending}
    (sound : ∀ event ∈ inner, event.Sound) (same : after = t) (returned : result ≠ .panicked) :
    Restores t (after, .callback ctx ctx :: inner ++ [.left t after result]) := by
  refine ⟨same, fun event member => ?_⟩
  rcases List.mem_append.1 member with early | last
  · rcases List.mem_cons.1 early with rfl | within
    · rfl
    · exact sound event within
  · cases List.mem_singleton.1 last
    exact ⟨same, returned⟩

theorem Ending.caught_returns (ending : Ending) : ending.caught ≠ .panicked := by
  cases ending <;> exact nofun

section Suspension

variable {ctx : Ctx} {tls tls' : Tls}

/-- The ATMI component put back, when there was one. -/
def putBack (previous : Option Ctx) (tls : Tls) : Tls :=
  match previous with
  | some ctx => tls.setAtmi ctx
  | none => tls

theorem getAtmi_restored {atmi : Bool} {taken : Taken} {previous : Option Ctx}
    (got : tls.getAtmi atmi = (taken, previous, tls')) :
    putBack previous tls' = tls ∧ (taken = .EXFAIL → tls' = tls) := by
  unfold Tls.getAtmi at got
  split at got
  · cases got
    exact ⟨rfl, fun _ => rfl⟩
  · split at got
    · rename_i owner attached
      cases got
      exact ⟨by simp [putBack, Tls.setAtmi, ← attached], nofun⟩
    · cases got
      exact ⟨rfl, nofun⟩

theorem getUbf_cases {ubf : Bool} {taken : Taken} (got : tls.getUbf ubf ctx = (taken, tls')) :
    (taken ≠ .TPMULTICONTEXTS ∧ tls' = tls) ∨ (taken = .TPMULTICONTEXTS ∧ tls'.setUbf ctx = tls) := by
  unfold Tls.getUbf at got
  split at got
  · cases got
    exact .inl ⟨nofun, rfl⟩
  · split at got
    · rename_i attached
      obtain ⟨nstd, ubf', atmi⟩ := tls
      obtain ⟨rfl, rfl⟩ := attached
      cases got
      exact .inr ⟨rfl, rfl⟩
    · cases got
      exact .inl ⟨nofun, rfl⟩

theorem drop_detached (previous : Option Ctx) (tls : Tls) :
    ExprCallbackTls.drop ⟨ctx, previous, true⟩ tls = putBack previous (tls.setUbf ctx) := rfl

theorem drop_attached (previous : Option Ctx) (tls : Tls) :
    ExprCallbackTls.drop ⟨ctx, previous, false⟩ tls = putBack previous tls := rfl

/-- **A suspension** that fails has put back what it took. -/
theorem suspend_none {atmi ubf : Bool} (failed : ExprCallbackTls.suspend ctx atmi ubf tls = (none, tls')) :
    tls' = tls := by
  unfold ExprCallbackTls.suspend at failed
  rcases atmiTaken : tls.getAtmi atmi with ⟨taken, previous, tls₁⟩
  obtain ⟨restored, kept⟩ := getAtmi_restored atmiTaken
  rcases ubfTaken : tls₁.getUbf ubf ctx with ⟨taken₂, tls₂⟩
  rw [atmiTaken] at failed
  rcases getUbf_cases ubfTaken with ⟨missed, same⟩ | ⟨rfl, -⟩
  · cases taken with
    | EXFAIL =>
        cases failed
        exact kept rfl
    | TPNULLCONTEXT | TPMULTICONTEXTS =>
        simp only [ubfTaken] at failed
        cases taken₂ with
        | TPMULTICONTEXTS => exact absurd rfl missed
        | EXFAIL | TPNULLCONTEXT =>
            cases failed
            rw [drop_attached, same, restored]
  · cases taken with
    | EXFAIL =>
        cases failed
        exact kept rfl
    | TPNULLCONTEXT | TPMULTICONTEXTS =>
        simp only [ubfTaken] at failed
        cases failed

/-- **A suspension** that succeeds is undone by its guard. -/
theorem suspend_some {atmi ubf : Bool} {guard : ExprCallbackTls}
    (suspended : ExprCallbackTls.suspend ctx atmi ubf tls = (some guard, tls')) : guard.drop tls' = tls := by
  unfold ExprCallbackTls.suspend at suspended
  rcases atmiTaken : tls.getAtmi atmi with ⟨taken, previous, tls₁⟩
  obtain ⟨restored, -⟩ := getAtmi_restored atmiTaken
  rcases ubfTaken : tls₁.getUbf ubf ctx with ⟨taken₂, tls₂⟩
  rw [atmiTaken] at suspended
  cases taken with
  | EXFAIL => cases suspended
  | TPNULLCONTEXT | TPMULTICONTEXTS =>
      simp only [ubfTaken] at suspended
      rcases getUbf_cases ubfTaken with ⟨missed, -⟩ | ⟨rfl, undone⟩
      · cases taken₂ with
        | TPMULTICONTEXTS => exact absurd rfl missed
        | EXFAIL | TPNULLCONTEXT => cases suspended
      · cases suspended
        rw [drop_detached, undone, restored]

end Suspension

section Restoration

set_option linter.unusedSectionVars false

variable {api : Option ObjectApi} (contract : ∀ native, api = some native → native.Contract)

/-- The innermost evaluation is of the context. -/
def Evaluating (ctx : Ctx) (t : Thread) : Prop := t.exprContext = some ctx

theorem attached_evaluating (ctx : Ctx) (t : Thread) :
    Evaluating ctx (attached api ctx (ExprEvaluation.enter ctx t).2) := by
  unfold attached
  split <;> rfl

include contract in
theorem finished_attached (ctx : Ctx) (t : Thread) : finished api ctx t (attached api ctx t) = t := by
  unfold finished attached
  cases api with
  | none => rfl
  | some native => exact congrArg (fun tls => { t with tls }) (contract native rfl ctx t.tls)

include contract

mutual

theorem evaluate_restores : ∀ (evaluation : Evaluation) (t : Thread), Restores t (evaluate api evaluation t)
  | .eval ctx calls, t => by
      have calledBack := invokeAll_restores ctx calls (attached api ctx (ExprEvaluation.enter ctx t).2)
        (attached_evaluating ctx t)
      obtain ⟨same, sound⟩ := calledBack
      have left : (ExprEvaluation.enter ctx t).1.drop
          (finished api ctx (ExprEvaluation.enter ctx t).2
            (invokeAll api ctx calls (attached api ctx (ExprEvaluation.enter ctx t).2)).1) = t := by
        rw [same, finished_attached contract]
        rfl
      refine ⟨left, fun event member => ?_⟩
      rcases List.mem_append.1 member with inner | last
      · exact sound event inner
      · cases List.mem_singleton.1 last
        exact left

theorem invokeAll_restores (innermost : Ctx) : ∀ (calls : List Invocation) (t : Thread),
    Evaluating innermost t → Restores t (invokeAll api innermost calls t)
  | [], t, _ => .none t
  | call :: calls, t, evaluating =>
      (invoke_restores innermost call t evaluating).append (invokeAll api innermost calls)
        (invokeAll_restores innermost calls t evaluating)

theorem invoke_restores (innermost : Ctx) : ∀ (call : Invocation) (t : Thread),
    Evaluating innermost t → Restores t (invoke api innermost call t)
  | .call pointers resolved atmi ubf body ending, t, evaluating => by
      obtain ⟨exprContext, tls⟩ := t
      cases evaluating
      unfold invoke
      split
      · exact .quiet _ rfl nofun
      · simp only
        split
        · rcases suspended : ExprCallbackTls.suspend innermost atmi ubf tls with ⟨_ | guard, tls'⟩
          · have same := suspend_none suspended
            subst same
            exact .quiet _ rfl (Ending.caught_returns _)
          · obtain ⟨same, sound⟩ := evaluateAll_restores body ⟨some innermost, tls'⟩
            refine .called sound ?_ (Ending.caught_returns ending)
            rw [same]
            exact congrArg (Thread.mk (some innermost)) (suspend_some suspended)
        · obtain ⟨same, sound⟩ := evaluateAll_restores body ⟨some innermost, tls⟩
          exact .called sound same (Ending.caught_returns ending)

theorem evaluateAll_restores : ∀ (evaluations : List Evaluation) (t : Thread),
    Restores t (evaluateAll api evaluations t)
  | [], t => .none t
  | evaluation :: evaluations, t =>
      (evaluate_restores evaluation t).append (evaluateAll api evaluations)
        (evaluateAll_restores evaluations t)

end

end Restoration

/-- **Nested evaluations restore their context**: in every program of evaluations and callbacks, each
callback receives the context of the innermost evaluation around it, no panic goes into native code,
and whatever was entered leaves `EXPR_CONTEXT` and the attached TLS as it found them. -/
theorem nested_evaluations_restore (api : Option ObjectApi)
    (contract : ∀ native, api = some native → native.Contract) (evaluation : Evaluation) (t : Thread) :
    (evaluate api evaluation t).1 = t ∧ ∀ event ∈ (evaluate api evaluation t).2, event.Sound :=
  evaluate_restores contract evaluation t

/-- NSTD and UBF attached for the call, over what the thread had. -/
def attaching : ObjectApi where
  attach ctx tls := { tls with nstd := some ctx, ubf := some ctx }
  finish _ before tls := { tls with nstd := before.nstd, ubf := before.ubf }

/-- On a dispatcher's thread: a callback evaluates on another context and panics, one cannot suspend
UBF, and one evaluates on the same context. -/
def nestedProgram : Evaluation :=
  .eval 1
    [.call true true true true [.eval 2 [.call true true true true [] (.returned 5)]] .panicked,
     .call true true true false [] (.returned 1),
     .call true true true true [.eval 1 [.call true true false true [] (.returned 2)]] (.returned 3)]

theorem nestedProgram_restores :
    (evaluate (some attaching) nestedProgram ⟨none, ⟨none, none, some 9⟩⟩).1 =
        ⟨none, ⟨none, none, some 9⟩⟩ ∧
      ∀ event ∈ (evaluate (some attaching) nestedProgram ⟨none, ⟨none, none, some 9⟩⟩).2, event.Sound :=
  nested_evaluations_restore (some attaching) (fun _ same => Option.some.inj same ▸ fun _ _ => rfl)
    nestedProgram _

end Endurox.Ubf.Expressions
