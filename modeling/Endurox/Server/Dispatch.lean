/-
# Server.Dispatch -- one request, and who answers it

`rust_service_dispatch` is the trampoline of every Rust service.  It looks the handler
up, runs it under `catch_unwind`, and answers for it when it panics or is not there.  A
handler is what it does: the calls it makes, in order, and whether it panics after the
last of them.  What is followed is the list of native calls made for the request.
-/
import Endurox.Server.Registry

namespace Endurox.Server

set_option autoImplicit false

/-! ## Requests and buffers -/

inductive TpReturnStatus
  | Success
  | Fail
  deriving DecidableEq, Repr

structure TypedBuffer where
  ptr : Nat
  len : Nat
  deriving DecidableEq, Repr

/-- The native request; `data` is 0 when there is no buffer. -/
structure TPSVCINFO where
  name : String
  fname : String
  data : Nat
  len : Int
  deriving DecidableEq, Repr

structure TpSvcInfo where
  name : String
  fname : String
  data : Option TypedBuffer
  deriving DecidableEq, Repr

def TpSvcInfo.fromRaw (raw : TPSVCINFO) : TpSvcInfo where
  name := raw.name
  fname := raw.fname
  data := if raw.data = 0 then none else some ⟨raw.data, (max raw.len 0).toNat⟩

/-- A native call made for the request. -/
inductive SrvCall
  | tpreturn (rval : TpReturnStatus) (rcode : Int) (data : Nat) (len : Int) (flags : Int)
  | tpforward (svc : String) (data : Nat) (len : Int) (flags : Int)
  | tpalloc (ptr : Nat)
  | tpfree (ptr : Nat)
  deriving DecidableEq, Repr

@[simp] def SrvCall.isAnswer : SrvCall → Bool
  | .tpreturn .. | .tpforward .. => true
  | _ => false

/-- The native answers among the calls. -/
def answers (calls : List SrvCall) : Nat := calls.countP SrvCall.isAnswer

/-! ## Handlers -/

/-- A request while its handler runs: the buffers the handler holds, and the calls made, oldest first. -/
structure Request where
  svc : TpSvcInfo
  held : List TypedBuffer := []
  calls : List SrvCall := []
  deriving DecidableEq, Repr

namespace Request

def call (r : Request) (call : SrvCall) : Request := { r with calls := r.calls ++ [call] }

def tpreturnRaw (r : Request) (rval : TpReturnStatus) (rcode : Int) (data : Nat) (len flags : Int) : Request :=
  r.call (.tpreturn rval rcode data len flags)

def tpforward (r : Request) (svc : String) (data : Nat) (len flags : Int) : Request :=
  if containsNul svc then r else r.call (.tpforward svc data len flags)

def takeData (r : Request) : Request := { r with svc := { r.svc with data := none } }

def free (r : Request) (buffers : List TypedBuffer) : Request :=
  { r with calls := r.calls ++ buffers.map (.tpfree ·.ptr) }

end Request

/-- What a handler can do; a buffer it holds is named by its place. -/
inductive HandlerStep
  | takeData
  /-- `isUbf` is whether the request's buffer is a UBF one. -/
  | takeDataUbf (isUbf : Bool)
  | tpalloc (buffer : TypedBuffer)
  | drop (i : Nat)
  | tpreturn (status : TpReturnStatus) (rcode : Int) (i : Nat) (flags : Int)
  | tpforwardUbf (svc : String) (i : Nat) (flags : Int)
  deriving DecidableEq, Repr

/-- The step is a call that answers. -/
def HandlerStep.isCall : HandlerStep → Bool
  | .tpreturn .. | .tpforwardUbf .. => true
  | _ => false

def Request.act (r : Request) : HandlerStep → Request
  | .takeData => { r.takeData with held := r.held ++ r.svc.data.toList }
  | .takeDataUbf isUbf =>
      if isUbf then { r.takeData with held := r.held ++ r.svc.data.toList }
      else r.takeData.free r.svc.data.toList
  | .tpalloc buffer => { r.call (.tpalloc buffer.ptr) with held := r.held ++ [buffer] }
  | .drop i => { r.free r.held[i]?.toList with held := r.held.eraseIdx i }
  | .tpreturn status rcode i flags =>
      match r.held[i]? with
      | none => r
      | some data => { r.tpreturnRaw status rcode data.ptr data.len flags with held := r.held.eraseIdx i }
  | .tpforwardUbf svc i flags =>
      match r.held[i]? with
      | none => r
      | some data => { r.tpforward svc data.ptr 0 flags with held := r.held.eraseIdx i }

structure Handler where
  steps : List HandlerStep
  /-- It panics after the last step. -/
  panics : Bool
  deriving DecidableEq, Repr

/-- The calls of `tpreturn` and `tpforward` the handler makes itself. -/
def Handler.calls (h : Handler) : Nat := h.steps.countP HandlerStep.isCall

/-- The handler runs; what it still holds is dropped, also by an unwinding panic. -/
def Handler.run (h : Handler) (svc : TpSvcInfo) : Request :=
  let r := h.steps.foldl Request.act { svc }
  { r.free r.held with held := [] }

/-- A call of the handler's own reached the native layer. -/
def Handler.answered (h : Handler) (svc : TpSvcInfo) : Bool := (h.run svc).calls.any SrvCall.isAnswer

/-! ## The dispatcher -/

/-- What a dispatch meets: the server state at its two looks, or `none` for a poisoned lock. -/
structure Dispatch where
  runtime : Option State
  services : Option State
  thread : ThreadId
  /-- `borrow_current_context` finds a context. -/
  borrows : Bool
  /-- What `tpalloc_ubf(256)` answers. -/
  tpallocUbf : Option Nat
  handlers : RustServiceCallback → Handler

def failCurrentService (raw : TPSVCINFO) : List SrvCall := [.tpreturn .Fail 0 raw.data (max raw.len 0) 0]

/-- There is a context to run the handler in. -/
def Dispatch.inContext (d : Dispatch) : Bool :=
  match d.runtime with
  | none => false
  | some rt => rt.ctxAddr ≠ 0 && (rt.mainThreadId = some d.thread || d.borrows)

/-- The handler found for a request. -/
def Dispatch.handlerFor (d : Dispatch) (svc : TpSvcInfo) : Option RustServiceCallback :=
  let key := if svc.fname.isEmpty then svc.name else svc.fname
  d.services.bind fun rt => (rt.registry.services.get key).or (rt.registry.services.get svc.name)

/-- The answer given for a handler that panicked, from its request or from a buffer of its own. -/
def Dispatch.answerPanic (d : Dispatch) (r : Request) : Request :=
  match r.svc.data with
  | some buf => r.takeData.tpreturnRaw .Fail 0 buf.ptr 0 0
  | none =>
      let errPtr := d.tpallocUbf.getD 0
      (r.call (.tpalloc errPtr)).tpreturnRaw .Fail 0 errPtr 0 0

/-- The native calls made for a request; null is `none`. -/
def rustServiceDispatch (d : Dispatch) : Option TPSVCINFO → List SrvCall
  | none => []
  | some raw =>
      if d.inContext then
        let svc := TpSvcInfo.fromRaw raw
        match d.handlerFor svc with
        | some cb =>
            let r := (d.handlers cb).run svc
            let r := if (d.handlers cb).panics then d.answerPanic r else r
            -- the request is dropped, with the buffer nobody took
            (r.free r.svc.data.toList).calls
        | none =>
            let r : Request := { svc }
            let errPtr := (svc.data.map TypedBuffer.ptr).getD 0
            (r.takeData.tpreturnRaw .Fail 0 errPtr 0 0).calls
      else failCurrentService raw

/-! ## Who answers -/

section Counting

variable (r : Request)

@[simp] theorem answers_nil : answers [] = 0 := rfl

@[simp] theorem answers_append (calls calls' : List SrvCall) :
    answers (calls ++ calls') = answers calls + answers calls' := List.countP_append

@[simp] theorem answers_frees (buffers : List TypedBuffer) :
    answers (buffers.map (SrvCall.tpfree ·.ptr)) = 0 := by
  simp [answers, List.countP_eq_zero, SrvCall.isAnswer]

@[simp] theorem answers_cons (call : SrvCall) (calls : List SrvCall) :
    answers (call :: calls) = answers calls + if call.isAnswer then 1 else 0 := List.countP_cons

@[simp] theorem Request.free_answers (buffers : List TypedBuffer) :
    answers (r.free buffers).calls = answers r.calls := by
  simp [Request.free]

/-- One step answers at most once, and only when it is a call that does. -/
theorem Request.act_answers (step : HandlerStep) :
    answers (r.act step).calls ≤ answers r.calls + if step.isCall then 1 else 0 := by
  cases step with
  | takeData => exact Nat.le_refl _
  | takeDataUbf isUbf =>
      simp only [Request.act]
      split
      · exact Nat.le_refl _
      · simp [Request.takeData]
  | tpalloc buffer => simp [Request.act, Request.call]
  | drop i => simp [Request.act]
  | tpreturn status rcode i flags =>
      simp only [Request.act]
      split
      · exact Nat.le_add_right _ _
      · simp [Request.tpreturnRaw, Request.call, HandlerStep.isCall]
  | tpforwardUbf svc i flags =>
      simp only [Request.act]
      split
      · exact Nat.le_add_right _ _
      · simp only [Request.tpforward, HandlerStep.isCall, if_true]
        split <;> simp [Request.call]

/-- A run of steps answers no more often than it calls. -/
theorem Request.acts_answers (steps : List HandlerStep) :
    answers (steps.foldl Request.act r).calls ≤ answers r.calls + steps.countP HandlerStep.isCall := by
  induction steps generalizing r with
  | nil => exact Nat.le_refl _
  | cons step steps ih =>
      have first := r.act_answers step
      have rest := ih (r.act step)
      rw [List.foldl_cons, List.countP_cons]
      omega

end Counting

theorem Handler.run_answers (h : Handler) (svc : TpSvcInfo) : answers (h.run svc).calls ≤ h.calls := by
  have ran := Request.acts_answers { svc } h.steps
  simpa [Handler.run, Handler.calls] using ran

theorem Handler.answered_iff (h : Handler) (svc : TpSvcInfo) :
    h.answered svc = true ↔ 0 < answers (h.run svc).calls := by
  simp [Handler.answered, answers, List.countP_pos_iff]

theorem Dispatch.answerPanic_answers (d : Dispatch) (r : Request) :
    answers (d.answerPanic r).calls = answers r.calls + 1 := by
  unfold Dispatch.answerPanic
  split <;> simp [Request.takeData, Request.tpreturnRaw, Request.call]

/-- The answers made for a request its handler is found for. -/
theorem dispatch_found {d : Dispatch} {raw : TPSVCINFO} {cb : RustServiceCallback}
    (inside : d.inContext = true) (found : d.handlerFor (.fromRaw raw) = some cb) :
    answers (rustServiceDispatch d (some raw)) =
      answers ((d.handlers cb).run (.fromRaw raw)).calls + if (d.handlers cb).panics then 1 else 0 := by
  simp only [rustServiceDispatch, inside, if_true, found, Request.free_answers]
  split
  · exact d.answerPanic_answers _
  · rfl

/-- Without a handler the dispatcher answers, once. -/
theorem dispatch_unserved {d : Dispatch} {raw : TPSVCINFO}
    (unserved : d.inContext = false ∨ d.handlerFor (.fromRaw raw) = none) :
    answers (rustServiceDispatch d (some raw)) = 1 := by
  simp only [rustServiceDispatch]
  split
  · rename_i inside
    rcases unserved with outside | missing
    · exact nomatch outside.symm.trans inside
    · simp only [missing]
      rfl
  · rfl

/-- **A request is answered at most once** exactly when the handler it is dispatched to did not panic
after a call of its own had answered. -/
theorem answered_at_most_once (d : Dispatch) (svcPtr : Option TPSVCINFO)
    (once : ∀ cb, (d.handlers cb).calls ≤ 1) :
    answers (rustServiceDispatch d svcPtr) ≤ 1 ↔
      ∀ raw cb, svcPtr = some raw → d.inContext = true → d.handlerFor (.fromRaw raw) = some cb →
        (d.handlers cb).panics = true → (d.handlers cb).answered (.fromRaw raw) = false := by
  cases svcPtr with
  | none => simp [rustServiceDispatch]
  | some raw =>
      by_cases served : d.inContext = true ∧ ∃ cb, d.handlerFor (.fromRaw raw) = some cb
      · obtain ⟨inside, cb, found⟩ := served
        have few := Nat.le_trans ((d.handlers cb).run_answers (.fromRaw raw)) (once cb)
        have answered := (d.handlers cb).answered_iff (.fromRaw raw)
        rw [dispatch_found inside found]
        constructor
        · rintro atMost _ cb' ⟨⟩ _ found' panics
          obtain rfl := Option.some.inj (found.symm.trans found')
          rw [if_pos panics] at atMost
          rw [← Bool.not_eq_true, answered]
          omega
        · intro quiet
          split
          · rename_i panics
            have silent := quiet raw cb rfl inside found panics
            rw [← Bool.not_eq_true, answered] at silent
            omega
          · omega
      · rw [dispatch_unserved (by
          rcases Bool.eq_false_or_eq_true d.inContext with inside | outside
          · refine .inr (Option.eq_none_iff_forall_ne_some.2 fun cb found => served ⟨inside, cb, found⟩)
          · exact .inl outside)]
        refine ⟨?_, fun _ => Nat.le_refl 1⟩
        rintro _ raw' cb ⟨⟩ inside found
        exact absurd ⟨inside, cb, found⟩ served

/-- A server on its main thread, with one service whose handler does `handler`. -/
def serving (handler : Handler) : Dispatch where
  runtime := some { ctxAddr := 100, mainThreadId := some 7, registry := Registry.insert {} (.service "SVC" 1) }
  services := some { ctxAddr := 100, mainThreadId := some 7, registry := Registry.insert {} (.service "SVC" 1) }
  thread := 7
  borrows := true
  tpallocUbf := some 901
  handlers := fun _ => handler

def request : TPSVCINFO := ⟨"SVC", "SVC", 500, 0⟩

theorem panic_before_answer :
    answers (rustServiceDispatch (serving ⟨[.takeData], true⟩) (some request)) ≤ 1 :=
  (answered_at_most_once _ _ fun _ => (by decide : Handler.calls ⟨[.takeData], true⟩ ≤ 1)).2
    fun _ _ same _ _ _ => by
      obtain rfl := Option.some.inj same
      exact (by decide +kernel : Handler.answered ⟨[.takeData], true⟩ (.fromRaw request) = false)

/-- The handler answers with its request's buffer and panics: the dispatcher answers again, with a
buffer of its own. -/
theorem panic_after_answer :
    Handler.calls ⟨[.takeData, .tpreturn .Success 0 0 0], true⟩ = 1 ∧
      rustServiceDispatch (serving ⟨[.takeData, .tpreturn .Success 0 0 0], true⟩) (some request) =
        [.tpreturn .Success 0 500 0 0, .tpalloc 901, .tpreturn .Fail 0 901 0 0] ∧
      ¬ answers (rustServiceDispatch (serving ⟨[.takeData, .tpreturn .Success 0 0 0], true⟩) (some request)) ≤ 1 := by
  decide +kernel

end Endurox.Server
