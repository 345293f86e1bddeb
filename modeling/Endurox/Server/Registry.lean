/-
# Server.Registry -- the handlers a server registers, here and with Enduro/X

`atmictx_srv.rs` keeps the Rust handlers of a server in two process-wide tables, and
registers one trampoline for all of them with the native server.  A registration
inserts its handler first, calls the native layer, and removes the handler again when
the call fails.  `native` is what the native server has registered, each with the
handler it was registered for; the native layer changes it when a call succeeds.
-/
import Endurox.Theory.Action
import Endurox.Theory.Run
import Endurox.Theory.Table

namespace Endurox.Server

open Endurox.Theory

set_option autoImplicit false

/-! ## Errors and callers -/

inductive AtmiCode
  | TPEPROTO
  | other (code : Int)
  deriving DecidableEq, Repr

structure AtmiError where
  code : AtmiCode
  message : String
  deriving DecidableEq, Repr

/-- A function pointer. -/
abbrev RustServiceCallback := Nat

abbrev RustPollerCallback := Nat

abbrev RustPeriodCallback := Nat

abbrev RustBeforePollCallback := Nat

abbrev ThreadId := Nat

/-- Who calls: the address of the context, and the thread. -/
structure Caller where
  self : Nat
  thread : ThreadId
  deriving DecidableEq, Repr

/-- How a native call ends; `lastError` is what `atmi_last_error` reports then. -/
structure NativeCall where
  ok : Bool := true
  lastError : AtmiError := ⟨.other 0, ""⟩
  deriving DecidableEq, Repr

/-! ## Registries -/

structure Registry where
  services : Table String RustServiceCallback := .empty
  pollers : Table Int (RustPollerCallback × Nat) := .empty
  periodCb : Option RustPeriodCallback := none
  beforePollCb : Option RustBeforePollCallback := none

/-- A handler and what it is registered for. -/
inductive Entry
  | service (svcNm : String) (handler : RustServiceCallback)
  | poller (fd : Int) (callback : RustPollerCallback) (userData : Nat)
  | period (callback : RustPeriodCallback)
  | beforePoll (callback : RustBeforePollCallback)
  deriving DecidableEq, Repr

/-- What a handler is registered for: a service, a descriptor or a hook. -/
inductive Key
  | service (svcNm : String)
  | poller (fd : Int)
  | period
  | beforePoll
  deriving DecidableEq, Repr

def Entry.key : Entry → Key
  | .service svcNm _ => .service svcNm
  | .poller fd _ _ => .poller fd
  | .period _ => .period
  | .beforePoll _ => .beforePoll

namespace Registry

def insert (r : Registry) : Entry → Registry
  | .service svcNm handler => { r with services := r.services.set svcNm handler }
  | .poller fd callback userData => { r with pollers := r.pollers.set fd (callback, userData) }
  | .period callback => { r with periodCb := some callback }
  | .beforePoll callback => { r with beforePollCb := some callback }

def remove (r : Registry) : Key → Registry
  | .service svcNm => { r with services := r.services.del svcNm }
  | .poller fd => { r with pollers := r.pollers.del fd }
  | .period => { r with periodCb := none }
  | .beforePoll => { r with beforePollCb := none }

def has (r : Registry) : Entry → Prop
  | .service svcNm handler => r.services.get svcNm = some handler
  | .poller fd callback userData => r.pollers.get fd = some (callback, userData)
  | .period callback => r.periodCb = some callback
  | .beforePoll callback => r.beforePollCb = some callback

instance (r : Registry) : ∀ e, Decidable (r.has e)
  | .service .. => inferInstanceAs (Decidable (_ = _))
  | .poller .. => inferInstanceAs (Decidable (_ = _))
  | .period _ => inferInstanceAs (Decidable (_ = _))
  | .beforePoll _ => inferInstanceAs (Decidable (_ = _))

/-- Something is registered for the key. -/
def occupied (r : Registry) : Key → Bool
  | .service svcNm => (r.services.get svcNm).isSome
  | .poller fd => (r.pollers.get fd).isSome
  | .period => r.periodCb.isSome
  | .beforePoll => r.beforePollCb.isSome

/-- The same handlers for the same keys. -/
def Same (r r' : Registry) : Prop := ∀ e, r.has e ↔ r'.has e

theorem has_insert (r : Registry) (e e' : Entry) :
    (r.insert e).has e' ↔ e' = e ∨ (e'.key ≠ e.key ∧ r.has e') := by
  cases e <;> cases e' <;> simp [insert, has, Entry.key]
  all_goals (try split) <;> simp_all [eq_comm]

theorem has_remove (r : Registry) (k : Key) (e : Entry) :
    (r.remove k).has e ↔ e.key ≠ k ∧ r.has e := by
  cases k <;> cases e <;> simp [remove, has, Entry.key]

theorem occupied_iff (r : Registry) (k : Key) :
    r.occupied k = true ↔ ∃ e : Entry, e.key = k ∧ r.has e := by
  constructor
  · intro there
    cases k with
    | service svcNm =>
        obtain ⟨handler, found⟩ := Option.isSome_iff_exists.1 there
        exact ⟨.service svcNm handler, rfl, found⟩
    | poller fd =>
        obtain ⟨⟨callback, userData⟩, found⟩ := Option.isSome_iff_exists.1 there
        exact ⟨.poller fd callback userData, rfl, found⟩
    | period =>
        obtain ⟨callback, found⟩ := Option.isSome_iff_exists.1 there
        exact ⟨.period callback, rfl, found⟩
    | beforePoll =>
        obtain ⟨callback, found⟩ := Option.isSome_iff_exists.1 there
        exact ⟨.beforePoll callback, rfl, found⟩
  · rintro ⟨e, rfl, found⟩
    cases e <;> simp_all [occupied, has, Entry.key]

/-- **What inserting a handler and removing it again leaves**: the registry there was, unless the
handler took another's place. -/
theorem undone_iff (r : Registry) (e : Entry) :
    ((r.insert e).remove e.key).Same r ↔ r.occupied e.key = false := by
  rw [← Bool.not_eq_true, occupied_iff]
  constructor
  · rintro same ⟨e', key, found⟩
    exact ((has_remove _ _ _).1 ((same e').2 found)).1 key
  · intro free e'
    rw [has_remove, has_insert]
    constructor
    · rintro ⟨apart, rfl | ⟨_, found⟩⟩
      · exact absurd rfl apart
      · exact found
    · intro found
      have apart : e'.key ≠ e.key := fun key => free ⟨e', key, found⟩
      exact ⟨apart, .inr ⟨apart, found⟩⟩

end Registry

/-! ## The state -/

structure State where
  /-- The address of the context inside `tp_run`; 0 when there is none. -/
  ctxAddr : Nat := 0
  mainThreadId : Option ThreadId := none
  registry : Registry := {}
  /-- What the native server has registered. -/
  native : Registry := {}

abbrev SrvM := Fallible AtmiError State

def containsNul (text : String) : Bool := text.toList.any fun c => c.toNat == 0

def rcToResult (call : NativeCall) : SrvM Unit := throwIf (call.ok = false) call.lastError

/-! ## Services -/

/-- `tpadvertise_full`, for the entry whose handler its trampoline is to find. -/
def tpadvertiseFull (svcNm : String) (entry : Entry) (call : NativeCall) : SrvM Unit := do
  throwIf (containsNul svcNm) call.lastError
  rcToResult call
  modify fun s => { s with native := s.native.insert entry }

def tpadvertise (caller : Caller) (svcNm : String) (handler : RustServiceCallback) (call : NativeCall) :
    SrvM Unit := do
  let rt ← get
  throwIf (rt.ctxAddr ≠ caller.self)
    ⟨.TPEPROTO, "tpadvertise() must be called from the active tp_run() context"⟩
  modify fun s => { s with registry := s.registry.insert (.service svcNm handler) }
  match ← outcomeOf (tpadvertiseFull svcNm (.service svcNm handler) call) with
  | .error err => do
      modify fun s => { s with registry := s.registry.remove (.service svcNm) }
      throw err
  | .ok () => pure ()

def tpunadvertise (caller : Caller) (svcNm : String) (call : NativeCall) : SrvM Unit := do
  throwIf (containsNul svcNm) call.lastError
  rcToResult call
  modify fun s => { s with native := s.native.remove (.service svcNm) }
  let rt ← get
  runIf (rt.ctxAddr = caller.self)
    (modify fun s => { s with registry := s.registry.remove (.service svcNm) })

/-! ## Poll extensions -/

def notMainThread (what : String) : AtmiError :=
  ⟨.TPEPROTO, what ++ " must be called from the main server thread; calling it" ++
    "                  from a dispatch worker races Enduro/X's global poll-extension" ++
    "                  list and can wedge the server"⟩

def requireMainThread (what : String) (caller : Caller) : SrvM Unit := do
  let rt ← get
  throwIf (rt.mainThreadId.any (· ≠ caller.thread)) (notMainThread what)

/-- The registering calls: the handler is inserted, and removed again if the native call fails. -/
def register (what : String) (entry : Entry) (caller : Caller) (call : NativeCall) : SrvM Unit := do
  requireMainThread what caller
  modify fun s => { s with registry := s.registry.insert entry }
  if call.ok then modify fun s => { s with native := s.native.insert entry }
  else do
    modify fun s => { s with registry := s.registry.remove entry.key }
    throw call.lastError

/-- The removing calls. -/
def unregister (what : String) (key : Key) (caller : Caller) (call : NativeCall) : SrvM Unit := do
  requireMainThread what caller
  if call.ok then
    modify fun s => { s with native := s.native.remove key, registry := s.registry.remove key }
  else throw call.lastError

def tpextAddpollerfd (fd : Int) (userData : Nat) (callback : RustPollerCallback) :
    Caller → NativeCall → SrvM Unit :=
  register "tpext_addpollerfd" (.poller fd callback userData)

def tpextDelpollerfd (fd : Int) : Caller → NativeCall → SrvM Unit :=
  unregister "tpext_delpollerfd" (.poller fd)

def tpextAddperiodcb (callback : RustPeriodCallback) : Caller → NativeCall → SrvM Unit :=
  register "tpext_addperiodcb" (.period callback)

def tpextDelperiodcb : Caller → NativeCall → SrvM Unit := unregister "tpext_delperiodcb" .period

def tpextAddb4pollcb (callback : RustBeforePollCallback) : Caller → NativeCall → SrvM Unit :=
  register "tpext_addb4pollcb" (.beforePoll callback)

def tpextDelb4pollcb : Caller → NativeCall → SrvM Unit := unregister "tpext_delb4pollcb" .beforePoll

/-! ## Delivery -/

structure PollerEvent where
  fd : Int
  events : Nat
  userData : Nat
  deriving DecidableEq, Repr

/-- `main_extension_context`, for a native callback on `thread`. -/
def mainExtensionContext (s : State) (thread : ThreadId) : Option Nat :=
  if s.ctxAddr ≠ 0 ∧ s.mainThreadId = some thread then some s.ctxAddr else none

/-- The trampoline of every descriptor; `run` is what a handler returns, `none` when it panics. -/
def rustPollerDispatch (s : State) (thread : ThreadId) (fd : Int) (events : Nat)
    (run : RustPollerCallback → Nat → PollerEvent → Option Int) : Int :=
  match mainExtensionContext s thread with
  | none => -1
  | some ctx =>
      match s.registry.pollers.get fd with
      | none => 0
      | some (cb, userData) => (run cb ctx ⟨fd, events, userData⟩).getD (-1)

/-- The trampolines of the two hooks. -/
def hookDispatch (cb : Option Nat) (s : State) (thread : ThreadId) (run : Nat → Nat → Option Int) : Int :=
  match mainExtensionContext s thread with
  | none => -1
  | some ctx =>
      match cb with
      | none => 0
      | some cb => (run cb ctx).getD (-1)

def rustPeriodDispatch (s : State) : ThreadId → (Nat → Nat → Option Int) → Int :=
  hookDispatch s.registry.periodCb s

def rustBeforePollDispatch (s : State) : ThreadId → (Nat → Nat → Option Int) → Int :=
  hookDispatch s.registry.beforePollCb s

/-! ## The machine -/

inductive Op
  | tpadvertise (svcNm : String) (handler : RustServiceCallback)
  | tpunadvertise (svcNm : String)
  | tpextAddpollerfd (fd : Int) (userData : Nat) (callback : RustPollerCallback)
  | tpextDelpollerfd (fd : Int)
  | tpextAddperiodcb (callback : RustPeriodCallback)
  | tpextDelperiodcb
  | tpextAddb4pollcb (callback : RustBeforePollCallback)
  | tpextDelb4pollcb
  deriving DecidableEq, Repr

/-- A call, who makes it, and how its native call ends. -/
structure Label where
  op : Op
  caller : Caller
  call : NativeCall := {}
  deriving DecidableEq, Repr

def Op.action (op : Op) (caller : Caller) (call : NativeCall) : SrvM Unit :=
  match op with
  | .tpadvertise svcNm handler => Server.tpadvertise caller svcNm handler call
  | .tpunadvertise svcNm => Server.tpunadvertise caller svcNm call
  | .tpextAddpollerfd fd userData callback => Server.tpextAddpollerfd fd userData callback caller call
  | .tpextDelpollerfd fd => Server.tpextDelpollerfd fd caller call
  | .tpextAddperiodcb callback => Server.tpextAddperiodcb callback caller call
  | .tpextDelperiodcb => Server.tpextDelperiodcb caller call
  | .tpextAddb4pollcb callback => Server.tpextAddb4pollcb callback caller call
  | .tpextDelb4pollcb => Server.tpextDelb4pollcb caller call

/-- What a call returns and leaves. -/
def State.outcome (s : State) (label : Label) : Except AtmiError Unit × State :=
  (label.op.action label.caller label.call).run.run s

def State.step (s : State) (label : Label) : State := (s.outcome label).2

/-- Every run of a server whose `tp_run` was entered on a context and a thread, or of none. -/
def server (ctxAddr : Nat) (mainThreadId : Option ThreadId) : Machine State Label where
  init := { ctxAddr, mainThreadId }
  step := State.step

/-! ## What a call does -/

/-- What a registering call registers. -/
def Op.entry : Op → Option Entry
  | .tpadvertise svcNm handler => some (.service svcNm handler)
  | .tpextAddpollerfd fd userData callback => some (.poller fd callback userData)
  | .tpextAddperiodcb callback => some (.period callback)
  | .tpextAddb4pollcb callback => some (.beforePoll callback)
  | _ => none

/-- The call is made where it may be: by the context of `tp_run`, or on its thread. -/
def State.admits (s : State) (label : Label) : Bool :=
  match label.op with
  | .tpadvertise .. => s.ctxAddr = label.caller.self
  | .tpunadvertise _ => true
  | _ => s.mainThreadId.all (· = label.caller.thread)

/-- The native layer takes the call. -/
def Label.succeeds (label : Label) : Bool :=
  match label.op with
  | .tpadvertise svcNm _ | .tpunadvertise svcNm => !containsNul svcNm && label.call.ok
  | _ => label.call.ok

/-- **What a call returns and leaves**, in the four ways it can end. -/
inductive Ended (s : State) (label : Label) : Except AtmiError Unit → State → Prop
  | refused (e : AtmiError) (untaken : label.op.entry = none ∨ s.admits label = false) :
      Ended s label (.error e) s
  | registered (entry : Entry) (asked : label.op.entry = some entry) (taken : label.succeeds = true) :
      Ended s label (.ok ()) { s with registry := s.registry.insert entry, native := s.native.insert entry }
  | undone (e : AtmiError) (entry : Entry) (asked : label.op.entry = some entry)
      (admitted : s.admits label = true) (failed : label.succeeds = false) :
      Ended s label (.error e) { s with registry := (s.registry.insert entry).remove entry.key }
  | removed (key : Key) (registry : Registry) (unasked : label.op.entry = none)
      (kept : registry = s.registry ∨ registry = s.registry.remove key) :
      Ended s label (.ok ()) { s with registry, native := s.native.remove key }

theorem requireMainThread_run (what : String) (caller : Caller) (s : State) :
    (requireMainThread what caller).run.run s =
      (if s.mainThreadId.all (· = caller.thread) then .ok () else .error (notMainThread what), s) := by
  have ran : (requireMainThread what caller).run.run s =
      (throwIf (s.mainThreadId.any (· ≠ caller.thread)) (notMainThread what) : SrvM Unit).run.run s := rfl
  rw [ran, run_throwIf]
  cases s.mainThreadId with
  | none => rfl
  | some thread => by_cases same : thread = caller.thread <;> simp [same]

theorem register_ended {s : State} {label : Label} {what : String} {entry : Entry}
    (asked : label.op.entry = some entry)
    (admits : s.admits label = s.mainThreadId.all (· = label.caller.thread))
    (succeeds : label.succeeds = label.call.ok) :
    Ended s label ((register what entry label.caller label.call).run.run s).1
      ((register what entry label.caller label.call).run.run s).2 := by
  unfold register
  have first := requireMainThread_run what label.caller s
  split at first
  · rename_i main
    rw [run_tryBind_ok first]
    by_cases ok : label.call.ok = true
    · simp only [ok, if_true]
      exact .registered entry asked (succeeds.trans ok)
    · simp only [ok]
      exact .undone label.call.lastError entry asked (admits.trans main) (succeeds.trans (by simpa using ok))
  · rename_i other
    rw [run_tryBind_error first]
    exact .refused _ (.inr (admits.trans (by simpa using other)))

theorem unregister_ended {s : State} {label : Label} {what : String} {key : Key}
    (asked : label.op.entry = none) :
    Ended s label ((unregister what key label.caller label.call).run.run s).1
      ((unregister what key label.caller label.call).run.run s).2 := by
  unfold unregister
  have first := requireMainThread_run what label.caller s
  split at first
  · rw [run_tryBind_ok first]
    by_cases ok : label.call.ok = true
    · simp only [ok, if_true]
      exact .removed key _ asked (.inr rfl)
    · simp only [ok]
      exact .refused _ (.inl asked)
  · rw [run_tryBind_error first]
    exact .refused _ (.inl asked)

/-- `tpadvertise_full` reaches the native server, or nothing changes. -/
theorem tpadvertiseFull_run (svcNm : String) (entry : Entry) (call : NativeCall) (s : State) :
    (tpadvertiseFull svcNm entry call).run.run s =
      if containsNul svcNm = false ∧ call.ok = true then
        (.ok (), { s with native := s.native.insert entry })
      else (.error call.lastError, s) := by
  unfold tpadvertiseFull rcToResult throwIf
  cases containsNul svcNm <;> cases call.ok <;> rfl

/-- `tpadvertise` from its first hold of the lock to its last. -/
theorem tpadvertise_run (caller : Caller) (svcNm : String) (handler : RustServiceCallback) (call : NativeCall)
    (s : State) :
    (tpadvertise caller svcNm handler call).run.run s =
      if s.ctxAddr ≠ caller.self then
        (.error ⟨.TPEPROTO, "tpadvertise() must be called from the active tp_run() context"⟩, s)
      else if containsNul svcNm = false ∧ call.ok = true then
        (.ok (), { s with
          registry := s.registry.insert (.service svcNm handler)
          native := s.native.insert (.service svcNm handler) })
      else
        (.error call.lastError, { s with
          registry := (s.registry.insert (.service svcNm handler)).remove (.service svcNm) }) := by
  unfold tpadvertise
  rw [run_tryBind_ok (show (get : SrvM State).run.run s = (.ok s, s) from rfl)]
  by_cases own : s.ctxAddr ≠ caller.self
  · rw [run_tryBind_error ((run_throwIf _ _ s).trans (by rw [if_pos own])), if_pos own]
  · have inserted := tpadvertiseFull_run svcNm (.service svcNm handler) call
      { s with registry := s.registry.insert (.service svcNm handler) }
    rw [run_tryBind_ok ((run_throwIf _ _ s).trans (by rw [if_neg own])),
      run_tryBind_ok (show (modify _ : SrvM Unit).run.run s = (.ok (), _) from rfl), if_neg own]
    by_cases taken : containsNul svcNm = false ∧ call.ok = true
    · rw [run_tryOutcome (inserted.trans (if_pos taken)), if_pos taken]
      rfl
    · rw [run_tryOutcome (inserted.trans (if_neg taken)), if_neg taken]
      rfl

theorem tpadvertise_ended {s : State} {label : Label} {svcNm : String} {handler : RustServiceCallback}
    (op : label.op = .tpadvertise svcNm handler) :
    Ended s label ((tpadvertise label.caller svcNm handler label.call).run.run s).1
      ((tpadvertise label.caller svcNm handler label.call).run.run s).2 := by
  have asked : label.op.entry = some (.service svcNm handler) := by rw [op]; rfl
  have admits : s.admits label = decide (s.ctxAddr = label.caller.self) := by simp [State.admits, op]
  have succeeds : label.succeeds = (!containsNul svcNm && label.call.ok) := by simp [Label.succeeds, op]
  rw [tpadvertise_run]
  split
  · rename_i other
    exact .refused _ (.inr (admits.trans (decide_eq_false other)))
  · rename_i own
    split
    · rename_i taken
      exact .registered _ asked (succeeds.trans (by simp [taken]))
    · rename_i failed
      refine .undone _ _ asked (admits.trans (decide_eq_true (not_not.1 own))) (succeeds.trans ?_)
      simpa using failed

theorem tpunadvertise_ended {s : State} {label : Label} {svcNm : String}
    (op : label.op = .tpunadvertise svcNm) :
    Ended s label ((tpunadvertise label.caller svcNm label.call).run.run s).1
      ((tpunadvertise label.caller svcNm label.call).run.run s).2 := by
  have asked : label.op.entry = none := by rw [op]; rfl
  unfold tpunadvertise rcToResult
  by_cases nul : containsNul svcNm = true
  · rw [run_tryBind_error ((run_throwIf _ _ s).trans (by rw [if_pos nul]))]
    exact .refused _ (.inl asked)
  rw [run_tryBind_ok ((run_throwIf _ _ s).trans (by rw [if_neg nul]))]
  by_cases failed : label.call.ok = false
  · rw [run_tryBind_error ((run_throwIf _ _ s).trans (by rw [if_pos failed]))]
    exact .refused _ (.inl asked)
  rw [run_tryBind_ok ((run_throwIf _ _ s).trans (by rw [if_neg failed])),
    run_tryBind_ok (show (modify _ : SrvM Unit).run.run s = (.ok (), _) from rfl),
    run_tryBind_ok (show (get : SrvM State).run.run _ = (.ok _, _) from rfl)]
  unfold runIf
  split
  · exact .removed (.service svcNm) _ asked (.inr rfl)
  · exact .removed (.service svcNm) _ asked (.inl rfl)

/-- **Every call ends in one of the four ways.** -/
theorem outcome_ended (s : State) (label : Label) : Ended s label (s.outcome label).1 (s.step label) := by
  obtain ⟨op, caller, call⟩ := label
  cases op with
  | tpadvertise svcNm handler => exact tpadvertise_ended rfl
  | tpunadvertise svcNm => exact tpunadvertise_ended rfl
  | tpextAddpollerfd fd userData callback => exact register_ended rfl rfl rfl
  | tpextDelpollerfd fd => exact unregister_ended rfl
  | tpextAddperiodcb callback => exact register_ended rfl rfl rfl
  | tpextDelperiodcb => exact unregister_ended rfl
  | tpextAddb4pollcb callback => exact register_ended rfl rfl rfl
  | tpextDelb4pollcb => exact unregister_ended rfl

/-! ## What a failed registration leaves -/

/-- A call that returns an error leaves the registry it found. -/
def KeepsOnError (s : State) (label : Label) : Prop :=
  ∀ e, (s.outcome label).1 = .error e → (s.step label).registry.Same s.registry

/-- No registration that the native layer is about to fail asks for a key that is taken. -/
def Unoccupied (s : State) (label : Label) : Prop :=
  ∀ entry, label.op.entry = some entry → s.admits label = true → label.succeeds = false →
    s.registry.occupied entry.key = false

/-- What the native server has registered has its handler in the registry. -/
def State.Consistent (s : State) : Prop := ∀ entry, s.native.has entry → s.registry.has entry

/-- **When a call keeps the registry on an error**: always, unless its native call fails after its
handler took another's place. -/
theorem keepsOnError_iff (s : State) (label : Label) : KeepsOnError s label ↔ Unoccupied s label := by
  unfold KeepsOnError Unoccupied
  generalize result_eq : (s.outcome label).1 = result
  generalize reached_eq : s.step label = reached
  have ended := outcome_ended s label
  rw [result_eq, reached_eq] at ended
  cases ended with
  | refused e untaken =>
      refine ⟨fun _ entry asked admitted => ?_, fun _ _ _ _ => Iff.rfl⟩
      rcases untaken with none | kept
      · exact nomatch none.symm.trans asked
      · exact nomatch kept.symm.trans admitted
  | registered entry asked taken =>
      exact ⟨fun _ _ _ _ failed => (nomatch taken.symm.trans failed), fun _ _ impossible => nomatch impossible⟩
  | undone e entry asked admitted failed =>
      constructor
      · intro keeps entry' asked' _ _
        obtain rfl := Option.some.inj (asked.symm.trans asked')
        exact (Registry.undone_iff _ _).1 (keeps e rfl)
      · intro free _ _
        exact (Registry.undone_iff _ _).2 (free entry asked admitted failed)
  | removed key registry unasked kept =>
      exact ⟨fun _ _ asked => (nomatch unasked.symm.trans asked), fun _ _ impossible => nomatch impossible⟩

/-- One step of what the native server and the registry have in common. -/
theorem consistent_step {s : State} {label : Label} (free : Unoccupied s label)
    (consistent : s.Consistent) : (s.step label).Consistent := by
  generalize result_eq : (s.outcome label).1 = result
  generalize reached_eq : s.step label = reached
  have ended := outcome_ended s label
  rw [result_eq, reached_eq] at ended
  cases ended with
  | refused e untaken => exact consistent
  | registered entry asked taken =>
      intro entry' has
      rcases (Registry.has_insert _ _ _).1 has with same | ⟨apart, has⟩
      · exact (Registry.has_insert _ _ _).2 (.inl same)
      · exact (Registry.has_insert _ _ _).2 (.inr ⟨apart, consistent entry' has⟩)
  | undone e entry asked admitted failed =>
      intro entry' has
      exact ((Registry.undone_iff _ _).2 (free entry asked admitted failed) entry').2 (consistent entry' has)
  | removed key registry unasked kept =>
      intro entry' has
      obtain ⟨apart, had⟩ := (Registry.has_remove _ _ _).1 has
      rcases kept with rfl | rfl
      · exact consistent entry' had
      · exact (Registry.has_remove _ _ _).2 ⟨apart, consistent entry' had⟩

/-- An event of a descriptor the native server has registered reaches its handler. -/
theorem State.Consistent.delivers {s : State} (consistent : s.Consistent) {fd : Int} {userData : Nat}
    {callback : RustPollerCallback} (registered : s.native.has (.poller fd callback userData))
    {thread : ThreadId} {ctx : Nat} (inside : mainExtensionContext s thread = some ctx) (events : Nat)
    (run : RustPollerCallback → Nat → PollerEvent → Option Int) :
    rustPollerDispatch s thread fd events run = (run callback ctx ⟨fd, events, userData⟩).getD (-1) := by
  have found : s.registry.pollers.get fd = some (callback, userData) := consistent _ registered
  simp only [rustPollerDispatch, inside, found]

/-- **Failed registrations.**  In every run, the calls that return an error keep the registry exactly
when none of them failed after its handler took another's place; and in such a run what the native
server has registered has its handler after every prefix. -/
theorem failed_registration_keeps (ctxAddr : Nat) (mainThreadId : Option ThreadId) (calls : List Label) :
    ((server ctxAddr mainThreadId).Along KeepsOnError calls ↔
        (server ctxAddr mainThreadId).Along Unoccupied calls) ∧
      ((server ctxAddr mainThreadId).Along Unoccupied calls →
        ∀ earlier, earlier <+: calls → ((server ctxAddr mainThreadId).run earlier).Consistent) := by
  refine ⟨Machine.along_congr keepsOnError_iff calls, ?_⟩
  rintro free earlier ⟨later, rfl⟩
  refine Machine.invariantAlong ?_ (fun s label => consistent_step) earlier free.before
  intro entry has
  cases entry <;> simp [server, Registry.has] at has

def firstPoller : Label := ⟨.tpextAddpollerfd 5 1 11, ⟨100, 7⟩, {}⟩

def secondPoller : Label := ⟨.tpextAddpollerfd 5 2 12, ⟨100, 7⟩, { ok := false, lastError := ⟨.other 9, "TPEMATCH"⟩ }⟩

/-- A descriptor registered twice: the second call fails and takes the first one's handler along, so
that its events are dropped. -/
theorem duplicate_poller_drops_handler :
    ¬ KeepsOnError ((server 100 (some 7)).run [firstPoller]) secondPoller ∧
      ¬ ((server 100 (some 7)).run [firstPoller, secondPoller]).Consistent ∧
      rustPollerDispatch ((server 100 (some 7)).run [firstPoller, secondPoller]) 7 5 1
        (fun _ _ _ => some 1) = 0 := by
  refine ⟨fun keeps => ?_, fun consistent => ?_, by decide +kernel⟩
  · exact absurd ((keeps ⟨.other 9, "TPEMATCH"⟩ (by decide +kernel) (.poller 5 11 1)).2 (by decide +kernel))
      (by decide +kernel)
  · exact absurd (consistent (.poller 5 11 1) (by decide +kernel)) (by decide +kernel)

end Endurox.Server
