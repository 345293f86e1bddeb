/-
# Server.Lifecycle -- `tp_run`, what it installs, and every way out of it

A process may call `tp_run` on any thread and any context, from its own hooks too; the
first takes the server runtime and the native dispatch globals, and two guards give both
back.  A run is followed through its steps, none with more than one hold of the runtime's
lock: taken, the globals set, the native server running, its failure looked up, the
globals restored, the runtime reset.  Between any two of them other threads do anything:
call `tp_run`, fail a worker's start, register and remove handlers.  A `tpadvertise` has
its two holds apart as well, the handler's insertion and its removal after a native
failure; the poll extensions are under a lock of their own, which no `tp_run` takes, and
each of their calls is one step.

What a `Run` has after `-- observation` is what happened to it, and the code never reads
it: how it came out, what failed before it did, and what was advertised during it.
-/
import Endurox.Server.Dispatch

namespace Endurox.Server

open Endurox.Theory

set_option autoImplicit false

/-! ## Contexts, hooks and native globals -/

/-- A context; a reference is never null. -/
@[ext] structure Context where
  addr : Nat
  named : addr ≠ 0
  deriving DecidableEq

/-- A function pointer. -/
abbrev Hook := Nat

structure ServerHooks where
  init : Hook
  done : Option Hook := none
  threadInit : Option Hook := none
  threadDone : Option Hook := none
  deriving DecidableEq, Repr

/-- How a hook ends. -/
inductive HookOutcome
  | ok
  | failed (err : AtmiError)
  | panicked

/-- A worker hook the native server calls: a trampoline of this module, or another function. -/
inductive WorkerHook
  | rustThreadInit
  | rustThreadDone
  | other (fn : Nat)
  deriving DecidableEq, Repr

/-- `_tmbuilt_with_thread_option`, `ndrx_G_tpsvrthrinit` and `ndrx_G_tpsvrthrdone`. -/
structure NativeGlobals where
  withThreadOption : Int := 0
  tpsvrthrinit : Option WorkerHook := none
  tpsvrthrdone : Option WorkerHook := none
  deriving DecidableEq, Repr

/-- What `ServerThreadModeGuard::enable` sets. -/
def threadMode : NativeGlobals := ⟨1, some .rustThreadInit, some .rustThreadDone⟩

/-! ## The process -/

/-- How far a call of `tp_run` is. -/
inductive Phase
  /-- It has taken the runtime. -/
  | entered
  /-- It is in `ndrx_main_integra`; `saved` is what the guard restores. -/
  | running (saved : NativeGlobals)
  /-- `ndrx_main_integra` has failed; the failures saved meanwhile are still to be read. -/
  | failed (saved : NativeGlobals)
  /-- It is leaving; the thread-mode guard goes first. -/
  | leaving (result : Except AtmiError Unit) (saved : NativeGlobals)
  /-- The runtime guard is left. -/
  | restored (result : Except AtmiError Unit)
  | returned (result : Except AtmiError Unit)

/-- It has the runtime. -/
def Phase.inProgress : Phase → Bool
  | .returned _ => false
  | _ => true

/-- The native globals are its own. -/
def Phase.saved : Phase → Option NativeGlobals
  | .running saved | .failed saved | .leaving _ saved => some saved
  | _ => none

/-- It has not come out yet: what fails now may be what it returns. -/
def Phase.undecided : Phase → Bool
  | .entered | .running _ | .failed _ => true
  | _ => false

def Phase.result : Phase → Option (Except AtmiError Unit)
  | .leaving result _ | .restored result | .returned result => some result
  | _ => none

/-- How a call of `tp_run` came out. -/
inductive Ending
  | refused
  | badArguments
  /-- `ndrx_main_integra` returned success, or a failure that has been looked up. -/
  | native (ok : Bool)
  deriving DecidableEq, Repr

abbrev CallId := Nat

/-- A call of `tpadvertise`; it has no outcome while the native call runs. -/
structure Advertise where
  ctx : Context
  svcNm : String
  handler : RustServiceCallback
  outcome : Option (Except AtmiError Unit) := none

/-- A call of `tp_run`. -/
structure Run where
  ctx : Context
  thread : ThreadId
  hooks : ServerHooks
  phase : Phase
  -- observation
  ending : Option Ending := none
  initFailures : List AtmiError := []
  threadFailures : List AtmiError := []
  advertised : List CallId := []

abbrev RunId := Nat

/-- The server runtime, with the registries, and the calls of `tp_run` and `tpadvertise`. -/
structure Process where
  server : State := {}
  initHook : Option Hook := none
  doneHook : Option Hook := none
  threadInitHook : Option Hook := none
  threadDoneHook : Option Hook := none
  initError : Option AtmiError := none
  threadInitError : Option AtmiError := none
  globals : NativeGlobals
  runs : Table RunId Run := .empty
  nextRun : RunId := 0
  calls : Table CallId Advertise := .empty
  nextCall : CallId := 0

namespace Process

/-- `ServerRuntime::reset`; the poll extensions are elsewhere. -/
def reset (p : Process) : Process :=
  { p with
    server := { p.server with
      ctxAddr := 0, mainThreadId := none, registry := { p.server.registry with services := .empty } }
    initHook := none, doneHook := none, threadInitHook := none, threadDoneHook := none
    initError := none, threadInitError := none }

def newRun (p : Process) (run : Run) : Process :=
  { p with runs := p.runs.set p.nextRun run, nextRun := p.nextRun + 1 }

def alreadyActive : AtmiError := ⟨.TPEPROTO, "a server runtime is already active in this process"⟩

/-- The beginning of `tp_run_inner`, under the lock. -/
def enter (p : Process) (thread : ThreadId) (ctx : Context) (hooks : ServerHooks) : Process :=
  if p.server.ctxAddr ≠ 0 then
    p.newRun { ctx, thread, hooks, phase := .returned (.error alreadyActive), ending := some .refused }
  else
    Process.newRun { p.reset with
      server := { p.reset.server with ctxAddr := ctx.addr, mainThreadId := some thread }
      initHook := some hooks.init, doneHook := hooks.done
      threadInitHook := hooks.threadInit, threadDoneHook := hooks.threadDone }
      { ctx, thread, hooks, phase := .entered }

def setRun (p : Process) (r : RunId) (run : Run) : Process := { p with runs := p.runs.set r run }

def TPEINVAL : Int := 4

def TPESYSTEM : Int := 12

def argvNul : AtmiError := ⟨.other TPEINVAL, "argv contains NUL byte"⟩

/-- The guards are made, the thread mode enabled and the arguments converted. -/
def enable (p : Process) (r : RunId) (argvOk : Bool) : Process :=
  match p.runs.get r with
  | some run =>
      match run.phase with
      | .entered =>
          Process.setRun { p with globals := threadMode } r
            (if argvOk then { run with phase := .running p.globals }
            else { run with phase := .leaving (.error argvNul) p.globals, ending := some .badArguments })
      | _ => p
  | none => p

/-- Something noted on the runs in such a phase. -/
def observe (p : Process) (which : Phase → Bool) (note : Run → Run) : Process :=
  { p with runs := p.runs.mapVals fun run => if which run.phase then note run else run }

def initPanic : AtmiError := ⟨.other TPESYSTEM, "panic in server init callback"⟩

/-- What `rust_server_init` saves. -/
def HookOutcome.initError : HookOutcome → Option AtmiError
  | .ok => none
  | .failed err => some err
  | .panicked => some initPanic

/-- The context and the hook that `rust_server_init` calls; null is none. -/
def serverInitHook (p : Process) : Option (Nat × Hook) :=
  if p.server.ctxAddr = 0 then none else p.initHook.map (p.server.ctxAddr, ·)

/-- `rust_server_init`; nothing it reads changes while its hook runs. -/
def rustServerInit (p : Process) (outcome : HookOutcome) : Process :=
  match p.serverInitHook, HookOutcome.initError outcome with
  | some _, some err =>
      Process.observe { p with initError := some err } Phase.undecided fun run =>
        { run with initFailures := run.initFailures ++ [err] }
  | _, _ => p

/-- The context and the hook that `rust_server_done` calls. -/
def rustServerDone (p : Process) : Option (Nat × Hook) :=
  if p.server.ctxAddr = 0 then none else p.doneHook.map (p.server.ctxAddr, ·)

def defaultInitFailed : AtmiError :=
  ⟨.other TPESYSTEM, "Enduro/X default tpsvrthrinit() failed for a dispatch thread"⟩

def threadInitPanic : AtmiError := ⟨.other TPESYSTEM, "server thread init hook panicked"⟩

/-- What `rust_thread_init` fails with: the library default, then the hook it has read, on the worker's
own context. -/
def threadInitFailure (defaultOk : Bool) (hook : Option Hook) (borrow : Except AtmiError Nat)
    (outcome : HookOutcome) : Option AtmiError :=
  if defaultOk = false then some defaultInitFailed
  else
    match hook, borrow with
    | none, _ => none
    | some _, .error err => some err
    | some _, .ok _ =>
        match outcome with
        | .ok => none
        | .failed err => some err
        | .panicked => some threadInitPanic

/-- `record`: the first failure is kept. -/
def record (p : Process) (err : AtmiError) : Process :=
  Process.observe { p with threadInitError := p.threadInitError <|> some err } Phase.undecided fun run =>
    { run with threadFailures := run.threadFailures ++ [err] }

/-- The end of `rust_thread_init`, on any worker at any time after it has read the hook. -/
def rustThreadInit (p : Process) (defaultOk : Bool) (hook : Option Hook) (borrow : Except AtmiError Nat)
    (outcome : HookOutcome) : Process :=
  match threadInitFailure defaultOk hook borrow outcome with
  | some err => p.record err
  | none => p

def serverFailed : AtmiError := ⟨.other TPESYSTEM, "ATMI server failed"⟩

/-- `ndrx_main_integra` returns; `left` is what the native server has registered then. -/
def nativeReturn (p : Process) (r : RunId) (ok : Bool) (left : Registry) : Process :=
  match p.runs.get r with
  | some run =>
      match run.phase with
      | .running saved =>
          Process.setRun { p with server := { p.server with native := left } } r
            (if ok then { run with phase := .leaving (.ok ()) saved, ending := some (.native true) }
            else { run with phase := .failed saved })
      | _ => p
  | none => p

/-- The saved failures are read, under the lock: the main init hook's is preferred. -/
def readFailures (p : Process) (r : RunId) : Process :=
  match p.runs.get r with
  | some run =>
      match run.phase with
      | .failed saved =>
          p.setRun r { run with
            phase := .leaving (.error ((p.initError <|> p.threadInitError).getD serverFailed)) saved
            ending := some (.native false) }
      | _ => p
  | none => p

/-- `Drop for ServerThreadModeGuard`. -/
def restore (p : Process) (r : RunId) : Process :=
  match p.runs.get r with
  | some run =>
      match run.phase with
      | .leaving result saved => Process.setRun { p with globals := saved } r { run with phase := .restored result }
      | _ => p
  | none => p

/-- `Drop for ServerRuntimeGuard`, and the return. -/
def finish (p : Process) (r : RunId) : Process :=
  match p.runs.get r with
  | some run =>
      match run.phase with
      | .restored result => Process.setRun p.reset r { run with phase := .returned result }
      | _ => p
  | none => p

def newCall (p : Process) (call : Advertise) : Process :=
  { p with calls := p.calls.set p.nextCall call, nextCall := p.nextCall + 1 }

def notAdvertising : AtmiError :=
  ⟨.TPEPROTO, "tpadvertise() must be called from the active tp_run() context"⟩

/-- `tpadvertise` up to the native call: the handler is inserted, under the lock. -/
def advertise (p : Process) (ctx : Context) (svcNm : String) (handler : RustServiceCallback) : Process :=
  if p.server.ctxAddr ≠ ctx.addr then
    p.newCall { ctx, svcNm, handler, outcome := some (.error notAdvertising) }
  else
    Process.observe
      (Process.newCall
        { p with server := { p.server with registry := p.server.registry.insert (.service svcNm handler) } }
        { ctx, svcNm, handler })
      Phase.inProgress fun run => { run with advertised := run.advertised ++ [p.nextCall] }

/-- `tpadvertise` from the native call on, which fails at a NUL too: the handler is removed again, under
the lock, whoever has the runtime by then. -/
def advertiseReturn (p : Process) (c : CallId) (native : NativeCall) : Process :=
  match p.calls.get c with
  | some call =>
      match call.outcome with
      | none =>
          if containsNul call.svcNm = false ∧ native.ok = true then
            { p with
              server := { p.server with native := p.server.native.insert (.service call.svcNm call.handler) }
              calls := p.calls.set c { call with outcome := some (.ok ()) } }
          else
            { p with
              server := { p.server with registry := p.server.registry.remove (.service call.svcNm) }
              calls := p.calls.set c { call with outcome := some (.error native.lastError) } }
      | some _ => p
  | none => p

/-- Any other registering or removing call; `tpunadvertise` holds the lock once, after the native call. -/
def call (p : Process) (op : Op) (ctx : Context) (thread : ThreadId) (native : NativeCall) : Process :=
  match op with
  | .tpadvertise svcNm handler => p.advertise ctx svcNm handler
  | _ => { p with server := p.server.step ⟨op, ⟨ctx.addr, thread⟩, native⟩ }

end Process

/-! ## The machine -/

inductive ServerLabel
  | tpRun (thread : ThreadId) (ctx : Context) (hooks : ServerHooks)
  | enable (r : RunId) (argvOk : Bool)
  | serverInit (outcome : HookOutcome)
  | threadInit (defaultOk : Bool) (hook : Option Hook) (borrow : Except AtmiError Nat) (outcome : HookOutcome)
  | nativeReturn (r : RunId) (ok : Bool) (left : Registry)
  | readFailures (r : RunId)
  | restore (r : RunId)
  | finish (r : RunId)
  /-- A registration, by a context and a thread; of a `tpadvertise`, its beginning. -/
  | call (op : Op) (ctx : Context) (thread : ThreadId) (native : NativeCall)
  /-- The native call of a `tpadvertise`, and what is left of it. -/
  | advertiseReturn (c : CallId) (native : NativeCall)

def Process.step (p : Process) : ServerLabel → Process
  | .tpRun thread ctx hooks => p.enter thread ctx hooks
  | .enable r argvOk => p.enable r argvOk
  | .serverInit outcome => p.rustServerInit outcome
  | .threadInit defaultOk hook borrow outcome => p.rustThreadInit defaultOk hook borrow outcome
  | .nativeReturn r ok left => p.nativeReturn r ok left
  | .readFailures r => p.readFailures r
  | .restore r => p.restore r
  | .finish r => p.finish r
  | .call op ctx thread native => p.call op ctx thread native
  | .advertiseReturn c native => p.advertiseReturn c native

/-- Every run of a process whose native globals are these when it starts. -/
def processes (globals : NativeGlobals) : Machine Process ServerLabel where
  init := { globals }
  step := Process.step

/-! ## Who has the runtime -/

/-- What a call of `tp_run` ends with, read off what happened to it. -/
def Run.expected (run : Run) : Option (Except AtmiError Unit) :=
  run.ending.map fun
    | .refused => .error Process.alreadyActive
    | .badArguments => .error Process.argvNul
    | .native true => .ok ()
    | .native false =>
        .error ((run.initFailures.getLast? <|> run.threadFailures.head?).getD Process.serverFailed)

/-- A handler was advertised in this run and through its context, by a call of `tpadvertise` that has
succeeded or is still in its native call. -/
def Process.Advertised (p : Process) (run : Run) (svcNm : String) (handler : RustServiceCallback) : Prop :=
  ∃ c call, c ∈ run.advertised ∧ p.calls.get c = some call ∧ call.ctx = run.ctx ∧ call.svcNm = svcNm ∧
    call.handler = handler ∧ ∀ e, call.outcome ≠ some (.error e)

/-- Nobody has the runtime, and nothing of a run is left in it. -/
structure Process.Free (initial : NativeGlobals) (p : Process) : Prop where
  ctxAddr : p.server.ctxAddr = 0
  mainThreadId : p.server.mainThreadId = none
  services : ∀ svcNm, p.server.registry.services.get svcNm = none
  hooks : p.initHook = none ∧ p.doneHook = none ∧ p.threadInitHook = none ∧ p.threadDoneHook = none
  globals : p.globals = initial

/-- The runtime and the native globals are as this run has set them. -/
structure Process.Holds (initial : NativeGlobals) (p : Process) (run : Run) : Prop where
  ctxAddr : p.server.ctxAddr = run.ctx.addr
  mainThreadId : p.server.mainThreadId = some run.thread
  services : ∀ svcNm handler, p.server.registry.services.get svcNm = some handler →
    p.Advertised run svcNm handler
  hooks : p.initHook = some run.hooks.init ∧ p.doneHook = run.hooks.done ∧
    p.threadInitHook = run.hooks.threadInit ∧ p.threadDoneHook = run.hooks.threadDone
  globals : p.globals = if run.phase.saved.isSome then threadMode else initial
  saved : ∀ saved, run.phase.saved = some saved → saved = initial
  errors : run.phase.undecided = true →
    p.initError = run.initFailures.getLast? ∧ p.threadInitError = run.threadFailures.head?

/-- **The invariant**: one run in progress at most, which holds the runtime, or nobody does. -/
structure Process.Sound (initial : NativeGlobals) (p : Process) : Prop where
  fresh : ∀ r, p.nextRun ≤ r → p.runs.get r = none
  unmade : ∀ c, p.nextCall ≤ c → p.calls.get c = none
  alone : ∀ r r' run run', p.runs.get r = some run → p.runs.get r' = some run' →
    run.phase.inProgress = true → run'.phase.inProgress = true → r = r'
  held : ∀ r run, p.runs.get r = some run → run.phase.inProgress = true → p.Holds initial run
  free : (∀ r run, p.runs.get r = some run → run.phase.inProgress = false) → p.Free initial
  results : ∀ r run, p.runs.get r = some run → run.phase.result = run.expected

theorem Phase.result_of_undecided {phase : Phase} (undecided : phase.undecided = true) :
    phase.result = none := by
  cases phase with
  | entered => rfl
  | running saved => rfl
  | failed saved => rfl
  | leaving result saved => cases undecided
  | restored result => cases undecided
  | returned result => cases undecided

/-- Somebody is in progress, or nobody is. -/
theorem Process.Sound.split {initial : NativeGlobals} {p : Process} (sound : p.Sound initial) :
    p.Free initial ∨ ∃ r run, p.runs.get r = some run ∧ run.phase.inProgress = true ∧ p.Holds initial run := by
  by_cases going : ∃ r run, p.runs.get r = some run ∧ run.phase.inProgress = true
  · obtain ⟨r, run, found, going⟩ := going
    exact .inr ⟨r, run, found, going, sound.held r run found going⟩
  · refine .inl (sound.free fun r run found => ?_)
    exact Bool.eq_false_iff.2 fun inside => going ⟨r, run, found, inside⟩

/-- The runtime is taken exactly while a run is in progress. -/
theorem Process.Sound.taken_iff {initial : NativeGlobals} {p : Process} (sound : p.Sound initial) :
    p.server.ctxAddr ≠ 0 ↔ ∃ r run, p.runs.get r = some run ∧ run.phase.inProgress = true := by
  constructor
  · intro taken
    rcases sound.split with free | ⟨r, run, found, going, _⟩
    · exact absurd free.ctxAddr taken
    · exact ⟨r, run, found, going⟩
  · rintro ⟨r, run, found, going⟩
    rw [(sound.held r run found going).ctxAddr]
    exact run.ctx.named

/-! ## What a step keeps -/

section Steps

variable {initial : NativeGlobals} {p : Process}

/-- Noting something on runs, and changing what only the run in progress answers for. -/
theorem Process.Sound.noted (sound : p.Sound initial) {p' : Process} {note : Run → Run}
    (runs : ∀ r, p'.runs.get r = (p.runs.get r).map note) (next : p'.nextRun = p.nextRun)
    (unmade : ∀ c, p'.nextCall ≤ c → p'.calls.get c = none) (phase : ∀ run, (note run).phase = run.phase)
    (held : ∀ run, run.phase.inProgress = true → p.Holds initial run → p'.Holds initial (note run))
    (free : p.Free initial → p'.Free initial)
    (results : ∀ run, run.phase.result = run.expected → run.phase.result = (note run).expected) :
    p'.Sound initial := by
  have was : ∀ {r run'}, p'.runs.get r = some run' → ∃ run, p.runs.get r = some run ∧ note run = run' := by
    intro r run' found
    rw [runs] at found
    exact Option.map_eq_some_iff.1 found
  constructor
  case fresh =>
    intro r above
    rw [runs, sound.fresh r (next ▸ above), Option.map_none]
  case unmade => exact unmade
  case alone =>
    intro r r' run run' found found' going going'
    obtain ⟨old, before, rfl⟩ := was found
    obtain ⟨old', before', rfl⟩ := was found'
    rw [phase] at going going'
    exact sound.alone r r' old old' before before' going going'
  case held =>
    intro r run found going
    obtain ⟨old, before, rfl⟩ := was found
    rw [phase] at going
    exact held old going (sound.held r old before going)
  case free =>
    intro ended
    refine free (sound.free fun r run found => ?_)
    have noted := ended r (note run) (by rw [runs, found, Option.map_some])
    rwa [phase] at noted
  case results =>
    intro r run found
    obtain ⟨old, before, rfl⟩ := was found
    rw [phase]
    exact results old (sound.results r old before)

/-- The run in progress goes on, still in progress. -/
theorem Process.Sound.moved (sound : p.Sound initial) {p' : Process} {r : RunId} {run run' : Run}
    (found : p.runs.get r = some run) (was : run.phase.inProgress = true)
    (runs : p'.runs = p.runs.set r run') (next : p'.nextRun = p.nextRun)
    (calls : p'.calls = p.calls ∧ p'.nextCall = p.nextCall) (going : run'.phase.inProgress = true) (held : p'.Holds initial run')
    (result : run'.phase.result = run'.expected) : p'.Sound initial := by
  have others : ∀ {r' old}, p'.runs.get r' = some old →
      (r' = r ∧ old = run') ∨ (r' ≠ r ∧ p.runs.get r' = some old ∧ old.phase.inProgress = false) := by
    intro r' old found'
    rw [runs, Table.get_set] at found'
    split at found'
    · rename_i same
      exact .inl ⟨same, (Option.some.inj found').symm⟩
    · rename_i apart
      refine .inr ⟨apart, found', Bool.eq_false_iff.2 fun inside => apart ?_⟩
      exact sound.alone r' r old run found' found inside was
  constructor
  case fresh =>
    intro r' above
    rw [next] at above
    have apart : r' ≠ r := by
      rintro rfl
      cases found.symm.trans (sound.fresh r' above)
    rw [runs, Table.get_set, if_neg apart, sound.fresh r' above]
  case unmade => exact fun c above => calls.1 ▸ sound.unmade c (calls.2 ▸ above)
  case alone =>
    intro r₁ r₂ run₁ run₂ found₁ found₂ going₁ going₂
    rcases others found₁ with ⟨same₁, _⟩ | ⟨_, _, ended⟩
    · rcases others found₂ with ⟨same₂, _⟩ | ⟨_, _, ended⟩
      · exact same₁.trans same₂.symm
      · cases ended.symm.trans going₂
    · cases ended.symm.trans going₁
  case held =>
    intro r' old found' inside
    rcases others found' with ⟨_, rfl⟩ | ⟨_, _, ended⟩
    · exact held
    · cases ended.symm.trans inside
  case free =>
    intro ended
    have this := ended r run' (by rw [runs, Table.get_set, if_pos rfl])
    cases this.symm.trans going
  case results =>
    intro r' old found'
    rcases others found' with ⟨_, rfl⟩ | ⟨_, before, _⟩
    · exact result
    · exact sound.results r' old before

/-- A call of `tp_run` that ends at once. -/
theorem Process.Sound.refused (sound : p.Sound initial) {run : Run} (ended : run.phase.inProgress = false)
    (result : run.phase.result = run.expected) : (p.newRun run).Sound initial := by
  have others : ∀ {r' old}, (p.newRun run).runs.get r' = some old → old.phase.inProgress = true →
      p.runs.get r' = some old := by
    intro r' old found inside
    simp only [newRun, Table.get_set] at found
    split at found
    · cases found
      cases ended.symm.trans inside
    · exact found
  constructor
  case fresh =>
    intro r above
    simp only [newRun] at above ⊢
    rw [Table.get_set, if_neg (Nat.ne_of_gt above), sound.fresh r (Nat.le_of_lt above)]
  case unmade => exact sound.unmade
  case alone =>
    exact fun r r' run₁ run₂ found found' going going' =>
      sound.alone r r' run₁ run₂ (others found going) (others found' going') going going'
  case held =>
    intro r old found inside
    obtain ⟨ctxAddr, mainThreadId, services, hooks, globals, saved, errors⟩ :=
      sound.held r old (others found inside) inside
    exact ⟨ctxAddr, mainThreadId, services, hooks, globals, saved, errors⟩
  case free =>
    intro all
    obtain ⟨ctxAddr, mainThreadId, services, hooks, globals⟩ := sound.free fun r old found => by
      refine all r old ?_
      have apart : r ≠ p.nextRun := by
        rintro rfl
        cases found.symm.trans (sound.fresh _ (Nat.le_refl _))
      simp only [newRun, Table.get_set, if_neg apart, found]
    exact ⟨ctxAddr, mainThreadId, services, hooks, globals⟩
  case results =>
    intro r old found
    simp only [newRun, Table.get_set] at found
    split at found
    · cases found
      exact result
    · exact sound.results r old found

/-- The first call of `tp_run` takes the runtime, and resets what failures of earlier workers left. -/
theorem Process.Sound.entered (sound : p.Sound initial) (thread : ThreadId) (ctx : Context)
    (hooks : ServerHooks) (untaken : p.server.ctxAddr = 0) : (p.enter thread ctx hooks).Sound initial := by
  have free : p.Free initial := by
    rcases sound.split with free | ⟨r, run, _, _, held⟩
    · exact free
    · exact absurd (held.ctxAddr.symm.trans untaken) run.ctx.named
  have ended : ∀ r run, p.runs.get r = some run → run.phase.inProgress = false := by
    intro r run found
    refine Bool.eq_false_iff.2 fun inside => ?_
    exact run.ctx.named ((sound.held r run found inside).ctxAddr.symm.trans untaken)
  have others : ∀ {r' old}, (p.enter thread ctx hooks).runs.get r' = some old →
      (r' = p.nextRun ∧ old = { ctx, thread, hooks, phase := .entered }) ∨
        (p.runs.get r' = some old ∧ old.phase.inProgress = false) := by
    intro r' old found
    simp only [enter, untaken, ne_eq, not_true, if_false, newRun, reset, Table.get_set] at found
    split at found
    · rename_i same
      exact .inl ⟨same, (Option.some.inj found).symm⟩
    · exact .inr ⟨found, ended r' old found⟩
  constructor
  case fresh =>
    intro r above
    simp only [enter, untaken, ne_eq, not_true, if_false, newRun, reset] at above ⊢
    rw [Table.get_set, if_neg (Nat.ne_of_gt above), sound.fresh r (Nat.le_of_lt above)]
  case unmade =>
    simpa only [enter, untaken, ne_eq, not_true, if_false, newRun, reset] using sound.unmade
  case alone =>
    intro r₁ r₂ run₁ run₂ found₁ found₂ going₁ going₂
    rcases others found₁ with ⟨same₁, _⟩ | ⟨_, ended₁⟩
    · rcases others found₂ with ⟨same₂, _⟩ | ⟨_, ended₂⟩
      · exact same₁.trans same₂.symm
      · cases ended₂.symm.trans going₂
    · cases ended₁.symm.trans going₁
  case held =>
    intro r old found inside
    rcases others found with ⟨_, rfl⟩ | ⟨_, ended⟩
    · constructor
      all_goals simp [enter, untaken, newRun, reset, Phase.saved, free.globals]
    · cases ended.symm.trans inside
  case free =>
    intro all
    have this := all p.nextRun { ctx, thread, hooks, phase := .entered } (by
      simp only [enter, untaken, ne_eq, not_true, if_false, newRun, reset, Table.get_set, if_true])
    cases this
  case results =>
    intro r old found
    rcases others found with ⟨_, rfl⟩ | ⟨before, _⟩
    · rfl
    · exact sound.results r old before

theorem Process.Sound.enter (sound : p.Sound initial) (thread : ThreadId) (ctx : Context) (hooks : ServerHooks) :
    (p.enter thread ctx hooks).Sound initial := by
  by_cases untaken : p.server.ctxAddr = 0
  · exact sound.entered thread ctx hooks untaken
  · simp only [Process.enter, ne_eq, untaken, not_false_iff, if_true]
    exact sound.refused rfl rfl

theorem Process.Sound.enable (sound : p.Sound initial) (r : RunId) (argvOk : Bool) :
    (p.enable r argvOk).Sound initial := by
  unfold Process.enable
  split
  · rename_i run found
    split
    · rename_i entered
      have going : run.phase.inProgress = true := by rw [entered]; rfl
      obtain ⟨ctxAddr, mainThreadId, services, hooks, globals, saved, errors⟩ := sound.held r run found going
      have untouched : p.globals = initial := by simpa [entered, Phase.saved] using globals
      cases argvOk with
      | true =>
          refine sound.moved found going rfl rfl ⟨rfl, rfl⟩ rfl
            ⟨ctxAddr, mainThreadId, services, hooks, rfl, ?_, fun _ => ?_⟩ ?_
          · rintro _ ⟨⟩
            exact untouched
          · exact errors (by rw [entered]; rfl)
          · have result := sound.results r run found
            rw [entered] at result
            exact result
      | false =>
          refine sound.moved found going rfl rfl ⟨rfl, rfl⟩ rfl
            ⟨ctxAddr, mainThreadId, services, hooks, rfl, ?_, fun undecided => ?_⟩ rfl
          · rintro _ ⟨⟩
            exact untouched
          · cases undecided
    · exact sound
  · exact sound

theorem Process.Sound.nativeReturn (sound : p.Sound initial) (r : RunId) (ok : Bool) (left : Registry) :
    (p.nativeReturn r ok left).Sound initial := by
  unfold Process.nativeReturn
  split
  · rename_i run found
    split
    · rename_i before running
      have going : run.phase.inProgress = true := by rw [running]; rfl
      obtain ⟨ctxAddr, mainThreadId, services, hooks, globals, saved, errors⟩ := sound.held r run found going
      have mine : p.globals = threadMode := globals.trans (by simp [running, Phase.saved])
      have its : before = initial := saved before (by rw [running]; rfl)
      cases ok with
      | true =>
          refine sound.moved found going rfl rfl ⟨rfl, rfl⟩ rfl
            ⟨ctxAddr, mainThreadId, services, hooks, mine, ?_, fun undecided => ?_⟩ rfl
          · rintro _ ⟨⟩
            exact its
          · cases undecided
      | false =>
          refine sound.moved found going rfl rfl ⟨rfl, rfl⟩ rfl
            ⟨ctxAddr, mainThreadId, services, hooks, mine, ?_, fun _ => ?_⟩ ?_
          · rintro _ ⟨⟩
            exact its
          · exact errors (by rw [running]; rfl)
          · have result := sound.results r run found
            rw [running] at result
            exact result
    · exact sound
  · exact sound

/-- What the failures are when they are read is what the run returns. -/
theorem Process.Sound.readFailures (sound : p.Sound initial) (r : RunId) : (p.readFailures r).Sound initial := by
  unfold Process.readFailures
  split
  · rename_i run found
    split
    · rename_i before failed
      have going : run.phase.inProgress = true := by rw [failed]; rfl
      obtain ⟨ctxAddr, mainThreadId, services, hooks, globals, saved, errors⟩ := sound.held r run found going
      obtain ⟨initError, threadInitError⟩ := errors (by rw [failed]; rfl)
      refine sound.moved found going rfl rfl ⟨rfl, rfl⟩ rfl
        ⟨ctxAddr, mainThreadId, services, hooks, ?_, ?_, fun undecided => ?_⟩ ?_
      · exact globals.trans (by simp [failed, Phase.saved])
      · rintro _ ⟨⟩
        exact saved before (by rw [failed]; rfl)
      · cases undecided
      · simp [Phase.result, Run.expected, initError, threadInitError]
    · exact sound
  · exact sound

theorem Process.Sound.restore (sound : p.Sound initial) (r : RunId) : (p.restore r).Sound initial := by
  unfold Process.restore
  split
  · rename_i run found
    split
    · rename_i result before leaving
      have going : run.phase.inProgress = true := by rw [leaving]; rfl
      obtain ⟨ctxAddr, mainThreadId, services, hooks, globals, saved, errors⟩ := sound.held r run found going
      refine sound.moved found going rfl rfl ⟨rfl, rfl⟩ rfl
        ⟨ctxAddr, mainThreadId, services, hooks, ?_, ?_, fun undecided => ?_⟩ ?_
      · exact saved before (by rw [leaving]; rfl)
      · rintro _ ⟨⟩
      · cases undecided
      · have same := sound.results r run found
        rw [leaving] at same
        exact same
    · exact sound
  · exact sound

theorem Process.Sound.finish (sound : p.Sound initial) (r : RunId) : (p.finish r).Sound initial := by
  unfold Process.finish
  split
  · rename_i run found
    split
    · rename_i result restored
      have going : run.phase.inProgress = true := by rw [restored]; rfl
      have held := sound.held r run found going
      have ended : ∀ {r' old}, (p.runs.set r { run with phase := .returned result }).get r' = some old →
          old.phase.inProgress = false := by
        intro r' old found'
        rw [Table.get_set] at found'
        split at found'
        · cases found'
          rfl
        · rename_i apart
          exact Bool.eq_false_iff.2 fun inside => apart (sound.alone r' r old run found' found inside going)
      constructor
      case fresh =>
        intro r' above
        have apart : r' ≠ r := by
          rintro rfl
          cases found.symm.trans (sound.fresh r' above)
        simp only [setRun, Table.get_set, if_neg apart]
        exact sound.fresh r' above
      case unmade => exact sound.unmade
      case alone =>
        intro r₁ r₂ run₁ run₂ found₁ _ going₁ _
        cases (ended found₁).symm.trans going₁
      case held =>
        intro r' old found' inside
        cases (ended found').symm.trans inside
      case free =>
        intro _
        refine ⟨rfl, rfl, fun _ => rfl, ⟨rfl, rfl, rfl, rfl⟩, ?_⟩
        simpa [restored, Phase.saved, setRun, reset] using held.globals
      case results =>
        intro r' old found'
        simp only [setRun, reset, Table.get_set] at found'
        split at found'
        · cases found'
          have same := sound.results r run found
          rw [restored] at same
          exact same
        · exact sound.results r' old found'
    · exact sound
  · exact sound

/-- One more failure of the main init hook: the last is kept. -/
theorem Process.Sound.rustServerInit (sound : p.Sound initial) (outcome : HookOutcome) :
    (p.rustServerInit outcome).Sound initial := by
  unfold Process.rustServerInit
  split
  · rename_i called err asked _
    refine sound.noted (fun r => Table.get_mapVals _ _ r) rfl sound.unmade (fun run => ?_)
      (fun run going held => ?_) (fun free => ?_) fun run result => ?_
    · split <;> rfl
    · obtain ⟨ctxAddr, mainThreadId, services, hooks, globals, saved, errors⟩ := held
      split
      · rename_i undecided
        refine ⟨ctxAddr, mainThreadId, services, hooks, globals, saved, fun _ => ⟨?_, (errors undecided).2⟩⟩
        exact List.getLast?_concat.symm
      · rename_i decided
        exact ⟨ctxAddr, mainThreadId, services, hooks, globals, saved, fun undecided => absurd undecided decided⟩
    · obtain ⟨ctxAddr, mainThreadId, services, hooks, globals⟩ := free
      exact ⟨ctxAddr, mainThreadId, services, hooks, globals⟩
    · split
      · rename_i undecided
        rw [Phase.result_of_undecided undecided] at result ⊢
        exact (Option.map_eq_none_iff.2 (Option.map_eq_none_iff.1 result.symm)).symm
      · exact result
  · exact sound

/-- One more failure of a worker: the first is kept. -/
theorem Process.Sound.record (sound : p.Sound initial) (err : AtmiError) : (p.record err).Sound initial := by
  refine sound.noted (fun r => Table.get_mapVals _ _ r) rfl sound.unmade (fun run => ?_)
    (fun run going held => ?_) (fun free => ?_) fun run result => ?_
  · split <;> rfl
  · obtain ⟨ctxAddr, mainThreadId, services, hooks, globals, saved, errors⟩ := held
    split
    · rename_i undecided
      refine ⟨ctxAddr, mainThreadId, services, hooks, globals, saved, fun _ => ⟨(errors undecided).1, ?_⟩⟩
      have kept := (errors undecided).2
      simp only [Process.record, Process.observe, kept]
      cases run.threadFailures <;> rfl
    · rename_i decided
      exact ⟨ctxAddr, mainThreadId, services, hooks, globals, saved, fun undecided => absurd undecided decided⟩
  · obtain ⟨ctxAddr, mainThreadId, services, hooks, globals⟩ := free
    exact ⟨ctxAddr, mainThreadId, services, hooks, globals⟩
  · split
    · rename_i undecided
      rw [Phase.result_of_undecided undecided] at result ⊢
      exact (Option.map_eq_none_iff.2 (Option.map_eq_none_iff.1 result.symm)).symm
    · exact result

theorem Process.Sound.rustThreadInit (sound : p.Sound initial) (defaultOk : Bool) (hook : Option Hook)
    (borrow : Except AtmiError Nat) (outcome : HookOutcome) :
    (p.rustThreadInit defaultOk hook borrow outcome).Sound initial := by
  unfold Process.rustThreadInit
  split
  · exact sound.record _
  · exact sound

/-- No registration takes the runtime or gives it back. -/
theorem step_runtime (s : State) (label : Label) :
    (s.step label).ctxAddr = s.ctxAddr ∧ (s.step label).mainThreadId = s.mainThreadId := by
  generalize result_eq : (s.outcome label).1 = result
  generalize reached_eq : s.step label = reached
  have ended := outcome_ended s label
  rw [result_eq, reached_eq] at ended
  cases ended with
  | refused e untaken => exact ⟨rfl, rfl⟩
  | registered entry asked taken => exact ⟨rfl, rfl⟩
  | undone e entry asked admitted failed => exact ⟨rfl, rfl⟩
  | removed key registry unasked kept => exact ⟨rfl, rfl⟩

/-- No call but `tpadvertise` puts a service's handler in. -/
theorem step_services {s : State} {label : Label} (other : ∀ svcNm handler, label.op ≠ .tpadvertise svcNm handler)
    {svcNm : String} {handler : RustServiceCallback}
    (found : (s.step label).registry.services.get svcNm = some handler) :
    s.registry.services.get svcNm = some handler := by
  have has : (s.step label).registry.has (.service svcNm handler) := found
  have ended := outcome_ended s label
  generalize (s.outcome label).1 = result at ended
  generalize s.step label = reached at ended has
  cases ended with
  | refused e untaken => exact has
  | registered entry asked taken =>
      rcases (Registry.has_insert _ _ _).1 has with rfl | ⟨_, before⟩
      · refine absurd ?_ (other svcNm handler)
        cases named : label.op <;> rw [named] at asked <;> simp_all [Op.entry]
      · exact before
  | undone e entry asked admitted failed =>
      obtain ⟨apart, after⟩ := (Registry.has_remove _ _ _).1 has
      rcases (Registry.has_insert _ _ _).1 after with rfl | ⟨_, before⟩
      · exact absurd rfl apart
      · exact before
  | removed key registry unasked kept =>
      rcases kept with rfl | rfl
      · exact has
      · exact ((Registry.has_remove _ _ _).1 has).2

/-- What a call that is not made yet cannot change. -/
theorem Process.Advertised.set {run : Run} {svcNm : String} {handler : RustServiceCallback}
    (advertised : p.Advertised run svcNm handler) {q : Process} {c : CallId} {call : Advertise}
    (calls : q.calls = p.calls.set c call) (unmade : p.calls.get c = none) :
    q.Advertised run svcNm handler := by
  obtain ⟨c', call', made, there, is⟩ := advertised
  refine ⟨c', call', made, ?_, is⟩
  have apart : c' ≠ c := by
    rintro rfl
    cases there.symm.trans unmade
  rw [calls, Table.get_set, if_neg apart, there]

/-- What changes the registries and the calls only; whoever has the runtime answers for the services. -/
theorem Process.Sound.registering (sound : p.Sound initial) {server : State} {calls : Table CallId Advertise}
    {nextCall : CallId} (ctxAddr : server.ctxAddr = p.server.ctxAddr)
    (mainThreadId : server.mainThreadId = p.server.mainThreadId) (unmade : ∀ c, nextCall ≤ c → calls.get c = none)
    (services : ∀ run svcNm handler,
      (∀ svcNm handler, p.server.registry.services.get svcNm = some handler → p.Advertised run svcNm handler) →
      server.registry.services.get svcNm = some handler →
      Process.Advertised { p with server, calls, nextCall } run svcNm handler)
    (empty : (∀ svcNm, p.server.registry.services.get svcNm = none) →
      ∀ svcNm, server.registry.services.get svcNm = none) :
    Process.Sound initial { p with server, calls, nextCall } := by
  refine sound.noted (fun r => Option.map_id'.symm) rfl unmade (fun run => rfl) (fun run going held => ?_)
    (fun free => ?_) fun run result => result
  · exact ⟨ctxAddr.trans held.ctxAddr, mainThreadId.trans held.mainThreadId,
      fun svcNm handler found => services run svcNm handler held.services found, held.hooks, held.globals, held.saved,
      held.errors⟩
  · exact ⟨ctxAddr.trans free.ctxAddr, mainThreadId.trans free.mainThreadId, empty free.services, free.hooks,
      free.globals⟩

/-- One more call of `tpadvertise`. -/
theorem Process.Sound.advertise (sound : p.Sound initial) (ctx : Context) (svcNm : String)
    (handler : RustServiceCallback) : (p.advertise ctx svcNm handler).Sound initial := by
  have unmade : ∀ call : Advertise, ∀ c, p.nextCall + 1 ≤ c → (p.calls.set p.nextCall call).get c = none := by
    intro call c above
    rw [Table.get_set, if_neg (Nat.ne_of_gt above), sound.unmade c (Nat.le_of_lt above)]
  have next := sound.unmade p.nextCall (Nat.le_refl _)
  unfold Process.advertise
  split
  · exact sound.registering rfl rfl (unmade _)
      (fun run svcNm' handler' advertised found => (advertised svcNm' handler' found).set rfl next) id
  · rename_i own
    refine sound.noted (fun r => Table.get_mapVals _ _ r) rfl (unmade _) (fun run => ?_)
      (fun run going held => ?_) (fun free => ?_) fun run result => ?_
    · split <;> rfl
    · obtain ⟨ctxAddr, mainThreadId, services, hooks, globals, saved, errors⟩ := held
      rw [if_pos going]
      refine ⟨ctxAddr, mainThreadId, fun svcNm' handler' found => ?_, hooks, globals, saved, errors⟩
      rcases (Registry.has_insert p.server.registry (.service svcNm handler) (.service svcNm' handler')).1 found
        with same | ⟨_, before⟩
      · cases same
        refine ⟨p.nextCall, { ctx, svcNm, handler }, List.mem_append_right _ (List.mem_singleton.2 rfl), ?_, ?_, rfl,
          rfl, fun e => nofun⟩
        · simp [Process.observe, Process.newCall]
        · exact Context.ext ((not_not.1 own).symm.trans ctxAddr)
      · obtain ⟨c, call, made, there, is⟩ := (services svcNm' handler' before).set (q := p.newCall _) rfl next
        exact ⟨c, call, List.mem_append_left _ made, there, is⟩
    · exact absurd ((not_not.1 own).symm.trans free.ctxAddr) ctx.named
    · split <;> exact result

/-- A call of `tpadvertise` comes back: a failed one leaves no handler under its name, its own or another's. -/
theorem Process.Sound.advertiseReturn (sound : p.Sound initial) (c : CallId) (native : NativeCall) :
    (p.advertiseReturn c native).Sound initial := by
  unfold Process.advertiseReturn
  split
  · rename_i call there
    have unmade : ∀ call' : Advertise, ∀ c', p.nextCall ≤ c' → (p.calls.set c call').get c' = none := by
      intro call' c' above
      have apart : c' ≠ c := by
        rintro rfl
        cases there.symm.trans (sound.unmade c' above)
      rw [Table.get_set, if_neg apart, sound.unmade c' above]
    split
    · rename_i calling
      split
      · refine sound.registering rfl rfl (unmade _) (fun run svcNm handler advertised found => ?_) id
        obtain ⟨c', call', made, there', ctx, name, own, stands⟩ := advertised svcNm handler found
        by_cases same : c' = c
        · subst same
          obtain rfl := Option.some.inj (there.symm.trans there')
          exact ⟨c', { call with outcome := some (.ok ()) }, made, by rw [Table.get_set, if_pos rfl], ctx, name, own,
            fun e => nofun⟩
        · exact ⟨c', call', made, by rw [Table.get_set, if_neg same, there'], ctx, name, own, stands⟩
      · refine sound.registering rfl rfl (unmade _) (fun run svcNm handler advertised found => ?_)
          fun none svcNm => by simp [Registry.remove, none svcNm]
        obtain ⟨apart, before⟩ :=
          (Registry.has_remove p.server.registry (.service call.svcNm) (.service svcNm handler)).1 found
        obtain ⟨c', call', made, there', ctx, name, own, stands⟩ := advertised svcNm handler before
        have another : c' ≠ c := by
          rintro rfl
          obtain rfl := Option.some.inj (there.symm.trans there')
          exact apart (congrArg Key.service name.symm)
        exact ⟨c', call', made, by rw [Table.get_set, if_neg another, there'], ctx, name, own, stands⟩
    · exact sound
  · exact sound

theorem Process.Sound.call (sound : p.Sound initial) (op : Op) (ctx : Context) (thread : ThreadId)
    (native : NativeCall) : (p.call op ctx thread native).Sound initial := by
  have other : ∀ {op : Op}, (∀ svcNm handler, op ≠ .tpadvertise svcNm handler) →
      Process.Sound initial { p with server := p.server.step ⟨op, ⟨ctx.addr, thread⟩, native⟩ } := by
    intro op apart
    have runtime := step_runtime p.server ⟨op, ⟨ctx.addr, thread⟩, native⟩
    refine sound.registering runtime.1 runtime.2 sound.unmade
      (fun run svcNm handler advertised found => advertised svcNm handler (step_services apart found))
      fun none svcNm => Option.eq_none_iff_forall_ne_some.2 fun handler found => ?_
    cases (none svcNm).symm.trans (step_services apart found)
  cases op with
  | tpadvertise svcNm handler => exact sound.advertise ctx svcNm handler
  | _ => exact other fun _ _ => nofun

/-- With nobody in between, the two parts of a `tpadvertise` are the whole call. -/
theorem advertise_whole (p : Process) (ctx : Context) (thread : ThreadId) (svcNm : String)
    (handler : RustServiceCallback) (native : NativeCall) :
    ((p.advertise ctx svcNm handler).advertiseReturn p.nextCall native).server =
        p.server.step ⟨.tpadvertise svcNm handler, ⟨ctx.addr, thread⟩, native⟩ ∧
      (((p.advertise ctx svcNm handler).advertiseReturn p.nextCall native).calls.get p.nextCall).bind (·.outcome) =
        some (p.server.outcome ⟨.tpadvertise svcNm handler, ⟨ctx.addr, thread⟩, native⟩).1 := by
  simp only [State.step, State.outcome, Op.action, tpadvertise_run, Process.advertise]
  split
  · simp [Process.newCall, Process.advertiseReturn, Process.notAdvertising]
  · by_cases taken : containsNul svcNm = false ∧ native.ok = true
    · simp [Process.observe, Process.newCall, Process.advertiseReturn, taken]
    · simp [Process.observe, Process.newCall, Process.advertiseReturn, taken]

/-- **One step.** -/
theorem Process.Sound.step (sound : p.Sound initial) (label : ServerLabel) : (p.step label).Sound initial := by
  cases label with
  | tpRun thread ctx hooks => exact sound.enter thread ctx hooks
  | enable r argvOk => exact sound.enable r argvOk
  | serverInit outcome => exact sound.rustServerInit outcome
  | threadInit defaultOk hook borrow outcome => exact sound.rustThreadInit defaultOk hook borrow outcome
  | nativeReturn r ok left => exact sound.nativeReturn r ok left
  | readFailures r => exact sound.readFailures r
  | restore r => exact sound.restore r
  | finish r => exact sound.finish r
  | call op ctx thread native => exact sound.call op ctx thread native
  | advertiseReturn c native => exact sound.advertiseReturn c native

end Steps

/-- **Every run.** -/
theorem processes_sound (initial : NativeGlobals) (ls : List ServerLabel) :
    ((processes initial).run ls).Sound initial := by
  refine Machine.invariant ?_ (fun p label sound => sound.step label) ls
  constructor
  case fresh => exact fun _ _ => rfl
  case unmade => exact fun _ _ => rfl
  case alone => exact fun _ _ _ _ found => nomatch found
  case held => exact fun _ _ found => nomatch found
  case free => exact fun _ => ⟨rfl, rfl, fun _ => rfl, ⟨rfl, rfl, rfl, rfl⟩, rfl⟩
  case results => exact fun _ _ found => nomatch found

/-- What a call of `tp_run` has come out with. -/
def Process.result (p : Process) (r : RunId) : Option (Except AtmiError Unit) :=
  (p.runs.get r).bind (·.phase.result)

/-- A call of `tp_run` goes on, with what it has come out with. -/
theorem Process.result_set {p p' : Process} {r r' : RunId} {run run' : Run} {result : Except AtmiError Unit}
    (came : p.result r = some result) (found : p.runs.get r' = some run) (runs : p'.runs = p.runs.set r' run')
    (keeps : run.phase.result = none ∨ run'.phase.result = run.phase.result) : p'.result r = some result := by
  unfold Process.result at came ⊢
  rw [runs, Table.get_set]
  split
  · rename_i same
    rw [same, found] at came
    rcases keeps with undecided | kept
    · cases undecided.symm.trans came
    · exact kept.trans came
  · exact came

theorem Process.result_noted {p p' : Process} {note : Run → Run} (runs : p'.runs = p.runs.mapVals note)
    (phase : ∀ run, (note run).phase = run.phase) (r : RunId) : p'.result r = p.result r := by
  unfold Process.result
  rw [runs, Table.get_mapVals, Option.bind_map]
  exact Option.bind_congr fun run _ => congrArg Phase.result (phase run)

/-- **A result is final.** -/
theorem Process.Sound.result_step {initial : NativeGlobals} {p : Process} (sound : p.Sound initial) {r : RunId}
    {result : Except AtmiError Unit} (came : p.result r = some result) (label : ServerLabel) :
    (p.step label).result r = some result := by
  have made : r ≠ p.nextRun := by
    rintro rfl
    simp [Process.result, sound.fresh] at came
  cases label with
  | tpRun thread ctx hooks =>
      simp only [Process.step, Process.enter]
      split
      all_goals
        simp only [Process.result, Process.newRun, Process.reset, Table.get_set, if_neg made]
        exact came
  | enable r' argvOk =>
      simp only [Process.step, Process.enable]
      split
      · rename_i run found
        split
        · rename_i entered
          exact Process.result_set came found rfl (.inl (by rw [entered]; rfl))
        · exact came
      · exact came
  | serverInit outcome =>
      simp only [Process.step, Process.rustServerInit]
      split
      · exact (Process.result_noted rfl (fun run => by split <;> rfl) r).trans came
      · exact came
  | threadInit defaultOk hook borrow outcome =>
      simp only [Process.step, Process.rustThreadInit]
      split
      · exact (Process.result_noted rfl (fun run => by split <;> rfl) r).trans came
      · exact came
  | nativeReturn r' ok left =>
      simp only [Process.step, Process.nativeReturn]
      split
      · rename_i run found
        split
        · rename_i running
          exact Process.result_set came found rfl (.inl (by rw [running]; rfl))
        · exact came
      · exact came
  | readFailures r' =>
      simp only [Process.step, Process.readFailures]
      split
      · rename_i run found
        split
        · rename_i failed
          exact Process.result_set came found rfl (.inl (by rw [failed]; rfl))
        · exact came
      · exact came
  | restore r' =>
      simp only [Process.step, Process.restore]
      split
      · rename_i run found
        split
        · rename_i leaving
          exact Process.result_set came found rfl (.inr (by rw [leaving]; rfl))
        · exact came
      · exact came
  | finish r' =>
      simp only [Process.step, Process.finish]
      split
      · rename_i run found
        split
        · rename_i restored
          exact Process.result_set came found rfl (.inr (by rw [restored]; rfl))
        · exact came
      · exact came
  | call op ctx thread native =>
      simp only [Process.step, Process.call]
      split
      · simp only [Process.advertise]
        split
        · exact came
        · exact (Process.result_noted rfl (fun run => by split <;> rfl) r).trans came
      · exact came
  | advertiseReturn c native =>
      simp only [Process.step, Process.advertiseReturn]
      split
      · split
        · split <;> exact came
        · exact came
      · exact came

/-! ## Results about every run -/

/-- Somebody is inside `tp_run`. -/
def Process.Active (p : Process) : Prop := ∃ r run, p.runs.get r = some run ∧ run.phase.inProgress = true

theorem Process.Sound.active_iff {initial : NativeGlobals} {p : Process} (sound : p.Sound initial) :
    p.Active ↔ p.server.ctxAddr ≠ 0 := sound.taken_iff.symm

/-- **One `tp_run` at a time.**  Whatever the threads of a process do, one call of `tp_run` is in
progress at most; any other made meanwhile returns the same error and leaves the runtime as it is, and
one made when there is none takes it, with nothing of an earlier run in it. -/
theorem tp_run_exclusive (initial : NativeGlobals) (ls : List ServerLabel) (thread : ThreadId) (ctx : Context)
    (hooks : ServerHooks) :
    (∀ r r' run run', ((processes initial).run ls).runs.get r = some run →
        ((processes initial).run ls).runs.get r' = some run' → run.phase.inProgress = true →
        run'.phase.inProgress = true → r = r') ∧
      (((processes initial).run ls).Active →
        ((processes initial).run ls).step (.tpRun thread ctx hooks) =
          ((processes initial).run ls).newRun
            { ctx, thread, hooks, phase := .returned (.error Process.alreadyActive), ending := some .refused }) ∧
      (¬ ((processes initial).run ls).Active →
        (((processes initial).run ls).step (.tpRun thread ctx hooks)).Holds initial
          { ctx, thread, hooks, phase := .entered }) := by
  have sound := processes_sound initial ls
  refine ⟨sound.alone, fun active => ?_, fun idle => ?_⟩
  · have taken := sound.active_iff.1 active
    simp only [Process.step, Process.enter, if_pos taken]
  · have untaken : ((processes initial).run ls).server.ctxAddr = 0 :=
      not_not.1 fun taken => idle (sound.active_iff.2 taken)
    refine (sound.entered thread ctx hooks untaken).held ((processes initial).run ls).nextRun _ ?_ rfl
    simp only [Process.enter, untaken, ne_eq, not_true, if_false, Process.newRun, Process.reset, Table.get_set,
      if_true]

def mainContext : Context := ⟨100, by decide⟩

/-- A server on thread 7 that has advertised a service. -/
def serverRun : List ServerLabel :=
  [.tpRun 7 mainContext { init := 1 }, .enable 0 true, .call (.tpadvertise "SVC" 5) mainContext 7 {},
    .advertiseReturn 0 {}]

theorem serverRun_active : ((processes {}).run serverRun).Active :=
  (processes_sound {} serverRun).active_iff.2 (by decide +kernel)

/-- Another thread's call of `tp_run` meanwhile. -/
theorem serverRun_exclusive :
    ((processes {}).run serverRun).step (.tpRun 8 ⟨200, by decide⟩ { init := 2 }) =
      ((processes {}).run serverRun).newRun
        { ctx := ⟨200, by decide⟩, thread := 8, hooks := { init := 2 }
          phase := .returned (.error Process.alreadyActive), ending := some .refused } :=
  (tp_run_exclusive {} serverRun 8 ⟨200, by decide⟩ { init := 2 }).2.1 serverRun_active

/-- **What `tp_run` installs is given back on every way out.**  The native dispatch globals are those of
the thread mode exactly while a run has them, and else the ones the process started with; and when nobody
is inside `tp_run` no service, no hook and no context is left in the runtime. -/
theorem tp_run_restores (initial : NativeGlobals) (ls : List ServerLabel) :
    (((processes initial).run ls).globals = threadMode ∧
        (∃ r run, ((processes initial).run ls).runs.get r = some run ∧ run.phase.saved = some initial) ∨
      ((processes initial).run ls).globals = initial ∧
        ∀ r run, ((processes initial).run ls).runs.get r = some run → run.phase.saved = none) ∧
    (((processes initial).run ls).Active ∨ ((processes initial).run ls).Free initial) := by
  have sound := processes_sound initial ls
  have unsaved : ∀ run : Run, run.phase.inProgress = false → run.phase.saved = none := by
    intro run ended
    cases phase : run.phase <;> rw [phase] at ended <;> first | rfl | cases ended
  rcases sound.split with free | ⟨r, run, found, going, held⟩
  · refine ⟨.inr ⟨free.globals, fun r run found => unsaved run ?_⟩, .inr free⟩
    refine Bool.eq_false_iff.2 fun inside => ?_
    exact run.ctx.named ((sound.held r run found inside).ctxAddr.symm.trans free.ctxAddr)
  · refine ⟨?_, .inl ⟨r, run, found, going⟩⟩
    have globals := held.globals
    cases saved : run.phase.saved with
    | some before =>
        rw [saved] at globals
        obtain rfl := held.saved before saved
        exact .inl ⟨globals, r, run, found, saved⟩
    | none =>
        rw [saved] at globals
        refine .inr ⟨globals, fun r' run' found' => ?_⟩
        by_cases inside : run'.phase.inProgress = true
        · obtain rfl := sound.alone r r' run run' found found' going inside
          exact Option.some.inj (found.symm.trans found') ▸ saved
        · exact unsaved run' (Bool.eq_false_iff.2 inside)

/-- **What `tp_run` returns**, in every interleaving with the workers and with other calls of it.  Nothing
before it has come out; then an error of its own when another call had the runtime or an argument holds a
NUL, success when the native server succeeded, and for a failed one what was saved when it was looked up:
the last failure of the run's own init hook, else the first failure of a worker since it began, else an
error of its own.  What it has come out with does not change. -/
theorem tp_run_reports (initial : NativeGlobals) (ls : List ServerLabel) (r : RunId) :
    ((processes initial).run ls).result r = (((processes initial).run ls).runs.get r).bind Run.expected ∧
      ∀ result, ((processes initial).run ls).result r = some result →
        ∀ later, ((processes initial).run (ls ++ later)).result r = some result := by
  constructor
  · unfold Process.result
    cases found : ((processes initial).run ls).runs.get r with
    | none => rfl
    | some run => exact (processes_sound initial ls).results r run found
  · intro result came later
    have kept : ∀ (p : Process) (label : ServerLabel), p.Sound initial ∧ p.result r = some result →
        ((processes initial).step p label).Sound initial ∧
          ((processes initial).step p label).result r = some result :=
      fun p label was => ⟨was.1.step label, was.1.result_step was.2 label⟩
    rw [Machine.run, Machine.runFrom_append]
    exact (Machine.invariantFrom kept later _ ⟨processes_sound initial ls, came⟩).2

/-- The native server fails, and then a worker, before the failures are read. -/
def lateFailure : List ServerLabel :=
  [.tpRun 7 mainContext { init := 1 }, .enable 0 true, .nativeReturn 0 false {},
    .threadInit false none (.ok 200) .ok, .readFailures 0]

/-- The worker's failure shows, and a second worker's does not. -/
theorem lateFailure_reported :
    ((processes {}).run (lateFailure ++ [.threadInit true (some 3) (.ok 200) .panicked, .restore 0, .finish 0])).result
      0 = some (.error Process.defaultInitFailed) :=
  (tp_run_reports {} lateFailure 0).2 _ (by decide +kernel) _

/-- **No trampoline is given a context that is gone.**  The one a poll extension's handler gets, and the
ones the main hooks get, are of the call of `tp_run` in progress, on its own thread and with its own
hooks; and in such a call they all find it. -/
theorem contexts_are_live (initial : NativeGlobals) (ls : List ServerLabel) (thread : ThreadId) (addr : Nat)
    (hook : Hook) :
    (mainExtensionContext ((processes initial).run ls).server thread = some addr ↔
        ∃ r run, ((processes initial).run ls).runs.get r = some run ∧ run.phase.inProgress = true ∧
          run.thread = thread ∧ run.ctx.addr = addr) ∧
      (((processes initial).run ls).serverInitHook = some (addr, hook) ↔
        ∃ r run, ((processes initial).run ls).runs.get r = some run ∧ run.phase.inProgress = true ∧
          run.hooks.init = hook ∧ run.ctx.addr = addr) ∧
      (((processes initial).run ls).rustServerDone = some (addr, hook) ↔
        ∃ r run, ((processes initial).run ls).runs.get r = some run ∧ run.phase.inProgress = true ∧
          run.hooks.done = some hook ∧ run.ctx.addr = addr) := by
  have sound := processes_sound initial ls
  rcases sound.split with free | ⟨r, run, found, going, held⟩
  · have nobody : ∀ r run, ((processes initial).run ls).runs.get r = some run →
        run.phase.inProgress = true → False := fun r run found inside =>
      run.ctx.named ((sound.held r run found inside).ctxAddr.symm.trans free.ctxAddr)
    refine ⟨?_, ?_, ?_⟩
    all_goals
      simp only [mainExtensionContext, Process.serverInitHook, Process.rustServerDone, free.ctxAddr, ne_eq,
        not_true, false_and, if_false, if_true, reduceCtorEq, false_iff]
      rintro ⟨r, run, found, inside, _⟩
      exact nobody r run found inside
  · have only : ∀ r' run', ((processes initial).run ls).runs.get r' = some run' →
        run'.phase.inProgress = true → run' = run := by
      intro r' run' found' inside
      obtain rfl := sound.alone r r' run run' found found' going inside
      exact Option.some.inj (found'.symm.trans found)
    have one : ∀ {P : Run → Prop}, (∃ r' run', ((processes initial).run ls).runs.get r' = some run' ∧
        run'.phase.inProgress = true ∧ P run') ↔ P run := by
      intro P
      constructor
      · rintro ⟨r', run', found', inside, holds⟩
        exact only r' run' found' inside ▸ holds
      · exact fun holds => ⟨r, run, found, going, holds⟩
    have named := run.ctx.named
    rw [one, one, one]
    refine ⟨?_, ?_, ?_⟩
    · simp [mainExtensionContext, held.ctxAddr, held.mainThreadId, named]
    · simp [Process.serverInitHook, held.ctxAddr, held.hooks.1, named, and_comm]
    · simp [Process.rustServerDone, held.ctxAddr, held.hooks.2.1, named, and_comm]

/-- **No handler outlives its `tp_run`.**  A handler a request is dispatched to was advertised in the call
of `tp_run` in progress, through the context of that call, by a `tpadvertise` that has not failed; and a
request delivered when there is none is failed with its own buffer. -/
theorem handlers_are_current (initial : NativeGlobals) (ls : List ServerLabel) (d : Dispatch) (raw : TPSVCINFO) :
    (∀ cb, d.services = some ((processes initial).run ls).server → d.handlerFor (.fromRaw raw) = some cb →
        ∃ r run, ((processes initial).run ls).runs.get r = some run ∧ run.phase.inProgress = true ∧
          (((processes initial).run ls).Advertised run raw.fname cb ∨
            ((processes initial).run ls).Advertised run raw.name cb)) ∧
      (d.runtime = some ((processes initial).run ls).server → ¬ ((processes initial).run ls).Active →
        rustServiceDispatch d (some raw) = failCurrentService raw) := by
  have sound := processes_sound initial ls
  refine ⟨fun cb looked found => ?_, fun looked idle => ?_⟩
  · simp only [Dispatch.handlerFor, looked, Option.bind_some, Option.or_eq_some_iff] at found
    have somewhere : ((processes initial).run ls).server.registry.services.get raw.fname = some cb ∨
        ((processes initial).run ls).server.registry.services.get raw.name = some cb := by
      rcases found with first | ⟨_, second⟩
      · split at first
        · exact .inr first
        · exact .inl first
      · exact .inr second
    rcases sound.split with free | ⟨r, run, there, going, held⟩
    · rcases somewhere with first | second
      · cases (free.services raw.fname).symm.trans first
      · cases (free.services raw.name).symm.trans second
    · refine ⟨r, run, there, going, ?_⟩
      exact somewhere.imp (held.services _ _) (held.services _ _)
  · have untaken : ((processes initial).run ls).server.ctxAddr = 0 :=
      not_not.1 fun taken => idle (sound.active_iff.2 taken)
    simp [rustServiceDispatch, Dispatch.inContext, looked, untaken]

theorem serverRun_handler :
    ∃ r run, ((processes {}).run serverRun).runs.get r = some run ∧ run.phase.inProgress = true ∧
      (((processes {}).run serverRun).Advertised run "SVC" 5 ∨
        ((processes {}).run serverRun).Advertised run "SVC" 5) :=
  (handlers_are_current {} serverRun
    { serving ⟨[], false⟩ with services := some ((processes {}).run serverRun).server } request).1 5 rfl
    (by decide +kernel)

end Endurox.Server
