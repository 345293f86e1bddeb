/-
# Async.Adapter -- `AsyncAtmiCtx`, up to its suspension points

The methods of `AsyncAtmiCtx` in `async_atmi.rs`, as actions on the shared
state.  Native calls take their answers from a script, one field a call in the
order the code makes them; a call answered `some error` fails and changes
nothing.  An `async fn` is cut where it suspends: `sendWithBackpressure` ends
`sleeping`, `awaitReply` ends `suspended`, and the machine in `Async.Machine`
resumes them.
-/
import Endurox.Async.Demux

namespace Endurox.Async

open Endurox.Theory

set_option autoImplicit false

abbrev Act := Fallible AtmiError AsyncAtmiCtx

/-- A native call that succeeds or reports `failure`. -/
def native (failure : Option AtmiError) : Act Unit :=
  match failure with
  | none => pure ()
  | some e => throw e

namespace AsyncAtmiCtx

/-! ## Flags, deadlines and releasing a slot -/

def unsupportedMessage (name : String) : String :=
  name ++ " cannot be honoured per call by the async reply demux," ++
    "                          because one drain collects replies for several descriptors;" ++
    "                          use the blocking API for this call"

def checkSupportedFlags (flags : Flags) : Act Unit :=
  if flags.noAbort then throw ⟨.TPEINVAL, unsupportedMessage "TPNOABORT"⟩
  else if flags.tranSuspend then throw ⟨.TPEINVAL, unsupportedMessage "TPTRANSUSPEND"⟩
  else pure ()

def rejectTpnoreply (flags : Flags) : Act Unit :=
  if flags.noReply then throw ⟨.TPEINVAL, "TPNOREPLY cannot be used with tpcall()"⟩ else pure ()

/-- Nanoseconds in a second. -/
def second : Nat := 1000000000

/-- `Instant::checked_add`: the clock counts seconds in an `i64`. -/
def checkedAdd (now : Instant) (seconds : Nat) : Option Instant :=
  if now + seconds * second < 2 ^ 63 * second then some (now + seconds * second) else none

/-- The answers `reply_deadline` reads: the timeout in force when no next-call block time is
set (or the failure of `tpgblktime(0)`), and the clock. -/
structure Clock where
  blktime : AtmiResult Int := .ok 0
  now : Instant := 0

/-- `tpgblktime(0)`: a next-call block time comes before the context's own. -/
def effectiveTimeout (fallback : Int) (s : AsyncAtmiCtx) : Int :=
  if s.blkNext ≠ 0 then s.blkNext else fallback

def replyDeadline (clock : Clock) : Act (Option Instant) := do
  let fallback ← ofExcept clock.blktime
  let s ← get
  if s.effectiveTimeout fallback ≤ 0 then pure none
  else match checkedAdd clock.now (s.effectiveTimeout fallback).toNat with
    | none => throw ⟨.TPEINVAL, "Enduro/X call timeout exceeds Instant range"⟩
    | some deadline => pure (some deadline)

def deadlineFor (flags : Flags) (clock : Clock) : Act (Option Instant) :=
  if flags.noTime then pure none else replyDeadline clock

/-- `release_slot`: forget the deadline, remove the slot, free its buffer. -/
def releaseSlot (cause : Cause) (cd : Cd) (s : AsyncAtmiCtx) : AsyncAtmiCtx :=
  let removed := (s.forgetDeadline cd).deregister cause cd
  removed.2.freeBuf removed.1

/-- The answer of a native `tpcancel` and of the drain after it. -/
structure CancelScript where
  failure : Option AtmiError := none
  drained : List NativeReply := []

/-- The adapter's `tpcancel`. -/
def tpcancel (cause : Cause) (cd : Cd) (script : CancelScript) : Act Unit := do
  modify (releaseSlot cause cd)
  let result ← outcomeOf (native script.failure)
  modify (drain script.drained)
  modify wakeAnyWaiters
  ofExcept result

/-! ## Submission -/

def sendPriorityNew (value : Int) (absolute : Bool) : AtmiResult SendPriority :=
  if absolute ∧ ¬ (1 ≤ value ∧ value ≤ 100) ∨ ¬ absolute ∧ ¬ (-100 ≤ value ∧ value ≤ 100) then
    .error ⟨.TPEINVAL, "invalid message priority or flags"⟩
  else .ok ⟨value, absolute⟩

/-- The adapter's `tpsprio`: the setting waits for the next submission. -/
def tpsprio (value : Int) (absolute : Bool) (s : AsyncAtmiCtx) : AtmiResult Unit × AsyncAtmiCtx :=
  match sendPriorityNew value absolute with
  | .error e => (.error e, s)
  | .ok priority => (.ok (), noteSend (.set priority) { s with nextPriority := some priority })

/-- `next_priority.take()`, and the number of the submission that takes it. -/
def takePriority (s : AsyncAtmiCtx) : (Option SendPriority × Nat) × AsyncAtmiCtx :=
  ((s.nextPriority, s.nextSubmission),
    noteSend (.begun s.nextSubmission s.nextPriority)
      { s with nextPriority := none, nextSubmission := s.nextSubmission + 1 })

/-- The native answers of one send attempt, in the order the code asks for them. -/
structure SendScript where
  /-- The clock at the deadline check of `send_with_backpressure`. -/
  now : Instant := 0
  /-- The clock in `retry_tpacall`. -/
  retryNow : Instant := 0
  getNext : Option AtmiError := none
  setNext : Option AtmiError := none
  setPriority : Option AtmiError := none
  /-- `tpacall`: the descriptor less one, since descriptors start at 1. -/
  sent : AtmiResult Nat := .ok 0
  /-- A failing `tpacall` came as far as the queue, which consumes the priority. -/
  routed : Bool := true
  clearPriority : Option AtmiError := none
  undoPriority : CancelScript := {}
  restoreNext : Option AtmiError := none
  undoNext : CancelScript := {}
  /-- After a full queue: `tpgprio`, and saving the block time around a drain. -/
  sentPriority : AtmiResult Int := .ok 0
  saveNext : Option AtmiError := none
  drained : List NativeReply := []
  putBackNext : Option AtmiError := none
  /-- The drain after cancelling a number that is still tracked. -/
  busyDrained : List NativeReply := []
  /-- The clock when the wait for queue space begins. -/
  blockedAt : Instant := 0

/-- The native submission consumes the priority: it succeeds, or fails at the queue. -/
def SendScript.consumes (script : SendScript) : Bool := script.routed || script.sent.isOk

/-- The native `tpacall`: it consumes the next-call block time, sent or not, and answers 0
under `TPNOREPLY`. -/
def tpacallNative (flags : Flags) (script : SendScript) : Act Cd := do
  modify fun s => noteSend (.sent s.priority)
    { s with blkNext := 0, priority := if script.consumes then none else s.priority }
  match script.sent with
  | .error e => throw e
  | .ok n => pure (if flags.noReply then 0 else (n + 1 : Nat))

/-- The native `tpsprio`: priority 0 without `TPABSOLUTE` clears the setting. -/
def tpsprioNative (value : Int) (absolute : Bool) (failure : Option AtmiError) : Act Unit := do
  native failure
  modify fun s =>
    { s with priority := if value = 0 ∧ ¬ absolute then none else some ⟨value, absolute⟩ }

/-- The native `tpgblktime(TPBLK_NEXT)`. -/
def tpgblktimeNext (failure : Option AtmiError) : Act Int := do
  native failure
  let s ← get
  pure s.blkNext

/-- The native `tpsblktime(seconds, TPBLK_NEXT)`. -/
def tpsblktimeNext (seconds : Int) (failure : Option AtmiError) : Act Unit := do
  native failure
  modify fun s => { s with blkNext := seconds }

/-- Cancel a call the native layer accepted before a later step of its submission failed. -/
def undoSend (result : AtmiResult Cd) (script : CancelScript) : StateM AsyncAtmiCtx Unit := do
  match result with
  | .ok cd =>
      if 0 < cd then
        modify fun s => record (.undone cd (s.holdsReply cd)) s
        let _ ← (tpcancel .undone cd script).run
  | .error _ => pure ()

def withSendPriority (priority : Option SendPriority) (flags : Flags) (script : SendScript) :
    Act Cd := do
  match priority with
  | none => tpacallNative flags script
  | some priority =>
      tpsprioNative priority.value priority.absolute script.setPriority
      let result ← outcomeOf (tpacallNative flags script)
      let cleared ← outcomeOf (tpsprioNative 0 false script.clearPriority)
      match cleared with
      | .error e =>
          undoSend result script.undoPriority
          throw e
      | .ok () => ofExcept result

/-- Whole seconds left until the deadline, rounded up; 0 when there is none. -/
def remainingSeconds (deadline : Option Instant) (now : Instant) : Act Int :=
  match deadline with
  | none => pure 0
  | some deadline =>
      if deadline - now = 0 then throw ⟨.TPETIME, "async send wait timed out"⟩
      else pure (min ((deadline - now + (second - 1)) / second) (2 ^ 31 - 1) : Nat)

def retryTpacall (flags : Flags) (deadline : Option Instant) (priority : Int)
    (script : SendScript) : Act Cd := do
  let seconds ← remainingSeconds deadline script.retryNow
  let next ← tpgblktimeNext script.getNext
  tpsblktimeNext seconds script.setNext
  let result ← outcomeOf (withSendPriority (some ⟨priority, true⟩) flags script)
  let restored ← outcomeOf (tpsblktimeNext next script.restoreNext)
  match restored with
  | .error e =>
      undoSend result script.undoNext
      throw e
  | .ok () => ofExcept result

/-- A registered submission; `generation` is an observation. -/
structure Submission where
  cd : Cd
  generation : Nat
  deriving DecidableEq, Repr

def registerSubmission (cd : Cd) (deadline : Option Instant) (claimed : Bool)
    (busyDrained : List NativeReply) : Act Submission := do
  let s ← get
  if 0 < cd ∧ s.isDescriptorBusy cd then
    modify (drain busyDrained)
    modify wakeAnyWaiters
    throw ⟨.TPELIMIT, "call descriptor is still tracked by an earlier call; collect or " ++
      "cancel that one before issuing another request"⟩
  else if 0 < cd then
    modify fun s => record (.submitted s.nextGeneration cd deadline)
      ((s.registerFresh cd claimed).recordDeadline cd deadline)
    pure ⟨cd, s.nextGeneration⟩
  else pure ⟨cd, s.nextGeneration⟩

/-- Route replies while a full queue keeps us from sending, keeping the next-call block
time another task may have set. -/
def relieve (script : SendScript) : Act Unit := do
  let next ← tpgblktimeNext script.saveNext
  modify (drain script.drained)
  modify wakeAnyWaiters
  tpsblktimeNext next script.putBackNext

/-- The state of a `send_with_backpressure` loop between attempts; its number is an observation. -/
structure Backpressure where
  priority : Option SendPriority
  submission : Nat
  delay : Nat := 1000000
  retry : Bool := false
  retryPriority : Option Int := none
  deriving DecidableEq, Repr

/-- `expect("a retry follows a blocked send")`: a panic leaves through the same drops. -/
def retryWithoutPriority : AtmiError := ⟨.other 0, "a retry follows a blocked send"⟩

/-- `tpgprio` reports what a blocked first send resolved its priority to; retries use that. -/
def resolvePriority (b : Backpressure) (script : SendScript) : Act (Option Int) := do
  if b.retry then pure b.retryPriority
  else
    let priority ← ofExcept script.sentPriority
    modify (noteSend (.resolved b.submission priority))
    pure (some priority)

/-- The closure `submit` passes to `send_with_backpressure`. -/
def attemptSend (flags : Flags) (deadline : Option Instant) (claimed : Bool) (b : Backpressure)
    (script : SendScript) : StateM AsyncAtmiCtx (AtmiResult Submission × Option Int) := do
  let sendFlags := { flags with noBlock := true }
  modify (noteSend (.attempt b.submission b.retry))
  let result ← ExceptT.run <|
    if b.retry then
      match b.retryPriority with
      | some priority => retryTpacall sendFlags deadline priority script
      | none => throw retryWithoutPriority
    else withSendPriority b.priority sendFlags script
  match result with
  | .ok cd =>
      let registered ← (registerSubmission cd deadline claimed script.busyDrained).run
      pure (registered, b.retryPriority)
  | .error e =>
      if e.code = .TPEBLOCK ∧ ¬ flags.noBlock then
        match ← (resolvePriority b script).run with
        | .error failure => pure (.error failure, b.retryPriority)
        | .ok retryPriority =>
            match ← (relieve script).run with
            | .error failure => pure (.error failure, retryPriority)
            | .ok () => pure (.error e, retryPriority)
      else pure (.error e, b.retryPriority)

/-- How a poll leaves a send: waiting for queue space, or over. -/
inductive Sending
  | sleeping (b : Backpressure) (wake : Instant)
  | finished (result : AtmiResult Submission)

/-- 16 ms. -/
def maxDelay : Nat := 16000000

/-- `send_with_backpressure` from the loop head: one script an attempt; a timer that has
not fired when the scripts end leaves the future sleeping. -/
def sendWithBackpressure (flags : Flags) (deadline : Option Instant) (claimed : Bool) :
    Backpressure → SendScript → List SendScript → StateM AsyncAtmiCtx Sending
  | b, script, more => do
      if deadline.any (· ≤ script.now) then
        return .finished (.error ⟨.TPETIME, "async send wait timed out"⟩)
      let (result, retryPriority) ← attemptSend flags deadline claimed b script
      match result with
      | .ok submission => return .finished (.ok submission)
      | .error e =>
          if e.code = .TPEBLOCK ∧ ¬ flags.noBlock then
            let wake := script.blockedAt + b.delay
            let b := { b with delay := min (b.delay * 2) maxDelay, retry := true, retryPriority }
            match more with
            | [] => return .sleeping b (deadline.elim wake (min · wake))
            | script :: more => sendWithBackpressure flags deadline claimed b script more
          else return .finished (.error e)

/-! ## Waiting for a reply -/

/-- What `wait_for_wake` and the loop around it read: the hash map's choices, the replies of
each drain, the reply descriptor, and the answers of a cancellation. -/
inductive WakeScript
  | pending
  | readable
  | failed (message : String)
  | timer (now : Instant)

structure WaitScript where
  firstChoice : Cd := 0
  before : List NativeReply := []
  secondChoice : Cd := 0
  wake : WakeScript := .pending
  after : List NativeReply := []
  thirdChoice : Cd := 0
  cancel : CancelScript := {}

/-- What drops with a waiting future. -/
inductive Guard
  | pendingCall (cd : Cd)
  | claim (guard : ReplyClaimGuard)
  | anyWaiter (id : Nat)
  deriving DecidableEq, Repr

/-- A `tpcall` or `tpgetrply` inside `await_reply`.  The last fields are observations: the
waker of the last poll, and how many wakes and failures there had been by then. -/
structure Wait where
  target : Target
  own : Own
  guard : Guard
  data : BufId
  flags : Flags
  deadline : Option Instant
  cancelOnTimeout : Bool
  waker : Waker := 0
  mark : Nat := 0
  seen : Nat := 0
  deriving DecidableEq, Repr

def Wait.take (w : Wait) (choice : Cd) : StateM AsyncAtmiCtx (Option (Cd × AtmiResult Unit)) :=
  modifyGet (takeReady w.target w.own w.data w.flags choice)

abbrev Collected := AtmiResult (Cd × AtmiResult Unit)

/-- The loop of `await_reply` down to its await: a result, or nothing yet. -/
def tryCollect (w : Wait) (script : WaitScript) : StateM AsyncAtmiCtx (Option Collected) := do
  if let some ready ← w.take script.firstChoice then return some (.ok ready)
  modify (drain script.before)
  if let some ready ← w.take script.secondChoice then return some (.ok ready)
  if let .any id := w.target then
    if let some err ← modifyGet (takeAnyError id) then return some (.error err)
  if w.flags.noBlock then
    return some (.error ⟨.TPEBLOCK, "TPNOBLOCK was specified and no reply is available"⟩)
  return none

inductive Wake
  | progress
  | timeout
  deriving DecidableEq, Repr

def driverError (message : String) : AtmiError :=
  ⟨.TPEOS, "async wait on Enduro/X reply queue failed: " ++ message⟩

/-- One poll of `wait_for_wake`; `none` is `Pending`. -/
def waitForWake (w : Wait) (waker : Waker) (script : WakeScript) :
    StateM AsyncAtmiCtx (Option (AtmiResult Wake)) := do
  modify (parkWaker w.target w.own waker)
  let s ← get
  if s.isTargetReady w.target then return some (.ok .progress)
  match script with
  | .pending => return none
  | .readable => return some (.ok .progress)
  | .failed message => return some (.error (driverError message))
  | .timer now => return if w.deadline.any (· ≤ now) then some (.ok .timeout) else none

inductive Woken
  | pending
  | again
  | finished (result : Collected)

/-- The loop of `await_reply` from its await to the end of its body. -/
def afterWake (w : Wait) (waker : Waker) (script : WaitScript) : StateM AsyncAtmiCtx Woken := do
  match ← waitForWake w waker script.wake with
  | none => return .pending
  | some (.error e) => return .finished (.error e)
  | some (.ok .progress) =>
      modify (drain script.after)
      match ← w.take script.thirdChoice with
      | some ready => return .finished (.ok ready)
      | none => return .again
  | some (.ok .timeout) =>
      modify (drain script.after)
      match ← w.take script.thirdChoice with
      | some ready => return .finished (.ok ready)
      | none =>
          if let .one cd := w.target then
            if w.cancelOnTimeout then
              let _ ← (tpcancel (.timedOut w.own) cd script.cancel).run
            else modify (releaseSlot (.timedOut w.own) cd)
          return .finished (.error ⟨.TPETIME, "async reply wait timed out"⟩)

inductive Awaited
  | suspended
  | finished (result : Collected)

/-- `await_reply` from its loop head: one script an iteration.  When they end, the future
waits; `afterWake_quiet` in `Async.Effects` is why it has nothing to do then. -/
def awaitReply (w : Wait) (waker : Waker) : List WaitScript → StateM AsyncAtmiCtx Awaited
  | [] => do
      match ← tryCollect w {} with
      | some result => return .finished result
      | none => match ← afterWake w waker {} with
        | .finished result => return .finished result
        | _ => return .suspended
  | script :: more => do
      match ← tryCollect w script with
      | some result => return .finished result
      | none => match ← afterWake w waker script with
        | .pending => return .suspended
        | .finished result => return .finished result
        | .again => awaitReply w waker more

/-- `await_reply` resumed at its await. -/
def resumeReply (w : Wait) (waker : Waker) : List WaitScript → StateM AsyncAtmiCtx Awaited
  | [] => do
      match ← afterWake w waker {} with
      | .pending => return .suspended
      | .finished result => return .finished result
      | .again => awaitReply w waker []
  | script :: more => do
      match ← afterWake w waker script with
      | .pending => return .suspended
      | .finished result => return .finished result
      | .again => awaitReply w waker more

end AsyncAtmiCtx

end Endurox.Async
