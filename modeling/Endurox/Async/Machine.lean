/-
# Async.Machine -- tasks, polls and every interleaving

The futures `tpcall`, `tpacall` and `tpgetrply` return, cut at their await
points, and the machine whose labels are the things a single-threaded program
can do with one adapter: make a future, poll it with some waker, drop it, call
the synchronous methods, allocate and free reply buffers.  A run is any list of
labels, so a theorem about runs is about every interleaving and every answer of
the native layer.  A label that Rust's borrow rules exclude, or that names no
future, changes nothing.
-/
import Endurox.Theory.Run
import Endurox.Async.Adapter

namespace Endurox.Async

open Endurox.Theory AsyncAtmiCtx

set_option autoImplicit false

/-! ## Futures -/

inductive Op
  | tpcall (data : BufId) (flags : Flags)
  | tpacall (flags : Flags)
  | tpgetrply (cd : Cd) (data : BufId) (flags : Flags)
  deriving DecidableEq, Repr

/-- The descriptor the caller asked for. -/
def Op.cd : Op → Cd
  | .tpgetrply cd _ _ => cd
  | _ => 0

def Op.flags : Op → Flags
  | .tpcall _ flags | .tpacall flags | .tpgetrply _ _ flags => flags

/-- Whether the submission's slot belongs to the future that made it. -/
def Op.claimed : Op → Bool
  | .tpcall .. => true
  | _ => false

/-- The reply buffer the future borrows mutably. -/
def Op.data : Op → Option BufId
  | .tpcall data _ | .tpgetrply _ data _ => some data
  | .tpacall _ => none

/-- A future between polls. -/
inductive Fut
  | created (op : Op)
  | sending (op : Op) (deadline : Option Instant) (b : Backpressure)
  | waiting (op : Op) (w : Wait)
  deriving DecidableEq, Repr

def Fut.op : Fut → Op
  | .created op | .sending op _ _ | .waiting op _ => op

/-- What a poll returns; `cd` is the descriptor `tpacall` returns or `tpgetrply` writes back. -/
inductive Polled
  | pending (fut : Fut)
  | ready (cd : Cd) (result : AtmiResult Unit)

/-- The answers of one poll. -/
structure PollScript where
  waker : Waker
  clock : Clock := {}
  /-- The timer of a sleeping send has fired. -/
  slept : Bool := true
  send : SendScript := {}
  resends : List SendScript := []
  waits : List WaitScript := []
  finish : CancelScript := {}

namespace AsyncAtmiCtx

/-- The wait as it is left suspended, parked under `waker`. -/
def suspend (op : Op) (w : Wait) (waker : Waker) : StateM AsyncAtmiCtx Polled := do
  let s ← get
  return .pending (.waiting op { w with waker, mark := s.woken.length, seen := s.failures.length })

/-- `Drop for AsyncPendingCall`: `armed` until the reply was a success. -/
def dropPendingCall (own : Own) (cd : Cd) (armed : Bool) (script : CancelScript) :
    StateM AsyncAtmiCtx Unit := do
  if armed then
    let _ ← (tpcancel (.dropped own) cd script).run
  else modify (releaseSlot (.dropped own) cd)

/-- What drops with a wait that ends or is dropped. -/
def dropGuard (own : Own) (script : CancelScript) : Guard → StateM AsyncAtmiCtx Unit
  | .pendingCall cd => dropPendingCall own cd true script
  | .claim guard => modify (dropClaim guard)
  | .anyWaiter id => modify (deregisterAnyWaiter id)

/-- `tpcall` after its `await_reply` returned. -/
def finishCall (own : Own) (cd : Cd) (result : Collected) (script : CancelScript) :
    StateM AsyncAtmiCtx Polled := do
  let result := result.bind Prod.snd
  dropPendingCall own cd (result matches .error _) script
  return .ready cd result

/-- `tpgetrply` after its `await_reply` returned; `cd` is the caller's variable. -/
def finishGetrply (cd : Cd) (w : Wait) (result : Collected) (script : CancelScript) :
    StateM AsyncAtmiCtx Polled := do
  match result with
  | .error e =>
      dropGuard w.own script w.guard
      return .ready cd (.error e)
  | .ok (replied, outcome) =>
      modify (forgetDeadline replied)
      dropGuard w.own script w.guard
      return .ready replied outcome

/-- The future after its `await_reply` was polled. -/
def finishAwait (op : Op) (w : Wait) (script : PollScript) : Awaited → StateM AsyncAtmiCtx Polled
  | .suspended => suspend op w script.waker
  | .finished result =>
      match w.guard with
      | .pendingCall cd => finishCall w.own cd result script.finish
      | _ => finishGetrply op.cd w result script.finish

/-- The wait of a `tpcall` for its own descriptor: `TPNOBLOCK` affected only the send. -/
def callWait (submission : Submission) (data : BufId) (flags : Flags)
    (deadline : Option Instant) : Wait where
  target := .one submission.cd
  own := .call submission.generation
  guard := .pendingCall submission.cd
  data := data
  flags := { flags with noBlock := false }
  deadline := deadline
  cancelOnTimeout := false

/-- `tpcall` and `tpacall` after `submit`. -/
def afterSend (op : Op) (deadline : Option Instant) (script : PollScript) :
    Sending → StateM AsyncAtmiCtx Polled
  | .sleeping b _ => return .pending (.sending op deadline b)
  | .finished (.error e) => return .ready 0 (.error e)
  | .finished (.ok submission) =>
      match op with
      | .tpcall data flags => do
          let w := callWait submission data flags deadline
          finishAwait op w script (← awaitReply w script.waker script.waits)
      | _ => return .ready submission.cd (.ok ())

/-- `tpcall` and `tpacall` up to their first suspension. -/
def startSend (op : Op) (script : PollScript) : StateM AsyncAtmiCtx Polled := do
  let checked ← ExceptT.run <| do
    checkSupportedFlags op.flags
    if op.claimed then rejectTpnoreply op.flags
    deadlineFor op.flags script.clock
  match checked with
  | .error e => return .ready 0 (.error e)
  | .ok deadline =>
      let (priority, submission) ← modifyGet takePriority
      afterSend op deadline script
        (← sendWithBackpressure op.flags deadline op.claimed { priority, submission } script.send
          script.resends)

/-- The deadline a `tpgetrply` waits for. -/
def getrplyDeadline (cd : Cd) (flags : Flags) (clock : Clock) : Act (Option Instant) := do
  let s ← get
  if flags.getAny then
    match s.earliestDeadline with
    | some deadline => pure (some deadline)
    | none => deadlineFor flags clock
  else
    match s.peekDeadline cd with
    | some recorded => pure recorded
    | none => deadlineFor flags clock

/-- `tpgetrply` up to its `await_reply`: the registration or the claim. -/
def beginGetrply (cd : Cd) (data : BufId) (flags : Flags) (clock : Clock) : Act Wait := do
  checkSupportedFlags flags
  let deadline ← getrplyDeadline cd flags clock
  if flags.getAny then
    let id ← modifyGet registerAnyWaiter
    pure { target := .any id, own := .any id, guard := .anyWaiter id,
           data, flags, deadline, cancelOnTimeout := true }
  else
    let guard ← ofExcept (← modifyGet (claim cd))
    pure { target := .one cd, own := .waiter guard.id, guard := .claim guard,
           data, flags, deadline, cancelOnTimeout := true }

def startGetrply (cd : Cd) (data : BufId) (flags : Flags) (script : PollScript) :
    StateM AsyncAtmiCtx Polled := do
  match ← (beginGetrply cd data flags script.clock).run with
  | .error e => return .ready cd (.error e)
  | .ok w =>
      finishAwait (.tpgetrply cd data flags) w script
        (← awaitReply w script.waker script.waits)

/-- One poll of a future. -/
def poll (script : PollScript) : Fut → StateM AsyncAtmiCtx Polled
  | .created (.tpgetrply cd data flags) => startGetrply cd data flags script
  | .created op => startSend op script
  | .sending op deadline b => do
      if script.slept then
        afterSend op deadline script
          (← sendWithBackpressure op.flags deadline op.claimed b script.send script.resends)
      else return .pending (.sending op deadline b)
  | .waiting op w => do
      finishAwait op w script (← resumeReply w script.waker script.waits)

/-- Dropping a future between polls. -/
def dropFut (script : CancelScript) : Fut → StateM AsyncAtmiCtx Unit
  | .waiting _ w => dropGuard w.own script w.guard
  | _ => pure ()

/-- A caller's `tpalloc` into a new variable. -/
def allocData (id : BufId) (info : Option TpTypeInfo) (s : AsyncAtmiCtx) : AsyncAtmiCtx :=
  match s.buffers.get id with
  | some _ => s
  | none =>
      { s with
        live := s.live.set s.nextPtr info
        nextPtr := s.nextPtr + 1
        buffers := s.buffers.set id ⟨s.nextPtr, 0⟩ }

/-- A caller drops its buffer. -/
def freeData (id : BufId) (s : AsyncAtmiCtx) : AsyncAtmiCtx :=
  match s.buffers.get id with
  | some buf => freeBuf buf { s with buffers := s.buffers.del id }
  | none => s

/-- `try_tpacall`. -/
def tryTpacall (flags : Flags) (clock : Clock) (script : SendScript) : Act Submission := do
  checkSupportedFlags flags
  let deadline ← deadlineFor flags clock
  let (priority, submission) ← modifyGet takePriority
  modify (noteSend (.attempt submission false))
  let cd ← withSendPriority priority { flags with noBlock := true } script
  registerSubmission cd deadline false script.busyDrained

end AsyncAtmiCtx

/-! ## The machine -/

/-- The adapter and the futures that borrow it, by number; numbers are not reused. -/
structure World where
  shared : AsyncAtmiCtx := {}
  futures : Table Nat Fut := .empty
  nextFut : Nat := 0

inductive Label
  | allocData (id : BufId) (info : Option TpTypeInfo)
  | freeData (id : BufId)
  | make (op : Op)
  | poll (fut : Nat) (script : PollScript)
  | drop (fut : Nat) (script : CancelScript)
  | tpcancel (cd : Cd) (script : CancelScript)
  | tryTpacall (flags : Flags) (clock : Clock) (script : SendScript)
  | tpsprio (value : Int) (absolute : Bool)
  | tpsblktime (seconds : Int)
  /-- `context().tpsprio(..)`, the native setting. -/
  | contextTpsprio (value : Int) (absolute : Bool)

namespace World

/-- A future holds `&mut` on the buffer. -/
def borrowed (id : BufId) (world : World) : Bool :=
  world.futures.vals.any fun fut => fut.op.data = some id

/-- A future may be made: the buffer it borrows exists and nobody else has it. -/
def mayMake (op : Op) (world : World) : Bool :=
  op.data.all fun id => (world.shared.buffers.get id).isSome && !world.borrowed id

/-- Run an action on the shared state. -/
def act {α : Type} (m : StateM AsyncAtmiCtx α) (world : World) : World :=
  { world with shared := (m.run world.shared).2 }

def pollFut (fut : Nat) (state : Fut) (script : PollScript) (world : World) : World :=
  match (AsyncAtmiCtx.poll script state).run world.shared with
  | (.pending state, shared) => { world with shared, futures := world.futures.set fut state }
  | (.ready _ _, shared) => { world with shared, futures := world.futures.del fut }

def step (world : World) : Label → World
  | .allocData id info => world.act (modify (AsyncAtmiCtx.allocData id info))
  | .freeData id =>
      if world.borrowed id then world else world.act (modify (AsyncAtmiCtx.freeData id))
  | .make op =>
      if world.mayMake op then
        { world with
          futures := world.futures.set world.nextFut (.created op)
          nextFut := world.nextFut + 1 }
      else world
  | .poll fut script =>
      match world.futures.get fut with
      | some state => world.pollFut fut state script
      | none => world
  | .drop fut script =>
      match world.futures.get fut with
      | some state => { world.act (dropFut script state) with futures := world.futures.del fut }
      | none => world
  | .tpcancel cd script => world.act (AsyncAtmiCtx.tpcancel .cancelled cd script).run
  | .tryTpacall flags clock script => world.act (AsyncAtmiCtx.tryTpacall flags clock script).run
  | .tpsprio value absolute => world.act (modifyGet (AsyncAtmiCtx.tpsprio value absolute))
  | .tpsblktime seconds => world.act (tpsblktimeNext seconds none).run
  | .contextTpsprio value absolute => world.act (tpsprioNative value absolute none).run

end World

/-- Every run of a program on one adapter. -/
def machine : Machine World Label where
  init := {}
  step := World.step

end Endurox.Async
