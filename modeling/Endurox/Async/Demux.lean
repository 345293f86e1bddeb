/-
# Async.Demux -- `ReplyDemux`, operation by operation

Each definition is the function of that name on `ReplyDemux` in `async_atmi.rs`,
as a function of the shared state.  What the native layer answers is an
argument: the outcome of an allocation, and for each `tpgetrply` the descriptor,
the outcome and what became of the buffer lent to it.  A drain takes the list of
answers; when the list ends the queue is empty (`TPEBLOCK`).  `own` is the claim
of the future that acts, used only in what is recorded.
-/
import Endurox.Async.Types
import Mathlib.Algebra.Group.Nat.Defs

namespace Endurox.Async.AsyncAtmiCtx

open Endurox.Theory

set_option autoImplicit false

/-! ## Slots, claims and deadlines -/

/-- `register_fresh`, with the deadline `register_submission` records beside it. -/
def registerFresh (cd : Cd) (claimed : Bool) (s : AsyncAtmiCtx) : AsyncAtmiCtx :=
  { s with
    slots := s.slots.set cd
      (.waiting s.nextGeneration none (if claimed then some .call else none))
    nextGeneration := s.nextGeneration + 1 }

def isDescriptorBusy (cd : Cd) (s : AsyncAtmiCtx) : Bool := (s.slots.get cd).isSome

/-- `u64::MAX`. -/
def u64Max : Nat := 2 ^ 64 - 1

/-- The slot with its claim replaced. -/
def withClaim (claim : Option ReplyClaim) : Slot → Slot
  | .waiting generation waker _ => .waiting generation waker claim
  | .ready generation origin outcome buf _ => .ready generation origin outcome buf claim

def claim (cd : Cd) (s : AsyncAtmiCtx) : AtmiResult ReplyClaimGuard × AsyncAtmiCtx :=
  if s.nextClaimId = u64Max then (.error ⟨.TPELIMIT, "reply waiter identifiers exhausted"⟩, s)
  else
    let id := s.nextClaimId + 1
    match s.slots.get cd with
    | none =>
        (.ok ⟨cd, id, true⟩,
          record (.claimed ⟨cd, id, true⟩)
            { s with
              slots := s.slots.set cd (.waiting s.nextGeneration none (some (.waiter id)))
              nextGeneration := s.nextGeneration + 1
              nextClaimId := id })
    | some slot =>
        if slot.claim.isSome then
          (.error ⟨.TPEPROTO, "call descriptor already has a reply waiter"⟩, s)
        else
          (.ok ⟨cd, id, false⟩,
            record (.claimed ⟨cd, id, false⟩)
              { s with
                slots := s.slots.set cd (withClaim (some (.waiter id)) slot)
                nextClaimId := id })

def recordDeadline (cd : Cd) (deadline : Option Instant) (s : AsyncAtmiCtx) : AsyncAtmiCtx :=
  { s with deadlines := s.deadlines.set cd deadline }

def peekDeadline (cd : Cd) (s : AsyncAtmiCtx) : Option (Option Instant) := s.deadlines.get cd

def earliestDeadline (s : AsyncAtmiCtx) : Option Instant := (s.deadlines.vals.filterMap id).min?

def forgetDeadline (cd : Cd) (s : AsyncAtmiCtx) : AsyncAtmiCtx :=
  { s with deadlines := s.deadlines.del cd }

/-! ## Readiness and wakers -/

def isReady (cd : Cd) (s : AsyncAtmiCtx) : Bool := (s.slots.get cd).any Slot.isReady

/-- Observation: a reply is parked for `cd`. -/
def holdsReply (cd : Cd) (s : AsyncAtmiCtx) : Bool :=
  (s.slots.get cd).any fun slot => slot.report.isSome

/-- `any_unclaimed`; `preferred` is the hash map's choice among several. -/
def anyUnclaimed (preferred : Cd) (s : AsyncAtmiCtx) : Option Cd :=
  s.slots.findKey Slot.isUnclaimedReply preferred

def hasAnyError (id : Nat) (s : AsyncAtmiCtx) : Bool :=
  (s.anyWaiters.get id).any fun entry => entry.error.isSome

def isTargetReady (target : Target) (s : AsyncAtmiCtx) : Bool :=
  match target with
  | .one cd => s.isReady cd
  | .any id => (s.anyUnclaimed 0).isSome || s.hasAnyError id

def parkWaker (target : Target) (own : Own) (waker : Waker) (s : AsyncAtmiCtx) : AsyncAtmiCtx :=
  match target with
  | .one cd =>
      match s.slots.get cd with
      | some (.waiting generation existing claim) =>
          if existing = some waker then s
          else
            record (.waited own cd (.waiting generation existing claim))
              { s with slots := s.slots.set cd (.waiting generation (some waker) claim) }
      | _ => s
  | .any id =>
      match s.anyWaiters.get id with
      | some entry =>
          { s with anyWaiters := s.anyWaiters.set id { entry with waker := some waker } }
      | none => s

def wakeAnyWaiters (s : AsyncAtmiCtx) : AsyncAtmiCtx :=
  wake (s.anyWaiters.vals.filterMap AnyWaiter.waker)
    { s with anyWaiters := s.anyWaiters.mapVals fun entry => { entry with waker := none } }

def registerAnyWaiter (s : AsyncAtmiCtx) : Nat × AsyncAtmiCtx :=
  let id := (s.nextAnyId + 1) % 2 ^ 64
  (id, { s with
    nextAnyId := id, anyWaiters := s.anyWaiters.set id { since := s.failures.length } })

def deregisterAnyWaiter (id : Nat) (s : AsyncAtmiCtx) : AsyncAtmiCtx :=
  { s with anyWaiters := s.anyWaiters.del id }

def takeAnyError (id : Nat) (s : AsyncAtmiCtx) : Option AtmiError × AsyncAtmiCtx :=
  match s.anyWaiters.get id with
  | some entry =>
      (entry.error, { s with anyWaiters := s.anyWaiters.set id { entry with error := none } })
  | none => (none, s)

/-- `Drop for ReplyClaimGuard`. -/
def dropClaim (guard : ReplyClaimGuard) (s : AsyncAtmiCtx) : AsyncAtmiCtx :=
  match s.slots.get guard.cd with
  | some slot =>
      if slot.claim = some (.waiter guard.id) then
        match slot with
        | .waiting generation _ _ =>
            if guard.created then
              record (.released .abandoned guard.cd slot)
                { s with slots := s.slots.del guard.cd }
            else
              wakeAnyWaiters
                { s with slots := s.slots.set guard.cd (.waiting generation none none) }
        | .ready .. => wakeAnyWaiters { s with slots := s.slots.set guard.cd (withClaim none slot) }
      else s
  | none => s

/-- `deregister`: the buffer is the caller's to free. -/
def deregister (cause : Cause) (cd : Cd) (s : AsyncAtmiCtx) : ParkedBuf × AsyncAtmiCtx :=
  match s.slots.get cd with
  | some slot => (slot.buf, record (.released cause cd slot) { s with slots := s.slots.del cd })
  | none => (.EMPTY, s)

/-! ## Handing replies over -/

/-- `stash`. -/
def stash (buf : ParkedBuf) (s : AsyncAtmiCtx) : AsyncAtmiCtx :=
  if buf.ptr = 0 then s
  else if s.scratch.isNone then { s with scratch := some buf }
  else { s with orphans := s.orphans ++ [buf] }

/-- The caller's buffer variable. -/
def data (id : BufId) (s : AsyncAtmiCtx) : ParkedBuf := (s.buffers.get id).getD .EMPTY

/-- The `TPNOCHANGE` check of `hand_over`: its message when the types are known and differ. -/
def refusal (buf : ParkedBuf) (id : BufId) (flags : Flags) (s : AsyncAtmiCtx) : Option String :=
  if buf.ptr ≠ 0 ∧ flags.noChange then
    match s.tptypes buf.ptr, s.tptypes (s.data id).ptr with
    | some got, some want =>
        if got.typeName ≠ want.typeName ∨ got.subtype ≠ want.subtype then
          some ("TPNOCHANGE: receiver expects " ++ want.typeName ++ "/" ++ want.subtype ++
            " but got " ++ got.typeName ++ "/" ++ got.subtype ++ " buffer")
        else none
    | _, _ => none
  else none

def handOver (outcome : AtmiResult Unit) (buf : ParkedBuf) (id : BufId) (flags : Flags)
    (s : AsyncAtmiCtx) : AtmiResult Unit × AsyncAtmiCtx :=
  if buf.ptr = 0 then (outcome, s)
  else
    match s.refusal buf id flags with
    | some message => (.error ⟨.TPEOTYPE, message⟩, s.stash buf)
    | none =>
        let previous := s.data id
        (outcome, stash previous { s with buffers := s.buffers.set id buf })

def takeReady (target : Target) (own : Own) (id : BufId) (flags : Flags) (preferred : Cd)
    (s : AsyncAtmiCtx) : Option (Cd × AtmiResult Unit) × AsyncAtmiCtx :=
  let found := match target with
    | .one cd => if s.isReady cd then some cd else none
    | .any _ => s.anyUnclaimed preferred
  match found with
  | none => (none, s)
  | some cd =>
      match s.slots.get cd with
      | some (.ready generation origin outcome buf claim) =>
          let slot := .ready generation origin outcome buf claim
          let refused := (s.refusal buf id flags).isSome
          let (result, s) := handOver outcome buf id flags
            (record (.collected own cd slot refused) { s with slots := s.slots.del cd })
          (some (cd, result), s)
      | _ => (none, s)

/-! ## Draining the queue -/

/-- What the native layer does to the buffer it was lent. -/
inductive Received
  | kept
  | moved (info : Option TpTypeInfo)
  | gone
  deriving DecidableEq, Repr

/-- One native `tpgetrply(TPGETANY|TPNOBLOCK)`, and the allocation before it. -/
structure NativeReply where
  alloc : AtmiResult (Option TpTypeInfo) := .ok (some ⟨"CARRAY", ""⟩)
  cd : Cd := 0
  outcome : AtmiResult Unit := .error ⟨.TPEBLOCK, ""⟩
  buffer : Received := .kept
  len : Nat := 0

def takeScratch (alloc : AtmiResult (Option TpTypeInfo)) (s : AsyncAtmiCtx) :
    AtmiResult ParkedBuf × AsyncAtmiCtx :=
  match s.scratch with
  | some buf => (.ok buf, { s with scratch := none, lent := some buf })
  | none =>
      match s.tpalloc alloc with
      | (.ok buf, s) => (.ok buf, { s with lent := some buf })
      | (.error e, s) => (.error e, s)

/-- A native `tpgetrply` uses up the next-call block time. -/
def consumeNext (s : AsyncAtmiCtx) : AsyncAtmiCtx := { s with blkNext := 0 }

/-- `AtmiCtx::tpgetrply`: the native layer may move or take the buffer on every path. -/
def tpgetrply (reply : NativeReply) (buf : ParkedBuf) (s : AsyncAtmiCtx) :
    ParkedBuf × AsyncAtmiCtx :=
  let s := s.consumeNext
  match reply.buffer with
  | .kept => let buf := ⟨buf.ptr, reply.len⟩; (buf, { s with lent := some buf })
  | .moved info =>
      let buf' := ⟨s.nextPtr, reply.len⟩
      let s := s.freeBuf buf
      (buf', { s with
        live := s.live.set s.nextPtr info, nextPtr := s.nextPtr + 1, lent := some buf' })
  | .gone => let s := s.freeBuf buf; (⟨0, reply.len⟩, { s with lent := none })

def slotWaker : Slot → Option Waker
  | .waiting _ waker _ => waker
  | .ready .. => none

def route (cd : Cd) (outcome : AtmiResult Unit) (buf : ParkedBuf) (s : AsyncAtmiCtx) :
    AsyncAtmiCtx :=
  let report := s.nextReport
  let s := record (.reported report cd (s.isReady cd)) { s with nextReport := report + 1 }
  match s.slots.get cd with
  | some (.waiting generation waker claim) =>
      wakeAnyWaiters (wake waker.toList
        { s with slots := s.slots.set cd (.ready generation (.reply report) outcome buf claim) })
  | some (.ready ..) => record (.displaced report cd) (s.stash buf)
  | none =>
      wakeAnyWaiters
        { s with
          slots := s.slots.set cd (.ready s.nextGeneration (.reply report) outcome buf none)
          nextGeneration := s.nextGeneration + 1 }

/-- What a queue-level failure turns a slot into. -/
def failWaiting (err : AtmiError) : Slot → Slot
  | .waiting generation _ claim => .ready generation (.queueFailure claim) (.error err) .EMPTY claim
  | slot => slot

/-- Observation. -/
def failureOf (err : AtmiError) (s : AsyncAtmiCtx) : Failure where
  err
  parked := s.slots.keys.filter (s.isReady ·)
  collectable := (s.anyUnclaimed 0).isSome
  unowned := s.slots.vals.any Slot.isUnowned

def failAllWaiting (err : AtmiError) (s : AsyncAtmiCtx) : AsyncAtmiCtx :=
  let wakers := s.slots.vals.filterMap slotWaker
  wakeAnyWaiters (wake wakers
    { s with
      anyWaiters := s.anyWaiters.mapVals fun entry => { entry with error := some err }
      slots := s.slots.mapVals (failWaiting err)
      failures := s.failureOf err :: s.failures })

/-- The rest of one round of `drain_inner`, once the native layer has returned the buffer:
whether the loop goes on. -/
def settle (reply : NativeReply) (buf : ParkedBuf) (s : AsyncAtmiCtx) : Bool × AsyncAtmiCtx :=
  let s := { s with lent := none }
  match reply.outcome with
  | .error err =>
      if err.code = .TPEBLOCK then (false, s.stash buf)
      else if 0 < reply.cd then (true, s.route reply.cd reply.outcome buf)
      else (false, failAllWaiting err (s.stash buf))
  | .ok () =>
      if 0 < reply.cd then (true, s.route reply.cd reply.outcome buf)
      else (false, s.stash buf)

/-- One round of the loop in `drain_inner`. -/
def drainRound (reply : NativeReply) (s : AsyncAtmiCtx) : Bool × AsyncAtmiCtx :=
  match s.takeScratch reply.alloc with
  | (.error err, s) => (false, s.failAllWaiting err)
  | (.ok buffer, s) =>
      let received := s.observe.tpgetrply reply buffer
      received.2.observe.settle reply received.1

def drainInner : List NativeReply → AsyncAtmiCtx → AsyncAtmiCtx
  | [], s => (s.drainRound {}).2
  | reply :: replies, s =>
      match s.drainRound reply with
      | (true, s) => drainInner replies s
      | (false, s) => s

def drain (replies : List NativeReply) (s : AsyncAtmiCtx) : AsyncAtmiCtx :=
  if s.draining then s
  else { drainInner replies { s with draining := true } with draining := false }

/-- `release`: frees every buffer still held, before the context goes. -/
def release (s : AsyncAtmiCtx) : AsyncAtmiCtx :=
  let s := (s.slots.vals.map Slot.buf).foldl (fun s buf => s.freeBuf buf) { s with slots := .empty }
  let s := s.scratch.toList.foldl (fun s buf => s.freeBuf buf) { s with scratch := none }
  s.orphans.foldl (fun s buf => s.freeBuf buf) { s with orphans := [] }

end Endurox.Async.AsyncAtmiCtx
