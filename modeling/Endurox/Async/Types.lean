/-
# Async.Types -- the adapter's data

The state an `AsyncAtmiCtx` shares between its futures: the reply demux (slots,
spare buffers, `TPGETANY` registrations, deadlines), the one-shot priority, and
what the native context keeps (live allocations, the next-call block time).
Addresses are allocation identities: the native allocator never hands one out
twice, so "freed once" is a fact about a list.

Fields after `-- observation` are written and never read by the code: the
submission a slot tracks, where a parked outcome came from, the wakers woken and
the failures reported so far, what was freed and who held what, what became of
the priorities and block times, and a log of what happened.
-/
import Endurox.Theory.Table
import Endurox.Theory.Action

namespace Endurox.Async

open Endurox.Theory

set_option autoImplicit false

/-! ## Errors and flags -/

/-- XATMI error codes; `other` stands for every code the adapter does not name. -/
inductive Code
  | TPEBLOCK | TPEINVAL | TPELIMIT | TPEOS | TPEOTYPE | TPEPROTO | TPETIME
  | other (code : Int)
  deriving DecidableEq, Repr

structure AtmiError where
  code : Code
  message : String
  deriving DecidableEq, Repr

abbrev AtmiResult (α : Type) := Except AtmiError α

/-- The bits of a flags word the adapter looks at. -/
structure Flags where
  noBlock : Bool := false
  noReply : Bool := false
  noTime : Bool := false
  getAny : Bool := false
  noChange : Bool := false
  noAbort : Bool := false
  tranSuspend : Bool := false
  deriving DecidableEq, Repr

/-- A call descriptor (`i32`); Enduro/X numbers calls from 1. -/
abbrev Cd := Int

/-- Nanoseconds on the monotonic clock. -/
abbrev Instant := Nat

/-- What `Waker::will_wake` compares. -/
abbrev Waker := Nat

/-- An allocation; `0` is the null pointer. -/
abbrev Ptr := Nat

/-- A caller's `TypedBuffer` variable. -/
abbrev BufId := Nat

/-! ## Buffers, slots and waiters -/

structure TpTypeInfo where
  typeName : String
  subtype : String
  deriving DecidableEq, Repr

/-- A buffer held as a raw pointer with its reported length. -/
structure ParkedBuf where
  ptr : Ptr
  len : Nat
  deriving DecidableEq, Repr

def ParkedBuf.EMPTY : ParkedBuf := ⟨0, 0⟩

/-- The allocation a buffer owns, if any. -/
def ParkedBuf.owned (buf : ParkedBuf) : List Ptr := if buf.ptr = 0 then [] else [buf.ptr]

inductive ReplyClaim
  | call
  | waiter (id : Nat)
  deriving DecidableEq, Repr

/-- Observation: where a parked outcome came from.  A failure notes the claim the slot carried then. -/
inductive Origin
  | reply (report : Nat)
  | queueFailure (claim : Option ReplyClaim)
  deriving DecidableEq, Repr

/-- `generation` is an observation: slots made by different submissions differ in it. -/
inductive Slot
  | waiting (generation : Nat) (waker : Option Waker) (claim : Option ReplyClaim)
  | ready (generation : Nat) (origin : Origin) (outcome : AtmiResult Unit) (buf : ParkedBuf)
      (claim : Option ReplyClaim)

def Slot.generation : Slot → Nat
  | .waiting generation _ _ => generation
  | .ready generation _ _ _ _ => generation

def Slot.claim : Slot → Option ReplyClaim
  | .waiting _ _ claim => claim
  | .ready _ _ _ _ claim => claim

def Slot.isReady : Slot → Bool
  | .waiting .. => false
  | .ready .. => true

/-- A reply `TPGETANY` may take. -/
def Slot.isUnclaimedReply : Slot → Bool
  | .ready _ _ _ _ none => true
  | _ => false

def Slot.buf : Slot → ParkedBuf
  | .waiting .. => .EMPTY
  | .ready _ _ _ buf _ => buf

/-- The report parked in a slot, if its outcome is one. -/
def Slot.report : Slot → Option Nat
  | .ready _ (.reply report) _ _ _ => some report
  | _ => none

/-- A waiting slot nobody has claimed. -/
def Slot.isUnowned : Slot → Bool
  | .waiting _ _ none => true
  | _ => false

/-- `since`, how many failures came before it registered, is an observation. -/
structure AnyWaiter where
  waker : Option Waker := none
  error : Option AtmiError := none
  since : Nat := 0

inductive Target
  | one (cd : Cd)
  | any (id : Nat)
  deriving DecidableEq, Repr

structure SendPriority where
  value : Int
  absolute : Bool
  deriving DecidableEq, Repr

/-- Releases a waiter's claim: `ReplyClaimGuard`. -/
structure ReplyClaimGuard where
  cd : Cd
  id : Nat
  created : Bool
  deriving DecidableEq, Repr

/-! ## Observations -/

/-- The claim a waiting future obtained for itself: the submission it made, the
waiter identifier `claim` gave it, or a `TPGETANY` registration, which owns no slot. -/
inductive Own
  | call (generation : Nat)
  | waiter (id : Nat)
  | any (id : Nat)
  deriving DecidableEq, Repr

/-- The slot is `own`'s to collect: it carries that claim, or nobody's for `TPGETANY`. -/
def Slot.heldBy (slot : Slot) : Own → Prop
  | .call generation => slot.claim = some .call ∧ slot.generation = generation
  | .waiter id => slot.claim = some (.waiter id)
  | .any _ => slot.claim = none

instance (slot : Slot) : ∀ own, Decidable (slot.heldBy own)
  | .call _ => inferInstanceAs (Decidable (_ ∧ _))
  | .waiter _ => inferInstanceAs (Decidable (_ = _))
  | .any _ => inferInstanceAs (Decidable (_ = _))

/-- Why a slot was released. -/
inductive Cause
  | cancelled
  | dropped (own : Own)
  | timedOut (own : Own)
  | undone
  | abandoned
  deriving DecidableEq, Repr

inductive Event
  | submitted (generation : Nat) (cd : Cd) (deadline : Option Instant)
  | claimed (guard : ReplyClaimGuard)
  /-- A report for `cd`, and whether its slot already held an outcome. -/
  | reported (report : Nat) (cd : Cd) (occupied : Bool)
  | collected (own : Own) (cd : Cd) (slot : Slot) (refused : Bool)
  | waited (own : Own) (cd : Cd) (slot : Slot)
  | released (cause : Cause) (cd : Cd) (slot : Slot)
  | displaced (report : Nat) (cd : Cd)
  /-- A sent call is taken back, and whether its number's slot then held a reply. -/
  | undone (cd : Cd) (holding : Bool)

/-- A queue-level failure and what it found: the descriptors with an outcome parked, whether
`TPGETANY` could take one, and whether a slot was waiting for nobody. -/
structure Failure where
  err : AtmiError
  parked : List Cd
  collectable : Bool
  unowned : Bool
  deriving DecidableEq, Repr

/-- An outcome was parked for the target already. -/
def Failure.parkedFor (failure : Failure) : Target → Bool
  | .one cd => failure.parked.contains cd
  | .any _ => failure.collectable

/-- What became of the priorities; a submission and all its attempts have one number. -/
inductive SendEvent
  | set (priority : SendPriority)
  | begun (submission : Nat) (priority : Option SendPriority)
  | attempt (submission : Nat) (retry : Bool)
  | sent (priority : Option SendPriority)
  | resolved (submission : Nat) (priority : Int)
  deriving DecidableEq, Repr

/-! ## The shared state -/

/-- What the demux knows of outstanding calls. -/
structure Tracking where
  slots : Table Cd Slot := .empty
  deadlines : Table Cd (Option Instant) := .empty
  nextClaimId : Nat := 0
  -- observation
  nextGeneration : Nat := 0
  nextReport : Nat := 0
  log : List Event := []

/-- The `TPGETANY` registrations, the wakers woken and the failures reported so far. -/
structure Waking where
  anyWaiters : Table Nat AnyWaiter := .empty
  nextAnyId : Nat := 0
  -- observation
  woken : List Waker := []
  failures : List Failure := []

/-- Spare and lent buffers, the native allocations, and the callers' typed buffers. -/
structure Buffers where
  scratch : Option ParkedBuf := none
  orphans : List ParkedBuf := []
  /-- The local `buffer` of `drain_inner` while the native layer has it. -/
  lent : Option ParkedBuf := none
  /-- Every live allocation, with what `tptypes` reports of it if it succeeds. -/
  live : Table Ptr (Option TpTypeInfo) := .empty
  nextPtr : Ptr := 1
  buffers : Table BufId ParkedBuf := .empty
  -- observation
  freed : List Ptr := []
  /-- Who held what and what was live, whenever the native layer had a drain's buffer. -/
  observed : List (List Ptr × List Ptr) := []

/-- The adapter's one-shot priority, and the native context's. -/
structure Priorities where
  nextPriority : Option SendPriority := none
  priority : Option SendPriority := none
  -- observation
  sends : List SendEvent := []
  nextSubmission : Nat := 0

/-- The native context's next-call block time. -/
structure BlockTimes where
  blkNext : Int := 0

/-- The adapter: its demux and one-shot priority, and the native context's settings. -/
structure AsyncAtmiCtx extends Tracking, Waking, Buffers, Priorities, BlockTimes where
  draining : Bool := false

namespace AsyncAtmiCtx

def record (e : Event) (s : AsyncAtmiCtx) : AsyncAtmiCtx := { s with log := e :: s.log }

def noteSend (e : SendEvent) (s : AsyncAtmiCtx) : AsyncAtmiCtx := { s with sends := e :: s.sends }

def wake (wakers : List Waker) (s : AsyncAtmiCtx) : AsyncAtmiCtx :=
  { s with woken := s.woken ++ wakers }

/-! ## The native allocator -/

/-- `tpalloc`: a fresh allocation of length 0, or the native error. -/
def tpalloc (answer : AtmiResult (Option TpTypeInfo)) (s : AsyncAtmiCtx) :
    AtmiResult ParkedBuf × AsyncAtmiCtx :=
  match answer with
  | .error e => (.error e, s)
  | .ok info =>
      (.ok ⟨s.nextPtr, 0⟩, { s with live := s.live.set s.nextPtr info, nextPtr := s.nextPtr + 1 })

/-- `tpfree`. -/
def tpfree (ptr : Ptr) (s : AsyncAtmiCtx) : AsyncAtmiCtx :=
  { s with live := s.live.del ptr, freed := ptr :: s.freed }

def tptypes (ptr : Ptr) (s : AsyncAtmiCtx) : Option TpTypeInfo := (s.live.get ptr).join

/-- `ParkedBuf::free`. -/
def freeBuf (buf : ParkedBuf) (s : AsyncAtmiCtx) : AsyncAtmiCtx :=
  if buf.ptr = 0 then s else s.tpfree buf.ptr

/-! ## Where buffers are -/

def ownedBy (bufs : List ParkedBuf) : List Ptr := bufs.flatMap ParkedBuf.owned

def inSlots (s : AsyncAtmiCtx) : List Ptr := s.slots.gather fun _ slot => slot.buf.owned

def inScratch (s : AsyncAtmiCtx) : List Ptr := ownedBy s.scratch.toList

def inOrphans (s : AsyncAtmiCtx) : List Ptr := ownedBy s.orphans

def inDrain (s : AsyncAtmiCtx) : List Ptr := ownedBy s.lent.toList

def inCallers (s : AsyncAtmiCtx) : List Ptr := s.buffers.gather fun _ buf => buf.owned

/-- What the adapter holds between drains. -/
def adapterHeld (s : AsyncAtmiCtx) : List Ptr := s.inSlots ++ s.inScratch ++ s.inOrphans

def held (s : AsyncAtmiCtx) : List Ptr := s.adapterHeld ++ s.inDrain ++ s.inCallers

/-- Observation. -/
def observe (s : AsyncAtmiCtx) : AsyncAtmiCtx :=
  { s with observed := (s.held, s.live.keys) :: s.observed }

end AsyncAtmiCtx

end Endurox.Async
