/-
# Async.OneShot -- the one-shot settings between submissions

The pending priority and the next-call block time are settings of the whole
adapter.  `Undisturbed` says what drains, waits, cancellations and drops do to them,
which is everything but a send: the priorities are untouched, and the block time
is untouched unless a native `tpgetrply` uses it up.
-/
import Endurox.Async.Reachable

namespace Endurox.Async

open Endurox.Theory AsyncAtmiCtx

set_option autoImplicit false

/-! ## Operations that leave both alone -/

namespace AsyncAtmiCtx

def settings (s : AsyncAtmiCtx) : Priorities × BlockTimes := (s.toPriorities, s.toBlockTimes)

@[simp] theorem stash_settings (buf : ParkedBuf) (s : AsyncAtmiCtx) :
    (s.stash buf).settings = s.settings := by
  unfold stash
  split
  · rfl
  · split <;> rfl

@[simp] theorem freeBuf_settings (buf : ParkedBuf) (s : AsyncAtmiCtx) :
    (s.freeBuf buf).settings = s.settings := by
  unfold freeBuf
  split <;> rfl

/-- What is handed over to a caller changes buffers only. -/
@[simp] theorem handOver_settings (outcome : AtmiResult Unit) (buf : ParkedBuf) (id : BufId)
    (flags : Flags) (s : AsyncAtmiCtx) :
    (handOver outcome buf id flags s).2.settings = s.settings := by
  unfold handOver
  split
  · rfl
  · split <;> exact stash_settings _ _

/-- A drain gets its buffer, or fails to. -/
@[simp] theorem takeScratch_settings (alloc : AtmiResult (Option TpTypeInfo)) (s : AsyncAtmiCtx) :
    (s.takeScratch alloc).2.settings = s.settings := by
  unfold takeScratch tpalloc
  cases s.scratch with
  | some buf => rfl
  | none => cases alloc <;> rfl

/-- A released descriptor takes its slot and its deadline along, no setting. -/
@[simp] theorem releaseSlot_settings (cause : Cause) (cd : Cd) (s : AsyncAtmiCtx) :
    (releaseSlot cause cd s).settings = s.settings := by
  unfold releaseSlot deregister
  cases found : s.slots.get cd with
  | none => simp only [forgetDeadline, found, freeBuf_settings]; rfl
  | some slot => simp only [forgetDeadline, found, record, freeBuf_settings]; rfl

@[simp] theorem parkWaker_settings (target : Target) (own : Own) (waker : Waker) (s : AsyncAtmiCtx) :
    (s.parkWaker target own waker).settings = s.settings := by
  obtain ⟨_, _, _, _, _, _, parked⟩ | ⟨_, _, _, _, parked⟩ | ⟨parked, _⟩ :=
    parkWaker_cases target own waker s <;> rw [parked]
  · rfl
  · rfl

@[simp] theorem takeAnyError_settings (id : Nat) (s : AsyncAtmiCtx) :
    (s.takeAnyError id).2.settings = s.settings := by
  unfold takeAnyError
  split <;> rfl

@[simp] theorem dropClaim_settings (guard : ReplyClaimGuard) (s : AsyncAtmiCtx) :
    (s.dropClaim guard).settings = s.settings := by
  unfold dropClaim
  split
  · split
    · split
      · split <;> rfl
      · rfl
    · rfl
  · rfl

@[simp] theorem allocData_settings (id : BufId) (info : Option TpTypeInfo) (s : AsyncAtmiCtx) :
    (s.allocData id info).settings = s.settings := by
  unfold allocData
  split <;> rfl

@[simp] theorem freeData_settings (id : BufId) (s : AsyncAtmiCtx) :
    (s.freeData id).settings = s.settings := by
  unfold freeData
  split
  · exact freeBuf_settings _ _
  · rfl

/-- A reply that is routed, to whatever slot. -/
theorem route_settings (cd : Cd) (outcome : AtmiResult Unit) (buf : ParkedBuf) (s : AsyncAtmiCtx) :
    (s.route cd outcome buf).settings = s.settings := by
  unfold route
  cases found : s.slots.get cd with
  | none => simp only [record, found]; rfl
  | some slot =>
      cases slot with
      | waiting => simp only [record, found]; rfl
      | ready =>
          simp only [record, found]
          exact stash_settings buf _

/-- A reply that is settled, whatever it says. -/
theorem settle_settings (reply : NativeReply) (buf : ParkedBuf) (s : AsyncAtmiCtx) :
    (s.settle reply buf).2.settings = s.settings := by
  unfold settle
  split
  · split
    · exact stash_settings _ _
    · split
      · exact route_settings _ _ _ _
      · exact stash_settings buf { s with lent := none }
  · split
    · exact route_settings _ _ _ _
    · exact stash_settings _ _

/-- **The one call that uses the block time up**, and that is all it does to the settings. -/
theorem tpgetrply_settings (reply : NativeReply) (buf : ParkedBuf) (s : AsyncAtmiCtx) :
    (s.tpgetrply reply buf).2.settings = s.consumeNext.settings := by
  unfold tpgetrply
  cases reply.buffer with
  | kept => rfl
  | moved info => exact freeBuf_settings buf s.consumeNext
  | gone => exact freeBuf_settings buf s.consumeNext

/-- A wait that collects its reply. -/
theorem collected_settings {target : Target} {own : Own} {id : BufId} {flags : Flags} {choice cd : Cd}
    {result : AtmiResult Unit} {s s' : AsyncAtmiCtx}
    (taken : takeReady target own id flags choice s = (some (cd, result), s')) :
    s'.settings = s.settings := by
  obtain ⟨none, _⟩ | ⟨_, _, _, outcome, buf, _, _, _, ready⟩ :=
    takeReady_cases target own id flags choice s
  · cases none.symm.trans taken
  · cases ready.symm.trans taken
    exact handOver_settings _ _ _ _ _

theorem claim_settings {s s' : AsyncAtmiCtx} {cd : Cd} {guard : ReplyClaimGuard}
    (claimed : s.claim cd = (.ok guard, s')) : s'.settings = s.settings := by
  obtain ⟨_, _, rfl⟩ | ⟨_, _, _, _, rfl⟩ := claim_cases claimed <;> rfl

end AsyncAtmiCtx

/-! ## What the rest does -/

/-- The block time is as it was, or was used up. -/
def Spends (t t' : BlockTimes) : Prop := t'.blkNext = t.blkNext ∨ t'.blkNext = 0

theorem Spends.refl (t : BlockTimes) : Spends t t := .inl rfl

theorem Spends.trans {t t' t'' : BlockTimes} (first : Spends t t') (second : Spends t' t'') :
    Spends t t'' := by
  rcases second with kept | gone
  · rcases first with kept' | gone'
    · exact .inl (kept.trans kept')
    · exact .inr (kept.trans gone')
  · exact .inr gone

/-- A native `tpgetrply` uses the block time up. -/
theorem spends_consumed (s : AsyncAtmiCtx) : Spends s.toBlockTimes s.consumeNext.toBlockTimes := .inr rfl

/-- The priorities are `p`, and the block time is that of `t` or was used up since. -/
def Undisturbed (p : Priorities) (t : BlockTimes) (s : AsyncAtmiCtx) : Prop :=
  s.toPriorities = p ∧ Spends t s.toBlockTimes

/-- What leaves the settings alone leaves them undisturbed. -/
theorem undisturbed_frame {p : Priorities} {t : BlockTimes} {s s' : AsyncAtmiCtx}
    (same : s'.settings = s.settings) (kept : Undisturbed p t s) : Undisturbed p t s' := by
  have priorities : s'.toPriorities = s.toPriorities := congrArg Prod.fst same
  have times : s'.toBlockTimes = s.toBlockTimes := congrArg Prod.snd same
  exact ⟨priorities.trans kept.1, times ▸ kept.2⟩

/-- A round of a drain: its `tpgetrply` may use the block time up, the rest changes no setting. -/
theorem undisturbed_quiet {may : Cd → Prop} {p : Priorities} {t : BlockTimes} :
    Closed (Quiet may) (Undisturbed p t) := by
  refine Closed.quiet fun {s s'} moved kept => ?_
  cases moved with
  | draining => exact kept
  | wakeAny => exact kept
  | round reply _ =>
      have scratch := takeScratch_settings reply.alloc s
      unfold drainRound
      rcases taken : s.takeScratch reply.alloc with ⟨err | buffer, s'⟩ <;> rw [taken] at scratch
      · exact undisturbed_frame scratch kept
      · have before : Undisturbed p t s' := undisturbed_frame scratch kept
        refine undisturbed_frame (s := s'.observe.consumeNext) ?_
          ⟨before.1, before.2.trans (spends_consumed s'.observe)⟩
        exact (settle_settings reply _ _).trans (tpgetrply_settings reply buffer s'.observe)

/-- **Every effect of a wait and of its guards** leaves the settings undisturbed. -/
theorem undisturbed_rules (p : Priorities) (t : BlockTimes) :
    ReplyRules (fun _ => True) (Undisturbed p t) (fun _ => Undisturbed p t) (fun _ _ => True) fun _ _ => True where
  drains := undisturbed_quiet
  wait w :=
    { quiet := undisturbed_quiet
      permit := fun _ _ _ => trivial
      parked := fun s waker kept _ => ⟨undisturbed_frame (parkWaker_settings _ _ waker s) kept, trivial⟩
      collected := fun s choice cd result s' kept _ taken => by
        have same := collected_settings taken
        exact ⟨undisturbed_frame (show (s'.forgetDeadline cd).settings = s.settings from same) kept, trivial⟩
      errorTaken := fun s id _ kept _ => ⟨undisturbed_frame (takeAnyError_settings id s) kept, trivial⟩
      keeps := fun _ _ _ => trivial
      timedOut := fun s cd _ kept _ _ => ⟨undisturbed_frame (releaseSlot_settings _ cd s) kept, trivial⟩ }
  guard w :=
    { released := fun s cd _ kept _ => undisturbed_frame (releaseSlot_settings _ cd s) kept
      dropped := fun s guard _ kept _ => undisturbed_frame (dropClaim_settings guard s) kept
      deregistered := fun _ _ _ kept => kept }
  weaken _ _ kept := kept

/-! ## Polls, drops and cancellations -/

section

variable {p : Priorities} {t : BlockTimes}

theorem left_undisturbed {waker : Waker} {s : AsyncAtmiCtx} {polled : Polled}
    (left : Left (Undisturbed p t) (fun _ => Undisturbed p t) (fun _ _ => True) waker s polled) : Undisturbed p t s := by
  cases polled with
  | ready => exact left
  | pending fut =>
      cases fut with
      | created => exact left
      | sending => exact left.1
      | waiting =>
          obtain ⟨_, _, _, kept, _⟩ := left
          exact kept

theorem any_waits (script : PollScript) : ∀ wait ∈ script.waits,
    Allowed (fun _ => True) wait.before ∧ Allowed (fun _ => True) wait.after :=
  fun _ _ => ⟨allowed_any _, allowed_any _⟩

/-- A wait that is polled again. -/
theorem resumed_undisturbed {w : Wait} (shaped : w.Shaped) (op : Op) (script : PollScript) :
    Keeps (Undisturbed p t) (poll script (.waiting op w)) :=
  (resumed_ends (undisturbed_rules p t) (any_waits script) shaped op).mono (fun _ kept => ⟨kept, trivial⟩)
    fun _ _ left => left_undisturbed left

/-- A `tpgetrply` that is polled for the first time, whether it can begin or not. -/
theorem getrply_undisturbed (cd : Cd) (data : BufId) (flags : Flags) (script : PollScript) :
    Keeps (Undisturbed p t) (poll script (.created (.tpgetrply cd data flags))) := by
  refine (startGetrply_ends (undisturbed_rules p t) (any_waits script) cd data flags).mono (fun s kept => ?_)
    fun _ _ left => left_undisturbed left
  refine fit_getrply kept (fun _ _ _ _ _ => ⟨kept, trivial⟩) fun _ guard s' claimed _ _ _ => ?_
  exact ⟨undisturbed_frame (claim_settings claimed) kept, trivial⟩

/-- What a poll does after its send, which for a `tpcall` is to wait. -/
theorem afterSend_undisturbed (op : Op) (deadline : Option Instant) (script : PollScript) (sending : Sending) :
    Keeps (Undisturbed p t) (afterSend op deadline script sending) := by
  cases sending with
  | sleeping => exact Keeps.pure
  | finished result =>
      cases result with
      | error => exact Keeps.pure
      | ok submission =>
          cases op with
          | tpacall | tpgetrply => exact Keeps.pure
          | tpcall data flags =>
              have shaped : (callWait submission data flags deadline).Shaped :=
                ⟨rfl, rfl, submission.generation, rfl⟩
              exact (awaited_ends (undisturbed_rules p t) (any_waits script) shaped _).mono
                (fun _ kept => ⟨kept, trivial⟩) fun _ _ left => left_undisturbed left

/-- A cancellation, which may drain when the native one finds the call gone. -/
theorem tpcancel_undisturbed (cause : Cause) (cd : Cd) (script : CancelScript) :
    Keeps (Undisturbed p t) (tpcancel cause cd script).run :=
  tpcancel_keeps undisturbed_quiet (fun s kept => undisturbed_frame (releaseSlot_settings cause cd s) kept) script

/-- A sent call that is registered, or taken back because its number is in use. -/
theorem registerSubmission_undisturbed (cd : Cd) (deadline : Option Instant)
    (claimed : Bool) (busyDrained : List NativeReply) :
    Keeps (Undisturbed p t) (registerSubmission cd deadline claimed busyDrained).run := by
  unfold registerSubmission
  refine Keeps.tryBind Keeps.tryGet fun before => ?_
  split
  · refine Keeps.tryBind (Keeps.tryModify (drain_keeps undisturbed_quiet (allowed_any _))) fun _ => ?_
    exact Keeps.tryBind (Keeps.tryModify fun _ kept => kept) fun _ => Keeps.throw
  · split
    · exact Keeps.tryBind (Keeps.tryModify fun _ kept => kept) fun _ => Keeps.tryPure
    · exact Keeps.tryPure

/-- A future that is dropped, with what its guard then does. -/
theorem dropFut_undisturbed (script : CancelScript) (fut : Fut) : Keeps (Undisturbed p t) (dropFut script fut) := by
  cases fut with
  | created | sending => exact Keeps.pure
  | waiting op w =>
      simp only [dropFut, dropGuard]
      cases w.guard with
      | pendingCall cd =>
          simp only [dropPendingCall, if_true]
          exact Keeps.bind (tpcancel_undisturbed _ cd script) fun _ => Keeps.pure
      | claim guard => exact Keeps.ofModify fun s => undisturbed_frame (dropClaim_settings guard s)
      | anyWaiter id => exact Keeps.ofModify fun _ kept => kept

end

/-! ## Who still has to send -/

/-- The poll does not leave the future waiting to send again. -/
def Polled.IsSent (polled : Polled) : Prop := ∀ op deadline b, polled ≠ .pending (.sending op deadline b)

theorem ready_isSent (cd : Cd) (result : AtmiResult Unit) : (Polled.ready cd result).IsSent :=
  fun _ _ _ same => nomatch same

theorem waiting_isSent (op : Op) (w : Wait) : (Polled.pending (.waiting op w)).IsSent :=
  fun _ _ _ same => nomatch same

theorem finishGetrply_isSent (cd : Cd) (w : Wait) (result : Collected) (script : CancelScript) :
    Ends (fun _ => True) (finishGetrply cd w result script) fun polled _ => polled.IsSent := by
  unfold finishGetrply
  cases result with
  | error e => exact Ends.bind .anyhow fun _ => Ends.pure fun _ _ => ready_isSent _ _
  | ok found =>
      exact Ends.bind .anyhow fun _ => Ends.bind .anyhow fun _ => Ends.pure fun _ _ => ready_isSent _ _

/-- A poll whose wait is over, or goes on. -/
theorem finishAwait_isSent (op : Op) (w : Wait) (script : PollScript) (awaited : Awaited) :
    Ends (fun _ => True) (finishAwait op w script awaited) fun polled _ => polled.IsSent := by
  cases awaited with
  | suspended => exact Ends.bind .anyhow fun _ => Ends.pure fun _ _ => waiting_isSent _ _
  | finished result =>
      unfold finishAwait
      cases w.guard with
      | pendingCall cd => exact Ends.bind .anyhow fun _ => Ends.pure fun _ _ => ready_isSent _ _
      | claim | anyWaiter => exact finishGetrply_isSent _ _ _ _

/-- A wait stays a wait until it is over. -/
theorem resumed_isSent (op : Op) (w : Wait) (script : PollScript) :
    Ends (fun _ => True) (poll script (.waiting op w)) fun polled _ => polled.IsSent :=
  Ends.bind .anyhow fun awaited => finishAwait_isSent op w script awaited

/-- A `tpgetrply` sends nothing. -/
theorem getrply_isSent (cd : Cd) (data : BufId) (flags : Flags) (script : PollScript) :
    Ends (fun _ => True) (startGetrply cd data flags script) fun polled _ => polled.IsSent := by
  unfold startGetrply
  refine Ends.bind .anyhow fun begun => ?_
  cases begun with
  | error e => exact Ends.pure fun _ _ => ready_isSent _ _
  | ok w => exact Ends.bind .anyhow fun awaited => finishAwait_isSent _ w script awaited

/-- After a send only a full queue leaves the future waiting to send. -/
theorem afterSend_isSent (op : Op) (deadline : Option Instant) (script : PollScript) (sending : Sending) :
    Ends (fun _ => True) (afterSend op deadline script sending) fun polled _ => polled.IsSent ∨
      ∃ b wake, sending = .sleeping b wake ∧ polled = .pending (.sending op deadline b) := by
  cases sending with
  | sleeping b wake => exact Ends.pure fun _ _ => .inr ⟨b, wake, rfl, rfl⟩
  | finished result =>
      cases result with
      | error e => exact Ends.pure fun _ _ => .inl (ready_isSent _ _)
      | ok submission =>
          cases op with
          | tpacall | tpgetrply => exact Ends.pure fun _ _ => .inl (ready_isSent _ _)
          | tpcall data flags =>
              exact Ends.bind .anyhow fun awaited =>
                (finishAwait_isSent _ _ script awaited).mono (fun _ _ => trivial) fun _ _ sent => .inl sent

end Endurox.Async
