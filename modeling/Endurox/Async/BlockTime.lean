/-
# Async.BlockTime -- whose next call a block time is for

Every native `tpacall` and `tpgetrply` uses up the next-call block time.  A retry
and the drain of a full queue read it first and set it again, so what another task
set while the first one slept survives them; the other drains do not.
`blockTime_isolated` says what is left: a step that is not the user's next
submission or wait leaves the block time alone, unless one is pending when the
step comes to a drain that saves nothing.

Where a step does is read off the state before it and the answers of the native
layer (`Label.drainsUnsaved`).
-/
import Endurox.Async.OneShot
import Endurox.Async.Submission

namespace Endurox.Async

open Endurox.Theory AsyncAtmiCtx

set_option autoImplicit false

/-! ## Putting a block time back -/

section Retry

variable {n : Int}

/-- The block time read is the one that is set again. -/
theorem tpgblktimeNext_reads (failure : Option AtmiError) :
    Ends (fun s => s.blkNext = n) (tpgblktimeNext failure).run fun next s =>
      s.blkNext = n ∧ ∀ m, next = .ok m → m = n := by
  unfold tpgblktimeNext
  refine Ends.tryBind (F := fun _ (s : AsyncAtmiCtx) => s.blkNext = n) (native_keeps failure)
    (fun _ _ kept => ⟨kept, nofun⟩) fun _ => ?_
  refine Ends.tryRead fun now => Ends.tryPure fun s holds => ?_
  obtain ⟨kept, rfl⟩ := holds
  exact ⟨kept, fun m same => (Except.ok.inj same).symm.trans kept⟩

/-- A block time that is set is there, whatever was there before. -/
theorem tpsblktimeNext_sets {P : AsyncAtmiCtx → Prop} (seconds : Int) :
    Ends P (tpsblktimeNext seconds none).run fun result s => s.blkNext = seconds ∧ result = .ok () :=
  Ends.tryBind (F := fun result _ => result = .ok ()) (Ends.tryPure fun _ _ => rfl) (fun _ _ failed => nomatch failed)
    fun _ => Ends.tryModify fun _ _ => ⟨rfl, rfl⟩

/-- A retry sets the block time again that its native send uses up. -/
theorem retryTpacall_next (flags : Flags) (deadline : Option Instant) (priority : Int) (script : SendScript)
    (restores : script.restoreNext = none) :
    Keeps (fun s => s.blkNext = n) (retryTpacall flags deadline priority script).run := by
  unfold retryTpacall
  refine Keeps.tryBind (remainingSeconds_keeps _ _) fun seconds => ?_
  refine Ends.tryBind (tpgblktimeNext_reads script.getNext) (fun _ _ holds => holds.1) fun next => ?_
  refine Ends.mono (B := fun s => s.blkNext = n ∧ next = n) (R := fun _ s => s.blkNext = n)
    (Ends.ofFact fun same => ?_) (fun _ holds => ⟨holds.1, holds.2 next rfl⟩) fun _ _ kept => kept
  subst same
  -- until it is set, the block time is the one read
  refine Ends.tryBind (F := fun result s => ∀ e, result = .error e → s.blkNext = next) ?_
    (fun e _ kept => kept e rfl) fun _ => ?_
  · unfold tpsblktimeNext
    refine Ends.tryBind (native_keeps script.setNext) (fun _ _ kept _ _ => kept) fun _ => ?_
    exact Ends.tryModify fun _ _ _ impossible => nomatch impossible
  refine Ends.tryOutcome (F := fun _ _ => True) .anyhow fun result => ?_
  rw [restores]
  refine Ends.tryOutcome (tpsblktimeNext_sets next) fun restored => Ends.ofFact fun done => ?_
  subst done
  exact Ends.ofExcept fun _ kept => kept

/-- The drain of a full queue sets the block time again that it uses up. -/
theorem relieve_next (script : SendScript) (restores : script.putBackNext = none) :
    Keeps (fun s => s.blkNext = n) (relieve script).run := by
  unfold relieve
  refine Ends.tryBind (tpgblktimeNext_reads script.saveNext) (fun _ _ holds => holds.1) fun next => ?_
  refine Ends.mono (B := fun s => s.blkNext = n ∧ next = n) (R := fun _ s => s.blkNext = n)
    (Ends.ofFact fun same => ?_) (fun _ holds => ⟨holds.1, holds.2 next rfl⟩) fun _ _ kept => kept
  subst same
  refine Ends.tryBind (F := fun drained _ => drained = .ok ⟨⟩) (Ends.tryModify fun _ _ => rfl)
    (fun _ _ impossible => nomatch impossible) fun _ => ?_
  refine Ends.tryBind (F := fun woken _ => woken = .ok ⟨⟩) (Ends.tryModify fun _ _ => rfl)
    (fun _ _ impossible => nomatch impossible) fun _ => ?_
  rw [restores]
  exact (tpsblktimeNext_sets next).mono (fun _ holds => holds) fun _ _ holds => holds.1

/-- Nothing fails in a send that is accepted. -/
theorem retried_ok {flags : Flags} {deadline : Option Instant} {script : SendScript} {cd : Cd}
    (accepted : (retried flags deadline script).2 = .ok cd) :
    outOfTime deadline script.retryNow = false ∧ script.getNext = none ∧ script.setNext = none ∧
      script.setPriority = none ∧ script.clearPriority = none ∧ script.restoreNext = none ∧
        ∃ n, script.sent = .ok n := by
  unfold retried at accepted
  cases late : outOfTime deadline script.retryNow with
  | true => simp [late] at accepted
  | false =>
      rw [late] at accepted
      cases getting : script.getNext <;> cases setting : script.setNext <;>
        cases restoring : script.restoreNext <;> simp [getting, setting, restoring] at accepted
      unfold prioritised sentCd at accepted
      cases prioritising : script.setPriority <;> cases clearing : script.clearPriority <;>
        cases sent : script.sent <;> simp [prioritising, clearing, sent, Except.map] at accepted
      exact ⟨rfl, rfl, rfl, rfl, rfl, rfl, _, rfl⟩

/-- A send that is accepted has touched no slot. -/
theorem retryTpacall_slots {flags : Flags} {deadline : Option Instant} {script : SendScript} {cd : Cd}
    (accepted : (retried flags deadline script).2 = .ok cd) (priority : Int) (s : AsyncAtmiCtx) :
    ((retryTpacall flags deadline priority script).run.run s).2.slots = s.slots := by
  obtain ⟨intime, getting, setting, prioritising, clearing, restoring, n, sent⟩ := retried_ok accepted
  have left : ∃ seconds, (remainingSeconds deadline script.retryNow).run.run s = (.ok seconds, s) := by
    unfold remainingSeconds
    cases deadline with
    | none => exact ⟨0, rfl⟩
    | some deadline =>
        have ahead : ¬ deadline - script.retryNow = 0 := fun late => by
          have passed : deadline ≤ script.retryNow := Nat.le_of_sub_eq_zero late
          simp [outOfTime, passed] at intime
        simp only [if_neg ahead]
        exact ⟨_, rfl⟩
  obtain ⟨seconds, left⟩ := left
  unfold retryTpacall
  rw [run_tryBind_ok left, getting, setting, restoring]
  unfold withSendPriority tpacallNative
  rw [prioritising, clearing, sent]
  rfl

/-! ## A send that slept -/

/-- Nothing is asked of the state. -/
theorem anyhow_takes {taken : Option Cd} : TakeRules taken (fun _ => True) fun _ => True where
  before := ⟨fun _ _ => trivial, fun _ _ => trivial, fun _ _ _ _ => trivial, fun _ _ _ _ _ _ _ => ⟨trivial, fun _ => trivial⟩⟩
  after := ⟨fun _ _ => trivial, fun _ _ => trivial, fun _ _ _ _ => trivial, fun _ _ _ _ _ _ _ => ⟨trivial, fun _ => trivial⟩⟩
  undone _ _ _ _ := trivial

/-- The block times are put back: no restoring `tpsblktime` fails. -/
def AsyncAtmiCtx.SendScript.restores (script : SendScript) : Bool :=
  script.restoreNext.isNone && script.putBackNext.isNone

theorem registerSubmission_next (cd : Cd) (deadline : Option Instant) (claimed : Bool)
    (busyDrained : List NativeReply) (s : AsyncAtmiCtx) (free : ¬ (0 < cd ∧ s.isDescriptorBusy cd = true)) :
    ((registerSubmission cd deadline claimed busyDrained).run.run s).2.blkNext = s.blkNext := by
  suffices kept : Ends (· = s) (registerSubmission cd deadline claimed busyDrained).run
      fun _ t => t.blkNext = s.blkNext from kept s rfl
  unfold registerSubmission
  refine Ends.tryRead fun now t holds => ?_
  obtain ⟨rfl, rfl⟩ := holds
  rw [if_neg free]
  split <;> rfl

/-- What an attempt at sending again does to the block time: it may be used up where the call is accepted
under a number that is still tracked, and nowhere else. -/
theorem attemptSend_next {b : Backpressure} (retry : b.retry = true) (flags : Flags) (deadline : Option Instant)
    (claimed : Bool) (script : SendScript) (restores : script.restores = true) (s : AsyncAtmiCtx) :
    let turn := (attemptSend flags deadline claimed b script).run s
    Spends s.toBlockTimes turn.2.toBlockTimes ∧
      ((∀ cd, (attempted { flags with noBlock := true } deadline b script).2 = .ok cd →
        ¬ (0 < cd ∧ s.isDescriptorBusy cd = true)) → turn.2.blkNext = s.blkNext) ∧
      ∀ submission, turn.1.1 = .ok submission →
        ∃ cd, (attempted { flags with noBlock := true } deadline b script).2 = .ok cd := by
  obtain ⟨restored, putBack⟩ : script.restoreNext = none ∧ script.putBackNext = none := by
    simpa [SendScript.restores] using restores
  suffices ends : Ends (· = s) (attemptSend flags deadline claimed b script) fun result t =>
      Spends s.toBlockTimes t.toBlockTimes ∧
        ((∀ cd, (attempted { flags with noBlock := true } deadline b script).2 = .ok cd →
          ¬ (0 < cd ∧ s.isDescriptorBusy cd = true)) → t.blkNext = s.blkNext) ∧
        ∀ submission, result.1 = .ok submission →
          ∃ cd, (attempted { flags with noBlock := true } deadline b script).2 = .ok cd from ends s rfl
  unfold attemptSend
  simp only [retry, if_true]
  refine Ends.bind (Q := fun _ t => t.blkNext = s.blkNext ∧ t.slots = s.slots)
    (Ends.ofModify fun t same => by subst same; exact ⟨rfl, rfl⟩) fun _ => ?_
  refine Ends.bind (Q := fun result t => t.blkNext = s.blkNext ∧
    result = (attempted { flags with noBlock := true } deadline b script).2 ∧
      ∀ cd, result = .ok cd → t.slots = s.slots) ?_ fun result => ?_
  · unfold attempted
    rw [if_pos retry]
    cases b.retryPriority with
    | none => exact Ends.throw fun _ kept => ⟨kept.1, rfl, fun cd impossible => by cases impossible⟩
    | some priority =>
        intro t kept
        have answered := (retryTpacall_takes { flags with noBlock := true } deadline priority script
          anyhow_takes t trivial).2
        refine ⟨retryTpacall_next _ deadline priority script restored t kept.1, answered, fun cd sent => ?_⟩
        exact (retryTpacall_slots (answered.symm.trans sent) priority t).trans kept.2
  cases result with
  | ok cd =>
      intro t holds
      obtain ⟨kept, answered, slots⟩ := holds
      have same : t.isDescriptorBusy cd = s.isDescriptorBusy cd := by
        unfold isDescriptorBusy
        rw [slots cd rfl]
      refine ⟨?_, fun free => ?_, fun _ _ => ⟨cd, answered.symm⟩⟩
      · have spends := registerSubmission_undisturbed (p := t.toPriorities) cd deadline claimed script.busyDrained
          (t := t.toBlockTimes) t ⟨rfl, .refl _⟩
        exact Spends.trans (.inl kept) spends.2
      · have unmet := free cd answered.symm
        rw [← same] at unmet
        exact (registerSubmission_next cd deadline claimed script.busyDrained t unmet).trans kept
  | error e =>
      refine Ends.mono (B := fun t => t.blkNext = s.blkNext)
        (R := fun result t => t.blkNext = s.blkNext ∧ ∃ e, result.1 = .error e) ?_ (fun _ holds => holds.1) ?_
      · simp only
        split
        · refine Ends.bind (Q := fun _ t => t.blkNext = s.blkNext) ?_ fun resolved => ?_
          · unfold resolvePriority
            rw [if_pos retry]
            exact Keeps.tryPure
          · cases resolved with
            | error _ => exact Ends.pure fun _ kept => ⟨kept, _, rfl⟩
            | ok _ =>
                refine Ends.bind (relieve_next script putBack) fun relieved => ?_
                cases relieved <;> exact Ends.pure fun _ kept => ⟨kept, _, rfl⟩
        · exact Ends.pure fun _ kept => ⟨kept, _, rfl⟩
      · rintro result t ⟨kept, e, failed⟩
        exact ⟨.inl kept, fun _ => kept, fun _ same => by cases failed.symm.trans same⟩

/-- An attempt comes to a drain that saves nothing: its call is accepted, and is waited for or finds its number
still tracked. -/
def attemptDrains (op : Op) (deadline : Option Instant) (b : Backpressure) (script : SendScript)
    (s : AsyncAtmiCtx) : Bool :=
  match (attempted { op.flags with noBlock := true } deadline b script).2 with
  | .ok cd => op.claimed || decide (0 < cd ∧ s.isDescriptorBusy cd = true)
  | .error _ => false

/-- One of the attempts made does. -/
def sendDrains (op : Op) (deadline : Option Instant) (b : Backpressure) (script : SendScript)
    (more : List SendScript) (s : AsyncAtmiCtx) : Bool :=
  !outOfTime deadline script.now && (attemptDrains op deadline b script s ||
    match more with
    | [] => false
    | next :: more =>
        match triesAgain op.flags deadline b script with
        | none => false
        | some retryPriority =>
            sendDrains op deadline { b with delay := min (b.delay * 2) maxDelay, retry := true, retryPriority } next more
              ((attemptSend op.flags deadline op.claimed b script).run s).2)

/-- An attempt that comes to no such drain leaves the block time alone, and its call is not waited for. -/
theorem attemptSend_kept (op : Op) (deadline : Option Instant) {b : Backpressure} (retry : b.retry = true)
    {script : SendScript} (restores : script.restores = true) {s : AsyncAtmiCtx}
    (saves : attemptDrains op deadline b script s = false) :
    let turn := (attemptSend op.flags deadline op.claimed b script).run s
    turn.2.blkNext = s.blkNext ∧ ∀ submission, turn.1.1 = .ok submission → op.claimed = false := by
  obtain ⟨-, kept, accepts⟩ := attemptSend_next retry op.flags deadline op.claimed script restores s
  refine ⟨kept fun cd sent busy => ?_, fun submission registered => ?_⟩
  · simp [attemptDrains, sent, busy] at saves
  · obtain ⟨cd, sent⟩ := accepts submission registered
    simp only [attemptDrains, sent, Bool.or_eq_false_iff] at saves
    exact saves.1

/-- **A retry leaves the block time to whoever set it**, for any number of attempts. -/
theorem retrySend_next (op : Op) (deadline : Option Instant) (more : List SendScript) (b : Backpressure)
    (script : SendScript) (s : AsyncAtmiCtx) (retry : b.retry = true)
    (restores : ∀ attempt ∈ script :: more, attempt.restores = true) :
    let left := (sendWithBackpressure op.flags deadline op.claimed b script more).run s
    Spends s.toBlockTimes left.2.toBlockTimes ∧
      (sendDrains op deadline b script more s = false →
        left.2.blkNext = s.blkNext ∧ ∀ submission, left.1 = .finished (.ok submission) → op.claimed = false) := by
  have spends := (attemptSend_next retry op.flags deadline op.claimed script (restores script List.mem_cons_self) s).1
  have kept := fun saves => attemptSend_kept op deadline retry (restores script List.mem_cons_self) (s := s) saves
  have continues := (attemptSend_takes op.flags deadline op.claimed b script anyhow_takes s trivial).2
  simp only
  rw [sendWithBackpressure_turn]
  unfold sendDrains
  cases late : outOfTime deadline script.now with
  | true =>
      rw [if_pos (show deadline.any (· ≤ script.now) = true from late)]
      exact ⟨.refl _, fun _ => ⟨rfl, fun _ impossible => by cases impossible⟩⟩
  | false =>
      rw [if_neg (show ¬ deadline.any (· ≤ script.now) = true from ne_true_of_eq_false late)]
      rcases ran : (attemptSend op.flags deadline op.claimed b script).run s with ⟨⟨result, p⟩, t⟩
      rw [ran] at spends kept continues
      simp only [Bool.not_false, Bool.true_and, Bool.or_eq_false_iff]
      cases again : triesAgain op.flags deadline b script with
      | none =>
          rw [again] at continues
          cases result with
          | error e =>
              simp only [if_neg (continues e rfl)]
              exact ⟨spends, fun saves => ⟨(kept saves.1).1, fun _ impossible => by cases impossible⟩⟩
          | ok submission => exact ⟨spends, fun saves => ⟨(kept saves.1).1, fun _ _ => (kept saves.1).2 submission rfl⟩⟩
      | some priority =>
          rw [again] at continues
          obtain ⟨e, same, blocked⟩ := continues
          obtain ⟨rfl, rfl⟩ := Prod.mk.inj same
          simp only [if_pos blocked]
          cases more with
          | nil => exact ⟨spends, fun saves => ⟨(kept saves.1).1, fun _ impossible => by cases impossible⟩⟩
          | cons next more =>
              obtain ⟨spends', kept'⟩ := retrySend_next op deadline more
                { b with delay := min (b.delay * 2) maxDelay, retry := true, retryPriority := p } next t rfl
                fun attempt member => restores attempt (List.mem_cons_of_mem _ member)
              refine ⟨spends.trans spends', fun saves => ?_⟩
              obtain ⟨still, unclaimed⟩ := kept' saves.2
              exact ⟨still.trans (kept saves.1).1, unclaimed⟩

end Retry

/-! ## Polls -/

/-- A future that waits to send has sent once already. -/
def FutRetried : Fut → Prop
  | .sending _ _ b => b.retry = true
  | _ => True

theorem isSent_retried {polled : Polled} (sent : polled.IsSent) : ∀ fut, polled = .pending fut → FutRetried fut := by
  rintro fut rfl
  cases fut with
  | sending op deadline b => exact absurd rfl (sent op deadline b)
  | _ => trivial

theorem sendThen_retried (op : Op) (deadline : Option Instant) (script : PollScript) (b : Backpressure) :
    Ends (fun _ => True) (sendWithBackpressure op.flags deadline op.claimed b script.send script.resends >>=
        fun sending => afterSend op deadline script sending)
      fun polled _ => ∀ fut, polled = .pending fut → FutRetried fut := by
  refine Ends.bind (sendLoop_ends (fun _ => True) (I := fun _ _ => True)
    (R := fun sending _ => ∀ b wake, sending = .sleeping b wake → b.retry = true)
    (fun _ _ _ _ => fun _ _ same => by cases same) (fun b script _ => ?_) ?_ script.resends b script.send
    fun _ _ => trivial) fun sending => ?_
  · intro s _
    rcases (attemptSend op.flags deadline op.claimed b script).run s with ⟨⟨e | submission, p⟩, s'⟩
    · exact ⟨(fun _ _ same => by cases same), fun _ => trivial⟩
    · exact fun _ _ same => by cases same
  · rintro b wake s retry _ _ _ ⟨⟩
    exact retry
  · intro s retry
    rcases afterSend_isSent op deadline script sending s trivial with sent | ⟨b, wake, sleeping, polled⟩
    · exact isSent_retried sent
    · rw [polled]
      rintro _ ⟨⟩
      exact retry b wake sleeping

theorem poll_retried (script : PollScript) (fut : Fut) (retried : FutRetried fut) :
    Ends (fun _ => True) (poll script fut) fun polled _ => ∀ fut, polled = .pending fut → FutRetried fut := by
  have start : ∀ op, Ends (fun _ => True) (startSend op script)
      fun polled _ => ∀ fut, polled = .pending fut → FutRetried fut := by
    intro op
    unfold startSend
    refine Ends.bind .anyhow fun checked => ?_
    cases checked with
    | error e => exact Ends.pure fun _ _ => isSent_retried (ready_isSent _ _)
    | ok deadline => exact Ends.bind .anyhow fun taken => sendThen_retried op deadline script _
  cases fut with
  | waiting op w => exact (resumed_isSent op w script).mono (fun _ _ => trivial) fun _ _ => isSent_retried
  | created op =>
      cases op with
      | tpgetrply cd data flags =>
          exact (getrply_isSent cd data flags script).mono (fun _ _ => trivial) fun _ _ => isSent_retried
      | tpcall data flags => exact start (.tpcall data flags)
      | tpacall flags => exact start (.tpacall flags)
  | sending op deadline b =>
      unfold poll
      cases script.slept with
      | true => exact sendThen_retried op deadline script b
      | false =>
          refine Ends.pure fun _ _ => ?_
          rintro _ ⟨⟩
          exact retried

theorem retried_step {world : World} (retried : ∀ f fut, world.futures.get f = some fut → FutRetried fut)
    (label : Label) : ∀ f fut, (world.step label).futures.get f = some fut → FutRetried fut := by
  refine step_futures (F := fun _ => FutRetried) label retried (fun _ => trivial) ?_
  intro f script fut fut' _ found pending
  exact poll_retried script fut (retried f fut found) world.shared trivial fut' pending

/-! ## Where a step reaches a drain -/

/-- The wake of a wait that finds nothing ready leads to a drain.  A reply queue that fails ends the wait, and a
`tpcall` is cancelled then. -/
def AsyncAtmiCtx.WakeScript.drains (w : Wait) : WakeScript → Bool
  | .pending => false
  | .readable => true
  | .timer now => w.deadline.any (· ≤ now)
  | .failed _ => (w.guard matches .pendingCall _)

/-- The wait goes on at this poll, and drains the queue. -/
def AsyncAtmiCtx.Wait.drains (w : Wait) (s : AsyncAtmiCtx) (waits : List WaitScript) : Bool :=
  s.isTargetReady w.target || (waits.headD {}).wake.drains w

/-- The step comes to a drain that saves nothing: a cancellation's, that of a `tpcall` dropped while it waits, that
of a wait that goes on, or the one of a send that is accepted. -/
def Label.drainsUnsaved (world : World) : Label → Bool
  | .tpcancel .. => true
  | .drop f _ => match world.futures.get f with
      | some (.waiting _ w) => (w.guard matches .pendingCall _)
      | _ => false
  | .poll f script => match world.futures.get f with
      | some (.waiting _ w) => w.drains world.shared script.waits
      | some (.sending op deadline b) => script.slept &&
          sendDrains op deadline b script.send script.resends world.shared
      | _ => false
  | _ => false

/-- The label sets the block time, or begins the user's next submission or wait. -/
def Label.usesNext (world : World) : Label → Bool
  | .tpsblktime _ | .tryTpacall .. => true
  | .poll f _ => (world.futures.get f).any fun fut => (fut matches .created _)
  | _ => false

/-- What is done for a call begun before leaves the block time alone. -/
def Isolated (world : World) (label : Label) : Prop :=
  label.usesNext world = false → (world.step label).shared.blkNext = world.shared.blkNext

instance (world : World) (label : Label) : Decidable (Isolated world label) :=
  inferInstanceAs (Decidable (_ → _))

/-- No block time that was saved fails to be put back. -/
def Label.restores : Label → Bool
  | .poll _ script => (script.send :: script.resends).all SendScript.restores
  | _ => true

/-- The step is the user's own next submission or wait; or no block time is pending where it comes to a drain that
saves nothing, and each one saved is put back. -/
def sparesNext (world : World) (label : Label) : Bool :=
  label.usesNext world || ((world.shared.blkNext = 0 || !label.drainsUnsaved world) && label.restores)

/-! ## Waits that stay asleep -/

section Asleep

variable {n : Int}

theorem blkNext_frame {s s' : AsyncAtmiCtx} (same : s'.settings = s.settings) (kept : s.blkNext = n) :
    s'.blkNext = n :=
  (congrArg (fun settings => settings.2.blkNext) same).trans kept

/-- A wait that is not woken is parked again, or fails with the reply queue. -/
theorem afterWake_asleep {w : Wait} (waker : Waker) (script : WaitScript) (asleep : script.wake.drains w = false) :
    Ends (fun s => s.blkNext = n ∧ s.isTargetReady w.target = false) (afterWake w waker script) fun woken s =>
      s.blkNext = n ∧ (woken = .pending ∨ ∃ e, woken = .finished (.error e) ∧ ∀ cd, w.guard ≠ .pendingCall cd) := by
  have woken : Ends (fun s => s.blkNext = n ∧ s.isTargetReady w.target = false) (waitForWake w waker script.wake)
      fun wake s => s.blkNext = n ∧
        (wake = none ∨ ∃ e, wake = some (.error e) ∧ ∀ cd, w.guard ≠ .pendingCall cd) := by
    unfold waitForWake
    refine Ends.bind (Q := fun _ s => s.blkNext = n ∧ s.isTargetReady w.target = false)
      (Ends.ofModify fun s holds =>
        ⟨blkNext_frame (parkWaker_settings _ _ waker s) holds.1, parkWaker_notReady holds.2⟩) fun _ => ?_
    refine Ends.bind (Q := fun before s => before = s ∧ s.blkNext = n ∧ s.isTargetReady w.target = false)
      (Ends.ofGet fun s holds => ⟨rfl, holds⟩) fun before => ?_
    rintro s ⟨rfl, kept, waits⟩
    rw [if_neg (ne_true_of_eq_false waits)]
    cases wakes : script.wake with
    | pending => exact ⟨kept, .inl rfl⟩
    | readable => simp [WakeScript.drains, wakes] at asleep
    | failed message =>
        refine ⟨kept, .inr ⟨_, rfl, fun cd mine => ?_⟩⟩
        simp [WakeScript.drains, wakes, mine] at asleep
    | timer now =>
        rw [wakes] at asleep
        simp only
        rw [if_neg (show ¬ w.deadline.any (· ≤ now) = true from ne_true_of_eq_false asleep)]
        exact ⟨kept, .inl rfl⟩
  unfold afterWake
  refine Ends.bind woken fun wake => ?_
  rintro s ⟨kept, rfl | ⟨e, rfl, other⟩⟩
  · exact ⟨kept, .inl rfl⟩
  · exact ⟨kept, .inr ⟨e, rfl, other⟩⟩

/-- What is left of a wait that failed without a drain. -/
theorem finishGetrply_failed (cd : Cd) {w : Wait} (other : ∀ cd, w.guard ≠ .pendingCall cd) (e : AtmiError)
    (script : CancelScript) : Keeps (fun s => s.blkNext = n) (finishGetrply cd w (.error e) script) := by
  refine Keeps.bind ?_ fun _ => Keeps.pure
  unfold dropGuard
  cases held : w.guard with
  | pendingCall cd => exact absurd held (other cd)
  | claim guard => exact Keeps.ofModify fun s kept => blkNext_frame (dropClaim_settings guard s) kept
  | anyWaiter id => exact Keeps.ofModify fun _ kept => kept

theorem resumed_asleep {w : Wait} (op : Op) (script : PollScript)
    (asleep : (script.waits.headD {}).wake.drains w = false) :
    Ends (fun s => s.blkNext = n ∧ s.isTargetReady w.target = false) (poll script (.waiting op w))
      fun _ s => s.blkNext = n := by
  have resumed : Ends (fun s => s.blkNext = n ∧ s.isTargetReady w.target = false)
      (resumeReply w script.waker script.waits) fun awaited s => s.blkNext = n ∧
        (awaited = .suspended ∨ ∃ e, awaited = .finished (.error e) ∧ ∀ cd, w.guard ≠ .pendingCall cd) := by
    cases waits : script.waits with
    | nil =>
        rw [waits] at asleep
        refine Ends.bind (afterWake_asleep script.waker {} asleep) fun woken => ?_
        rintro s ⟨kept, rfl | ⟨e, rfl, other⟩⟩
        · exact ⟨kept, .inl rfl⟩
        · exact ⟨kept, .inr ⟨e, rfl, other⟩⟩
    | cons first more =>
        rw [waits] at asleep
        refine Ends.bind (afterWake_asleep script.waker first asleep) fun woken => ?_
        rintro s ⟨kept, rfl | ⟨e, rfl, other⟩⟩
        · exact ⟨kept, .inl rfl⟩
        · exact ⟨kept, .inr ⟨e, rfl, other⟩⟩
  refine Ends.bind resumed fun awaited => ?_
  rintro s ⟨kept, rfl | ⟨e, rfl, other⟩⟩
  · exact kept
  · unfold finishAwait
    cases guard : w.guard with
    | pendingCall cd => exact absurd guard (other cd)
    | claim | anyWaiter => exact finishGetrply_failed op.cd other e script.finish s kept

end Asleep

/-! ## Every run -/

/-- What a step for an earlier call does: it may use the block time up, and where no drain is that saves nothing it
does not. -/
def LeavesNext (world : World) (label : Label) (s : AsyncAtmiCtx) : Prop :=
  Spends world.shared.toBlockTimes s.toBlockTimes ∧
    (label.drainsUnsaved world = false → s.blkNext = world.shared.blkNext)

theorem leavesNext_same {world : World} {label : Label} {s : AsyncAtmiCtx}
    (same : s.settings = world.shared.settings) : LeavesNext world label s :=
  have kept : s.blkNext = world.shared.blkNext := blkNext_frame same rfl
  ⟨.inl kept, fun _ => kept⟩

/-- What leaves the priorities alone may at most use the block time up. -/
theorem undisturbed_spends {α : Type} {m : StateM AsyncAtmiCtx α}
    (kept : ∀ p t, Keeps (Undisturbed p t) m) (s : AsyncAtmiCtx) :
    Spends s.toBlockTimes (m.run s).2.toBlockTimes :=
  (kept s.toPriorities s.toBlockTimes s ⟨rfl, .refl _⟩).2

theorem drop_leavesNext {world : World} (f : Nat) (script : CancelScript) :
    LeavesNext world (.drop f script) (world.step (.drop f script)).shared := by
  cases found : world.futures.get f with
  | none =>
      simp only [World.step, found]
      exact leavesNext_same rfl
  | some fut =>
      simp only [World.step, found]
      refine ⟨undisturbed_spends (fun _ _ => dropFut_undisturbed script fut) world.shared, fun saves => ?_⟩
      simp only [Label.drainsUnsaved, found] at saves
      cases fut with
      | created | sending => rfl
      | waiting op w =>
          show ((dropGuard w.own script w.guard).run world.shared).2.blkNext = world.shared.blkNext
          cases held : w.guard with
          | pendingCall cd => simp [held] at saves
          | claim guard => exact blkNext_frame (dropClaim_settings guard world.shared) rfl
          | anyWaiter id => rfl

/-- A label that polls nothing. -/
theorem act_leavesNext {world : World} (label : Label) (old : label.usesNext world = false)
    (idle : ∀ f script, label ≠ .poll f script) : LeavesNext world label (world.step label).shared := by
  cases label with
  | allocData id info => exact leavesNext_same (allocData_settings id info world.shared)
  | freeData id =>
      simp only [World.step]
      split
      · exact leavesNext_same rfl
      · exact leavesNext_same (freeData_settings id world.shared)
  | make op =>
      simp only [World.step]
      split <;> exact leavesNext_same rfl
  | poll f script => exact absurd rfl (idle f script)
  | drop f script => exact drop_leavesNext f script
  | tpcancel cd script =>
      exact ⟨undisturbed_spends (fun _ _ => tpcancel_undisturbed .cancelled cd script) world.shared,
        fun saves => by cases saves⟩
  | tpsprio value absolute =>
      have kept : (AsyncAtmiCtx.tpsprio value absolute world.shared).2.blkNext = world.shared.blkNext := by
        unfold AsyncAtmiCtx.tpsprio
        split <;> rfl
      exact ⟨.inl kept, fun _ => kept⟩
  | contextTpsprio => exact ⟨.inl rfl, fun _ => rfl⟩
  | tryTpacall | tpsblktime => cases old

/-- A future that is polled again, unless it is its first poll. -/
theorem poll_leavesNext {world : World} (known : world.Known) {f : Nat} {fut : Fut} (script : PollScript)
    (found : world.futures.get f = some fut) (retried : FutRetried fut) (old : ∀ op, fut ≠ .created op)
    (restores : ∀ attempt ∈ script.send :: script.resends, attempt.restores = true) :
    LeavesNext world (.poll f script) ((poll script fut).run world.shared).2 := by
  unfold LeavesNext
  simp only [Label.drainsUnsaved, found]
  cases fut with
  | created op => exact absurd rfl (old op)
  | waiting op w =>
      have there : FutKnown world.shared (.waiting op w) := known f _ found
      refine ⟨undisturbed_spends (fun _ _ => resumed_undisturbed there.1 op script) world.shared, fun saves => ?_⟩
      simp only [Wait.drains, Bool.or_eq_false_iff] at saves
      exact resumed_asleep op script saves.2 world.shared ⟨rfl, saves.1⟩
  | sending op deadline b =>
      unfold poll
      cases script.slept with
      | false => exact ⟨.refl _, fun _ => rfl⟩
      | true =>
          obtain ⟨spends, kept⟩ := retrySend_next op deadline script.resends b script.send world.shared retried restores
          simp only [if_true, StateT.run_bind]
          rcases ran : (sendWithBackpressure op.flags deadline op.claimed b script.send script.resends).run
            world.shared with ⟨sending, s⟩
          rw [ran] at spends kept
          refine ⟨spends.trans (undisturbed_spends (fun _ _ => afterSend_undisturbed op deadline script sending) s),
            fun saves => ?_⟩
          obtain ⟨same, unclaimed⟩ := kept (by simpa using saves)
          refine Eq.trans ?_ same
          cases sending with
          | sleeping => rfl
          | finished result =>
              cases result with
              | error => rfl
              | ok submission =>
                  -- a call that is waited for would have drained
                  have unwaited := unclaimed submission rfl
                  cases op with
                  | tpacall | tpgetrply => rfl
                  | tpcall => cases unwaited

theorem isolated_step {world : World} (known : world.Known)
    (retried : ∀ f fut, world.futures.get f = some fut → FutRetried fut) (label : Label)
    (spares : sparesNext world label = true) : Isolated world label := by
  intro old
  simp only [sparesNext, old, Bool.false_or, Bool.and_eq_true, Bool.or_eq_true, decide_eq_true_eq,
    Bool.not_eq_true'] at spares
  obtain ⟨unpending, restores⟩ := spares
  suffices leaves : LeavesNext world label (world.step label).shared by
    rcases unpending with nothing | saves
    · rcases leaves.1 with kept | gone
      · exact kept
      · exact gone.trans nothing.symm
    · exact leaves.2 saves
  cases label with
  | poll f script =>
      cases found : world.futures.get f with
      | none =>
          simp only [World.step, found]
          exact leavesNext_same rfl
      | some fut =>
          rw [poll_shared script found]
          refine poll_leavesNext known script found (retried f fut found) (fun op same => ?_)
            (by simpa [Label.restores] using restores)
          simp [Label.usesNext, found, same] at old
  | _ => exact act_leavesNext _ old fun _ _ same => by cases same

/-- **A next-call block time is the next call's.**  In every run in which no block time is pending where a step for
an earlier call comes to a drain that saves nothing, each step that is not the user's next submission or wait leaves
the block time alone, whatever it sends again, drains, waits for, cancels or drops. -/
theorem blockTime_isolated (labels : List Label) (spares : machine.Along (sparesNext · · = true) labels) :
    machine.Along Isolated labels :=
  Machine.along_of (M := machine)
    (P := fun world => world.Known ∧ ∀ f fut, world.futures.get f = some fut → FutRetried fut)
    ⟨known_reachable [], fun _ _ found => by simp [machine] at found⟩
    (fun world label _ holds => ⟨step_known holds.1 label, retried_step holds.2 label⟩)
    (fun _ label spares holds => isolated_step holds.1 holds.2 label spares) labels spares

/-- A blocked `tpacall` sleeps, another task sets a block time, and the retry is blocked and drains. -/
def retriedWithNext : List Label :=
  [.make (.tpacall {}), .poll 0 { waker := 1, send := { sent := .error ⟨.TPEBLOCK, ""⟩ } }, .tpsblktime 5,
   .poll 0 { waker := 1, send := { sent := .error ⟨.TPEBLOCK, ""⟩, drained := [{ cd := 3, outcome := .ok () }] } }]

theorem retriedWithNext_isolated : machine.Along Isolated retriedWithNext :=
  blockTime_isolated retriedWithNext (by decide +kernel)

/-- A `tpcall` waits, another task sets a block time, and the `tpcall` is woken by the reply queue. -/
def drainedNext : List Label :=
  [.allocData 0 none, .make (.tpcall 0 {}), .poll 0 { waker := 1 }, .tpsblktime 5,
   .poll 0 { waker := 1, waits := [{ wake := .readable }] }]

/-- **A reply wait uses up another task's block time**, in the drain before it looks for its reply. -/
theorem drainedNext_spent : ¬ ∀ labels, machine.Along Isolated labels := by
  intro isolated
  have here := isolated drainedNext
  revert here
  decide +kernel

end Endurox.Async
