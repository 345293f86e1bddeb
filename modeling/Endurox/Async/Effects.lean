/-
# Async.Effects -- what a poll can do, said once

Everything a drain, a send, a wait or a drop does to the shared state is one of
a few operations.  `Quiet` lists those made on behalf of nobody (drains and
wakes), `Settings` those on the one-shot settings.  `Rules` collects what
a predicate must satisfy to survive each operation, with a permit `J` the
acting future holds while it waits; `poll_ends` is then the only proof that
follows the code of a poll, and every invariant is an instance of `Rules`.
-/
import Endurox.Async.Tracking

namespace Endurox.Async

open Endurox.Theory AsyncAtmiCtx

set_option autoImplicit false

/-! ## The operations -/

/-- Changes to the one-shot settings. -/
inductive Settings : AsyncAtmiCtx → AsyncAtmiCtx → Prop
  | changed (s : AsyncAtmiCtx) (priorities : Priorities) (times : BlockTimes) :
      Settings s { s with toPriorities := priorities, toBlockTimes := times }

section Quiet

variable {may : Cd → Prop} {P : AsyncAtmiCtx → Prop} (quiet : Closed (Quiet may) P)

include quiet

/-- A drain, of replies the rules allow. -/
theorem drain_keeps {replies : List NativeReply} (allowed : Allowed may replies) :
    ∀ s, P s → P (drain replies s) := fun s => quiet (.drained s replies allowed)

theorem wakeAny_keeps : ∀ s, P s → P (wakeAnyWaiters s) := fun s => quiet (.wakeAny s)

end Quiet

theorem native_keeps {P : AsyncAtmiCtx → Prop} (failure : Option AtmiError) :
    Keeps P (native failure).run := by
  cases failure with
  | none => exact Keeps.tryPure
  | some e => exact Keeps.throw

/-- A cancellation: what it drains, if the native call was gone, and the slot it releases. -/
theorem tpcancel_keeps {P Q : AsyncAtmiCtx → Prop} (quiet : Closed (Quiet fun _ => True) Q)
    {cause : Cause} {cd : Cd} (released : ∀ s, P s → Q (releaseSlot cause cd s))
    (script : CancelScript) : Ends P (tpcancel cause cd script).run fun _ => Q := by
  unfold tpcancel
  refine Ends.tryBind (F := fun _ => Q) (Ends.tryModify released) (fun _ _ holds => holds) fun _ => ?_
  refine Keeps.tryBind (Keeps.outcome (native_keeps _)) fun result => ?_
  refine Keeps.tryBind (Keeps.tryModify (drain_keeps quiet (allowed_any _))) fun _ => ?_
  exact Keeps.tryBind (Keeps.tryModify (wakeAny_keeps quiet)) fun _ => Keeps.ofExcept

/-! ## Submission -/

/-- The descriptor a send attempt may cancel again because a setting could not be restored. -/
def AsyncAtmiCtx.SendScript.undone (script : SendScript) : List Cd :=
  match script.sent with
  | .ok n =>
      if script.clearPriority.isSome || script.restoreNext.isSome then [((n + 1 : Nat) : Cd)] else []
  | .error _ => []

/-- The state after `register_submission` accepts a descriptor. -/
def registered (cd : Cd) (deadline : Option Instant) (claimed : Bool) (s : AsyncAtmiCtx) :
    AsyncAtmiCtx :=
  record (.submitted s.nextGeneration cd deadline)
    ((s.registerFresh cd claimed).recordDeadline cd deadline)

/-- What an invariant `P` must survive during a submission; `Q` is what a claimed one gives
its owner. -/
structure SendRules (mayUndo : Cd → Prop) (P : AsyncAtmiCtx → Prop)
    (Q : Submission → AsyncAtmiCtx → Prop) : Prop where
  quiet : Closed (Quiet fun _ => True) P
  settings : Closed Settings P
  undone : ∀ cd, mayUndo cd → ∀ s, P s →
    P (releaseSlot .undone cd (record (.undone cd (s.holdsReply cd)) s))
  submitted : ∀ s cd deadline claimed, 0 < cd → s.isDescriptorBusy cd = false → P s →
    P (registered cd deadline claimed s) ∧
      (claimed = true → Q ⟨cd, s.nextGeneration⟩ (registered cd deadline claimed s))

/-- The native send answers a number the script names, or 0 when no reply is wanted. -/
def Answers (flags : Flags) (script : SendScript) (result : AtmiResult Cd) : Prop :=
  ∀ cd, result = .ok cd →
    ∃ n, script.sent = .ok n ∧ cd = if flags.noReply then 0 else ((n + 1 : Nat) : Cd)

/-- A native setting call, which succeeds or fails and changes nothing of the adapter. -/
theorem native_ends {P : AsyncAtmiCtx → Prop} (failure : Option AtmiError) :
    Ends P (native failure).run fun result s => P s ∧ (∀ e, result = .error e → failure = some e) := by
  cases failure with
  | none => exact Ends.tryPure fun _ holds => ⟨holds, nofun⟩
  | some e => exact Ends.throw fun _ holds => ⟨holds, fun _ same => by cases same; rfl⟩

theorem tpgblktimeNext_keeps {P : AsyncAtmiCtx → Prop} (failure : Option AtmiError) :
    Keeps P (tpgblktimeNext failure).run :=
  Keeps.tryBind (native_keeps _) fun _ => Keeps.tryBind Keeps.tryGet fun _ => Keeps.tryPure

/-- How long a call may still block is computed, not taken from anywhere. -/
theorem remainingSeconds_keeps {P : AsyncAtmiCtx → Prop} (deadline : Option Instant) (now : Instant) :
    Keeps P (remainingSeconds deadline now).run := by
  unfold remainingSeconds
  split
  · exact Keeps.tryPure
  · split
    · exact Keeps.throw
    · exact Keeps.tryPure

/-- The rule of the loop: `I` holds before each attempt, and `R` of whatever the loop
ends in.  Only a blocked send is followed by another attempt. -/
theorem sendLoop_blocked {I : Backpressure → AsyncAtmiCtx → Prop} {R : Sending → AsyncAtmiCtx → Prop}
    {flags : Flags} {deadline : Option Instant} {claimed : Bool} (fits : SendScript → Prop)
    (failed : ∀ b e s, I b s → R (.finished (.error e)) s)
    (attempts : ∀ b script, fits script →
      Ends (I b) (attemptSend flags deadline claimed b script) fun result s => match result with
        | (.ok submission, _) => R (.finished (.ok submission)) s
        | (.error e, p) => R (.finished (.error e)) s ∧
            (e.code = .TPEBLOCK → flags.noBlock = false →
              ∀ delay, I { b with delay, retry := true, retryPriority := p } s))
    (sleeps : ∀ b wake s, b.retry = true → I b s → R (.sleeping b wake) s) :
    ∀ (more : List SendScript) (b : Backpressure) (script : SendScript),
      (∀ attempt ∈ script :: more, fits attempt) →
      Ends (I b) (sendWithBackpressure flags deadline claimed b script more) R := by
  intro more
  induction more with
  | nil =>
      intro b script fit
      unfold sendWithBackpressure
      split
      · exact Ends.pure fun s => failed b _ s
      · refine Ends.bind (attempts b script (fit script (by simp))) ?_
        rintro ⟨e | submission, p⟩
        · simp only
          split
          · rename_i blocked
            have waits : flags.noBlock = false := by simpa using blocked.2
            exact Ends.pure fun s holds => sleeps _ _ s rfl (holds.2 blocked.1 waits _)
          · exact Ends.pure fun _ holds => holds.1
        · exact Ends.pure fun _ holds => holds
  | cons next more ih =>
      intro b script fit
      unfold sendWithBackpressure
      split
      · exact Ends.pure fun s => failed b _ s
      · refine Ends.bind (attempts b script (fit script (by simp))) ?_
        rintro ⟨e | submission, p⟩
        · simp only
          split
          · rename_i blocked
            have waits : flags.noBlock = false := by simpa using blocked.2
            exact (ih _ next fun attempt member => fit attempt (by simp [member])).mono
              (fun _ holds => holds.2 blocked.1 waits _) fun _ _ rests => rests
          · exact Ends.pure fun _ holds => holds.1
        · exact Ends.pure fun _ holds => holds

/-- The same, for what any failed attempt keeps. -/
theorem sendLoop_ends {I : Backpressure → AsyncAtmiCtx → Prop} {R : Sending → AsyncAtmiCtx → Prop}
    {flags : Flags} {deadline : Option Instant} {claimed : Bool} (fits : SendScript → Prop)
    (failed : ∀ b e s, I b s → R (.finished (.error e)) s)
    (attempts : ∀ b script, fits script →
      Ends (I b) (attemptSend flags deadline claimed b script) fun result s => match result with
        | (.ok submission, _) => R (.finished (.ok submission)) s
        | (.error e, p) => R (.finished (.error e)) s ∧
            ∀ delay, I { b with delay, retry := true, retryPriority := p } s)
    (sleeps : ∀ b wake s, b.retry = true → I b s → R (.sleeping b wake) s)
    (more : List SendScript) (b : Backpressure) (script : SendScript)
    (fit : ∀ attempt ∈ script :: more, fits attempt) :
    Ends (I b) (sendWithBackpressure flags deadline claimed b script more) R := by
  refine sendLoop_blocked fits failed (fun b script fit => ?_) sleeps more b script fit
  refine (attempts b script fit).mono (fun _ holds => holds) ?_
  rintro ⟨e | submission, p⟩ s holds
  · exact ⟨holds.1, fun _ _ => holds.2⟩
  · exact holds

section Submission

variable {mayUndo : Cd → Prop} {P : AsyncAtmiCtx → Prop} {Q : Submission → AsyncAtmiCtx → Prop}
  (rules : SendRules mayUndo P Q)

include rules

/-- The priority is set or it is not. -/
theorem tpsprioNative_ends (value : Int) (absolute : Bool) (failure : Option AtmiError) :
    Ends P (tpsprioNative value absolute failure).run fun result s =>
      P s ∧ (∀ e, result = .error e → failure = some e) :=
  Ends.tryBind (native_ends _) (fun _ _ holds => ⟨holds.1, fun e same => holds.2 e (by cases same; rfl)⟩)
    fun _ => Ends.tryModify fun s holds => ⟨rules.settings (.changed s _ _) holds.1, nofun⟩

/-- The block time of the next call is set or it is not. -/
theorem tpsblktimeNext_ends (seconds : Int) (failure : Option AtmiError) :
    Ends P (tpsblktimeNext seconds failure).run fun result s =>
      P s ∧ (∀ e, result = .error e → failure = some e) :=
  Ends.tryBind (native_ends _) (fun _ _ holds => ⟨holds.1, fun e same => holds.2 e (by cases same; rfl)⟩)
    fun _ => Ends.tryModify fun s holds => ⟨rules.settings (.changed s _ _) holds.1, nofun⟩

/-- A send uses up the priority and the block time that were set for it, also if it fails. -/
theorem tpacallNative_ends (flags : Flags) (script : SendScript) :
    Ends P (tpacallNative flags script).run fun result s =>
      P s ∧ Answers flags script result := by
  unfold tpacallNative
  refine Ends.tryBind (F := fun _ => P) (Ends.tryModify fun s => rules.settings (.changed s _ _))
    (fun _ _ holds => ⟨holds, nofun⟩) fun _ => ?_
  cases sent : script.sent with
  | error e => exact Ends.throw fun _ holds => ⟨holds, nofun⟩
  | ok n => exact Ends.tryPure fun _ holds => ⟨holds, fun cd same => ⟨n, sent, by cases same; rfl⟩⟩

/-- A send taken back cancels its call, if there is one. -/
theorem undoSend_keeps {flags : Flags} {script : SendScript} {result : AtmiResult Cd}
    (answers : Answers flags script result) (allowed : ∀ cd ∈ script.undone, mayUndo cd)
    (failed : (script.clearPriority.isSome || script.restoreNext.isSome) = true)
    (cancel : CancelScript) : Keeps P (undoSend result cancel) := by
  unfold undoSend
  cases result with
  | error e => exact Keeps.pure
  | ok cd =>
      by_cases positive : 0 < cd
      · simp only [positive, if_true]
        obtain ⟨n, sent, rfl⟩ := answers cd rfl
        have mine : mayUndo (if flags.noReply then 0 else ((n + 1 : Nat) : Cd)) := by
          apply allowed
          cases noReply : flags.noReply <;> simp_all [SendScript.undone]
        refine Ends.bind (Q := fun _ s => P (releaseSlot .undone _ s))
          (Ends.ofModify (rules.undone _ mine)) fun _ => ?_
        exact Ends.bind (tpcancel_keeps rules.quiet (fun _ holds => holds) _) fun _ => Keeps.pure
      · simp only [positive, if_false]
        exact Keeps.pure

/-- The end both senders share: an undone call leaves with the failure, else the result. -/
theorem restored_ends {flags : Flags} {script : SendScript} {result : AtmiResult Cd}
    (answers : Answers flags script result) (allowed : ∀ cd ∈ script.undone, mayUndo cd)
    (restored : AtmiResult Unit) (cancel : CancelScript)
    (failed : ∀ e, restored = .error e →
      (script.clearPriority.isSome || script.restoreNext.isSome) = true) :
    Ends P (ExceptT.run (m := StateM AsyncAtmiCtx) (match restored with
      | .error e => do undoSend result cancel; throw e
      | .ok () => ofExcept result)) fun result s => P s ∧ Answers flags script result := by
  cases restored with
  | error e =>
      refine Ends.tryBind (F := fun _ => P)
        (undoSend_keeps rules answers allowed (failed e rfl) cancel) (fun _ _ holds => ⟨holds, nofun⟩)
        fun _ => Ends.throw fun _ holds => ⟨holds, nofun⟩
  | ok _ => exact Ends.ofExcept fun _ holds => ⟨holds, answers⟩

/-- A send under a priority of its own, which is set before and cleared after. -/
theorem withSendPriority_ends (priority : Option SendPriority) (flags : Flags)
    (script : SendScript) (allowed : ∀ cd ∈ script.undone, mayUndo cd) :
    Ends P (withSendPriority priority flags script).run fun result s =>
      P s ∧ Answers flags script result := by
  cases priority with
  | none => exact tpacallNative_ends rules flags script
  | some priority =>
      unfold withSendPriority
      refine Ends.tryBind (tpsprioNative_ends rules _ _ _) (fun _ _ holds => ⟨holds.1, nofun⟩)
        fun _ => Ends.ofFact fun _ => ?_
      refine Ends.tryOutcome (tpacallNative_ends rules flags script) fun result =>
        Ends.ofFact fun answers => ?_
      refine Ends.tryOutcome (tpsprioNative_ends rules _ _ _) fun cleared =>
        Ends.ofFact fun failed => ?_
      exact restored_ends rules answers allowed cleared script.undoPriority
        fun e same => by simp [failed e same]

/-- A retried send has its own priority and block time; each native call of it may fail. -/
theorem retryTpacall_ends (flags : Flags) (deadline : Option Instant) (priority : Int)
    (script : SendScript) (allowed : ∀ cd ∈ script.undone, mayUndo cd) :
    Ends P (retryTpacall flags deadline priority script).run fun result s =>
      P s ∧ Answers flags script result := by
  unfold retryTpacall
  refine Ends.tryBind (remainingSeconds_keeps _ _) (fun _ _ holds => ⟨holds, nofun⟩) fun _ => ?_
  refine Ends.tryBind (tpgblktimeNext_keeps _) (fun _ _ holds => ⟨holds, nofun⟩) fun next => ?_
  refine Ends.tryBind (tpsblktimeNext_ends rules _ _) (fun _ _ holds => ⟨holds.1, nofun⟩)
    fun _ => Ends.ofFact fun _ => ?_
  refine Ends.tryOutcome (withSendPriority_ends rules _ flags script allowed) fun result =>
    Ends.ofFact fun answers => ?_
  refine Ends.tryOutcome (tpsblktimeNext_ends rules _ _) fun restored =>
    Ends.ofFact fun failed => ?_
  exact restored_ends rules answers allowed restored script.undoNext
    fun e same => by simp [failed e same]

/-- A registration succeeds only for a number nobody tracks, and then its slot is new. -/
theorem registerSubmission_ends (cd : Cd) (deadline : Option Instant) (claimed : Bool)
    (busyDrained : List NativeReply) :
    Ends P (registerSubmission cd deadline claimed busyDrained).run fun result s =>
      P s ∧ ∀ submission, result = .ok submission → submission.cd = cd ∧
        (0 < cd → claimed = true → Q submission s) := by
  unfold registerSubmission
  refine Ends.tryBind (F := fun result s => P s ∧ result = .ok s)
    (Ends.tryGet fun _ holds => ⟨holds, rfl⟩) (fun _ _ holds => nomatch holds.2) fun before => ?_
  split
  · refine Ends.tryBind (F := fun _ => P)
      (Ends.tryModify fun s holds => drain_keeps rules.quiet (allowed_any _) s holds.1)
      (fun _ _ holds => ⟨holds, nofun⟩) fun _ => ?_
    refine Ends.tryBind (F := fun _ => P) (Ends.tryModify (wakeAny_keeps rules.quiet))
      (fun _ _ holds => ⟨holds, nofun⟩) fun _ => Ends.throw fun _ holds => ⟨holds, nofun⟩
  · rename_i free
    split
    · rename_i positive
      refine Ends.tryBind (F := fun _ s => P s ∧
          (claimed = true → Q ⟨cd, before.nextGeneration⟩ s)) (Ends.tryModify ?_)
        (fun _ _ holds => ⟨holds.1, nofun⟩) fun _ => Ends.tryPure ?_
      · rintro s ⟨holds, same⟩
        cases same
        exact rules.submitted _ cd deadline claimed positive (by simpa [positive] using free) holds
      · rintro s ⟨holds, owns⟩
        refine ⟨holds, fun submission same => ?_⟩
        cases same
        exact ⟨rfl, fun _ => owns⟩
    · rename_i negative
      refine Ends.tryPure fun s holds => ⟨holds.1, fun submission same => ?_⟩
      cases same
      exact ⟨rfl, fun positive => absurd positive negative⟩

/-- Between two attempts the queue is relieved by a drain. -/
theorem relieve_keeps (script : SendScript) : Keeps P (relieve script).run := by
  unfold relieve
  refine Keeps.tryBind (tpgblktimeNext_keeps _) fun next => ?_
  refine Keeps.tryBind (Keeps.tryModify (drain_keeps rules.quiet (allowed_any _))) fun _ => ?_
  refine Keeps.tryBind (Keeps.tryModify (wakeAny_keeps rules.quiet)) fun _ => ?_
  exact (tpsblktimeNext_ends rules _ _).mono (fun _ holds => holds) fun _ _ holds => holds.1

/-- The priority of a backpressured call is looked up once, before its first retry. -/
theorem resolvePriority_keeps (b : Backpressure) (script : SendScript) :
    Keeps P (resolvePriority b script).run := by
  unfold resolvePriority
  split
  · exact Keeps.tryPure
  · refine Keeps.tryBind Keeps.ofExcept fun _ => ?_
    exact Keeps.tryBind (Keeps.tryModify fun s holds => rules.settings (.changed s _ _) holds)
      fun _ => Keeps.tryPure

/-- What a submission that returns its descriptor leaves to a `tpcall`. -/
def Owns (Q : Submission → AsyncAtmiCtx → Prop) (flags : Flags) (claimed : Bool)
    (result : AtmiResult Submission) (s : AsyncAtmiCtx) : Prop :=
  ∀ submission, result = .ok submission → claimed = true → flags.noReply = false → Q submission s

/-- **One attempt**: sent and registered, refused for a full queue, or failed. -/
theorem attemptSend_ends (flags : Flags) (deadline : Option Instant) (claimed : Bool)
    (b : Backpressure) (script : SendScript) (allowed : ∀ cd ∈ script.undone, mayUndo cd) :
    Ends P (attemptSend flags deadline claimed b script) fun result s =>
      P s ∧ Owns Q flags claimed result.1 s := by
  unfold attemptSend
  refine Ends.bind (Q := fun _ => P)
    (Ends.ofModify fun s holds => rules.settings (.changed s _ _) holds) fun _ => ?_
  refine Ends.bind (Q := fun result s =>
    P s ∧ Answers { flags with noBlock := true } script result) ?_ fun result =>
      Ends.ofFact fun answers => ?_
  · cases b.retry with
    | true =>
        cases b.retryPriority with
        | none => exact Ends.throw fun _ holds => ⟨holds, nofun⟩
        | some priority => exact retryTpacall_ends rules _ deadline priority script allowed
    | false => exact withSendPriority_ends rules b.priority _ script allowed
  · cases result with
    | ok cd =>
        refine Ends.bind (registerSubmission_ends rules cd deadline claimed _) fun registered =>
          Ends.pure fun s holds => ⟨holds.1, fun submission same own replies => ?_⟩
        obtain ⟨_, owns⟩ := holds.2 submission same
        obtain ⟨n, _, rfl⟩ := answers cd rfl
        exact owns (by simp [replies]) own
    | error e =>
        have failed : ∀ (e : AtmiError) (p : Option Int) (s : AsyncAtmiCtx), P s →
            P s ∧ Owns Q flags claimed (((.error e, p) : AtmiResult Submission × Option Int).1) s :=
          fun _ _ _ holds => ⟨holds, nofun⟩
        simp only
        split
        · refine Ends.bind (resolvePriority_keeps rules b script) fun resolved => ?_
          cases resolved with
          | error _ => exact Ends.pure (failed _ _)
          | ok _ =>
              refine Ends.bind (relieve_keeps rules script) fun relieved => ?_
              cases relieved with
              | error _ => exact Ends.pure (failed _ _)
              | ok _ => exact Ends.pure (failed _ _)
        · exact Ends.pure (failed _ _)

/-- **A send under backpressure**: by induction on the attempts it takes within the poll. -/
theorem sendWithBackpressure_ends (flags : Flags) (deadline : Option Instant) (claimed : Bool)
    (more : List SendScript) (b : Backpressure) (script : SendScript)
    (allowed : ∀ attempt ∈ script :: more, ∀ cd ∈ attempt.undone, mayUndo cd) :
    Ends P (sendWithBackpressure flags deadline claimed b script more) fun sending s =>
      P s ∧ ∀ result, sending = .finished result → Owns Q flags claimed result s := by
  refine sendLoop_ends _ (I := fun _ => P) (R := fun sending s => P s ∧ ∀ result, sending = .finished result →
    Owns Q flags claimed result s) (fun _ e _ holds => ⟨holds, fun result same => by cases same; nofun⟩)
    (fun b script allowed => ?_) (fun _ _ _ _ holds => ⟨holds, fun _ impossible => nomatch impossible⟩)
    more b script allowed
  refine (attemptSend_ends rules flags deadline claimed b script allowed).mono (fun _ holds => holds) ?_
  rintro ⟨e | submission, p⟩ s ⟨holds, owns⟩
  · exact ⟨⟨holds, fun result same => by cases same; nofun⟩, fun _ => holds⟩
  · exact ⟨holds, fun result same => by cases same; exact owns⟩

end Submission

/-! ## Waiting for a reply -/

/-- How a guard, a target and a claim belong together. -/
def AsyncAtmiCtx.Wait.Shaped (w : Wait) : Prop :=
  match w.guard with
  | .pendingCall cd =>
      w.target = .one cd ∧ w.cancelOnTimeout = false ∧ ∃ generation, w.own = .call generation
  | .claim guard => w.target = .one guard.cd ∧ w.own = .waiter guard.id
  | .anyWaiter id => w.target = .any id ∧ w.own = .any id

/-- What an invariant `P` must survive while `w` waits.  `J` is what `w` may rely on until it
collects, `M` what it keeps until it is over. -/
structure WaitRules (may : Cd → Prop) (w : Wait) (P J M : AsyncAtmiCtx → Prop) : Prop where
  quiet : Closed (Quiet fun _ => True) P
  permit : ∀ {s s'}, Quiet may s s' → P s → J s → J s'
  parked : ∀ s waker, P s → J s →
    P (s.parkWaker w.target w.own waker) ∧ J (s.parkWaker w.target w.own waker)
  collected : ∀ s choice cd result s', P s → J s →
    takeReady w.target w.own w.data w.flags choice s = (some (cd, result), s') →
    P (s'.forgetDeadline cd) ∧ M (s'.forgetDeadline cd)
  errorTaken : ∀ s id, w.target = .any id → P s → J s →
    P (s.takeAnyError id).2 ∧ J (s.takeAnyError id).2
  keeps : ∀ s, J s → NothingReady w.target s → M s
  timedOut : ∀ s cd, w.target = .one cd → P s → J s → s.isReady cd = false →
    P (releaseSlot (.timedOut w.own) cd s) ∧ M (releaseSlot (.timedOut w.own) cd s)

/-- The waker is stored where the target's next event takes it from. -/
def Parked (target : Target) (waker : Waker) (s : AsyncAtmiCtx) : Prop :=
  match target with
  | .one cd => ∀ slot, s.slots.get cd = some slot → slot.isReady = false →
      slotWaker slot = some waker
  | .any id => ∀ entry, s.anyWaiters.get id = some entry → entry.waker = some waker

theorem parkWaker_parked (target : Target) (own : Own) (waker : Waker) (s : AsyncAtmiCtx) :
    Parked target waker (s.parkWaker target own waker) := by
  cases target with
  | one cd =>
      intro slot found waits
      rw [parkWaker_slots, Option.map_eq_some_iff] at found
      obtain ⟨before, _, rfl⟩ := found
      cases before <;> simp_all [Slot.parked, slotWaker, Slot.isReady]
  | any id =>
      intro entry found
      rw [parkWaker_anyWaiters, Option.map_eq_some_iff] at found
      obtain ⟨before, _, rfl⟩ := found
      simp

/-- No outcome is parked under the claim of a `tpgetrply` that ends. -/
def Quits (w : Wait) (s : AsyncAtmiCtx) : Prop :=
  ∀ cd id slot, w.target = .one cd → w.own = .waiter id → s.slots.get cd = some slot →
    slot.claim = some (.waiter id) → slot.isReady = false

/-- How a wait is left by a collection attempt that ended. -/
def Collects (w : Wait) (P M : AsyncAtmiCtx → Prop) (result : Collected) (s : AsyncAtmiCtx) : Prop :=
  Quits w s ∧ match result with
  | .ok (cd, _) =>
      P (s.forgetDeadline cd) ∧ M (s.forgetDeadline cd) ∧ ∀ cd', w.target = .one cd' → cd = cd'
  | .error _ => P s ∧ (w.cancelOnTimeout = false → M s)

/-- Where nothing is ready nothing is collected. -/
theorem quits_of_nothing {w : Wait} {s : AsyncAtmiCtx} (nothing : NothingReady w.target s) :
    Quits w s := by
  intro cd id slot target _ found _
  simpa [NothingReady, target, isReady, found] using nothing

/-- After a take: the reply, or nothing there to collect. -/
def Took (w : Wait) (P J M : AsyncAtmiCtx → Prop) (s : AsyncAtmiCtx) :
    Option (Cd × AtmiResult Unit) → Prop
  | none => P s ∧ J s ∧ NothingReady w.target s
  | some found => Collects w P M (.ok found) s

/-- After `tryCollect`: the end of the wait, or nothing to do but wait. -/
def Tried (w : Wait) (P J M : AsyncAtmiCtx → Prop) (s : AsyncAtmiCtx) : Option Collected → Prop
  | none => P s ∧ J s ∧ s.isTargetReady w.target = false
  | some result => Collects w P M result s

/-- After `afterWake`: a parked wait, another round, or the end of the wait. -/
def Woke (w : Wait) (waker : Waker) (P J M : AsyncAtmiCtx → Prop) (s : AsyncAtmiCtx) : Woken → Prop
  | .pending => P s ∧ J s ∧ Parked w.target waker s ∧ s.isTargetReady w.target = false
  | .again => P s ∧ J s
  | .finished result => Collects w P M result s

/-- After `awaitReply`: a parked wait with nothing to do, or the end of the wait. -/
def Rests (w : Wait) (waker : Waker) (P J M : AsyncAtmiCtx → Prop) (s : AsyncAtmiCtx) :
    Awaited → Prop
  | .suspended => P s ∧ J s ∧ Parked w.target waker s ∧ s.isTargetReady w.target = false
  | .finished result => Collects w P M result s

/-- A fresh script answers nothing, so a wait that is not ready stays pending. -/
theorem afterWake_quiet {w : Wait} {waker : Waker} {s : AsyncAtmiCtx}
    (waits : s.isTargetReady w.target = false) :
    (afterWake w waker {}).run s = (.pending, s.parkWaker w.target w.own waker) := by
  have still : (s.parkWaker w.target w.own waker).isTargetReady w.target = false :=
    parkWaker_notReady waits
  simp [afterWake, waitForWake, still]
  rfl

/-! ## Nobody's claim -/

/-- No `tpgetrply` has a claim on `cd`. -/
def Unclaimed (cd : Cd) (s : AsyncAtmiCtx) : Prop :=
  ∀ slot, s.slots.get cd = some slot → slot.claim = none

theorem unclaimed_quiet {may : Cd → Prop} (cd : Cd) : Closed (Quiet may) (Unclaimed cd) :=
  quiet_drains (P := fun t => ∀ slot, t.slots.get cd = some slot → slot.claim = none)
    fun _ _ moved unclaimed _ found => moved.unclaimed unclaimed found

section Waiting

variable {may : Cd → Prop} {w : Wait} {P J M : AsyncAtmiCtx → Prop} (rules : WaitRules may w P J M)

include rules

theorem take_ends (choice : Cd) :
    Ends (fun s => P s ∧ J s) (w.take choice) fun ready s => Took w P J M s ready := by
  refine Ends.ofModifyGet fun s holds => ?_
  obtain ⟨none, nothing⟩ | ⟨cd, generation, origin, outcome, buf, claim, _, takes, taken⟩ :=
    takeReady_cases w.target w.own w.data w.flags choice s
  · rw [none]
    exact ⟨holds.1, holds.2, nothing⟩
  · have after := rules.collected s choice _ _ _ holds.1 holds.2 taken
    rw [taken]
    refine ⟨fun cd' id slot target _ found => ?_, after.1, after.2, fun cd' same => ?_⟩
    · have same : cd' = cd := by simpa [Target.takes, target, eq_comm] using takes
      simp [record, same] at found
    · simpa [Target.takes, same] using takes

/-- What a wait may count on after a drain. -/
theorem drain_permits {replies : List NativeReply} (allowed : Allowed may replies) :
    ∀ s, P s ∧ J s → P (drain replies s) ∧ J (drain replies s) := by
  refine drain_keeps (P := fun s => P s ∧ J s) ?_ allowed
  intro s s' moved holds
  exact ⟨rules.quiet moved.weaken holds.1, rules.permit moved holds.1 holds.2⟩

theorem takeAnyError_ends (id : Nat) (same : w.target = .any id) :
    Ends (fun s => P s ∧ J s ∧ NothingReady w.target s) (modifyGet (takeAnyError id))
      fun err s => P s ∧ J s ∧ NothingReady w.target s ∧
        (err = none → s.isTargetReady w.target = false) := by
  refine Ends.ofModifyGet fun s holds => ?_
  have nothing : NothingReady w.target (s.takeAnyError id).2 := by
    have before := holds.2.2
    rw [same] at before ⊢
    cases found : s.anyWaiters.get id <;> simpa [takeAnyError, found, NothingReady] using before
  obtain ⟨kept, still⟩ := rules.errorTaken s id same holds.1 holds.2.1
  refine ⟨kept, still, nothing, fun missing => ?_⟩
  refine isTargetReady_false.2 ⟨nothing, fun id' any => ?_⟩
  cases same.symm.trans any
  cases found : s.anyWaiters.get id <;> simp_all [takeAnyError, hasAnyError]

/-- The last test of `tryCollect`. -/
theorem nonblocking_ends :
    Ends (fun s => P s ∧ J s ∧ s.isTargetReady w.target = false)
      (if w.flags.noBlock = true then
        pure (some (.error ⟨.TPEBLOCK, "TPNOBLOCK was specified and no reply is available"⟩))
      else pure none : StateM AsyncAtmiCtx (Option Collected)) fun result s =>
      Tried w P J M s result := by
  split
  · refine Ends.pure fun s holds => ?_
    have nothing := (isTargetReady_false.1 holds.2.2).1
    exact ⟨quits_of_nothing nothing, holds.1, fun _ => rules.keeps s holds.2.1 nothing⟩
  · exact Ends.pure fun _ holds => holds

/-- One attempt to collect, with at most one drain. -/
theorem tryCollect_ends (script : WaitScript) (allowed : Allowed may script.before) :
    Ends (fun s => P s ∧ J s) (tryCollect w script) fun result s => Tried w P J M s result := by
  unfold tryCollect
  refine Ends.bind (take_ends rules _) fun ready => ?_
  cases ready with
  | some found => exact Ends.pure fun _ holds => holds
  | none =>
      refine Ends.bind (Q := fun _ s => P s ∧ J s) (Ends.ofModify fun s holds =>
        drain_permits rules allowed s ⟨holds.1, holds.2.1⟩) fun _ => ?_
      refine Ends.bind (take_ends rules _) fun ready => ?_
      cases ready with
      | some found => exact Ends.pure fun _ holds => holds
      | none =>
          simp only
          cases same : w.target with
          | one cd =>
              refine (nonblocking_ends rules).mono (fun s holds => ⟨holds.1, holds.2.1, ?_⟩)
                fun _ _ holds => holds
              exact isTargetReady_false.2 ⟨holds.2.2, by simp [same]⟩
          | any id =>
              refine Ends.bind (takeAnyError_ends rules id same) fun err => ?_
              cases err with
              | some err => exact Ends.pure fun s holds =>
                  ⟨quits_of_nothing holds.2.2.1, holds.1, fun _ => rules.keeps s holds.2.1 holds.2.2.1⟩
              | none =>
                  exact (nonblocking_ends rules).mono
                    (fun s holds => ⟨holds.1, holds.2.1, holds.2.2.2 rfl⟩) fun _ _ holds => holds

/-- A sleep parks the waker and reads nothing. -/
theorem waitForWake_ends (waker : Waker) (script : WakeScript) :
    Ends (fun s => P s ∧ J s) (waitForWake w waker script) fun wake s =>
      P s ∧ J s ∧ (wake = none → Parked w.target waker s ∧ s.isTargetReady w.target = false) ∧
        (∀ e, wake = some (.error e) → NothingReady w.target s) := by
  unfold waitForWake
  refine Ends.bind (Q := fun _ s => P s ∧ J s ∧ Parked w.target waker s)
    (Ends.ofModify fun s holds => ?_) fun _ => ?_
  · have parked := rules.parked s waker holds.1 holds.2
    exact ⟨parked.1, parked.2, parkWaker_parked w.target w.own waker s⟩
  refine Ends.bind (Q := fun before s => P s ∧ J s ∧ Parked w.target waker s ∧ before = s)
    (Ends.ofGet fun s holds => ⟨holds.1, holds.2.1, holds.2.2, rfl⟩) fun before => ?_
  split
  · exact Ends.pure fun s holds => ⟨holds.1, holds.2.1, nofun, nofun⟩
  · rename_i waits
    have pending : ∀ s, P s ∧ J s ∧ Parked w.target waker s ∧ before = s →
        Parked w.target waker s ∧ s.isTargetReady w.target = false :=
      fun s holds => ⟨holds.2.2.1, by simpa [holds.2.2.2] using waits⟩
    cases script with
    | pending => exact Ends.pure fun s holds => ⟨holds.1, holds.2.1, fun _ => pending s holds, nofun⟩
    | readable => exact Ends.pure fun s holds => ⟨holds.1, holds.2.1, nofun, nofun⟩
    | failed => exact Ends.pure fun s holds => ⟨holds.1, holds.2.1, nofun,
        fun _ _ => (isTargetReady_false.1 (pending s holds).2).1⟩
    | timer now =>
        refine Ends.pure fun s holds => ⟨holds.1, holds.2.1, fun _ => pending s holds, fun e failed => ?_⟩
        split at failed <;> cases failed

/-- What a wait does when it is woken, by a reply or at its deadline. -/
theorem afterWake_ends (waker : Waker) (script : WaitScript) (allowed : Allowed may script.after) :
    Ends (fun s => P s ∧ J s) (afterWake w waker script) fun woken s =>
      Woke w waker P J M s woken := by
  have drained : ∀ wake : Option (AtmiResult Wake), Ends (fun s => P s ∧ J s ∧
      (wake = none → Parked w.target waker s ∧ s.isTargetReady w.target = false) ∧
      (∀ e, wake = some (.error e) → NothingReady w.target s))
      (modify (drain script.after)) fun _ s => P s ∧ J s :=
    fun _ => Ends.ofModify fun s holds => drain_permits rules allowed s ⟨holds.1, holds.2.1⟩
  unfold afterWake
  refine Ends.bind (waitForWake_ends rules waker script.wake) fun wake => ?_
  match wake with
  | none => exact Ends.pure fun s holds => ⟨holds.1, holds.2.1, holds.2.2.1 rfl⟩
  | some (.error e) => exact Ends.pure fun s holds => ⟨quits_of_nothing (holds.2.2.2 e rfl), holds.1,
      fun _ => rules.keeps s holds.2.1 (holds.2.2.2 e rfl)⟩
  | some (.ok .progress) =>
      refine Ends.bind (drained _) fun _ => Ends.bind (take_ends rules _) fun ready => ?_
      cases ready with
      | some found => exact Ends.pure fun _ holds => holds
      | none => exact Ends.pure fun _ holds => ⟨holds.1, holds.2.1⟩
  | some (.ok .timeout) =>
      refine Ends.bind (drained _) fun _ => Ends.bind (take_ends rules _) fun ready => ?_
      cases ready with
      | some found => exact Ends.pure fun _ holds => holds
      | none =>
          simp only
          cases same : w.target with
          | any id => exact Ends.pure fun s holds =>
              ⟨quits_of_nothing holds.2.2, holds.1, fun _ => rules.keeps s holds.2.1 holds.2.2⟩
          | one cd =>
              have released := fun s (holds : Took w P J M s none) =>
                rules.timedOut s cd same holds.1 holds.2.1
                  (by simpa [NothingReady, same] using holds.2.2)
              have gone : ∀ s, Unclaimed cd (releaseSlot (.timedOut w.own) cd s) :=
                fun s slot found => by simp at found
              have quits : ∀ s, Unclaimed cd s → Quits w s := by
                intro s unclaimed cd' id slot target _ found claimed
                cases same.symm.trans target
                exact absurd claimed (by simp [unclaimed slot found])
              simp only
              split
              · rename_i cancels
                refine Ends.bind (Q := fun _ s => P s ∧ Unclaimed cd s)
                  (tpcancel_keeps (fun moved holds => ⟨rules.quiet moved holds.1,
                    unclaimed_quiet cd moved holds.2⟩) (fun s holds => ⟨(released s holds).1, gone s⟩) _)
                  fun _ => Ends.pure fun s holds => ⟨quits s holds.2, holds.1, by simp [cancels]⟩
              · exact Ends.bind (Q := fun _ s => Unclaimed cd s ∧ P s ∧ M s)
                  (Ends.ofModify fun s holds => ⟨gone s, released s holds⟩)
                  fun _ => Ends.pure fun s holds => ⟨quits s holds.1, holds.2.1, fun _ => holds.2.2⟩

/-- **What a wait does within a poll**: by induction on how often it is woken. -/
theorem awaitReply_ends (waker : Waker) :
    ∀ scripts : List WaitScript,
      (∀ script ∈ scripts, Allowed may script.before ∧ Allowed may script.after) →
      Ends (fun s => P s ∧ J s) (awaitReply w waker scripts) fun awaited s =>
        Rests w waker P J M s awaited := by
  intro scripts
  induction scripts with
  | nil =>
      intro _
      unfold awaitReply
      refine Ends.bind (tryCollect_ends rules {} (by simp [Allowed])) fun result => ?_
      cases result with
      | some ended => exact Ends.pure fun _ holds => holds
      | none =>
          intro s holds
          have parked := rules.parked s waker holds.1 holds.2.1
          have quiet : (afterWake w waker {}).run s = _ := afterWake_quiet holds.2.2
          refine cast ?_ (show Rests w waker P J M (s.parkWaker w.target w.own waker) .suspended from
            ⟨parked.1, parked.2, parkWaker_parked _ _ _ _, parkWaker_notReady holds.2.2⟩)
          simp [bind, StateT.bind, StateT.run] at quiet ⊢
          simp [quiet]
          rfl
  | cons script more ih =>
      intro allowed
      unfold awaitReply
      refine Ends.bind (tryCollect_ends rules script (allowed script (by simp)).1) fun result => ?_
      cases result with
      | some ended => exact Ends.pure fun _ holds => holds
      | none =>
          refine Ends.bind ((afterWake_ends rules waker script (allowed script (by simp)).2).mono
            (fun s holds => ⟨holds.1, holds.2.1⟩) fun _ _ holds => holds) fun woken => ?_
          cases woken with
          | pending => exact Ends.pure fun _ holds => holds
          | finished result => exact Ends.pure fun _ holds => holds
          | again => exact ih fun s member => allowed s (by simp [member])

/-- A wait polled again begins where it slept. -/
theorem resumeReply_ends (waker : Waker) (scripts : List WaitScript)
    (allowed : ∀ script ∈ scripts, Allowed may script.before ∧ Allowed may script.after) :
    Ends (fun s => P s ∧ J s) (resumeReply w waker scripts) fun awaited s =>
      Rests w waker P J M s awaited := by
  cases scripts with
  | nil =>
      unfold resumeReply
      refine Ends.bind (afterWake_ends rules waker {} (by simp [Allowed])) fun woken => ?_
      cases woken with
      | pending => exact Ends.pure fun _ holds => holds
      | finished result => exact Ends.pure fun _ holds => holds
      | again => exact awaitReply_ends rules waker [] (by simp)
  | cons script more =>
      unfold resumeReply
      refine Ends.bind (afterWake_ends rules waker script (allowed script (by simp)).2) fun woken => ?_
      cases woken with
      | pending => exact Ends.pure fun _ holds => holds
      | finished result => exact Ends.pure fun _ holds => holds
      | again => exact awaitReply_ends rules waker more fun s member => allowed s (by simp [member])

end Waiting

/-! ## Polls and drops -/

/-- What `P` must survive when the guard of `w` drops; `Pw` is `P` with what the wait knows. -/
structure GuardRules (w : Wait) (Pw M P : AsyncAtmiCtx → Prop) : Prop where
  released : ∀ s cd, w.guard = .pendingCall cd → Pw s → M s → P (releaseSlot (.dropped w.own) cd s)
  dropped : ∀ s guard, w.guard = .claim guard → Pw s → Quits w s → P (s.dropClaim guard)
  deregistered : ∀ s id, w.guard = .anyWaiter id → Pw s → P (s.deregisterAnyWaiter id)

/-- What an invariant must survive from the moment a future waits for a reply. -/
structure ReplyRules (may : Cd → Prop) (P : AsyncAtmiCtx → Prop)
    (Pw J M : Wait → AsyncAtmiCtx → Prop) : Prop where
  drains : Closed (Quiet fun _ => True) P
  wait : ∀ w, WaitRules may w (Pw w) (J w) (M w)
  guard : ∀ w, GuardRules w (Pw w) (M w) P
  weaken : ∀ w s, Pw w s → P s

structure PollRules (may mayUndo : Cd → Prop) (P : AsyncAtmiCtx → Prop)
    (Pw J M : Wait → AsyncAtmiCtx → Prop) : Prop extends ReplyRules may P Pw J M where
  send : SendRules mayUndo P fun submission s => ∀ data flags deadline,
    let w := callWait submission data flags deadline
    Pw w s ∧ J w s

/-- What a future needs of the state it is polled in. -/
def Fit (P : AsyncAtmiCtx → Prop) (Pw J : Wait → AsyncAtmiCtx → Prop) (clock : Clock)
    (s : AsyncAtmiCtx) : Fut → Prop
  | .created (.tpgetrply cd data flags) => P s ∧ ∀ w s',
      (beginGetrply cd data flags clock).run.run s = (.ok w, s') → w.Shaped ∧ Pw w s' ∧ J w s'
  | .created _ => P s
  | .sending op _ _ => P s ∧ (op.claimed = true → op.flags.noReply = false)
  | .waiting _ w => w.Shaped ∧ Pw w s ∧ J w s

/-- How a poll leaves the future and the state. -/
def Left (P : AsyncAtmiCtx → Prop) (Pw J : Wait → AsyncAtmiCtx → Prop) (waker : Waker)
    (s : AsyncAtmiCtx) : Polled → Prop
  | .pending (.waiting _ w') => ∃ w, w' = { w with waker, mark := s.woken.length, seen := s.failures.length } ∧ w.Shaped ∧
      Pw w s ∧ J w s ∧ Parked w.target waker s ∧ s.isTargetReady w.target = false
  | .pending (.sending op _ _) => P s ∧ (op.claimed = true → op.flags.noReply = false)
  | _ => P s

theorem releaseSlot_forgetDeadline (cause : Cause) (cd : Cd) (s : AsyncAtmiCtx) :
    releaseSlot cause cd (s.forgetDeadline cd) = releaseSlot cause cd s := by
  have same : (s.forgetDeadline cd).forgetDeadline cd = s.forgetDeadline cd := by
    have gone : (s.deadlines.del cd).del cd = s.deadlines.del cd :=
      Table.del_of_get_none (by simp)
    simp [forgetDeadline, gone]
  simp [releaseSlot, same]

theorem checkSupportedFlags_keeps {P : AsyncAtmiCtx → Prop} (flags : Flags) :
    Keeps P (checkSupportedFlags flags).run := by
  unfold checkSupportedFlags
  split
  · exact Keeps.throw
  · split
    · exact Keeps.throw
    · exact Keeps.tryPure

theorem rejectTpnoreply_ends {P : AsyncAtmiCtx → Prop} (flags : Flags) :
    Ends P (rejectTpnoreply flags).run fun result s =>
      P s ∧ (result = .ok () → flags.noReply = false) := by
  unfold rejectTpnoreply
  split
  · exact Ends.throw fun _ holds => ⟨holds, nofun⟩
  · rename_i replies
    exact Ends.tryPure fun _ holds => ⟨holds, fun _ => by simpa using replies⟩

/-- A deadline is read off the flags, the settings and the clock. -/
theorem deadlineFor_keeps {P : AsyncAtmiCtx → Prop} (flags : Flags) (clock : Clock) :
    Keeps P (deadlineFor flags clock).run := by
  unfold deadlineFor
  split
  · exact Keeps.tryPure
  · unfold replyDeadline
    refine Keeps.tryBind Keeps.ofExcept fun _ => Keeps.tryBind Keeps.tryGet fun s => ?_
    split
    · exact Keeps.tryPure
    · split
      · exact Keeps.throw
      · exact Keeps.tryPure

theorem getrplyDeadline_keeps {P : AsyncAtmiCtx → Prop} (cd : Cd) (flags : Flags) (clock : Clock) :
    Keeps P (getrplyDeadline cd flags clock).run := by
  unfold getrplyDeadline
  refine Keeps.tryBind Keeps.tryGet fun s => ?_
  split
  · split
    · exact Keeps.tryPure
    · exact deadlineFor_keeps flags clock
  · split
    · exact Keeps.tryPure
    · exact deadlineFor_keeps flags clock

/-- The checks before a submission change nothing, and a `tpcall` expects a reply. -/
theorem checked_ends {P : AsyncAtmiCtx → Prop} (op : Op) (clock : Clock) :
    Ends P (ExceptT.run (m := StateM AsyncAtmiCtx) do
        checkSupportedFlags op.flags
        if op.claimed then rejectTpnoreply op.flags
        deadlineFor op.flags clock) fun result s =>
      P s ∧ ((∃ deadline, result = .ok deadline) → op.claimed = true → op.flags.noReply = false) := by
  refine Ends.tryBind (F := fun _ => P) (checkSupportedFlags_keeps _)
    (fun _ _ holds => ⟨holds, nofun⟩) fun _ => ?_
  cases claimed : op.claimed with
  | false =>
      exact (deadlineFor_keeps (P := P) op.flags clock).mono (fun _ holds => holds)
        fun _ _ holds => ⟨holds, nofun⟩
  | true =>
      refine Ends.tryBind (rejectTpnoreply_ends op.flags) (fun _ _ holds => ⟨holds.1, nofun⟩)
        fun _ => Ends.ofFact fun replies => ?_
      exact (deadlineFor_keeps (P := P) op.flags clock).mono (fun _ holds => holds)
        fun _ _ holds => ⟨holds, fun _ _ => replies rfl⟩

/-- How a `tpgetrply` begins: refused with nothing changed, registered for any reply, or with
the claim on its descriptor. -/
theorem beginGetrply_cases (cd : Cd) (data : BufId) (flags : Flags) (clock : Clock)
    (s : AsyncAtmiCtx) :
    (∃ e, (beginGetrply cd data flags clock).run.run s = (.error e, s)) ∨
    (∃ deadline, flags.getAny = true ∧
      let id := s.registerAnyWaiter.1
      (beginGetrply cd data flags clock).run.run s =
        (.ok { target := .any id, own := .any id, guard := .anyWaiter id, data, flags, deadline,
               cancelOnTimeout := true }, s.registerAnyWaiter.2)) ∨
    (∃ deadline guard s', flags.getAny = false ∧ s.claim cd = (.ok guard, s') ∧
      (beginGetrply cd data flags clock).run.run s =
        (.ok { target := .one cd, own := .waiter guard.id, guard := .claim guard, data, flags,
               deadline, cancelOnTimeout := true }, s')) := by
  unfold beginGetrply
  obtain ⟨_ | _, ran⟩ := (checkSupportedFlags_keeps (P := (· = s)) flags).unchanged
  · exact .inl ⟨_, run_tryBind_error ran⟩
  rw [run_tryBind_ok ran]
  obtain ⟨_ | deadline, ran⟩ := (getrplyDeadline_keeps (P := (· = s)) cd flags clock).unchanged
  · exact .inl ⟨_, run_tryBind_error ran⟩
  rw [run_tryBind_ok ran]
  cases any : flags.getAny with
  | true => exact .inr (.inl ⟨deadline, rfl, rfl⟩)
  | false =>
      have ran : (modifyGet (claim cd) : Act _).run.run s = (.ok (s.claim cd).1, (s.claim cd).2) := rfl
      simp only [Bool.false_eq_true, if_false]
      rw [run_tryBind_ok ran]
      rcases claimed : s.claim cd with ⟨e | guard, s'⟩
      · have same : s' = s := by
          unfold claim at claimed
          split at claimed
          · cases claimed; rfl
          · simp only at claimed
            split at claimed
            · cases claimed
            · split at claimed <;> cases claimed
              rfl
        exact .inl ⟨e, by subst same; rfl⟩
      · exact .inr (.inr ⟨deadline, guard, s', trivial, rfl, rfl⟩)

/-- A `tpgetrply` may be polled for the first time if both ways it may begin allow it. -/
theorem fit_getrply {P : AsyncAtmiCtx → Prop} {Pw J : Wait → AsyncAtmiCtx → Prop} {clock : Clock}
    {s : AsyncAtmiCtx} {cd : Cd} {data : BufId} {flags : Flags} (holds : P s)
    (any : flags.getAny = true → ∀ w : Wait, let id := s.registerAnyWaiter.1
      w.Shaped → w.own = .any id → w.guard = .anyWaiter id →
      Pw w s.registerAnyWaiter.2 ∧ J w s.registerAnyWaiter.2)
    (one : ∀ (w : Wait) (guard : ReplyClaimGuard) (s' : AsyncAtmiCtx),
      s.claim cd = (.ok guard, s') → w.Shaped → w.own = .waiter guard.id →
      w.guard = .claim guard → Pw w s' ∧ J w s') :
    Fit P Pw J clock s (.created (.tpgetrply cd data flags)) := by
  refine ⟨holds, fun w s' begun => ?_⟩
  obtain ⟨e, ran⟩ | ⟨deadline, getAny, ran⟩ | ⟨deadline, guard, s'', _, claimed, ran⟩ :=
    beginGetrply_cases cd data flags clock s <;> rw [ran] at begun <;> cases begun
  · exact ⟨⟨rfl, rfl⟩, any getAny _ ⟨rfl, rfl⟩ rfl rfl⟩
  · have mine : guard.cd = cd := by
      obtain ⟨_, rfl, _⟩ | ⟨_, _, _, rfl, _⟩ := claim_cases claimed <;> rfl
    exact ⟨⟨by simp [mine], rfl⟩, one _ guard _ claimed ⟨by simp [mine], rfl⟩ rfl rfl⟩

section Replies

variable {may : Cd → Prop} {P : AsyncAtmiCtx → Prop} {Pw J M : Wait → AsyncAtmiCtx → Prop}
  (rules : ReplyRules may P Pw J M)

include rules

/-- The end of a `tpcall`, whose guard is disarmed unless the wait failed. -/
theorem finishCall_ends {w : Wait} {cd : Cd} (shaped : w.Shaped) (guard : w.guard = .pendingCall cd)
    (result : Collected) (script : CancelScript) :
    Ends (Collects w (Pw w) (M w) result) (finishCall w.own cd result script) fun polled s =>
      ∀ waker, Left P Pw J waker s polled := by
  have quiet : Closed (Quiet fun _ => True) P := rules.drains
  unfold finishCall dropPendingCall
  simp only [Wait.Shaped, guard] at shaped
  have released : ∀ s, Collects w (Pw w) (M w) result s → P (releaseSlot (.dropped w.own) cd s) := by
    intro s holds
    cases result with
    | error e => exact (rules.guard w).released s cd guard holds.2.1 (holds.2.2 shaped.2.1)
    | ok found =>
        have same := holds.2.2.2 cd shaped.1
        have after := (rules.guard w).released _ cd guard (same ▸ holds.2.1) (same ▸ holds.2.2.1)
        rwa [releaseSlot_forgetDeadline] at after
  simp only
  refine Ends.bind (Q := fun _ => P) ?_ fun _ => Ends.pure fun _ holds _ => holds
  split
  · exact Ends.bind (tpcancel_keeps quiet released _) fun _ => Ends.pure fun _ holds => holds
  · exact Ends.ofModify released

/-- A guard that goes with its future. -/
theorem dropGuard_ends {w : Wait} (script : CancelScript) :
    Ends (fun s => Pw w s ∧ Quits w s ∧ ((∃ cd, w.guard = .pendingCall cd) → M w s))
      (dropGuard w.own script w.guard) fun _ => P := by
  have quiet : Closed (Quiet fun _ => True) P := rules.drains
  unfold dropGuard
  cases guard : w.guard with
  | pendingCall cd =>
      simp only [dropPendingCall, if_true]
      exact Ends.bind (tpcancel_keeps quiet (fun s holds =>
        (rules.guard w).released s cd guard holds.1 (holds.2.2 ⟨cd, rfl⟩)) _)
          fun _ => Ends.pure fun _ holds => holds
  | claim g => exact Ends.ofModify fun s holds => (rules.guard w).dropped s g guard holds.1 holds.2.1
  | anyWaiter id => exact Ends.ofModify fun s holds => (rules.guard w).deregistered s id guard holds.1

/-- The end of a `tpgetrply`. -/
theorem finishGetrply_ends {w : Wait} (cd : Cd) (result : Collected) (script : CancelScript)
    (guard : ∀ cd, w.guard ≠ .pendingCall cd) :
    Ends (Collects w (Pw w) (M w) result) (finishGetrply cd w result script) fun polled s =>
      ∀ waker, Left P Pw J waker s polled := by
  unfold finishGetrply
  cases result with
  | error e =>
      refine Ends.bind (Q := fun _ => P) ((dropGuard_ends rules script).mono (fun s holds =>
        ⟨holds.2.1, holds.1, fun ⟨cd, same⟩ => absurd same (guard cd)⟩) fun _ _ holds => holds)
          fun _ => Ends.pure fun _ holds _ => holds
  | ok found =>
      refine Ends.bind (Q := fun _ s => Pw w s ∧ Quits w s)
        (Ends.ofModify fun s holds => ⟨holds.2.1, holds.1⟩) fun _ => ?_
      refine Ends.bind (Q := fun _ => P) ((dropGuard_ends rules script).mono (fun s holds =>
        ⟨holds.1, holds.2, fun ⟨cd, same⟩ => absurd same (guard cd)⟩) fun _ _ holds => holds)
          fun _ => Ends.pure fun _ holds _ => holds

/-- **The end of a poll whose wait is over**, of either kind of call. -/
theorem finishAwait_ends {w : Wait} (shaped : w.Shaped) (op : Op) (script : PollScript)
    (awaited : Awaited) :
    Ends (fun s => Rests w script.waker (Pw w) (J w) (M w) s awaited)
      (finishAwait op w script awaited) fun polled s => Left P Pw J script.waker s polled := by
  cases awaited with
  | suspended =>
      exact Ends.bind (Q := fun before s => Rests w script.waker (Pw w) (J w) (M w) s .suspended ∧ before = s)
        (Ends.ofGet fun _ holds => ⟨holds, rfl⟩) fun before => Ends.pure fun s holds =>
          ⟨w, by rw [holds.2], shaped, holds.1⟩
  | finished result =>
      unfold finishAwait
      cases guard : w.guard with
      | pendingCall cd =>
          exact (finishCall_ends rules shaped guard result script.finish).mono
            (fun _ holds => holds) fun _ _ holds => holds script.waker
      | claim g =>
          exact (finishGetrply_ends rules op.cd result script.finish (by simp [guard])).mono
            (fun _ holds => holds) fun _ _ holds => holds script.waker
      | anyWaiter id =>
          exact (finishGetrply_ends rules op.cd result script.finish (by simp [guard])).mono
            (fun _ holds => holds) fun _ _ holds => holds script.waker

variable {script : PollScript}
  (waits : ∀ wait ∈ script.waits, Allowed may wait.before ∧ Allowed may wait.after)

include waits

/-- A future that begins to wait. -/
theorem awaited_ends {w : Wait} (shaped : w.Shaped) (op : Op) :
    Ends (fun s => Pw w s ∧ J w s)
      (do finishAwait op w script (← awaitReply w script.waker script.waits))
      fun polled s => Left P Pw J script.waker s polled :=
  Ends.bind (awaitReply_ends (rules.wait w) script.waker script.waits waits)
    fun awaited => finishAwait_ends rules shaped op script awaited

/-- A future that waited already. -/
theorem resumed_ends {w : Wait} (shaped : w.Shaped) (op : Op) :
    Ends (fun s => Pw w s ∧ J w s) (poll script (.waiting op w))
      fun polled s => Left P Pw J script.waker s polled :=
  Ends.bind (resumeReply_ends (rules.wait w) script.waker script.waits waits)
    fun awaited => finishAwait_ends rules shaped op script awaited

/-- What the start of a `tpgetrply` leaves: the state it was given, or a wait to go on with. -/
def Begun (P : AsyncAtmiCtx → Prop) (Pw J : Wait → AsyncAtmiCtx → Prop) (s : AsyncAtmiCtx) :
    AtmiResult Wait → Prop
  | .error _ => P s
  | .ok w => w.Shaped ∧ Pw w s ∧ J w s

/-- **A `tpgetrply` polled for the first time**: refused, or it waits. -/
theorem startGetrply_ends (cd : Cd) (data : BufId) (flags : Flags) :
    Ends (fun s => Fit P Pw J script.clock s (.created (.tpgetrply cd data flags)))
      (startGetrply cd data flags script) fun polled s => Left P Pw J script.waker s polled := by
  unfold startGetrply
  refine Ends.bind (Q := fun begun s => Begun P Pw J s begun) ?_ fun begun => ?_
  · rintro s ⟨holds, fit⟩
    rcases begun : (beginGetrply cd data flags script.clock).run.run s with ⟨e | w, s'⟩
    · obtain ⟨e', same⟩ | ⟨_, _, same⟩ | ⟨_, _, _, _, _, same⟩ :=
        beginGetrply_cases cd data flags script.clock s <;> rw [begun] at same <;> cases same
      exact holds
    · exact fit w s' begun
  · cases begun with
    | error e => exact Ends.pure fun _ holds => holds
    | ok w => exact fun s fit => awaited_ends rules waits fit.1 _ s fit.2

end Replies

section Polls

variable {may mayUndo : Cd → Prop} {P : AsyncAtmiCtx → Prop} {Pw J M : Wait → AsyncAtmiCtx → Prop}
  (rules : PollRules may mayUndo P Pw J M)

include rules

/-- The reports of the waits a poll goes through are allowed, and so are its undone sends. -/
structure Admits (may mayUndo : Cd → Prop) (script : PollScript) : Prop where
  waits : ∀ wait ∈ script.waits, Allowed may wait.before ∧ Allowed may wait.after
  undone : ∀ attempt ∈ script.send :: script.resends, ∀ cd ∈ attempt.undone, mayUndo cd

variable {script : PollScript} (admits : Admits may mayUndo script)

include admits

/-- What follows a send: a `tpcall` waits, a `tpacall` is done. -/
theorem afterSend_ends (op : Op) (replies : op.claimed = true → op.flags.noReply = false)
    (deadline : Option Instant) (sending : Sending) :
    Ends (fun s => P s ∧ ∀ result, sending = .finished result →
        Owns (fun submission s => ∀ data flags deadline,
          let w := callWait submission data flags deadline
          Pw w s ∧ J w s) op.flags op.claimed result s)
      (afterSend op deadline script sending) fun polled s => Left P Pw J script.waker s polled := by
  cases sending with
  | sleeping b wake => exact Ends.pure fun s holds => ⟨holds.1, replies⟩
  | finished result =>
      cases result with
      | error e => exact Ends.pure fun s holds => holds.1
      | ok submission =>
          cases op with
          | tpacall flags => exact Ends.pure fun s holds => holds.1
          | tpgetrply cd data flags => exact Ends.pure fun s holds => holds.1
          | tpcall data flags =>
              have shaped : (callWait submission data flags deadline).Shaped :=
                ⟨rfl, rfl, submission.generation, rfl⟩
              refine (awaited_ends rules.toReplyRules admits.waits shaped _).mono ?_ fun _ _ left => left
              intro s holds
              exact holds.2 _ rfl submission rfl rfl (replies rfl) data flags deadline

/-- **A send polled for the first time**: refused, or it makes its first attempt. -/
theorem startSend_ends (op : Op) :
    Ends P (startSend op script) fun polled s => Left P Pw J script.waker s polled := by
  unfold startSend
  refine Ends.bind (checked_ends op script.clock) fun checked => Ends.ofFact fun replies => ?_
  cases checked with
  | error e => exact Ends.pure fun _ holds => holds
  | ok deadline =>
      refine Ends.bind (Q := fun _ => P)
        (Ends.ofModifyGet fun s holds => rules.send.settings (.changed s _ _) holds)
        fun priority => ?_
      exact Ends.bind (sendWithBackpressure_ends rules.send op.flags deadline op.claimed
        script.resends _ script.send admits.undone) fun sending =>
          afterSend_ends rules admits op (replies ⟨deadline, rfl⟩) deadline sending

/-- **What a poll can do**: every invariant that survives the operations survives the poll,
and a wait it leaves pending is parked under the poll's waker with nothing to collect. -/
theorem poll_ends (fut : Fut) :
    Ends (fun s => Fit P Pw J script.clock s fut) (poll script fut) fun polled s =>
      Left P Pw J script.waker s polled := by
  cases fut with
  | created op =>
      cases op with
      | tpcall data flags => exact startSend_ends rules admits (.tpcall data flags)
      | tpacall flags => exact startSend_ends rules admits (.tpacall flags)
      | tpgetrply cd data flags =>
          exact startGetrply_ends rules.toReplyRules admits.waits cd data flags
  | sending op deadline b =>
      unfold poll
      cases slept : script.slept with
      | false => exact Ends.pure fun s holds => holds
      | true =>
          intro s fit
          exact Ends.bind (sendWithBackpressure_ends rules.send op.flags deadline op.claimed
            script.resends b script.send admits.undone) (fun sending =>
              afterSend_ends rules admits op fit.2 deadline sending) s fit.1
  | waiting op w =>
      intro s fit
      exact resumed_ends rules.toReplyRules admits.waits fit.1 op s fit.2

end Polls

end Endurox.Async
