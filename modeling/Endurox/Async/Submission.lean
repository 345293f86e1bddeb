/-
# Async.Submission -- what a failed submission does to older calls

A submission that fails after the native layer accepted its call takes the call
back.  `register_submission` does so through the context; the two helpers that
apply a priority or a block time go through the adapter's own `tpcancel`, which
also releases whatever the adapter tracks under that number.  `takenBack` is the
numbers a poll of a submission takes back that way, and `failed_submission_spares`
says that older calls are left alone exactly when none of these was tracked.
-/
import Endurox.Async.Deadlines
import Endurox.Async.Backpressure

namespace Endurox.Async

open Endurox.Theory AsyncAtmiCtx

set_option autoImplicit false

/-! ## The submission step of a poll -/

/-- A future whose next poll submits. -/
def Fut.submits : Fut → Bool
  | .created (.tpgetrply ..) => false
  | .created _ => true
  | .sending .. => true
  | .waiting .. => false

/-- The checks before a submission, which find its deadline. -/
def submitChecks (op : Op) (clock : Clock) : Act (Option Instant) := do
  checkSupportedFlags op.flags
  if op.claimed then rejectTpnoreply op.flags
  deadlineFor op.flags clock

/-- `submit`, or what is left of it after a wait for queue space. -/
def submitStep (script : PollScript) : Fut → StateM AsyncAtmiCtx (Option Instant × Sending)
  | .sending op deadline b => do
      if script.slept then
        let sending ← sendWithBackpressure op.flags deadline op.claimed b script.send script.resends
        return (deadline, sending)
      else return (deadline, .sleeping b 0)
  | fut => do
      match ← (submitChecks fut.op script.clock).run with
      | .error e => return (none, .finished (.error e))
      | .ok deadline =>
          let (priority, submission) ← modifyGet takePriority
          let sending ← sendWithBackpressure fut.op.flags deadline fut.op.claimed
            { priority, submission } script.send script.resends
          return (deadline, sending)

/-- A poll that submits is its submission step and what follows it. -/
theorem poll_submits (script : PollScript) (fut : Fut) (submits : fut.submits = true) :
    poll script fut = submitStep script fut >>= fun left => afterSend fut.op left.1 script left.2 := by
  cases fut with
  | waiting => cases submits
  | sending op deadline b =>
      unfold poll submitStep
      cases script.slept <;> simp [afterSend, Fut.op]
  | created op =>
      cases op with
      | tpgetrply => cases submits
      | tpcall data flags | tpacall flags =>
          unfold poll startSend submitStep submitChecks
          simp only [Fut.op, bind_assoc]
          refine bind_congr fun checked => ?_
          cases checked <;> simp [afterSend]

/-! ## What an attempt takes back -/

/-- What the native send answers. -/
def sentCd (flags : Flags) (script : SendScript) : AtmiResult Cd :=
  script.sent.map fun n => if flags.noReply then 0 else ((n + 1 : Nat) : Cd)

/-- The call a helper takes back when its restoring step fails. -/
def callBack : AtmiResult Cd → Option Cd
  | .ok cd => if 0 < cd then some cd else none
  | .error _ => none

/-- `with_send_priority` with a priority: the number it takes back, and its answer. -/
def prioritised (flags : Flags) (script : SendScript) : Option Cd × AtmiResult Cd :=
  match script.setPriority with
  | some e => (none, .error e)
  | none => match script.clearPriority with
    | some e => (callBack (sentCd flags script), .error e)
    | none => (none, sentCd flags script)

/-- No time is left for another attempt. -/
def outOfTime (deadline : Option Instant) (now : Instant) : Bool := deadline.any (· ≤ now)

/-- `retry_tpacall`, the same way. -/
def retried (flags : Flags) (deadline : Option Instant) (script : SendScript) :
    Option Cd × AtmiResult Cd :=
  if outOfTime deadline script.retryNow then (none, .error ⟨.TPETIME, "async send wait timed out"⟩)
  else match script.getNext.or script.setNext with
    | some e => (none, .error e)
    | none =>
        let inner := prioritised flags script
        match script.restoreNext with
        | some e => (inner.1.or (callBack inner.2), .error e)
        | none => inner

/-- The native send of one attempt, the same way. -/
def attempted (flags : Flags) (deadline : Option Instant) (b : Backpressure) (script : SendScript) :
    Option Cd × AtmiResult Cd :=
  if b.retry then
    match b.retryPriority with
    | some _ => retried flags deadline script
    | none => (none, .error retryWithoutPriority)
  else match b.priority with
    | some _ => prioritised flags script
    | none => (none, sentCd flags script)

/-- The error a blocked attempt ends with, and the priority it leaves for the next. -/
def afterBlocked (b : Backpressure) (script : SendScript) (e : AtmiError) : AtmiError × Option Int :=
  match if b.retry then .ok b.retryPriority else script.sentPriority.map some with
  | .error failure => (failure, b.retryPriority)
  | .ok priority => ((script.saveNext.or script.putBackNext).getD e, priority)

/-- The priority of the next attempt, if there is to be one. -/
def triesAgain (flags : Flags) (deadline : Option Instant) (b : Backpressure) (script : SendScript) :
    Option (Option Int) :=
  match (attempted { flags with noBlock := true } deadline b script).2 with
  | .ok _ => none
  | .error e =>
      if e.code = .TPEBLOCK ∧ ¬ flags.noBlock then
        let after := afterBlocked b script e
        if after.1.code = .TPEBLOCK then some after.2 else none
      else none

/-- The numbers the attempts made take back. -/
def attemptsTakeBack (flags : Flags) (deadline : Option Instant) :
    Backpressure → SendScript → List SendScript → List Cd
  | b, script, more =>
      if outOfTime deadline script.now then []
      else
        let mine := (attempted { flags with noBlock := true } deadline b script).1.toList
        match more, triesAgain flags deadline b script with
        | next :: more, some retryPriority =>
            mine ++ attemptsTakeBack flags deadline
              { b with delay := min (b.delay * 2) maxDelay, retry := true, retryPriority } next more
        | _, _ => mine

/-- The numbers a poll that submits takes back. -/
def takenBack (script : PollScript) (fut : Fut) (s : AsyncAtmiCtx) : List Cd :=
  match fut with
  | .waiting .. => []
  | .sending op deadline b =>
      if script.slept then attemptsTakeBack op.flags deadline b script.send script.resends else []
  | .created op =>
      match ((submitChecks op script.clock).run.run s).1 with
      | .error _ => []
      | .ok deadline =>
          attemptsTakeBack op.flags deadline { priority := s.nextPriority, submission := s.nextSubmission }
            script.send script.resends

/-- A prioritised send that ends in an error is one that was not sent, or was taken back. -/
theorem prioritised_failed {flags : Flags} {script : SendScript} {cd : Cd}
    (taken : (prioritised flags script).1 = some cd) : ∃ e, (prioritised flags script).2 = .error e := by
  unfold prioritised at taken ⊢
  cases setting : script.setPriority with
  | some e => exact ⟨e, rfl⟩
  | none =>
      cases clearing : script.clearPriority with
      | some e => exact ⟨e, rfl⟩
      | none => simp [setting, clearing] at taken

/-! ## An attempt, step by step -/

/-- `P` before a call is taken back, `J` after. -/
def Past (P J : AsyncAtmiCtx → Prop) (taken : Option Cd) : AsyncAtmiCtx → Prop :=
  if taken.isSome then J else P

/-- What a pair of predicates must survive in an attempt that takes back `taken`. -/
structure TakeRules (taken : Option Cd) (P J : AsyncAtmiCtx → Prop) : Prop where
  before : SendRules (fun _ => False) P fun _ _ => True
  after : SendRules (fun _ => False) J fun _ _ => True
  undone : ∀ cd, taken = some cd → ∀ s, P s →
    J (releaseSlot .undone cd (record (.undone cd (s.holdsReply cd)) s))

/-- A native call's result, given how it fails. -/
def answerOf (failure : Option AtmiError) : AtmiResult Unit :=
  match failure with
  | none => .ok ()
  | some e => .error e

section Attempt

variable {P : AsyncAtmiCtx → Prop} (rules : SendRules (fun _ => False) P fun _ _ => True)

theorem native_answers (failure : Option AtmiError) :
    Ends P (native failure).run fun result s => P s ∧ result = answerOf failure := by
  cases failure with
  | none => exact Ends.tryPure fun _ holds => ⟨holds, rfl⟩
  | some e => exact Ends.throw fun _ holds => ⟨holds, rfl⟩

include rules

theorem tpsprioNative_answers (value : Int) (absolute : Bool) (failure : Option AtmiError) :
    Ends P (tpsprioNative value absolute failure).run fun result s =>
      P s ∧ result = answerOf failure := by
  refine Ends.tryBind (native_answers failure) (fun _ _ holds => holds) fun _ => ?_
  exact Ends.tryModify fun s holds => ⟨rules.settings (.changed s _ _) holds.1, holds.2⟩

theorem tpsblktimeNext_answers (seconds : Int) (failure : Option AtmiError) :
    Ends P (tpsblktimeNext seconds failure).run fun result s =>
      P s ∧ result = answerOf failure := by
  refine Ends.tryBind (native_answers failure) (fun _ _ holds => holds) fun _ => ?_
  exact Ends.tryModify fun s holds => ⟨rules.settings (.changed s _ _) holds.1, holds.2⟩

/-- The native send answers what its script says. -/
theorem tpacallNative_answers (flags : Flags) (script : SendScript) :
    Ends P (tpacallNative flags script).run fun result s => P s ∧ result = sentCd flags script := by
  unfold tpacallNative sentCd
  refine Ends.tryBind (F := fun result s => P s ∧ result = .ok ⟨⟩)
    (Ends.tryModify fun s holds => ⟨rules.settings (.changed s _ _) holds, rfl⟩)
    (fun _ _ impossible => nomatch impossible.2) fun _ => ?_
  cases script.sent with
  | error e => exact Ends.throw fun _ holds => ⟨holds.1, rfl⟩
  | ok n => exact Ends.tryPure fun _ holds => ⟨holds.1, rfl⟩

end Attempt

section Taking

variable {taken : Option Cd} {P J : AsyncAtmiCtx → Prop}

theorem TakeRules.mono {less : Option Cd} (rules : TakeRules taken P J)
    (fewer : ∀ cd, less = some cd → taken = some cd) : TakeRules less P J where
  before := rules.before
  after := rules.after
  undone cd mine := rules.undone cd (fewer cd mine)

/-- After a call was taken back, nothing else is. -/
theorem TakeRules.past (rules : TakeRules taken P J) :
    SendRules (fun _ => False) (Past P J taken) fun _ _ => True := by
  cases taken with
  | none => exact rules.before
  | some _ => exact rules.after

/-- A send taken back takes the number it was given, and no other. -/
theorem undoSend_takes {result : AtmiResult Cd} (rules : TakeRules (callBack result) P J)
    (cancel : CancelScript) : Ends P (undoSend result cancel) fun _ => Past P J (callBack result) := by
  unfold undoSend
  cases result with
  | error e => exact Ends.pure fun _ holds => holds
  | ok cd =>
      by_cases positive : 0 < cd
      · have mine : callBack (.ok cd) = some cd := if_pos positive
        simp only [positive, if_true, mine]
        refine Ends.bind (Q := fun _ s => J (releaseSlot .undone cd s))
          (Ends.ofModify (rules.undone cd mine)) fun _ => ?_
        exact Ends.bind (tpcancel_keeps rules.after.quiet (fun _ holds => holds) _)
          fun _ => Ends.pure fun _ holds => holds
      · have none : callBack (.ok cd) = none := if_neg positive
        simp only [positive, if_false, none]
        exact Ends.pure fun _ holds => holds

theorem remainingSeconds_answers (deadline : Option Instant) (now : Instant) :
    Ends P (remainingSeconds deadline now).run fun result s => P s ∧
      if outOfTime deadline now then result = .error ⟨.TPETIME, "async send wait timed out"⟩
      else ∃ seconds, result = .ok seconds := by
  unfold remainingSeconds outOfTime
  cases deadline with
  | none => exact Ends.tryPure fun _ holds => ⟨holds, 0, rfl⟩
  | some deadline =>
      simp only [Option.any_some, decide_eq_true_eq]
      split
      · rename_i late
        have passed : deadline ≤ now := Nat.le_of_sub_eq_zero late
        exact Ends.throw fun _ holds => ⟨holds, by simp [passed]⟩
      · rename_i early
        have ahead : ¬ deadline ≤ now := fun late => early (Nat.sub_eq_zero_of_le late)
        exact Ends.tryPure fun _ holds => ⟨holds, by simp [ahead]⟩

theorem tpgblktimeNext_answers (failure : Option AtmiError) :
    Ends P (tpgblktimeNext failure).run fun result s => P s ∧ match result with
      | .error e => failure = some e
      | .ok _ => failure = none := by
  unfold tpgblktimeNext
  cases failure with
  | some e => exact Ends.throw fun _ holds => ⟨holds, rfl⟩
  | none =>
      refine Ends.tryBind (F := fun result s => P s ∧ result = .ok ⟨⟩) (Ends.tryPure fun _ holds => ⟨holds, rfl⟩)
        (fun _ _ impossible => nomatch impossible.2) fun _ => ?_
      refine Ends.tryBind (F := fun result s => P s ∧ ∃ s, result = .ok s)
        (Ends.tryGet fun s holds => ⟨holds.1, s, rfl⟩) (fun _ _ ⟨_, _, impossible⟩ => nomatch impossible)
        fun _ => Ends.tryPure fun _ holds => ⟨holds.1, rfl⟩

theorem takenThrow {result : AtmiResult Cd} {α : Type} (rules : TakeRules (callBack result) P J)
    (cancel : CancelScript) (e : AtmiError) :
    Ends P (ExceptT.run (m := StateM AsyncAtmiCtx) (ε := AtmiError) (α := α) do
      undoSend result cancel; throw e) fun failed s =>
        Past P J (callBack result) s ∧ failed = .error e := by
  refine Ends.tryBind (F := fun done s => (∃ u, done = .ok u) ∧ Past P J (callBack result) s)
    (Ends.lift ?_) (fun _ _ impossible => nomatch impossible.1) fun _ => Ends.throw fun _ holds => ⟨holds.2, rfl⟩
  exact (undoSend_takes rules cancel).mono (fun _ holds => holds) fun u _ holds => ⟨⟨u, rfl⟩, holds⟩

/-- A prioritised send takes back at most the call it sent. -/
theorem withSendPriority_takes (priority : SendPriority) (flags : Flags) (script : SendScript)
    (rules : TakeRules (prioritised flags script).1 P J) :
    Ends P (withSendPriority (some priority) flags script).run fun result s =>
      Past P J (prioritised flags script).1 s ∧ result = (prioritised flags script).2 := by
  unfold withSendPriority
  cases setting : script.setPriority with
  | some e =>
      refine Ends.tryBind (tpsprioNative_answers rules.before _ _ _) (fun e s holds => ?_)
        fun _ => Ends.ofFact fun impossible => nomatch impossible
      simpa [prioritised, setting, Past, answerOf] using holds
  | none =>
      refine Ends.tryBind (tpsprioNative_answers rules.before _ _ _) (fun _ _ holds => nomatch holds.2)
        fun _ => Ends.ofFact fun _ => ?_
      refine Ends.tryOutcome (tpacallNative_answers rules.before flags script) fun result =>
        Ends.ofFact fun sent => ?_
      subst sent
      refine Ends.tryOutcome (tpsprioNative_answers rules.before _ _ _) fun cleared =>
        Ends.ofFact fun answered => ?_
      subst answered
      cases clearing : script.clearPriority with
      | none =>
          refine Ends.ofExcept fun s holds => ?_
          simpa [prioritised, setting, clearing, Past] using holds
      | some e =>
          have same : prioritised flags script = (callBack (sentCd flags script), .error e) := by
            simp [prioritised, setting, clearing]
          rw [same] at rules ⊢
          exact takenThrow rules _ e

/-- So does a retried one. -/
theorem retryTpacall_takes (flags : Flags) (deadline : Option Instant) (priority : Int)
    (script : SendScript) (rules : TakeRules (retried flags deadline script).1 P J) :
    Ends P (retryTpacall flags deadline priority script).run fun result s =>
      Past P J (retried flags deadline script).1 s ∧ result = (retried flags deadline script).2 := by
  unfold retryTpacall
  refine Ends.tryBind (remainingSeconds_answers deadline script.retryNow) (fun e s holds => ?_)
    fun seconds => Ends.ofFact fun answered => ?_
  · have late : outOfTime deadline script.retryNow = true := by
      by_contra early
      simp [early] at holds
    simp only [late, if_true, Except.error.injEq] at holds
    simp only [retried, late, if_true, Past, Option.isSome_none, Bool.false_eq_true, if_false]
    exact ⟨holds.1, by rw [holds.2]⟩
  have early : outOfTime deadline script.retryNow = false := by
    by_contra late
    simp [late] at answered
  refine Ends.tryBind (tpgblktimeNext_answers script.getNext) (fun e s holds => ?_)
    fun next => Ends.ofFact fun gotten => ?_
  · obtain ⟨held, getting⟩ := holds
    simp only at getting
    simpa [retried, early, getting, Past] using held
  refine Ends.tryBind (tpsblktimeNext_answers rules.before _ _) (fun e s holds => ?_)
    fun _ => Ends.ofFact fun answered => ?_
  · cases setting : script.setNext with
    | none => simp [setting, answerOf] at holds
    | some e' =>
        simp only [setting, answerOf, Except.error.injEq] at holds
        simpa [retried, early, gotten, setting, Past, holds.2] using holds.1
  have unset : script.getNext.or script.setNext = none := by
    cases setting : script.setNext with
    | none => simp [gotten]
    | some e => simp [setting, answerOf] at answered
  have same : retried flags deadline script = match script.restoreNext with
      | some e => ((prioritised flags script).1.or (callBack (prioritised flags script).2), .error e)
      | none => prioritised flags script := by
    simp [retried, early, unset]
  rw [same] at rules ⊢
  have within : TakeRules (prioritised flags script).1 P J := rules.mono fun cd mine => by
    cases script.restoreNext <;> simp [mine]
  refine Ends.tryOutcome (withSendPriority_takes _ flags script within) fun result =>
    Ends.ofFact fun sent => ?_
  subst sent
  refine Ends.tryOutcome (tpsblktimeNext_answers within.past _ _) fun restored =>
    Ends.ofFact fun answered => ?_
  subst answered
  cases restoring : script.restoreNext with
  | none => exact Ends.ofExcept fun s holds => ⟨holds, rfl⟩
  | some e =>
      simp only [answerOf]
      cases inner : (prioritised flags script).1 with
      | none =>
          rw [restoring, inner, Option.none_or] at rules
          simp only [Option.none_or]
          exact takenThrow rules _ e
      | some cd =>
          obtain ⟨failure, failed⟩ := prioritised_failed inner
          simp only [Option.some_or]
          rw [failed]
          exact fun s holds => ⟨holds, rfl⟩

/-- So does a send, whichever of the ways it goes. -/
theorem send_takes (flags : Flags) (deadline : Option Instant) (b : Backpressure) (script : SendScript)
    (rules : TakeRules (attempted flags deadline b script).1 P J) :
    Ends P (ExceptT.run (m := StateM AsyncAtmiCtx) (if b.retry then
      match b.retryPriority with
      | some priority => retryTpacall flags deadline priority script
      | none => throw retryWithoutPriority
    else withSendPriority b.priority flags script)) fun result s =>
      Past P J (attempted flags deadline b script).1 s ∧ result = (attempted flags deadline b script).2 := by
  unfold attempted at rules ⊢
  obtain ⟨given, submission, delay, retry, retryPriority⟩ := b
  cases retry with
  | true =>
      cases retryPriority with
      | some priority => exact retryTpacall_takes flags deadline priority script rules
      | none => exact Ends.throw fun _ holds => ⟨holds, rfl⟩
  | false =>
      cases given with
      | some priority => exact withSendPriority_takes priority flags script rules
      | none => exact tpacallNative_answers rules.before flags script

theorem resolvePriority_answers (rules : SendRules (fun _ => False) P fun _ _ => True)
    (b : Backpressure) (script : SendScript) :
    Ends P (resolvePriority b script).run fun result s => P s ∧
      result = if b.retry then .ok b.retryPriority else script.sentPriority.map some := by
  unfold resolvePriority
  cases b.retry with
  | true => exact Ends.tryPure fun _ holds => ⟨holds, rfl⟩
  | false =>
      refine Ends.tryBind (F := fun result s => P s ∧ result = script.sentPriority)
        (Ends.ofExcept fun _ holds => ⟨holds, rfl⟩) (fun _ _ holds => ⟨holds.1, by rw [← holds.2]; rfl⟩)
        fun priority => Ends.ofFact fun sent => ?_
      refine Ends.tryBind (F := fun result s => P s ∧ result = .ok ⟨⟩)
        (Ends.tryModify fun s holds => ⟨rules.settings (.changed s _ _) holds, rfl⟩)
        (fun _ _ impossible => nomatch impossible.2) fun _ => Ends.tryPure fun _ holds => ⟨holds.1, ?_⟩
      rw [← sent]
      rfl

/-- Relieving the queue drains it and takes nothing back. -/
theorem relieve_answers (rules : SendRules (fun _ => False) P fun _ _ => True) (script : SendScript) :
    Ends P (relieve script).run fun result s => P s ∧
      result = answerOf (script.saveNext.or script.putBackNext) := by
  unfold relieve
  refine Ends.tryBind (tpgblktimeNext_answers script.saveNext) (fun e s holds => ?_)
    fun next => Ends.ofFact fun saved => ?_
  · obtain ⟨held, failed⟩ := holds
    simp only at failed
    exact ⟨held, by simp [failed, answerOf]⟩
  simp only at saved
  refine Ends.tryBind (F := fun result s => P s ∧ result = .ok ⟨⟩)
    (Ends.tryModify fun s holds => ⟨drain_keeps rules.quiet (allowed_any _) s holds, rfl⟩)
    (fun _ _ impossible => nomatch impossible.2) fun _ => Ends.ofFact fun _ => ?_
  refine Ends.tryBind (F := fun result s => P s ∧ result = .ok ⟨⟩)
    (Ends.tryModify fun s holds => ⟨wakeAny_keeps rules.quiet s holds, rfl⟩)
    (fun _ _ impossible => nomatch impossible.2) fun _ => Ends.ofFact fun _ => ?_
  rw [saved, Option.none_or]
  exact tpsblktimeNext_answers rules next script.putBackNext

/-- What an attempt answers decides whether the loop goes on, and with which priority. -/
def Continues (flags : Flags) (again : Option (Option Int)) (result : AtmiResult Submission × Option Int) :
    Prop :=
  match again with
  | some priority => ∃ e, result = (.error e, priority) ∧ e.code = .TPEBLOCK ∧ ¬ flags.noBlock
  | none => ∀ e, result.1 = .error e → ¬ (e.code = .TPEBLOCK ∧ ¬ flags.noBlock)

/-- **An attempt takes back at most one call**, the one it sent. -/
theorem attemptSend_takes (flags : Flags) (deadline : Option Instant) (claimed : Bool)
    (b : Backpressure) (script : SendScript)
    (rules : TakeRules (attempted { flags with noBlock := true } deadline b script).1 P J) :
    Ends P (attemptSend flags deadline claimed b script) fun result s =>
      Past P J (attempted { flags with noBlock := true } deadline b script).1 s ∧
        Continues flags (triesAgain flags deadline b script) result := by
  unfold attemptSend
  refine Ends.bind (Q := fun _ => P)
    (Ends.ofModify fun s holds => rules.before.settings (.changed s _ _) holds) fun _ => ?_
  refine Ends.bind (send_takes { flags with noBlock := true } deadline b script rules) fun result =>
    Ends.ofFact fun answered => ?_
  cases result with
  | ok cd =>
      have again : triesAgain flags deadline b script = none := by simp [triesAgain, ← answered]
      rw [again]
      refine Ends.bind (((registerSubmission_ends rules.past cd deadline claimed _).and
        ((registerSubmission_refuses cd deadline claimed _).mono (fun _ _ => trivial)
          fun _ _ holds => holds))) fun registered => Ends.pure fun s holds => ⟨holds.1.1, ?_⟩
      intro e failed blocked
      simp [holds.2 e failed] at blocked
  | error e =>
      simp only
      split
      · rename_i blocked
        refine Ends.bind (resolvePriority_answers rules.past b script) fun resolved =>
          Ends.ofFact fun resolves => ?_
        have again : triesAgain flags deadline b script =
            if (afterBlocked b script e).1.code = .TPEBLOCK then some (afterBlocked b script e).2 else none := by
          simp only [triesAgain, ← answered, if_pos blocked]
        have ended : ∀ (failure : AtmiError) (priority : Option Int) (s : AsyncAtmiCtx),
            afterBlocked b script e = (failure, priority) →
            Continues flags (triesAgain flags deadline b script) (.error failure, priority) := by
          intro failure priority s after
          rw [again, after]
          by_cases full : failure.code = .TPEBLOCK
          · rw [if_pos full]
            exact ⟨failure, rfl, full, blocked.2⟩
          · rw [if_neg full]
            intro e' same both
            cases same
            exact full both.1
        cases resolved with
        | error failure =>
            refine Ends.pure fun s holds => ⟨holds, ended failure _ s ?_⟩
            simp only [afterBlocked, ← resolves]
        | ok priority =>
            refine Ends.bind (relieve_answers rules.past script) fun relieved =>
              Ends.ofFact fun relieves => ?_
            cases failing : script.saveNext.or script.putBackNext with
            | some failure =>
                rw [failing] at relieves
                subst relieves
                refine Ends.pure fun s holds => ⟨holds, ended failure _ s ?_⟩
                simp only [afterBlocked, ← resolves, failing, Option.getD_some]
            | none =>
                rw [failing] at relieves
                subst relieves
                refine Ends.pure fun s holds => ⟨holds, ended e _ s ?_⟩
                simp only [afterBlocked, ← resolves, failing, Option.getD_none]
      · rename_i other
        have again : triesAgain flags deadline b script = none := by
          simp only [triesAgain, ← answered, if_neg other]
        rw [again]
        refine Ends.pure fun s holds => ⟨holds, fun e' same => ?_⟩
        cases same
        exact other

end Taking

/-! ## The loop, and the poll -/

section Loop

variable {I : List Cd → AsyncAtmiCtx → Prop}
  (each : ∀ taken rest, TakeRules taken (I (taken.toList ++ rest)) (I rest))

include each

/-- **What happens to other calls in an attempt** is what drains do. -/
theorem attempt_follows (flags : Flags) (deadline : Option Instant) (claimed : Bool) (b : Backpressure)
    (script : SendScript) (rest : List Cd) :
    Ends (I ((attempted { flags with noBlock := true } deadline b script).1.toList ++ rest))
      (attemptSend flags deadline claimed b script) fun result s =>
        I rest s ∧ Continues flags (triesAgain flags deadline b script) result := by
  refine (attemptSend_takes flags deadline claimed b script (each _ rest)).mono (fun _ holds => holds) ?_
  rintro result s ⟨past, continues⟩
  refine ⟨?_, continues⟩
  cases taken : (attempted { flags with noBlock := true } deadline b script).1 <;>
    simpa [taken, Past] using past

/-- **The loop rule**: `I` holds of the numbers still to be taken back. -/
theorem loop_follows (flags : Flags) (deadline : Option Instant) (claimed : Bool) :
    ∀ (more : List SendScript) (b : Backpressure) (script : SendScript),
      Ends (I (attemptsTakeBack flags deadline b script more))
        (sendWithBackpressure flags deadline claimed b script more) fun _ => I [] := by
  intro more
  induction more with
  | nil =>
      intro b script s holds
      rw [sendWithBackpressure_turn]
      split
      · rename_i late
        simpa [attemptsTakeBack, outOfTime, late] using holds
      · rename_i early
        have turn := attempt_follows each flags deadline claimed b script [] s
          (by simpa [attemptsTakeBack, outOfTime, early] using holds)
        rcases ran : (attemptSend flags deadline claimed b script).run s with ⟨⟨e | submission, p⟩, s'⟩
        · rw [ran] at turn
          simp only
          split <;> exact turn.1
        · rw [ran] at turn
          exact turn.1
  | cons next more ih =>
      intro b script s holds
      rw [sendWithBackpressure_turn]
      split
      · rename_i late
        simpa [attemptsTakeBack, outOfTime, late] using holds
      · rename_i early
        cases again : triesAgain flags deadline b script with
        | none =>
            have turn := attempt_follows each flags deadline claimed b script [] s
              (by simpa [attemptsTakeBack, outOfTime, early, again] using holds)
            rw [again] at turn
            rcases ran : (attemptSend flags deadline claimed b script).run s with ⟨⟨e | submission, p⟩, s'⟩
            · rw [ran] at turn
              have stops := turn.2 e rfl
              simp only [if_neg stops]
              exact turn.1
            · rw [ran] at turn
              exact turn.1
        | some priority =>
            rw [attemptsTakeBack, outOfTime, if_neg early, again] at holds
            have turn := attempt_follows each flags deadline claimed b script _ s holds
            rw [again] at turn
            rcases ran : (attemptSend flags deadline claimed b script).run s with ⟨result, s'⟩
            rw [ran] at turn
            obtain ⟨stays, e, rfl, blocked⟩ := turn
            simp only [if_pos blocked]
            exact ih _ next s' stays

end Loop

/-- Rules that look at no number in particular. -/
theorem SendRules.blind {mayUndo : Cd → Prop} {P : AsyncAtmiCtx → Prop}
    {Q : Submission → AsyncAtmiCtx → Prop} (rules : SendRules mayUndo P Q) :
    SendRules (fun _ => False) P fun _ _ => True where
  quiet := rules.quiet
  settings := rules.settings
  undone _ never := never.elim
  submitted s cd deadline claimed positive free holds :=
    ⟨(rules.submitted s cd deadline claimed positive free holds).1, fun _ => trivial⟩

/-- A fact that is not about the state survives too. -/
theorem SendRules.given {mayUndo : Cd → Prop} {P : AsyncAtmiCtx → Prop}
    (rules : SendRules mayUndo P fun _ _ => True) (fact : Prop) :
    SendRules mayUndo (fun s => fact ∧ P s) fun _ _ => True where
  quiet moved holds := ⟨holds.1, rules.quiet moved holds.2⟩
  settings moved holds := ⟨holds.1, rules.settings moved holds.2⟩
  undone cd may s holds := ⟨holds.1, rules.undone cd may s holds.2⟩
  submitted s cd deadline claimed positive free holds :=
    ⟨⟨holds.1, (rules.submitted s cd deadline claimed positive free holds.2).1⟩, fun _ => trivial⟩

/-- The rule for the whole submission step. -/
theorem submitStep_follows {I : List Cd → AsyncAtmiCtx → Prop}
    (each : ∀ taken rest, TakeRules taken (I (taken.toList ++ rest)) (I rest))
    (script : PollScript) (fut : Fut) (submits : fut.submits = true) (s : AsyncAtmiCtx)
    (holds : I (takenBack script fut s) s) : I [] ((submitStep script fut).run s).2 := by
  cases fut with
  | waiting => cases submits
  | sending op deadline b =>
      simp only [takenBack] at holds
      simp only [submitStep]
      cases slept : script.slept with
      | true =>
          rw [slept, if_pos rfl] at holds
          exact loop_follows each op.flags deadline op.claimed script.resends b script.send s holds
      | false =>
          rw [slept] at holds
          exact holds
  | created op =>
      simp only [takenBack] at holds
      have same : ∃ result, (submitChecks op script.clock).run.run s = (result, s) :=
        Keeps.unchanged ((checked_ends op script.clock).mono (fun _ still => still) fun _ _ still => still.1)
      obtain ⟨result, ran⟩ := same
      rw [ran] at holds
      simp only [submitStep, Fut.op, StateT.run_bind, ran]
      cases result with
      | error e => exact holds
      | ok deadline =>
          have begun : I _ s.takePriority.2 := (each none _).before.settings (.changed s _ _) holds
          exact loop_follows each op.flags deadline op.claimed script.resends _ script.send _ begun

/-! ## Older calls -/

/-- A slot of an older call, perhaps answered since if it waited. -/
def Slot.Spared (slot slot' : Slot) : Prop :=
  slot'.generation = slot.generation ∧ slot'.claim = slot.claim ∧ (slot.isReady = true → slot' = slot)

theorem Slot.Spared.rfl {slot : Slot} : slot.Spared slot := ⟨Eq.refl _, Eq.refl _, fun _ => Eq.refl _⟩

theorem Slot.Spared.trans {slot slot' slot'' : Slot} (first : slot.Spared slot')
    (second : slot'.Spared slot'') : slot.Spared slot'' := by
  obtain ⟨generation, claim, ready⟩ := first
  refine ⟨second.1.trans generation, second.2.1.trans claim, fun parked => ?_⟩
  cases ready parked
  exact second.2.2 parked

/-- What was tracked is tracked still: slots with their submissions and claims, parked replies
as they were, and deadlines. -/
structure Tracking.Spares (t t' : Tracking) : Prop where
  slots : ∀ cd slot, t.slots.get cd = some slot →
    ∃ slot', t'.slots.get cd = some slot' ∧ slot.Spared slot'
  deadlines : ∀ cd, (t.slots.get cd).isSome ∨ (t.deadlines.get cd).isSome →
    t'.deadlines.get cd = t.deadlines.get cd

/-- A drain spares a slot: it may be answered, never removed. -/
theorem Drains.spared {may : Cd → Prop} {t t' : Tracking} (moved : Drains may t t') {cd : Cd}
    {slot : Slot} (found : t.slots.get cd = some slot) :
    ∃ slot', t'.slots.get cd = some slot' ∧ slot.Spared slot' := by
  obtain ⟨slot', found', claim, generation⟩ := moved.kept found
  refine ⟨slot', found', generation, claim, fun ready => ?_⟩
  cases moved with
  | answered cd₀ generation₀ waker claim₀ outcome buf found₀ =>
      have other : cd ≠ cd₀ := by
        rintro rfl
        cases found₀.symm.trans found
        cases ready
      simpa [other, found] using found'.symm
  | displaced => simpa [found] using found'.symm
  | arrived cd₀ outcome buf untracked =>
      have other : cd ≠ cd₀ := fun same => by simp [same, untracked] at found
      simpa [other, found] using found'.symm
  | failed err =>
      simp only [Table.get_mapVals, found, Option.map_some, Option.some.injEq] at found'
      cases slot with
      | waiting => cases ready
      | ready => exact found'.symm

section Spares

variable {t₀ : Tracking}

@[simp] theorem releaseSlot_deadlines (cause : Cause) (cd : Cd) (s : AsyncAtmiCtx) :
    (releaseSlot cause cd s).deadlines = s.deadlines.del cd := by
  unfold releaseSlot deregister
  cases found : s.slots.get cd <;> simp [forgetDeadline, found, record]

/-- A submission spares `t₀` as long as it takes back no number `t₀` tracks. -/
theorem spares_rules (dated : Dated t₀) :
    SendRules (fun cd => t₀.slots.get cd = none) (fun s => t₀.Spares s.toTracking) fun _ _ => True where
  quiet := quiet_drains fun t t' moved spares =>
    { slots := fun cd slot found => by
        obtain ⟨slot', found', spared⟩ := spares.slots cd slot found
        obtain ⟨slot'', found'', still⟩ := moved.spared found'
        exact ⟨slot'', found'', spared.trans still⟩
      deadlines := fun cd tracked => by
        rw [moved.frame.1]
        exact spares.deadlines cd tracked }
  settings := by
    intro s s' moved holds
    cases moved
    exact holds
  undone cd free s spares := by
    have undated : t₀.deadlines.get cd = none := by
      cases recorded : t₀.deadlines.get cd with
      | none => rfl
      | some d =>
          obtain ⟨slot, found, _⟩ := dated.recorded cd d recorded
          simp [free] at found
    refine ⟨fun other slot found => ?_, fun other tracked => ?_⟩
    · have apart : other ≠ cd := fun same => by simp [same, free] at found
      simpa [apart, record] using spares.slots other slot found
    · have apart : other ≠ cd := fun same => by simp [same, free, undated] at tracked
      simpa [apart, record] using spares.deadlines other tracked
  submitted s cd deadline claimed _ idle spares := by
    have free : t₀.slots.get cd = none := by
      cases found : t₀.slots.get cd with
      | none => rfl
      | some slot =>
          obtain ⟨slot', found', _⟩ := spares.slots cd slot found
          simp [isDescriptorBusy, found'] at idle
    refine ⟨⟨fun other slot found => ?_, fun other tracked => ?_⟩, fun _ => trivial⟩
    · have apart : other ≠ cd := fun same => by simp [same, free] at found
      simpa [apart, registered, record, recordDeadline, registerFresh] using spares.slots other slot found
    · have apart : other ≠ cd := by
        rintro rfl
        rcases tracked with tracked | recorded
        · simp [free] at tracked
        · obtain ⟨d, recorded⟩ := Option.isSome_iff_exists.1 recorded
          obtain ⟨slot, found, _⟩ := dated.recorded _ d recorded
          simp [free] at found
      simpa [apart, registered, record, recordDeadline, registerFresh] using spares.deadlines other tracked

/-- The rest of a submission takes back no number `t₀` tracks, and older calls are spared so far. -/
def SparesSoFar (t₀ : Tracking) (rest : List Cd) (s : AsyncAtmiCtx) : Prop :=
  (∀ cd ∈ rest, t₀.slots.get cd = none) ∧ t₀.Spares s.toTracking

/-- Each move of the tracking spares the other calls. -/
theorem spares_each (dated : Dated t₀) (taken : Option Cd) (rest : List Cd) :
    TakeRules taken (SparesSoFar t₀ (taken.toList ++ rest)) (SparesSoFar t₀ rest) where
  before := (spares_rules dated).blind.given _
  after := (spares_rules dated).blind.given _
  undone cd mine s holds := by
    subst mine
    exact ⟨fun other member => holds.1 other (by simp [member]),
      (spares_rules dated).undone cd (holds.1 cd (by simp)) s holds.2⟩

end Spares

/-! ## A call that is lost -/

/-- A generation is used up, and only slots of the numbers in question carry it. -/
def OnlyAt (generation : Nat) (there : Cd → Prop) (t : Tracking) : Prop :=
  generation < t.nextGeneration ∧
    ∀ cd slot, t.slots.get cd = some slot → slot.generation = generation → there cd

/-- A generation stays with its number. -/
theorem onlyAt_follows (generation : Nat) (there : Cd → Prop) : Follows (OnlyAt generation there) := by
  rintro t t' moved ⟨used, only⟩
  refine ⟨Nat.lt_of_lt_of_le used moved.grows.1, fun cd slot' found' same => ?_⟩
  rcases moved.existed found' with ⟨slot, found, kept⟩ | ⟨_, fresh, _, _⟩
  · exact only cd slot found (kept ▸ same)
  · omega

/-- Taking back `n` loses the call of that generation, if the number was its own. -/
theorem loses_each (n : Cd) (generation : Nat) (taken : Option Cd) (rest : List Cd) :
    TakeRules taken (fun s => OnlyAt generation (fun cd => cd = n ∧ n ∈ taken.toList ++ rest) s.toTracking)
      (fun s => OnlyAt generation (fun cd => cd = n ∧ n ∈ rest) s.toTracking) where
  before := ((tracks_stable (onlyAt_follows _ _)).sendRules fun _ => True).blind
  after := ((tracks_stable (onlyAt_follows _ _)).sendRules fun _ => True).blind
  undone cd mine s holds := by
    subst mine
    have stable := tracks_stable (onlyAt_follows generation fun other => other = n ∧ n ∈ [cd] ++ rest)
    have after := stable.released _ .undone cd nofun (stable.undoing s cd holds)
    refine ⟨after.1, fun other slot found same => ?_⟩
    have here := after.2 other slot found same
    have apart : other ≠ cd := fun equal => by simp [equal] at found
    refine ⟨here.1, ?_⟩
    have member := here.2
    simpa [← here.1, apart] using member

/-- **Older calls and a failed submission.**  From any reachable state, a `tpcall` or `tpacall`
that fails in its submission step ends with that error, and leaves every older slot, parked
reply, claim and deadline as it was if and only if none of the numbers the step takes back was
tracked when it began. -/
theorem failed_submission_spares (labels : List Label) (script : PollScript) (fut : Fut)
    (submits : fut.submits = true) (deadline : Option Instant) (e : AtmiError) (s' : AsyncAtmiCtx)
    (failed : (submitStep script fut).run (machine.run labels).shared =
      ((deadline, .finished (.error e)), s')) :
    let s := (machine.run labels).shared
    (poll script fut).run s = (.ready 0 (.error e), s') ∧
      (s.toTracking.Spares s'.toTracking ↔
        ∀ cd ∈ takenBack script fut s, s.isDescriptorBusy cd = false) := by
  intro s
  have dated : Dated s.toTracking := dated_reachable labels
  have idle : ∀ cd, s.isDescriptorBusy cd = false ↔ s.slots.get cd = none := by simp [isDescriptorBusy]
  refine ⟨?_, fun spares cd member => ?_, fun free => ?_⟩
  · rw [poll_submits script fut submits, StateT.run_bind, failed]
    rfl
  · rw [idle]
    by_contra tracked
    obtain ⟨slot, found⟩ := Option.ne_none_iff_exists'.1 tracked
    have lost := submitStep_follows
      (I := fun rest s => OnlyAt slot.generation (fun other => other = cd ∧ cd ∈ rest) s.toTracking)
      (loses_each cd slot.generation) script fut submits s
      ⟨dated.tracked cd slot found, fun other slot' found' same =>
        ⟨dated.apart other cd slot' slot found' found same, member⟩⟩
    rw [failed] at lost
    obtain ⟨slot', found', same, _⟩ := spares.slots cd slot found
    simpa using (lost.2 cd slot' found' same).2
  · have spared := submitStep_follows (spares_each dated) script fut submits s
      ⟨fun cd member => (idle cd).1 (free cd member), fun cd slot found => ⟨slot, found, .rfl⟩, fun _ _ => rfl⟩
    rw [failed] at spared
    exact spared.2

/-- A reply parked under descriptor 1, and a priority for the next call. -/
def parkedReply : List Label :=
  [.tryTpacall {} {} {},
   .tpcancel 7 { drained := [{ cd := 1, outcome := .ok () }] },
   .tpsprio 50 true]

/-- The send was refused. -/
def sendRefused : Sending → Bool
  | .finished (.error _) => true
  | _ => false

theorem refused_send_spares :
    let s := (machine.run parkedReply).shared
    let failing : PollScript := { waker := 0, send := { sent := .error ⟨.TPEOS, ""⟩ } }
    ∃ deadline e s', (submitStep failing (.created (.tpacall {}))).run s =
        ((deadline, .finished (.error e)), s') ∧ s.toTracking.Spares s'.toTracking := by
  intro s failing
  have fails : sendRefused ((submitStep failing (.created (.tpacall {}))).run s).1.2 = true := by
    decide +kernel
  rcases ran : (submitStep failing (.created (.tpacall {}))).run s with ⟨⟨deadline, _ | _ | _⟩, s'⟩ <;>
    rw [ran] at fails
  · cases fails
  · rename_i e
    exact ⟨deadline, e, s', rfl, (failed_submission_spares parkedReply failing (.created (.tpacall {})) rfl
      deadline e s' ran).2.2 (by decide +kernel)⟩
  · cases fails

/-- The native layer gives number 1 again while its older reply is parked, and the priority
cannot be cleared: taking the new call back frees the older reply. -/
theorem failed_clearing_frees_reply :
    let s := (machine.run parkedReply).shared
    let failing : PollScript := { waker := 0, send := { clearPriority := some ⟨.TPEOS, ""⟩ } }
    let after := (poll failing (.created (.tpacall {}))).run s
    s.holdsReply 1 = true ∧ (after.1 matches .ready 0 (.error _)) = true ∧
      ¬ s.toTracking.Spares after.2.toTracking ∧ after.2.freed = [1] := by
  intro s failing after
  have holding : s.holdsReply 1 = true ∧ s.isDescriptorBusy 1 = true := by decide +kernel
  have lost : (after.1 matches .ready 0 (.error _)) = true ∧ after.2.isDescriptorBusy 1 = false ∧
      after.2.freed = [1] := by decide +kernel
  refine ⟨holding.1, lost.1, fun spares => ?_, lost.2.2⟩
  obtain ⟨slot, found⟩ := Option.isSome_iff_exists.1 holding.2
  obtain ⟨slot', found', _⟩ := spares.slots 1 slot found
  simp [isDescriptorBusy, found'] at lost

end Endurox.Async
