/-
# Async.Backpressure -- how often, and when, a blocked send is tried again

`backpressureLoop` is `send_with_backpressure` alone: a round is a clock reading, what the
closure answers, and the reading from which the wait is counted.  `backpressure_contract`
says all of what it does.  `attempts_are_rounds` ties the adapter's own loop to it, whose
closure is `attemptSend`, and `retries_resolved` is why that closure's `expect` holds.
-/
import Endurox.Async.Effects

namespace Endurox.Async

open Endurox.Theory AsyncAtmiCtx

set_option autoImplicit false

/-! ## The loop -/

/-- One turn of the loop; what a turn does not reach it does not read. -/
structure Round (τ : Type) where
  now : Instant
  outcome : AtmiResult τ
  blockedAt : Instant

inductive Did
  | attempt (flags : Flags) (retry : Bool)
  | sleep (wake : Instant)
  deriving DecidableEq, Repr

/-- 1 ms. -/
def firstDelay : Nat := 1000000

def sendWaitTimedOut : AtmiError := ⟨.TPETIME, "async send wait timed out"⟩

def Round.expired {τ : Type} (deadline : Option Instant) (round : Round τ) : Bool :=
  deadline.any (· ≤ round.now)

/-- The attempt failed with a full queue, and the caller would wait for one. -/
def Round.blocked {τ : Type} (flags : Flags) (round : Round τ) : Bool :=
  match round.outcome with
  | .error e => e.code = .TPEBLOCK && !flags.noBlock
  | .ok _ => false

/-- The wait ends at the deadline, if that comes first. -/
def cutAt (deadline : Option Instant) (wake : Instant) : Instant := deadline.elim wake (min · wake)

/-- `send_with_backpressure`: what it did, and what it returned if the rounds were enough. -/
def backpressureLoop {τ : Type} (flags : Flags) (deadline : Option Instant) :
    Nat → Bool → List (Round τ) → List Did × Option (AtmiResult τ)
  | _, _, [] => ([], none)
  | delay, retry, round :: rounds =>
      if round.expired deadline then ([], some (.error sendWaitTimedOut))
      else if round.blocked flags then
        let wake := round.blockedAt + delay
        let rest := backpressureLoop flags deadline (min (delay * 2) maxDelay) true rounds
        (.attempt { flags with noBlock := true } retry :: .sleep (cutAt deadline wake) :: rest.1, rest.2)
      else ([.attempt { flags with noBlock := true } retry], some round.outcome)

/-! ## What it does -/

section Contract

variable {τ : Type} (flags : Flags) (deadline : Option Instant)

/-- 1, 2, 4, 8, 16, 16, ... ms. -/
def delayOf (i : Nat) : Nat := min (2 ^ i) 16 * 1000000

/-- A round after which the loop waits and tries again. -/
def Round.waits (round : Round τ) : Bool := !round.expired deadline && round.blocked flags

/-- The `i`-th attempt, from 0. -/
def attemptOf (i : Nat) : Did := .attempt { flags with noBlock := true } (decide (i ≠ 0))

/-- Turn `i`, when the loop waits after it. -/
def waitedTurn (i : Nat) (round : Round τ) : List Did :=
  [attemptOf flags i, .sleep (cutAt deadline (round.blockedAt + delayOf i))]

/-- The end of the loop at turn `i`. -/
def lastTurn (i : Nat) : List (Round τ) → List Did × Option (AtmiResult τ)
  | [] => ([], none)
  | round :: _ =>
      if round.expired deadline then ([], some (.error sendWaitTimedOut))
      else ([attemptOf flags i], some round.outcome)

/-- The turns waited, numbered from `i`. -/
def waitedTurns (i : Nat) : List (Round τ) → List Did
  | [] => []
  | round :: rounds => waitedTurn flags deadline i round ++ waitedTurns (i + 1) rounds

section Turns

variable {flags deadline} {now blockedAt : Instant} {outcome : AtmiResult τ} (delay : Nat) (retry : Bool)
  (rounds : List (Round τ))

theorem loop_expired (expired : deadline.any (· ≤ now) = true) :
    backpressureLoop flags deadline delay retry (⟨now, outcome, blockedAt⟩ :: rounds) =
      ([], some (.error sendWaitTimedOut)) := by
  rw [backpressureLoop, Round.expired, if_pos expired]

theorem loop_blocked (expired : ¬ deadline.any (· ≤ now) = true)
    (blocked : Round.blocked flags ⟨now, outcome, blockedAt⟩ = true) :
    backpressureLoop flags deadline delay retry (⟨now, outcome, blockedAt⟩ :: rounds) =
      (.attempt { flags with noBlock := true } retry :: .sleep (cutAt deadline (blockedAt + delay)) ::
          (backpressureLoop flags deadline (min (delay * 2) maxDelay) true rounds).1,
        (backpressureLoop flags deadline (min (delay * 2) maxDelay) true rounds).2) := by
  rw [backpressureLoop, Round.expired, if_neg expired, if_pos blocked]

theorem loop_answered (expired : ¬ deadline.any (· ≤ now) = true)
    (blocked : ¬ Round.blocked flags ⟨now, outcome, blockedAt⟩ = true) :
    backpressureLoop flags deadline delay retry (⟨now, outcome, blockedAt⟩ :: rounds) =
      ([.attempt { flags with noBlock := true } retry], some outcome) := by
  rw [backpressureLoop, Round.expired, if_neg expired, if_neg blocked]

end Turns

theorem delayOf_succ (i : Nat) : min (delayOf i * 2) maxDelay = delayOf (i + 1) := by
  unfold delayOf maxDelay
  rw [Nat.pow_succ]
  omega

/-- **From turn `i`**, the loop is the turns it waits after and the turn it ends in. -/
theorem loop_from : ∀ (rounds : List (Round τ)) (i : Nat),
    backpressureLoop flags deadline (delayOf i) (decide (i ≠ 0)) rounds =
      (waitedTurns flags deadline i (rounds.takeWhile (Round.waits flags deadline)) ++
          (lastTurn flags deadline (i + (rounds.takeWhile (Round.waits flags deadline)).length)
            (rounds.dropWhile (Round.waits flags deadline))).1,
        (lastTurn flags deadline (i + (rounds.takeWhile (Round.waits flags deadline)).length)
            (rounds.dropWhile (Round.waits flags deadline))).2)
  | [], i => rfl
  | ⟨now, outcome, blockedAt⟩ :: rounds, i => by
      by_cases expired : deadline.any (· ≤ now) = true
      · have stops : Round.waits flags deadline ⟨now, outcome, blockedAt⟩ = false := by
          simp [Round.waits, Round.expired, expired]
        rw [loop_expired _ _ _ expired]
        simp [Round.expired, expired, stops, waitedTurns, lastTurn]
      · by_cases blocked : Round.blocked flags ⟨now, outcome, blockedAt⟩ = true
        · have waits : Round.waits flags deadline ⟨now, outcome, blockedAt⟩ = true := by
            simp [Round.waits, Round.expired, expired, blocked]
          have rest := loop_from rounds (i + 1)
          rw [show decide (i + 1 ≠ 0) = true by simp] at rest
          rw [loop_blocked _ _ _ expired blocked, delayOf_succ, rest, List.takeWhile_cons_of_pos waits,
            List.dropWhile_cons_of_pos waits, List.length_cons, Nat.add_right_comm, Nat.add_assoc]
          rfl
        · have stops : Round.waits flags deadline ⟨now, outcome, blockedAt⟩ = false := by
            simp [Round.waits, blocked]
          rw [loop_answered _ _ _ expired blocked]
          simp [Round.expired, expired, stops, waitedTurns, lastTurn, attemptOf]

end Contract

/-! ## The adapter's loop is that loop -/

/-- How the adapter's loop and the plain one agree in where they end. -/
def Agrees (sending : Sending) (ended : List Did × Option (AtmiResult Submission)) : Prop :=
  match sending with
  | .finished result => ended.2 = some result
  | .sleeping _ wake => ended.2 = none ∧ ended.1.getLast? = some (.sleep wake)

theorem Agrees.after {sending : Sending} {ended : List Did × Option (AtmiResult Submission)}
    (agrees : Agrees sending ended) (turn : List Did) : Agrees sending (turn ++ ended.1, ended.2) := by
  cases sending with
  | finished result => exact agrees
  | sleeping b wake =>
      obtain ⟨running, last⟩ := agrees
      exact ⟨running, by rw [List.getLast?_append, last]; rfl⟩

/-- The rounds of the adapter's loop: the clocks of its scripts, with what `attemptSend` answers of each after
the one before was blocked.  A round past the last is read by neither loop. -/
def roundsOf (flags : Flags) (deadline : Option Instant) (claimed : Bool) :
    Backpressure → AsyncAtmiCtx → List SendScript → List (Round Submission)
  | _, _, [] => []
  | b, s, script :: scripts =>
      let turn := (attemptSend flags deadline claimed b script).run s
      ⟨script.now, turn.1.1, script.blockedAt⟩ ::
        roundsOf flags deadline claimed
          { b with delay := min (b.delay * 2) maxDelay, retry := true, retryPriority := turn.1.2 } turn.2 scripts

/-- Rounds at the clocks of scripts. -/
def Clocked (scripts : List SendScript) (rounds : List (Round Submission)) : Prop :=
  rounds.map (fun round => (round.now, round.blockedAt)) =
    scripts.map fun script => (script.now, script.blockedAt)

theorem roundsOf_clocked (flags : Flags) (deadline : Option Instant) (claimed : Bool) (scripts : List SendScript)
    (b : Backpressure) (s : AsyncAtmiCtx) : Clocked scripts (roundsOf flags deadline claimed b s scripts) := by
  unfold Clocked
  induction scripts generalizing b s with
  | nil => rfl
  | cons script scripts ih => rw [roundsOf, List.map_cons, ih, List.map_cons]

/-- One turn of the adapter's loop. -/
theorem sendWithBackpressure_turn (flags : Flags) (deadline : Option Instant) (claimed : Bool)
    (b : Backpressure) (script : SendScript) (more : List SendScript) (s : AsyncAtmiCtx) :
    (sendWithBackpressure flags deadline claimed b script more).run s =
      if deadline.any (· ≤ script.now) then (.finished (.error sendWaitTimedOut), s)
      else
        let turn := (attemptSend flags deadline claimed b script).run s
        match turn.1.1 with
        | .ok submission => (.finished (.ok submission), turn.2)
        | .error e =>
            if e.code = .TPEBLOCK ∧ ¬ flags.noBlock then
              let b' := { b with delay := min (b.delay * 2) maxDelay, retry := true, retryPriority := turn.1.2 }
              match more with
              | [] => (.sleeping b' (cutAt deadline (script.blockedAt + b.delay)), turn.2)
              | next :: more => (sendWithBackpressure flags deadline claimed b' next more).run turn.2
            else (.finished (.error e), turn.2) := by
  cases more <;> rw [sendWithBackpressure] <;> split
  all_goals try rfl
  all_goals
    rw [StateT.run_bind]
    rcases (attemptSend flags deadline claimed b script).run s with ⟨⟨e | submission, p⟩, s'⟩
    · show StateT.run (if e.code = .TPEBLOCK ∧ ¬ flags.noBlock = true then _ else _) s' = _
      simp only
      split <;> rfl
    · rfl

theorem blocked_error (flags : Flags) (now blockedAt : Instant) (e : AtmiError) :
    Round.blocked (τ := Submission) flags ⟨now, .error e, blockedAt⟩ = true ↔
      e.code = .TPEBLOCK ∧ ¬ flags.noBlock = true := by
  simp [Round.blocked]

/-- **The adapter's loop** ends as the plain loop does over the answers of its attempts. -/
theorem attempts_are_rounds (flags : Flags) (deadline : Option Instant) (claimed : Bool)
    (more : List SendScript) (b : Backpressure) (script : SendScript) (s : AsyncAtmiCtx) :
    Agrees ((sendWithBackpressure flags deadline claimed b script more).run s).1
      (backpressureLoop flags deadline b.delay b.retry (roundsOf flags deadline claimed b s (script :: more))) := by
  rw [sendWithBackpressure_turn, roundsOf]
  by_cases expired : deadline.any (· ≤ script.now) = true
  · rw [if_pos expired, loop_expired _ _ _ expired]
    rfl
  rw [if_neg expired]
  rcases (attemptSend flags deadline claimed b script).run s with ⟨⟨e | submission, p⟩, s'⟩
  · simp only
    split
    · rename_i blocked
      rw [loop_blocked _ _ _ expired ((blocked_error _ _ _ _).2 blocked)]
      cases more with
      | nil => exact ⟨rfl, rfl⟩
      | cons next more =>
          have agrees := attempts_are_rounds flags deadline claimed more
            { b with delay := min (b.delay * 2) maxDelay, retry := true, retryPriority := p } next s'
          exact agrees.after [.attempt { flags with noBlock := true } b.retry,
            .sleep (cutAt deadline (script.blockedAt + b.delay))]
    · rename_i other
      rw [loop_answered _ _ _ expired fun blocked => other ((blocked_error _ _ _ _).1 blocked)]
      rfl
  · rw [loop_answered _ _ _ expired (by simp [Round.blocked])]
    rfl

/-! ## The `expect` of a retry -/

/-- `tpgprio` does not report a full queue. -/
def AsyncAtmiCtx.SendScript.prioritySettles (script : SendScript) : Bool :=
  match script.sentPriority with
  | .error e => e.code ≠ .TPEBLOCK
  | .ok _ => true

/-- A retry has its priority. -/
def AsyncAtmiCtx.Backpressure.Resolved (b : Backpressure) : Prop := b.retry = true → b.retryPriority.isSome = true

/-- An attempt that is to be tried again leaves a priority for it. -/
def LeavesPriority (flags : Flags) (result : AtmiResult Submission × Option Int) : Prop :=
  ∀ e, result.1 = .error e → e.code = .TPEBLOCK → flags.noBlock = false → result.2.isSome = true

theorem registerSubmission_refuses (cd : Cd) (deadline : Option Instant) (claimed : Bool)
    (drained : List NativeReply) : Ends (fun _ => True)
      (registerSubmission cd deadline claimed drained).run fun result _ =>
        ∀ e, result = .error e → e.code = .TPELIMIT := by
  unfold registerSubmission
  refine Ends.tryBind (F := fun result _ => ∃ s, result = .ok s) (Ends.tryGet fun s _ => ⟨s, rfl⟩)
    (fun _ _ ⟨_, impossible⟩ => nomatch impossible) fun s => ?_
  split
  · refine Ends.tryBind (F := fun result _ => result = .ok ⟨⟩) (Ends.tryModify fun _ _ => rfl)
      (fun _ _ impossible => nomatch impossible) fun _ => ?_
    refine Ends.tryBind (F := fun result _ => result = .ok ⟨⟩) (Ends.tryModify fun _ _ => rfl)
      (fun _ _ impossible => nomatch impossible) fun _ => Ends.throw fun _ _ e same => ?_
    cases same
    rfl
  · split
    · refine Ends.tryBind (F := fun result _ => result = .ok ⟨⟩) (Ends.tryModify fun _ _ => rfl)
        (fun _ _ impossible => nomatch impossible) fun _ => Ends.tryPure fun _ _ => nofun
    · exact Ends.tryPure fun _ _ => nofun

theorem resolvePriority_resolves {b : Backpressure} (resolved : b.Resolved) {script : SendScript}
    (settles : script.prioritySettles = true) : Ends (fun _ => True) (resolvePriority b script).run
      fun result _ => (∀ e, result = .error e → e.code ≠ .TPEBLOCK) ∧
        ∀ priority, result = .ok priority → priority.isSome = true := by
  unfold resolvePriority
  split
  · rename_i retry
    exact Ends.tryPure fun _ _ => ⟨nofun, fun _ same => by cases same; exact resolved retry⟩
  · refine Ends.tryBind (F := fun result _ => result = script.sentPriority) (Ends.ofExcept fun _ _ => rfl)
      (fun e _ same => ⟨fun _ thrown => ?_, nofun⟩) fun priority => ?_
    · cases thrown
      simpa [AsyncAtmiCtx.SendScript.prioritySettles, ← same] using settles
    · exact Ends.tryBind (F := fun result _ => result = .ok ⟨⟩) (Ends.tryModify fun _ _ => rfl)
        (fun _ _ impossible => nomatch impossible)
        fun _ => Ends.tryPure fun _ _ => ⟨nofun, fun _ same => by cases same; rfl⟩

theorem attemptSend_resolves {b : Backpressure} (resolved : b.Resolved) (flags : Flags)
    (deadline : Option Instant) (claimed : Bool) {script : SendScript}
    (settles : script.prioritySettles = true) :
    Ends (fun _ => True) (attemptSend flags deadline claimed b script)
      fun result _ => LeavesPriority flags result := by
  unfold attemptSend
  refine Ends.bind Ends.anyhow fun _ => Ends.bind Ends.anyhow fun result => ?_
  cases result with
  | ok cd =>
      refine Ends.bind ((registerSubmission_refuses cd deadline claimed _).mono (fun _ _ => trivial)
        fun _ _ holds => holds) fun registered => Ends.pure fun _ refused e same full _ => ?_
      exact nomatch (refused e same).symm.trans full
  | error e =>
      simp only
      split
      · refine Ends.bind ((resolvePriority_resolves resolved settles).mono (fun _ _ => trivial)
          fun _ _ holds => holds) fun answer => ?_
        cases answer with
        | error failure =>
            refine Ends.pure fun _ holds e same full _ => ?_
            cases same
            exact absurd full (holds.1 failure rfl)
        | ok priority =>
            refine Ends.ofOnly fun holds => ?_
            have known : priority.isSome = true := holds.2 priority rfl
            refine Ends.bind Ends.anyhow fun relieved => ?_
            cases relieved with
            | error _ => exact Ends.pure fun _ _ _ _ _ _ => known
            | ok _ => exact Ends.pure fun _ _ _ _ _ _ => known
      · rename_i other
        refine Ends.pure fun _ _ e' same full waits => ?_
        cases same
        exact absurd ⟨full, by simp [waits]⟩ other

/-- **A retry follows a blocked send**: from an attempt that has its priority, whatever is tried
again has one. -/
theorem retries_resolved (flags : Flags) (deadline : Option Instant) (claimed : Bool) (b : Backpressure)
    (script : SendScript) (more : List SendScript)
    (settles : ∀ attempt ∈ script :: more, attempt.prioritySettles = true) :
    Ends (fun _ => b.Resolved) (sendWithBackpressure flags deadline claimed b script more)
      fun sending _ => ∀ b' wake, sending = .sleeping b' wake →
        b'.retry = true ∧ b'.retryPriority.isSome = true := by
  refine sendLoop_blocked _ (I := fun b _ => b.Resolved) (R := fun sending _ => ∀ b' wake,
      sending = .sleeping b' wake → b'.retry = true ∧ b'.retryPriority.isSome = true)
    (fun _ _ _ _ => nofun) (fun b script settles => ?_) ?_ more b script settles
  · refine Ends.ofOnly fun resolved => ?_
    refine (attemptSend_resolves resolved flags deadline claimed settles).mono (fun _ holds => holds) ?_
    rintro ⟨e | submission, p⟩ s leaves
    · exact ⟨nofun, fun full waits _ _ => leaves e rfl full waits⟩
    · exact nofun
  · rintro b wake _ retry resolved _ _ ⟨⟩
    exact ⟨retry, resolved retry⟩

/-- **The back-pressure loop.**  Over any rounds it attempts and waits as `waitedTurns` and
`lastTurn` say; the adapter's loop is this one over what its attempts answer; and while only the
native send reports a full queue, every retry has its priority. -/
theorem backpressure_contract (flags : Flags) (deadline : Option Instant) :
    (∀ (τ : Type) (rounds : List (Round τ)),
      backpressureLoop flags deadline firstDelay false rounds =
        (waitedTurns flags deadline 0 (rounds.takeWhile (Round.waits flags deadline)) ++
            (lastTurn flags deadline (rounds.takeWhile (Round.waits flags deadline)).length
              (rounds.dropWhile (Round.waits flags deadline))).1,
          (lastTurn flags deadline (rounds.takeWhile (Round.waits flags deadline)).length
              (rounds.dropWhile (Round.waits flags deadline))).2)) ∧
    ∀ (claimed : Bool) (b : Backpressure) (script : SendScript) (more : List SendScript) (s : AsyncAtmiCtx),
      (Clocked (script :: more) (roundsOf flags deadline claimed b s (script :: more)) ∧
        Agrees ((sendWithBackpressure flags deadline claimed b script more).run s).1
          (backpressureLoop flags deadline b.delay b.retry (roundsOf flags deadline claimed b s (script :: more)))) ∧
      ((∀ attempt ∈ script :: more, attempt.prioritySettles = true) → b.Resolved →
        ∀ b' wake, ((sendWithBackpressure flags deadline claimed b script more).run s).1 = .sleeping b' wake →
          b'.retry = true ∧ b'.retryPriority.isSome = true) := by
  refine ⟨fun τ rounds => ?_, fun claimed b script more s => ⟨⟨?_, ?_⟩, fun settles resolved => ?_⟩⟩
  · have loop := loop_from flags deadline rounds 0
    rw [Nat.zero_add] at loop
    exact loop
  · exact roundsOf_clocked flags deadline claimed (script :: more) b s
  · exact attempts_are_rounds flags deadline claimed more b script s
  · exact retries_resolved flags deadline claimed b script more settles s resolved

end Endurox.Async
