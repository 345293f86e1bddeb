/-
# Async.Returns -- what a future returns

The rules of `Async.Effects` say what a poll keeps; here is what it returns.  A
wait ends in one of two ways: with the outcome of the slot it took (`R`), or
with an error of its own (`E`), found in its registration or made by the wait.
`EndRules` has one clause for each exit of `await_reply`, and `polled_returns`
follows them to the result of the poll.
-/
import Endurox.Async.Effects

namespace Endurox.Async

open Endurox.Theory AsyncAtmiCtx

set_option autoImplicit false

def notAvailable : AtmiError := ⟨.TPEBLOCK, "TPNOBLOCK was specified and no reply is available"⟩

def replyTimedOut : AtmiError := ⟨.TPETIME, "async reply wait timed out"⟩

/-- `Q` holds while `w` waits; then one of its exits gives `R` or `E`.  `reads` are the clock
readings of its timers. -/
structure EndRules (w : Wait) (reads : Instant → Prop) (Q : AsyncAtmiCtx → Prop)
    (R : Cd × AtmiResult Unit → AsyncAtmiCtx → Prop) (E : AtmiError → AsyncAtmiCtx → Prop) : Prop where
  quiet : Closed (Quiet fun _ => True) Q
  parked : ∀ s waker, Q s → Q (s.parkWaker w.target w.own waker)
  errorTaken : ∀ s id, w.target = .any id → Q s → Q (s.takeAnyError id).2
  released : ∀ s cd, w.target = .one cd → Q s → Q (releaseSlot (.timedOut w.own) cd s)
  took : ∀ s choice found s', Q s →
    takeReady w.target w.own w.data w.flags choice s = (some found, s') → R found s'
  told : ∀ s id e, w.target = .any id → Q s → (s.takeAnyError id).1 = some e → E e (s.takeAnyError id).2
  empty : ∀ s, w.flags.noBlock = true → Q s → E notAvailable s
  failed : ∀ s message, Q s → E (driverError message) s
  timedOut : ∀ s now, reads now → w.deadline.any (· ≤ now) = true → Q s → E replyTimedOut s

/-- The clock readings of a wait's timers. -/
def Reads (reads : Instant → Prop) (script : WakeScript) : Prop :=
  ∀ now, script = .timer now → reads now

/-- How a wait ended, if it did. -/
def Ended (R : Cd × AtmiResult Unit → AsyncAtmiCtx → Prop) (E : AtmiError → AsyncAtmiCtx → Prop)
    (s : AsyncAtmiCtx) : Collected → Prop
  | .ok found => R found s
  | .error e => E e s

/-- How a poll of a wait ended. -/
def Waited (Q : AsyncAtmiCtx → Prop) (R : Cd × AtmiResult Unit → AsyncAtmiCtx → Prop)
    (E : AtmiError → AsyncAtmiCtx → Prop) (s : AsyncAtmiCtx) : Awaited → Prop
  | .suspended => Q s
  | .finished result => Ended R E s result

section Exits

variable {w : Wait} {reads : Instant → Prop} {Q : AsyncAtmiCtx → Prop}
  {R : Cd × AtmiResult Unit → AsyncAtmiCtx → Prop} {E : AtmiError → AsyncAtmiCtx → Prop}
  (rules : EndRules w reads Q R E)

include rules

/-- What is taken is what the wait is for. -/
theorem take_returns (choice : Cd) :
    Ends Q (w.take choice) fun ready s => match ready with
      | none => Q s
      | some found => R found s := by
  refine Ends.ofModifyGet fun s holds => ?_
  rcases taken : takeReady w.target w.own w.data w.flags choice s with ⟨_ | found, s'⟩
  · obtain ⟨none, _⟩ | ⟨cd, generation, origin, outcome, buf, claim, _, _, some⟩ :=
      takeReady_cases w.target w.own w.data w.flags choice s
    · cases none.symm.trans taken
      exact holds
    · cases some.symm.trans taken
  · exact rules.took s choice found s' holds taken

/-- A drain, whatever it reads. -/
theorem drain_returns (replies : List NativeReply) : ∀ s, Q s → Q (drain replies s) :=
  drain_keeps rules.quiet (allowed_any _)

/-- Nothing collected: a call that may not block is told so, any other goes on. -/
theorem uncollected_returns :
    Ends Q (if w.flags.noBlock = true then pure (some (.error notAvailable)) else pure none :
      StateM AsyncAtmiCtx (Option Collected)) fun result s => match result with
      | none => Q s
      | some ended => Ended R E s ended := by
  split
  · rename_i nonblocking
    exact Ends.pure fun s holds => rules.empty s nonblocking holds
  · exact Ends.pure fun _ holds => holds

/-- One attempt: what was parked, what a drain brought, an error of the registration, or nothing. -/
theorem tryCollect_returns (script : WaitScript) :
    Ends Q (tryCollect w script) fun result s => match result with
      | none => Q s
      | some ended => Ended R E s ended := by
  unfold tryCollect
  refine Ends.bind (take_returns rules _) fun ready => ?_
  cases ready with
  | some found => exact Ends.pure fun _ holds => holds
  | none =>
      refine Ends.bind (Q := fun _ => Q) (Ends.ofModify (drain_returns rules _)) fun _ => ?_
      refine Ends.bind (take_returns rules _) fun ready => ?_
      cases ready with
      | some found => exact Ends.pure fun _ holds => holds
      | none =>
          cases same : w.target with
          | one cd => exact uncollected_returns rules
          | any id =>
              refine Ends.bind (Q := fun err s => (err = none → Q s) ∧ ∀ e, err = some e → E e s)
                (Ends.ofModifyGet fun s holds => ?_) fun err => ?_
              · refine ⟨fun _ => rules.errorTaken s id same holds, fun e told => ?_⟩
                exact rules.told s id e same holds told
              · cases err with
                | none => exact (uncollected_returns rules).mono (fun _ holds => holds.1 rfl) fun _ _ holds => holds
                | some e => exact Ends.pure fun _ holds => holds.2 e rfl

/-- A sleep, which ends in an error of the driver or in a timer at or after the deadline. -/
theorem waitForWake_returns (waker : Waker) (script : WakeScript) (clocked : Reads reads script) :
    Ends Q (waitForWake w waker script) fun wake s => Q s ∧ match wake with
      | some (.error e) => E e s
      | some (.ok .timeout) => ∃ now, reads now ∧ w.deadline.any (· ≤ now) = true
      | _ => True := by
  unfold waitForWake
  refine Ends.bind (Q := fun _ => Q) (Ends.ofModify fun s => rules.parked s waker) fun _ => ?_
  refine Ends.bind (Q := fun _ => Q) Keeps.ofGet fun before => ?_
  split
  · exact Ends.pure fun s holds => ⟨holds, trivial⟩
  · cases script with
    | pending => exact Ends.pure fun s holds => ⟨holds, trivial⟩
    | readable => exact Ends.pure fun s holds => ⟨holds, trivial⟩
    | failed message => exact Ends.pure fun s holds => ⟨holds, rules.failed s message holds⟩
    | timer now =>
        refine Ends.pure fun s holds => ⟨holds, ?_⟩
        by_cases due : w.deadline.any (· ≤ now) = true
        · rw [if_pos due]
          exact ⟨now, clocked now rfl, due⟩
        · rw [if_neg due]
          trivial

/-- What a wait does once it is woken; at its deadline it looks once more before it gives up. -/
theorem afterWake_returns (waker : Waker) (script : WaitScript) (clocked : Reads reads script.wake) :
    Ends Q (afterWake w waker script) fun woken s => match woken with
      | .finished result => Ended R E s result
      | _ => Q s := by
  unfold afterWake
  refine Ends.bind (waitForWake_returns rules waker script.wake clocked) fun wake => ?_
  match wake with
  | none => exact Ends.pure fun _ holds => holds.1
  | some (.error e) => exact Ends.pure fun _ holds => holds.2
  | some (.ok .progress) =>
      refine Ends.bind (Q := fun _ => Q) (Ends.ofModify fun s holds => drain_returns rules _ s holds.1)
        fun _ => Ends.bind (take_returns rules _) fun ready => ?_
      cases ready with
      | some found => exact Ends.pure fun _ holds => holds
      | none => exact Ends.pure fun _ holds => holds
  | some (.ok .timeout) =>
      refine Ends.ofFact fun ⟨now, read, due⟩ => ?_
      refine Ends.bind (Q := fun _ => Q) (Ends.ofModify (drain_returns rules _)) fun _ =>
        Ends.bind (take_returns rules _) fun ready => ?_
      cases ready with
      | some found => exact Ends.pure fun _ holds => holds
      | none =>
          simp only
          cases same : w.target with
          | any id => exact Ends.pure fun s holds => rules.timedOut s now read due holds
          | one cd =>
              simp only
              split
              · exact Ends.bind (Q := fun _ => Q)
                  (tpcancel_keeps rules.quiet (fun s => rules.released s cd same) _)
                  fun _ => Ends.pure fun s holds => rules.timedOut s now read due holds
              · exact Ends.bind (Q := fun _ => Q) (Ends.ofModify fun s => rules.released s cd same)
                  fun _ => Ends.pure fun s holds => rules.timedOut s now read due holds

/-- **A wait ends in one of its exits**: by induction on how often it is woken within a poll. -/
theorem awaitReply_returns (waker : Waker) :
    ∀ scripts : List WaitScript, (∀ script ∈ scripts, Reads reads script.wake) →
      Ends Q (awaitReply w waker scripts) fun awaited s => Waited Q R E s awaited := by
  intro scripts
  induction scripts with
  | nil =>
      intro _
      unfold awaitReply
      refine Ends.bind (tryCollect_returns rules {}) fun result => ?_
      cases result with
      | some ended => exact Ends.pure fun _ holds => holds
      | none =>
          refine Ends.bind (afterWake_returns rules waker {} (fun _ same => by cases same)) fun woken => ?_
          cases woken <;> exact Ends.pure fun _ holds => holds
  | cons script more ih =>
      intro clocked
      unfold awaitReply
      refine Ends.bind (tryCollect_returns rules script) fun result => ?_
      cases result with
      | some ended => exact Ends.pure fun _ holds => holds
      | none =>
          refine Ends.bind (afterWake_returns rules waker script (clocked script (by simp))) fun woken => ?_
          cases woken with
          | pending => exact Ends.pure fun _ holds => holds
          | finished result => exact Ends.pure fun _ holds => holds
          | again => exact ih fun s member => clocked s (by simp [member])

/-- A wait that is polled again begins where it slept. -/
theorem resumeReply_returns (waker : Waker) (scripts : List WaitScript)
    (clocked : ∀ script ∈ scripts, Reads reads script.wake) :
    Ends Q (resumeReply w waker scripts) fun awaited s => Waited Q R E s awaited := by
  cases scripts with
  | nil =>
      unfold resumeReply
      refine Ends.bind (afterWake_returns rules waker {} nofun) fun woken => ?_
      cases woken with
      | pending => exact Ends.pure fun _ holds => holds
      | finished result => exact Ends.pure fun _ holds => holds
      | again => exact awaitReply_returns rules waker [] (by simp)
  | cons script more =>
      unfold resumeReply
      refine Ends.bind (afterWake_returns rules waker script (clocked script (by simp))) fun woken => ?_
      cases woken with
      | pending => exact Ends.pure fun _ holds => holds
      | finished result => exact Ends.pure fun _ holds => holds
      | again => exact awaitReply_returns rules waker more fun s member => clocked s (by simp [member])

end Exits

/-! ## From the wait to the poll -/

/-- `F` survives what a future does once its wait is over. -/
structure Outlives (F : AsyncAtmiCtx → Prop) : Prop where
  quiet : Closed (Quiet fun _ => True) F
  forgot : ∀ s cd, F s → F (s.forgetDeadline cd)
  released : ∀ s own cd, F s → F (releaseSlot (.dropped own) cd s)
  dropped : ∀ s guard, F s → F (s.dropClaim guard)
  deregistered : ∀ s id, F s → F (s.deregisterAnyWaiter id)

section Finishing

variable {F : AsyncAtmiCtx → Prop} (outlives : Outlives F)

include outlives

/-- The guard of a `tpcall`, disarmed or not. -/
theorem dropPendingCall_outlived (own : Own) (cd : Cd) (armed : Bool) (script : CancelScript) :
    Keeps F (dropPendingCall own cd armed script) := by
  unfold dropPendingCall
  split
  · exact Ends.bind (Q := fun _ => F)
      (tpcancel_keeps outlives.quiet (fun s => outlives.released s own cd) script) fun _ => Keeps.pure
  · exact Keeps.ofModify fun s => outlives.released s own cd

theorem dropGuard_outlived (own : Own) (script : CancelScript) (guard : Guard) :
    Keeps F (dropGuard own script guard) := by
  unfold dropGuard
  cases guard with
  | pendingCall cd => exact dropPendingCall_outlived outlives own cd true script
  | claim guard => exact Keeps.ofModify fun s => outlives.dropped s guard
  | anyWaiter id => exact Keeps.ofModify fun s => outlives.deregistered s id

end Finishing

/-- What a poll returned: the outcome of what it took, or an error of its own. -/
def Returned (Q : AsyncAtmiCtx → Prop) (R : Cd × AtmiResult Unit → AsyncAtmiCtx → Prop)
    (E : AtmiError → AsyncAtmiCtx → Prop) (s : AsyncAtmiCtx) : Polled → Prop
  | .pending _ => Q s
  | .ready _ result => (∃ cd, R (cd, result) s) ∨ ∃ e, result = .error e ∧ E e s

/-- **What a poll returns** is how its wait ended; the guards change nothing about it. -/
theorem finishAwait_returns {Q : AsyncAtmiCtx → Prop} {R : Cd × AtmiResult Unit → AsyncAtmiCtx → Prop}
    {E : AtmiError → AsyncAtmiCtx → Prop} (taken : ∀ found, Outlives (R found)) (own : ∀ e, Outlives (E e))
    (op : Op) (w : Wait) (script : PollScript) (awaited : Awaited) :
    Ends (fun s => Waited Q R E s awaited) (finishAwait op w script awaited) fun polled s =>
      Returned Q R E s polled := by
  unfold finishAwait
  cases awaited with
  | suspended => exact Ends.bind (Q := fun _ => Q) Keeps.ofGet fun _ => Ends.pure fun _ holds => holds
  | finished result =>
      have getrply : Ends (fun s => Waited Q R E s (.finished result))
          (finishGetrply op.cd w result script.finish) fun polled s => Returned Q R E s polled := by
        unfold finishGetrply
        cases result with
        | error e =>
            exact Ends.bind (Q := fun _ => E e) (dropGuard_outlived (own e) _ _ _) fun _ =>
              Ends.pure fun s holds => .inr ⟨e, rfl, holds⟩
        | ok found =>
            refine Ends.bind (Q := fun _ => R found) (Ends.ofModify fun s => (taken found).forgot s _)
              fun _ => Ends.bind (Q := fun _ => R found) (dropGuard_outlived (taken found) _ _ _) fun _ => ?_
            exact Ends.pure fun s holds => .inl ⟨found.1, holds⟩
      cases w.guard with
      | claim | anyWaiter => exact getrply
      | pendingCall cd =>
          unfold finishCall
          cases result with
          | error e =>
              exact Ends.bind (Q := fun _ => E e) (dropPendingCall_outlived (own e) _ _ _ _) fun _ =>
                Ends.pure fun s holds => .inr ⟨e, rfl, holds⟩
          | ok found =>
              exact Ends.bind (Q := fun _ => R found) (dropPendingCall_outlived (taken found) _ _ _ _)
                fun _ => Ends.pure fun s holds => .inl ⟨found.1, holds⟩

end Endurox.Async
