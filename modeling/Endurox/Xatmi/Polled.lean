/-
# Xatmi.Polled -- waiting for the reply queue

`poll_reply_queue`: one `poll` after another, each with what is left to the deadline in
whole milliseconds.  What is left is cut down to milliseconds and to the largest C int,
and a poll that comes back without an event is taken for the deadline; so the wait may
end before it.  `waits_are_full` says when it does not.
-/
import Endurox.Async.Types

namespace Endurox.Xatmi

open Endurox.Async (AtmiError AtmiResult Code Instant)

set_option autoImplicit false

/-! ## `poll` -/

def POLLIN : BitVec 16 := 0x001
def POLLERR : BitVec 16 := 0x008
def POLLHUP : BitVec 16 := 0x010
def POLLNVAL : BitVec 16 := 0x020

def EINTR : Int := 4

/-- `c_int::MAX`. -/
def cIntMax : Nat := 2147483647

def nanosPerMilli : Nat := 1000000

/-- What `poll` returned; `errno` and its text are read when `rc` is negative. -/
structure PollReturn where
  rc : Int
  revents : BitVec 16 := 0
  errno : Int := 0
  error : String := ""
  deriving DecidableEq, Repr

/-- One round of the loop: the clock it read, and the poll. -/
structure Poll where
  now : Instant
  returned : PollReturn
  deriving DecidableEq, Repr

/-- The timeout a poll is given. -/
def timeoutMs (deadline : Option Instant) (now : Instant) : Int :=
  match deadline with
  | some d =>
      -- `checked_duration_since`: none once the deadline is past
      if now ≤ d then
        let millis := (d - now) / nanosPerMilli
        if d - now = 0 then 0 else min (max millis 1) cIntMax
      else 0
  | none => -1

/-- `{:#x}`. -/
def hex (events : BitVec 16) : String := "0x" ++ String.ofList (Nat.toDigits 16 events.toNat)

/-- `poll_reply_queue` on these polls; `none` while it still waits.  The deadline it is
called with only sets the timeouts (`timeoutMs`) that the polls are given. -/
def pollReplyQueue : List Poll → Option (AtmiResult Bool)
  | [] => none
  | poll :: polls =>
      if 0 < poll.returned.rc then
        if poll.returned.revents &&& POLLIN ≠ 0 then some (.ok true)
        else if poll.returned.revents &&& (POLLERR ||| POLLHUP ||| POLLNVAL) ≠ 0 then
          some (.error ⟨.TPEOS, s!"poll on Enduro/X reply queue returned events {hex poll.returned.revents}"⟩)
        else pollReplyQueue polls
      else if poll.returned.rc = 0 then some (.ok false)
      else if poll.returned.errno = EINTR then pollReplyQueue polls
      else some (.error ⟨.TPEOS, s!"poll on Enduro/X reply queue failed: {poll.returned.error}"⟩)

/-! ## The poll that ends the wait -/

/-- No event asked for, or a signal: the loop polls again. -/
def PollReturn.retried (r : PollReturn) : Bool :=
  if 0 < r.rc then r.revents &&& POLLIN = 0 ∧ r.revents &&& (POLLERR ||| POLLHUP ||| POLLNVAL) = 0
  else r.rc ≠ 0 ∧ r.errno = EINTR

/-- The first poll that is not retried. -/
def settling (polls : List Poll) : Option Poll := polls.find? fun poll => !poll.returned.retried

/-- **The wait ends with the first poll that is not retried**, and without an event exactly
when that poll timed out. -/
theorem poll_expired_iff (polls : List Poll) :
    pollReplyQueue polls = some (.ok false) ↔ ∃ poll, settling polls = some poll ∧ poll.returned.rc = 0 := by
  induction polls with
  | nil => simp [pollReplyQueue, settling]
  | cons poll polls ih =>
      by_cases again : poll.returned.retried = true
      · have skip : settling (poll :: polls) = settling polls := by
          unfold settling
          rw [List.find?_cons_of_neg (by simpa using again)]
        have loop : pollReplyQueue (poll :: polls) = pollReplyQueue polls := by
          unfold PollReturn.retried at again
          rw [pollReplyQueue]
          by_cases ready : 0 < poll.returned.rc
          · simp only [ready, if_true, decide_eq_true_eq] at again
            simp [ready, again.1, again.2]
          · simp only [ready, if_false, decide_eq_true_eq] at again
            simp [ready, again.1, again.2]
        rw [skip, loop, ih]
      · have found : settling (poll :: polls) = some poll := by
          unfold settling
          rw [List.find?_cons_of_pos (by simpa using again)]
        rw [found]
        unfold PollReturn.retried at again
        rw [pollReplyQueue]
        by_cases ready : 0 < poll.returned.rc
        · have event : poll.returned.rc ≠ 0 := by omega
          simp only [ready, if_true, decide_eq_true_eq, not_and_or] at again
          rw [if_pos ready]
          split
          · simp [event]
          · rename_i quiet
            rw [if_pos (again.resolve_left quiet)]
            simp [event]
        · simp only [ready, if_false, decide_eq_true_eq, not_and_or] at again
          rw [if_neg ready]
          by_cases expired : poll.returned.rc = 0
          · simp [expired]
          · rw [if_neg expired, if_neg (again.resolve_left (not_not.2 expired))]
            simp [expired]

/-! ## Deadlines -/

/-- The clock when the wait ended: a poll times out no earlier than it was told, and never
without a timeout. -/
def EndedAt (deadline : Option Instant) (polls : List Poll) (clock : Instant) : Prop :=
  ∀ poll, settling polls = some poll → poll.returned.rc = 0 →
    0 ≤ timeoutMs deadline poll.now ∧
      poll.now + (timeoutMs deadline poll.now).toNat * nanosPerMilli ≤ clock

def Reached (deadline : Option Instant) (clock : Instant) : Prop := ∃ d, deadline = some d ∧ d ≤ clock

/-- What is left is at most a millisecond, or whole milliseconds that fit a C int. -/
def WholeMillis (deadline : Option Instant) (now : Instant) : Prop :=
  ∀ d, deadline = some d →
    d ≤ now + nanosPerMilli ∨ (nanosPerMilli ∣ d - now ∧ d - now ≤ cIntMax * nanosPerMilli)

/-- A timeout is long enough exactly for whole milliseconds. -/
theorem timeout_covers_iff (d now : Nat) :
    d ≤ now + (timeoutMs (some d) now).toNat * nanosPerMilli ↔ WholeMillis (some d) now := by
  have whole : WholeMillis (some d) now ↔
      d ≤ now + nanosPerMilli ∨ (nanosPerMilli ∣ d - now ∧ d - now ≤ cIntMax * nanosPerMilli) := by
    simp [WholeMillis]
  rw [whole]
  unfold timeoutMs nanosPerMilli cIntMax
  simp only []
  by_cases left : now ≤ d
  · rw [if_pos left]
    by_cases none : d - now = 0
    · rw [if_pos none]
      omega
    · rw [if_neg none]
      have cut : (min (max (((d - now) / 1000000 : Nat) : Int) 1) (2147483647 : Nat)).toNat =
          min (max ((d - now) / 1000000) 1) 2147483647 := by omega
      rw [cut]
      omega
  · rw [if_neg left]
    omega

theorem timeout_nonneg (d now : Instant) : 0 ≤ timeoutMs (some d) now := by
  unfold timeoutMs
  simp only []
  split
  · split
    · exact Int.le_refl 0
    · omega
  · exact Int.le_refl 0

/-- **When a wait is never short.** For every deadline and every sequence of polls, the
deadline is reported only once it is reached exactly when the poll that timed out was left
whole milliseconds that fit a C int, or no more than one. -/
theorem waits_are_full (deadline : Option Instant) (polls : List Poll) :
    (∀ clock, EndedAt deadline polls clock →
        pollReplyQueue polls = some (.ok false) → Reached deadline clock) ↔
      ∀ poll, settling polls = some poll → poll.returned.rc = 0 → WholeMillis deadline poll.now := by
  constructor
  · intro full poll found expired d given
    subst given
    have ended : EndedAt (some d) polls (poll.now + (timeoutMs (some d) poll.now).toNat * nanosPerMilli) := by
      intro other same _
      obtain rfl : poll = other := Option.some.inj (found.symm.trans same)
      exact ⟨timeout_nonneg d poll.now, Nat.le_refl _⟩
    obtain ⟨_, given, reached⟩ := full _ ended ((poll_expired_iff polls).2 ⟨poll, found, expired⟩)
    obtain rfl := Option.some.inj given
    exact (timeout_covers_iff _ poll.now).1 reached _ rfl
  · intro whole clock ended result
    obtain ⟨poll, found, expired⟩ := (poll_expired_iff polls).1 result
    obtain ⟨timed, waited⟩ := ended poll found expired
    cases deadline with
    | none => exact absurd timed (show ¬ (0 : Int) ≤ -1 by decide)
    | some d =>
        have covered := (timeout_covers_iff d poll.now).2 (whole poll found expired)
        exact ⟨d, rfl, Nat.le_trans covered waited⟩

/-- A millisecond and a half is left; the poll waits for one millisecond, and the deadline
is reported half a millisecond early. -/
theorem deadline_reported_early :
    ¬ ∀ (deadline : Option Instant) (polls : List Poll) (clock : Instant), EndedAt deadline polls clock →
      pollReplyQueue polls = some (.ok false) → Reached deadline clock := by
  intro never
  have ended : EndedAt (some 1500000) [⟨0, ⟨0, 0, 0, ""⟩⟩] 1000000 := by
    intro poll found _
    obtain rfl := Option.some.inj found
    decide
  obtain ⟨d, given, reached⟩ := never (some 1500000) [⟨0, ⟨0, 0, 0, ""⟩⟩] 1000000 ended rfl
  obtain rfl := Option.some.inj given
  exact absurd reached (by decide)

end Endurox.Xatmi
