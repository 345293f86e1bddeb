/-
# Async.Failures -- who a queue-level failure reaches

A failure that names no descriptor is recorded where its waiters look: in every
waiting slot and in every registration.  `Fine` of `Async.Wakeup` says that it
stays there for a future suspended at that moment; here the next poll of that
future ends with it (`failed_resumes`, `told_resumes`), and a slot keeps it for
whoever had claimed the slot (`Reserved`).  A slot that was waiting for nobody
keeps it for anybody, which is what `queueFailures_confined` has to exclude.
-/
import Endurox.Async.Wakeup

namespace Endurox.Async

open Endurox.Theory AsyncAtmiCtx

set_option autoImplicit false

/-! ## What a round tells the registrations -/

/-- What a registration has heard of failures. -/
def AnyWaiter.heard (entry : AnyWaiter) : Nat × Option AtmiError := (entry.since, entry.error)

/-- At most one failure is reported, and then every registration has its error. -/
def Tells (s s' : AsyncAtmiCtx) : Prop :=
  ∃ told : Option Failure, s'.failures = told.toList ++ s.failures ∧
    ∀ id, (s'.anyWaiters.get id).map AnyWaiter.heard =
      (s.anyWaiters.get id).map fun entry => (entry.since, told.elim entry.error (some ·.err))

theorem tells_same {s s' : AsyncAtmiCtx} (waking : s'.toWaking = s.toWaking) : Tells s s' :=
  ⟨none, by rw [waking]; rfl, fun id => by rw [waking]; rfl⟩

theorem tells_wakeAny {s s' : AsyncAtmiCtx} (waiters : s'.anyWaiters = s.anyWaiters)
    (failures : s'.failures = s.failures) : Tells s s'.wakeAnyWaiters := by
  refine ⟨none, failures, fun id => ?_⟩
  cases found : s.anyWaiters.get id <;> simp [wakeAnyWaiters, wake, waiters, found, AnyWaiter.heard]

theorem tells_failed (err : AtmiError) {s s' : AsyncAtmiCtx} (waking : s'.toWaking = s.toWaking) :
    Tells s (s'.failAllWaiting err) := by
  refine ⟨some (s'.failureOf err), by simp [failAllWaiting, wakeAnyWaiters, wake, waking], fun id => ?_⟩
  cases found : s.anyWaiters.get id <;>
    simp [failAllWaiting, wakeAnyWaiters, wake, waking, found, AnyWaiter.heard, failureOf]

theorem route_tells (cd : Cd) (outcome : AtmiResult Unit) (buf : ParkedBuf) {s s' : AsyncAtmiCtx}
    (waking : s'.toWaking = s.toWaking) : Tells s (s'.route cd outcome buf) := by
  unfold route
  cases found : s'.slots.get cd with
  | none =>
      simp only [record, found]
      exact tells_wakeAny (by rw [waking]) (by rw [waking])
  | some slot =>
      cases slot with
      | ready => exact tells_same (by simp [record, found, waking])
      | waiting =>
          simp only [record, found]
          exact tells_wakeAny (by simp [wake, waking]) (by simp [wake, waking])

theorem settle_tells (reply : NativeReply) (buf : ParkedBuf) {s s' : AsyncAtmiCtx}
    (waking : s'.toWaking = s.toWaking) : Tells s (s'.settle reply buf).2 := by
  have taken : ({ s' with lent := none } : AsyncAtmiCtx).toWaking = s.toWaking := waking
  unfold settle
  split
  · split
    · exact tells_same (by simp [waking])
    · split
      · exact route_tells reply.cd reply.outcome buf taken
      · exact tells_failed _ (by simp [waking])
  · split
    · exact route_tells reply.cd reply.outcome buf taken
    · exact tells_same (by simp [waking])

theorem round_tells (reply : NativeReply) (s : AsyncAtmiCtx) : Tells s (s.drainRound reply).2 := by
  have waking := takeScratch_waking reply.alloc s
  unfold drainRound
  rcases taken : s.takeScratch reply.alloc with ⟨err | buffer, s'⟩ <;> rw [taken] at waking
  · exact tells_failed err waking
  · exact settle_tells reply _ (by simpa only [observe, tpgetrply_waking] using waking)

theorem moved_tells {may : Cd → Prop} {s s' : AsyncAtmiCtx} (moved : DrainMove may s s') : Tells s s' := by
  cases moved with
  | round reply _ => exact round_tells reply s
  | draining => exact tells_same rfl
  | wakeAny => exact tells_wakeAny rfl rfl

/-- What a registration has heard after the round, from what it had before. -/
theorem heard_before {s s' : AsyncAtmiCtx} {told : Option Failure} {id : Nat} {entry' : AnyWaiter}
    (heard : (s'.anyWaiters.get id).map AnyWaiter.heard =
      (s.anyWaiters.get id).map fun entry => (entry.since, told.elim entry.error (some ·.err)))
    (found : s'.anyWaiters.get id = some entry') : ∃ entry, s.anyWaiters.get id = some entry ∧
      entry'.since = entry.since ∧ entry'.error = told.elim entry.error (some ·.err) := by
  rw [found] at heard
  obtain ⟨entry, before, same⟩ := Option.map_eq_some_iff.1 heard.symm
  exact ⟨entry, before, (congrArg Prod.fst same).symm, (congrArg Prod.snd same).symm⟩

theorem told_quiet {may : Cd → Prop} (id : Nat) : Closed (Quiet may) (Told id) := by
  refine Closed.quiet ?_
  rintro s s' moved ⟨entry, last, found, head, error⟩
  obtain ⟨told, failures, heard⟩ := moved_tells moved
  have after := heard id
  rw [found] at after
  obtain ⟨entry', found', same⟩ := Option.map_eq_some_iff.1 after
  have now : entry'.error = told.elim entry.error (some ·.err) := congrArg Prod.snd same
  cases told with
  | none => exact ⟨entry', last, found', by rw [failures]; exact head, now.trans error⟩
  | some f => exact ⟨entry', f, found', by rw [failures]; rfl, now⟩

/-! ## The next poll -/

/-- A failure due in a slot stays there: nothing replaces an outcome. -/
theorem failed_quiet {may : Cd → Prop} (cd : Cd) (slot : Slot) (ready : slot.isReady = true) :
    Closed (Quiet may) fun s => s.slots.get cd = some slot := by
  refine quiet_drains (P := fun t => t.slots.get cd = some slot) fun t t' moved found => ?_
  cases moved with
  | answered cd₀ generation waker claim outcome buf found₀ =>
      have other : cd ≠ cd₀ := fun same => by
        cases (same ▸ found).symm.trans found₀
        cases ready
      simp [other, found]
  | displaced => exact found
  | arrived cd₀ outcome buf untracked =>
      have other : cd ≠ cd₀ := fun same => by simp [same, untracked] at found
      simp [other, found]
  | failed err =>
      cases slot with
      | waiting => cases ready
      | ready => simp [found, failWaiting]

theorem isReady_of_found {s : AsyncAtmiCtx} {cd : Cd} {slot : Slot} (found : s.slots.get cd = some slot) :
    s.isReady cd = slot.isReady := by
  simp [isReady, found]

/-- A poll goes on at once when there is something for the target. -/
theorem waitForWake_ready {P : AsyncAtmiCtx → Prop} {w : Wait} {waker : Waker} (script : WakeScript)
    (parked : ∀ s, P s → P (s.parkWaker w.target w.own waker))
    (ready : ∀ s, P s → s.isTargetReady w.target = true) :
    Ends P (waitForWake w waker script) fun wake s => wake = some (.ok .progress) ∧ P s := by
  unfold waitForWake
  refine Ends.bind (Q := fun _ => P) (Ends.ofModify parked) fun _ => ?_
  refine Ends.bind (Q := fun before s => P s ∧ before = s) (Ends.ofGet fun s holds => ⟨holds, rfl⟩)
    fun before => ?_
  rintro s ⟨holds, rfl⟩
  rw [if_pos (ready before holds)]
  exact ⟨rfl, holds⟩

/-- The outcome parked for `cd` is this failure. -/
def Failed (cd : Cd) (err : AtmiError) (s : AsyncAtmiCtx) : Prop :=
  ∃ generation origin claim,
    s.slots.get cd = some (.ready generation origin (.error err) .EMPTY claim)

section One

variable {w : Wait} {cd : Cd} {err : AtmiError} (target : w.target = .one cd)

include target

theorem take_failed (choice : Cd) :
    Ends (Failed cd err) (w.take choice) fun ready _ => ready = some (cd, .error err) := by
  refine Ends.ofModifyGet fun s ⟨generation, origin, claim, found⟩ => ?_
  simp [target, takeReady, isReady, found, Slot.isReady, handOver, ParkedBuf.EMPTY]

theorem afterWake_failed (waker : Waker) (script : WaitScript) :
    Ends (Failed cd err) (afterWake w waker script) fun woken _ =>
      woken = .finished (.ok (cd, .error err)) := by
  have parked : ∀ s, Failed cd err s → Failed cd err (s.parkWaker w.target w.own waker) := by
    rintro s ⟨generation, origin, claim, found⟩
    exact ⟨generation, origin, claim, by simp [parkWaker_slots, found, target, Slot.parked]⟩
  have ready : ∀ s, Failed cd err s → s.isTargetReady w.target = true := by
    rintro s ⟨_, _, _, found⟩
    rw [target]
    exact isReady_of_found found
  unfold afterWake
  refine Ends.bind (waitForWake_ready script.wake parked ready) fun wake => Ends.ofThen fun progress => ?_
  subst progress
  refine Ends.bind (Q := fun _ => Failed cd err) (Ends.ofModify ?_) fun _ => ?_
  · refine drain_keeps (fun moved failed => ?_) (allowed_any _)
    obtain ⟨generation, origin, claim, found⟩ := failed
    exact ⟨generation, origin, claim, failed_quiet cd _ rfl moved found⟩
  · refine Ends.bind (take_failed target _) fun ready => Ends.ofOnly fun found => ?_
    subst found
    exact Ends.pure fun _ _ => rfl

/-- **The poll after a failure ends with it**, for a future that waits for one descriptor. -/
theorem failed_resumes (waker : Waker) (scripts : List WaitScript) :
    Ends (Failed cd err) (resumeReply w waker scripts) fun awaited _ =>
      awaited = .finished (.ok (cd, .error err)) := by
  cases scripts with
  | nil =>
      refine Ends.bind (afterWake_failed target waker {}) fun woken => Ends.ofOnly fun ended => ?_
      subst ended
      exact Ends.pure fun _ _ => rfl
  | cons script more =>
      refine Ends.bind (afterWake_failed target waker script) fun woken => Ends.ofOnly fun ended => ?_
      subst ended
      exact Ends.pure fun _ _ => rfl

end One

namespace AsyncAtmiCtx.Wait

/-- The state once the drain after the wake of a poll has run, when there was something to wake for. -/
def woken (w : Wait) (script : PollScript) (s : AsyncAtmiCtx) : AsyncAtmiCtx :=
  drain (script.waits.headD {}).after (s.parkWaker w.target w.own script.waker)

/-- The state once the next round's drain has run too. -/
def drained (w : Wait) (script : PollScript) (s : AsyncAtmiCtx) : AsyncAtmiCtx :=
  drain (script.waits.tail.headD {}).before (w.woken script s)

end AsyncAtmiCtx.Wait

section Any

variable {w : Wait} {id : Nat} (target : w.target = .any id)

/-- A take with nothing there changes nothing. -/
theorem take_nothing {s : AsyncAtmiCtx} (nothing : NothingReady w.target s) (choice : Cd) :
    Ends (· = s) (w.take choice) fun ready s' => ready = none ∧ s' = s := by
  refine Ends.ofModifyGet ?_
  rintro _ rfl
  obtain ⟨none, _⟩ | ⟨cd, generation, origin, outcome, buf, claim, found, takes, _⟩ :=
    takeReady_cases w.target w.own w.data w.flags choice _
  · rw [none]
    exact ⟨rfl, rfl⟩
  · cases target : w.target with
    | one cd' =>
        rw [target] at nothing takes
        cases (show cd = cd' from takes)
        simp [NothingReady, isReady, found, Slot.isReady] at nothing
    | any id =>
        rw [target] at nothing takes
        cases (show claim = .none from takes)
        cases nothing cd _ found

include target

theorem afterWake_told {s : AsyncAtmiCtx} (told : Told id s) (waker : Waker) (script : WaitScript)
    (nothing : NothingReady w.target (drain script.after (s.parkWaker w.target w.own waker))) :
    Ends (· = s) (afterWake w waker script) fun woken s' =>
      woken = .again ∧ s' = drain script.after (s.parkWaker w.target w.own waker) := by
  obtain ⟨entry, last, found, head, error⟩ := told
  have ready : (s.parkWaker w.target w.own waker).isTargetReady w.target = true := by
    simp [target, isTargetReady, hasAnyError, parkWaker_anyWaiters, found, error]
  unfold afterWake waitForWake
  refine Ends.bind (Q := fun wake s' => wake = some (.ok .progress) ∧ s' = s.parkWaker w.target w.own waker)
    (Ends.bind (Q := fun _ s' => s' = s.parkWaker w.target w.own waker) (Ends.ofModify (by rintro _ rfl; rfl))
      fun _ => Ends.bind (Q := fun before s' => s' = s.parkWaker w.target w.own waker ∧ before = s')
        (Ends.ofGet fun _ same => ⟨same, rfl⟩) fun before => ?_) fun wake => Ends.ofThen fun progress => ?_
  · rintro s' ⟨rfl, rfl⟩
    rw [if_pos ready]
    exact ⟨rfl, rfl⟩
  · subst progress
    refine Ends.bind (Ends.ofModify (Q := fun _ s' => s' = drain script.after (s.parkWaker w.target w.own waker))
      (by rintro _ rfl; rfl)) fun _ => ?_
    refine Ends.bind (take_nothing nothing _) fun ready => Ends.ofThen fun missing => ?_
    subst missing
    exact Ends.pure fun _ same => ⟨rfl, same⟩

theorem tryCollect_told {s : AsyncAtmiCtx} (told : Told id s) (script : WaitScript)
    (nothing : NothingReady w.target s) (still : NothingReady w.target (drain script.before s)) :
    Ends (· = s) (tryCollect w script) fun result _ =>
      ∃ last, (drain script.before s).failures.head? = some last ∧ result = some (.error last.err) := by
  obtain ⟨entry, last, found, head, error⟩ :=
    drain_keeps (told_quiet id) (allowed_any script.before) s told
  unfold tryCollect
  refine Ends.bind (take_nothing nothing _) fun ready => Ends.ofThen fun missing => ?_
  subst missing
  refine Ends.bind (Ends.ofModify (Q := fun _ s' => s' = drain script.before s) (by rintro _ rfl; rfl))
    fun _ => ?_
  refine Ends.bind (take_nothing still _) fun ready => Ends.ofThen fun missing => ?_
  subst missing
  simp only [target]
  refine Ends.bind (Q := fun err _ => err = some last.err) (Ends.ofModifyGet ?_) fun err => ?_
  · rintro _ rfl
    simp [takeAnyError, found, error]
  · refine Ends.ofOnly fun same => ?_
    subst same
    exact Ends.pure fun _ _ => ⟨last, head, rfl⟩

/-- **The poll after a failure ends with the last one**, for a `TPGETANY` that finds no reply. -/
theorem told_resumes {s : AsyncAtmiCtx} (told : Told id s) (script : PollScript)
    (nothing : NothingReady w.target (w.woken script s))
    (still : NothingReady w.target (w.drained script s)) :
    Ends (· = s) (resumeReply w script.waker script.waits) fun awaited _ =>
      ∃ last, (w.drained script s).failures.head? = some last ∧
        awaited = .finished (.error last.err) := by
  have woken : Told id (w.woken script s) := by
    refine drain_keeps (told_quiet id) (allowed_any _) _ ?_
    obtain ⟨entry, last, found, head, error⟩ := told
    exact ⟨{ entry with waker := some script.waker }, last, by simp [parkWaker_anyWaiters, found, target],
      by simp [parkWaker, target, found, head], error⟩
  have again : ∀ more : List WaitScript, more.headD {} = script.waits.tail.headD {} →
      Ends (· = w.woken script s) (awaitReply w script.waker more) fun awaited _ =>
        ∃ last, (w.drained script s).failures.head? = some last ∧
          awaited = .finished (.error last.err) := by
    intro more same
    have collects := tryCollect_told target woken (more.headD {}) nothing (same ▸ still)
    rw [same] at collects
    cases more <;> unfold awaitReply <;> rw [← same] at collects <;>
      refine Ends.bind collects fun result => Ends.ofOnly ?_ <;>
      · rintro ⟨last, head, rfl⟩
        rw [same] at head
        exact Ends.pure fun _ _ => ⟨last, head, rfl⟩
  have wakes := afterWake_told target told script.waker (script.waits.headD {}) nothing
  cases waits : script.waits with
  | nil =>
      rw [waits] at wakes again
      refine Ends.bind wakes fun result => Ends.ofThen fun ended => ?_
      subst ended
      simpa [Wait.woken, waits] using again [] rfl
  | cons wait more =>
      rw [waits] at wakes again
      refine Ends.bind wakes fun result => Ends.ofThen fun ended => ?_
      subst ended
      simpa [Wait.woken, waits] using again more rfl

end Any

/-- What the future returns when its wait ended with an error parked for its descriptor. -/
theorem finishAwait_failed {w : Wait} {cd : Cd} {err : AtmiError} (op : Op) (script : PollScript) :
    Ends (fun _ => True) (finishAwait op w script (.finished (.ok (cd, .error err)))) fun polled _ =>
      ∃ cd, polled = .ready cd (.error err) := by
  have ignored : ∀ m : StateM AsyncAtmiCtx Unit, Ends (fun _ => True) m fun _ _ => True :=
    fun _ _ _ => trivial
  unfold finishAwait
  cases w.guard with
  | pendingCall cd' =>
      exact Ends.bind (ignored _) fun _ => Ends.pure fun _ _ => ⟨cd', rfl⟩
  | claim | anyWaiter =>
      exact Ends.bind (ignored _) fun _ => Ends.bind (ignored _) fun _ => Ends.pure fun _ _ => ⟨cd, rfl⟩

/-- A `TPGETANY` returns as its wait ended. -/
theorem finishAwait_any {w : Wait} {id : Nat} (guard : w.guard = .anyWaiter id) (op : Op)
    (script : PollScript) (err : AtmiError) :
    Ends (fun _ => True) (finishAwait op w script (.finished (.error err))) fun polled _ =>
      ∃ cd, polled = .ready cd (.error err) := by
  unfold finishAwait finishGetrply
  simp only [guard]
  exact Ends.bind (Q := fun _ _ => True) (fun _ _ => trivial) fun _ => Ends.pure fun _ _ => ⟨_, rfl⟩

/-! ## Whom a failure waits for -/

/-- The claim a failed slot carried when it failed. -/
def Slot.failure? : Slot → Option (Option ReplyClaim)
  | .ready _ (.queueFailure claim) _ _ _ => some claim
  | _ => none

/-- A failure is for the waiter that had claimed the slot, whose claim is still on it. -/
def Slot.Reserved (slot : Slot) : Prop :=
  ∀ claim, slot.failure? = some claim → claim.isSome = true ∧ slot.claim = claim

def Event.Reserved : Event → Prop
  | .collected _ _ slot _ => slot.Reserved
  | _ => True

/-- While no failure found a slot waiting for nobody, failures are reserved. -/
def Reserved (s : AsyncAtmiCtx) : Prop :=
  (∀ f ∈ s.failures, f.unowned = false) →
    (∀ cd slot, s.slots.get cd = some slot → slot.Reserved) ∧ Sound (fun _ => Event.Reserved) s.log

theorem Reserved.kept {s s' : AsyncAtmiCtx} (reserved : Reserved s) (failures : s.failures ⊆ s'.failures)
    (slots : ∀ cd slot, s'.slots.get cd = some slot →
      slot.Reserved ∨ ∃ cd', s.slots.get cd' = some slot)
    (log : (∀ cd slot, s.slots.get cd = some slot → slot.Reserved) →
      Sound (fun _ => Event.Reserved) s.log → Sound (fun _ => Event.Reserved) s'.log) : Reserved s' := by
  intro owned
  obtain ⟨before, sound⟩ := reserved fun f member => owned f (failures member)
  refine ⟨fun cd slot found => ?_, log before sound⟩
  rcases slots cd slot found with holds | ⟨cd', earlier⟩
  · exact holds
  · exact before cd' slot earlier

theorem reserved_frame {s s' : AsyncAtmiCtx} (tracking : s'.toTracking = s.toTracking)
    (waking : s'.toWaking = s.toWaking) (reserved : Reserved s) : Reserved s' := by
  unfold Reserved
  rw [tracking, waking]
  exact reserved

theorem route_reserved (cd : Cd) (outcome : AtmiResult Unit) (buf : ParkedBuf) {s : AsyncAtmiCtx}
    (reserved : Reserved s) : Reserved (s.route cd outcome buf) := by
  have parked : ∀ generation report claim,
      (Slot.ready generation (.reply report) outcome buf claim).Reserved := fun _ _ _ => nofun
  unfold route
  cases found : s.slots.get cd with
  | none =>
      simp only [record, found]
      refine reserved.kept (List.Subset.refl _) (fun cd' slot there => ?_) fun _ sound => ⟨trivial, sound⟩
      simp only [wakeAnyWaiters, wake, Table.get_set] at there
      split at there
      · cases there
        exact .inl (parked _ _ _)
      · exact .inr ⟨cd', there⟩
  | some slot =>
      cases slot with
      | ready =>
          simp only [record, found]
          refine reserved.kept (by simp) (fun cd' slot there => .inr ⟨cd', by simpa using there⟩)
            fun _ sound => ?_
          refine ⟨trivial, ?_⟩
          rw [congrArg Tracking.log (stash_tracking buf _)]
          exact ⟨trivial, sound⟩
      | waiting generation waker claim =>
          simp only [record, found]
          refine reserved.kept (List.Subset.refl _) (fun cd' slot there => ?_) fun _ sound => ⟨trivial, sound⟩
          simp only [wakeAnyWaiters, wake, Table.get_set] at there
          split at there
          · cases there
            exact .inl (parked _ _ _)
          · exact .inr ⟨cd', there⟩

theorem failAllWaiting_reserved (err : AtmiError) {s : AsyncAtmiCtx} (reserved : Reserved s) :
    Reserved (s.failAllWaiting err) := by
  intro owned
  obtain ⟨before, sound⟩ := reserved fun f member => owned f (List.mem_cons_of_mem _ member)
  have claimed : s.slots.vals.any Slot.isUnowned = false := owned (s.failureOf err) List.mem_cons_self
  refine ⟨fun cd slot found => ?_, sound⟩
  simp only [failAllWaiting, wakeAnyWaiters, wake, Table.get_mapVals, Option.map_eq_some_iff] at found
  obtain ⟨slot, there, rfl⟩ := found
  cases slot with
  | ready => exact before cd _ there
  | waiting generation waker claim =>
      intro claim' same
      cases same
      have owner := List.any_eq_false.1 claimed _ (Table.mem_vals.2 ⟨cd, there⟩)
      cases claim with
      | none => simp [Slot.isUnowned] at owner
      | some => exact ⟨rfl, rfl⟩

theorem settle_reserved (reply : NativeReply) (buf : ParkedBuf) {s : AsyncAtmiCtx}
    (reserved : Reserved s) : Reserved (s.settle reply buf).2 := by
  have stashed : Reserved (stash buf { s with lent := none }) :=
    reserved_frame (by simp) (by simp) reserved
  unfold settle
  split
  · split
    · exact stashed
    · split
      · exact route_reserved (s := { s with lent := none }) _ _ _ reserved
      · exact failAllWaiting_reserved _ stashed
  · split
    · exact route_reserved (s := { s with lent := none }) _ _ _ reserved
    · exact stashed

theorem reserved_quiet {may : Cd → Prop} : Closed (Quiet may) Reserved := by
  refine Closed.quiet fun {s s'} moved reserved => ?_
  cases moved with
  | round reply _ =>
      have tracking := takeScratch_tracking reply.alloc s
      have waking := takeScratch_waking reply.alloc s
      unfold drainRound
      rcases taken : s.takeScratch reply.alloc with ⟨err | buffer, s'⟩ <;>
        rw [taken] at tracking waking
      · exact failAllWaiting_reserved err (reserved_frame tracking waking reserved)
      · refine settle_reserved reply _ (reserved_frame ?_ ?_ reserved)
        · simpa only [observe, tpgetrply_tracking] using tracking
        · simpa only [observe, tpgetrply_waking] using waking
  | draining => exact reserved
  | wakeAny => exact reserved

/-- Removing a slot. -/
theorem Reserved.del {s s' : AsyncAtmiCtx} {cd : Cd} (reserved : Reserved s)
    (slots : s'.slots = s.slots.del cd) (waking : s'.toWaking = s.toWaking)
    (log : (∀ cd slot, s.slots.get cd = some slot → slot.Reserved) →
      Sound (fun _ => Event.Reserved) s.log → Sound (fun _ => Event.Reserved) s'.log) : Reserved s' := by
  refine reserved.kept (by rw [waking]; exact List.Subset.refl _) (fun cd' slot found => ?_) log
  rw [slots, Table.get_del] at found
  split at found
  · cases found
  · exact .inr ⟨cd', found⟩

/-- Writing a slot that is reserved if the one before was. -/
theorem Reserved.set {s s' : AsyncAtmiCtx} {cd : Cd} {slot₀ : Slot} (reserved : Reserved s)
    (slots : s'.slots = s.slots.set cd slot₀) (failures : s'.failures = s.failures)
    (mine : (∀ cd slot, s.slots.get cd = some slot → slot.Reserved) → slot₀.Reserved)
    (log : Sound (fun _ => Event.Reserved) s.log → Sound (fun _ => Event.Reserved) s'.log) :
    Reserved s' := by
  intro owned
  rw [failures] at owned
  obtain ⟨before, sound⟩ := reserved owned
  refine ⟨fun cd' slot found => ?_, log sound⟩
  rw [slots, Table.get_set] at found
  split at found
  · cases found
    exact mine before
  · exact before cd' slot found

theorem release_reserved (cause : Cause) (cd : Cd) {s : AsyncAtmiCtx} (reserved : Reserved s) :
    Reserved (releaseSlot cause cd s) :=
  reserved.del (releaseSlot_slots cause cd s) (releaseSlot_waking cause cd s) fun _ sound =>
    release_sound cause cd (fun _ _ => trivial) sound

theorem waiting_reserved (generation : Nat) (waker : Option Waker) (claim : Option ReplyClaim) :
    (Slot.waiting generation waker claim).Reserved := nofun

theorem claim_reserved {s s' : AsyncAtmiCtx} {cd : Cd} {guard : ReplyClaimGuard}
    (claimed : s.claim cd = (.ok guard, s')) (reserved : Reserved s) : Reserved s' := by
  obtain ⟨_, _, rfl⟩ | ⟨slot, found, unclaimed, _, rfl⟩ := claim_cases claimed
  · exact reserved.set rfl rfl (fun _ => waiting_reserved _ _ _) fun sound => ⟨trivial, sound⟩
  · refine reserved.set rfl rfl (fun before => ?_) fun sound => ⟨trivial, sound⟩
    have mine := before cd slot found
    cases slot with
    | waiting => exact waiting_reserved _ _ _
    | ready generation origin outcome buf claim =>
        cases origin with
        | reply => exact nofun
        | queueFailure claim' =>
            obtain ⟨some, same⟩ := mine claim' rfl
            cases same.symm.trans unclaimed
            cases some

/-- A claim is dropped while its slot waits, so no failure loses its owner. -/
theorem dropClaim_reserved {s : AsyncAtmiCtx} (guard : ReplyClaimGuard)
    (waits : ∀ slot, s.slots.get guard.cd = some slot → slot.claim = some (.waiter guard.id) →
      slot.failure? = none) (reserved : Reserved s) : Reserved (s.dropClaim guard) := by
  unfold dropClaim
  cases found : s.slots.get guard.cd with
  | none => exact reserved
  | some slot =>
      simp only
      split
      · rename_i held
        have mine := waits slot found held
        cases slot with
        | ready generation origin outcome buf claim =>
            refine reserved.set rfl rfl (fun _ claim' same => ?_) fun sound => sound
            cases origin with
            | reply => cases same
            | queueFailure => cases mine
        | waiting generation waker claim =>
            simp only
            split
            · exact reserved.del rfl rfl fun _ sound => ⟨trivial, sound⟩
            · exact reserved.set rfl rfl (fun _ => waiting_reserved _ _ _) fun sound => sound
      · exact reserved

/-- The slot a `tpgetrply` quits holds no outcome, so none of a failure. -/
theorem failure_none {slot : Slot} (waits : slot.isReady = false) : slot.failure? = none := by
  cases slot with
  | waiting => rfl
  | ready => cases waits

theorem reserved_rules :
    StepRules (fun _ => True) (fun _ => True) Reserved (fun w s => w.Shaped ∧ Reserved s)
      (fun _ _ => True) fun _ _ => True where
  drains := reserved_quiet
  send :=
    { quiet := reserved_quiet
      settings := fun moved reserved => by
        cases moved
        exact reserved
      undone := fun cd _ s reserved => release_reserved .undone cd
        (reserved.kept (List.Subset.refl _) (fun cd' _ found => .inr ⟨cd', found⟩) fun _ sound => ⟨trivial, sound⟩)
      submitted := fun s cd deadline claimed _ _ reserved => by
        have after : Reserved (registered cd deadline claimed s) :=
          reserved.set rfl rfl (fun _ => waiting_reserved _ _ _) fun sound => ⟨trivial, sound⟩
        exact ⟨after, fun _ _ _ _ => ⟨⟨⟨rfl, rfl, _, rfl⟩, after⟩, trivial⟩⟩ }
  wait w :=
    { quiet := fun moved reserved => ⟨reserved.1, reserved_quiet moved reserved.2⟩
      permit := fun _ _ _ => trivial
      parked := fun s waker reserved _ => by
        refine ⟨⟨reserved.1, ?_⟩, trivial⟩
        obtain ⟨_, _, _, _, _, _, parked⟩ | ⟨_, _, _, _, parked⟩ | ⟨parked, _⟩ :=
          parkWaker_cases w.target w.own waker s <;> rw [parked]
        · exact reserved.2.set rfl rfl (fun _ => waiting_reserved _ _ _) fun sound => ⟨trivial, sound⟩
        · exact reserved.2
        · exact reserved.2
      collected := fun s choice cd result s' reserved _ taken => by
        refine ⟨⟨reserved.1, ?_⟩, trivial⟩
        have waking := takeReady_waking taken
        obtain ⟨_, _, _, _, slots⟩ := takeReady_slots taken
        refine reserved.2.del slots waking fun before sound =>
          collect_sound (fun slot _ found _ => before _ slot found) taken sound
      errorTaken := fun s id _ reserved _ => by
        refine ⟨⟨reserved.1, ?_⟩, trivial⟩
        unfold takeAnyError
        split <;> exact reserved.2
      keeps := fun _ _ _ => trivial
      timedOut := fun s cd _ reserved _ _ => ⟨⟨reserved.1, release_reserved _ cd reserved.2⟩, trivial⟩ }
  guard w :=
    { released := fun s cd _ reserved _ => release_reserved _ cd reserved.2
      dropped := fun s guard same reserved quits => by
        have shaped := reserved.1
        simp only [Wait.Shaped, same] at shaped
        exact dropClaim_reserved guard (fun slot found held =>
          failure_none (quits _ _ slot shaped.1 shaped.2 found held)) reserved.2
      deregistered := fun _ _ _ reserved => reserved.2 }
  weaken _ _ reserved := reserved.2
  allocated s id info reserved := reserved_frame (by simp) (by simp) reserved
  freed s id reserved := reserved_frame (by simp) (by simp) reserved

/-! ## Registrations -/

/-- A registration's error was reported since it registered. -/
def Registered (s : AsyncAtmiCtx) : Prop :=
  ∀ id entry, s.anyWaiters.get id = some entry → entry.since ≤ s.failures.length ∧
    ∀ err, entry.error = some err →
      ∃ f ∈ s.failures.take (s.failures.length - entry.since), f.err = err

theorem Registered.kept {s s' : AsyncAtmiCtx} (registered : Registered s)
    (failures : s'.failures = s.failures)
    (waiters : ∀ id entry', s'.anyWaiters.get id = some entry' → ∃ entry, s.anyWaiters.get id = some entry ∧
      entry'.since = entry.since ∧ (entry'.error = none ∨ entry'.error = entry.error)) :
    Registered s' := by
  intro id entry' found'
  obtain ⟨entry, found, since, error⟩ := waiters id entry' found'
  obtain ⟨old, reported⟩ := registered id entry found
  rw [failures, since]
  refine ⟨old, fun err same => ?_⟩
  rcases error with none | kept
  · cases none.symm.trans same
  · exact reported err (kept.symm.trans same)

theorem registered_frame {s s' : AsyncAtmiCtx} (waking : s'.toWaking = s.toWaking)
    (registered : Registered s) : Registered s' := by
  unfold Registered
  rw [waking]
  exact registered

theorem registered_quiet {may : Cd → Prop} : Closed (Quiet may) Registered := by
  refine Closed.quiet fun {s s'} moved registered => ?_
  obtain ⟨told, failures, heard⟩ := moved_tells moved
  intro id entry' found'
  obtain ⟨entry, found, since, error⟩ := heard_before (heard id) found'
  obtain ⟨old, reported⟩ := registered id entry found
  cases told with
  | none =>
      rw [failures, since, error]
      exact ⟨old, reported⟩
  | some f =>
      have count : (f :: s.failures).length - entry.since = s.failures.length - entry.since + 1 := by
        simp only [List.length_cons]
        omega
      rw [failures, since, error]
      refine ⟨Nat.le_succ_of_le old, fun err same => ⟨f, ?_, Option.some.inj same⟩⟩
      simp only [Option.toList, List.cons_append, List.nil_append, count, List.take_succ_cons]
      exact List.mem_cons_self

theorem registered_stable : Stable Registered where
  quiet := registered_quiet
  settings moved registered := by
    cases moved
    exact registered
  undoing _ _ registered := registered
  released s cause cd _ registered := registered_frame (releaseSlot_waking cause cd s) registered
  submitted _ _ _ _ _ _ registered := registered
  claimed s cd guard s' claimed registered := by
    obtain ⟨_, _, rfl⟩ | ⟨_, _, _, _, rfl⟩ := claim_cases claimed <;> exact registered
  dropped s guard _ registered := by
    have woken : ∀ slots, Registered (wakeAnyWaiters { s with slots }) := fun slots =>
      registered_quiet (.wakeAny { s with slots } : Quiet (fun _ => True) _ _) registered
    unfold dropClaim
    split
    · split
      · split
        · split
          · exact registered
          · exact woken _
        · exact woken _
      · exact registered
    · exact registered
  parked s target own waker registered := by
    refine registered.kept ?_ fun id entry' found' => ?_
    · obtain ⟨_, _, _, _, _, _, parked⟩ | ⟨_, _, _, _, parked⟩ | ⟨parked, _⟩ :=
        parkWaker_cases target own waker s
      all_goals simp [parked, record]
    · rw [parkWaker_anyWaiters, Option.map_eq_some_iff] at found'
      obtain ⟨entry, found, rfl⟩ := found'
      exact ⟨entry, found, by split <;> rfl, .inr (by split <;> rfl)⟩
  collected s target own id flags choice cd result s' registered taken := by
    have waking := takeReady_waking taken
    exact registered_frame (show (s'.forgetDeadline cd).toWaking = s.toWaking from waking) registered
  errorTaken s id registered := by
    unfold takeAnyError
    split
    · rename_i entry found
      refine registered.kept rfl fun id' entry' found' => ?_
      rw [Table.get_set] at found'
      split at found'
      · rename_i same
        cases found'
        exact ⟨entry, same ▸ found, rfl, .inl rfl⟩
      · exact ⟨entry', found', rfl, .inr rfl⟩
    · exact registered
  anyRegistered s registered := by
    intro id entry found
    simp only [registerAnyWaiter, Table.get_set] at found
    split at found
    · cases found
      exact ⟨Nat.le_refl _, (by simp)⟩
    · exact registered id entry found
  anyDeregistered s id registered := by
    refine registered.kept rfl fun id' entry' found' => ?_
    simp only [deregisterAnyWaiter, Table.get_del] at found'
    split at found'
    · cases found'
    · exact ⟨entry', found', rfl, .inr rfl⟩
  allocated s id info registered := registered_frame (by simp) registered
  freed s id registered := registered_frame (by simp) registered

/-! ## Every run -/

namespace AsyncAtmiCtx.Wait

/-- The failures reported since the last poll that found nothing parked for the future. -/
def owed (w : Wait) (s : AsyncAtmiCtx) : List Failure :=
  (w.unseen s).filter fun f => !f.parkedFor w.target

/-- A `TPGETANY` that is owed a failure finds a reply first, or a later failure with another error. -/
def overtaken (script : PollScript) (s : AsyncAtmiCtx) (w : Wait) : Bool :=
  match w.target with
  | .one _ => false
  | .any _ => (w.owed s).any fun f =>
      ((w.woken script s).anyUnclaimed 0).isSome || ((w.drained script s).anyUnclaimed 0).isSome ||
        (w.drained script s).failures.head?.any (·.err ≠ f.err)

end AsyncAtmiCtx.Wait

/-- A suspended `TPGETANY` is polled that was overtaken. -/
def overtakes (world : World) : Label → Bool
  | .poll f script => (world.futures.get f).any fun fut =>
      match fut with
      | .waiting _ w => w.overtaken script world.shared
      | _ => false
  | _ => false

/-- A `tpgetrply` is dropped whose slot holds a failure. -/
def disowns (world : World) : Label → Bool
  | .drop f _ => (world.futures.get f).any fun fut =>
      match fut with
      | .waiting _ w =>
          match w.guard with
          | .claim guard => ((world.shared.slots.get guard.cd).bind Slot.failure?).isSome
          | _ => false
      | _ => false
  | _ => false

/-- No failure finds a slot waiting for nobody, nor is left to nobody by the drop of the future it
is for, nor overtaken; and no wait is cancelled by another task. -/
def confines (world : World) (label : Label) : Bool :=
  cancelsNoWait world label && !disowns world label && !overtakes world label &&
    (world.step label).shared.failures.all fun f => !f.unowned

/-- A future that is owed a failure returns it at its next poll. -/
def Delivered (world : World) : Label → Prop
  | .poll f script => ∀ op w, world.futures.get f = some (.waiting op w) →
      ∀ failure ∈ w.owed world.shared,
        ∃ cd, ((poll script (.waiting op w)).run world.shared).1 = .ready cd (.error failure.err)
  | _ => True

/-- Failures are for the futures that waited when they came: these have been woken; a failed slot
is collected by the future that had claimed it when it failed, and a registration has no error
from before it. -/
structure World.Confined (world : World) : Prop where
  woken : ∀ f op w, world.futures.get f = some (.waiting op w) → w.owed world.shared ≠ [] →
    w.waker ∈ world.shared.woken.drop w.mark
  collected : ∀ own cd slot refused, .collected own cd slot refused ∈ world.shared.log →
    ∀ claim, slot.failure? = some claim → claim.isSome = true ∧ slot.claim = claim ∧ slot.heldBy own
  registered : Registered world.shared

theorem mem_owed {w : Wait} {s : AsyncAtmiCtx} {f : Failure} (member : f ∈ w.owed s) :
    f ∈ w.unseen s ∧ f.parkedFor w.target = false := by
  simpa [Wait.owed] using List.mem_filter.1 member

/-- A future that is owed a failure has been woken. -/
theorem fine_woken {w : Wait} {s : AsyncAtmiCtx} (fine : Fine w s) (owed : w.owed s ≠ []) :
    w.waker ∈ s.woken.drop w.mark := by
  obtain ⟨f, member⟩ := List.exists_mem_of_ne_nil _ owed
  obtain ⟨unseen, unparked⟩ := mem_owed member
  have due := fine.due f unseen unparked
  rcases fine.wakeful with ⟨_, waits⟩ | woken
  · unfold Due at due
    cases target : w.target with
    | one cd =>
        rw [target] at due waits
        obtain ⟨_, _, _, found⟩ := due
        simp [isTargetReady, isReady, found, Slot.isReady] at waits
    | any id =>
        rw [target] at due waits
        obtain ⟨entry, last, found, _, error⟩ := due
        simp [isTargetReady, hasAnyError, found, error] at waits
  · exact woken

theorem nothing_of_none {s : AsyncAtmiCtx} {id : Nat} (none : (s.anyUnclaimed 0).isSome = false) :
    NothingReady (.any id) s :=
  anyUnclaimed_none.1 (by simpa using none)

/-- **The next poll delivers what is owed.** -/
theorem delivered_step {world : World} (wakeful : world.Wakeful) (label : Label)
    (timely : overtakes world label = false) : Delivered world label := by
  cases label with
  | poll f script =>
      intro op w found failure member
      obtain ⟨unseen, unparked⟩ := mem_owed member
      have fine := wakeful.fine f op w found
      have due := fine.due failure unseen unparked
      unfold Due at due
      cases target : w.target with
      | one cd =>
          rw [target] at due
          have ends : Ends (Failed cd failure.err) (poll script (.waiting op w)) fun polled _ =>
              ∃ cd, polled = .ready cd (.error failure.err) :=
            Ends.bind (failed_resumes target script.waker script.waits) fun awaited =>
              Ends.ofOnly fun ended => by
                subst ended
                exact finishAwait_failed op script
          exact ends world.shared due
      | any id =>
          rw [target] at due
          have guard : w.guard = .anyWaiter id := by
            have shaped := fine.holds.1
            unfold Wait.Shaped at shaped
            split at shaped <;> simp_all
          simp only [overtakes, found, Option.any_some, Wait.overtaken, target, List.any_eq_false,
            Bool.or_eq_true, not_or, Bool.not_eq_true] at timely
          obtain ⟨⟨first, second⟩, same⟩ := timely failure member
          have nothing : NothingReady w.target (w.woken script world.shared) :=
            target ▸ nothing_of_none first
          have still : NothingReady w.target (w.drained script world.shared) :=
            target ▸ nothing_of_none second
          have ends : Ends (· = world.shared) (poll script (.waiting op w)) fun polled _ =>
              ∃ cd, polled = .ready cd (.error failure.err) := by
            refine Ends.bind (told_resumes target due script nothing still) fun awaited => Ends.ofOnly ?_
            rintro ⟨last, head, rfl⟩
            have error : last.err = failure.err := by simpa [head] using same
            rw [← error]
            exact finishAwait_any guard op script last.err
          exact ends world.shared rfl
  | _ => trivial

theorem reserved_step {world : World} (known : world.Known) (label : Label)
    (owns : disowns world label = false) (reserved : Reserved world.shared) :
    Reserved (world.step label).shared := by
  refine (step_ends reserved_rules label ?_ reserved).1
  cases label with
  | poll f script =>
      refine ⟨anything_admits script, fun fut found => ?_⟩
      have there := known f fut found
      cases fut with
      | sending op deadline b => exact ⟨reserved, there⟩
      | waiting op w => exact ⟨there.1, ⟨there.1, reserved⟩, trivial⟩
      | created op =>
          cases op with
          | tpcall | tpacall => exact reserved
          | tpgetrply cd data flags =>
              exact fit_getrply reserved (fun _ w shaped _ _ => ⟨⟨shaped, reserved⟩, trivial⟩)
                fun w guard s' claimed shaped _ _ => ⟨⟨shaped, claim_reserved claimed reserved⟩, trivial⟩
  | drop f script =>
      refine fun op w found => ⟨⟨(known f _ found).1, reserved⟩, fun cd _ => release_reserved _ cd reserved,
        fun guard same => dropClaim_reserved guard (fun slot there _ => ?_) reserved⟩
      simpa [disowns, found, same, there] using owns
  | tpcancel cd script => exact release_reserved _ cd reserved
  | tryTpacall => exact fun _ _ => trivial
  | _ => trivial

/-- A suspended future that is fine may be resumed. -/
theorem wakeful_keepsClaim {world : World} (wakeful : world.Wakeful) (label : Label) :
    keepsClaim world label = true := by
  cases label with
  | poll f script =>
      cases found : world.futures.get f with
      | none => simp [keepsClaim, found]
      | some fut =>
          cases fut with
          | waiting op w =>
              have holds := (wakeful.fine f op w found).holds.2
              simp only [keepsClaim, found, Option.all_some, Wait.resumable]
              cases target : w.target with
              | any => rfl
              | one cd =>
                  rw [target] at holds
                  obtain ⟨slot, there, held⟩ := holds
                  simp [there, held]
          | _ => simp [keepsClaim, found]
  | _ => rfl

/-- What a run keeps in which failures are confined. -/
structure World.Confines (world : World) : Prop where
  known : world.Known
  given : Given world.shared.toTracking
  wakeful : world.Wakeful
  legit : Sound (fun _ => Event.Legit) world.shared.log
  reserved : Reserved world.shared
  owned : ∀ f ∈ world.shared.failures, f.unowned = false

theorem confines_step {world : World} {label : Label} (confined : confines world label = true)
    (holds : world.Confines) : (world.step label).Confines := by
  simp only [confines, Bool.and_eq_true, Bool.not_eq_true', List.all_eq_true] at confined
  obtain ⟨⟨⟨cancels, owns⟩, _⟩, owned⟩ := confined
  exact ⟨step_known holds.known label, step_keeps given_stable holds.known holds.given label,
    wakeful_step holds.known holds.given holds.wakeful label cancels,
    legit_step holds.known label (wakeful_keepsClaim holds.wakeful label) holds.legit,
    reserved_step holds.known label owns holds.reserved, owned⟩

theorem confines_init : machine.init.Confines :=
  ⟨known_reachable [], (dated_reachable []).toGiven, ⟨by simp [machine], by simp [machine]⟩, trivial,
    fun _ => ⟨by simp [machine], trivial⟩, by simp [machine]⟩

/-- **Failures reach the waiters of that moment, and nobody else.**  In every run in which no failure finds
a slot waiting for nobody, and none is overtaken or left to nobody, every suspended future that a
failure found with nothing parked is woken and returns that error at its next poll, and no later
wait receives it. -/
theorem queueFailures_confined (labels : List Label)
    (confined : machine.Along (confines · · = true) labels) :
    machine.Along Delivered labels ∧ (machine.run labels).Confined := by
  refine ⟨Machine.along_of (P := World.Confines) confines_init (fun _ _ => confines_step)
    (fun world label here holds => ?_) labels confined, ?_⟩
  · simp only [confines, Bool.and_eq_true, Bool.not_eq_true'] at here
    exact delivered_step holds.wakeful label here.1.2
  · have holds := Machine.invariantAlong (P := World.Confines) confines_init (fun _ _ => confines_step)
      labels confined
    refine ⟨fun f op w found owed => fine_woken (holds.wakeful.fine f op w found) owed,
      fun own cd slot refused member claim failed => ?_,
      stable_reachable registered_stable (fun _ _ found => by simp at found) labels⟩
    obtain ⟨_, _, held⟩ := holds.legit.of_mem member
    obtain ⟨_, _, kept⟩ := (holds.reserved holds.owned).2.of_mem member
    exact ⟨(kept claim failed).1, (kept claim failed).2, held⟩

/-- A `tpcall` and a `TPGETANY` wait, the drain of another task fails, and both are polled. -/
def failedWaits : List Label :=
  [.allocData 0 none, .make (.tpcall 0 {}), .poll 0 { waker := 1 },
   .allocData 1 none, .make (.tpgetrply 0 1 { getAny := true }), .poll 1 { waker := 2 },
   .tpcancel 9 { drained := [{ outcome := .error ⟨.TPEOS, "queue"⟩ }] },
   .poll 0 { waker := 1 }, .poll 1 { waker := 2 }]

theorem failedWaits_confined :
    machine.Along Delivered failedWaits ∧ (machine.run failedWaits).Confined :=
  queueFailures_confined failedWaits (by decide +kernel)

/-- A `tpacall` nobody waits on is outstanding when the drain of another task fails; then a
`TPGETANY` begins. -/
def inheritedFailure : List Label :=
  [.make (.tpacall {}), .poll 0 { waker := 1 },
   .tpcancel 9 { drained := [{ outcome := .error ⟨.TPEOS, "queue"⟩ }] },
   .allocData 0 none, .make (.tpgetrply 0 0 { getAny := true }), .poll 1 { waker := 2 }]

/-- **A later wait inherits the failure**: it was parked for nobody in the slot of the `tpacall`. -/
theorem failures_inherited : ¬ ∀ labels,
    machine.Along Delivered labels ∧ (machine.run labels).Confined := by
  intro safe
  have confined := (safe inheritedFailure).2
  have taken : ((machine.run inheritedFailure).shared.log.any fun e => match e with
      | .collected _ _ slot _ => slot.failure? = some none
      | _ => false) = true := by decide +kernel
  obtain ⟨e, member, stray⟩ := List.any_eq_true.1 taken
  cases e with
  | collected own cd slot refused =>
      have claimed := (confined.collected own cd slot refused member none (by simpa using stray)).1
      cases claimed
  | _ => simp at stray

end Endurox.Async
