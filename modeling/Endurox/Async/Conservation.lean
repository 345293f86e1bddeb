/-
# Async.Conservation -- no reply is lost or delivered twice

The native layer numbers what it reports.  `Conserved` is the balance of those
numbers over every run: a report is parked in its descriptor's slot, handed to
one collector, let go with its slot, or displaced by the outcome its slot held
already.  The last of these, and letting go of a reply nobody gave up, are what
`replies_conserved` has to exclude.
-/
import Endurox.Async.Events

namespace Endurox.Async

open Endurox.Theory AsyncAtmiCtx

set_option autoImplicit false

/-! ## Where a report is -/

/-- The report parked in a slot of `cd`. -/
def Slot.reports (cd : Cd) (slot : Slot) : List (Nat × Cd) := (slot.report.map (·, cd)).toList

def Event.arrivals : Event → List (Nat × Cd)
  | .reported report cd _ => [(report, cd)]
  | _ => []

def Event.handed : Event → List (Nat × Cd)
  | .collected _ cd slot _ => slot.reports cd
  | _ => []

def Event.letGo : Event → List (Nat × Cd)
  | .released _ cd slot => slot.reports cd
  | _ => []

def Event.lost : Event → List (Nat × Cd)
  | .displaced report cd => [(report, cd)]
  | _ => []

/-- The reports a list of slots holds. -/
def parkedIn (slots : Table Cd Slot) : List (Nat × Cd) := slots.gather Slot.reports

namespace Tracking

def arrivals (t : Tracking) : List (Nat × Cd) := t.log.flatMap Event.arrivals

def parked (t : Tracking) : List (Nat × Cd) := parkedIn t.slots

def handed (t : Tracking) : List (Nat × Cd) := t.log.flatMap Event.handed

def letGo (t : Tracking) : List (Nat × Cd) := t.log.flatMap Event.letGo

def lost (t : Tracking) : List (Nat × Cd) := t.log.flatMap Event.lost

end Tracking

theorem parkedIn_set (slots : Table Cd Slot) (cd : Cd) (slot : Slot) (r : Nat × Cd) :
    (parkedIn (slots.set cd slot)).count r =
      (slot.reports cd).count r + (parkedIn (slots.del cd)).count r :=
  Table.gather_set _ slots cd slot r

theorem parkedIn_of_get {slots : Table Cd Slot} {cd : Cd} {slot : Slot}
    (found : slots.get cd = some slot) (r : Nat × Cd) :
    (parkedIn slots).count r = (slot.reports cd).count r + (parkedIn (slots.del cd)).count r :=
  Table.gather_of_get _ found r

/-- A failure parks no report, and removes none. -/
theorem parkedIn_failWaiting (slots : Table Cd Slot) (err : AtmiError) :
    parkedIn (slots.mapVals (failWaiting err)) = parkedIn slots :=
  Table.gather_mapVals _ (fun _ slot => by cases slot <;> rfl) slots

theorem reports_of_waiting {slot : Slot} (cd : Cd) (waits : slot.isReady = false) :
    slot.reports cd = [] := by
  cases slot with
  | waiting => rfl
  | ready => cases waits

@[simp] theorem reports_withClaim (claim : Option ReplyClaim) (cd : Cd) (slot : Slot) :
    (withClaim claim slot).reports cd = slot.reports cd := by
  simp [Slot.reports, report_withClaim]

/-! ## The balance -/

/-- What a change adds to the log, and how the new events balance against the slots. -/
structure Balances (t t' : Tracking) (new : List Event) : Prop where
  log : t'.log = new ++ t.log
  balanced : ∀ r, (new.flatMap Event.arrivals).count r + t.parked.count r =
    t'.parked.count r + (new.flatMap Event.handed).count r + (new.flatMap Event.letGo).count r +
      (new.flatMap Event.lost).count r
  numbered : (new.flatMap Event.arrivals = [] ∧ t'.nextReport = t.nextReport) ∨
    ∃ cd, new.flatMap Event.arrivals = [(t.nextReport, cd)] ∧ t'.nextReport = t.nextReport + 1

/-- **Each move balances**: what arrives is parked, and what leaves a slot is recorded. -/
theorem Tracks.balances {t t' : Tracking} (moved : Tracks t t') : ∃ new, Balances t t' new := by
  cases moved with
  | noted e note =>
      refine ⟨[e], rfl, fun r => ?_, .inl ⟨?_, rfl⟩⟩ <;> cases e <;> cases note <;> 
        simp [Tracking.parked, Event.arrivals, Event.handed, Event.letGo, Event.lost]
  | drained _ moved =>
      cases moved with
      | answered cd generation waker claim outcome buf found =>
          refine ⟨[.reported t.nextReport cd false], rfl, fun r => ?_, .inr ⟨cd, rfl, rfl⟩⟩
          have before := parkedIn_of_get found r
          have after := parkedIn_set t.slots cd (.ready generation (.reply t.nextReport) outcome buf claim) r
          simp only [Tracking.parked, before, after]
          simp [Event.arrivals, Event.handed, Event.letGo, Event.lost, Slot.reports, Slot.report]
      | displaced cd slot found ready =>
          refine ⟨[.displaced t.nextReport cd, .reported t.nextReport cd true], rfl, fun r => ?_,
            .inr ⟨cd, rfl, rfl⟩⟩
          simp [Tracking.parked, Event.arrivals, Event.handed, Event.letGo, Event.lost, Nat.add_comm]
      | arrived cd outcome buf untracked =>
          refine ⟨[.reported t.nextReport cd false], rfl, fun r => ?_, .inr ⟨cd, rfl, rfl⟩⟩
          have after := parkedIn_set t.slots cd (.ready t.nextGeneration (.reply t.nextReport) outcome buf none) r
          simp only [Tracking.parked, after, Table.del_of_get_none untracked]
          simp [Event.arrivals, Event.handed, Event.letGo, Event.lost, Slot.reports, Slot.report]
      | failed err =>
          refine ⟨[], rfl, fun r => ?_, .inl ⟨rfl, rfl⟩⟩
          simp [Tracking.parked, parkedIn_failWaiting]
  | parked cd generation existing waker claim own found =>
      refine ⟨[.waited own cd (.waiting generation existing claim)], rfl, fun r => ?_, .inl ⟨rfl, rfl⟩⟩
      have before := parkedIn_of_get found r
      have after := parkedIn_set t.slots cd (.waiting generation (some waker) claim) r
      simp only [Tracking.parked, before, after]
      simp [Event.arrivals, Event.handed, Event.letGo, Event.lost, Slot.reports, Slot.report]
  | collected own cd slot refused found ready =>
      refine ⟨[.collected own cd slot refused], rfl, fun r => ?_, .inl ⟨rfl, rfl⟩⟩
      simp [Tracking.parked, parkedIn_of_get found r, Event.arrivals, Event.handed, Event.letGo,
        Event.lost, Nat.add_comm]
  | released cause cd slot found closing =>
      refine ⟨[.released cause cd slot], rfl, fun r => ?_, .inl ⟨rfl, rfl⟩⟩
      simp [Tracking.parked, parkedIn_of_get found r, Event.arrivals, Event.handed, Event.letGo,
        Event.lost, Nat.add_comm]
  | forgot cd untracked =>
      exact ⟨[], rfl, fun r => by simp [Tracking.parked], .inl ⟨rfl, rfl⟩⟩
  | submitted cd deadline claimed untracked =>
      refine ⟨[.submitted t.nextGeneration cd deadline], rfl, fun r => ?_, .inl ⟨rfl, rfl⟩⟩
      simp [Tracking.parked, parkedIn_set, Table.del_of_get_none untracked, Event.arrivals,
        Event.handed, Event.letGo, Event.lost, Slot.reports, Slot.report]
  | claimedNew cd untracked =>
      refine ⟨[.claimed ⟨cd, t.nextClaimId + 1, true⟩], rfl, fun r => ?_, .inl ⟨rfl, rfl⟩⟩
      simp [Tracking.parked, parkedIn_set, Table.del_of_get_none untracked, Event.arrivals,
        Event.handed, Event.letGo, Event.lost, Slot.reports, Slot.report]
  | claimedSlot cd slot found unclaimed =>
      refine ⟨[.claimed ⟨cd, t.nextClaimId + 1, false⟩], rfl, fun r => ?_, .inl ⟨rfl, rfl⟩⟩
      simp [Tracking.parked, parkedIn_set, parkedIn_of_get found r, Event.arrivals,
        Event.handed, Event.letGo, Event.lost]
  | unclaimed cd slot slot' found same =>
      refine ⟨[], rfl, fun r => ?_, .inl ⟨rfl, rfl⟩⟩
      have unmoved : slot'.reports cd = slot.reports cd := by simp [Slot.reports, same.2.1]
      simp [Tracking.parked, parkedIn_set, parkedIn_of_get found r, unmoved]
  | abandoned guard slot known created found waits held =>
      refine ⟨[.released .abandoned guard.cd slot], rfl, fun r => ?_, .inl ⟨rfl, rfl⟩⟩
      simp [Tracking.parked, parkedIn_of_get found r, reports_of_waiting guard.cd waits,
        Event.arrivals, Event.handed, Event.letGo, Event.lost]

/-- **Every report is somewhere, and in one place.** -/
structure Conserved (t : Tracking) : Prop where
  balanced : ∀ r, t.arrivals.count r =
    t.parked.count r + t.handed.count r + t.letGo.count r + t.lost.count r
  fresh : ∀ r ∈ t.arrivals, r.1 < t.nextReport
  once : t.arrivals.Nodup

/-- Every move keeps the balance. -/
theorem conserved_follows : Follows Conserved := by
  intro t t' moved conserved
  obtain ⟨new, log, balanced, numbered⟩ := moved.balances
  have arrivals : t'.arrivals = new.flatMap Event.arrivals ++ t.arrivals := by
    simp [Tracking.arrivals, log]
  refine ⟨fun r => ?_, ?_, ?_⟩
  · have before := conserved.balanced r
    have change := balanced r
    simp only [arrivals, Tracking.handed, Tracking.letGo, Tracking.lost, log, List.flatMap_append,
      List.count_append] at before ⊢
    omega
  · intro r member
    rw [arrivals, List.mem_append] at member
    have old : r ∈ t.arrivals → r.1 < t.nextReport := conserved.fresh r
    rcases numbered with ⟨none, same⟩ | ⟨cd, one, next⟩
    · rw [none] at member
      simpa [same] using old (by simpa using member)
    · rw [one, List.mem_singleton] at member
      rcases member with rfl | before
      · omega
      · have := old before
        omega
  · rw [arrivals]
    rcases numbered with ⟨none, _⟩ | ⟨cd, one, _⟩
    · simpa [none] using conserved.once
    · rw [one, List.singleton_append, List.nodup_cons]
      exact ⟨fun member => Nat.lt_irrefl _ (conserved.fresh _ member), conserved.once⟩

/-- In every run the reports are parked, handed over, let go or displaced. -/
theorem conserved_reachable (labels : List Label) :
    Conserved (machine.run labels).shared.toTracking := by
  refine stable_reachable (tracks_stable conserved_follows) ⟨fun r => ?_, ?_, ?_⟩ labels <;>
    simp [Tracking.arrivals, Tracking.parked, parkedIn, Table.gather, Tracking.handed, Tracking.letGo,
      Tracking.lost]

/-! ## Who let go of a reply -/

/-- The slot was let go by whoever it was kept for: a `tpcancel`, or the drop of its call. -/
def Cause.gaveUp (slot : Slot) : Cause → Prop
  | .cancelled => True
  | .dropped own => slot.heldBy own
  | _ => False

instance (slot : Slot) : ∀ cause : Cause, Decidable (cause.gaveUp slot)
  | .cancelled => isTrue trivial
  | .dropped own => inferInstanceAs (Decidable (slot.heldBy own))
  | .timedOut _ | .undone | .abandoned => isFalse id

/-- No release discards a reply nobody gave up, but for a send that took back the number of a
call whose reply was parked. -/
def Rightful (before : List Event) : Event → Prop
  | .released cause cd slot => slot.report.isSome = true → cause.gaveUp slot ∨
      cause = .undone ∧ .undone cd true ∈ before
  | _ => True

theorem rightful_plain (before : List Event) (e : Event) (plain : e.IsPlain) : Rightful before e := by
  cases e <;> trivial

theorem report_of_waiting {slot : Slot} (waits : slot.isReady = false) : slot.report = none := by
  cases slot with
  | waiting => rfl
  | ready => cases waits

/-- Nothing to collect in the slot a pending call would release. -/
def Emptied (w : Wait) (s : AsyncAtmiCtx) : Prop := ∀ cd, w.guard = .pendingCall cd → s.isReady cd = false

theorem emptied_del {w : Wait} {s : AsyncAtmiCtx} {slots : Table Cd Slot} {cd : Cd}
    (shaped : w.Shaped) (same : s.slots = slots.del cd) (mine : ∀ cd', w.target = .one cd' → cd' = cd) :
    Emptied w s := by
  intro cd' guard
  simp only [Wait.Shaped, guard] at shaped
  simp [isReady, same, mine cd' shaped.1]

/-- A wait that gives up has looked before: there was no report. -/
theorem emptied_waits {w : Wait} {s : AsyncAtmiCtx} (shaped : w.Shaped)
    (nothing : NothingReady w.target s) : Emptied w s := by
  intro cd guard
  simp only [Wait.Shaped, guard] at shaped
  simpa [NothingReady, shaped.1] using nothing

/-- A release of a slot that is not ready lets no reply go. -/
theorem released_waiting {s : AsyncAtmiCtx} {before : List Event} {cause : Cause} {cd : Cd}
    {slot : Slot} (found : s.slots.get cd = some slot) (waits : s.isReady cd = false) :
    Rightful before (.released cause cd slot) := by
  have none : slot.report = none := report_of_waiting (by simpa [isReady, found] using waits)
  simp [Rightful, none]

/-- A release over a parked report is by its owner, or undoes a send. -/
theorem rightful_rules :
    StepRules (fun _ => True) (fun _ => True) (fun s => Sound Rightful s.log)
      (fun _ s => Sound Rightful s.log) (fun w _ => w.Shaped) Emptied where
  drains := quiet_sound rightful_plain
  send :=
    { quiet := quiet_sound rightful_plain
      settings := settings_sound
      undone := by
        intro cd _ s sound
        refine release_sound .undone cd (fun slot found holds => .inr ⟨rfl, ?_⟩)
          ⟨rightful_plain _ _ trivial, sound⟩
        have holding : s.holdsReply cd = true := by
          have here : s.slots.get cd = some slot := found
          simp [holdsReply, here, holds]
        simp [record, holding]
      submitted := by
        intro s cd deadline claimed positive free sound
        have after := submitted_sound rightful_plain cd deadline claimed sound
        exact ⟨after, fun _ data flags deadline => ⟨after, rfl, rfl, _, rfl⟩⟩ }
  wait w :=
    { quiet := quiet_sound rightful_plain
      permit := fun _ _ shaped => shaped
      parked := fun s waker sound shaped => ⟨park_sound waker (fun _ _ _ _ => trivial) sound, shaped⟩
      collected := by
        intro s choice cd result s' sound shaped taken
        obtain ⟨slot, _, _, takes, left⟩ := takeReady_slots taken
        refine ⟨collect_sound (fun _ _ _ _ => trivial) taken sound, ?_⟩
        exact emptied_del shaped left fun cd' same => by simpa [Target.takes, same, eq_comm] using takes
      errorTaken := fun s id _ sound shaped => ⟨by simpa using sound, shaped⟩
      keeps := fun s shaped nothing => emptied_waits shaped nothing
      timedOut := by
        intro s cd same sound shaped waits
        exact ⟨release_sound _ cd (fun slot found => released_waiting found waits) sound,
          emptied_del shaped (releaseSlot_slots _ cd s) fun cd' other => by
            cases same.symm.trans other
            rfl⟩ }
  guard w :=
    { released := fun s cd guard sound emptied =>
        release_sound _ cd (fun slot found => released_waiting found (emptied cd guard)) sound
      dropped := fun s guard _ sound _ => dropClaim_sound guard
        (fun slot found waits => by simp [Rightful, report_of_waiting waits]) sound
      deregistered := fun s id _ sound => sound }
  weaken _ _ sound := sound
  allocated s id info sound := by simpa using sound
  freed s id sound := by simpa using sound

/-! ## Every run -/

/-- A dropped `tpcall` future that would discard a parked reply holds the claim on it. -/
def GivesUpOwn (world : World) : Label → Prop
  | .drop f _ => ∀ op w cd slot, world.futures.get f = some (.waiting op w) →
      w.guard = .pendingCall cd → world.shared.slots.get cd = some slot →
      slot.report.isSome = true → slot.heldBy w.own
  | _ => True

/-- The native layer reported for a number that already had an outcome, or a send was taken
back under the number of a call whose reply was parked. -/
def Event.disturbs : Event → Bool
  | .reported _ _ occupied => occupied
  | .undone _ holding => holding
  | _ => false

/-- One step, in which no dropped future discards what is not its own. -/
theorem rightful_step {world : World} (known : world.Known) (label : Label)
    (own : GivesUpOwn world label) (sound : Sound Rightful world.shared.log) :
    Sound Rightful (world.step label).shared.log := by
  refine (step_ends rightful_rules label ?_ sound).1
  cases label with
  | poll f script =>
      refine ⟨anything_admits script, fun fut found => ?_⟩
      have there := known f fut found
      cases fut with
      | sending op deadline b => exact ⟨sound, there⟩
      | waiting op w => exact ⟨there.1, sound, there.1⟩
      | created op =>
          cases op with
          | tpcall | tpacall => exact sound
          | tpgetrply cd data flags =>
              exact fit_getrply sound (fun _ w shaped _ _ => ⟨sound, shaped⟩)
                fun w guard s' claimed shaped _ _ =>
                  ⟨claim_sound rightful_plain claimed sound, shaped⟩
  | drop f script =>
      refine fun op w found => ⟨sound, fun cd guard => ?_, fun guard _ => ?_⟩
      · exact release_sound _ cd (fun slot there holds =>
          .inl (own op w cd slot found guard there holds)) sound
      · exact dropClaim_sound guard
          (fun slot there waits => by simp [Rightful, report_of_waiting waits]) sound
  | tpcancel cd script => exact release_sound _ cd (fun _ _ _ => .inl trivial) sound
  | tryTpacall => exact fun _ _ => trivial
  | _ => trivial

/-- And every run of such steps. -/
theorem rightful_reachable {labels : List Label} (own : machine.Along GivesUpOwn labels) :
    Sound Rightful (machine.run labels).shared.log :=
  (Machine.invariantAlong (M := machine) (P := fun world => world.Known ∧ Sound Rightful world.shared.log)
    ⟨known_reachable [], trivial⟩
    (fun _ label mine holds => ⟨step_known holds.1 label, rightful_step holds.1 label mine holds.2⟩)
    labels own).2

/-- What was let go by whoever it was kept for. -/
def Event.relinquished : Event → List (Nat × Cd)
  | .released cause cd slot => if cause.gaveUp slot then slot.reports cd else []
  | _ => []

/-- What a collector got, and what it refused for its type under `TPNOCHANGE`. -/
def Event.delivered : Event → List (Nat × Cd)
  | .collected _ cd slot false => slot.reports cd
  | _ => []

def Event.refused : Event → List (Nat × Cd)
  | .collected _ cd slot true => slot.reports cd
  | _ => []

/-- A report is displaced only where there was an outcome already. -/
theorem displaced_follows : Follows fun t => ∀ report cd,
    .displaced report cd ∈ t.log → .reported report cd true ∈ t.log := by
  intro t t' moved reported report cd displaced
  have before : .displaced report cd ∈ t.log → .reported report cd true ∈ t'.log := fun old =>
    log_follows _ t t' moved (reported report cd old)
  cases moved with
  | drained _ moved =>
      cases moved with
      | displaced cd' slot found ready =>
          rcases List.mem_cons.1 displaced with same | old
          · cases same
            simp
          · exact before (by simpa using old)
      | answered | arrived | failed => exact before (by simpa using displaced)
  | noted e note =>
      rcases List.mem_cons.1 displaced with same | old
      · subst same
        cases note
      · exact before old
  | _ => exact before (by simpa using displaced)

/-- A displaced reply is told by its report. -/
theorem lost_nothing (labels : List Label)
    (undisturbed : ∀ e ∈ (machine.run labels).shared.log, e.disturbs = false) :
    (machine.run labels).shared.toTracking.lost = [] := by
  have reported := stable_reachable (tracks_stable displaced_follows) (by simp) labels
  refine List.flatMap_eq_nil_iff.2 fun e member => ?_
  cases e with
  | displaced report cd => cases undisturbed _ (reported report cd member)
  | _ => rfl

/-- Without taken-back sends, what is let go is let go by its owner. -/
theorem letGo_relinquished {log : List Event} (sound : Sound Rightful log)
    (undisturbed : ∀ e ∈ log, e.disturbs = false) :
    log.flatMap Event.letGo = log.flatMap Event.relinquished := by
  refine List.flatMap_congr fun e member => ?_
  cases e with
  | released cause cd slot =>
      obtain ⟨before, subset, rightful⟩ := sound.of_mem member
      simp only [Event.letGo, Event.relinquished]
      split
      · rfl
      · rename_i kept
        cases report : slot.report with
        | none => simp [Slot.reports, report]
        | some n =>
            rcases rightful (by simp [report]) with gave | ⟨_, undone⟩
            · exact absurd gave kept
            · cases undisturbed _ (subset undone)
  | _ => rfl

/-- What is handed over is delivered, or refused for its type. -/
theorem handed_split (log : List Event) (r : Nat × Cd) : (log.flatMap Event.handed).count r =
    (log.flatMap Event.delivered).count r + (log.flatMap Event.refused).count r := by
  induction log with
  | nil => rfl
  | cons e log ih =>
      have one : e.handed.count r = e.delivered.count r + e.refused.count r := by
        cases e with
        | collected _ _ _ refused => cases refused <;> simp [Event.handed, Event.delivered, Event.refused]
        | _ => rfl
      simp only [List.flatMap_cons, List.count_append, ih, one]
      omega

/-- **No reply is lost or delivered twice.**  In every run in which the native layer reports no
reply for a number that has an outcome already, no send is taken back under the number of a
parked reply, and a `tpcall` future dropped over a parked reply holds the claim on it: each
report is parked in its descriptor's slot, or was delivered, refused for its type, or let go
by whoever it was kept for, and that exactly once. -/
theorem replies_conserved (labels : List Label) (own : machine.Along GivesUpOwn labels)
    (undisturbed : ∀ e ∈ (machine.run labels).shared.log, e.disturbs = false) :
    let t := (machine.run labels).shared.toTracking
    t.arrivals.Perm (t.parked ++ t.log.flatMap Event.delivered ++ t.log.flatMap Event.refused ++
      t.log.flatMap Event.relinquished) ∧ t.arrivals.Nodup := by
  intro t
  have conserved : Conserved t := conserved_reachable labels
  refine ⟨List.perm_iff_count.2 fun r => ?_, conserved.once⟩
  have letGo := letGo_relinquished (rightful_reachable own) undisturbed
  have balanced := conserved.balanced r
  simp only [lost_nothing labels undisturbed, Tracking.handed, handed_split, Tracking.letGo, letGo,
    t, List.count_nil, List.count_append] at balanced ⊢
  omega

/-- A `tpcall` waits, its reply arrives in another task's drain, and it collects it. -/
def replyCollected : List Label :=
  [.allocData 0 none, .make (.tpcall 0 {}), .poll 0 { waker := 1 },
   .tpcancel 2 { drained := [{ cd := 1, outcome := .ok () }] }, .poll 0 { waker := 1 }]

theorem replyCollected_conserved :
    let t := (machine.run replyCollected).shared.toTracking
    t.arrivals.Perm (t.parked ++ t.log.flatMap Event.delivered ++ t.log.flatMap Event.refused ++
      t.log.flatMap Event.relinquished) ∧ t.arrivals.Nodup :=
  replies_conserved replyCollected ⟨trivial, trivial, trivial, trivial, trivial, trivial⟩
    (by decide +kernel)

/-- A `tpcall` waits for descriptor 1; the drain of one `TPGETANY` meets a queue failure, and
the drain of the next one meets the reply for the descriptor. -/
def replyAfterFailure : List Label :=
  [.allocData 0 none, .allocData 1 none, .make (.tpcall 0 {}), .poll 0 { waker := 1 },
   .make (.tpgetrply 0 1 { getAny := true }),
   .poll 1 { waker := 2, waits := [{ before := [{ outcome := .error ⟨.TPEOS, ""⟩ }] }] },
   .make (.tpgetrply 0 1 { getAny := true, noBlock := true }),
   .poll 2 { waker := 3, waits := [{ before := [{ cd := 1, outcome := .ok () }] }] }]

/-- **A queue failure makes the real reply vanish**: its descriptor is still tracked, and the
reply is nowhere. -/
theorem replyAfterFailure_lost : ¬ ∀ labels,
    let t := (machine.run labels).shared.toTracking
    t.arrivals.Perm (t.parked ++ t.log.flatMap Event.delivered ++ t.log.flatMap Event.refused ++
      t.log.flatMap Event.relinquished) ∧ t.arrivals.Nodup := by
  intro conserved
  have lost := (conserved replyAfterFailure).1
  revert lost
  decide +kernel

end Endurox.Async
