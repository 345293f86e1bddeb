/-
# Async.Reachable -- invariants of every run

`Stable P` lists the operations on the shared state once more, now without any
permit: each keeps `P` wherever it happens.  `stable_reachable` turns that into
"`P` holds in every state any run reaches", and `tracks_stable` makes any
predicate that follows the tracking stable.
-/
import Endurox.Async.Steps

namespace Endurox.Async

open Endurox.Theory AsyncAtmiCtx

set_option autoImplicit false

/-- `P` survives every operation, whoever makes it. -/
structure Stable (P : AsyncAtmiCtx → Prop) : Prop where
  quiet : Closed (Quiet fun _ => True) P
  settings : Closed Settings P
  undoing : ∀ s cd, P s → P (record (.undone cd (s.holdsReply cd)) s)
  released : ∀ s cause cd, cause ≠ .abandoned → P s → P (releaseSlot cause cd s)
  submitted : ∀ s cd deadline claimed, 0 < cd → s.isDescriptorBusy cd = false → P s →
    P (registered cd deadline claimed s)
  claimed : ∀ s cd guard s', s.claim cd = (.ok guard, s') → P s → P s'
  dropped : ∀ s guard, .claimed guard ∈ s.log → P s → P (s.dropClaim guard)
  parked : ∀ s target own waker, P s → P (s.parkWaker target own waker)
  collected : ∀ s target own id flags choice cd result s', P s →
    takeReady target own id flags choice s = (some (cd, result), s') → P (s'.forgetDeadline cd)
  errorTaken : ∀ s id, P s → P (s.takeAnyError id).2
  anyRegistered : ∀ s, P s → P s.registerAnyWaiter.2
  anyDeregistered : ∀ s id, P s → P (s.deregisterAnyWaiter id)
  allocated : ∀ s id info, P s → P (s.allocData id info)
  freed : ∀ s id, P s → P (s.freeData id)

section Following

variable {P : Tracking → Prop} (follows : Follows P)

include follows

/-- What each move of the tracking keeps is stable. -/
theorem tracks_stable : Stable fun s => P s.toTracking where
  quiet := quiet_drains fun t t' moved => follows t t' (.drained t t' moved)
  settings := by
    intro s s' moved holds
    cases moved
    exact holds
  undoing s cd holds := follows _ _ (.noted s.toTracking _ trivial) holds
  released s cause cd closing holds := release_follows follows s cause cd closing holds
  submitted s cd deadline claimed _ free holds :=
    follows _ _ (.submitted s.toTracking cd deadline claimed (by simpa [isDescriptorBusy] using free)) holds
  claimed s cd guard s' taken holds := claim_follows follows s cd guard s' taken holds
  dropped s guard known holds := dropClaim_follows follows s guard known holds
  parked s target own waker holds := park_follows follows s target own waker holds
  collected s target own id flags choice cd result s' holds taken :=
    collect_follows follows s target own id flags choice cd result s' holds taken
  errorTaken s id holds := by simpa using holds
  anyRegistered _ holds := holds
  anyDeregistered _ _ holds := holds
  allocated s id info holds := by simpa using holds
  freed s id holds := by simpa using holds

end Following

/-! ## Polls under a stable invariant -/

theorem Stable.and {P Q : AsyncAtmiCtx → Prop} (p : Stable P) (q : Stable Q) :
    Stable fun s => P s ∧ Q s where
  quiet moved holds := ⟨p.quiet moved holds.1, q.quiet moved holds.2⟩
  settings moved holds := ⟨p.settings moved holds.1, q.settings moved holds.2⟩
  undoing s cd holds := ⟨p.undoing s cd holds.1, q.undoing s cd holds.2⟩
  released s cause cd closing holds :=
    ⟨p.released s cause cd closing holds.1, q.released s cause cd closing holds.2⟩
  submitted s cd deadline claimed positive free holds :=
    ⟨p.submitted s cd deadline claimed positive free holds.1,
      q.submitted s cd deadline claimed positive free holds.2⟩
  claimed s cd guard s' taken holds :=
    ⟨p.claimed s cd guard s' taken holds.1, q.claimed s cd guard s' taken holds.2⟩
  dropped s guard known holds := ⟨p.dropped s guard known holds.1, q.dropped s guard known holds.2⟩
  parked s target own waker holds :=
    ⟨p.parked s target own waker holds.1, q.parked s target own waker holds.2⟩
  collected s target own id flags choice cd result s' holds taken :=
    ⟨p.collected s target own id flags choice cd result s' holds.1 taken,
      q.collected s target own id flags choice cd result s' holds.2 taken⟩
  errorTaken s id holds := ⟨p.errorTaken s id holds.1, q.errorTaken s id holds.2⟩
  anyRegistered s holds := ⟨p.anyRegistered s holds.1, q.anyRegistered s holds.2⟩
  anyDeregistered s id holds := ⟨p.anyDeregistered s id holds.1, q.anyDeregistered s id holds.2⟩
  allocated s id info holds := ⟨p.allocated s id info holds.1, q.allocated s id info holds.2⟩
  freed s id holds := ⟨p.freed s id holds.1, q.freed s id holds.2⟩

/-- A send keeps what is stable. -/
theorem Stable.sendRules {P : AsyncAtmiCtx → Prop} (stable : Stable P) (mayUndo : Cd → Prop) :
    SendRules mayUndo P fun _ => P where
  quiet := stable.quiet
  settings := stable.settings
  undone cd _ s holds := stable.released _ _ _ nofun (stable.undoing s cd holds)
  submitted s cd deadline claimed positive free holds :=
    have after := stable.submitted s cd deadline claimed positive free holds
    ⟨after, fun _ => after⟩

/-- A wait keeps what is stable. -/
theorem Stable.waitRules {P : AsyncAtmiCtx → Prop} (stable : Stable P) (may : Cd → Prop) (w : Wait) :
    WaitRules may w P (fun _ => True) fun _ => True where
  quiet := stable.quiet
  permit _ _ _ := trivial
  parked s waker holds _ := ⟨stable.parked s _ _ waker holds, trivial⟩
  collected s choice cd result s' holds _ taken :=
    ⟨stable.collected s _ _ _ _ choice cd result s' holds taken, trivial⟩
  errorTaken s id _ holds _ := ⟨stable.errorTaken s id holds, trivial⟩
  keeps _ _ _ := trivial
  timedOut s cd _ holds _ _ := ⟨stable.released s _ cd nofun holds, trivial⟩

/-- The claim a wait acts under was handed out: by `claim`, or by its own submission. -/
structure Tracking.Knows (t : Tracking) (w : Wait) : Prop where
  claimed : ∀ guard, w.guard = .claim guard → .claimed guard ∈ t.log
  submitted : ∀ g cd, w.own = .call g → w.target = .one cd → ∃ d, .submitted g cd d ∈ t.log

def AsyncAtmiCtx.Wait.Known (w : Wait) (s : AsyncAtmiCtx) : Prop := s.toTracking.Knows w

/-- What a wait knows stays known: the log only grows. -/
theorem Tracking.Knows.mono {t t' : Tracking} {w : Wait} (knows : t.Knows w)
    (grown : t.log ⊆ t'.log) : t'.Knows w where
  claimed guard same := grown (knows.claimed guard same)
  submitted g cd own target := (knows.submitted g cd own target).imp fun _ member => grown member

/-- A fact that is not about the state. -/
theorem Stable.static (fact : Prop) : Stable fun _ => fact :=
  tracks_stable (P := fun _ => fact) fun _ _ _ holds => holds

/-- Nothing a step does makes a wait's knowledge wrong. -/
theorem known_stable (w : Wait) : Stable w.Known :=
  tracks_stable (P := fun t => t.Knows w) fun t t' moved knows =>
    knows.mono fun e member => log_follows e t t' moved member

/-- A poll keeps a stable `P`, and of its wait any stable `Q` that a new wait has. -/
theorem Stable.rules {P : AsyncAtmiCtx → Prop} (stable : Stable P) {Q : Wait → AsyncAtmiCtx → Prop}
    (each : ∀ w, Stable (Q w)) (knows : ∀ w s, Q w s → w.Known s)
    (made : ∀ s cd deadline, P s → ∀ data flags until?,
      Q (callWait ⟨cd, s.nextGeneration⟩ data flags until?) (registered cd deadline true s)) :
    StepRules (fun _ => True) (fun _ => True) P (fun w s => P s ∧ Q w s) (fun _ _ => True)
      fun _ _ => True where
  drains := stable.quiet
  allocated := stable.allocated
  freed := stable.freed
  send := by
    have rules := stable.sendRules fun _ => True
    refine { rules with submitted := fun s cd deadline claimed positive free holds => ?_ }
    have after := rules.submitted s cd deadline claimed positive free holds
    refine ⟨after.1, fun own data flags until? => ⟨⟨after.1, ?_⟩, trivial⟩⟩
    subst own
    exact made s cd deadline holds data flags until?
  wait w := (stable.and (each w)).waitRules _ w
  guard w :=
    { released := fun s cd _ holds _ => stable.released s _ cd nofun holds.1
      dropped := fun s guard same holds _ => stable.dropped s guard ((knows w s holds.2).claimed guard same) holds.1
      deregistered := fun s id _ holds => stable.anyDeregistered s id holds.1 }
  weaken _ _ holds := holds.1

/-- A `tpcall` that waits knows the submission it waits for. -/
theorem callWait_known (s : AsyncAtmiCtx) (cd : Cd) (deadline : Option Instant) {data : BufId}
    {flags : Flags} {until? : Option Instant} :
    (callWait ⟨cd, s.nextGeneration⟩ data flags until?).Known (registered cd deadline true s) where
  claimed := nofun
  submitted := by
    rintro g _ ⟨⟩ ⟨⟩
    exact ⟨deadline, List.mem_cons_self⟩

/-- **What is stable, every step keeps.** -/
theorem Stable.stepRules {P : AsyncAtmiCtx → Prop} (stable : Stable P) :
    StepRules (fun _ => True) (fun _ => True) P (fun w s => P s ∧ w.Known s) (fun _ _ => True)
      fun _ _ => True :=
  stable.rules known_stable (fun _ _ known => known) fun s cd deadline _ _ _ _ =>
    callWait_known s cd deadline

/-- What is known of a future wherever it waits. -/
def FutKnown (s : AsyncAtmiCtx) : Fut → Prop
  | .created _ => True
  | .sending op _ _ => op.claimed = true → op.flags.noReply = false
  | .waiting _ w => w.Shaped ∧ w.Known s

theorem claim_known {s s' : AsyncAtmiCtx} {cd : Cd} {guard : ReplyClaimGuard}
    (claimed : s.claim cd = (.ok guard, s')) : .claimed guard ∈ s'.log := by
  obtain ⟨_, _, rfl⟩ | ⟨_, _, _, _, rfl⟩ := claim_cases claimed <;> exact List.mem_cons_self

/-- A `tpgetrply` that waits knows the claim it holds. -/
theorem getrply_known {w : Wait} {s s' : AsyncAtmiCtx} {cd : Cd} {given : ReplyClaimGuard}
    (claimed : s.claim cd = (.ok given, s')) (own : w.own = .waiter given.id)
    (guard : w.guard = .claim given) : w.Known s' where
  claimed other same := by
    cases guard.symm.trans same
    exact claim_known claimed
  submitted := by simp [own]

/-- A future is where its last poll left it. -/
theorem known_fits {P : AsyncAtmiCtx → Prop} (stable : Stable P) {s : AsyncAtmiCtx} {fut : Fut}
    (clock : Clock) (known : FutKnown s fut) (holds : P s) :
    Fit P (fun w s => P s ∧ w.Known s) (fun _ _ => True) clock s fut := by
  cases fut with
  | sending op deadline b => exact ⟨holds, known⟩
  | waiting op w => exact ⟨known.1, ⟨holds, known.2⟩, trivial⟩
  | created op =>
      cases op with
      | tpcall | tpacall => exact holds
      | tpgetrply cd data flags =>
          refine fit_getrply holds (fun _ w _ own guard => ?_) fun w given s' claimed _ own guard => ?_
          · exact ⟨⟨stable.anyRegistered s holds, by simp [guard], by simp [own]⟩, trivial⟩
          · exact ⟨⟨stable.claimed s cd given s' claimed holds, getrply_known claimed own guard⟩, trivial⟩

/-! ## Runs -/

theorem anything_admits (script : PollScript) :
    Admits (fun _ => True) (fun _ => True) script where
  waits _ _ := ⟨allowed_any _, allowed_any _⟩
  undone _ _ _ _ := trivial

/-- Every future is known. -/
def World.Known (world : World) : Prop :=
  ∀ f fut, world.futures.get f = some fut → FutKnown world.shared fut

section Step

variable {P : AsyncAtmiCtx → Prop} (stable : Stable P)

include stable

/-- Each step starts where the rules ask it to. -/
theorem stable_fits {world : World} (known : world.Known) (holds : P world.shared)
    (label : Label) : label.Fits (fun _ => True) (fun _ => True) P (fun w s => P s ∧ w.Known s)
      (fun _ _ => True) world := by
  cases label with
  | poll f script =>
      exact ⟨anything_admits script, fun fut found =>
        known_fits stable script.clock (known f fut found) holds⟩
  | drop f script =>
      intro op w found
      have knows := (known f _ found).2
      exact ⟨⟨holds, knows⟩, fun cd _ => stable.released _ _ cd nofun holds,
        fun guard same => stable.dropped _ guard (knows.claimed guard same) holds⟩
  | tpcancel cd script => exact stable.released _ _ cd nofun holds
  | tryTpacall => exact fun _ _ => trivial
  | _ => trivial

/-- A stable invariant survives every step. -/
theorem step_keeps {world : World} (known : world.Known) (holds : P world.shared) (label : Label) :
    P (world.step label).shared :=
  (step_ends stable.stepRules label (stable_fits stable known holds label) holds).1

end Step

theorem grows_stable (before : List Event) : Stable fun s => before ⊆ s.log :=
  tracks_stable (P := fun t => before ⊆ t.log) fun t t' moved grown e member =>
    log_follows e t t' moved (grown member)

theorem FutKnown.mono {s s' : AsyncAtmiCtx} {fut : Fut} (known : FutKnown s fut)
    (grown : s.log ⊆ s'.log) : FutKnown s' fut := by
  cases fut with
  | created => trivial
  | sending => exact known
  | waiting op w => exact ⟨known.1, known.2.mono grown⟩

/-- What a poll leaves pending is known again. -/
theorem left_known {P : AsyncAtmiCtx → Prop} {waker : Waker} {s : AsyncAtmiCtx} {fut : Fut}
    (left : Left P (fun w s => P s ∧ w.Known s) (fun _ _ => True) waker s (.pending fut)) :
    FutKnown s fut := by
  cases fut with
  | created => trivial
  | sending => exact left.2
  | waiting op w' =>
      obtain ⟨w, rfl, shaped, held, _⟩ := left
      exact ⟨shaped, held.2.claimed, held.2.submitted⟩

/-- A step leaves every future with what it has to know. -/
theorem step_known {world : World} (known : world.Known) (label : Label) :
    (world.step label).Known := by
  have stable := grows_stable world.shared.log
  obtain ⟨grown, stands⟩ := step_ends stable.stepRules label
    (stable_fits stable known (List.Subset.refl _) label) (List.Subset.refl _)
  intro f fut found
  cases stands f fut found with
  | untouched before _ => exact (known f fut before).mono grown
  | made op same _ =>
      subst same
      trivial
  | polled script _ left => exact left_known left

/-- In every run each suspended future knows its submission or its claim. -/
theorem known_reachable (labels : List Label) : (machine.run labels).Known :=
  Machine.invariant (M := machine) (P := World.Known)
    (fun _ _ found => by simp [machine] at found) (fun _ label known => step_known known label) labels

/-- **Stable invariants hold in every run**, at every await point. -/
theorem stable_reachable {P : AsyncAtmiCtx → Prop} (stable : Stable P) (init : P {})
    (labels : List Label) : P (machine.run labels).shared :=
  (Machine.invariant (M := machine) (P := fun world => world.Known ∧ P world.shared)
    ⟨known_reachable [], init⟩
    (fun _ label holds => ⟨step_known holds.1 label, step_keeps stable holds.1 holds.2 label⟩)
    labels).2

end Endurox.Async
