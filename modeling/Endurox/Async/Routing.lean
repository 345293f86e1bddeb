/-
# Async.Routing -- who collects what

Every wait acts under a claim of its own: the submission a `tpcall` made, the
identifier a `tpgetrply` was given, or a `TPGETANY` registration.  No two waits
act under the same submission or identifier (`distinct_reachable`), so an event
recorded under a claim belongs to one future.  `routing_safe` says when every
collection and every parked waker is under the claim the slot carries.
-/
import Endurox.Async.Events
import Endurox.Async.Deadlines

namespace Endurox.Async

open Endurox.Theory AsyncAtmiCtx

set_option autoImplicit false

/-! ## Claims are given to one future each -/

namespace Own

/-- A claim on a slot, not a registration for any reply. -/
def Exclusive : Own → Prop
  | .call _ | .waiter _ => True
  | .any _ => False

/-- The claim was given out by now. -/
def Issued (t : Tracking) : Own → Prop
  | .call generation => generation < t.nextGeneration
  | .waiter id => id ≤ t.nextClaimId
  | .any _ => True

end Own

theorem issued_follows (own : Own) : Follows own.Issued := by
  intro t t' moved issued
  have grows := moved.grows
  cases own with
  | call generation => exact Nat.lt_of_lt_of_le issued grows.1
  | waiter id => exact Nat.le_trans issued grows.2.1
  | any id => trivial

/-- The counters have passed those of `t₀`. -/
def Later (t₀ t : Tracking) : Prop :=
  t₀.nextGeneration ≤ t.nextGeneration ∧ t₀.nextClaimId ≤ t.nextClaimId

theorem later_follows (t₀ : Tracking) : Follows (Later t₀) := by
  intro t t' moved later
  have grows := moved.grows
  exact ⟨Nat.le_trans later.1 grows.1, Nat.le_trans later.2 grows.2.1⟩

/-- What is known of the claim of a wait: it was given out, and since `t₀` unless it is `before`. -/
def Claimed (t₀ : Tracking) (before : Option Own) (w : Wait) (s : AsyncAtmiCtx) : Prop :=
  w.Known s ∧ w.own.Issued s.toTracking ∧
    (w.own.Exclusive → w.own.Issued t₀ → before = some w.own)

theorem claimed_stable (t₀ : Tracking) (before : Option Own) (w : Wait) :
    Stable (Claimed t₀ before w) :=
  (known_stable w).and ((tracks_stable (issued_follows w.own)).and (Stable.static _))

theorem claimed_rules (t₀ : Tracking) (before : Option Own) :
    StepRules (fun _ => True) (fun _ => True) (fun s => Later t₀ s.toTracking)
      (fun w s => Later t₀ s.toTracking ∧ Claimed t₀ before w s) (fun _ _ => True)
      fun _ _ => True := by
  refine (tracks_stable (later_follows t₀)).rules (claimed_stable t₀ before)
    (fun _ _ claimed => claimed.1) fun s cd deadline later data flags until? => ?_
  refine ⟨callWait_known s cd deadline, Nat.lt_succ_self _, fun _ issued => ?_⟩
  exact absurd issued (Nat.not_lt.2 later.1)

/-- No two futures wait under the same claim on a slot, and every claim was given out. -/
structure World.Distinct (world : World) : Prop where
  issued : ∀ f op w, world.futures.get f = some (.waiting op w) →
    w.own.Issued world.shared.toTracking
  distinct : ∀ f f' op op' w w', world.futures.get f = some (.waiting op w) →
    world.futures.get f' = some (.waiting op' w') → w.own.Exclusive → w.own = w'.own → f = f'

/-- The claim a future waits under. -/
def Fut.own? : Fut → Option Own
  | .waiting _ w => some w.own
  | _ => none

theorem claimed_fits {world : World} (known : world.Known) (distinct : world.Distinct)
    {f : Nat} {fut : Fut} (found : world.futures.get f = some fut) (clock : Clock) :
    Fit (fun s => Later world.shared.toTracking s.toTracking)
      (fun w s => Later world.shared.toTracking s.toTracking ∧
        Claimed world.shared.toTracking fut.own? w s) (fun _ _ => True) clock world.shared fut := by
  have later : Later world.shared.toTracking world.shared.toTracking := ⟨Nat.le_refl _, Nat.le_refl _⟩
  have there := known f fut found
  cases fut with
  | sending op deadline b => exact ⟨later, there⟩
  | waiting op w =>
      exact ⟨there.1, ⟨later, there.2, distinct.issued f op w found, fun _ _ => rfl⟩, trivial⟩
  | created op =>
      cases op with
      | tpcall | tpacall => exact later
      | tpgetrply cd data flags =>
          refine fit_getrply later (fun _ w _ own guard => ?_) fun w given s' claimed _ own guard => ?_
          · refine ⟨⟨later, ?_, ?_, ?_⟩, trivial⟩
            · exact ⟨by simp [guard], by simp [own]⟩
            · simp [own, Own.Issued]
            · simp [own, Own.Exclusive]
          · have new : given.id = world.shared.nextClaimId + 1 ∧ s'.nextClaimId = given.id ∧
                world.shared.nextGeneration ≤ s'.nextGeneration := by
              obtain ⟨_, rfl, rfl⟩ | ⟨_, _, _, rfl, rfl⟩ := claim_cases claimed <;> simp [record]
            refine ⟨⟨⟨new.2.2, by omega⟩, getrply_known claimed own guard, ?_, fun _ issued => ?_⟩,
              trivial⟩
            · simp [own, Own.Issued, new.2.1]
            · simp only [own, Own.Issued] at issued
              omega

/-- The claim the future a label polls waits under. -/
def Label.before (world : World) (label : Label) : Option Own :=
  (label.fut?.bind world.futures.get).bind Fut.own?

/-- A step leaves each wait as it was or under a claim that was its own or is new. -/
theorem claimed_step {world : World} (known : world.Known) (distinct : world.Distinct)
    (label : Label) :
    Later world.shared.toTracking (world.step label).shared.toTracking ∧
    ∀ f fut, (world.step label).futures.get f = some fut →
      Stands (fun s => Later world.shared.toTracking s.toTracking)
        (fun w s => Later world.shared.toTracking s.toTracking ∧
          Claimed world.shared.toTracking (label.before world) w s) (fun _ _ => True)
        world label (world.step label).shared f fut := by
  have later : Later world.shared.toTracking world.shared.toTracking := ⟨Nat.le_refl _, Nat.le_refl _⟩
  have rules := claimed_rules world.shared.toTracking (label.before world)
  refine step_ends rules label ?_ later
  have stable := tracks_stable (later_follows world.shared.toTracking)
  cases label with
  | poll f script =>
      refine ⟨anything_admits script, fun fut found => ?_⟩
      have same : Label.before world (.poll f script) = fut.own? := by simp [Label.before, Label.fut?, found]
      rw [same]
      exact claimed_fits known distinct found script.clock
  | drop f script =>
      refine fun op w found => ⟨⟨later, (known f _ found).2, distinct.issued f op w found, fun _ _ => ?_⟩,
        fun cd _ => stable.released _ _ cd (by simp) later,
        fun guard same => stable.dropped _ guard ((known f _ found).2.claimed guard same) later⟩
      simp [Label.before, Label.fut?, found, Fut.own?]
  | tpcancel cd script => exact stable.released _ _ cd (by simp) later
  | tryTpacall => exact fun _ _ => trivial
  | _ => trivial

theorem distinct_step {world : World} (known : world.Known) (distinct : world.Distinct)
    (label : Label) : (world.step label).Distinct := by
  obtain ⟨later, stands⟩ := claimed_step known distinct label
  have issued : ∀ own : Own, own.Issued world.shared.toTracking →
      own.Issued (world.step label).shared.toTracking := by
    intro own given
    cases own with
    | call generation => exact Nat.lt_of_lt_of_le given later.1
    | waiter id => exact Nat.le_trans given later.2
    | any id => trivial
  -- a wait that was polled shares no claim with one that was not
  have apart : ∀ f f' op op' w w', world.futures.get f = some (.waiting op w) →
      (world.step label).futures.get f' = some (.waiting op' w') → label.fut? = some f' →
      w.own.Exclusive → w.own = w'.own → f = f' := by
    intro f f' op op' w w' found found' mine exclusive same
    cases stands f' _ found' with
    | untouched _ other => exact absurd mine other
    | made _ created _ => cases created
    | polled script poll left =>
        obtain ⟨w₀, rfl, _, ⟨_, _, _, new⟩, _⟩ := left
        have own := new (same ▸ exclusive) (same ▸ distinct.issued f op w found)
        subst poll
        obtain ⟨fut, there, owns⟩ := Option.bind_eq_some_iff.1 own
        cases fut with
        | waiting op₀ w₁ =>
            have back : w₁.own = w.own := by simpa [Fut.own?, same] using owns
            exact distinct.distinct f f' op op₀ w w₁ found there exclusive back.symm
        | created | sending => cases owns
  refine ⟨fun f op w found => ?_, fun f f' op op' w w' found found' exclusive same => ?_⟩
  · cases stands f _ found with
    | untouched before _ => exact issued _ (distinct.issued f op w before)
    | made _ created _ => cases created
    | polled script _ left =>
        obtain ⟨w₀, rfl, _, ⟨_, _, given, _⟩, _⟩ := left
        exact given
  · cases stands f _ found with
    | made _ created _ => cases created
    | untouched before other =>
        cases stands f' _ found' with
        | made _ created _ => cases created
        | untouched before' _ =>
            exact distinct.distinct f f' op op' w w' before before' exclusive same
        | polled script poll _ =>
            exact apart f f' op op' w w' before found' (by simp [poll, Label.fut?]) exclusive same
    | polled script poll _ =>
        cases stands f' _ found' with
        | made _ created _ => cases created
        | untouched before' _ =>
            exact (apart f' f op' op w' w before' found (by simp [poll, Label.fut?])
              (same ▸ exclusive) same.symm).symm
        | polled script' poll' _ =>
            rw [poll] at poll'
            cases poll'
            rfl

theorem distinct_reachable (labels : List Label) : (machine.run labels).Distinct :=
  (Machine.invariant (M := machine) (P := fun world => world.Known ∧ world.Distinct)
    ⟨known_reachable [], by simp [machine], by simp [machine]⟩
    (fun _ label holds => ⟨step_known holds.1 label, distinct_step holds.1 holds.2 label⟩)
    labels).2

/-! ## What is collected, and by whom -/

/-- A collection takes, and a parked waker waits in, a slot that carries the acting claim. -/
def Event.Legit : Event → Prop
  | .collected own _ slot _ | .waited own _ slot => slot.heldBy own
  | _ => True

instance : ∀ e : Event, Decidable e.Legit
  | .collected own _ slot _ | .waited own _ slot => inferInstanceAs (Decidable (slot.heldBy own))
  | .submitted .. | .claimed .. | .reported .. | .released .. | .displaced .. | .undone .. => isTrue trivial

theorem legit_plain (_ : List Event) (e : Event) (plain : e.IsPlain) : e.Legit := by
  cases e <;> trivial

/-- The wait may act: its slot carries its claim, or its number is neither tracked nor reported. -/
def Admitted (may : Cd → Prop) (w : Wait) (s : AsyncAtmiCtx) : Prop :=
  w.Shaped ∧ ∀ cd, w.target = .one cd →
    (∃ slot, s.slots.get cd = some slot ∧ slot.heldBy w.own) ∨ s.slots.get cd = none ∧ ¬ may cd

theorem admitted_quiet {may : Cd → Prop} (w : Wait) : Closed (Quiet may) (Admitted may w) := by
  refine quiet_drains (P := fun t => w.Shaped ∧ ∀ cd, w.target = .one cd →
    (∃ slot, t.slots.get cd = some slot ∧ slot.heldBy w.own) ∨ t.slots.get cd = none ∧ ¬ may cd) ?_
  rintro t t' moved ⟨shaped, admitted⟩
  refine ⟨shaped, fun cd same => ?_⟩
  rcases admitted cd same with ⟨slot, found, held⟩ | ⟨absent, never⟩
  · obtain ⟨slot', found', claim, generation⟩ := moved.kept found
    exact .inl ⟨slot', found', (heldBy_congr claim generation w.own).2 held⟩
  · exact .inr ⟨moved.untracked absent never, never⟩

/-- A `TPGETANY` wait takes what nobody claims, any other what carries its claim. -/
theorem admitted_takes {may : Cd → Prop} {w : Wait} {s : AsyncAtmiCtx} {cd : Cd} {slot : Slot}
    (admitted : Admitted may w s) (found : s.slots.get cd = some slot)
    (takes : w.target.takes cd slot.claim) : slot.heldBy w.own := by
  obtain ⟨shaped, admitted⟩ := admitted
  cases target : w.target with
  | one cd' =>
      have same : cd = cd' := by simpa [Target.takes, target] using takes
      subst same
      rcases admitted cd target with ⟨slot', found', held⟩ | ⟨absent, _⟩
      · cases found.symm.trans found'
        exact held
      · cases absent.symm.trans found
  | any id =>
      have unclaimed : slot.claim = none := by simpa [Target.takes, target] using takes
      have own : w.own = .any id := by
        unfold Wait.Shaped at shaped
        split at shaped <;> simp_all
      rw [own]
      exact unclaimed

theorem admitted_parked {may : Cd → Prop} {w : Wait} {s : AsyncAtmiCtx} (waker : Waker)
    (admitted : Admitted may w s) : Admitted may w (s.parkWaker w.target w.own waker) := by
  refine ⟨admitted.1, fun cd same => ?_⟩
  rw [parkWaker_slots]
  rcases admitted.2 cd same with ⟨slot, found, held⟩ | ⟨absent, never⟩
  · refine .inl ⟨slot.parked waker, by simp [found, same], (heldBy_congr ?_ ?_ w.own).2 held⟩ <;>
      cases slot <;> rfl
  · exact .inr ⟨by simp [absent], never⟩

theorem legit_rules (may : Cd → Prop) :
    StepRules may (fun _ => True) (fun s => Sound (fun _ => Event.Legit) s.log)
      (fun _ s => Sound (fun _ => Event.Legit) s.log) (Admitted may) fun _ _ => True where
  drains := quiet_sound legit_plain
  send :=
    { quiet := quiet_sound legit_plain
      settings := settings_sound
      undone := fun cd _ s sound => release_sound .undone cd (fun _ _ => trivial) ⟨trivial, sound⟩
      submitted := by
        intro s cd deadline claimed positive free sound
        have after := submitted_sound legit_plain cd deadline claimed sound
        refine ⟨after, fun own data flags until? => ⟨after, ⟨rfl, rfl, _, rfl⟩, fun cd' same => .inl ?_⟩⟩
        subst own
        cases same
        exact ⟨_, (Table.get_set ..).trans (if_pos rfl), rfl, rfl⟩ }
  wait w :=
    { quiet := quiet_sound legit_plain
      permit := fun moved _ admitted => admitted_quiet w moved admitted
      parked := fun s waker sound admitted =>
        ⟨park_sound waker (fun cd slot same found =>
          admitted_takes admitted found (by simp [Target.takes, same])) sound,
          admitted_parked waker admitted⟩
      collected := fun s choice cd result s' sound admitted taken =>
        ⟨collect_sound (fun slot refused found takes => admitted_takes admitted found takes) taken sound,
          trivial⟩
      errorTaken := fun s id _ sound admitted => by
        have slots : (s.takeAnyError id).2.slots = s.slots :=
          congrArg Tracking.slots (takeAnyError_tracking id s)
        exact ⟨by simpa using sound, admitted.1, by simpa only [slots] using admitted.2⟩
      keeps := fun _ _ _ => trivial
      timedOut := fun s cd _ sound _ _ => ⟨release_sound _ cd (fun _ _ => trivial) sound, trivial⟩ }
  guard w :=
    { released := fun s cd _ sound _ => release_sound _ cd (fun _ _ => trivial) sound
      dropped := fun s guard _ sound _ => dropClaim_sound guard (fun _ _ _ => trivial) sound
      deregistered := fun s id _ sound => sound }
  weaken _ _ sound := sound
  allocated s id info sound := by simpa using sound
  freed s id sound := by simpa using sound

/-! ## Every run -/

/-- A drain made while the polled future waits may report `cd`. -/
def PollScript.reports (script : PollScript) (cd : Cd) : Bool :=
  script.waits.any fun wait => (wait.before ++ wait.after).any fun reply => reply.cd = cd

/-- A wait for one descriptor may be resumed while its claim is on the slot, or while the
number is neither tracked nor reported in the poll. -/
def AsyncAtmiCtx.Wait.resumable (script : PollScript) (s : AsyncAtmiCtx) (w : Wait) : Bool :=
  match w.target with
  | .one cd =>
      match s.slots.get cd with
      | some slot => decide (slot.heldBy w.own)
      | none => !script.reports cd
  | .any _ => true

/-- No future is polled whose claim is gone from its number while that is in use again. -/
def keepsClaim (world : World) : Label → Bool
  | .poll f script => (world.futures.get f).all fun fut =>
      match fut with
      | .waiting _ w => w.resumable script world.shared
      | _ => true
  | _ => true

/-- The slot a claim took carries its identifier. -/
theorem claim_held {s s' : AsyncAtmiCtx} {cd : Cd} {given : ReplyClaimGuard}
    (claimed : s.claim cd = (.ok given, s')) :
    ∃ slot, s'.slots.get given.cd = some slot ∧ slot.heldBy (.waiter given.id) := by
  obtain ⟨_, rfl, rfl⟩ | ⟨slot, _, _, rfl, rfl⟩ := claim_cases claimed
  · exact ⟨_, (Table.get_set ..).trans (if_pos rfl), rfl⟩
  · exact ⟨_, (Table.get_set ..).trans (if_pos rfl), claim_withClaim _ slot⟩

/-- What a polled label may report. -/
def Label.Reports (cd : Cd) : Label → Prop
  | .poll _ script => script.reports cd = true
  | _ => True

theorem legit_step {world : World} (known : world.Known) (label : Label)
    (keeps : keepsClaim world label = true) (sound : Sound (fun _ => Event.Legit) world.shared.log) :
    Sound (fun _ => Event.Legit) (world.step label).shared.log := by
  have released : ∀ cause cd, Sound (fun _ => Event.Legit) (releaseSlot cause cd world.shared).log :=
    fun cause cd => release_sound cause cd (fun _ _ => trivial) sound
  refine (step_ends (legit_rules (Label.Reports · label)) label ?_ sound).1
  cases label with
  | poll f script =>
      refine ⟨⟨fun wait member => ⟨fun reply inside _ => ?_, fun reply inside _ => ?_⟩,
        fun _ _ _ _ => trivial⟩, fun fut found => ?_⟩
      · simp only [Label.Reports, PollScript.reports, List.any_eq_true, decide_eq_true_eq]
        exact ⟨wait, member, reply, List.mem_append_left _ inside, rfl⟩
      · simp only [Label.Reports, PollScript.reports, List.any_eq_true, decide_eq_true_eq]
        exact ⟨wait, member, reply, List.mem_append_right _ inside, rfl⟩
      · have there := known f fut found
        simp only [keepsClaim, found, Option.all_some] at keeps
        cases fut with
        | sending op deadline b => exact ⟨sound, there⟩
        | waiting op w =>
            refine ⟨there.1, sound, there.1, fun cd same => ?_⟩
            simp only [Wait.resumable, same] at keeps
            cases there : world.shared.slots.get cd with
            | none => exact .inr ⟨rfl, by simpa [there, Label.Reports] using keeps⟩
            | some slot => exact .inl ⟨slot, rfl, by simpa [there] using keeps⟩
        | created op =>
            cases op with
            | tpcall | tpacall => exact sound
            | tpgetrply cd data flags =>
                refine fit_getrply sound (fun _ w shaped own guard => ⟨sound, shaped, fun cd' same => ?_⟩)
                  fun w given s' claimed shaped own guard =>
                    ⟨claim_sound legit_plain claimed sound, shaped, fun cd' same => .inl ?_⟩
                · simp [Wait.Shaped, guard, same] at shaped
                · simp only [Wait.Shaped, guard, same, Target.one.injEq] at shaped
                  rw [shaped.1, own]
                  exact claim_held claimed
  | drop f script =>
      exact fun op w found => ⟨sound, fun cd _ => released _ cd,
        fun guard _ => dropClaim_sound guard (fun _ _ _ => trivial) sound⟩
  | tpcancel cd script => exact released _ cd
  | tryTpacall => exact fun _ _ => trivial
  | _ => trivial

/-- The future acts under a claim of its own: on the submission it made for its descriptor, or
under the identifier its `tpgetrply` was given. -/
def World.Owned (world : World) : Prop :=
  ∀ f op w, world.futures.get f = some (.waiting op w) →
    (∀ g cd, w.own = .call g → w.target = .one cd → ∃ d, world.shared.Submitted g cd d) ∧
    (∀ id cd, w.own = .waiter id → w.target = .one cd →
      ∃ created, .claimed ⟨cd, id, created⟩ ∈ world.shared.log) ∧
    ∀ f' op' w', world.futures.get f' = some (.waiting op' w') → w.own.Exclusive →
      w.own = w'.own → f = f'

theorem owned_reachable (labels : List Label) : (machine.run labels).Owned := by
  intro f op w found
  have known : FutKnown (machine.run labels).shared (.waiting op w) := known_reachable labels f _ found
  refine ⟨known.2.submitted, fun id cd own target => ?_, fun f' op' w' found' =>
    (distinct_reachable labels).distinct f f' op op' w w' found found'⟩
  have shaped := known.1
  unfold Wait.Shaped at shaped
  split at shaped
  · obtain ⟨_, _, generation, call⟩ := shaped
    cases own.symm.trans call
  · rename_i guard claim
    have given := known.2.claimed guard claim
    cases target.symm.trans shaped.1
    cases own.symm.trans shaped.2
    exact ⟨guard.created, given⟩
  · cases own.symm.trans shaped.2

/-- **Replies are routed by claim.**  In every run whose futures are resumed only under their
own claim, each collection takes, and each parked waker waits in, a slot that carries the
claim of the future that acts (no claim at all, for `TPGETANY`); that claim is on the
submission the future made or claimed, and it is no other future's. -/
theorem routing_safe (labels : List Label) (keeps : machine.Along (keepsClaim · · = true) labels) :
    (∀ e ∈ (machine.run labels).shared.log, e.Legit) ∧ (machine.run labels).Owned := by
  refine ⟨fun e member => ?_, owned_reachable labels⟩
  have sound : Sound (fun _ => Event.Legit) (machine.run labels).shared.log :=
    (Machine.invariantAlong (M := machine)
      (P := fun world => world.Known ∧ Sound (fun _ => Event.Legit) world.shared.log)
      ⟨known_reachable [], trivial⟩
      (fun _ label mine holds => ⟨step_known holds.1 label, legit_step holds.1 label mine holds.2⟩)
      labels keeps).2
  obtain ⟨_, _, legit⟩ := sound.of_mem member
  exact legit

/-- A `tpcall` waits, is polled with nothing there, and takes its reply in a third poll. -/
def ownReply : List Label :=
  [.allocData 0 none, .make (.tpcall 0 {}), .poll 0 { waker := 1 }, .poll 0 { waker := 2 },
   .tpcancel 2 { drained := [{ cd := 1, outcome := .ok () }] }, .poll 0 { waker := 2 }]

theorem ownReply_routed :
    (∀ e ∈ (machine.run ownReply).shared.log, e.Legit) ∧ (machine.run ownReply).Owned :=
  routing_safe ownReply (by decide +kernel)

/-- A `tpcall` is cancelled by another task; the native layer gives its number to the next
`tpcall`, and the first one is polled when that reply is there. -/
def staleTake : List Label :=
  [.allocData 0 none, .make (.tpcall 0 {}), .poll 0 { waker := 1 }, .tpcancel 1 {},
   .allocData 1 none, .make (.tpcall 1 {}), .poll 1 { waker := 2 },
   .tpcancel 2 { drained := [{ cd := 1, outcome := .ok () }] }, .poll 0 { waker := 1 }]

/-- **A stale future takes another's reply**: the first `tpcall` collects the slot the second
one made. -/
theorem staleTake_misroutes : ¬ ∀ labels, (∀ e ∈ (machine.run labels).shared.log, e.Legit) ∧
    (machine.run labels).Owned := by
  intro safe
  have legit := (safe staleTake).1
  revert legit
  decide +kernel

end Endurox.Async
