/-
# Async.Deadlines -- the deadline table follows the submissions

Every submission has a generation of its own.  `Turns` says what a change of the
tracking does to the generations the slots carry: nothing, open one, or close
one.  `Dated` is the invariant over it: a recorded deadline is the one its slot's
own submission came with, and a submission not yet over is tracked with it.
-/
import Endurox.Async.Reachable

namespace Endurox.Async

open Endurox.Theory AsyncAtmiCtx

set_option autoImplicit false

/-! ## Submissions and their ends -/

/-- The slot of submission `generation` was collected, cancelled or released. -/
def Event.Ends (generation : Nat) : Event → Prop
  | .collected _ _ slot _ => slot.generation = generation
  | .released cause _ slot => slot.generation = generation ∧ cause ≠ .abandoned
  | _ => False

namespace Tracking

/-- The submission a descriptor is tracked for. -/
def generation (t : Tracking) (cd : Cd) : Option Nat := (t.slots.get cd).map Slot.generation

def Submitted (t : Tracking) (generation : Nat) (cd : Cd) (deadline : Option Instant) : Prop :=
  .submitted generation cd deadline ∈ t.log

def Ended (t : Tracking) (generation : Nat) : Prop := ∃ e ∈ t.log, e.Ends generation

end Tracking

/-! ## What one change does -/

/-- How a slot comes to be there: it was, perhaps under another claim, or it is new. -/
inductive Comes (t t' : Tracking) (cd : Cd) (slot' : Slot) : Prop
  | same (slot : Slot) (found : t.slots.get cd = some slot)
      (generation : slot'.generation = slot.generation) (claim : slot'.claim = slot.claim)
  | unclaimed (slot : Slot) (found : t.slots.get cd = some slot)
      (generation : slot'.generation = slot.generation) (claim : slot'.claim = none)
  | claimed (slot : Slot) (found : t.slots.get cd = some slot)
      (generation : slot'.generation = slot.generation)
      (claim : slot'.claim = some (.waiter (t.nextClaimId + 1)))
      (next : t'.nextClaimId = t.nextClaimId + 1)
      (existed : ∀ guard, .claimed guard ∈ t'.log → .claimed guard ∈ t.log ∨ guard.created = false)
  | opened (untracked : t.slots.get cd = none) (generation : slot'.generation = t.nextGeneration)
      (next : t'.nextGeneration = t.nextGeneration + 1)
      (only : ∀ other, other ≠ cd → t'.slots.get other = t.slots.get other)
      (claim : ∀ id, slot'.claim = some (.waiter id) → id = t.nextClaimId + 1 ∧
        t'.nextClaimId = t.nextClaimId + 1 ∧ ∀ g cd d, t'.Submitted g cd d → t.Submitted g cd d)

/-- How a slot leaves: over for good, or given up by the waiter that created it. -/
inductive Leaves (t t' : Tracking) (cd : Cd) (slot : Slot) : Prop
  | stays (slot' : Slot) (found : t'.slots.get cd = some slot')
      (generation : slot'.generation = slot.generation)
      (deadline : t'.deadlines.get cd = t.deadlines.get cd)
  | ends (untracked : t'.slots.get cd = none) (forgotten : t'.deadlines.get cd = none)
      (ended : t'.Ended slot.generation)
  | abandoned (id : Nat) (untracked : t'.slots.get cd = none)
      (known : .claimed ⟨cd, id, true⟩ ∈ t.log) (held : slot.claim = some (.waiter id))

variable {t t' : Tracking}

theorem comes_set {cd₀ cd : Cd} {slot₀ slot' : Slot} (slots : t'.slots = t.slots.set cd₀ slot₀)
    (here : Comes t t' cd₀ slot₀) (found' : t'.slots.get cd = some slot') :
    Comes t t' cd slot' := by
  rw [slots, Table.get_set] at found'
  split at found'
  · rename_i same
    cases found'
    exact same ▸ here
  · exact .same slot' found' rfl rfl

theorem comes_del {cd₀ cd : Cd} {slot' : Slot} (slots : t'.slots = t.slots.del cd₀)
    (found' : t'.slots.get cd = some slot') : Comes t t' cd slot' := by
  rw [slots, Table.get_del] at found'
  split at found'
  · cases found'
  · exact .same slot' found' rfl rfl

/-- **Where a slot comes from**: it was there, it was reported early, or its call was sent. -/
theorem Tracks.comes (moved : Tracks t t') {cd : Cd} {slot' : Slot}
    (found' : t'.slots.get cd = some slot') : Comes t t' cd slot' := by
  cases moved with
  | drained _ moved =>
      cases moved with
      | displaced => exact .same slot' found' rfl rfl
      | answered cd₀ generation waker claim outcome buf found =>
          exact comes_set rfl (.same _ found rfl rfl) found'
      | arrived cd₀ outcome buf untracked =>
          exact comes_set rfl (.opened untracked rfl rfl (by simp +contextual) (by simp [Slot.claim])) found'
      | failed err =>
          simp only [Table.get_mapVals, Option.map_eq_some_iff] at found'
          obtain ⟨slot, found, rfl⟩ := found'
          exact .same slot found (by simp) (by simp)
  | noted | forgot => exact .same slot' found' rfl rfl
  | parked cd₀ generation existing waker claim own found =>
      exact comes_set rfl (.same _ found rfl rfl) found'
  | unclaimed cd₀ slot slot₀ found same =>
      exact comes_set rfl (.unclaimed slot found same.1 same.2.2) found'
  | submitted cd₀ deadline claimed untracked =>
      exact comes_set rfl (.opened untracked rfl rfl (by simp +contextual)
        (by cases claimed <;> simp [Slot.claim])) found'
  | claimedNew cd₀ untracked =>
      refine comes_set rfl (.opened untracked rfl rfl (by simp +contextual) fun id same => ?_) found'
      cases same
      exact ⟨rfl, rfl, by simp [Tracking.Submitted]⟩
  | claimedSlot cd₀ slot found unclaimed =>
      exact comes_set rfl (.claimed slot found (by simp) (by simp) rfl (by simp; grind)) found'
  | collected | released | abandoned => exact comes_del rfl found'

/-- Claims aside, a slot was there under its generation, or is the only new one. -/
theorem Tracks.existed (moved : Tracks t t') {cd : Cd} {slot' : Slot}
    (found' : t'.slots.get cd = some slot') :
    (∃ slot, t.slots.get cd = some slot ∧ slot'.generation = slot.generation) ∨
      t.slots.get cd = none ∧ slot'.generation = t.nextGeneration ∧
        t'.nextGeneration = t.nextGeneration + 1 ∧
        ∀ other, other ≠ cd → t'.slots.get other = t.slots.get other := by
  cases moved.comes found' with
  | same slot found generation _ => exact .inl ⟨slot, found, generation⟩
  | unclaimed slot found generation _ => exact .inl ⟨slot, found, generation⟩
  | claimed slot found generation _ _ _ => exact .inl ⟨slot, found, generation⟩
  | opened untracked generation next only _ => exact .inr ⟨untracked, generation, next, only⟩

theorem leaves_set {cd₀ cd : Cd} {slot₀ slot : Slot} (slots : t'.slots = t.slots.set cd₀ slot₀)
    (here : ∀ slot, t.slots.get cd₀ = some slot → Leaves t t' cd₀ slot)
    (deadlines : cd ≠ cd₀ → t'.deadlines.get cd = t.deadlines.get cd)
    (found : t.slots.get cd = some slot) : Leaves t t' cd slot := by
  by_cases same : cd = cd₀
  · subst same
    exact here slot found
  · exact .stays slot (by simp [slots, same, found]) rfl (deadlines same)

theorem leaves_del {cd₀ cd : Cd} {slot : Slot} (slots : t'.slots = t.slots.del cd₀)
    (here : ∀ slot, t.slots.get cd₀ = some slot → Leaves t t' cd₀ slot)
    (deadlines : cd ≠ cd₀ → t'.deadlines.get cd = t.deadlines.get cd)
    (found : t.slots.get cd = some slot) : Leaves t t' cd slot := by
  by_cases same : cd = cd₀
  · subst same
    exact here slot found
  · exact .stays slot (by simp [slots, same, found]) rfl (deadlines same)

/-- **Where a slot goes**: it is there, or somebody gave it up or collected it. -/
theorem Tracks.leaves (moved : Tracks t t') {cd : Cd} {slot : Slot}
    (found : t.slots.get cd = some slot) : Leaves t t' cd slot := by
  have kept : ∀ {cd₀ : Cd} {slot₀ slot₁ : Slot}, t.slots.get cd₀ = some slot₁ →
      t'.slots = t.slots.set cd₀ slot₀ → slot₀.generation = slot₁.generation →
      t'.deadlines = t.deadlines → Leaves t t' cd slot := by
    intro cd₀ slot₀ slot₁ found₁ slots generation deadlines
    refine leaves_set slots (fun slot here => ?_) (by simp [deadlines]) found
    cases found₁.symm.trans here
    exact .stays slot₀ (by simp [slots]) generation (by simp [deadlines])
  have absent : ∀ {cd₀ : Cd} {slot₀ : Slot}, t.slots.get cd₀ = none →
      t'.slots = t.slots.set cd₀ slot₀ →
      (cd ≠ cd₀ → t'.deadlines.get cd = t.deadlines.get cd) → Leaves t t' cd slot :=
    fun untracked slots deadlines => leaves_set slots (by simp [untracked]) deadlines found
  cases moved with
  | drained _ moved =>
      cases moved with
      | displaced => exact .stays slot found rfl rfl
      | answered cd₀ generation waker claim outcome buf found₁ => exact kept found₁ rfl rfl rfl
      | arrived cd₀ outcome buf untracked => exact absent untracked rfl fun _ => rfl
      | failed err => exact .stays (failWaiting err slot) (by simp [found]) (by simp) rfl
  | noted => exact .stays slot found rfl rfl
  | parked cd₀ generation existing waker claim own found₁ => exact kept found₁ rfl rfl rfl
  | unclaimed cd₀ slot₁ slot₀ found₁ same => exact kept found₁ rfl same.1 rfl
  | claimedSlot cd₀ slot₁ found₁ unclaimed => exact kept found₁ rfl (by simp) rfl
  | claimedNew cd₀ untracked => exact absent untracked rfl fun _ => rfl
  | submitted cd₀ deadline claimed untracked =>
      exact absent untracked rfl fun other => by simp [other]
  | collected own cd₀ slot₀ refused found₀ ready =>
      refine leaves_del rfl (fun slot here => ?_) (fun other => by simp [other]) found
      cases found₀.symm.trans here
      exact .ends (by simp) (by simp) ⟨_, List.mem_cons_self, rfl⟩
  | released cause cd₀ slot₀ found₀ closing =>
      refine leaves_del rfl (fun slot here => ?_) (fun other => by simp [other]) found
      cases found₀.symm.trans here
      exact .ends (by simp) (by simp) ⟨_, List.mem_cons_self, rfl, closing⟩
  | forgot cd₀ untracked =>
      have other : cd ≠ cd₀ := fun same => by simp [same, untracked] at found
      exact .stays slot found rfl (by simp [other])
  | abandoned guard slot₀ known created found₀ waits held =>
      refine leaves_del rfl (fun slot here => ?_) (fun _ => rfl) found
      cases found₀.symm.trans here
      exact .abandoned guard.id (by simp) (by rwa [← created]) held

/-- No generation and no claim number is given again, and nothing recorded is lost. -/
theorem Tracks.grows (moved : Tracks t t') : t.nextGeneration ≤ t'.nextGeneration ∧
    t.nextClaimId ≤ t'.nextClaimId ∧ t.log ⊆ t'.log := by
  refine ⟨?_, ?_, fun e member => log_follows e t t' moved member⟩
  · cases moved with
    | drained _ moved => exact moved.frame.2.2
    | _ => simp
  · cases moved with
    | drained _ moved => exact Nat.le_of_eq moved.frame.2.1.symm
    | _ => simp

/-- A new claim has a number of its own. -/
theorem Tracks.claims (moved : Tracks t t') {guard : ReplyClaimGuard}
    (claimed : .claimed guard ∈ t'.log) : .claimed guard ∈ t.log ∨
      guard.id = t.nextClaimId + 1 ∧ t'.nextClaimId = t.nextClaimId + 1 := by
  cases moved with
  | claimedNew | claimedSlot =>
      refine (List.mem_cons.1 claimed).elim (fun same => .inr ?_) .inl
      cases same
      exact ⟨rfl, rfl⟩
  | noted e note =>
      refine (List.mem_cons.1 claimed).elim (fun same => ?_) .inl
      subst same
      cases note
  | drained _ moved => exact .inl ((moved.mem_log claimed).resolve_right id)
  | _ => exact .inl (by simpa using claimed)

/-- A submission that is recorded was one of this step or of one before. -/
theorem Tracks.submits (moved : Tracks t t') {g : Nat} {cd : Cd} {d : Option Instant}
    (submitted : t'.Submitted g cd d) : t.Submitted g cd d ∨
      g = t.nextGeneration ∧ t'.nextGeneration = t.nextGeneration + 1 ∧
        t'.deadlines.get cd = some d ∧
        ∃ slot, t'.slots.get cd = some slot ∧ slot.generation = g := by
  unfold Tracking.Submitted at *
  cases moved with
  | noted e note =>
      refine (List.mem_cons.1 submitted).elim (fun same => ?_) .inl
      subst same
      cases note
  | submitted =>
      refine (List.mem_cons.1 submitted).elim (fun same => .inr ?_) .inl
      cases same
      exact ⟨rfl, rfl, by simp, _, (Table.get_set ..).trans (if_pos rfl), rfl⟩
  | drained _ moved => exact .inl ((moved.mem_log submitted).resolve_right id)
  | _ => exact .inl (by simpa using submitted)

/-- A call that has ended ended in this step or in one before. -/
theorem Tracks.ends (moved : Tracks t t') {g : Nat} (ended : t'.Ended g) : t.Ended g ∨
    ∃ cd slot, t.slots.get cd = some slot ∧ slot.generation = g ∧ t'.slots.get cd = none := by
  unfold Tracking.Ended at *
  cases moved with
  | collected own cd slot refused found ready =>
      obtain ⟨e, member, ends⟩ := ended
      rcases List.mem_cons.1 member with rfl | before
      · exact .inr ⟨cd, slot, found, ends, by simp⟩
      · exact .inl ⟨e, before, ends⟩
  | released cause cd slot found closing =>
      obtain ⟨e, member, ends⟩ := ended
      rcases List.mem_cons.1 member with rfl | before
      · exact .inr ⟨cd, slot, found, ends.1, by simp⟩
      · exact .inl ⟨e, before, ends⟩
  | drained _ moved =>
      obtain ⟨e, member, ends⟩ := ended
      refine .inl ⟨e, (moved.mem_log member).resolve_right fun arrival => ?_, ends⟩
      cases e <;> first | exact ends | exact arrival
  | noted e note =>
      refine .inl ?_
      cases e <;> simp_all [Event.IsNote, Event.Ends]
  | _ => exact .inl (by simpa [Event.Ends] using ended)

/-- A deadline is that of a call sent, or was there. -/
theorem Tracks.dates (moved : Tracks t t') {cd : Cd} {d : Option Instant}
    (dated : t'.deadlines.get cd = some d) : t.deadlines.get cd = some d ∨
      ∃ slot, t'.slots.get cd = some slot ∧ t'.Submitted slot.generation cd d := by
  cases moved with
  | collected | released | forgot => exact .inl (by simp_all)
  | submitted cd₀ deadline claimed untracked =>
      simp only [Table.get_set] at dated
      split at dated
      · rename_i here
        cases dated
        cases here
        exact .inr ⟨_, (Table.get_set ..).trans (if_pos rfl), List.mem_cons_self⟩
      · exact .inl dated
  | drained _ moved => exact .inl (moved.frame.1 ▸ dated)
  | _ => exact .inl dated

/-! ## The invariant -/

/-- Generations and waiter identifiers are given once, and a claim that made its slot made no
submission. -/
structure Given (t : Tracking) : Prop where
  submitted : ∀ g cd d, t.Submitted g cd d → g < t.nextGeneration
  tracked : ∀ cd slot, t.slots.get cd = some slot → slot.generation < t.nextGeneration
  apart : ∀ cd cd' slot slot', t.slots.get cd = some slot → t.slots.get cd' = some slot' →
    slot.generation = slot'.generation → cd = cd'
  claimed : ∀ guard, .claimed guard ∈ t.log → guard.id ≤ t.nextClaimId
  held : ∀ cd slot id, t.slots.get cd = some slot → slot.claim = some (.waiter id) →
    id ≤ t.nextClaimId
  created : ∀ guard slot, .claimed guard ∈ t.log → guard.created = true →
    t.slots.get guard.cd = some slot → slot.claim = some (.waiter guard.id) →
    ∀ cd d, ¬ t.Submitted slot.generation cd d

/-- Every move of the tracking keeps it. -/
theorem given_follows : Follows Given := by
  intro t t' moved given
  have grows := moved.grows
  refine ⟨?_, ?_, ?_, ?_, ?_, ?_⟩
  · intro g cd d submitted
    rcases moved.submits submitted with before | ⟨rfl, next, _⟩
    · exact Nat.lt_of_lt_of_le (given.submitted g cd d before) grows.1
    · omega
  · intro cd slot' found'
    rcases moved.existed found' with ⟨slot, found, same⟩ | ⟨_, same, next, _⟩
    · have := given.tracked cd slot found
      omega
    · omega
  · intro cd cd' slot' other' found' there' equal
    by_contra distinct
    rcases moved.existed found' with ⟨slot, found, same⟩ | ⟨_, new, _, only⟩
    · rcases moved.existed there' with ⟨other, there, still⟩ | ⟨_, new, _, _⟩
      · exact distinct (given.apart cd cd' slot other found there (by omega))
      · have := given.tracked cd slot found
        omega
    · have there := (only cd' (Ne.symm distinct)).symm.trans there'
      have := given.tracked cd' other' there
      omega
  · intro guard claimed
    rcases moved.claims claimed with before | ⟨same, next⟩
    · exact Nat.le_trans (given.claimed guard before) grows.2.1
    · omega
  · intro cd slot' id found' held'
    cases moved.comes found' with
    | same slot found _ claim =>
        exact Nat.le_trans (given.held cd slot id found (claim ▸ held')) grows.2.1
    | unclaimed _ _ _ claim => cases claim.symm.trans held'
    | claimed _ _ _ claim next _ =>
        cases claim.symm.trans held'
        omega
    | opened _ _ _ _ claim =>
        have := claim id held'
        omega
  · intro guard slot' claimed created found' held' cd d submitted
    cases moved.comes found' with
    | same slot found generation claim =>
        have held := claim ▸ held'
        have old := given.held guard.cd slot guard.id found held
        rcases moved.claims claimed with known | ⟨new, _⟩
        · rcases moved.submits submitted with before | ⟨new, _⟩
          · exact given.created guard slot known created found held cd d (generation ▸ before)
          · have := given.tracked guard.cd slot found
            omega
        · omega
    | unclaimed _ _ _ claim => cases claim.symm.trans held'
    | claimed _ _ _ claim _ existed =>
        rcases existed guard claimed with known | borrowed
        · have := given.claimed guard known
          have : t.nextClaimId + 1 = guard.id := by simpa using claim.symm.trans held'
          omega
        · simp [created] at borrowed
    | opened _ generation _ _ claim =>
        have := given.submitted _ cd d ((claim guard.id held').2.2 _ _ _ submitted)
        omega

/-- **The invariant of the deadline table**, over `Given`. -/
structure Dated (t : Tracking) : Prop extends Given t where
  /-- An ended submission is not tracked again. -/
  ended : ∀ g, t.Ended g → g < t.nextGeneration ∧
    ∀ cd slot, t.slots.get cd = some slot → slot.generation ≠ g
  /-- A deadline is the one the slot's own submission came with. -/
  recorded : ∀ cd d, t.deadlines.get cd = some d →
    ∃ slot, t.slots.get cd = some slot ∧ t.Submitted slot.generation cd d
  /-- A submission is over, or tracked with its deadline. -/
  kept : ∀ g cd d, t.Submitted g cd d → t.Ended g ∨
    ∃ slot, t.slots.get cd = some slot ∧ slot.generation = g ∧ t.deadlines.get cd = some d

/-- Every move keeps a deadline with its call. -/
theorem dated_follows : Follows Dated := by
  intro t t' moved dated
  have grows := moved.grows
  refine ⟨given_follows t t' moved dated.toGiven, ?_, ?_, ?_⟩
  · intro g ended
    have fresh : g < t.nextGeneration := by
      rcases moved.ends ended with before | ⟨cd, slot, found, rfl, _⟩
      · exact (dated.ended g before).1
      · exact dated.tracked cd slot found
    refine ⟨by omega, fun cd slot' found' same => ?_⟩
    rcases moved.existed found' with ⟨slot, found, generation⟩ | ⟨_, new, _, _⟩
    · rcases moved.ends ended with before | ⟨gone, closed, there, left, untracked⟩
      · exact (dated.ended g before).2 cd slot found (by omega)
      · cases dated.apart cd gone slot closed found there (by omega)
        simp [untracked] at found'
    · omega
  · intro cd d deadline
    rcases moved.dates deadline with before | new
    · obtain ⟨slot, found, submitted⟩ := dated.recorded cd d before
      cases moved.leaves found with
      | stays slot' found' same _ => exact ⟨slot', found', same ▸ grows.2.2 submitted⟩
      | ends _ forgotten _ => cases forgotten.symm.trans deadline
      | abandoned id _ known held =>
          exact absurd submitted (dated.created ⟨cd, id, true⟩ slot known rfl found held cd d)
    · exact new
  · intro g cd d submitted
    rcases moved.submits submitted with before | ⟨_, _, deadline, slot, found, same⟩
    · rcases dated.kept g cd d before with ⟨e, member, ends⟩ | ⟨slot, found, rfl, deadline⟩
      · exact .inl ⟨e, grows.2.2 member, ends⟩
      · cases moved.leaves found with
        | stays slot' found' same kept => exact .inr ⟨slot', found', same, kept.trans deadline⟩
        | ends _ _ ended => exact .inl ended
        | abandoned id _ known held =>
            exact absurd before (dated.created ⟨cd, id, true⟩ slot known rfl found held cd d)
    · exact .inr ⟨slot, found, same, deadline⟩

/-- In every run, a deadline is that of the call last sent under its number. -/
theorem dated_reachable (labels : List Label) : Dated (machine.run labels).shared.toTracking := by
  refine stable_reachable (tracks_stable dated_follows) ?_ labels
  refine ⟨⟨?_, ?_, ?_, ?_, ?_, ?_⟩, ?_, ?_, ?_⟩ <;> simp [Tracking.Submitted, Tracking.Ended]

/-! ## Every run -/

/-- **The deadline table is consistent at every await point.**  A recorded deadline belongs to
a tracked descriptor and is the one its own submission was made with; a submission still
tracked (waiting, or with its outcome parked) has exactly its deadline, and one that was
collected, cancelled, timed out or dropped is tracked no more, so no later submission of the
number finds a deadline of an earlier one. -/
theorem deadlines_consistent (labels : List Label) :
    let t := (machine.run labels).shared.toTracking
    (∀ cd, (t.deadlines.get cd).isSome → (t.slots.get cd).isSome) ∧
    (∀ cd d, t.deadlines.get cd = some d → ∃ g, t.generation cd = some g ∧ t.Submitted g cd d) ∧
    (∀ g cd d, t.Submitted g cd d →
      (t.generation cd = some g ∧ t.deadlines.get cd = some d) ∨
      (t.Ended g ∧ ∀ other, t.generation other ≠ some g)) := by
  intro t
  have dated : Dated t := dated_reachable labels
  refine ⟨fun cd recorded => ?_, fun cd d recorded => ?_, fun g cd d submitted => ?_⟩
  · obtain ⟨d, recorded⟩ := Option.isSome_iff_exists.1 recorded
    obtain ⟨slot, found, _⟩ := dated.recorded cd d recorded
    simp [found]
  · obtain ⟨slot, found, submitted⟩ := dated.recorded cd d recorded
    exact ⟨slot.generation, by simp [Tracking.generation, found], submitted⟩
  · rcases dated.kept g cd d submitted with gone | ⟨slot, found, rfl, deadline⟩
    · refine .inr ⟨gone, fun other tracked => ?_⟩
      obtain ⟨slot, found, same⟩ := Option.map_eq_some_iff.1 tracked
      exact (dated.ended g gone).2 other slot found same
    · exact .inl ⟨by simp [Tracking.generation, found], deadline⟩

end Endurox.Async
