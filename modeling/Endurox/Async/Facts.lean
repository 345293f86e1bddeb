/-
# Async.Facts -- what each demux operation does and leaves alone

`takeReady_cases` is the inversion of a collection, and `parkWaker_ready`,
`takeReady_none` and `anyUnclaimed_none` relate it to readiness.
-/
import Endurox.Async.Machine

namespace Endurox.Async

open Endurox.Theory

set_option autoImplicit false

/-- A target may take a slot with this claim: any for its own descriptor, none for `TPGETANY`. -/
def Target.takes (target : Target) (cd : Cd) (claim : Option ReplyClaim) : Prop :=
  match target with
  | .one cd' => cd = cd'
  | .any _ => claim = none

/-- The slot with `waker` stored, if it is still waiting. -/
def Slot.parked (waker : Waker) : Slot → Slot
  | .waiting generation _ claim => .waiting generation (some waker) claim
  | slot => slot

namespace AsyncAtmiCtx

theorem anyUnclaimed_none {s : AsyncAtmiCtx} {choice : Cd} :
    s.anyUnclaimed choice = none ↔
      ∀ cd slot, s.slots.get cd = some slot → slot.isUnclaimedReply = false := by
  constructor
  · exact fun missing cd slot found => Table.findKey_none missing found
  · intro none
    cases found : s.anyUnclaimed choice with
    | none => rfl
    | some cd =>
        obtain ⟨slot, entry, holds⟩ := Table.findKey_some found
        simp [none cd slot entry] at holds

/-- Nothing to collect for the target. -/
def NothingReady (target : Target) (s : AsyncAtmiCtx) : Prop :=
  match target with
  | .one cd => s.isReady cd = false
  | .any _ => ∀ cd slot, s.slots.get cd = some slot → slot.isUnclaimedReply = false

theorem isReady_true {s : AsyncAtmiCtx} {cd : Cd} (ready : s.isReady cd = true) :
    ∃ generation origin outcome buf claim,
      s.slots.get cd = some (.ready generation origin outcome buf claim) := by
  unfold isReady at ready
  cases found : s.slots.get cd with
  | none => simp [found] at ready
  | some slot =>
      cases slot with
      | waiting => simp [found, Slot.isReady] at ready
      | ready generation origin outcome buf claim => exact ⟨_, _, _, _, _, rfl⟩

/-- A collection finds nothing and changes nothing, or takes one ready slot the target may take. -/
theorem takeReady_cases (target : Target) (own : Own) (id : BufId) (flags : Flags) (choice : Cd)
    (s : AsyncAtmiCtx) :
    (takeReady target own id flags choice s = (none, s) ∧ NothingReady target s) ∨
    ∃ cd generation origin outcome buf claim,
      s.slots.get cd = some (.ready generation origin outcome buf claim) ∧
      target.takes cd claim ∧
      takeReady target own id flags choice s =
        (some (cd, (handOver outcome buf id flags
          (record (.collected own cd (.ready generation origin outcome buf claim)
            (s.refusal buf id flags).isSome) { s with slots := s.slots.del cd })).1),
        (handOver outcome buf id flags
          (record (.collected own cd (.ready generation origin outcome buf claim)
            (s.refusal buf id flags).isSome) { s with slots := s.slots.del cd })).2) := by
  cases target with
  | one cd =>
      cases ready : s.isReady cd with
      | false => exact .inl ⟨by simp [takeReady, ready], ready⟩
      | true =>
          obtain ⟨generation, origin, outcome, buf, claim, found⟩ := isReady_true ready
          exact .inr ⟨cd, generation, origin, outcome, buf, claim, found, rfl,
            by simp [takeReady, ready, found]⟩
  | any registration =>
      cases choose : s.anyUnclaimed choice with
      | none => exact .inl ⟨by simp [takeReady, choose], anyUnclaimed_none.1 choose⟩
      | some cd =>
          obtain ⟨slot, found, unclaimed⟩ := Table.findKey_some choose
          cases slot with
          | waiting => cases unclaimed
          | ready generation origin outcome buf claim =>
              cases claim with
              | some op => cases unclaimed
              | none => exact .inr ⟨cd, generation, origin, outcome, buf, none, found, rfl,
                  by simp [takeReady, choose, found]⟩

theorem isTargetReady_false {target : Target} {s : AsyncAtmiCtx} :
    s.isTargetReady target = false ↔
      NothingReady target s ∧ ∀ id, target = .any id → s.hasAnyError id = false := by
  cases target with
  | one cd => simp [isTargetReady, NothingReady]
  | any id =>
      simp only [isTargetReady, NothingReady, Bool.or_eq_false_iff, Option.isSome_eq_false_iff,
        Option.isNone_iff_eq_none, anyUnclaimed_none, Target.any.injEq]
      simp

/-- Parking stores the waker in the target's waiting slot, or in its registration, or finds
it there already or nowhere to put it. -/
theorem parkWaker_cases (target : Target) (own : Own) (waker : Waker) (s : AsyncAtmiCtx) :
    (∃ cd generation existing claim, target = .one cd ∧
      s.slots.get cd = some (.waiting generation existing claim) ∧
      s.parkWaker target own waker =
        record (.waited own cd (.waiting generation existing claim))
          { s with slots := s.slots.set cd (.waiting generation (some waker) claim) }) ∨
    (∃ id entry, target = .any id ∧ s.anyWaiters.get id = some entry ∧
      s.parkWaker target own waker =
        { s with anyWaiters := s.anyWaiters.set id { entry with waker := some waker } }) ∨
    (s.parkWaker target own waker = s ∧
      (∀ cd generation existing claim, target = .one cd →
        s.slots.get cd = some (.waiting generation existing claim) → existing = some waker) ∧
      ∀ id, target = .any id → s.anyWaiters.get id = none) := by
  cases target with
  | one cd =>
      cases found : s.slots.get cd with
      | none =>
          exact .inr (.inr ⟨by simp [parkWaker, found],
            fun _ _ _ _ same entry => by cases same; simp [found] at entry, by simp⟩)
      | some slot =>
          cases slot with
          | ready =>
              exact .inr (.inr ⟨by simp [parkWaker, found],
                fun _ _ _ _ same entry => by cases same; simp [found] at entry, by simp⟩)
          | waiting generation existing claim =>
              by_cases stored : existing = some waker
              · exact .inr (.inr ⟨by simp [parkWaker, found, stored],
                  fun _ _ _ _ same entry => by cases same; simp_all, by simp⟩)
              · exact .inl ⟨cd, generation, existing, claim, rfl, found, by simp [parkWaker, found, stored]⟩
  | any id =>
      cases found : s.anyWaiters.get id with
      | none => exact .inr (.inr ⟨by simp [parkWaker, found], by simp, by simp [found]⟩)
      | some entry => exact .inr (.inl ⟨id, entry, rfl, found, by simp [parkWaker, found]⟩)

theorem parkWaker_slots (target : Target) (own : Own) (waker : Waker) (s : AsyncAtmiCtx) (cd : Cd) :
    (s.parkWaker target own waker).slots.get cd =
      (s.slots.get cd).map fun slot => if target = .one cd then slot.parked waker else slot := by
  obtain ⟨cd', generation, existing, claim, rfl, found, parked⟩ | ⟨id, entry, rfl, found, parked⟩ |
    ⟨parked, stored, -⟩ := parkWaker_cases target own waker s <;> rw [parked]
  · by_cases same : cd = cd'
    · subst same; simp [found, Slot.parked, record]
    · simp [record, same, Ne.symm same]
  · simp
  · cases found : s.slots.get cd with
    | none => rfl
    | some slot =>
        by_cases mine : target = .one cd
        · cases slot with
          | ready => simp [Slot.parked]
          | waiting generation existing claim =>
              simp [mine, Slot.parked, stored cd generation existing claim mine found]
        · simp [mine]

theorem parkWaker_anyWaiters (target : Target) (own : Own) (waker : Waker) (s : AsyncAtmiCtx)
    (id : Nat) : (s.parkWaker target own waker).anyWaiters.get id =
      (s.anyWaiters.get id).map fun entry =>
        if target = .any id then { entry with waker := some waker } else entry := by
  obtain ⟨cd, generation, existing, claim, rfl, found, parked⟩ | ⟨id', entry, rfl, found, parked⟩ |
    ⟨parked, -, missing⟩ := parkWaker_cases target own waker s <;> rw [parked]
  · simp [record]
  · by_cases same : id = id'
    · subst same; simp [found]
    · simp [same, Ne.symm same]
  · by_cases mine : target = .any id
    · simp [missing id mine]
    · simp [mine]

theorem isReady_parked (waker : Waker) (slot : Slot) :
    (slot.parked waker).isReady = slot.isReady := by cases slot <;> rfl

theorem isUnclaimedReply_parked (waker : Waker) (slot : Slot) :
    (slot.parked waker).isUnclaimedReply = slot.isUnclaimedReply := by cases slot <;> rfl

/-- Parking leaves readiness alone. -/
theorem parkWaker_notReady {target other : Target} {own : Own} {waker : Waker} {s : AsyncAtmiCtx}
    (waits : s.isTargetReady other = false) :
    (s.parkWaker target own waker).isTargetReady other = false := by
  rw [isTargetReady_false] at waits ⊢
  refine ⟨?_, fun id same => ?_⟩
  · cases other with
    | one cd =>
        have waiting := waits.1
        simp only [NothingReady, isReady, parkWaker_slots] at waiting ⊢
        cases found : s.slots.get cd with
        | none => rfl
        | some slot =>
            rw [found] at waiting
            by_cases mine : target = .one cd <;> simpa [mine, isReady_parked] using waiting
    | any id =>
        intro cd slot found
        rw [parkWaker_slots, Option.map_eq_some_iff] at found
        obtain ⟨before, entry, rfl⟩ := found
        have unclaimed := waits.1 cd before entry
        by_cases mine : target = .one cd <;> simpa [mine, isUnclaimedReply_parked] using unclaimed
  · have quiet := waits.2 id same
    simp only [hasAnyError, parkWaker_anyWaiters] at quiet ⊢
    cases found : s.anyWaiters.get id with
    | none => rfl
    | some entry =>
        rw [found] at quiet
        by_cases mine : target = .any id <;> simpa [mine] using quiet

/-- A claim takes an untracked descriptor or an unclaimed slot, under a new identifier. -/
theorem claim_cases {s s' : AsyncAtmiCtx} {cd : Cd} {guard : ReplyClaimGuard}
    (claimed : s.claim cd = (.ok guard, s')) :
    (s.slots.get cd = none ∧ guard = ⟨cd, s.nextClaimId + 1, true⟩ ∧
      s' = record (.claimed guard)
        { s with
          slots := s.slots.set cd (.waiting s.nextGeneration none (some (.waiter guard.id)))
          nextGeneration := s.nextGeneration + 1
          nextClaimId := guard.id }) ∨
    ∃ slot, s.slots.get cd = some slot ∧ slot.claim = none ∧
      guard = ⟨cd, s.nextClaimId + 1, false⟩ ∧
      s' = record (.claimed guard)
        { s with
          slots := s.slots.set cd (withClaim (some (.waiter guard.id)) slot)
          nextClaimId := guard.id } := by
  unfold claim at claimed
  split at claimed
  · cases claimed
  · simp only at claimed
    split at claimed
    · rename_i untracked
      cases claimed
      exact .inl ⟨untracked, rfl, rfl⟩
    · rename_i slot found
      split at claimed <;> cases claimed
      rename_i unclaimed
      exact .inr ⟨slot, found, by simpa using unclaimed, rfl, rfl⟩

end AsyncAtmiCtx

end Endurox.Async
