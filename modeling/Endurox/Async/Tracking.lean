/-
# Async.Tracking -- how the slots, the deadlines and the log change

The tracking is what of the shared state most results are about.  `Tracks` lists
every way an operation changes it, one constructor a way, with `Drains` for what
a drain does; everything else an operation touches is framed away here, so that
a predicate on the tracking need only follow these lists.
-/
import Endurox.Async.Facts

namespace Endurox.Async

open Endurox.Theory AsyncAtmiCtx

set_option autoImplicit false

/-! ## What leaves the tracking alone -/

@[simp] theorem wake_tracking (wakers : List Waker) (s : AsyncAtmiCtx) :
    (wake wakers s).toTracking = s.toTracking := rfl

@[simp] theorem wakeAnyWaiters_tracking (s : AsyncAtmiCtx) :
    s.wakeAnyWaiters.toTracking = s.toTracking := rfl

@[simp] theorem stash_tracking (buf : ParkedBuf) (s : AsyncAtmiCtx) :
    (s.stash buf).toTracking = s.toTracking := by
  unfold stash
  split
  · rfl
  · split <;> rfl

@[simp] theorem freeBuf_tracking (buf : ParkedBuf) (s : AsyncAtmiCtx) :
    (s.freeBuf buf).toTracking = s.toTracking := by
  unfold freeBuf
  split <;> rfl

@[simp] theorem handOver_tracking (outcome : AtmiResult Unit) (buf : ParkedBuf) (id : BufId)
    (flags : Flags) (s : AsyncAtmiCtx) :
    (handOver outcome buf id flags s).2.toTracking = s.toTracking := by
  unfold handOver
  split
  · rfl
  · split <;> simp

/-- A collection takes one ready slot its target may take, and only that one. -/
theorem takeReady_slots {target : Target} {own : Own} {id : BufId} {flags : Flags}
    {choice cd : Cd} {result : AtmiResult Unit} {s s' : AsyncAtmiCtx}
    (taken : takeReady target own id flags choice s = (some (cd, result), s')) :
    ∃ slot, s.slots.get cd = some slot ∧ slot.isReady = true ∧ target.takes cd slot.claim ∧
      s'.slots = s.slots.del cd := by
  obtain ⟨none, _⟩ | ⟨cd', generation, origin, outcome, buf, claim, found, takes, ready⟩ :=
    takeReady_cases target own id flags choice s
  · rw [none] at taken
    cases taken
  · rw [ready] at taken
    cases taken
    exact ⟨_, found, rfl, takes, by rw [handOver_tracking]; rfl⟩

/-- A release removes the slot of its descriptor. -/
@[simp] theorem releaseSlot_slots (cause : Cause) (cd : Cd) (s : AsyncAtmiCtx) :
    (releaseSlot cause cd s).slots = s.slots.del cd := by
  unfold releaseSlot deregister
  cases found : s.slots.get cd with
  | none => simp [forgetDeadline, found, Table.del_of_get_none found]
  | some slot => simp [forgetDeadline, found, record]

@[simp] theorem takeScratch_tracking (alloc : AtmiResult (Option TpTypeInfo)) (s : AsyncAtmiCtx) :
    (s.takeScratch alloc).2.toTracking = s.toTracking := by
  unfold takeScratch tpalloc
  cases s.scratch with
  | some buf => rfl
  | none => cases alloc <;> rfl

@[simp] theorem tpgetrply_tracking (reply : NativeReply) (buf : ParkedBuf) (s : AsyncAtmiCtx) :
    (s.tpgetrply reply buf).2.toTracking = s.toTracking := by
  unfold tpgetrply
  cases reply.buffer <;> simp [consumeNext]

@[simp] theorem takeAnyError_tracking (id : Nat) (s : AsyncAtmiCtx) :
    (s.takeAnyError id).2.toTracking = s.toTracking := by
  unfold takeAnyError
  split <;> rfl

@[simp] theorem allocData_tracking (id : BufId) (info : Option TpTypeInfo) (s : AsyncAtmiCtx) :
    (s.allocData id info).toTracking = s.toTracking := by
  unfold allocData
  split <;> rfl

@[simp] theorem freeData_tracking (id : BufId) (s : AsyncAtmiCtx) :
    (s.freeData id).toTracking = s.toTracking := by
  unfold freeData
  split <;> simp

/-! ## Drains -/

/-- Every report of the replies is allowed. -/
def Allowed (may : Cd → Prop) (replies : List NativeReply) : Prop :=
  ∀ reply ∈ replies, 0 < reply.cd → may reply.cd

/-- Where every number may be reported, every script is allowed. -/
theorem allowed_any (replies : List NativeReply) : Allowed (fun _ => True) replies :=
  fun _ _ _ => trivial

/-- Operations made on behalf of nobody, drains and the wake-ups around them; `may` bounds the
descriptors the native layer reports. -/
inductive Quiet (may : Cd → Prop) : AsyncAtmiCtx → AsyncAtmiCtx → Prop
  | drained (s : AsyncAtmiCtx) (replies : List NativeReply) (reported : Allowed may replies) :
      Quiet may s (s.drain replies)
  | wakeAny (s : AsyncAtmiCtx) : Quiet may s s.wakeAnyWaiters

/-- A drain that may report less is one that may report more. -/
theorem Quiet.weaken {may : Cd → Prop} {s s' : AsyncAtmiCtx} (moved : Quiet may s s') :
    Quiet (fun _ => True) s s' := by
  cases moved with
  | drained replies _ => exact .drained s replies (allowed_any replies)
  | wakeAny => exact .wakeAny s

/-- What drains and wake-ups are made of. -/
inductive DrainMove (may : Cd → Prop) : AsyncAtmiCtx → AsyncAtmiCtx → Prop
  | round (s : AsyncAtmiCtx) (reply : NativeReply) (reported : 0 < reply.cd → may reply.cd) :
      DrainMove may s (s.drainRound reply).2
  | draining (s : AsyncAtmiCtx) (b : Bool) : DrainMove may s { s with draining := b }
  | wakeAny (s : AsyncAtmiCtx) : DrainMove may s s.wakeAnyWaiters

/-- `P` survives the operations of `R`. -/
def Closed (R : AsyncAtmiCtx → AsyncAtmiCtx → Prop) (P : AsyncAtmiCtx → Prop) : Prop :=
  ∀ {s s'}, R s s' → P s → P s'

section Rounds

variable {may : Cd → Prop} {P : AsyncAtmiCtx → Prop} (rounds : Closed (DrainMove may) P)

include rounds

/-- **A drain keeps what its rounds keep**: by induction on the replies it reads. -/
theorem drainInner_keeps {replies : List NativeReply} (allowed : Allowed may replies) :
    ∀ s, P s → P (drainInner replies s) := by
  induction replies with
  | nil => exact fun s holds => rounds (.round s {} (by simp)) holds
  | cons reply replies ih =>
      intro s holds
      have after := rounds (.round s reply (allowed reply (by simp))) holds
      have rest := ih fun r member => allowed r (by simp [member])
      unfold drainInner
      rcases outcome : s.drainRound reply with ⟨_ | _, s'⟩
      · simpa [outcome] using after
      · simpa [outcome] using rest _ (by simpa [outcome] using after)

/-- What survives each round survives a drain. -/
theorem Closed.quiet : Closed (Quiet may) P := by
  intro s s' moved holds
  cases moved with
  | drained replies allowed =>
      unfold drain
      split
      · exact holds
      · exact rounds (.draining _ false) (drainInner_keeps rounds allowed _ (rounds (.draining s true) holds))
  | wakeAny => exact rounds (.wakeAny s) holds

end Rounds

/-! ## What changes it -/

/-- A claim changes nothing about what is parked. -/
theorem report_withClaim (claim : Option ReplyClaim) (slot : Slot) :
    (withClaim claim slot).report = slot.report := by
  cases slot with
  | waiting => rfl
  | ready _ origin => cases origin <;> rfl

@[simp] theorem generation_withClaim (claim : Option ReplyClaim) (slot : Slot) :
    (withClaim claim slot).generation = slot.generation := by cases slot <;> rfl

@[simp] theorem claim_withClaim (claim : Option ReplyClaim) (slot : Slot) :
    (withClaim claim slot).claim = claim := by cases slot <;> rfl

@[simp] theorem generation_failWaiting (err : AtmiError) (slot : Slot) :
    (failWaiting err slot).generation = slot.generation := by cases slot <;> rfl

@[simp] theorem claim_failWaiting (err : AtmiError) (slot : Slot) :
    (failWaiting err slot).claim = slot.claim := by cases slot <;> rfl

/-- An event that tells nothing about slots. -/
def Event.IsNote : Event → Prop
  | .undone .. => True
  | _ => False

/-- What a round of a drain does to the slots and the log; `may` bounds what it may report. -/
inductive Drains (may : Cd → Prop) : Tracking → Tracking → Prop
  | answered (t : Tracking) (cd : Cd) (generation : Nat) (waker : Option Waker)
      (claim : Option ReplyClaim) (outcome : AtmiResult Unit) (buf : ParkedBuf)
      (found : t.slots.get cd = some (.waiting generation waker claim)) (allowed : may cd) :
      Drains may t { t with
        slots := t.slots.set cd (.ready generation (.reply t.nextReport) outcome buf claim)
        nextReport := t.nextReport + 1
        log := .reported t.nextReport cd false :: t.log }
  | displaced (t : Tracking) (cd : Cd) (slot : Slot) (found : t.slots.get cd = some slot)
      (ready : slot.isReady = true) (allowed : may cd) :
      Drains may t { t with
        nextReport := t.nextReport + 1
        log := .displaced t.nextReport cd :: .reported t.nextReport cd true :: t.log }
  | arrived (t : Tracking) (cd : Cd) (outcome : AtmiResult Unit) (buf : ParkedBuf)
      (untracked : t.slots.get cd = none) (allowed : may cd) :
      Drains may t { t with
        slots := t.slots.set cd (.ready t.nextGeneration (.reply t.nextReport) outcome buf none)
        nextGeneration := t.nextGeneration + 1
        nextReport := t.nextReport + 1
        log := .reported t.nextReport cd false :: t.log }
  | failed (t : Tracking) (err : AtmiError) :
      Drains may t { t with slots := t.slots.mapVals (failWaiting err) }

/-- Who holds a slot is a matter of its claim and its generation. -/
theorem heldBy_congr {slot slot' : Slot} (claim : slot'.claim = slot.claim)
    (generation : slot'.generation = slot.generation) (own : Own) :
    slot'.heldBy own ↔ slot.heldBy own := by
  cases own <;> simp [Slot.heldBy, claim, generation]

/-- A drain keeps a slot with its claim, and touches no number it may not report. -/
theorem Drains.kept {may : Cd → Prop} {t t' : Tracking} (moved : Drains may t t') {cd : Cd}
    {slot : Slot} (found : t.slots.get cd = some slot) : ∃ slot', t'.slots.get cd = some slot' ∧
      slot'.claim = slot.claim ∧ slot'.generation = slot.generation := by
  cases moved with
  | answered cd₀ generation waker claim outcome buf found₀ =>
      by_cases same : cd = cd₀
      · subst same
        cases found₀.symm.trans found
        exact ⟨_, (Table.get_set ..).trans (if_pos rfl), rfl, rfl⟩
      · exact ⟨slot, by simp [same, found], rfl, rfl⟩
  | displaced => exact ⟨slot, found, rfl, rfl⟩
  | arrived cd₀ outcome buf untracked =>
      have other : cd ≠ cd₀ := fun same => by simp [same, untracked] at found
      exact ⟨slot, by simp [other, found], rfl, rfl⟩
  | failed err => exact ⟨failWaiting err slot, by simp [found], by simp, by simp⟩

/-- A drain makes a slot only for a number it may report. -/
theorem Drains.untracked {may : Cd → Prop} {t t' : Tracking} (moved : Drains may t t') {cd : Cd}
    (absent : t.slots.get cd = none) (never : ¬ may cd) : t'.slots.get cd = none := by
  have other : ∀ cd₀, may cd₀ → cd ≠ cd₀ := fun cd₀ allowed same => never (same ▸ allowed)
  cases moved with
  | answered cd₀ _ _ _ _ _ _ allowed => simp [other cd₀ allowed, absent]
  | displaced => exact absent
  | arrived cd₀ _ _ _ allowed => simp [other cd₀ allowed, absent]
  | failed err => simp [absent]

/-- What the native layer reported. -/
def Event.IsArrival : Event → Prop
  | .reported .. | .displaced .. => True
  | _ => False

/-- A drain records arrivals and leaves the deadlines and the identifiers alone. -/
theorem Drains.frame {may : Cd → Prop} {t t' : Tracking} (moved : Drains may t t') :
    t'.deadlines = t.deadlines ∧ t'.nextClaimId = t.nextClaimId ∧
      t.nextGeneration ≤ t'.nextGeneration := by
  cases moved <;> simp

/-- What a drain records is a report. -/
theorem Drains.mem_log {may : Cd → Prop} {t t' : Tracking} (moved : Drains may t t') {e : Event}
    (member : e ∈ t'.log) :
    e ∈ t.log ∨ e.IsArrival := by
  cases moved with
  | answered | arrived =>
      exact (List.mem_cons.1 member).elim (fun same => .inr (same ▸ trivial)) .inl
  | displaced =>
      rcases List.mem_cons.1 member with rfl | member
      · exact .inr trivial
      · exact (List.mem_cons.1 member).elim (fun same => .inr (same ▸ trivial)) .inl
  | failed => exact .inl member

theorem Drains.log_mono {may : Cd → Prop} {t t' : Tracking} (moved : Drains may t t') :
    t.log ⊆ t'.log := by
  cases moved <;> simp

/-- Every way the slots, the deadlines and the log change. -/
inductive Tracks : Tracking → Tracking → Prop
  | drained (t t' : Tracking) (moved : Drains (fun _ => True) t t') : Tracks t t'
  | noted (t : Tracking) (e : Event) (note : e.IsNote) : Tracks t { t with log := e :: t.log }
  | parked (t : Tracking) (cd : Cd) (generation : Nat) (existing : Option Waker) (waker : Waker)
      (claim : Option ReplyClaim) (own : Own)
      (found : t.slots.get cd = some (.waiting generation existing claim)) :
      Tracks t { t with
        slots := t.slots.set cd (.waiting generation (some waker) claim)
        log := .waited own cd (.waiting generation existing claim) :: t.log }
  | collected (t : Tracking) (own : Own) (cd : Cd) (slot : Slot) (refused : Bool)
      (found : t.slots.get cd = some slot) (ready : slot.isReady = true) :
      Tracks t { t with
        slots := t.slots.del cd
        deadlines := t.deadlines.del cd
        log := .collected own cd slot refused :: t.log }
  | released (t : Tracking) (cause : Cause) (cd : Cd) (slot : Slot)
      (found : t.slots.get cd = some slot) (closing : cause ≠ .abandoned) :
      Tracks t { t with
        slots := t.slots.del cd
        deadlines := t.deadlines.del cd
        log := .released cause cd slot :: t.log }
  | forgot (t : Tracking) (cd : Cd) (untracked : t.slots.get cd = none) :
      Tracks t { t with deadlines := t.deadlines.del cd }
  | submitted (t : Tracking) (cd : Cd) (deadline : Option Instant) (claimed : Bool)
      (untracked : t.slots.get cd = none) :
      Tracks t { t with
        slots := t.slots.set cd
          (.waiting t.nextGeneration none (if claimed then some .call else none))
        deadlines := t.deadlines.set cd deadline
        nextGeneration := t.nextGeneration + 1
        log := .submitted t.nextGeneration cd deadline :: t.log }
  | claimedNew (t : Tracking) (cd : Cd) (untracked : t.slots.get cd = none) :
      Tracks t { t with
        slots := t.slots.set cd (.waiting t.nextGeneration none (some (.waiter (t.nextClaimId + 1))))
        nextGeneration := t.nextGeneration + 1
        nextClaimId := t.nextClaimId + 1
        log := .claimed ⟨cd, t.nextClaimId + 1, true⟩ :: t.log }
  | claimedSlot (t : Tracking) (cd : Cd) (slot : Slot) (found : t.slots.get cd = some slot)
      (unclaimed : slot.claim = none) :
      Tracks t { t with
        slots := t.slots.set cd (withClaim (some (.waiter (t.nextClaimId + 1))) slot)
        nextClaimId := t.nextClaimId + 1
        log := .claimed ⟨cd, t.nextClaimId + 1, false⟩ :: t.log }
  | unclaimed (t : Tracking) (cd : Cd) (slot slot' : Slot) (found : t.slots.get cd = some slot)
      (same : slot'.generation = slot.generation ∧ slot'.report = slot.report ∧
        slot'.claim = none) :
      Tracks t { t with slots := t.slots.set cd slot' }
  | abandoned (t : Tracking) (guard : ReplyClaimGuard) (slot : Slot)
      (known : .claimed guard ∈ t.log) (created : guard.created = true)
      (found : t.slots.get guard.cd = some slot) (waits : slot.isReady = false)
      (held : slot.claim = some (.waiter guard.id)) :
      Tracks t { t with
        slots := t.slots.del guard.cd
        log := .released .abandoned guard.cd slot :: t.log }

/-- A drain puts no claim on a slot. -/
theorem Drains.unclaimed {may : Cd → Prop} {t t' : Tracking} (moved : Drains may t t') {cd : Cd}
    (unclaimed : ∀ slot, t.slots.get cd = some slot → slot.claim = none) {slot : Slot}
    (found : t'.slots.get cd = some slot) : slot.claim = none := by
  cases before : t.slots.get cd with
  | some slot₀ =>
      obtain ⟨slot', found', claim, _⟩ := moved.kept before
      cases found.symm.trans found'
      exact claim.trans (unclaimed slot₀ before)
  | none =>
      cases moved with
      | answered cd₀ _ _ _ _ _ found₀ =>
          have other : cd ≠ cd₀ := fun same => by simp [same, found₀] at before
          simp [other, before] at found
      | displaced => simp [before] at found
      | arrived cd₀ =>
          rw [Table.get_set] at found
          split at found
          · cases found
            rfl
          · simp [before] at found
      | failed => simp [before] at found

section Draining

variable {may : Cd → Prop} {P : Tracking → Prop} (follows : ∀ t t', Drains may t t' → P t → P t')

include follows

/-- A routed reply is parked, waits for its number or is turned away: the cases of `route`. -/
theorem route_drains {cd : Cd} (allowed : may cd) (outcome : AtmiResult Unit) (buf : ParkedBuf)
    (s : AsyncAtmiCtx) (holds : P s.toTracking) : P (s.route cd outcome buf).toTracking := by
  unfold route
  cases found : s.slots.get cd with
  | none =>
      have moved := follows _ _ (.arrived s.toTracking cd outcome buf found allowed) holds
      simpa [record, found, isReady] using moved
  | some slot =>
      cases slot with
      | waiting generation waker claim =>
          have moved := follows _ _
            (.answered s.toTracking cd generation waker claim outcome buf found allowed) holds
          simpa [record, found, isReady, Slot.isReady] using moved
      | ready =>
          have moved := follows _ _ (.displaced s.toTracking cd _ found rfl allowed) holds
          simpa [record, found, isReady, Slot.isReady] using moved

/-- A settled reply is routed, fails the waits, or says that there is none. -/
theorem settle_drains (reply : NativeReply) (allowed : 0 < reply.cd → may reply.cd)
    (buf : ParkedBuf) (s : AsyncAtmiCtx) (holds : P s.toTracking) : P (s.settle reply buf).2.toTracking := by
  have failing : ∀ err (s' : AsyncAtmiCtx), s'.toTracking = s.toTracking →
      P (s'.failAllWaiting err).toTracking :=
    fun err s' same => by
      have moved := follows _ _ (.failed s'.toTracking err) (same ▸ holds)
      simpa [failAllWaiting] using moved
  unfold settle
  split
  · split
    · simpa using holds
    · split
      · rename_i positive
        exact route_drains follows (allowed positive) _ _ _ holds
      · exact failing _ _ (by simp)
  · split
    · rename_i positive
      exact route_drains follows (allowed positive) _ _ _ holds
    · simpa using holds

/-- A round is a scratch buffer, a native call and what is settled of it. -/
theorem round_drains (reply : NativeReply) (allowed : 0 < reply.cd → may reply.cd)
    (s : AsyncAtmiCtx) (holds : P s.toTracking) : P (s.drainRound reply).2.toTracking := by
  have scratch := takeScratch_tracking reply.alloc s
  unfold drainRound
  rcases taken : s.takeScratch reply.alloc with ⟨err | buffer, s'⟩ <;> rw [taken] at scratch
  · have moved := follows _ _ (.failed s'.toTracking err) (scratch ▸ holds)
    simpa [failAllWaiting] using moved
  · refine settle_drains follows reply allowed _ _ ?_
    simp only [observe, tpgetrply_tracking]
    exact scratch ▸ holds

/-- **What the moves of a drain keep, a drain keeps.** -/
theorem quiet_drains : Closed (Quiet may) fun s => P s.toTracking := by
  refine Closed.quiet (P := fun s => P s.toTracking) fun {s s'} moved holds => ?_
  cases moved with
  | round reply allowed => exact round_drains follows reply allowed s holds
  | draining b => exact holds
  | wakeAny => exact holds

end Draining

/-- `P` follows every change of the tracking. -/
def Follows (P : Tracking → Prop) : Prop := ∀ t t', Tracks t t' → P t → P t'

section Following

variable {P : Tracking → Prop} (follows : Follows P)

include follows

/-- A release, as a move of the tracking. -/
theorem release_follows (s : AsyncAtmiCtx) (cause : Cause) (cd : Cd) (closing : cause ≠ .abandoned)
    (holds : P s.toTracking) : P (releaseSlot cause cd s).toTracking := by
  unfold releaseSlot deregister
  cases found : s.slots.get cd with
  | none =>
      have moved := follows _ _ (.forgot s.toTracking cd found) holds
      simpa [forgetDeadline, found] using moved
  | some slot =>
      have moved := follows _ _ (.released s.toTracking cause cd slot found closing) holds
      simpa [forgetDeadline, found, record] using moved

/-- A claim, as a move of the tracking. -/
theorem claim_follows (s : AsyncAtmiCtx) (cd : Cd) (guard : ReplyClaimGuard) (s' : AsyncAtmiCtx)
    (claimed : s.claim cd = (.ok guard, s')) (holds : P s.toTracking) : P s'.toTracking := by
  obtain ⟨untracked, rfl, rfl⟩ | ⟨slot, found, unclaimed, rfl, rfl⟩ := claim_cases claimed
  · exact follows _ _ (.claimedNew s.toTracking cd untracked) holds
  · exact follows _ _ (.claimedSlot s.toTracking cd slot found unclaimed) holds

/-- A claim let go; on a parked reply it lets the next `TPGETANY` have it. -/
theorem dropClaim_follows (s : AsyncAtmiCtx) (guard : ReplyClaimGuard)
    (known : .claimed guard ∈ s.log) (holds : P s.toTracking) : P (s.dropClaim guard).toTracking := by
  unfold dropClaim
  cases found : s.slots.get guard.cd with
  | none => exact holds
  | some slot =>
      simp only
      split
      · rename_i held
        cases slot with
        | ready =>
            exact follows _ _ (.unclaimed s.toTracking guard.cd _ _ found
              ⟨rfl, report_withClaim none _, rfl⟩) holds
        | waiting generation waker claim =>
            simp only
            split
            · rename_i created
              exact follows _ _ (.abandoned s.toTracking guard _ known created found rfl held) holds
            · exact follows _ _ (.unclaimed s.toTracking guard.cd _ _ found ⟨rfl, rfl, rfl⟩) holds
      · exact holds

/-- A waker parked in the slot that is waited for. -/
theorem park_follows (s : AsyncAtmiCtx) (target : Target) (own : Own) (waker : Waker)
    (holds : P s.toTracking) : P (s.parkWaker target own waker).toTracking := by
  obtain ⟨cd, generation, existing, claim, rfl, found, parked⟩ | ⟨id, entry, rfl, found, parked⟩ |
    ⟨parked, -, -⟩ := parkWaker_cases target own waker s <;> rw [parked]
  · exact follows _ _ (.parked s.toTracking cd generation existing waker claim own found) holds
  · exact holds
  · exact holds

/-- A collection removes the slot, whatever becomes of its buffer. -/
theorem collect_follows (s : AsyncAtmiCtx) (target : Target) (own : Own) (id : BufId) (flags : Flags)
    (choice cd : Cd) (result : AtmiResult Unit) (s' : AsyncAtmiCtx) (holds : P s.toTracking)
    (collected : takeReady target own id flags choice s = (some (cd, result), s')) :
    P (s'.forgetDeadline cd).toTracking := by
  obtain ⟨none, _⟩ | ⟨cd', generation, origin, outcome, buf, claim, found, _, taken⟩ :=
    takeReady_cases target own id flags choice s
  · rw [none] at collected
    cases collected
  · rw [taken] at collected
    cases collected
    have moved := follows _ _
      (.collected s.toTracking own cd _ (s.refusal buf id flags).isSome found rfl) holds
    have handed := handOver_tracking outcome buf id flags
      (record (.collected own cd (.ready generation origin outcome buf claim)
        (s.refusal buf id flags).isSome) { s with slots := s.slots.del cd })
    simp only [forgetDeadline] at moved ⊢
    rw [handed]
    exact moved

end Following

theorem log_follows (e : Event) : Follows fun t => e ∈ t.log := by
  intro t t' moved member
  cases moved with
  | drained _ moved => exact moved.log_mono member
  | _ => simp [member]

end Endurox.Async
