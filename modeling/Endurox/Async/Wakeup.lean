/-
# Async.Wakeup -- no suspended future is forgotten

A suspended future is `Fine` when the waker of its last poll is stored where its
next event takes it and there is nothing to collect, or has been woken since.
`Spares` says what an operation made for somebody else may do to a fine future:
leave its storage alone, or take its waker and wake it.  `wakeup_safe` collects
when every operation is of that kind.
-/
import Endurox.Async.Routing

namespace Endurox.Async

open Endurox.Theory AsyncAtmiCtx

set_option autoImplicit false

/-! ## What leaves the wakers alone -/

@[simp] theorem stash_waking (buf : ParkedBuf) (s : AsyncAtmiCtx) :
    (s.stash buf).toWaking = s.toWaking := by
  unfold stash
  split
  · rfl
  · split <;> rfl

@[simp] theorem freeBuf_waking (buf : ParkedBuf) (s : AsyncAtmiCtx) :
    (s.freeBuf buf).toWaking = s.toWaking := by
  unfold freeBuf
  split <;> rfl

@[simp] theorem handOver_waking (outcome : AtmiResult Unit) (buf : ParkedBuf) (id : BufId)
    (flags : Flags) (s : AsyncAtmiCtx) :
    (handOver outcome buf id flags s).2.toWaking = s.toWaking := by
  unfold handOver
  split
  · rfl
  · split <;> simp

@[simp] theorem takeScratch_waking (alloc : AtmiResult (Option TpTypeInfo)) (s : AsyncAtmiCtx) :
    (s.takeScratch alloc).2.toWaking = s.toWaking := by
  unfold takeScratch tpalloc
  cases s.scratch with
  | some buf => rfl
  | none => cases alloc <;> rfl

@[simp] theorem tpgetrply_waking (reply : NativeReply) (buf : ParkedBuf) (s : AsyncAtmiCtx) :
    (s.tpgetrply reply buf).2.toWaking = s.toWaking := by
  unfold tpgetrply
  cases reply.buffer <;> simp [consumeNext]

@[simp] theorem releaseSlot_waking (cause : Cause) (cd : Cd) (s : AsyncAtmiCtx) :
    (releaseSlot cause cd s).toWaking = s.toWaking := by
  unfold releaseSlot deregister
  cases found : s.slots.get cd <;> simp [forgetDeadline, found, record]

@[simp] theorem allocData_waking (id : BufId) (info : Option TpTypeInfo) (s : AsyncAtmiCtx) :
    (s.allocData id info).toWaking = s.toWaking := by
  unfold allocData
  split <;> rfl

@[simp] theorem freeData_waking (id : BufId) (s : AsyncAtmiCtx) :
    (s.freeData id).toWaking = s.toWaking := by
  unfold freeData
  split <;> simp

/-! ## Fine futures -/

/-- The future holds what it waits on: its slot, or its registration. -/
def Holds (w : Wait) (s : AsyncAtmiCtx) : Prop :=
  w.Shaped ∧ match w.target with
  | .one cd => ∃ slot, s.slots.get cd = some slot ∧ slot.heldBy w.own
  | .any id => ∃ entry, s.anyWaiters.get id = some entry

/-- The waker of the last poll is where the target's next event takes it from. -/
def Stored (w : Wait) (s : AsyncAtmiCtx) : Prop :=
  match w.target with
  | .one cd => ∃ slot, s.slots.get cd = some slot ∧ slotWaker slot = some w.waker
  | .any id => ∃ entry, s.anyWaiters.get id = some entry ∧ entry.waker = some w.waker

/-- The failures reported since the future was last polled. -/
def AsyncAtmiCtx.Wait.unseen (w : Wait) (s : AsyncAtmiCtx) : List Failure :=
  s.failures.take (s.failures.length - w.seen)

/-- The registration holds the error of the last failure reported. -/
def Told (id : Nat) (s : AsyncAtmiCtx) : Prop :=
  ∃ entry last, s.anyWaiters.get id = some entry ∧ s.failures.head? = some last ∧
    entry.error = some last.err

/-- The failure is where the future finds it: in its slot, or in its registration if no later one
has taken its place there. -/
def Due (w : Wait) (f : Failure) (s : AsyncAtmiCtx) : Prop :=
  match w.target with
  | .one cd => ∃ generation origin claim,
      s.slots.get cd = some (.ready generation origin (.error f.err) .EMPTY claim)
  | .any id => Told id s

/-- Its last waker is stored and there is nothing to collect, or it has been woken since. -/
def Wakeful (w : Wait) (s : AsyncAtmiCtx) : Prop :=
  Stored w s ∧ s.isTargetReady w.target = false ∨ w.waker ∈ s.woken.drop w.mark

structure Fine (w : Wait) (s : AsyncAtmiCtx) : Prop where
  holds : Holds w s
  mark : w.mark ≤ s.woken.length
  wakeful : Wakeful w s
  seen : w.seen ≤ s.failures.length
  due : ∀ f ∈ w.unseen s, f.parkedFor w.target = false → Due w f s

/-- What an operation leaves due stays due, and so does what it reports. -/
def Hears (w : Wait) (s s' : AsyncAtmiCtx) : Prop :=
  ∃ more, s'.failures = more ++ s.failures ∧ (Holds w s → w.seen ≤ s.failures.length →
    (∀ f, Due w f s → Due w f s') ∧ ∀ f ∈ more, f.parkedFor w.target = false → Due w f s')

theorem unseen_append {w : Wait} {s s' : AsyncAtmiCtx} {more : List Failure}
    (seen : w.seen ≤ s.failures.length) (failures : s'.failures = more ++ s.failures) :
    w.unseen s' = more ++ w.unseen s := by
  have count : (more ++ s.failures).length - w.seen = more.length + (s.failures.length - w.seen) := by
    rw [List.length_append]
    omega
  rw [Wait.unseen, Wait.unseen, failures, count, List.take_length_add_append]

/-- An operation that reports no failure, leaves ready slots alone, and errors registered. -/
theorem hears_kept {w : Wait} {s s' : AsyncAtmiCtx} (failures : s'.failures = s.failures)
    (slot : ∀ cd slot, w.target = .one cd → Holds w s → s.slots.get cd = some slot →
      slot.isReady = true → s'.slots.get cd = some slot)
    (entry : ∀ id entry, w.target = .any id → Holds w s → s.anyWaiters.get id = some entry →
      ∃ entry', s'.anyWaiters.get id = some entry' ∧ entry'.error = entry.error) : Hears w s s' := by
  refine ⟨[], failures, fun holds _ => ⟨fun f due => ?_, by simp⟩⟩
  unfold Due at due ⊢
  cases target : w.target with
  | one cd =>
      rw [target] at due
      obtain ⟨generation, origin, claim, found⟩ := due
      exact ⟨generation, origin, claim, slot cd _ target holds found rfl⟩
  | any id =>
      rw [target] at due
      obtain ⟨entry₀, last, found, head, error⟩ := due
      obtain ⟨entry', found', same⟩ := entry id entry₀ target holds found
      exact ⟨entry', last, found', by rw [failures]; exact head, same.trans error⟩

/-- What an operation made for somebody else does to what `w` waits on. -/
structure Spares (w : Wait) (s s' : AsyncAtmiCtx) : Prop where
  hears : Hears w s s'
  holds : Holds w s → Holds w s'
  woken : ∃ more, s'.woken = s.woken ++ more ∧
    (Holds w s → Stored w s → s.isTargetReady w.target = false →
      Stored w s' ∧ s'.isTargetReady w.target = false ∨ w.waker ∈ more)

theorem Spares.fine {w : Wait} {s s' : AsyncAtmiCtx} (spares : Spares w s s') (fine : Fine w s) :
    Fine w s' := by
  obtain ⟨more, woken, keeps⟩ := spares.woken
  have mark := fine.mark
  have dropped : s'.woken.drop w.mark = s.woken.drop w.mark ++ more := by
    rw [woken, List.drop_append_of_le_length mark]
  obtain ⟨new, failures, hears⟩ := spares.hears
  have seen := fine.seen
  obtain ⟨still, told⟩ := hears fine.holds seen
  refine ⟨spares.holds fine.holds, by rw [woken, List.length_append]; omega, ?_,
    by rw [failures, List.length_append]; omega, fun f unseen parked => ?_⟩
  · rcases fine.wakeful with ⟨stored, waits⟩ | already
    · rcases keeps fine.holds stored waits with still | now
      · exact .inl still
      · exact .inr (by rw [dropped]; exact List.mem_append_right _ now)
    · exact .inr (by rw [dropped]; exact List.mem_append_left _ already)
  · rw [unseen_append seen failures] at unseen
    rcases List.mem_append.1 unseen with reported | before
    · exact told f reported parked
    · exact still f (fine.due f before parked)

theorem Hears.trans {w : Wait} {s s' s'' : AsyncAtmiCtx} (first : Hears w s s')
    (second : Hears w s' s'') (holds : Holds w s → Holds w s') : Hears w s s'' := by
  obtain ⟨more, failures, hears⟩ := first
  obtain ⟨more', failures', hears'⟩ := second
  refine ⟨more' ++ more, by rw [failures', failures, List.append_assoc], fun mine seen => ?_⟩
  obtain ⟨still, told⟩ := hears mine seen
  obtain ⟨still', told'⟩ := hears' (holds mine) (by rw [failures, List.length_append]; omega)
  refine ⟨fun f due => still' f (still f due), fun f reported parked => ?_⟩
  rcases List.mem_append.1 reported with later | earlier
  · exact told' f later parked
  · exact still' f (told f earlier parked)

theorem Spares.trans {w : Wait} {s s' s'' : AsyncAtmiCtx} (first : Spares w s s')
    (second : Spares w s' s'') : Spares w s s'' := by
  obtain ⟨more, woken, keeps⟩ := first.woken
  obtain ⟨more', woken', keeps'⟩ := second.woken
  refine ⟨first.hears.trans second.hears first.holds, fun holds => second.holds (first.holds holds),
    more ++ more', by simp [woken', woken], fun holds stored waits => ?_⟩
  rcases keeps holds stored waits with still | now
  · exact (keeps' (first.holds holds) still.1 still.2).imp id (List.mem_append_right _)
  · exact .inr (List.mem_append_left _ now)

/-- An operation that wakes nobody and touches neither the slot, nor the registration, nor
adds a reply for `TPGETANY`. -/
theorem Spares.ofKept {w : Wait} {s s' : AsyncAtmiCtx}
    (waked : s'.woken = s.woken ∧ s'.failures = s.failures)
    (slot : ∀ cd, w.target = .one cd → Holds w s → s'.slots.get cd = s.slots.get cd)
    (entry : ∀ id, w.target = .any id → Holds w s → s'.anyWaiters.get id = s.anyWaiters.get id)
    (replies : ∀ id, w.target = .any id → NothingReady (.any id) s → NothingReady (.any id) s') :
    Spares w s s' := by
  refine ⟨hears_kept waked.2 (fun cd slot₀ target holds found _ => ?_) (fun id entry₀ target holds found =>
    ⟨entry₀, ?_, rfl⟩), fun holds => ⟨holds.1, ?_⟩, [], by simp [waked.1],
    fun holds stored waits => .inl ?_⟩
  · rw [slot cd target holds, found]
  · rw [entry id target holds, found]
  · have held := holds.2
    cases target : w.target with
    | one cd => simpa [slot cd target holds, target] using held
    | any id => simpa [entry id target holds, target] using held
  · unfold Stored at stored ⊢
    cases target : w.target with
    | one cd =>
        have same := slot cd target holds
        simp only [target] at stored waits
        exact ⟨by simpa [same] using stored, by simpa [isTargetReady, isReady, same] using waits⟩
    | any id =>
        have same := entry id target holds
        simp only [target] at stored waits
        obtain ⟨nothing, quiet⟩ := isTargetReady_false.1 waits
        refine ⟨by simpa [same] using stored, isTargetReady_false.2 ⟨replies id target nothing, ?_⟩⟩
        rintro _ ⟨⟩
        simpa [hasAnyError, same] using quiet id rfl

/-- Nothing a future waits on was touched. -/
theorem Spares.ofFrame {w : Wait} {s s' : AsyncAtmiCtx} (slots : s'.slots = s.slots)
    (waking : s'.toWaking = s.toWaking) : Spares w s s' :=
  .ofKept ⟨by rw [waking], by rw [waking]⟩ (fun _ _ _ => by rw [slots]) (fun _ _ _ => by rw [waking])
    fun _ _ nothing => by simpa [NothingReady, slots] using nothing

/-- An operation that wakes every registered waiter, and the owner of a slot it changes. -/
theorem Spares.ofWake {w : Wait} {s s' : AsyncAtmiCtx} {more : List Waker} (hears : Hears w s s')
    (woken : s'.woken = s.woken ++ more)
    (slot : ∀ cd slot, w.target = .one cd → Holds w s → s.slots.get cd = some slot →
      ∃ slot', s'.slots.get cd = some slot' ∧ (∀ own, slot'.heldBy own ↔ slot.heldBy own) ∧
        (slot' = slot ∨ ∀ waker, slotWaker slot = some waker → waker ∈ more))
    (entry : ∀ id entry, s.anyWaiters.get id = some entry →
      (∃ entry', s'.anyWaiters.get id = some entry') ∧
      ∀ waker, entry.waker = some waker → waker ∈ more) : Spares w s s' := by
  refine ⟨hears, fun holds => ⟨holds.1, ?_⟩, more, woken, fun holds stored waits => ?_⟩
  · have held := holds.2
    cases target : w.target with
    | one cd =>
        obtain ⟨slot₀, found, mine⟩ : ∃ slot, s.slots.get cd = some slot ∧ slot.heldBy w.own := by
          simpa [target] using held
        obtain ⟨slot', found', same, _⟩ := slot cd slot₀ target holds found
        exact ⟨slot', found', (same w.own).2 mine⟩
    | any id =>
        obtain ⟨entry₀, found⟩ : ∃ entry, s.anyWaiters.get id = some entry := by
          simpa [target] using held
        exact (entry id entry₀ found).1
  · unfold Stored at stored ⊢
    cases target : w.target with
    | one cd =>
        simp only [target] at stored waits
        obtain ⟨slot₀, found, mine⟩ := stored
        obtain ⟨slot', found', _, same | awake⟩ := slot cd slot₀ target holds found
        · subst same
          refine .inl ⟨⟨slot', found', mine⟩, ?_⟩
          simpa [isTargetReady, isReady, found, found'] using waits
        · exact .inr (awake w.waker mine)
    | any id =>
        simp only [target] at stored
        obtain ⟨entry₀, found, mine⟩ := stored
        exact .inr ((entry id entry₀ found).2 w.waker mine)

/-! ## Drains spare everybody -/

theorem mem_anyWakers {s : AsyncAtmiCtx} {id : Nat} {entry : AnyWaiter} {waker : Waker}
    (found : s.anyWaiters.get id = some entry) (stored : entry.waker = some waker) :
    waker ∈ s.anyWaiters.vals.filterMap AnyWaiter.waker :=
  List.mem_filterMap.2 ⟨entry, Table.mem_vals.2 ⟨id, found⟩, stored⟩

/-- Waking the registered waiters after waking `wakers` spares a future whose slot was left
alone or whose waker is among them. -/
theorem wakeAny_spares {w : Wait} {s s' : AsyncAtmiCtx} {wakers : List Waker}
    (hears : Hears w s s'.wakeAnyWaiters) (woken : s'.woken = s.woken ++ wakers)
    (slot : ∀ cd slot, w.target = .one cd → Holds w s → s.slots.get cd = some slot →
      ∃ slot', s'.slots.get cd = some slot' ∧ (∀ own, slot'.heldBy own ↔ slot.heldBy own) ∧
        (slot' = slot ∨ ∀ waker, slotWaker slot = some waker → waker ∈ wakers))
    (entry : ∀ id entry, s.anyWaiters.get id = some entry →
      ∃ entry', s'.anyWaiters.get id = some entry' ∧ entry'.waker = entry.waker) :
    Spares w s s'.wakeAnyWaiters := by
  have awake : s'.wakeAnyWaiters.woken =
      s.woken ++ (wakers ++ s'.anyWaiters.vals.filterMap AnyWaiter.waker) := by
    simp [wakeAnyWaiters, wake, woken]
  refine Spares.ofWake hears awake (fun cd slot₀ target holds found => ?_) fun id entry₀ found => ?_
  · obtain ⟨slot', found', same, kept⟩ := slot cd slot₀ target holds found
    exact ⟨slot', found', same, kept.imp id fun woke waker mine =>
      List.mem_append_left _ (woke waker mine)⟩
  · obtain ⟨entry', found', same⟩ := entry id entry₀ found
    refine ⟨⟨{ entry' with waker := none }, by simp [wakeAnyWaiters, wake, found']⟩, fun waker mine => ?_⟩
    exact List.mem_append_right _ (mem_anyWakers found' (same.trans mine))

/-- Waking the registered waiters takes no error from them. -/
theorem hears_wakeAny {w : Wait} {s s' : AsyncAtmiCtx} (waiters : s'.anyWaiters = s.anyWaiters)
    (failures : s'.failures = s.failures)
    (slot : ∀ cd slot, w.target = .one cd → Holds w s → s.slots.get cd = some slot →
      slot.isReady = true → s'.slots.get cd = some slot) : Hears w s s'.wakeAnyWaiters :=
  hears_kept failures slot fun id entry _ _ found =>
    ⟨{ entry with waker := none }, by simp [wakeAnyWaiters, wake, waiters, found], rfl⟩

theorem route_spares (w : Wait) (cd : Cd) (outcome : AtmiResult Unit) (buf : ParkedBuf)
    (s : AsyncAtmiCtx) : Spares w s (s.route cd outcome buf) := by
  unfold route
  cases found : s.slots.get cd with
  | none =>
      simp only [record, found]
      have other : ∀ {cd' slot₀}, s.slots.get cd' = some slot₀ → cd' ≠ cd :=
        fun found₀ same => by simp [same, found] at found₀
      refine wakeAny_spares (hears_wakeAny rfl rfl fun cd' slot₀ _ _ found₀ _ => ?_)
        (List.append_nil _).symm (fun cd' slot₀ _ _ found₀ => ?_)
        fun id entry₀ found₀ => ⟨entry₀, found₀, rfl⟩
      · simp [other found₀, found₀]
      · exact ⟨slot₀, by simp [other found₀, found₀], fun _ => Iff.rfl, .inl rfl⟩
  | some slot =>
      cases slot with
      | ready => exact .ofFrame (by simp [record, found]) (by simp [record, found])
      | waiting generation waker claim =>
          simp only [record, found]
          refine wakeAny_spares (hears_wakeAny rfl rfl fun cd' slot₀ _ _ found₀ ready => ?_) rfl
            (fun cd' slot₀ _ _ found₀ => ?_) fun id entry₀ found₀ => ⟨entry₀, found₀, rfl⟩
          · have other : cd' ≠ cd := fun same => by
              cases (same ▸ found).symm.trans found₀
              cases ready
            simp [wake, other, found₀]
          · by_cases same : cd' = cd
            · subst same
              cases found.symm.trans found₀
              refine ⟨_, (Table.get_set ..).trans (if_pos rfl), fun own => ?_, .inr ?_⟩
              · exact heldBy_congr rfl rfl own
              · simp [slotWaker]
            · exact ⟨slot₀, by simp [wake, same, found₀], fun _ => Iff.rfl, .inl rfl⟩

/-- **A failure reaches every future that has no outcome parked.** -/
theorem failAllWaiting_hears (w : Wait) (err : AtmiError) (s : AsyncAtmiCtx) :
    Hears w s (s.failAllWaiting err) := by
  refine ⟨[s.failureOf err], rfl, fun holds seen => ?_⟩
  unfold Due
  cases target : w.target with
  | one cd =>
      obtain ⟨slot, found, _⟩ : ∃ slot, s.slots.get cd = some slot ∧ slot.heldBy w.own := by
        simpa [target] using holds.2
      have failed : (s.failAllWaiting err).slots.get cd = some (failWaiting err slot) := by
        simp [failAllWaiting, wakeAnyWaiters, wake, found]
      refine ⟨fun f due => ?_, fun f reported parked => ?_⟩
      · obtain ⟨generation, origin, claim, there⟩ := due
        cases found.symm.trans there
        exact ⟨generation, origin, claim, failed⟩
      · cases List.mem_singleton.1 reported
        cases slot with
        | waiting generation waker claim => exact ⟨generation, _, claim, failed⟩
        | ready =>
            have member : cd ∈ s.slots.keys := Table.mem_keys.2 (by simp [found])
            simp [Failure.parkedFor, failureOf, member, isReady, found, Slot.isReady] at parked
  | any id =>
      obtain ⟨entry, found⟩ : ∃ entry, s.anyWaiters.get id = some entry := by
        simpa [target] using holds.2
      have told : Told id (s.failAllWaiting err) :=
        ⟨{ entry with error := some err, waker := none }, s.failureOf err,
          by simp [failAllWaiting, wakeAnyWaiters, wake, found], rfl, rfl⟩
      exact ⟨fun _ _ => told, fun _ _ _ => told⟩

theorem failAllWaiting_spares (w : Wait) (err : AtmiError) (s : AsyncAtmiCtx) :
    Spares w s (s.failAllWaiting err) := by
  refine wakeAny_spares (failAllWaiting_hears w err s) rfl (fun cd slot _ _ found => ?_)
    fun id entry found => ⟨{ entry with error := some err }, by simp [wake, found], rfl⟩
  refine ⟨failWaiting err slot, by simp [wake, found], fun own => ?_, .inr fun waker mine => ?_⟩
  · exact heldBy_congr (by simp) (by simp) own
  · exact List.mem_filterMap.2 ⟨slot, Table.mem_vals.2 ⟨cd, found⟩, mine⟩

theorem settle_spares (w : Wait) (reply : NativeReply) (buf : ParkedBuf) (s : AsyncAtmiCtx) :
    Spares w s (s.settle reply buf).2 := by
  have stashed : ∀ s' : AsyncAtmiCtx, s'.toTracking = s.toTracking → s'.toWaking = s.toWaking →
      Spares w s s' := fun s' tracking waking => .ofFrame (by rw [tracking]) waking
  have taken : Spares w s { s with lent := none } := stashed _ rfl rfl
  unfold settle
  split
  · split
    · exact stashed _ (by simp) (by simp)
    · split
      · exact taken.trans (route_spares w reply.cd reply.outcome buf _)
      · refine Spares.trans (stashed _ ?_ ?_) (failAllWaiting_spares w _ _) <;> simp
  · split
    · exact taken.trans (route_spares w reply.cd reply.outcome buf _)
    · exact stashed _ (by simp) (by simp)

theorem round_spares (w : Wait) (reply : NativeReply) (s : AsyncAtmiCtx) :
    Spares w s (s.drainRound reply).2 := by
  have tracking := takeScratch_tracking reply.alloc s
  have waking := takeScratch_waking reply.alloc s
  unfold drainRound
  rcases taken : s.takeScratch reply.alloc with ⟨err | buffer, s'⟩ <;> rw [taken] at tracking waking
  · exact Spares.trans (.ofFrame (congrArg Tracking.slots tracking) waking)
      (failAllWaiting_spares w err s')
  · refine Spares.trans (.ofFrame ?_ ?_) (settle_spares w reply _ _)
    · simpa only [observe, tpgetrply_tracking] using congrArg Tracking.slots tracking
    · simpa only [observe, tpgetrply_waking] using waking

theorem takeAnyError_spares {w : Wait} {id : Nat} {s : AsyncAtmiCtx} (other : w.target ≠ .any id) :
    Spares w s (s.takeAnyError id).2 := by
  unfold takeAnyError
  split
  · refine .ofKept ⟨rfl, rfl⟩ (fun _ _ _ => rfl) (fun id' target _ => ?_) fun _ _ nothing => nothing
    have apart : id' ≠ id := fun same => other (same ▸ target)
    simp [apart]
  · exact .ofFrame rfl rfl

/-- **Whatever a drain does, it forgets nobody.** -/
theorem quiet_spares (w : Wait) {may : Cd → Prop} {s s' : AsyncAtmiCtx} (moved : Quiet may s s') :
    Spares w s s' := by
  refine Closed.quiet (P := Spares w s) (fun {t t'} moved spares => spares.trans ?_) moved (.ofFrame rfl rfl)
  cases moved with
  | round reply _ => exact round_spares w reply t
  | draining b => exact .ofFrame rfl rfl
  | wakeAny =>
      exact wakeAny_spares (hears_wakeAny rfl rfl fun _ _ _ _ found _ => found)
        (List.append_nil _).symm (fun _ slot _ _ found => ⟨slot, found, fun _ => Iff.rfl, .inl rfl⟩)
        fun _ entry found => ⟨entry, found, rfl⟩

/-- A collection leaves the wakers alone. -/
theorem takeReady_waking {target : Target} {own : Own} {id : BufId} {flags : Flags}
    {choice cd : Cd} {result : AtmiResult Unit} {s s' : AsyncAtmiCtx}
    (taken : takeReady target own id flags choice s = (some (cd, result), s')) :
    s'.toWaking = s.toWaking := by
  obtain ⟨none, _⟩ | ⟨cd', generation, origin, outcome, buf, claim, found, takes, ready⟩ :=
    takeReady_cases target own id flags choice s
  · rw [none] at taken
    cases taken
  · rw [ready] at taken
    cases taken
    exact handOver_waking ..

/-! ## What other futures do -/

theorem shaped_exclusive {w : Wait} {cd : Cd} (shaped : w.Shaped) (target : w.target = .one cd) :
    w.own.Exclusive := by
  unfold Wait.Shaped at shaped
  split at shaped
  · obtain ⟨_, _, _, own⟩ := shaped
    simp [own, Own.Exclusive]
  · simp [shaped.2, Own.Exclusive]
  · cases target.symm.trans shaped.1

theorem shaped_any {w : Wait} {id : Nat} (shaped : w.Shaped) :
    w.target = .any id ↔ w.own = .any id := by
  unfold Wait.Shaped at shaped
  split at shaped
  · obtain ⟨target, _, _, own⟩ := shaped
    simp [target, own]
  · simp [shaped.1, shaped.2]
  · simp [shaped.1, shaped.2]

/-- A slot carries one claim. -/
theorem heldBy_unique {slot : Slot} {own own' : Own} (held : slot.heldBy own)
    (held' : slot.heldBy own') (exclusive : own.Exclusive) : own' = own := by
  cases own with
  | any => cases exclusive
  | call g =>
      cases own' with
      | call => simp_all [Slot.heldBy]
      | waiter => cases held.1.symm.trans held'
      | any => cases held.1.symm.trans held'
  | waiter id =>
      cases own' with
      | call => cases Eq.trans (Eq.symm held) held'.1
      | waiter => simpa [eq_comm] using Eq.trans (Eq.symm held) held'
      | any => cases Eq.trans (Eq.symm held) held'

/-- The slot another claim is on is not the one `w` waits for. -/
theorem Holds.elsewhere {w : Wait} {s : AsyncAtmiCtx} {cd : Cd} {slot : Slot} {own : Own}
    (holds : Holds w s) (found : s.slots.get cd = some slot) (held : slot.heldBy own)
    (other : w.own ≠ own) : w.target ≠ .one cd := by
  intro target
  obtain ⟨shaped, slot', found', mine⟩ : w.Shaped ∧ ∃ slot, s.slots.get cd = some slot ∧
      slot.heldBy w.own := by simpa [Holds, target] using holds
  cases found.symm.trans found'
  exact other (heldBy_unique mine held (shaped_exclusive shaped target)).symm

theorem Holds.claimed {w : Wait} {s : AsyncAtmiCtx} {cd : Cd} {slot : Slot} (holds : Holds w s)
    (found : s.slots.get cd = some slot) (unclaimed : slot.claim = none) : w.target ≠ .one cd := by
  intro target
  have exclusive := shaped_exclusive holds.1 target
  refine holds.elsewhere found (show slot.heldBy (.any 0) from unclaimed) (fun same => ?_) target
  rw [same] at exclusive
  exact exclusive

/-- Two claims, two targets. -/
theorem Holds.targets {w w' : Wait} {s : AsyncAtmiCtx} (holds : Holds w s) (holds' : Holds w' s)
    (apart : w'.own ≠ w.own) : w'.target ≠ w.target := by
  cases target : w.target with
  | one cd =>
      obtain ⟨slot, found, held⟩ : ∃ slot, s.slots.get cd = some slot ∧ slot.heldBy w.own := by
        simpa [target] using holds.2
      exact holds'.elsewhere found held apart
  | any id =>
      intro target'
      exact apart (((shaped_any holds'.1).1 target').trans ((shaped_any holds.1).1 target).symm)

/-- A claim not given out yet is nobody's. -/
theorem Holds.old {w : Wait} {s : AsyncAtmiCtx} (holds : Holds w s) (given : Given s.toTracking) :
    w.own ≠ .call s.nextGeneration ∧ w.own ≠ .waiter (s.nextClaimId + 1) := by
  cases target : w.target with
  | any id =>
      have own := (shaped_any holds.1).1 target
      simp [own]
  | one cd =>
      obtain ⟨slot, found, held⟩ : ∃ slot, s.slots.get cd = some slot ∧ slot.heldBy w.own := by
        simpa [target] using holds.2
      refine ⟨fun own => ?_, fun own => ?_⟩
      · rw [own] at held
        exact absurd held.2 (Nat.ne_of_lt (given.tracked cd slot found))
      · rw [own] at held
        exact absurd (given.held cd slot _ found held) (Nat.not_succ_le_self _)

theorem Holds.tracked {w : Wait} {s : AsyncAtmiCtx} {cd : Cd} (holds : Holds w s)
    (untracked : s.slots.get cd = none) : w.target ≠ .one cd := by
  intro target
  simp [Holds, target, untracked] at holds

/-- Removing a slot `w` does not wait for. -/
theorem spares_del {w : Wait} {s s' : AsyncAtmiCtx} {cd : Cd}
    (other : Holds w s → w.target ≠ .one cd) (slots : s'.slots = s.slots.del cd)
    (waking : s'.toWaking = s.toWaking) : Spares w s s' := by
  refine .ofKept ⟨by rw [waking], by rw [waking]⟩ (fun cd' target holds => ?_) (fun _ _ _ => by rw [waking])
    fun id _ nothing cd' slot found => ?_
  · have apart : cd' ≠ cd := fun same => other holds (same ▸ target)
    simp [slots, apart]
  · rw [slots, Table.get_del] at found
    split at found
    · cases found
    · exact nothing cd' slot found

/-- Writing a slot `w` does not wait for, and no reply for `TPGETANY`. -/
theorem spares_set {w : Wait} {s s' : AsyncAtmiCtx} {cd : Cd} {slot₀ : Slot}
    (other : Holds w s → w.target ≠ .one cd) (slots : s'.slots = s.slots.set cd slot₀)
    (claimed : slot₀.isUnclaimedReply = false) (waking : s'.toWaking = s.toWaking) :
    Spares w s s' := by
  refine .ofKept ⟨by rw [waking], by rw [waking]⟩ (fun cd' target holds => ?_) (fun _ _ _ => by rw [waking])
    fun id _ nothing cd' slot found => ?_
  · have apart : cd' ≠ cd := fun same => other holds (same ▸ target)
    simp [slots, apart]
  · rw [slots, Table.get_set] at found
    split at found
    · cases found
      exact claimed
    · exact nothing cd' slot found

theorem release_spares {w : Wait} (cause : Cause) {cd : Cd} {s : AsyncAtmiCtx}
    (other : Holds w s → w.target ≠ .one cd) : Spares w s (releaseSlot cause cd s) :=
  spares_del other (releaseSlot_slots cause cd s) (releaseSlot_waking cause cd s)

theorem registered_spares {w : Wait} {cd : Cd} {s : AsyncAtmiCtx} (deadline : Option Instant)
    (claimed : Bool) (free : s.isDescriptorBusy cd = false) :
    Spares w s (registered cd deadline claimed s) :=
  spares_set (fun holds => holds.tracked (by simpa [isDescriptorBusy] using free)) rfl rfl rfl

theorem claim_spares {w : Wait} {s s' : AsyncAtmiCtx} {cd : Cd} {given : ReplyClaimGuard}
    (claimed : s.claim cd = (.ok given, s')) : Spares w s s' := by
  obtain ⟨untracked, _, rfl⟩ | ⟨slot, found, unclaimed, _, rfl⟩ := claim_cases claimed
  · exact spares_set (fun holds => holds.tracked untracked) rfl rfl rfl
  · exact spares_set (fun holds => holds.claimed found unclaimed) rfl (by cases slot <;> rfl) rfl

theorem collected_spares {w : Wait} {s s' : AsyncAtmiCtx} {target : Target} {own : Own} {id : BufId}
    {flags : Flags} {choice cd : Cd} {result : AtmiResult Unit}
    (taken : takeReady target own id flags choice s = (some (cd, result), s'))
    (other : Holds w s → w.target ≠ .one cd) : Spares w s (s'.forgetDeadline cd) := by
  obtain ⟨_, _, _, _, slots⟩ := takeReady_slots taken
  have waking : s'.toWaking = s.toWaking := takeReady_waking taken
  exact spares_del other slots waking

/-- Writing a slot `w` does not wait for, and waking the registered waiters. -/
theorem spares_setWake {w : Wait} {s s' : AsyncAtmiCtx} {cd : Cd} {slot₀ : Slot}
    (other : Holds w s → w.target ≠ .one cd) (slots : s'.slots = s.slots.set cd slot₀)
    (waking : s'.toWaking = s.toWaking) : Spares w s s'.wakeAnyWaiters := by
  have apart : ∀ {cd'}, w.target = .one cd' → Holds w s → cd' ≠ cd :=
    fun target holds same => other holds (same ▸ target)
  refine wakeAny_spares (hears_wakeAny (by rw [waking]) (by rw [waking]) fun cd' slot target holds found _ => ?_)
    (by rw [waking, List.append_nil]) (fun cd' slot target holds found => ?_)
    fun id entry found => ⟨entry, by rw [waking]; exact found, rfl⟩
  · simp [slots, apart target holds, found]
  · exact ⟨slot, by simp [slots, apart target holds, found], fun _ => Iff.rfl, .inl rfl⟩

theorem dropClaim_spares {w : Wait} {s : AsyncAtmiCtx} (guard : ReplyClaimGuard)
    (other : w.own ≠ .waiter guard.id) : Spares w s (s.dropClaim guard) := by
  unfold dropClaim
  cases found : s.slots.get guard.cd with
  | none => exact .ofFrame rfl rfl
  | some slot =>
      simp only
      split
      · rename_i held
        have elsewhere : Holds w s → w.target ≠ .one guard.cd :=
          fun holds => holds.elsewhere found (show slot.heldBy (.waiter guard.id) from held) other
        cases slot with
        | ready => exact spares_setWake elsewhere rfl rfl
        | waiting generation waker claim =>
            simp only
            split
            · exact spares_del elsewhere rfl rfl
            · exact spares_setWake elsewhere rfl rfl
      · exact .ofFrame rfl rfl

theorem parkWaker_spares {w : Wait} {s : AsyncAtmiCtx} {target : Target} {own : Own} (waker : Waker)
    (other : Holds w s → w.target ≠ target) : Spares w s (s.parkWaker target own waker) := by
  obtain ⟨cd, generation, existing, claim, same, found, parked⟩ | ⟨id, entry, same, found, parked⟩ |
    ⟨parked, -, -⟩ := parkWaker_cases target own waker s <;> rw [parked]
  · exact spares_set (fun holds => same ▸ other holds) rfl rfl rfl
  · refine .ofKept ⟨rfl, rfl⟩ (fun _ _ _ => rfl) (fun id' target' holds => ?_) fun _ _ nothing => nothing
    have apart : id' ≠ id := fun equal => other holds (by rw [target', equal, same])
    simp [apart]
  · exact .ofFrame rfl rfl

theorem registerAny_spares {w : Wait} {s : AsyncAtmiCtx}
    (fresh : s.anyWaiters.get s.registerAnyWaiter.1 = none) : Spares w s s.registerAnyWaiter.2 := by
  refine .ofKept ⟨rfl, rfl⟩ (fun _ _ _ => rfl) (fun id target holds => ?_) fun _ _ nothing => nothing
  obtain ⟨entry, found⟩ : ∃ entry, s.anyWaiters.get id = some entry := by
    simpa [Holds, target] using holds.2
  have apart : id ≠ s.registerAnyWaiter.1 := fun same => by
    rw [same, fresh] at found
    cases found
  simpa [registerAnyWaiter] using fun same => absurd same apart

theorem deregisterAny_spares {w : Wait} {s : AsyncAtmiCtx} {id : Nat}
    (other : w.target ≠ .any id) : Spares w s (s.deregisterAnyWaiter id) := by
  refine .ofKept ⟨rfl, rfl⟩ (fun _ _ _ => rfl) (fun id' target _ => ?_) fun _ _ nothing => nothing
  have apart : id' ≠ id := fun same => other (same ▸ target)
  simp [deregisterAnyWaiter, apart]

/-! ## Rules -/

/-- The other suspended futures of `world`: all but the one a label polls or drops. -/
def Others (world : World) (f? : Option Nat) (w : Wait) : Prop :=
  ∃ g op, f? ≠ some g ∧ world.futures.get g = some (.waiting op w)

/-- Everybody else is fine. -/
structure Rest (world : World) (f? : Option Nat) (s : AsyncAtmiCtx) : Prop where
  given : Given s.toTracking
  fine : ∀ w, Others world f? w → Fine w s

/-- A wait that shares its claim with nobody. -/
structure Mine (world : World) (f? : Option Nat) (w : Wait) (s : AsyncAtmiCtx) : Prop where
  rest : Rest world f? s
  known : w.Known s
  shaped : w.Shaped
  apart : ∀ w', Others world f? w' → w'.own ≠ w.own

theorem Rest.spared {world : World} {f? : Option Nat} {s s' : AsyncAtmiCtx}
    (rest : Rest world f? s) (given : Given s'.toTracking)
    (spares : ∀ w, Others world f? w → Spares w s s') : Rest world f? s' :=
  ⟨given, fun w other => (spares w other).fine (rest.fine w other)⟩

theorem given_stable : Stable fun s => Given s.toTracking := tracks_stable given_follows

/-- The slot the wait is for, if there is one, carries its claim. -/
def Kept (w : Wait) (s : AsyncAtmiCtx) : Prop :=
  ∀ cd slot, w.target = .one cd → s.slots.get cd = some slot → slot.heldBy w.own

theorem Mine.spared {world : World} {f? : Option Nat} {w : Wait} {s s' : AsyncAtmiCtx}
    (mine : Mine world f? w s) (moved : Given s'.toTracking ∧ w.Known s')
    (spares : ∀ w', Others world f? w' → Spares w' s s') : Mine world f? w s' :=
  ⟨mine.rest.spared moved.1 spares, moved.2, mine.shaped, mine.apart⟩

/-- The slot `w` waits for, as far as it carries its claim, is nobody else's. -/
theorem Mine.elsewhere {world : World} {f? : Option Nat} {w w' : Wait} {s : AsyncAtmiCtx} {cd : Cd}
    (mine : Mine world f? w s) (other : Others world f? w')
    (held : ∀ slot, s.slots.get cd = some slot → slot.heldBy w.own) : w'.target ≠ .one cd := by
  have holds := (mine.rest.fine w' other).holds
  cases found : s.slots.get cd with
  | none => exact holds.tracked found
  | some slot => exact holds.elsewhere found (held slot found) (mine.apart w' other)

theorem Holds.kept {w : Wait} {s : AsyncAtmiCtx} (holds : Holds w s) : Kept w s := by
  intro cd slot target found
  obtain ⟨slot', found', held⟩ : ∃ slot, s.slots.get cd = some slot ∧ slot.heldBy w.own := by
    simpa [target] using holds.2
  cases found.symm.trans found'
  exact held

theorem Holds.parked {w : Wait} {s : AsyncAtmiCtx} (waker : Waker) (holds : Holds w s) :
    Holds w (s.parkWaker w.target w.own waker) := by
  refine ⟨holds.1, ?_⟩
  have held := holds.2
  cases target : w.target with
  | one cd =>
      obtain ⟨slot, found, mine⟩ : ∃ slot, s.slots.get cd = some slot ∧ slot.heldBy w.own := by
        simpa [target] using held
      refine ⟨slot.parked waker, by simp [parkWaker_slots, found], (heldBy_congr ?_ ?_ w.own).2 mine⟩ <;>
        cases slot <;> rfl
  | any id =>
      obtain ⟨entry, found⟩ : ∃ entry, s.anyWaiters.get id = some entry := by simpa [target] using held
      exact ⟨_, by rw [parkWaker_anyWaiters, found]; rfl⟩

theorem kept_del {w : Wait} {s : AsyncAtmiCtx} {slots : Table Cd Slot} {cd : Cd}
    (same : s.slots = slots.del cd) (mine : ∀ cd', w.target = .one cd' → cd' = cd) : Kept w s := by
  intro cd' slot target found
  simp [same, mine cd' target] at found

theorem mine_rules (world : World) (f? : Option Nat) (w : Wait) :
    WaitRules (fun _ => True) w (Mine world f? w) (Holds w) (Kept w) where
  quiet := fun moved mine => mine.spared
    ((given_stable.and (known_stable w)).quiet moved ⟨mine.rest.given, mine.known⟩)
    fun w' _ => quiet_spares w' moved
  permit := fun moved _ holds => (quiet_spares w moved).holds holds
  parked s waker mine holds := by
    refine ⟨mine.spared ((given_stable.and (known_stable w)).parked s _ _ waker
      ⟨mine.rest.given, mine.known⟩) fun w' other => ?_, holds.parked waker⟩
    exact parkWaker_spares waker fun holds' => holds.targets holds' (mine.apart w' other)
  collected s choice cd result s' mine holds taken := by
    obtain ⟨slot, found, _, takes, slots⟩ := takeReady_slots taken
    refine ⟨mine.spared ((given_stable.and (known_stable w)).collected s _ _ _ _ choice cd result s'
      ⟨mine.rest.given, mine.known⟩ taken) fun w' other => collected_spares taken fun holds' => ?_,
      kept_del slots fun cd' same => by simpa [Target.takes, same, eq_comm] using takes⟩
    cases target : w.target with
    | one cd' =>
        have same : cd = cd' := by simpa [Target.takes, target] using takes
        subst same
        exact mine.elsewhere other fun slot found => holds.kept cd slot target found
    | any id => exact holds'.claimed found (by simpa [Target.takes, target] using takes)
  errorTaken s id target mine holds := by
    have own := (shaped_any holds.1).1 target
    refine ⟨mine.spared ((given_stable.and (known_stable w)).errorTaken s id
      ⟨mine.rest.given, mine.known⟩) fun w' other => takeAnyError_spares fun same => ?_, holds.1, ?_⟩
    · have own' := (shaped_any (mine.rest.fine w' other).holds.1).1 same
      exact mine.apart w' other (own'.trans own.symm)
    · obtain ⟨entry, found⟩ : ∃ entry, s.anyWaiters.get id = some entry := by
        simpa [target] using holds.2
      rw [target]
      exact ⟨{ entry with error := none }, by simp [takeAnyError, found]⟩
  keeps s holds _ := holds.kept
  timedOut s cd target mine holds _ := by
    refine ⟨mine.spared ((given_stable.and (known_stable w)).released s _ cd (by simp)
      ⟨mine.rest.given, mine.known⟩) fun w' other => release_spares _ fun _ => ?_,
      kept_del (releaseSlot_slots _ cd s) fun cd' same => ?_⟩
    · exact mine.elsewhere other fun slot found => holds.kept cd slot target found
    · simpa [eq_comm] using target.symm.trans same

theorem dropped_rest {world : World} {f? : Option Nat} {w : Wait} {s : AsyncAtmiCtx}
    {guard : ReplyClaimGuard} (mine : Mine world f? w s) (same : w.guard = .claim guard) :
    Rest world f? (s.dropClaim guard) := by
  have shaped := mine.shaped
  simp only [Wait.Shaped, same] at shaped
  exact mine.rest.spared (given_stable.dropped s guard (mine.known.claimed guard same) mine.rest.given)
    fun w' other => dropClaim_spares guard (shaped.2 ▸ mine.apart w' other)

theorem guard_rules (world : World) (f? : Option Nat) (w : Wait) :
    GuardRules w (Mine world f? w) (Kept w) (Rest world f?) where
  released s cd guard mine kept := by
    have shaped := mine.shaped
    simp only [Wait.Shaped, guard] at shaped
    refine mine.rest.spared (given_stable.released s _ cd (by simp) mine.rest.given)
      fun w' other => release_spares _ fun _ => ?_
    exact mine.elsewhere other fun slot found => kept cd slot shaped.1 found
  dropped _ _ same mine _ := dropped_rest mine same
  deregistered s id same mine := by
    have shaped := mine.shaped
    simp only [Wait.Shaped, same] at shaped
    refine mine.rest.spared mine.rest.given fun w' other => deregisterAny_spares fun target => ?_
    have own := (shaped_any (mine.rest.fine w' other).holds.1).1 target
    exact mine.apart w' other (own.trans shaped.2.symm)

theorem rest_rules (world : World) (f? : Option Nat) :
    StepRules (fun _ => True) (fun cd => ∀ w, Others world f? w → w.target ≠ .one cd)
      (Rest world f?) (Mine world f?) Holds Kept where
  drains := fun moved rest => rest.spared (given_stable.quiet moved rest.given)
    fun w _ => quiet_spares w moved
  send :=
    { quiet := fun moved rest => rest.spared (given_stable.quiet moved rest.given)
        fun w _ => quiet_spares w moved
      settings := fun moved rest => rest.spared (given_stable.settings moved rest.given)
        fun w _ => by cases moved; exact .ofFrame rfl rfl
      undone := fun cd may s rest => rest.spared
        (given_stable.released _ _ cd nofun (given_stable.undoing s cd rest.given))
        fun w other =>
          have noted : Spares w s (record (.undone cd (s.holdsReply cd)) s) := .ofFrame rfl rfl
          noted.trans (release_spares _ fun _ => may w other)
      submitted := by
        intro s cd deadline claimed positive free rest
        have after : Rest world f? (registered cd deadline claimed s) := rest.spared
          (given_stable.submitted s cd deadline claimed positive free rest.given)
          fun w _ => registered_spares deadline claimed free
        refine ⟨after, fun own data flags until? => ?_⟩
        subst own
        refine ⟨⟨after, callWait_known s cd deadline, ⟨rfl, rfl, _, rfl⟩, fun w other => ?_⟩,
          ⟨rfl, rfl, _, rfl⟩, _, (Table.get_set ..).trans (if_pos rfl), rfl, rfl⟩
        exact ((rest.fine w other).holds.old rest.given).1 }
  wait := mine_rules world f?
  guard := guard_rules world f?
  weaken _ _ mine := mine.rest
  allocated s id info rest := rest.spared (given_stable.allocated s id info rest.given)
    fun w _ => .ofFrame (by simp) (by simp)
  freed s id rest := rest.spared (given_stable.freed s id rest.given)
    fun w _ => .ofFrame (by simp) (by simp)

/-! ## Every run -/

/-- Every suspended future is fine, and no two wait under one claim. -/
structure World.Wakeful (world : World) : Prop where
  fine : ∀ f op w, world.futures.get f = some (.waiting op w) → Fine w world.shared
  apart : ∀ f f' op op' w w', world.futures.get f = some (.waiting op w) →
    world.futures.get f' = some (.waiting op' w') → w.own = w'.own → f = f'

/-- Some suspended future waits for `cd`. -/
def World.awaits (cd : Cd) (world : World) : Bool :=
  world.futures.vals.any fun fut =>
    match fut with
    | .waiting _ w => w.target = .one cd
    | _ => false

/-- No number is cancelled, or taken back from a send, that a suspended future waits for; and
a `TPGETANY` registration gets a number nobody is registered under. -/
def cancelsNoWait (world : World) : Label → Bool
  | .tpcancel cd _ => !world.awaits cd
  | .tryTpacall _ _ script => script.undone.all fun cd => !world.awaits cd
  | .poll f script =>
      ((script.send :: script.resends).all fun attempt => attempt.undone.all fun cd => !world.awaits cd) &&
        match world.futures.get f with
        | some (.created (.tpgetrply _ _ flags)) =>
            !flags.getAny || (world.shared.anyWaiters.get world.shared.registerAnyWaiter.1).isNone
        | _ => true
  | _ => true

theorem not_awaited {world : World} {cd : Cd} (free : world.awaits cd = false) {f? : Option Nat}
    {w : Wait} (other : Others world f? w) : w.target ≠ .one cd := by
  obtain ⟨g, op, _, found⟩ := other
  intro target
  have member : (Fut.waiting op w) ∈ world.futures.vals := Table.mem_vals.2 ⟨g, found⟩
  have never := List.any_eq_false.1 free _ member
  simp [target] at never

theorem wakeful_fits {world : World} (known : world.Known) (wakeful : world.Wakeful)
    (given : Given world.shared.toTracking) (label : Label) (keeps : cancelsNoWait world label = true)
    (rest : Rest world label.fut? world.shared) :
    label.Fits (fun _ => True) (fun cd => ∀ w, Others world label.fut? w → w.target ≠ .one cd)
      (Rest world label.fut?) (Mine world label.fut?) Holds world := by
  have mine : ∀ f op w, label.fut? = some f → world.futures.get f = some (.waiting op w) →
      Mine world label.fut? w world.shared := by
    intro f op w same found
    have there := known f _ found
    refine ⟨rest, there.2, there.1, fun w' others equal => ?_⟩
    obtain ⟨g, op', other, found'⟩ := others
    refine other ?_
    rw [wakeful.apart g f op' op w' w found' found equal, same]
  cases label with
  | poll f script =>
      simp only [cancelsNoWait, Bool.and_eq_true, List.all_eq_true, Bool.not_eq_true'] at keeps
      refine ⟨⟨fun _ _ => ⟨allowed_any _, allowed_any _⟩, fun attempt member cd undone w other =>
        not_awaited (keeps.1 attempt member cd undone) other⟩, fun fut found => ?_⟩
      have there := known f fut found
      cases fut with
      | sending op deadline b => exact ⟨rest, there⟩
      | waiting op w => exact ⟨there.1, mine f op w rfl found, (wakeful.fine f op w found).holds⟩
      | created op =>
          cases op with
          | tpcall | tpacall => exact rest
          | tpgetrply cd data flags =>
              refine fit_getrply rest (fun getAny w shaped own guard => ?_)
                fun w guard s' claimed shaped own same => ?_
              · have fresh : world.shared.anyWaiters.get world.shared.registerAnyWaiter.1 = none := by
                  simpa [found, getAny] using keeps.2
                have target := (shaped_any shaped).2 own
                refine ⟨⟨rest.spared given fun w' _ => registerAny_spares fresh,
                  ⟨by simp [guard], by simp [own]⟩, shaped, fun w' other equal => ?_⟩, shaped, ?_⟩
                · have holds := (rest.fine w' other).holds
                  have target' := (shaped_any holds.1).2 (equal.trans own)
                  simp [Holds, target', fresh] at holds
                · rw [target]
                  exact ⟨_, (Table.get_set ..).trans (if_pos rfl)⟩
              · refine ⟨⟨rest.spared (given_stable.claimed _ cd guard s' claimed given)
                  fun w' _ => claim_spares claimed, getrply_known claimed own same, shaped,
                  fun w' other equal => ?_⟩, shaped, ?_⟩
                · have old := ((rest.fine w' other).holds.old given).2
                  have new : guard.id = world.shared.nextClaimId + 1 := by
                    obtain ⟨_, rfl, _⟩ | ⟨_, _, _, rfl, _⟩ := claim_cases claimed <;> rfl
                  exact old (by rw [equal, own, new])
                · simp only [Wait.Shaped, same] at shaped
                  rw [shaped.1, own]
                  exact claim_held claimed
  | drop f script =>
      refine fun op w found => ⟨mine f op w rfl found, fun cd guard => ?_, fun guard same => ?_⟩
      · exact (guard_rules world (some f) w).released _ cd guard (mine f op w rfl found)
          (wakeful.fine f op w found).holds.kept
      · exact dropped_rest (mine f op w rfl found) same
  | tpcancel cd script =>
      refine rest.spared (given_stable.released _ _ cd (by simp) given) fun w other =>
        release_spares _ fun _ => not_awaited (by simpa [cancelsNoWait] using keeps) other
  | tryTpacall flags clock script =>
      simp only [cancelsNoWait, List.all_eq_true, Bool.not_eq_true'] at keeps
      exact fun cd undone w other => not_awaited (keeps cd undone) other
  | _ => trivial

/-- A wait just parked has its waker stored. -/
theorem stored_parked {w : Wait} {s : AsyncAtmiCtx} {waker : Waker} {mark seen : Nat} (holds : Holds w s)
    (parked : Parked w.target waker s) (waits : s.isTargetReady w.target = false) :
    Stored { w with waker, mark, seen } s := by
  unfold Stored
  cases target : w.target with
  | one cd =>
      obtain ⟨slot, found, _⟩ : ∃ slot, s.slots.get cd = some slot ∧ slot.heldBy w.own := by
        simpa [target] using holds.2
      rw [target] at parked waits
      exact ⟨slot, found, parked slot found (by simpa [isTargetReady, isReady, found] using waits)⟩
  | any id =>
      obtain ⟨entry, found⟩ : ∃ entry, s.anyWaiters.get id = some entry := by
        simpa [target] using holds.2
      rw [target] at parked
      exact ⟨entry, found, parked entry found⟩

theorem wakeful_step {world : World} (known : world.Known) (given : Given world.shared.toTracking)
    (wakeful : world.Wakeful) (label : Label) (keeps : cancelsNoWait world label = true) :
    (world.step label).Wakeful := by
  have rest : Rest world label.fut? world.shared :=
    ⟨given, fun w ⟨g, op, _, found⟩ => wakeful.fine g op w found⟩
  obtain ⟨after, stands⟩ := step_ends (rest_rules world label.fut?) label
    (wakeful_fits known wakeful given label keeps rest) rest
  refine ⟨fun f op w found => ?_, fun f f' op op' w w' found found' same => ?_⟩
  · cases stands f _ found with
    | untouched before other => exact after.fine w ⟨f, op, other, before⟩
    | made _ created _ => cases created
    | polled script _ left =>
        obtain ⟨w₀, rfl, _, _, holds, parked, waits⟩ := left
        exact ⟨holds, Nat.le_refl _, .inl ⟨stored_parked holds parked waits, waits⟩, Nat.le_refl _,
          fun f unseen => by simp [Wait.unseen] at unseen⟩
  · cases stands f _ found with
    | made _ created _ => cases created
    | untouched before other =>
        cases stands f' _ found' with
        | made _ created _ => cases created
        | untouched before' _ => exact wakeful.apart f f' op op' w w' before before' same
        | polled script _ left =>
            obtain ⟨w₀, rfl, _, mine, _⟩ := left
            exact absurd same (mine.apart w ⟨f, op, other, before⟩)
    | polled script poll left =>
        cases stands f' _ found' with
        | made _ created _ => cases created
        | untouched before' other =>
            obtain ⟨w₀, rfl, _, mine, _⟩ := left
            exact absurd same.symm (mine.apart w' ⟨f', op', other, before'⟩)
        | polled script' poll' _ =>
            rw [poll] at poll'
            cases poll'
            rfl

/-- **No wakeup is lost.**  In every run in which no number is cancelled or taken back while a
suspended future waits for it (and no registration is overwritten), every suspended future
has its last waker where its next event takes it and nothing to collect, or that waker has
been woken since it was stored. -/
theorem wakeup_safe (labels : List Label) (keeps : machine.Along (cancelsNoWait · · = true) labels) :
    let world := machine.run labels
    ∀ f op w, world.futures.get f = some (.waiting op w) → Wakeful w world.shared := by
  have holds := Machine.invariantAlong (M := machine)
    (P := fun world => world.Known ∧ Given world.shared.toTracking ∧ world.Wakeful)
    ⟨known_reachable [], (dated_reachable []).toGiven, by simp [machine], by simp [machine]⟩
    (fun world label mine holds => ⟨step_known holds.1 label,
      step_keeps given_stable holds.1 holds.2.1 label, wakeful_step holds.1 holds.2.1 holds.2.2 label mine⟩)
    labels keeps
  exact fun f op w found => (holds.2.2.fine f op w found).wakeful

/-- A `tpcall` suspended on descriptor 1, woken by the drain of another task, and suspended. -/
def wokenCall : List Label :=
  [.allocData 0 none, .make (.tpcall 0 {}), .poll 0 { waker := 1 },
   .tpcancel 2 { drained := [{ cd := 1, outcome := .ok () }] }]

theorem wokenCall_wakeful :
    let world := machine.run wokenCall
    ∀ f op w, world.futures.get f = some (.waiting op w) → Wakeful w world.shared :=
  wakeup_safe wokenCall (by decide +kernel)

/-- A `tpcall` suspended on descriptor 1, which another task cancels. -/
def cancelledCall : List Label :=
  [.allocData 0 none, .make (.tpcall 0 {}), .poll 0 { waker := 1 }, .tpcancel 1 {}]

/-- **A cancellation discards the waker it should wake**: the future stays suspended, its slot
is gone, and nobody was woken. -/
theorem cancelledCall_forgotten : ¬ ∀ labels,
    let world := machine.run labels
    ∀ f op w, world.futures.get f = some (.waiting op w) → Wakeful w world.shared := by
  intro safe
  have waits : (machine.run cancelledCall).futures.get 0 = some (.waiting (.tpcall 0 {})
      { target := .one 1, own := .call 0, guard := .pendingCall 1, data := 0, flags := {},
        deadline := none, cancelOnTimeout := false, waker := 1, mark := 0 }) := by decide +kernel
  have gone : (machine.run cancelledCall).shared.slots.get 1 = none := by decide +kernel
  have unwoken : (machine.run cancelledCall).shared.woken = [] := by decide +kernel
  rcases safe cancelledCall 0 _ _ waits with ⟨⟨slot, found, _⟩, _⟩ | awake
  · cases gone.symm.trans found
  · simp [unwoken] at awake

end Endurox.Async
