/-
# Async.Spares -- the buffers no reply needs

A drain ends by stashing the buffer of its last, empty read, so the scratch is
occupied when a reply is handed over and the caller's old buffer joins the
orphans, which nothing reuses.  `Label.setsAside` says of a step, from the state
before it and the answers of the native layer, whether it hands a buffer over
so; `spares_bounded` is that the spare buffers stay bounded just where the number
of such steps does, and `calls_leak` has runs in which neither does.
-/
import Endurox.Async.Shelf
import Endurox.Async.Submission

namespace Endurox.Async

open Endurox.Theory AsyncAtmiCtx

set_option autoImplicit false

/-- What the adapter holds for no tracked reply. -/
def AsyncAtmiCtx.spares (s : AsyncAtmiCtx) : List ParkedBuf := s.scratch.toList ++ s.orphans

/-! ## Collections that set a buffer aside -/

/-- A collection from the shelf does; where there is nothing to take, what comes next decides. -/
def Shelf.setsAside (target : Target) (choice : Cd) (shelf : Shelf) (next : Bool) : Bool :=
  match shelf.taken target choice with
  | some parcel => parcel.loaded && !shelf.bare
  | none => next

/-- Something is there for the target. -/
def Shelf.isReady (target : Target) (shelf : Shelf) : Bool :=
  (shelf.taken target 0).isSome || decide (shelf.told = some true)

namespace AsyncAtmiCtx

/-- What a native wake means to the wait. -/
def WakeScript.wakes (w : Wait) : WakeScript → Option Wake
  | .pending | .failed _ => none
  | .readable => some .progress
  | .timer now => if w.deadline.any (· ≤ now) then some .timeout else none

namespace Wait

/-- The head of the loop: a collection, a drain, another collection, and the reasons to stop. -/
def tryAside (w : Wait) (script : WaitScript) (shelf : Shelf) (next : Shelf → Bool) : Bool :=
  shelf.setsAside w.target script.firstChoice <|
    let shelf := shelf.drained script.before
    shelf.setsAside w.target script.secondChoice <|
      decide (shelf.told ≠ some true) && !w.flags.noBlock && next shelf

/-- The rest of the loop: a wake, a drain, and a collection. -/
def wakeAside (w : Wait) (script : WaitScript) (shelf : Shelf) (next : Shelf → Bool) : Bool :=
  match if shelf.isReady w.target then some .progress else script.wake.wakes w with
  | none => false
  | some wake =>
      let shelf := shelf.drained script.after
      shelf.setsAside w.target script.thirdChoice (decide (wake = .progress) && next shelf)

def awaitAside (w : Wait) : List WaitScript → Shelf → Bool
  | [], shelf => w.tryAside {} shelf fun _ => false
  | script :: more, shelf => w.tryAside script shelf fun shelf => w.wakeAside script shelf (w.awaitAside more)

def resumeAside (w : Wait) : List WaitScript → Shelf → Bool
  | [], shelf => w.wakeAside {} shelf (w.awaitAside [])
  | script :: more, shelf => w.wakeAside script shelf (w.awaitAside more)

end Wait

/-- The caller's variable holds a buffer to be handed back. -/
def holdsData (id : BufId) (s : AsyncAtmiCtx) : Bool := (s.data id).ptr ≠ 0

end AsyncAtmiCtx

/-- The poll hands a reply over while its variable and the scratch both hold a buffer. -/
def Fut.setsAside (script : PollScript) (s : AsyncAtmiCtx) : Fut → Bool
  | .waiting _ w => w.resumeAside script.waits (s.shelf w.target) && s.holdsData w.data
  | .created (.tpgetrply cd data flags) =>
      match (beginGetrply cd data flags script.clock).run.run s with
      | (.ok w, s) => w.awaitAside script.waits (s.shelf w.target) && s.holdsData w.data
      | (.error _, _) => false
  | fut =>
      match (submitStep script fut).run s with
      | ((deadline, .finished (.ok submission)), s) => match fut.op with
          | .tpcall data flags =>
              let w := callWait submission data flags deadline
              w.awaitAside script.waits (s.shelf w.target) && s.holdsData w.data
          | _ => false
      | _ => false

def Label.setsAside (world : World) : Label → Bool
  | .poll f script => (world.futures.get f).any fun fut => fut.setsAside script world.shared
  | _ => false

namespace AsyncAtmiCtx

/-! ## The wait, step by step -/

/-- `n` buffers set aside, between operations. -/
def Aside (n : Nat) (s : AsyncAtmiCtx) : Prop := Holding n s.toBuffers ∧ s.draining = false

variable {n : Nat} {w : Wait} {mine : ParkedBuf} {shelf : Shelf}

theorem OnHand.aside {s : AsyncAtmiCtx} (onHand : OnHand n w mine shelf s) : Aside n s :=
  ⟨onHand.holding, onHand.idle⟩

theorem Aside.frame {s s' : AsyncAtmiCtx} (aside : Aside n s) (buffers : s'.toBuffers = s.toBuffers)
    (draining : s'.draining = s.draining) : Aside n s' :=
  ⟨buffers ▸ aside.1, draining.trans aside.2⟩

/-- **No drain sets a buffer aside**: its scratch is lent until the one stash of each round. -/
theorem aside_quiet {may : Cd → Prop} : Closed (Quiet may) (Aside n) := by
  intro s s' moved aside
  cases moved with
  | drained replies _ =>
      -- any wait will do
      let w : Wait := ⟨.one 0, .any 0, .anyWaiter 0, 0, {}, none, false, 0, 0, 0⟩
      exact (drain_onHand (w := w) replies ⟨aside.1, aside.2, rfl, mirrors_shelf _ s⟩).aside
  | wakeAny => exact aside.frame rfl rfl

theorem freeBuf_aside (buf : ParkedBuf) {s : AsyncAtmiCtx} (aside : Aside n s) : Aside n (s.freeBuf buf) := by
  refine ⟨aside.1.freeBuf buf, ?_⟩
  unfold AsyncAtmiCtx.freeBuf
  split <;> exact aside.2

theorem releaseSlot_aside (cause : Cause) (cd : Cd) {s : AsyncAtmiCtx} (aside : Aside n s) :
    Aside n (releaseSlot cause cd s) := by
  unfold releaseSlot deregister
  split <;> exact freeBuf_aside _ (aside.frame rfl rfl)

theorem dropClaim_aside (guard : ReplyClaimGuard) {s : AsyncAtmiCtx} (aside : Aside n s) : Aside n (s.dropClaim guard) := by
  unfold dropClaim
  split
  · split
    · split
      · split <;> exact aside.frame rfl rfl
      · exact aside.frame rfl rfl
    · exact aside
  · exact aside

theorem aside_outlives : Outlives (Aside n) where
  quiet := aside_quiet
  forgot _ _ aside := aside
  released _ own cd aside := releaseSlot_aside (.dropped own) cd aside
  dropped _ guard aside := dropClaim_aside guard aside
  deregistered _ _ aside := aside

theorem aside_send : SendRules (fun _ => True) (Aside n) fun _ _ => True where
  quiet := aside_quiet
  settings moved aside := by
    cases moved
    exact aside
  undone cd _ _ aside := releaseSlot_aside .undone cd (aside.frame rfl rfl)
  submitted _ _ _ _ _ _ aside := ⟨aside.frame rfl rfl, fun _ => trivial⟩

theorem take_aside (choice : Cd) :
    Ends (OnHand n w mine shelf) (w.take choice) fun ready s => match ready with
      | none => (OnHand n w mine shelf s ∧ NothingReady w.target s) ∧
          ∀ next, shelf.setsAside w.target choice next = next
      | some _ => ∀ next, Aside (n + (shelf.setsAside w.target choice next && decide (mine.ptr ≠ 0)).toNat) s := by
  refine Ends.ofModifyGet fun s onHand => ?_
  obtain ⟨missing, none⟩ | ⟨parcel, found, s', taken, ready, idle, holding⟩ := take_holding choice onHand
  · rw [none]
    refine ⟨⟨onHand, ?_⟩, fun next => by simp [Shelf.setsAside, missing]⟩
    obtain ⟨_, nothing⟩ | ⟨_, _, _, _, _, _, _, _, some⟩ :=
      takeReady_cases w.target w.own w.data w.flags choice s
    · exact nothing
    · cases none.symm.trans some
  · rw [ready]
    intro next
    simp only [Shelf.setsAside, taken]
    exact ⟨holding, idle⟩

theorem Mirrors.ready {target : Target} {s : AsyncAtmiCtx} (mirrors : Mirrors target shelf s) :
    shelf.isReady target = s.isTargetReady target := by
  unfold Shelf.isReady Shelf.taken isTargetReady
  rw [mirrors.told]
  cases target with
  | one cd =>
      simp only [mirrors.slots, AsyncAtmiCtx.told, isReady]
      cases s.slots.get cd with
      | none => rfl
      | some slot => cases ready : slot.isReady <;> simp [Option.filter, Slot.parcel, ready]
  | any id =>
      simp only [mirrors.chosen, AsyncAtmiCtx.told, hasAnyError]
      congr 1
      · cases choose : s.anyUnclaimed 0 with
        | none => rfl
        | some cd =>
            obtain ⟨slot, found, _⟩ := Table.findKey_some choose
            simp [mirrors.slots, found]
      · rw [Bool.eq_iff_iff]
        simp [Option.map_eq_some_iff, Option.any_eq_true]

theorem parkWaker_buffers (target : Target) (own : Own) (waker : Waker) (s : AsyncAtmiCtx) :
    (s.parkWaker target own waker).toBuffers = s.toBuffers ∧ (s.parkWaker target own waker).draining = s.draining := by
  obtain ⟨_, _, _, _, _, _, parked⟩ | ⟨_, _, _, _, parked⟩ | ⟨parked, _⟩ := parkWaker_cases target own waker s <;>
    rw [parked] <;> exact ⟨rfl, rfl⟩

/-- Storing a waker moves nothing on the shelf. -/
theorem parkWaker_aside (waker : Waker) {s : AsyncAtmiCtx} (onHand : OnHand n w mine shelf s) :
    OnHand n w mine shelf (s.parkWaker w.target w.own waker) := by
  have slots : ∀ cd, (s.parkWaker w.target w.own waker).slots.get cd =
      (s.slots.get cd).map fun slot => if w.target = .one cd then slot.parked waker else slot :=
    parkWaker_slots w.target w.own waker s
  have waiters := parkWaker_anyWaiters w.target w.own waker s
  obtain ⟨buffers, draining⟩ := parkWaker_buffers w.target w.own waker s
  have mirrors : Mirrors w.target shelf (s.parkWaker w.target w.own waker) := by
    refine ⟨fun cd => ?_, fun id any => ?_, ?_, ?_⟩
    · rw [onHand.mirrors.slots, slots, Option.map_map]
      refine congrArg (Option.map · _) (funext fun slot => ?_)
      simp only [Function.comp_apply]
      split
      · cases slot <;> rfl
      · rfl
    · rw [onHand.mirrors.order id any]
      obtain ⟨_, _, _, _, one, _⟩ | ⟨_, _, _, _, parked⟩ | ⟨parked, _⟩ := parkWaker_cases w.target w.own waker s
      · cases any.symm.trans one
      all_goals rw [parked]
    · rw [onHand.mirrors.bare, buffers]
    · rw [onHand.mirrors.told]
      unfold AsyncAtmiCtx.told
      cases same : w.target with
      | one => rfl
      | any id =>
          simp only [← same, waiters, Option.map_map]
          refine congrArg (Option.map · _) (funext fun entry => ?_)
          simp only [Function.comp_apply]
          split <;> rfl
  exact ⟨buffers ▸ onHand.holding, draining.trans onHand.idle, by simpa [data, buffers] using onHand.mine, mirrors⟩

/-- A failure the registration was told ends the wait; otherwise asking changes nothing. -/
theorem takeAnyError_aside {id : Nat} (any : w.target = .any id) :
    Ends (fun s => OnHand n w mine shelf s ∧ NothingReady w.target s) (modifyGet (takeAnyError id)) fun err s =>
      match err with
      | none => OnHand n w mine shelf s ∧ NothingReady w.target s ∧ shelf.told ≠ some true
      | some _ => Aside n s ∧ shelf.told = some true := by
  refine Ends.ofModifyGet ?_
  rintro s ⟨onHand, nothing⟩
  have told : shelf.told = (s.anyWaiters.get id).map fun entry => entry.error.isSome := by
    rw [onHand.mirrors.told, any, AsyncAtmiCtx.told]
  cases found : s.anyWaiters.get id with
  | none =>
      have missing : s.takeAnyError id = (none, s) := by simp [takeAnyError, found]
      rw [missing]
      exact ⟨onHand, nothing, by simp [told, found]⟩
  | some entry =>
      have taken : s.takeAnyError id =
          (entry.error, { s with anyWaiters := s.anyWaiters.set id { entry with error := none } }) := by
        simp [takeAnyError, found]
      cases error : entry.error with
      | some err =>
          rw [taken, error]
          exact ⟨⟨{ onHand.holding with }, onHand.idle⟩, by simp [told, found, error]⟩
      | none =>
          have untold : shelf.told = some false := by simp [told, found, error]
          rw [taken, error]
          refine ⟨⟨{ onHand.holding with }, onHand.idle, onHand.mine, { onHand.mirrors with told := ?_ }⟩, ?_, ?_⟩
          · simp [any, untold, AsyncAtmiCtx.told]
          · rw [any] at nothing ⊢
            exact nothing
          · simp [untold]

/-- What the head of the loop leaves: the wait goes on with nothing ready, or is over. -/
def Tries (n : Nat) (w : Wait) (mine : ParkedBuf) (aside : (Shelf → Bool) → Bool) (s : AsyncAtmiCtx) :
    Option Collected → Prop
  | none => ∃ shelf, OnHand n w mine shelf s ∧ shelf.isReady w.target = false ∧ ∀ next, aside next = next shelf
  | some _ => ∀ next, Aside (n + (aside next && decide (mine.ptr ≠ 0)).toNat) s

theorem nonblocking_aside (told : shelf.told ≠ some true) :
    Ends (fun s => OnHand n w mine shelf s ∧ NothingReady w.target s)
      (if w.flags.noBlock = true then
        pure (some (.error ⟨.TPEBLOCK, "TPNOBLOCK was specified and no reply is available"⟩))
      else pure none : StateM AsyncAtmiCtx (Option Collected)) fun result s =>
      Tries n w mine (fun next => decide (shelf.told ≠ some true) && !w.flags.noBlock && next shelf) s result := by
  split
  · rename_i noBlock
    refine Ends.pure fun s holds next => ?_
    simpa [noBlock] using holds.1.aside
  · rename_i blocks
    refine Ends.pure fun s holds => ⟨shelf, holds.1, ?_, fun next => by simp [told, blocks]⟩
    rw [holds.1.mirrors.ready, isTargetReady_false]
    refine ⟨holds.2, fun id any => ?_⟩
    have untold := holds.1.mirrors.told ▸ told
    rw [any] at untold
    cases found : s.anyWaiters.get id <;> simp_all [AsyncAtmiCtx.told, hasAnyError]

/-- The head of the loop. -/
theorem tryCollect_aside (script : WaitScript) :
    Ends (OnHand n w mine shelf) (tryCollect w script) fun result s =>
      Tries n w mine (w.tryAside script shelf) s result := by
  unfold tryCollect
  refine Ends.bind (take_aside script.firstChoice) fun ready => ?_
  cases ready with
  | some found => exact Ends.pure fun s collected next => collected _
  | none =>
      refine Ends.bind (Q := fun _ s => OnHand n w mine (shelf.drained script.before) s ∧
          ∀ next, shelf.setsAside w.target script.firstChoice next = next)
        (Ends.ofModify fun s holds => ⟨drain_onHand script.before holds.1.1, holds.2⟩) fun _ =>
          Ends.ofFact fun first => ?_
      refine Ends.bind (take_aside script.secondChoice) fun ready => ?_
      cases ready with
      | some found =>
          refine Ends.pure fun s collected next => ?_
          unfold Wait.tryAside
          rw [first]
          exact collected _
      | none =>
          refine Ends.ofFact fun second => ?_
          have whole : w.tryAside script shelf = fun next => decide ((shelf.drained script.before).told ≠ some true) &&
              !w.flags.noBlock && next (shelf.drained script.before) := by
            funext next
            unfold Wait.tryAside
            rw [first]
            exact second _
          rw [whole]
          simp only
          cases same : w.target with
          | one cd =>
              intro s holds
              have told := holds.1.mirrors.told
              rw [same] at told
              exact nonblocking_aside (by simp [told, AsyncAtmiCtx.told]) s (same ▸ holds)
          | any id =>
              refine (Ends.bind (takeAnyError_aside same) fun err => ?_).mono
                (fun s holds => ⟨holds.1, same ▸ holds.2⟩) fun _ _ tries => tries
              cases err with
              | some err =>
                  exact Ends.pure fun s holds next => by simpa [holds.2] using holds.1
              | none =>
                  intro s holds
                  exact nonblocking_aside holds.2.2 s ⟨holds.1, holds.2.1⟩

/-- What the rest of the loop leaves. -/
def Wakes (n : Nat) (w : Wait) (mine : ParkedBuf) (aside : (Shelf → Bool) → Bool) (s : AsyncAtmiCtx) : Woken → Prop
  | .again => ∃ shelf, OnHand n w mine shelf s ∧ ∀ next, aside next = next shelf
  | _ => ∀ next, Aside (n + (aside next && decide (mine.ptr ≠ 0)).toNat) s

/-- Something ready or the native layer wakes the wait. -/
theorem waitForWake_aside (waker : Waker) (script : WakeScript) :
    Ends (OnHand n w mine shelf) (waitForWake w waker script) fun woken s => OnHand n w mine shelf s ∧
      (if shelf.isReady w.target then some .progress else script.wakes w) =
        woken.bind fun result => result.toOption := by
  unfold waitForWake
  refine Ends.bind (Q := fun _ => OnHand n w mine shelf)
    (Ends.ofModify fun s onHand => parkWaker_aside waker onHand) fun _ => ?_
  refine Ends.bind (Q := fun before s => before = s ∧ OnHand n w mine shelf s) (Ends.ofGet fun s onHand => ⟨rfl, onHand⟩)
    fun before => ?_
  rintro s ⟨rfl, onHand⟩
  rw [onHand.mirrors.ready]
  cases ready : before.isTargetReady w.target with
  | true => exact ⟨onHand, rfl⟩
  | false =>
      cases script with
      | pending | readable | failed => exact ⟨onHand, rfl⟩
      | timer now =>
          refine ⟨onHand, ?_⟩
          cases late : w.deadline.any (· ≤ now) <;> simp [WakeScript.wakes, late] <;> rfl

/-- The rest of the loop. -/
theorem afterWake_aside (waker : Waker) (script : WaitScript) :
    Ends (OnHand n w mine shelf) (afterWake w waker script) fun woken s =>
      Wakes n w mine (w.wakeAside script shelf) s woken := by
  unfold afterWake
  refine Ends.bind (waitForWake_aside waker script.wake) fun woken => Ends.ofFact fun decided => ?_
  have aside : w.wakeAside script shelf = fun next => match woken.bind fun result => result.toOption with
      | none => false
      | some wake => (shelf.drained script.after).setsAside w.target script.thirdChoice
          (decide (wake = .progress) && next (shelf.drained script.after)) := by
    funext next
    unfold Wait.wakeAside
    rw [decided]
  rw [aside]
  have drains : Ends (OnHand n w mine shelf) (modify (drain script.after)) fun _ =>
      OnHand n w mine (shelf.drained script.after) := Ends.ofModify fun s => drain_onHand script.after
  rcases woken with _ | e | wake
  · exact Ends.pure fun s onHand next => onHand.aside
  · exact Ends.pure fun s onHand next => onHand.aside
  cases wake with
  | progress =>
      refine Ends.bind drains fun _ => Ends.bind (take_aside script.thirdChoice) fun ready => ?_
      cases ready with
      | some found => exact Ends.pure fun s collected next => collected _
      | none => exact Ends.pure fun s holds => ⟨_, holds.1.1, fun next => holds.2 _⟩
  | timeout =>
      refine Ends.bind drains fun _ => Ends.bind (take_aside script.thirdChoice) fun ready => ?_
      cases ready with
      | some found => exact Ends.pure fun s collected next => collected _
      | none =>
          refine Ends.ofFact fun nothing => ?_
          refine Ends.mono (B := Aside n) (R := fun woken s => Aside n s ∧ ∃ e, woken = .finished (.error e)) ?_
            (fun s holds => holds.1.aside) ?_
          · simp only
            split
            · split
              · exact Ends.bind (tpcancel_keeps aside_quiet (fun s => releaseSlot_aside _ _) _) fun _ =>
                  Ends.pure fun s aside => ⟨aside, _, rfl⟩
              · exact Ends.bind (Ends.ofModify (Q := fun _ => Aside n) fun s => releaseSlot_aside _ _) fun _ =>
                  Ends.pure fun s aside => ⟨aside, _, rfl⟩
            · exact Ends.pure fun s aside => ⟨aside, _, rfl⟩
          · rintro _ s ⟨aside, e, rfl⟩ next
            show Aside (n + ((shelf.drained script.after).setsAside w.target script.thirdChoice
              (decide (Wake.timeout = .progress) && next (shelf.drained script.after)) && _).toNat) s
            rw [nothing]
            exact aside

theorem awaitReply_aside (waker : Waker) :
    ∀ (scripts : List WaitScript) (shelf : Shelf), Ends (OnHand n w mine shelf) (awaitReply w waker scripts)
      fun _ => Aside (n + (w.awaitAside scripts shelf && decide (mine.ptr ≠ 0)).toNat) := by
  intro scripts
  induction scripts with
  | nil =>
      intro shelf
      unfold awaitReply Wait.awaitAside
      refine Ends.bind (tryCollect_aside {}) fun result => ?_
      cases result with
      | some ended => exact Ends.pure fun s aside => aside _
      | none =>
          refine Ends.ofExists fun shelf' => Ends.ofFact fun left => ?_
          rw [left.2]
          -- nothing is ready, and a fresh script wakes nobody
          have asleep : ∀ next, w.wakeAside {} shelf' next = false := fun next => by
            simp [Wait.wakeAside, left.1, WakeScript.wakes]
          refine Ends.bind (afterWake_aside waker {}) fun woken => ?_
          cases woken with
          | pending | finished => exact Ends.pure fun s aside => asleep (fun _ => false) ▸ aside _
          | again => exact Ends.pure fun s again => again.choose_spec.1.aside
  | cons script more ih =>
      intro shelf
      unfold awaitReply Wait.awaitAside
      refine Ends.bind (tryCollect_aside script) fun result => ?_
      cases result with
      | some ended => exact Ends.pure fun s aside => aside _
      | none =>
          refine Ends.ofExists fun shelf' => Ends.ofFact fun left => ?_
          rw [left.2]
          refine Ends.bind (afterWake_aside waker script) fun woken => ?_
          cases woken with
          | pending | finished => exact Ends.pure fun s aside => aside _
          | again =>
              refine Ends.ofExists fun shelf'' => Ends.ofFact fun same => ?_
              rw [same]
              exact ih shelf''

theorem resumeReply_aside (waker : Waker) (scripts : List WaitScript) (shelf : Shelf) :
    Ends (OnHand n w mine shelf) (resumeReply w waker scripts)
      fun _ => Aside (n + (w.resumeAside scripts shelf && decide (mine.ptr ≠ 0)).toNat) := by
  cases scripts with
  | nil =>
      unfold resumeReply
      refine Ends.bind (afterWake_aside waker {}) fun woken => ?_
      cases woken with
      | pending | finished => exact Ends.pure fun s aside => aside _
      | again =>
          refine Ends.ofExists fun shelf' => Ends.ofFact fun same => ?_
          rw [show w.resumeAside [] shelf = w.awaitAside [] shelf' from same _]
          exact awaitReply_aside waker [] shelf'
  | cons script more =>
      unfold resumeReply
      refine Ends.bind (afterWake_aside waker script) fun woken => ?_
      cases woken with
      | pending | finished => exact Ends.pure fun s aside => aside _
      | again =>
          refine Ends.ofExists fun shelf' => Ends.ofFact fun same => ?_
          rw [show w.resumeAside (script :: more) shelf = w.awaitAside more shelf' from same _]
          exact awaitReply_aside waker more shelf'

/-! ## Polls -/

/-- What is done once the wait is over sets nothing aside. -/
theorem finishAwait_aside (op : Op) (w : Wait) (script : PollScript) (awaited : Awaited) :
    Keeps (Aside n) (finishAwait op w script awaited) := by
  refine (finishAwait_returns (Q := Aside n) (R := fun _ => Aside n) (E := fun _ => Aside n)
    (fun _ => aside_outlives) (fun _ => aside_outlives) op w script awaited).mono (fun s aside => ?_) fun polled s left => ?_
  · cases awaited with
    | suspended => exact aside
    | finished result => cases result <;> exact aside
  · cases polled with
    | pending => exact left
    | ready => exact left.elim (fun found => found.choose_spec) fun failed => failed.choose_spec.2

/-- A wait that begins, to the end of its poll. -/
theorem awaited_aside (op : Op) (w : Wait) (script : PollScript) {s : AsyncAtmiCtx} (aside : Aside n s) :
    Aside (n + (w.awaitAside script.waits (s.shelf w.target) && s.holdsData w.data).toNat)
      ((awaitReply w script.waker script.waits >>= finishAwait op w script).run s).2 :=
  Ends.bind (awaitReply_aside script.waker script.waits _) (fun awaited => finishAwait_aside op w script awaited) s
    ⟨aside.1, aside.2, rfl, mirrors_shelf _ s⟩

theorem submitStep_aside (script : PollScript) (fut : Fut) : Keeps (Aside n) (submitStep script fut) := by
  have sends : ∀ (op : Op) (deadline : Option Instant) (b : Backpressure), Keeps (Aside n)
      (sendWithBackpressure op.flags deadline op.claimed b script.send script.resends) := fun op deadline b =>
    (sendWithBackpressure_ends aside_send op.flags deadline op.claimed script.resends b script.send
      fun _ _ _ _ => trivial).mono (fun _ aside => aside) fun _ _ sent => sent.1
  have begins : ∀ op : Op, Keeps (Aside n) (submitStep script (.created op)) := by
    intro op
    refine Keeps.bind ((checked_ends (P := Aside n) op script.clock).mono (fun _ aside => aside)
      fun _ _ checked => checked.1) fun checked => ?_
    cases checked with
    | error e => exact Keeps.pure
    | ok deadline =>
        refine Keeps.bind (Ends.ofModifyGet fun s aside => aside_send.settings (.changed s _ _) aside) fun taken => ?_
        exact Keeps.bind (sends op deadline _) fun _ => Keeps.pure
  cases fut with
  | created op => exact begins op
  | waiting op => exact begins op
  | sending op deadline b =>
      simp only [submitStep]
      split
      · exact Keeps.bind (sends op deadline b) fun _ => Keeps.pure
      · exact Keeps.pure

theorem submits_aside (script : PollScript) {fut : Fut} (submits : fut.submits = true) {s : AsyncAtmiCtx}
    (aside : Aside n s) : Aside (n + (fut.setsAside script s).toNat) ((poll script fut).run s).2 := by
  have submitted := submitStep_aside script fut s aside
  have setsAside : fut.setsAside script s = match (submitStep script fut).run s with
      | ((deadline, .finished (.ok submission)), s) => match fut.op with
          | .tpcall data flags =>
              let w := callWait submission data flags deadline
              w.awaitAside script.waits (s.shelf w.target) && s.holdsData w.data
          | _ => false
      | _ => false := by
    cases fut with
    | waiting => cases submits
    | sending => rfl
    | created op =>
        cases op with
        | tpgetrply => cases submits
        | tpcall | tpacall => rfl
  rw [poll_submits script fut submits, StateT.run_bind, setsAside]
  rcases ran : (submitStep script fut).run s with ⟨⟨deadline, sending⟩, s'⟩
  rw [ran] at submitted
  cases sending with
  | sleeping => exact submitted
  | finished result =>
      cases result with
      | error => exact submitted
      | ok submission =>
          cases op : fut.op with
          | tpacall | tpgetrply => exact submitted
          | tpcall data flags => exact awaited_aside _ (callWait submission data flags deadline) script submitted

theorem getrply_aside (cd : Cd) (data : BufId) (flags : Flags) (script : PollScript) {s : AsyncAtmiCtx}
    (aside : Aside n s) : Aside (n + (Fut.setsAside script s (.created (.tpgetrply cd data flags))).toNat)
      ((poll script (.created (.tpgetrply cd data flags))).run s).2 := by
  unfold poll startGetrply Fut.setsAside
  rw [StateT.run_bind]
  obtain ⟨e, begun⟩ | ⟨deadline, _, begun⟩ | ⟨deadline, guard, s', _, claimed, begun⟩ :=
    beginGetrply_cases cd data flags script.clock s <;> simp only [begun]
  · exact aside
  · exact awaited_aside _ _ script (aside.frame rfl rfl)
  · refine awaited_aside _ _ script ?_
    obtain ⟨_, _, rfl⟩ | ⟨_, _, _, _, rfl⟩ := claim_cases claimed <;> exact aside.frame rfl rfl

/-- **One poll** sets aside the buffer it is said to, and no other. -/
theorem poll_aside (script : PollScript) (fut : Fut) {s : AsyncAtmiCtx} (aside : Aside n s) :
    Aside (n + (fut.setsAside script s).toNat) ((poll script fut).run s).2 := by
  cases fut with
  | sending => exact submits_aside script rfl aside
  | created op =>
      cases op with
      | tpgetrply cd data flags => exact getrply_aside cd data flags script aside
      | tpcall | tpacall => exact submits_aside script rfl aside
  | waiting op w =>
      exact Ends.bind (resumeReply_aside script.waker script.waits _)
        (fun awaited => finishAwait_aside op w script awaited) s ⟨aside.1, aside.2, rfl, mirrors_shelf _ s⟩

end AsyncAtmiCtx

/-! ## Every run -/

/-- The step sets aside the buffer it is said to, and no other. -/
theorem step_aside {n : Nat} {world : World} (aside : Aside n world.shared) (label : Label) :
    Aside (n + (label.setsAside world).toNat) (world.step label).shared := by
  cases label with
  | poll f script =>
      cases found : world.futures.get f with
      | none => simpa [World.step, Label.setsAside, found] using aside
      | some fut =>
          rw [poll_shared script found]
          simpa [Label.setsAside, found] using poll_aside script fut aside
  | allocData id info =>
      show Aside n (world.shared.allocData id info)
      unfold AsyncAtmiCtx.allocData
      split
      · exact aside
      · exact ⟨{ aside.1 with fresh := Nat.succ_ne_zero _, null := aside.1.tpalloc info }, aside.2⟩
  | freeData id =>
      simp only [World.step]
      split
      · exact aside
      · show Aside n (world.shared.freeData id)
        unfold AsyncAtmiCtx.freeData
        split
        · exact freeBuf_aside _ ⟨{ aside.1 with }, aside.2⟩
        · exact aside
  | make op =>
      simp only [World.step]
      split <;> exact aside
  | drop f script =>
      simp only [World.step]
      split
      · rename_i fut _
        cases fut with
        | created | sending => exact aside
        | waiting op w => exact dropGuard_outlived aside_outlives w.own script w.guard _ aside
      · exact aside
  | tpcancel cd script =>
      exact tpcancel_keeps aside_quiet (fun _ => releaseSlot_aside .cancelled cd) script _ aside
  | tryTpacall flags clock script =>
      exact tryTpacall_keeps aside_send flags clock script (fun _ _ => trivial) _ aside
  | tpsprio value absolute =>
      show Aside n (AsyncAtmiCtx.tpsprio value absolute world.shared).2
      unfold AsyncAtmiCtx.tpsprio
      split
      · exact aside
      · exact aside.frame rfl rfl
  | tpsblktime => exact aside.frame rfl rfl
  | contextTpsprio => exact aside.frame rfl rfl

/-- A run has set aside as many buffers as it has steps that do. -/
theorem aside_run (labels : List Label) :
    Aside (machine.count (fun world label => label.setsAside world) labels) (machine.run labels).shared :=
  Machine.invariantCount (M := machine) (P := fun n world => Aside n world.shared)
    ⟨⟨rfl, Nat.one_ne_zero, rfl, nofun⟩, rfl⟩ (fun _ _ label aside => step_aside aside label) labels

/-- **When the spare buffers stay bounded**: over any set of runs, the spares have a bound if and only if the steps
that hand a reply over while the caller's variable and the scratch both hold a buffer do. -/
theorem spares_bounded (runs : List Label → Prop) :
    (∃ bound, ∀ labels, runs labels → (machine.run labels).shared.spares.length ≤ bound) ↔
      ∃ bound, ∀ labels, runs labels → machine.count (fun world label => label.setsAside world) labels ≤ bound := by
  have spares : ∀ labels, (machine.run labels).shared.spares.length =
      (machine.run labels).shared.scratch.toList.length +
        machine.count (fun world label => label.setsAside world) labels :=
    fun labels => by rw [AsyncAtmiCtx.spares, List.length_append, (aside_run labels).1.orphans]
  have scratch : ∀ s : AsyncAtmiCtx, s.scratch.toList.length ≤ 1 := fun s => by
    cases s.scratch <;> simp
  constructor
  · rintro ⟨bound, bounded⟩
    refine ⟨bound, fun labels run => ?_⟩
    have few := bounded labels run
    rw [spares labels] at few
    omega
  · rintro ⟨bound, bounded⟩
    refine ⟨bound + 1, fun labels run => ?_⟩
    have few := bounded labels run
    have one := scratch (machine.run labels).shared
    rw [spares labels]
    omega

/-! ## Calls that leave an orphan each -/

/-- A call whose reply is there at the first drain. -/
def answeredCall : PollScript :=
  { waker := 1, waits := [{ before := [{ cd := 1, outcome := .ok () }] }] }

/-- Between calls: nothing tracked, a spare in the scratch, a buffer in the caller's variable. -/
structure AsyncAtmiCtx.Idle (s : AsyncAtmiCtx) : Prop where
  slots : s.slots = .empty
  deadlines : s.deadlines = .empty
  anyWaiters : s.anyWaiters = .empty
  draining : s.draining = false
  nextPriority : s.nextPriority = none
  blkNext : s.blkNext = 0
  scratch : ∃ ptr len, s.scratch = some ⟨ptr + 1, len⟩
  nextPtr : ∃ ptr, s.nextPtr = ptr + 1
  buffers : ∃ others ptr len, s.buffers = Table.set others 0 ⟨ptr + 1, len⟩

/-- The reply comes in the scratch, the empty read stashes a new one, and the caller's buffer is over. -/
theorem answeredCall_orphans {s : AsyncAtmiCtx} (idle : s.Idle) :
    ∃ result, ((poll answeredCall (.created (.tpcall 0 {}))).run s).1 = .ready 1 result ∧
      ((poll answeredCall (.created (.tpcall 0 {}))).run s).2.Idle ∧
      ((poll answeredCall (.created (.tpcall 0 {}))).run s).2.orphans.length = s.orphans.length + 1 := by
  obtain ⟨slots, deadlines, anyWaiters, draining, priority, blkNext, ⟨spare, len, scratch⟩,
    ⟨next, nextPtr⟩, ⟨others, mine, size, buffers⟩⟩ := idle
  obtain ⟨⟨_, _, _, _, _, _⟩, ⟨_, _, _, _⟩, ⟨_, _, _, _, _, _, _, _⟩, ⟨_, _, _, _⟩, ⟨_⟩, _⟩ := s
  simp only at slots deadlines anyWaiters scratch nextPtr draining buffers blkNext priority
  subst slots deadlines anyWaiters scratch nextPtr draining buffers blkNext priority
  unfold poll startSend sendWithBackpressure
  refine ⟨_, rfl, ⟨rfl, rfl, rfl, rfl, rfl, rfl, ⟨next, 0, rfl⟩, ⟨next + 1, rfl⟩, ⟨_, spare, 0, rfl⟩⟩, ?_⟩
  exact List.length_append

/-- Between calls with `calls` futures made so far. -/
structure World.Idle (calls : Nat) (world : World) : Prop where
  shared : world.shared.Idle
  futures : world.futures = .empty
  nextFut : world.nextFut = calls

/-- `n` calls one after the other, the first as future `calls`. -/
def answeredCalls (calls : Nat) : Nat → List Label
  | 0 => []
  | n + 1 => .make (.tpcall 0 {}) :: .poll calls answeredCall :: answeredCalls (calls + 1) n

theorem answeredCalls_orphans (n : Nat) :
    ∀ {calls : Nat} {world : World}, world.Idle calls →
      (machine.runFrom world (answeredCalls calls n)).shared.orphans.length =
        world.shared.orphans.length + n := by
  induction n with
  | zero => exact fun _ => rfl
  | succ n ih =>
      intro calls world idle
      obtain ⟨shared, futures, nextFut⟩ := world
      obtain ⟨quiet, rfl, rfl⟩ := idle
      simp only at quiet
      have mine : (shared.buffers.get 0).isSome := by
        obtain ⟨others, ptr, len, mine⟩ := quiet.buffers
        simp [mine]
      obtain ⟨result, returned, again, grown⟩ := answeredCall_orphans quiet
      have made : machine.step ⟨shared, .empty, nextFut⟩ (.make (.tpcall 0 {})) =
          ⟨shared, Table.empty.set nextFut (.created (.tpcall 0 {})), nextFut + 1⟩ := by
        simp [machine, World.step, World.mayMake, World.borrowed, Op.data, mine]
      have polled : machine.step ⟨shared, Table.empty.set nextFut (.created (.tpcall 0 {})), nextFut + 1⟩
          (.poll nextFut answeredCall) =
          ⟨((poll answeredCall (.created (.tpcall 0 {}))).run shared).2, .empty, nextFut + 1⟩ := by
        rcases ran : (poll answeredCall (.created (.tpcall 0 {}))).run shared with ⟨polled, after⟩
        rw [ran] at returned
        subst returned
        simp only [machine, World.step, Table.get_set, if_true, World.pollFut, ran]
        rw [Table.del_set_of_get_none (Table.get_empty nextFut)]
      rw [answeredCalls, Machine.runFrom_cons, made, Machine.runFrom_cons, polled,
        ih ⟨again, rfl, rfl⟩, grown, Nat.add_right_comm, Nat.add_assoc]

/-- After a cancellation has drained once, the adapter is idle with a spare of its own. -/
theorem calls_leak : ¬ ∃ bound, ∀ labels, (machine.run labels).shared.spares.length ≤ bound := by
  rintro ⟨bound, bounded⟩
  have idle : (machine.run [.allocData 0 none, .tpcancel 9 {}]).Idle 0 :=
    ⟨⟨rfl, rfl, rfl, rfl, rfl, rfl, ⟨1, 0, rfl⟩, ⟨2, rfl⟩, ⟨.empty, 0, 0, rfl⟩⟩, rfl, rfl⟩
  have few := bounded ([.allocData 0 none, .tpcancel 9 {}] ++ answeredCalls 0 (bound + 1))
  have many := answeredCalls_orphans (bound + 1) idle
  rw [Machine.run, Machine.runFrom_append, AsyncAtmiCtx.spares, List.length_append] at few
  rw [Machine.run] at many
  omega

end Endurox.Async
