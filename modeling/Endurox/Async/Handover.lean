/-
# Async.Handover -- what a collector's buffer becomes

A drain receives into a buffer of its own, and whoever collects the outcome gets
that buffer for his: `hand_over` leaves the caller's alone only when there is
none.  `Shows` is what a poll can change by collecting and by nothing else, the
collections recorded and the callers' buffers; `errors_replace_buffers` compares
both before and after a poll that took a descriptor error.
-/
import Endurox.Async.Buffers
import Endurox.Async.Returns

namespace Endurox.Async

open Endurox.Theory AsyncAtmiCtx

set_option autoImplicit false

/-! ## Collections and callers' buffers -/

def Event.isCollection : Event → Bool
  | .collected .. => true
  | _ => false

def Tracking.collections (t : Tracking) : List Event := t.log.filter Event.isCollection

/-- What has been collected, and the buffers the callers have. -/
def Shows (seen : List Event × Table BufId ParkedBuf) (s : AsyncAtmiCtx) : Prop :=
  s.toTracking.collections = seen.1 ∧ s.buffers = seen.2

theorem shows_self (s : AsyncAtmiCtx) : Shows (s.toTracking.collections, s.buffers) s := ⟨rfl, rfl⟩

@[simp] theorem stash_buffers (buf : ParkedBuf) (s : AsyncAtmiCtx) : (s.stash buf).buffers = s.buffers := by
  unfold stash
  split
  · rfl
  · split <;> rfl

@[simp] theorem freeBuf_buffers (buf : ParkedBuf) (s : AsyncAtmiCtx) : (s.freeBuf buf).buffers = s.buffers := by
  unfold freeBuf
  split <;> rfl

@[simp] theorem takeScratch_buffers (alloc : AtmiResult (Option TpTypeInfo)) (s : AsyncAtmiCtx) :
    (s.takeScratch alloc).2.buffers = s.buffers := by
  unfold takeScratch tpalloc
  cases s.scratch with
  | some => rfl
  | none => cases alloc <;> rfl

@[simp] theorem tpgetrply_buffers (reply : NativeReply) (buf : ParkedBuf) (s : AsyncAtmiCtx) :
    (s.tpgetrply reply buf).2.buffers = s.buffers := by
  unfold tpgetrply
  cases reply.buffer <;> simp [consumeNext]

@[simp] theorem route_buffers (cd : Cd) (outcome : AtmiResult Unit) (buf : ParkedBuf) (s : AsyncAtmiCtx) :
    (s.route cd outcome buf).buffers = s.buffers := by
  unfold route
  simp only [record]
  split <;> simp [wakeAnyWaiters, wake]

@[simp] theorem failAllWaiting_buffers (err : AtmiError) (s : AsyncAtmiCtx) :
    (s.failAllWaiting err).buffers = s.buffers := rfl

/-- A settled reply, whatever it says, is not a caller's buffer yet. -/
@[simp] theorem settle_buffers (reply : NativeReply) (buf : ParkedBuf) (s : AsyncAtmiCtx) :
    (s.settle reply buf).2.buffers = s.buffers := by
  unfold settle
  split
  · split
    · simp
    · split <;> simp
  · split <;> simp

/-- **No drain touches a caller's buffer.** -/
@[simp] theorem drainRound_buffers (reply : NativeReply) (s : AsyncAtmiCtx) :
    (s.drainRound reply).2.buffers = s.buffers := by
  have scratch := takeScratch_buffers reply.alloc s
  unfold drainRound
  rcases taken : s.takeScratch reply.alloc with ⟨err | buffer, s'⟩ <;> rw [taken] at scratch
  · simpa using scratch
  · simpa [observe] using scratch

section Shows

variable {seen : List Event × Table BufId ParkedBuf}

/-- Drains and wake-ups hand nothing over. -/
theorem shows_quiet {may : Cd → Prop} : Closed (Quiet may) (Shows seen) := by
  intro s s' moved shows
  refine ⟨quiet_drains (P := fun t => t.collections = seen.1) (fun t t' moved same => ?_) moved shows.1, ?_⟩
  · cases moved <;> simpa [Tracking.collections, Event.isCollection] using same
  · refine Closed.quiet (P := fun s => s.buffers = seen.2) (fun {s s'} moved same => ?_) moved shows.2
    cases moved with
    | round reply _ => simpa using same
    | draining b => exact same
    | wakeAny => exact same

theorem shows_settings : Closed Settings (Shows seen) := by
  intro s s' moved shows
  cases moved
  exact shows

/-- A release is no hand-over, whoever asked for it. -/
theorem shows_released (cause : Cause) (cd : Cd) {s : AsyncAtmiCtx} (shows : Shows seen s) :
    Shows seen (releaseSlot cause cd s) := by
  obtain ⟨collections, buffers⟩ := shows
  unfold releaseSlot deregister
  cases found : s.slots.get cd with
  | none =>
      refine ⟨?_, by simpa [forgetDeadline, found] using buffers⟩
      simpa [forgetDeadline, found, Tracking.collections] using collections
  | some slot =>
      refine ⟨?_, by simpa [forgetDeadline, found, record] using buffers⟩
      simpa [forgetDeadline, found, record, Tracking.collections, Event.isCollection] using collections

theorem shows_claimed {s s' : AsyncAtmiCtx} {cd : Cd} {guard : ReplyClaimGuard}
    (claimed : s.claim cd = (.ok guard, s')) (shows : Shows seen s) : Shows seen s' := by
  obtain ⟨_, _, rfl⟩ | ⟨_, _, _, _, rfl⟩ := claim_cases claimed <;>
    exact ⟨by simpa [record, Tracking.collections, Event.isCollection] using shows.1, shows.2⟩

theorem shows_parked (target : Target) (own : Own) (waker : Waker) {s : AsyncAtmiCtx}
    (shows : Shows seen s) : Shows seen (s.parkWaker target own waker) := by
  obtain ⟨cd, generation, existing, claim, same, found, parked⟩ | ⟨id, entry, same, found, parked⟩ |
    ⟨parked, -, -⟩ := parkWaker_cases target own waker s <;> rw [parked]
  · exact ⟨by simpa [record, Tracking.collections, Event.isCollection] using shows.1, shows.2⟩
  · exact shows
  · exact shows

theorem shows_dropped (guard : ReplyClaimGuard) {s : AsyncAtmiCtx} (shows : Shows seen s) :
    Shows seen (s.dropClaim guard) := by
  unfold dropClaim
  split
  · split
    · split
      · split
        · exact ⟨by simpa [record, Tracking.collections, Event.isCollection] using shows.1, shows.2⟩
        · exact shows
      · exact shows
    · exact shows
  · exact shows

theorem shows_errorTaken (id : Nat) {s : AsyncAtmiCtx} (shows : Shows seen s) :
    Shows seen (s.takeAnyError id).2 := by
  unfold takeAnyError
  split <;> exact shows

/-- What a future does after its wait collects nothing and gives nobody a buffer. -/
theorem shows_outlives (fact : List Event × Table BufId ParkedBuf → Prop) :
    Outlives fun s => fact (s.toTracking.collections, s.buffers) where
  quiet := by
    intro s s' moved holds
    obtain ⟨collections, buffers⟩ := shows_quiet moved (shows_self s)
    rwa [collections, buffers]
  forgot _ _ holds := holds
  released s own cd holds := by
    obtain ⟨collections, buffers⟩ := shows_released (.dropped own) cd (shows_self s)
    rwa [collections, buffers]
  dropped s guard holds := by
    obtain ⟨collections, buffers⟩ := shows_dropped guard (shows_self s)
    rwa [collections, buffers]
  deregistered _ _ holds := holds

end Shows

/-! ## What a collection hands over -/

/-- A slot was taken and nothing else: whose it was, and what became of the caller's buffer. -/
inductive Handed (id : BufId) (seen : List Event × Table BufId ParkedBuf) (result : AtmiResult Unit)
    (after : List Event × Table BufId ParkedBuf) : Prop
  | alone (own : Own) (cd : Cd) (generation : Nat) (origin : Origin) (buf : ParkedBuf)
      (claim : Option ReplyClaim) (refused : Bool)
      (taken : after.1 = .collected own cd (.ready generation origin result buf claim) refused :: seen.1)
      (null : buf.ptr = 0) (kept : after.2 = seen.2)
  | refused (own : Own) (cd : Cd) (generation : Nat) (origin : Origin) (outcome : AtmiResult Unit)
      (buf : ParkedBuf) (claim : Option ReplyClaim) (message : String)
      (taken : after.1 = .collected own cd (.ready generation origin outcome buf claim) true :: seen.1)
      (some : buf.ptr ≠ 0) (same : result = .error ⟨.TPEOTYPE, message⟩) (kept : after.2 = seen.2)
  | swapped (own : Own) (cd : Cd) (generation : Nat) (origin : Origin) (buf : ParkedBuf)
      (claim : Option ReplyClaim) (refused : Bool)
      (taken : after.1 = .collected own cd (.ready generation origin result buf claim) refused :: seen.1)
      (some : buf.ptr ≠ 0) (new : ((seen.2.get id).getD .EMPTY).ptr ≠ buf.ptr)
      (swapped : after.2 = seen.2.set id buf)

/-- A parked buffer is nobody's: no caller has it. -/
theorem parked_apart {s : AsyncAtmiCtx} (balanced : Balanced [] s) {cd : Cd} {slot : Slot}
    (found : s.slots.get cd = some slot) (some : slot.buf.ptr ≠ 0) (id : BufId) :
    (s.data id).ptr ≠ slot.buf.ptr := by
  intro same
  cases had : s.buffers.get id with
  | none =>
      simp only [data, had, Option.getD_none, ParkedBuf.EMPTY] at same
      exact some same.symm
  | some buf =>
      simp only [data, had, Option.getD_some] at same
      have parked : s.inSlots.count slot.buf.ptr = _ :=
        Table.gather_of_get (fun _ slot => Slot.buf slot |>.owned) found slot.buf.ptr
      have caller : s.inCallers.count slot.buf.ptr = _ :=
        Table.gather_of_get (fun _ buf => ParkedBuf.owned buf) had slot.buf.ptr
      have once := List.nodup_iff_count_le_one.1 (Ledger.held_nodup balanced) slot.buf.ptr
      have mine : slot.buf.owned.count slot.buf.ptr = 1 := by simp [ParkedBuf.owned, some]
      have his : buf.owned.count slot.buf.ptr = 1 := by simp [ParkedBuf.owned, same, some]
      simp only [List.nil_append, count_held] at once
      omega

section Poll

variable {seen : List Event × Table BufId ParkedBuf}

/-- What holds until a poll collects. -/
def Uncollected (seen : List Event × Table BufId ParkedBuf) (s : AsyncAtmiCtx) : Prop :=
  Settled s ∧ Shows seen s

/-- **A hand-over is one collection**, and the buffer it leaves is the one it was asked to fill. -/
theorem take_handed {target : Target} {own : Own} {id : BufId} {flags : Flags} {choice : Cd}
    {found : Cd × AtmiResult Unit} {s s' : AsyncAtmiCtx} (holds : Uncollected seen s)
    (taken : takeReady target own id flags choice s = (some found, s')) :
    Handed id seen found.2 (s'.toTracking.collections, s'.buffers) := by
  obtain ⟨settled, collections, buffers⟩ := holds
  obtain ⟨none, _⟩ | ⟨cd, generation, origin, outcome, buf, claim, there, _, ready⟩ :=
    takeReady_cases target own id flags choice s
  · cases none.symm.trans taken
  · have apart := parked_apart settled.balanced there
    cases ready.symm.trans taken
    have logged : (handOver outcome buf id flags (record (.collected own cd
        (.ready generation origin outcome buf claim) (s.refusal buf id flags).isSome)
        { s with slots := s.slots.del cd })).2.toTracking.collections =
        .collected own cd (.ready generation origin outcome buf claim) (s.refusal buf id flags).isSome :: seen.1 := by
      rw [handOver_tracking]
      exact (List.filter_cons_of_pos rfl).trans (congrArg (_ :: ·) collections)
    rw [logged]
    have same : (record (.collected own cd (.ready generation origin outcome buf claim)
        (s.refusal buf id flags).isSome) { s with slots := s.slots.del cd }).refusal buf id flags =
        s.refusal buf id flags := rfl
    unfold handOver
    by_cases null : buf.ptr = 0
    · rw [if_pos null]
      exact .alone own cd generation origin buf claim _ rfl null buffers
    · rw [if_neg null, same]
      cases refusal : s.refusal buf id flags with
      | some message =>
          refine .refused own cd generation origin outcome buf claim message rfl null rfl ?_
          simpa [record] using buffers
      | none =>
          refine .swapped own cd generation origin buf claim _ rfl null ?_ ?_
          · rw [← buffers]
            exact apart null id
          · simp [record, buffers]

/-- A wait ends in one hand-over, or in an error with nothing handed over. -/
theorem uncollected_ends (w : Wait) : EndRules w (fun _ => True) (Uncollected seen)
    (fun found s => Handed w.data seen found.2 (s.toTracking.collections, s.buffers))
    (fun _ s => (s.toTracking.collections, s.buffers) = seen) where
  quiet moved holds := ⟨settled_quiet moved holds.1, shows_quiet moved holds.2⟩
  parked _ waker holds := ⟨settled_parked _ _ waker holds.1, shows_parked _ _ waker holds.2⟩
  errorTaken s id _ holds := ⟨settled_stable.errorTaken s id holds.1, shows_errorTaken id holds.2⟩
  released _ cd _ holds := ⟨settled_release _ cd holds.1, shows_released _ cd holds.2⟩
  took _ _ _ _ holds taken := take_handed holds taken
  told _ id _ _ holds _ := Prod.ext (shows_errorTaken id holds.2).1 (shows_errorTaken id holds.2).2
  empty _ _ holds := Prod.ext holds.2.1 holds.2.2
  failed _ _ holds := Prod.ext holds.2.1 holds.2.2
  timedOut _ _ _ _ holds := Prod.ext holds.2.1 holds.2.2

/-- A send hands nothing over, whether it is registered or taken back. -/
theorem uncollected_send (mayUndo : Cd → Prop) :
    SendRules mayUndo (Uncollected seen) fun _ => Uncollected seen where
  quiet moved holds := ⟨settled_quiet moved holds.1, shows_quiet moved holds.2⟩
  settings moved holds := ⟨settled_stable.settings moved holds.1, shows_settings moved holds.2⟩
  undone cd _ s holds := by
    refine ⟨settled_stable.released _ .undone cd nofun (settled_stable.undoing s cd holds.1),
      shows_released .undone cd ⟨?_, holds.2.2⟩⟩
    simpa [record, Tracking.collections, Event.isCollection] using holds.2.1
  submitted s cd deadline claimed positive free holds := by
    have after : Uncollected seen (registered cd deadline claimed s) := by
      refine ⟨settled_stable.submitted s cd deadline claimed positive free holds.1, ?_, holds.2.2⟩
      simpa [registered, record, recordDeadline, registerFresh, Tracking.collections, Event.isCollection]
        using holds.2.1
    exact ⟨after, fun _ => after⟩

/-- The caller's buffer a future borrows. -/
def Fut.buffer : Fut → Option BufId
  | .waiting _ w => some w.data
  | .created op | .sending op _ _ => op.data

/-- How a poll leaves the collections and the caller's buffer: as they were, or one slot was
taken and its outcome returned. -/
def Delivers (buffer : Option BufId) (seen : List Event × Table BufId ParkedBuf) (polled : Polled)
    (s : AsyncAtmiCtx) : Prop :=
  Shows seen s ∨ ∃ id cd result, buffer = some id ∧ polled = .ready cd result ∧
    Handed id seen result (s.toTracking.collections, s.buffers)

/-- The result a poll returns is that of its collection. -/
theorem finishAwait_delivers (op : Op) (w : Wait) (script : PollScript) (awaited : Awaited) :
    Ends (fun s => Waited (Uncollected seen)
        (fun found s => Handed w.data seen found.2 (s.toTracking.collections, s.buffers))
        (fun _ s => (s.toTracking.collections, s.buffers) = seen) s awaited)
      (finishAwait op w script awaited) fun polled s => Delivers (some w.data) seen polled s := by
  refine (finishAwait_returns (fun found => shows_outlives (Handed w.data seen found.2))
    (fun _ => shows_outlives (· = seen)) op w script awaited).mono (fun _ holds => holds) ?_
  rintro (fut | ⟨cd, result⟩) s returned
  · exact .inl returned.2
  · rcases returned with ⟨_, handed⟩ | ⟨e, _, same⟩
    · exact .inr ⟨w.data, cd, result, rfl, rfl, handed⟩
    · exact .inl ⟨congrArg Prod.fst same, congrArg Prod.snd same⟩

theorem any_reads (scripts : List WaitScript) : ∀ script ∈ scripts, Reads (fun _ => True) script.wake :=
  fun _ _ _ _ => trivial

/-- A wait, from its first attempt to its result. -/
theorem awaited_delivers (seen : List Event × Table BufId ParkedBuf) (op : Op) (w : Wait) (script : PollScript) :
    Ends (Uncollected seen) (do finishAwait op w script (← awaitReply w script.waker script.waits))
      fun polled s => Delivers (some w.data) seen polled s :=
  Ends.bind (awaitReply_returns (uncollected_ends w) script.waker script.waits (any_reads _))
    fun awaited => finishAwait_delivers op w script awaited

/-- What a poll does after its send. -/
theorem afterSend_delivers (op : Op) (deadline : Option Instant) (script : PollScript) (sending : Sending) :
    Ends (Uncollected seen) (afterSend op deadline script sending) fun polled s =>
      Delivers op.data seen polled s := by
  cases sending with
  | sleeping => exact Ends.pure fun s holds => .inl holds.2
  | finished result =>
      cases result with
      | error e => exact Ends.pure fun s holds => .inl holds.2
      | ok submission =>
          cases op with
          | tpcall data flags => exact awaited_delivers seen _ (callWait submission data flags deadline) script
          | tpacall | tpgetrply => exact Ends.pure fun s holds => .inl holds.2

theorem begin_uncollected (cd : Cd) (data : BufId) (flags : Flags) (clock : Clock) :
    Ends (Uncollected seen) (beginGetrply cd data flags clock).run fun begun s =>
      Uncollected seen s ∧ ∀ w, begun = .ok w → w.data = data := by
  intro s holds
  rcases begun : (beginGetrply cd data flags clock).run.run s with ⟨result, s'⟩
  obtain ⟨e, ran⟩ | ⟨deadline, any, ran⟩ | ⟨deadline, guard, s'', any, claimed, ran⟩ :=
    beginGetrply_cases cd data flags clock s <;> cases begun.symm.trans ran
  · exact ⟨holds, fun _ impossible => nomatch impossible⟩
  · exact ⟨⟨settled_stable.anyRegistered s holds.1, holds.2.1, holds.2.2⟩, fun w same => by cases same; rfl⟩
  · exact ⟨⟨settled_claimed claimed holds.1, shows_claimed claimed holds.2⟩, fun w same => by cases same; rfl⟩

/-- **What a poll returned and what it handed over** are one outcome, for every future. -/
theorem poll_delivers (script : PollScript) (fut : Fut) :
    Ends (Uncollected seen) (poll script fut) fun polled s => Delivers fut.buffer seen polled s := by
  have resends : ∀ attempt ∈ script.send :: script.resends, ∀ cd ∈ attempt.undone, True :=
    fun _ _ _ _ => trivial
  have start : ∀ op : Op, Ends (Uncollected seen) (startSend op script) fun polled s =>
      Delivers op.data seen polled s := by
    intro op
    unfold startSend
    refine Ends.bind (checked_ends op script.clock) fun checked => Ends.ofFact fun _ => ?_
    cases checked with
    | error e => exact Ends.pure fun s holds => .inl holds.2
    | ok deadline =>
        refine Ends.bind (Q := fun _ => Uncollected seen)
          (Ends.ofModifyGet fun s holds => (uncollected_send fun _ => True).settings (.changed s _ _) holds)
          fun priority => ?_
        refine Ends.bind (sendWithBackpressure_ends (uncollected_send _) op.flags deadline op.claimed
          script.resends _ script.send resends) fun sending => ?_
        exact (afterSend_delivers op deadline script sending).mono (fun _ holds => holds.1) fun _ _ left => left
  cases fut with
  | created op =>
      cases op with
      | tpcall data flags => exact start (.tpcall data flags)
      | tpacall flags => exact start (.tpacall flags)
      | tpgetrply cd data flags =>
          unfold poll startGetrply
          refine Ends.bind (begin_uncollected cd data flags script.clock) fun begun => Ends.ofFact fun mine => ?_
          cases begun with
          | error e => exact Ends.pure fun s holds => .inl holds.2
          | ok w =>
              have delivers := awaited_delivers seen (.tpgetrply cd data flags) w script
              rw [mine w rfl] at delivers
              exact delivers
  | sending op deadline b =>
      unfold poll
      cases script.slept with
      | false => exact Ends.pure fun s holds => .inl holds.2
      | true =>
          refine Ends.bind (sendWithBackpressure_ends (uncollected_send _) op.flags deadline op.claimed
            script.resends b script.send resends) fun sending => ?_
          exact (afterSend_delivers op deadline script sending).mono (fun _ holds => holds.1) fun _ _ left => left
  | waiting op w =>
      exact Ends.bind (resumeReply_returns (uncollected_ends w) script.waker script.waits (any_reads _))
        fun awaited => finishAwait_delivers op w script awaited

end Poll

/-! ## An error that left the drain its buffer -/

/-- The scratch is a buffer, if there is one. -/
def Filled (s : AsyncAtmiCtx) : Prop := ∀ buf, s.scratch = some buf → buf.ptr ≠ 0

theorem Filled.frame {s s' : AsyncAtmiCtx} (filled : Filled s) (scratch : s'.scratch = s.scratch) :
    Filled s' := fun buf here => filled buf (scratch ▸ here)

theorem freeBuf_filled (buf : ParkedBuf) {s : AsyncAtmiCtx} (filled : Filled s) : Filled (s.freeBuf buf) := by
  unfold freeBuf
  split <;> exact filled

theorem stash_filled (buf : ParkedBuf) {s : AsyncAtmiCtx} (filled : Filled s) : Filled (s.stash buf) := by
  unfold stash
  split
  · exact filled
  · rename_i some
    split
    · intro other same
      cases same
      exact some
    · exact filled

theorem takeScratch_filled (alloc : AtmiResult (Option TpTypeInfo)) {s : AsyncAtmiCtx}
    (filled : Filled s) : Filled (s.takeScratch alloc).2 := by
  unfold takeScratch
  cases scratch : s.scratch with
  | some => exact nofun
  | none => cases alloc <;> exact filled

/-- A routed reply may go to the scratch, if it came with a buffer. -/
theorem route_filled (cd : Cd) (outcome : AtmiResult Unit) (buf : ParkedBuf) {s : AsyncAtmiCtx}
    (filled : Filled s) : Filled (s.route cd outcome buf) := by
  unfold route
  simp only [record]
  split
  · exact filled
  · exact stash_filled buf (s := { s with log := _, nextReport := _ }) filled
  · exact filled

/-- No round leaves a null buffer in the scratch. -/
theorem round_filled (reply : NativeReply) {s : AsyncAtmiCtx} (filled : Filled s) :
    Filled (s.drainRound reply).2 := by
  have taken := takeScratch_filled reply.alloc filled
  unfold drainRound
  rcases scratch : s.takeScratch reply.alloc with ⟨err | buffer, s'⟩ <;> rw [scratch] at taken
  · exact taken
  · have received : Filled (s'.observe.tpgetrply reply buffer).2 := by
      have freed : Filled (freeBuf buffer s'.observe.consumeNext) := freeBuf_filled buffer (taken.frame rfl)
      unfold tpgetrply
      cases reply.buffer with
      | kept => exact taken.frame rfl
      | moved => exact freed
      | gone => exact freed
    have lent : ∀ t : AsyncAtmiCtx, Filled t → Filled (t.settle reply (s'.observe.tpgetrply reply buffer).1).2 := by
      intro t filled
      have stashed : ∀ buf, Filled (stash buf { t with lent := none }) :=
        fun buf => stash_filled buf (s := { t with lent := none }) filled
      have routed : ∀ outcome buf, Filled (route reply.cd outcome buf { t with lent := none }) :=
        fun outcome buf => route_filled reply.cd outcome buf (s := { t with lent := none }) filled
      unfold settle
      split
      · split
        · exact stashed _
        · split
          · exact routed _ _
          · exact stashed _
      · split
        · exact routed _ _
        · exact stashed _
    exact lent _ received

theorem filled_stable : Stable Filled where
  quiet := by
    refine Closed.quiet fun {s s'} moved filled => ?_
    cases moved with
    | round reply _ => exact round_filled reply filled
    | draining => exact filled
    | wakeAny => exact filled
  settings := by
    intro s s' moved filled
    cases moved
    exact filled
  undoing _ _ filled := filled
  released s cause cd _ filled := by
    unfold releaseSlot deregister
    split <;> exact freeBuf_filled _ (filled.frame rfl)
  submitted _ _ _ _ _ _ filled := filled
  claimed s cd guard s' claimed filled := by
    obtain ⟨_, rfl, rfl⟩ | ⟨_, _, _, rfl, rfl⟩ := claim_cases claimed <;> exact filled
  dropped s guard _ filled := by
    refine filled.frame ?_
    unfold dropClaim
    split
    · split
      · split
        · split <;> rfl
        · rfl
      · rfl
    · rfl
  parked s target own waker filled := by
    obtain ⟨_, _, _, _, _, _, parked⟩ | ⟨_, _, _, _, parked⟩ | ⟨parked, _⟩ :=
      parkWaker_cases target own waker s <;> rw [parked] <;> exact filled
  collected s target own id flags choice cd result s' filled taken := by
    obtain ⟨missing, _⟩ | ⟨_, generation, origin, outcome, buf, claim, _, _, took⟩ :=
      takeReady_cases target own id flags choice s
    · cases missing.symm.trans taken
    · cases took.symm.trans taken
      unfold handOver
      split
      · exact filled
      · split
        · exact stash_filled buf (s := { s with slots := _, log := _ }) filled
        · exact stash_filled _ (s := { s with slots := _, log := _, buffers := _ }) filled
  errorTaken s id filled := by
    unfold takeAnyError
    split <;> exact filled
  anyRegistered _ filled := filled
  anyDeregistered _ _ filled := filled
  allocated s id info filled := by
    unfold allocData
    split <;> exact filled
  freed s id filled := by
    unfold freeData
    split
    · exact freeBuf_filled _ (filled.frame rfl)
    · exact filled

/-- What a drain lends is a buffer. -/
theorem lent_filled {s s' : AsyncAtmiCtx} {alloc : AtmiResult (Option TpTypeInfo)} {buf : ParkedBuf}
    (settled : Settled s) (filled : Filled s) (lent : s.takeScratch alloc = (.ok buf, s')) : buf.ptr ≠ 0 := by
  unfold takeScratch at lent
  cases scratch : s.scratch with
  | some spare =>
      rw [scratch] at lent
      cases lent
      exact filled _ scratch
  | none =>
      rw [scratch] at lent
      cases alloc with
      | error => cases lent
      | ok info =>
          cases lent
          exact Nat.ne_of_gt settled.balanced.positive

/-- `TPETIME` or `TPESVCERR`. -/
def Code.isReplyless (code : Code) : Bool := code = .TPETIME || code = .other 10

/-- A descriptor error for which the native layer leaves the drain its buffer is parked with it. -/
theorem kept_error_parks {s s' : AsyncAtmiCtx} {reply : NativeReply} {e : AtmiError} {buf : ParkedBuf}
    (settled : Settled s) (filled : Filled s) (lent : s.takeScratch reply.alloc = (.ok buf, s'))
    (positive : 0 < reply.cd) (outcome : reply.outcome = .error e) (replyless : e.code.isReplyless = true)
    (kept : reply.buffer = .kept) (waits : s.isReady reply.cd = false) :
    ∃ generation claim, (s.drainRound reply).2.slots.get reply.cd =
        some (.ready generation (.reply s.nextReport) (.error e) ⟨buf.ptr, reply.len⟩ claim) ∧
      buf.ptr ≠ 0 := by
  have ready := lent_filled settled filled lent
  have tracking : s'.toTracking = s.toTracking := by
    have same := takeScratch_tracking reply.alloc s
    rwa [lent] at same
  have report : s'.nextReport = s.nextReport := congrArg Tracking.nextReport tracking
  have unblocked : e.code ≠ .TPEBLOCK := by
    intro blocked
    simp [Code.isReplyless, blocked] at replyless
  simp only [drainRound, lent, AsyncAtmiCtx.tpgetrply, kept, settle, outcome, unblocked, if_false, positive,
    if_true, route, observe, consumeNext, record]
  have slots : s'.slots = s.slots := congrArg Tracking.slots tracking
  cases found : s.slots.get reply.cd with
  | none =>
      simp only [slots, found]
      exact ⟨s'.nextGeneration, none, by simp [report], ready⟩
  | some slot =>
      cases slot with
      | ready => simp [isReady, found, Slot.isReady] at waits
      | waiting generation waker claim =>
          simp only [slots, found]
          exact ⟨generation, claim, by simp [report], ready⟩

/-! ## Every collection of an error -/

/-- A poll of the future that waits with `id` completes with exactly this error, and the buffer
is the one it was. -/
def Honours (id : BufId) (code : Code) (before : AsyncAtmiCtx) (polled : Polled) (after : AsyncAtmiCtx) : Prop :=
  (∃ cd message, polled = .ready cd (.error ⟨code, message⟩)) ∧ after.data id = before.data id

/-- **A descriptor error replaces the caller's buffer.**  Wherever the buffers are in order, as
they are throughout every run, a drain whose native call reports `TPETIME` or `TPESVCERR` for a
descriptor and leaves the buffer it was given parks that buffer, which is never null; and a poll
that takes such an outcome completes with exactly that error and the caller's buffer as it was
if and only if the buffer parked with it is null. -/
theorem errors_replace_buffers (labels : List Label) :
    let s := (machine.run labels).shared
    (Settled s ∧ Filled s) ∧
    (∀ (t t' : AsyncAtmiCtx) (reply : NativeReply) (e : AtmiError) (buf : ParkedBuf), Settled t → Filled t →
      t.takeScratch reply.alloc = (.ok buf, t') → 0 < reply.cd → reply.outcome = .error e →
      e.code.isReplyless = true → reply.buffer = .kept → t.isReady reply.cd = false →
      ∃ generation claim, (t.drainRound reply).2.slots.get reply.cd =
          some (.ready generation (.reply t.nextReport) (.error e) ⟨buf.ptr, reply.len⟩ claim) ∧
        buf.ptr ≠ 0) ∧
    (∀ (fut : Fut) (script : PollScript) (id : BufId) (polled : Polled) (s' : AsyncAtmiCtx),
      fut.buffer = some id → (poll script fut).run s = (polled, s') →
      ∀ own cd generation report e buf claim refused, e.code.isReplyless = true →
        s'.toTracking.collections =
          .collected own cd (.ready generation (.reply report) (.error e) buf claim) refused ::
            s.toTracking.collections →
        (Honours id e.code s polled s' ↔ buf.ptr = 0)) := by
  intro s
  have settled : Settled s := stable_reachable settled_stable settled_init labels
  have filled : Filled s := stable_reachable filled_stable nofun labels
  refine ⟨⟨settled, filled⟩, fun t t' reply e buf settled filled lent positive outcome replyless kept waits =>
    kept_error_parks settled filled lent positive outcome replyless kept waits, ?_⟩
  intro fut script id polled s' mine ran own cd generation report e buf claim refused replyless taken
  have uncollected : Uncollected (s.toTracking.collections, s.buffers) s := ⟨settled, shows_self s⟩
  have delivers := poll_delivers script fut s uncollected
  rw [ran] at delivers
  rcases delivers with shows | ⟨id', cd', result, his, same, handed⟩
  · have same := shows.1.symm.trans taken
    simp at same
  · cases mine.symm.trans his
    subst same
    cases handed with
    | alone own' cd'' generation' origin buf' claim' refused' taken' null kept =>
        cases taken'.symm.trans taken
        refine ⟨fun _ => null, fun _ => ⟨⟨cd', e.message, rfl⟩, ?_⟩⟩
        simp only [data]
        rw [show s'.buffers = s.buffers from kept]
    | refused own' cd'' generation' origin outcome buf' claim' message taken' some same kept =>
        cases taken'.symm.trans taken
        refine ⟨fun honours => ?_, fun null => absurd null some⟩
        obtain ⟨⟨cd₀, message₀, completes⟩, _⟩ := honours
        subst same
        simp only [Polled.ready.injEq, Except.error.injEq, AtmiError.mk.injEq] at completes
        simp [Code.isReplyless, ← completes.2.1] at replyless
    | swapped own' cd'' generation' origin buf' claim' refused' taken' some new swapped =>
        cases taken'.symm.trans taken
        refine ⟨fun honours => ?_, fun null => absurd null some⟩
        have unchanged : s'.data id = s.data id := honours.2
        simp only [data] at unchanged
        rw [show s'.buffers = _ from swapped, Table.get_set, if_pos rfl, Option.getD_some] at unchanged
        exact absurd (congrArg ParkedBuf.ptr unchanged.symm) new

/-- A call that the native layer times out, leaving the drain's buffer alone, and a wait for it. -/
def timedOutReply : NativeReply := { cd := 1, outcome := .error ⟨.TPETIME, ""⟩, buffer := .kept }

def timedOutCall (flags : Flags) : List Label :=
  [.allocData 0 (some ⟨"STRING", ""⟩), .tryTpacall {} {} {}, .make (.tpgetrply 1 0 flags)]

theorem timedOut_replaces_buffer :
    let collecting : PollScript := { waker := 0, waits := [{ before := [timedOutReply] }] }
    let fut : Flags → Fut := fun flags => .created (.tpgetrply 1 0 flags)
    let s : Flags → AsyncAtmiCtx := fun flags => (machine.run (timedOutCall flags)).shared
    let ran : Flags → Polled × AsyncAtmiCtx := fun flags => (poll collecting (fut flags)).run (s flags)
    (((ran {}).1 matches .ready 1 (.error ⟨.TPETIME, _⟩)) = true ∧ (ran {}).2.data 0 ≠ (s {}).data 0) ∧
    (((ran { noChange := true }).1 matches .ready 1 (.error ⟨.TPEOTYPE, _⟩)) = true) := by
  decide +kernel

end Endurox.Async
