/-
# Async.Timeouts -- when a `TPGETANY` may report `TPETIME`

A `TPGETANY` waits until the deadline it took when it began: the earliest that
was recorded for any descriptor then, or its own reply timeout when none was.
`captured_reachable` follows that deadline from the poll that took it through
every step of a run; `getany_times_out` is what a `TPETIME` then means.  The
descriptor the deadline came from may be another future's
(`any_times_out_for_call`).
-/
import Endurox.Async.Failures
import Endurox.Async.Handover

namespace Endurox.Async

open Endurox.Theory AsyncAtmiCtx

set_option autoImplicit false

/-! ## The deadline a wait takes -/

/-- The deadline a `TPGETANY` takes: the earliest recorded, or its own reply timeout. -/
def Captured (flags : Flags) (clock : Clock) (s : AsyncAtmiCtx) (deadline : Option Instant) : Prop :=
  (∃ cd d, deadline = some d ∧ s.deadlines.get cd = some (some d) ∧
    ∀ cd' d', s.deadlines.get cd' = some (some d') → d ≤ d') ∨
  (∀ cd d, s.deadlines.get cd ≠ some (some d)) ∧ ((deadlineFor flags clock).run.run s).1 = .ok deadline

/-- The earliest deadline is that of a call, and no call has an earlier one. -/
theorem earliestDeadline_some {s : AsyncAtmiCtx} {d : Instant} (earliest : s.earliestDeadline = some d) :
    (∃ cd, s.deadlines.get cd = some (some d)) ∧
      ∀ cd d', s.deadlines.get cd = some (some d') → d ≤ d' := by
  obtain ⟨member, least⟩ := List.min?_eq_some_iff.1 earliest
  refine ⟨?_, fun cd d' recorded => least d' ?_⟩
  · obtain ⟨recorded, inside, same⟩ := List.mem_filterMap.1 member
    obtain ⟨cd, found⟩ := Table.mem_vals.1 inside
    exact ⟨cd, by rw [found]; exact congrArg some same⟩
  · exact List.mem_filterMap.2 ⟨some d', Table.mem_vals.2 ⟨cd, recorded⟩, rfl⟩

theorem earliestDeadline_none {s : AsyncAtmiCtx} (earliest : s.earliestDeadline = none) (cd : Cd)
    (d : Instant) : s.deadlines.get cd ≠ some (some d) := by
  intro recorded
  have empty : s.deadlines.vals.filterMap id = [] := List.min?_eq_none_iff.1 earliest
  have member : d ∈ s.deadlines.vals.filterMap id :=
    List.mem_filterMap.2 ⟨some d, Table.mem_vals.2 ⟨cd, recorded⟩, rfl⟩
  rw [empty] at member
  cases member

/-- A `TPGETANY` takes the earliest deadline there is when it begins. -/
theorem getrplyDeadline_captures {cd : Cd} {flags : Flags} {clock : Clock} {s : AsyncAtmiCtx}
    {deadline : Option Instant} (any : flags.getAny = true)
    (answered : ((getrplyDeadline cd flags clock).run.run s).1 = .ok deadline) :
    Captured flags clock s deadline := by
  unfold getrplyDeadline at answered
  have reading : (get : Act AsyncAtmiCtx).run.run s = (.ok s, s) := rfl
  rw [run_tryBind_ok reading, if_pos any] at answered
  cases earliest : s.earliestDeadline with
  | some d =>
      rw [earliest] at answered
      obtain ⟨⟨cd, found⟩, least⟩ := earliestDeadline_some earliest
      cases answered
      exact .inl ⟨cd, d, rfl, found, least⟩
  | none =>
      rw [earliest] at answered
      exact .inr ⟨earliestDeadline_none earliest, answered⟩

/-- A `tpgetrply` that begins to wait for any reply has just taken its deadline. -/
theorem begin_captures {cd : Cd} {data : BufId} {flags : Flags} {clock : Clock} {s s' : AsyncAtmiCtx}
    {w : Wait} {id : Nat} (begun : (beginGetrply cd data flags clock).run.run s = (.ok w, s'))
    (any : w.target = .any id) : Captured flags clock s w.deadline := by
  unfold beginGetrply at begun
  obtain ⟨_ | _, ran⟩ := (checkSupportedFlags_keeps (P := (· = s)) flags).unchanged
  · rw [run_tryBind_error ran] at begun
    cases begun
  rw [run_tryBind_ok ran] at begun
  obtain ⟨_ | deadline, ran⟩ := (getrplyDeadline_keeps (P := (· = s)) cd flags clock).unchanged
  · rw [run_tryBind_error ran] at begun
    cases begun
  rw [run_tryBind_ok ran] at begun
  cases getAny : flags.getAny with
  | true =>
      rw [getAny, if_pos rfl] at begun
      cases begun
      exact getrplyDeadline_captures getAny (by rw [ran])
  | false =>
      exfalso
      rw [getAny] at begun
      simp only [Bool.false_eq_true, if_false] at begun
      have claiming : (modifyGet (claim cd) : Act _).run.run s = (.ok (s.claim cd).1, (s.claim cd).2) := rfl
      rw [run_tryBind_ok claiming] at begun
      rcases claimed : s.claim cd with ⟨e | guard, after⟩ <;> rw [claimed] at begun <;> cases begun
      cases any

/-! ## Registrations since then -/

/-- Registration `id`, if there is one, was made after `n` failures. -/
def RegisteredSince (n : Nat) (id : Nat) (s : AsyncAtmiCtx) : Prop :=
  n ≤ s.failures.length ∧ ∀ entry, s.anyWaiters.get id = some entry → n ≤ entry.since

theorem RegisteredSince.kept {n id : Nat} {s s' : AsyncAtmiCtx} (since : RegisteredSince n id s)
    (failures : s.failures.length ≤ s'.failures.length)
    (waiters : ∀ entry', s'.anyWaiters.get id = some entry' → ∃ entry, s.anyWaiters.get id = some entry ∧
      entry'.since = entry.since) : RegisteredSince n id s' := by
  refine ⟨Nat.le_trans since.1 failures, fun entry' found' => ?_⟩
  obtain ⟨entry, found, same⟩ := waiters entry' found'
  exact same ▸ since.2 entry found

theorem since_frame {n id : Nat} {s s' : AsyncAtmiCtx} (waking : s'.toWaking = s.toWaking)
    (since : RegisteredSince n id s) : RegisteredSince n id s' := by
  unfold RegisteredSince
  rw [waking]
  exact since

theorem since_quiet {may : Cd → Prop} {n id : Nat} : Closed (Quiet may) (RegisteredSince n id) := by
  refine Closed.quiet fun {s s'} moved since => ?_
  obtain ⟨told, failures, heard⟩ := moved_tells moved
  refine since.kept (by simp [failures]) fun entry' found' => ?_
  obtain ⟨entry, found, same, _⟩ := heard_before (heard id) found'
  exact ⟨entry, found, same⟩

/-- A registration stays until it is given up; only its waker and its error change. -/
theorem since_stable (n id : Nat) : Stable (RegisteredSince n id) where
  quiet := since_quiet
  settings moved since := by
    cases moved
    exact since
  undoing _ _ since := since
  released s cause cd _ since := since_frame (releaseSlot_waking cause cd s) since
  submitted _ _ _ _ _ _ since := since
  claimed s cd guard s' claimed since := by
    obtain ⟨_, _, rfl⟩ | ⟨_, _, _, _, rfl⟩ := claim_cases claimed <;> exact since
  dropped s guard _ since := by
    have woken : ∀ slots, RegisteredSince n id (wakeAnyWaiters { s with slots }) := fun slots =>
      since_quiet (.wakeAny { s with slots } : Quiet (fun _ => True) _ _) since
    unfold dropClaim
    split
    · split
      · split
        · split
          · exact since
          · exact woken _
        · exact woken _
      · exact since
    · exact since
  parked s target own waker since := by
    refine since.kept ?_ fun entry' found' => ?_
    · obtain ⟨_, _, _, _, _, _, parked⟩ | ⟨_, _, _, _, parked⟩ | ⟨parked, _⟩ :=
        parkWaker_cases target own waker s
      all_goals simp [parked, record]
    · rw [parkWaker_anyWaiters, Option.map_eq_some_iff] at found'
      obtain ⟨entry, found, rfl⟩ := found'
      exact ⟨entry, found, by split <;> rfl⟩
  collected s target own data flags choice cd result s' since taken := by
    have waking := takeReady_waking taken
    exact since_frame (show (s'.forgetDeadline cd).toWaking = s.toWaking from waking) since
  errorTaken s id' since := by
    unfold takeAnyError
    split
    · rename_i entry found
      refine since.kept (Nat.le_refl _) fun entry' found' => ?_
      rw [Table.get_set] at found'
      split at found'
      · rename_i same
        cases found'
        exact ⟨entry, same ▸ found, rfl⟩
      · exact ⟨entry', found', rfl⟩
    · exact since
  anyRegistered s since := by
    refine ⟨since.1, fun entry found => ?_⟩
    simp only [registerAnyWaiter, Table.get_set] at found
    split at found
    · cases found
      exact since.1
    · exact since.2 entry found
  anyDeregistered s id' since := by
    refine since.kept (Nat.le_refl _) fun entry' found' => ?_
    simp only [deregisterAnyWaiter, Table.get_del] at found'
    split at found'
    · cases found'
    · exact ⟨entry', found', rfl⟩
  allocated s data info since := since_frame (by simp) since
  freed s data since := since_frame (by simp) since

/-! ## Pending polls -/

/-- The same wait, suspended again. -/
def Again (w : Wait) : Fut → Prop
  | .waiting _ w' => ∃ waker mark seen, w' = { w with waker, mark, seen }
  | _ => False

/-- A poll leaves a wait as it was, up to its waker, or ends it. -/
theorem finishAwait_again (op : Op) (w : Wait) (script : PollScript) (awaited : Awaited) :
    Ends (fun _ => True) (finishAwait op w script awaited) fun polled _ =>
      ∀ fut, polled = .pending fut → Again w fut := by
  have ignored : ∀ m : StateM AsyncAtmiCtx Unit, Ends (fun _ => True) m fun _ _ => True :=
    fun _ _ _ => trivial
  unfold finishAwait
  cases awaited with
  | suspended =>
      refine Ends.bind (Q := fun _ _ => True) Keeps.ofGet fun s => Ends.pure fun _ _ fut same => ?_
      cases same
      exact ⟨_, _, _, rfl⟩
  | finished result =>
      have ended : ∀ cd result, ∀ fut, (Polled.ready cd result) = .pending fut → Again w fut :=
        fun _ _ _ impossible => nomatch impossible
      have getrply : Ends (fun _ => True) (finishGetrply op.cd w result script.finish) fun polled _ =>
          ∀ fut, polled = .pending fut → Again w fut := by
        unfold finishGetrply
        cases result with
        | error e => exact Ends.bind (ignored _) fun _ => Ends.pure fun _ _ => ended _ _
        | ok found => exact Ends.bind (ignored _) fun _ => Ends.bind (ignored _) fun _ => Ends.pure fun _ _ => ended _ _
      cases w.guard with
      | claim | anyWaiter => exact getrply
      | pendingCall cd => exact Ends.bind (ignored _) fun _ => Ends.pure fun _ _ => ended _ _

/-- The wait a pending future was left in, if it waits for any reply. -/
def Fut.any? : Fut → Option Wait
  | .waiting _ w => match w.target with
    | .any _ => some w
    | .one _ => none
  | _ => none

/-- The future waits as it did, or this poll made it wait: its deadline was taken just then, and
it registered. -/
def Takes (script : PollScript) (fut : Fut) (s : AsyncAtmiCtx) (w : Wait) : Prop :=
  (∃ w₀, fut.any? = some w₀ ∧ w.deadline = w₀.deadline ∧ w.target = w₀.target) ∨
    ∃ cd data flags w₀ s', fut = .created (.tpgetrply cd data flags) ∧
      (beginGetrply cd data flags script.clock).run.run s = (.ok w₀, s') ∧
      Captured flags script.clock s w.deadline ∧ w.target = w₀.target

/-- A wait that goes on is the wait it was. -/
theorem again_any {w w' : Wait} {fut : Fut} (again : Again w fut) (any : fut.any? = some w') :
    w'.deadline = w.deadline ∧ w'.target = w.target ∧ ∃ id, w.target = .any id := by
  cases fut with
  | created | sending => cases again
  | waiting op w'' =>
      obtain ⟨waker, mark, seen, rfl⟩ := again
      simp only [Fut.any?] at any
      cases target : w.target with
      | one cd => simp [target] at any
      | any id =>
          simp only [target, Option.some.injEq] at any
          subst any
          exact ⟨rfl, rfl, id, rfl⟩

/-- The first poll of a `tpgetrply`. -/
theorem poll_getrply (script : PollScript) (cd : Cd) (data : BufId) (flags : Flags) (s : AsyncAtmiCtx) :
    (poll script (.created (.tpgetrply cd data flags))).run s =
      match (beginGetrply cd data flags script.clock).run.run s with
      | (.error e, s') => (.ready cd (.error e), s')
      | (.ok w, s') => (do
          finishAwait (.tpgetrply cd data flags) w script (← awaitReply w script.waker script.waits)).run s' := by
  simp only [poll, startGetrply, StateT.run_bind]
  rcases (beginGetrply cd data flags script.clock).run.run s with ⟨e | w, s'⟩ <;> rfl

/-- A wait for any reply that has just begun registered in the state it began in. -/
theorem begin_since {cd : Cd} {data : BufId} {flags : Flags} {clock : Clock} {s s' : AsyncAtmiCtx}
    {w : Wait} {id : Nat} (begun : (beginGetrply cd data flags clock).run.run s = (.ok w, s'))
    (any : w.target = .any id) : w.Shaped ∧ w.Known s' ∧ RegisteredSince s.failures.length id s' := by
  obtain ⟨e, ran⟩ | ⟨deadline, getAny, ran⟩ | ⟨deadline, guard, s'', _, claimed, ran⟩ :=
    beginGetrply_cases cd data flags clock s <;> cases begun.symm.trans ran
  · cases any
    refine ⟨⟨rfl, rfl⟩, ⟨by simp, by simp⟩, Nat.le_refl _, fun entry found => ?_⟩
    simp only [registerAnyWaiter, Table.get_set, if_true, Option.some.injEq] at found
    subst found
    exact Nat.le_refl _
  · cases any

theorem poll_since {script : PollScript} {cd : Cd} {data : BufId} {flags : Flags} {s s' : AsyncAtmiCtx}
    {w : Wait} {id : Nat} (begun : (beginGetrply cd data flags script.clock).run.run s = (.ok w, s'))
    (any : w.target = .any id) :
    RegisteredSince s.failures.length id ((poll script (.created (.tpgetrply cd data flags))).run s).2 := by
  obtain ⟨shaped, known, since⟩ := begin_since begun any
  have rules := (since_stable s.failures.length id).stepRules
  have left := awaited_ends rules.toReplyRules (anything_admits script).waits shaped (.tpgetrply cd data flags) s'
    ⟨⟨since, known⟩, trivial⟩
  rw [poll_getrply, begun]
  exact left_holds rules left

/-- **Where a wait comes from**: the poll that began it, or the one before. -/
theorem poll_takes (script : PollScript) (fut fut' : Fut) (s : AsyncAtmiCtx) (w : Wait)
    (left : ((poll script fut).run s).1 = .pending fut') (any : fut'.any? = some w) :
    Takes script fut s w := by
  have called : ∀ op deadline sending, Ends (fun _ => True) (afterSend op deadline script sending)
      fun polled _ => ∀ fut, polled = .pending fut → fut.any? = none := by
    intro op deadline sending
    cases sending with
    | sleeping b wake => exact Ends.pure fun _ _ fut same => by cases same; rfl
    | finished result =>
        cases result with
        | error e => exact Ends.pure fun _ _ fut impossible => nomatch impossible
        | ok submission =>
            cases op with
            | tpacall | tpgetrply => exact Ends.pure fun _ _ fut impossible => nomatch impossible
            | tpcall data flags =>
                refine Ends.bind (Q := fun _ _ => True) (fun _ _ => trivial) fun awaited => ?_
                refine (finishAwait_again _ _ script awaited).mono (fun _ holds => holds) ?_
                intro polled _ again fut same
                cases waits : fut.any? with
                | none => rfl
                | some w' =>
                    obtain ⟨_, _, id, impossible⟩ := again_any (again fut same) waits
                    cases impossible
  have started : ∀ op, Ends (fun _ => True) (startSend op script) fun polled _ =>
      ∀ fut, polled = .pending fut → fut.any? = none := by
    intro op
    unfold startSend
    refine Ends.bind (Q := fun _ _ => True) (fun _ _ => trivial) fun checked => ?_
    cases checked with
    | error e => exact Ends.pure fun _ _ fut impossible => nomatch impossible
    | ok deadline =>
        exact Ends.bind (Q := fun _ _ => True) (fun _ _ => trivial) fun priority =>
          Ends.bind (Q := fun _ _ => True) (fun _ _ => trivial) fun sending => called op deadline sending
  cases fut with
  | waiting op w₀ =>
      have again : Ends (fun _ => True) (poll script (.waiting op w₀)) fun polled _ =>
          ∀ fut, polled = .pending fut → Again w₀ fut :=
        Ends.bind (Q := fun _ _ => True) (fun _ _ => trivial) fun awaited => finishAwait_again op w₀ script awaited
      obtain ⟨same, still, id, target⟩ := again_any (again s trivial fut' left) any
      exact .inl ⟨w₀, by simp [Fut.any?, target], same, still⟩
  | sending op deadline b =>
      exfalso
      have none : Ends (fun _ => True) (poll script (.sending op deadline b)) fun polled _ =>
          ∀ fut, polled = .pending fut → fut.any? = none := by
        unfold poll
        cases script.slept with
        | false => exact Ends.pure fun _ _ fut same => by cases same; rfl
        | true => exact Ends.bind (Q := fun _ _ => True) (fun _ _ => trivial) fun sending => called op deadline sending
      simp [none s trivial fut' left] at any
  | created op =>
      cases op with
      | tpcall data flags =>
          exfalso
          simp [started (.tpcall data flags) s trivial fut' left] at any
      | tpacall flags =>
          exfalso
          simp [started (.tpacall flags) s trivial fut' left] at any
      | tpgetrply cd data flags =>
          rw [poll_getrply] at left
          rcases begun : (beginGetrply cd data flags script.clock).run.run s with ⟨e | w₀, s'⟩
          · rw [begun] at left
            cases left
          · rw [begun] at left
            have again := Ends.bind (P := fun _ => True) (Q := fun _ _ => True) (m := awaitReply w₀ script.waker script.waits)
              (fun _ _ => trivial) (fun awaited => finishAwait_again (.tpgetrply cd data flags) w₀ script awaited) s' trivial
            obtain ⟨same, still, id, target⟩ := again_any (again fut' left) any
            exact .inr ⟨cd, data, flags, w₀, s', rfl, begun, same ▸ begin_captures begun target, still⟩

/-! ## Along a run -/

/-- The wait of future `f` began at an earlier poll of the run, which took its deadline, and its
registration was made after the failures there were then. -/
def TakenIn (labels : List Label) (f : Nat) (w : Wait) (s : AsyncAtmiCtx) : Prop :=
  ∃ earlier start later cd data flags, labels = earlier ++ .poll f start :: later ∧
    (machine.run earlier).futures.get f = some (.created (.tpgetrply cd data flags)) ∧
    Captured flags start.clock (machine.run earlier).shared w.deadline ∧
    ∀ id, w.target = .any id → RegisteredSince (machine.run earlier).shared.failures.length id s

theorem TakenIn.later {labels : List Label} {f : Nat} {w : Wait} {s : AsyncAtmiCtx}
    (taken : TakenIn labels f w s) (label : Label) (s' : AsyncAtmiCtx)
    (kept : ∀ n id, RegisteredSince n id s → RegisteredSince n id s') : TakenIn (labels ++ [label]) f w s' := by
  obtain ⟨earlier, start, later, cd, data, flags, same, created, captured, since⟩ := taken
  exact ⟨earlier, start, later ++ [label], cd, data, flags, by simp [same], created, captured,
    fun id target => kept _ id (since id target)⟩

/-- In every run a wait has the deadline it took when it began. -/
theorem captured_reachable (labels : List Label) : ∀ f fut, (machine.run labels).futures.get f = some fut →
    ∀ w, fut.any? = some w → TakenIn labels f w (machine.run labels).shared := by
  refine Machine.invariantTrace (M := machine)
    (P := fun labels world => ∀ f fut, world.futures.get f = some fut → ∀ w, fut.any? = some w →
      TakenIn labels f w world.shared) ?_ (fun labels label before => ?_) labels
  · intro f fut found
    simp [machine] at found
  · have kept : ∀ n id, RegisteredSince n id (machine.run labels).shared →
        RegisteredSince n id ((machine.run labels).step label).shared :=
      fun n id since => step_keeps (since_stable n id) (known_reachable labels) since label
    refine step_numbered (F := fun f s fut => ∀ w, fut.any? = some w → TakenIn (labels ++ [label]) f w s)
      label (fun f fut found w any => (before f fut found w any).later label _ kept)
      (fun f op w any => by cases any) ?_
    intro f script fut fut' same found left w any
    rcases poll_takes script fut fut' _ w left any with
      ⟨w₀, waited, deadline, target⟩ | ⟨cd, data, flags, w₀, s', rfl, begun, captured, target⟩
    · obtain ⟨earlier, start, later, cd, data, flags, run, created, captured, since⟩ :=
        (before f fut found w₀ waited).later label _ kept
      exact ⟨earlier, start, later, cd, data, flags, run, created, deadline ▸ captured,
        fun id mine => since id (target ▸ mine)⟩
    · refine ⟨labels, script, [], cd, data, flags, by rw [same], found, captured, fun id mine => ?_⟩
      rw [same, poll_shared script found]
      exact poll_since begun (target ▸ mine)

/-! ## What a `TPETIME` means -/

/-- The clock readings of the timers a poll waits on. -/
def PollScript.timers (script : PollScript) : List Instant :=
  script.waits.filterMap fun wait => match wait.wake with
    | .timer now => some now
    | _ => none

theorem timers_read (script : PollScript) :
    ∀ wait ∈ script.waits, Reads (· ∈ script.timers) wait.wake := by
  intro wait member now same
  exact List.mem_filterMap.2 ⟨wait, member, by rw [same]⟩

/-- Why a wait for any reply may report `TPETIME` on its own: a queue-level failure with that
error was reported after the first `n`, or the wait's deadline has been reached. -/
def OwnTimeout (n : Nat) (w : Wait) (reads : Instant → Prop) (e : AtmiError) (s : AsyncAtmiCtx) : Prop :=
  e.code = .TPETIME → (∃ f ∈ s.failures.take (s.failures.length - n), f.err = e) ∨
    ∃ d now, w.deadline = some d ∧ reads now ∧ d ≤ now

/-- A timeout stays one's own while others fail. -/
theorem ownTimeout_kept {n : Nat} {w : Wait} {reads : Instant → Prop} {e : AtmiError} {s s' : AsyncAtmiCtx}
    (failures : ∃ told, s'.failures = told ++ s.failures) (due : OwnTimeout n w reads e s) :
    OwnTimeout n w reads e s' := by
  intro timeout
  obtain ⟨told, failures⟩ := failures
  refine (due timeout).imp (fun ⟨f, member, same⟩ => ⟨f, ?_, same⟩) id
  rw [failures]
  by_cases few : s.failures.length ≤ n
  · rw [Nat.sub_eq_zero_of_le few] at member
    cases member
  · have split : (told ++ s.failures).length - n = told.length + (s.failures.length - n) := by
      rw [List.length_append]
      omega
    rw [split, List.take_length_add_append]
    exact List.mem_append_right _ member

theorem dropClaim_failures (guard : ReplyClaimGuard) (s : AsyncAtmiCtx) :
    (s.dropClaim guard).failures = s.failures := by
  unfold dropClaim
  split
  · split
    · split
      · split <;> rfl
      · rfl
    · rfl
  · rfl

theorem ownTimeout_outlives (n : Nat) (w : Wait) (reads : Instant → Prop) (e : AtmiError) :
    Outlives (OwnTimeout n w reads e) where
  quiet := by
    refine Closed.quiet fun {s s'} moved due => ?_
    obtain ⟨told, failures, _⟩ := moved_tells moved
    exact ownTimeout_kept ⟨told.toList, failures⟩ due
  forgot _ _ due := due
  released s own cd due := ownTimeout_kept ⟨[], by
    have waking := releaseSlot_waking (.dropped own) cd s
    exact congrArg Waking.failures waking⟩ due
  dropped s guard due := ownTimeout_kept ⟨[], dropClaim_failures guard s⟩ due
  deregistered _ _ due := due

/-- What holds while a wait for any reply goes on: nothing collected, and its registration's error
was reported since. -/
def Pends (seen : List Event × Table BufId ParkedBuf) (n id : Nat) (s : AsyncAtmiCtx) : Prop :=
  Uncollected seen s ∧ Registered s ∧ RegisteredSince n id s

/-- **The exits of a `TPGETANY`**: at its deadline it times out, with nothing collected. -/
theorem getany_ends {seen : List Event × Table BufId ParkedBuf} {n id : Nat} {w : Wait}
    (reads : Instant → Prop) (any : w.target = .any id) :
    EndRules w reads (Pends seen n id)
      (fun found s => Handed w.data seen found.2 (s.toTracking.collections, s.buffers))
      (OwnTimeout n w reads) where
  quiet moved holds := ⟨(uncollected_ends w).quiet moved holds.1, registered_quiet moved holds.2.1,
    since_quiet moved holds.2.2⟩
  parked s waker holds := ⟨(uncollected_ends w).parked s waker holds.1,
    registered_stable.parked s _ _ waker holds.2.1, (since_stable n id).parked s _ _ waker holds.2.2⟩
  errorTaken s id' target holds := ⟨(uncollected_ends w).errorTaken s id' target holds.1,
    registered_stable.errorTaken s id' holds.2.1, (since_stable n id).errorTaken s id' holds.2.2⟩
  released s cd target _ := nomatch any.symm.trans target
  took _ _ _ _ holds taken := take_handed holds.1 taken
  told s id' e target holds told timeout := by
    cases any.symm.trans target
    left
    unfold takeAnyError at told ⊢
    cases found : s.anyWaiters.get id with
    | none => simp [found] at told
    | some entry =>
        simp only [found] at told ⊢
        obtain ⟨_, reported⟩ := holds.2.1 id entry found
        obtain ⟨f, member, same⟩ := reported e told
        have since := holds.2.2.2 entry found
        exact ⟨f, List.take_subset_take_left _ (Nat.sub_le_sub_left since _) member, same⟩
  empty _ _ _ timeout := nomatch timeout
  failed _ _ _ timeout := nomatch timeout
  timedOut _ now read due _ _ := by
    obtain ⟨d, same, late⟩ := (Option.any_eq_true _ _).1 due
    exact .inr ⟨d, now, same, read, by simpa using late⟩

/-- How a poll's `TPETIME` came about: it was parked as some descriptor's outcome, reported for the
queue, or is the wait's own. -/
def TimesOut (n : Nat) (w : Wait) (script : PollScript) (e : AtmiError) (s s' : AsyncAtmiCtx) : Prop :=
  (∃ own cd generation origin buf claim refused, s'.toTracking.collections =
    .collected own cd (.ready generation origin (.error e) buf claim) refused :: s.toTracking.collections) ∨
  (∃ f ∈ s'.failures.take (s'.failures.length - n), f.err = e) ∨
  ∃ d now, w.deadline = some d ∧ now ∈ script.timers ∧ d ≤ now

/-- The error of the wait is the result of the poll. -/
theorem finishAwait_timesOut {n id : Nat} {w : Wait} {op : Op} {script : PollScript} {awaited : Awaited}
    {s₀ s s' : AsyncAtmiCtx} {cd : Cd} {e : AtmiError}
    (waited : Waited (Pends (s₀.toTracking.collections, s₀.buffers) n id)
      (fun found s => Handed w.data (s₀.toTracking.collections, s₀.buffers) found.2
        (s.toTracking.collections, s.buffers)) (OwnTimeout n w (· ∈ script.timers)) s awaited)
    (ran : (finishAwait op w script awaited).run s = (.ready cd (.error e), s')) (timeout : e.code = .TPETIME) :
    TimesOut n w script e s₀ s' := by
  have returned := finishAwait_returns
    (fun found => shows_outlives (Handed w.data (s₀.toTracking.collections, s₀.buffers) found.2))
    (ownTimeout_outlives n w (· ∈ script.timers)) op w script awaited s waited
  rw [ran] at returned
  rcases returned with ⟨_, handed⟩ | ⟨e', same, due⟩
  · left
    cases handed with
    | alone own cd' generation origin buf claim refused taken => exact ⟨own, cd', generation, origin, buf, claim, refused, taken⟩
    | swapped own cd' generation origin buf claim refused taken => exact ⟨own, cd', generation, origin, buf, claim, refused, taken⟩
    | refused own cd' generation origin outcome buf claim message taken some same =>
        cases same
        cases timeout
  · cases same
    exact .inr (due timeout)

/-- **`TPGETANY` times out no earlier than its deadline.**  In every run, when a poll of a wait for
any reply returns `TPETIME`, that is the outcome it collected, or a queue-level failure reported
since the wait began, or the wait's own timeout, and then the deadline it took in the poll it began
in has been reached.  That was the earliest deadline recorded for any descriptor then, or its
own reply timeout when none was recorded. -/
theorem getany_times_out (labels : List Label) (f : Nat) (op : Op) (w : Wait) (id : Nat)
    (script : PollScript) (cd : Cd) (e : AtmiError) (s' : AsyncAtmiCtx)
    (waiting : (machine.run labels).futures.get f = some (.waiting op w)) (any : w.target = .any id)
    (ran : (poll script (.waiting op w)).run (machine.run labels).shared = (.ready cd (.error e), s'))
    (timeout : e.code = .TPETIME) :
    ∃ earlier start later cd data flags, labels = earlier ++ .poll f start :: later ∧
      (machine.run earlier).futures.get f = some (.created (.tpgetrply cd data flags)) ∧
      Captured flags start.clock (machine.run earlier).shared w.deadline ∧
      TimesOut (machine.run earlier).shared.failures.length w script e (machine.run labels).shared s' := by
  have mine : (Fut.waiting op w).any? = some w := by simp [Fut.any?, any]
  obtain ⟨earlier, start, later, asked, data, flags, same, created, captured, since⟩ :=
    captured_reachable labels f _ waiting w mine
  refine ⟨earlier, start, later, asked, data, flags, same, created, captured, ?_⟩
  have settled : Settled (machine.run labels).shared := stable_reachable settled_stable settled_init labels
  have registered : Registered (machine.run labels).shared :=
    stable_reachable registered_stable (fun _ _ found => nomatch found) labels
  have pends : Pends ((machine.run labels).shared.toTracking.collections, (machine.run labels).shared.buffers)
      (machine.run earlier).shared.failures.length id (machine.run labels).shared :=
    ⟨⟨settled, shows_self _⟩, registered, since id any⟩
  have waited := resumeReply_returns (getany_ends (· ∈ script.timers) any) script.waker script.waits
    (timers_read script) (machine.run labels).shared pends
  have split : (poll script (.waiting op w)).run (machine.run labels).shared =
      (finishAwait op w script ((resumeReply w script.waker script.waits).run (machine.run labels).shared).1).run
        ((resumeReply w script.waker script.waits).run (machine.run labels).shared).2 := rfl
  rw [split] at ran
  exact finishAwait_timesOut waited ran timeout

/-- A call waits for its reply until the first second, and a `TPGETANY` beside it. -/
def anyBesideCall : List Label :=
  [.allocData 0 (some ⟨"STRING", ""⟩), .allocData 1 (some ⟨"STRING", ""⟩), .make (.tpcall 0 {}),
   .poll 0 { waker := 0, clock := { blktime := .ok 1 }, waits := [{}] },
   .make (.tpgetrply 0 1 { getAny := true }),
   .poll 1 { waker := 1, waits := [{}] }]

/-- The `TPGETANY` as that leaves it. -/
def anyWait : Wait :=
  { target := .any 1, own := .any 1, guard := .anyWaiter 1, data := 1, flags := { getAny := true },
    deadline := some second, cancelOnTimeout := true, waker := 1 }

/-- It is polled when the first second is over. -/
def secondOver : PollScript := { waker := 1, waits := [{ wake := .timer second }] }

/-- The poll ended in a timeout. -/
def Polled.timedOut : Polled → Bool
  | .ready _ (.error ⟨.TPETIME, _⟩) => true
  | _ => false

theorem any_times_out_beside_call :
    ∃ cd e s', (poll secondOver (.waiting (.tpgetrply 0 1 { getAny := true }) anyWait)).run
        (machine.run anyBesideCall).shared = (.ready cd (.error e), s') ∧ e.code = .TPETIME ∧
      ∃ earlier start later cd' data flags, anyBesideCall = earlier ++ .poll 1 start :: later ∧
        (machine.run earlier).futures.get 1 = some (.created (.tpgetrply cd' data flags)) ∧
        Captured flags start.clock (machine.run earlier).shared anyWait.deadline ∧
        TimesOut (machine.run earlier).shared.failures.length anyWait secondOver e
          (machine.run anyBesideCall).shared s' := by
  have waiting : (machine.run anyBesideCall).futures.get 1 =
      some (.waiting (.tpgetrply 0 1 { getAny := true }) anyWait) := by decide +kernel
  have ends : ((poll secondOver (.waiting (.tpgetrply 0 1 { getAny := true }) anyWait)).run
      (machine.run anyBesideCall).shared).1.timedOut = true := by decide +kernel
  rcases ran : (poll secondOver (.waiting (.tpgetrply 0 1 { getAny := true }) anyWait)).run
    (machine.run anyBesideCall).shared with ⟨fut | ⟨cd, e | done⟩, s'⟩ <;> rw [ran] at ends
  · cases ends
  · have timeout : e.code = .TPETIME := by
      obtain ⟨code, message⟩ := e
      cases code <;> first | rfl | cases ends
    exact ⟨cd, e, s', rfl, timeout, getany_times_out anyBesideCall 1 _ anyWait 1 secondOver cd e s' waiting rfl
      ran timeout⟩
  · cases ends

/-- A `TPGETANY` times out although the only descriptor there is belongs to the call. -/
theorem any_times_out_for_call :
    let world := machine.run anyBesideCall
    world.futures.get 1 = some (.waiting (.tpgetrply 0 1 { getAny := true }) anyWait) ∧
    (((poll secondOver (.waiting (.tpgetrply 0 1 { getAny := true }) anyWait)).run world.shared).1 matches
      .ready _ (.error ⟨.TPETIME, _⟩)) = true ∧
    ¬ ∃ cd slot, world.shared.slots.get cd = some slot ∧ slot.claim = none := by
  intro world
  refine ⟨by decide +kernel, by decide +kernel, ?_⟩
  rintro ⟨cd, slot, found, unclaimed⟩
  have claimed : world.shared.slots.vals.all (fun slot => slot.claim.isSome) = true := by decide +kernel
  have some := List.all_eq_true.1 claimed slot (Table.mem_vals.2 ⟨cd, found⟩)
  simp [unclaimed] at some

end Endurox.Async
