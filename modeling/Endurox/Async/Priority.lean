/-
# Async.Priority -- a priority is used by one submission

`sends` tells what became of the priorities.  `Ordered` judges each of its
events by those before it: a submission takes what is pending when it begins,
its first attempt is sent under that, its retries under the one priority that
attempt was resolved to.  `Settled` adds that the adapter's pending priority is
the one `sends` says, and that the native context has none; a send keeps it up to
each of its suspensions, and everything else leaves the priorities alone.
-/
import Endurox.Async.OneShot

namespace Endurox.Async

open Endurox.Theory AsyncAtmiCtx

set_option autoImplicit false

/-! ## The record of the priorities -/

/-- The submission an event is about. -/
def SendEvent.submission? : SendEvent → Option Nat
  | .begun submission _ | .attempt submission _ | .resolved submission _ => some submission
  | _ => none

/-- The last priority set, unless a submission has begun since.  Attempts do not matter. -/
def pendingIn : List SendEvent → Option SendPriority
  | [] => none
  | .set priority :: _ => some priority
  | .begun _ _ :: _ => none
  | _ :: sends => pendingIn sends

/-- What the native layer keeps of a priority: relative 0 is none. -/
def SendPriority.native (priority : SendPriority) : Option SendPriority :=
  if priority.value = 0 ∧ ¬ priority.absolute then none else some priority

/-- The attempt just made may send under this priority: the first under the one its submission took,
a retry under the absolute one that the first was resolved to. -/
def Uses (priority : Option SendPriority) : List SendEvent → Prop
  | .attempt submission false :: before =>
      ∃ taken, .begun submission taken ∈ before ∧ priority = taken.bind SendPriority.native
  | .attempt submission true :: before =>
      ∃ resolved, .resolved submission resolved ∈ before ∧ priority = some ⟨resolved, true⟩
  | _ => False

/-- How an event follows from those before it. -/
def Proper (before : List SendEvent) : SendEvent → Prop
  | .set _ => True
  | .begun submission taken =>
      taken = pendingIn before ∧ ∀ e ∈ before, e.submission? ≠ some submission
  | .attempt submission retry =>
      (∃ taken, .begun submission taken ∈ before) ∧ (retry = false → .attempt submission false ∉ before)
  | .sent priority => Uses priority before
  | .resolved submission _ =>
      .attempt submission false ∈ before ∧ ∀ other, .resolved submission other ∉ before

/-- Every event is proper after those before it. -/
def Ordered : List SendEvent → Prop
  | [] => True
  | e :: before => Proper before e ∧ Ordered before

/-- Only a submission that was attempted is resolved. -/
theorem Ordered.attempted {sends : List SendEvent} (ordered : Ordered sends) {submission : Nat}
    {priority : Int} (member : .resolved submission priority ∈ sends) :
    .attempt submission false ∈ sends := by
  induction sends with
  | nil => cases member
  | cons e before ih =>
      rcases List.mem_cons.1 member with rfl | member
      · exact List.mem_cons_of_mem _ ordered.1.1
      · exact List.mem_cons_of_mem _ (ih ordered.2 member)

/-- At an await point: the record is in order, the adapter's pending priority is what it says, and
the native context has none. -/
structure Priorities.Settled (p : Priorities) : Prop where
  ordered : Ordered p.sends
  pending : p.nextPriority = pendingIn p.sends
  clear : p.priority = none
  issued : ∀ e ∈ p.sends, ∀ submission, e.submission? = some submission → submission < p.nextSubmission

namespace Priorities

/-- An event that neither sets nor takes a priority. -/
def note (p : Priorities) (e : SendEvent) : Priorities := { p with sends := e :: p.sends }

theorem Settled.note {p : Priorities} (settled : p.Settled) {e : SendEvent} (proper : Proper p.sends e)
    (still : pendingIn (e :: p.sends) = pendingIn p.sends)
    (issued : ∀ submission, e.submission? = some submission → submission < p.nextSubmission) :
    (p.note e).Settled where
  ordered := ⟨proper, settled.ordered⟩
  pending := settled.pending.trans still.symm
  clear := settled.clear
  issued e' member := by
    rcases List.mem_cons.1 member with rfl | member
    · exact issued
    · exact settled.issued e' member

/-- `next_priority.take()`. -/
def begin (p : Priorities) : Priorities :=
  { p with
    nextPriority := none
    sends := .begun p.nextSubmission p.nextPriority :: p.sends
    nextSubmission := p.nextSubmission + 1 }

theorem Settled.unused {p : Priorities} (settled : p.Settled) {e : SendEvent} (member : e ∈ p.sends) :
    e.submission? ≠ some p.nextSubmission :=
  fun same => Nat.lt_irrefl _ (settled.issued e member _ same)

theorem Settled.begin {p : Priorities} (settled : p.Settled) : p.begin.Settled where
  ordered := ⟨⟨settled.pending, fun _ => settled.unused⟩, settled.ordered⟩
  pending := rfl
  clear := settled.clear
  issued e member submission same := by
    rcases List.mem_cons.1 member with rfl | member
    · cases same
      exact Nat.lt_succ_self _
    · exact Nat.lt_succ_of_lt (settled.issued e member submission same)

theorem Settled.set {p : Priorities} (settled : p.Settled) (priority : SendPriority) :
    { p with nextPriority := some priority, sends := .set priority :: p.sends : Priorities }.Settled where
  ordered := ⟨trivial, settled.ordered⟩
  pending := rfl
  clear := settled.clear
  issued e member submission same := by
    rcases List.mem_cons.1 member with rfl | member
    · cases same
    · exact settled.issued e member submission same

end Priorities

/-! ## One attempt -/

/-- Nothing happened to the priorities `p`, or a native send under `priority`. -/
def Sent (p : Priorities) (priority : Option SendPriority) (q : Priorities) : Prop :=
  q = p ∨ q = p.note (.sent priority)

/-- What leaves the priorities alone. -/
theorem keeps_priorities {α : Type} {m : StateM AsyncAtmiCtx α} {p : Priorities}
    (keeps : ∀ t, Keeps (Undisturbed p t) m) : Keeps (fun s => s.toPriorities = p) m :=
  fun s same => (keeps s.toBlockTimes s ⟨same, .refl _⟩).1

/-- Nor does it change what holds of them. -/
theorem keeps_of {α : Type} {m : StateM AsyncAtmiCtx α} {R : Priorities → Prop}
    (keeps : ∀ p, Keeps (fun s => s.toPriorities = p) m) : Keeps (fun s => R s.toPriorities) m := by
  intro s holds
  have same : (m.run s).2.toPriorities = s.toPriorities := keeps s.toPriorities s rfl
  exact same ▸ holds

/-- `tpsprio(0, 0)` clears a priority that is still pending. -/
def AsyncAtmiCtx.SendScript.clears (script : SendScript) : Bool :=
  script.consumes || script.clearPriority.isNone

section Attempt

variable {p : Priorities}

theorem undoSend_priorities (result : AtmiResult Cd) (script : CancelScript) :
    Keeps (fun s => s.toPriorities = p) (undoSend result script) := by
  unfold undoSend
  cases result with
  | error e => exact Keeps.pure
  | ok cd =>
      simp only
      split
      · refine Keeps.bind (Keeps.ofModify fun _ same => same) fun _ => ?_
        exact Keeps.bind (keeps_priorities fun _ => tpcancel_undisturbed _ cd script) fun _ => Keeps.pure
      · exact Keeps.pure

theorem tpsblktimeNext_priorities (seconds : Int) (failure : Option AtmiError) :
    Keeps (fun s => s.toPriorities = p) (tpsblktimeNext seconds failure).run :=
  Keeps.tryBind (native_keeps _) fun _ => Keeps.tryModify fun _ same => same

theorem tpacallNative_priorities (flags : Flags) (script : SendScript) :
    Ends (fun s => s.toPriorities = p) (tpacallNative flags script).run fun _ s =>
      s.toPriorities = { p.note (.sent p.priority) with
        priority := if script.consumes then none else p.priority } := by
  unfold tpacallNative
  refine Ends.tryBind (F := fun _ s => s.toPriorities = { p.note (.sent p.priority) with
      priority := if script.consumes then none else p.priority }) (Ends.tryModify ?_)
    (fun _ _ same => same) fun _ => ?_
  · rintro s rfl
    rfl
  · cases script.sent with
    | error e => exact Ends.throw fun _ same => same
    | ok n => exact Ends.tryPure fun _ same => same

/-- The native setting, or none of it when the call fails. -/
theorem tpsprioNative_priorities (value : Int) (absolute : Bool) (failure : Option AtmiError) :
    Ends (fun s => s.toPriorities = p) (tpsprioNative value absolute failure).run fun result s =>
      match result with
      | .error e => s.toPriorities = p ∧ failure = some e
      | .ok _ => s.toPriorities = { p with priority := SendPriority.native ⟨value, absolute⟩ } := by
  unfold tpsprioNative
  refine Ends.tryBind (native_ends failure) (fun e s holds => ⟨holds.1, holds.2 e rfl⟩) fun _ =>
    Ends.tryModify ?_
  rintro s ⟨rfl, _⟩
  rfl

theorem withSendPriority_sent (settled : p.Settled) (priority : Option SendPriority) (flags : Flags)
    (script : SendScript) (clears : script.clears = true) :
    Ends (fun s => s.toPriorities = p) (withSendPriority priority flags script).run fun _ s =>
      Sent p (priority.bind SendPriority.native) s.toPriorities := by
  have clear := settled.clear
  cases priority with
  | none =>
      refine (tpacallNative_priorities flags script).mono (fun _ same => same) fun _ s same => .inr ?_
      simpa [clear, Priorities.note] using same
  | some priority =>
      unfold withSendPriority
      refine Ends.tryBind (tpsprioNative_priorities _ _ _) (fun _ _ holds => .inl holds.1) fun _ => ?_
      refine Ends.tryOutcome (tpacallNative_priorities flags script) fun result => ?_
      refine Ends.tryOutcome (tpsprioNative_priorities _ _ _) fun cleared => ?_
      -- either way nothing is pending after the attempt to clear it
      cases cleared with
      | ok _ =>
          refine Ends.ofExcept fun s same => .inr ?_
          simpa [SendPriority.native, Priorities.note, clear] using same
      | error e =>
          refine Ends.ofFact fun failed => ?_
          have consumed : script.consumes = true := by simpa [SendScript.clears, failed] using clears
          refine Ends.tryBind (F := fun _ s => Sent p _ s.toPriorities) (Ends.lift ((undoSend_priorities result _).mono
            (fun _ same => same) fun _ s same => .inr ?_)) (fun _ _ sent => sent) fun _ =>
              Ends.throw fun _ sent => sent
          simpa [consumed, Priorities.note, clear] using same

theorem retryTpacall_sent (settled : p.Settled) (flags : Flags) (deadline : Option Instant)
    (priority : Int) (script : SendScript) (clears : script.clears = true) :
    Ends (fun s => s.toPriorities = p) (retryTpacall flags deadline priority script).run fun _ s =>
      Sent p (some ⟨priority, true⟩) s.toPriorities := by
  have native : SendPriority.native ⟨priority, true⟩ = some ⟨priority, true⟩ := by
    simp [SendPriority.native]
  have sends := withSendPriority_sent settled (some ⟨priority, true⟩) flags script clears
  simp only [Option.bind_some, native] at sends
  unfold retryTpacall
  refine Ends.tryBind (remainingSeconds_keeps _ _) (fun _ _ same => .inl same) fun seconds => ?_
  refine Ends.tryBind (tpgblktimeNext_keeps _) (fun _ _ same => .inl same) fun next => ?_
  refine Ends.tryBind (tpsblktimeNext_priorities _ _) (fun _ _ same => .inl same) fun _ => ?_
  refine Ends.tryOutcome sends fun result => ?_
  refine Ends.tryOutcome (keeps_of fun _ => tpsblktimeNext_priorities _ _) fun restored => ?_
  cases restored with
  | ok _ => exact Keeps.ofExcept
  | error e =>
      exact Keeps.tryBind (Keeps.lift (keeps_of fun _ => undoSend_priorities result _)) fun _ =>
        Keeps.throw

theorem relieve_priorities (script : SendScript) :
    Keeps (fun s => s.toPriorities = p) (relieve script).run := by
  unfold relieve
  refine Keeps.tryBind (tpgblktimeNext_keeps _) fun next => ?_
  refine Keeps.tryBind (Keeps.tryModify fun s same => ?_) fun _ => ?_
  · exact (drain_keeps undisturbed_quiet (allowed_any script.drained) s ⟨same, .refl _⟩).1
  · exact Keeps.tryBind (Keeps.tryModify fun _ same => same) fun _ => tpsblktimeNext_priorities _ _

/-- What a submission knows of itself between its attempts. -/
structure Resumable (b : Backpressure) (sends : List SendEvent) : Prop where
  begun : .begun b.submission b.priority ∈ sends
  first : b.retry = false → .attempt b.submission false ∉ sends
  again : ∀ priority, b.retryPriority = some priority → .resolved b.submission priority ∈ sends

/-- The record before an attempt, its attempt added. -/
theorem attempt_settled {b : Backpressure} (settled : p.Settled) (resumable : Resumable b p.sends) :
    (p.note (.attempt b.submission b.retry)).Settled := by
  refine settled.note ⟨⟨_, resumable.begun⟩, fun first => resumable.first first⟩ rfl ?_
  rintro submission ⟨⟩
  exact settled.issued _ resumable.begun _ rfl

/-- An attempt leaves the record in order; the priority it resolved, if it did, is in it. -/
def Attempted (p : Priorities) (submission : Nat) (retryPriority : Option Int) (q : Priorities) : Prop :=
  q.Settled ∧ p.sends ⊆ q.sends ∧
    ∀ priority, retryPriority = some priority → .resolved submission priority ∈ q.sends

/-- A blocked first attempt is resolved once, a retry was already. -/
theorem resolvePriority_attempted {b : Backpressure} {q : Priorities} (settled : q.Settled)
    (sent : .attempt b.submission b.retry ∈ q.sends) (since : p.sends ⊆ q.sends)
    (first : b.retry = false → ∀ other, .resolved b.submission other ∉ q.sends)
    (again : ∀ priority, b.retryPriority = some priority → .resolved b.submission priority ∈ q.sends)
    (script : SendScript) :
    Ends (fun s => s.toPriorities = q) (resolvePriority b script).run fun result s =>
      match result with
      | .error _ => Attempted p b.submission b.retryPriority s.toPriorities
      | .ok retryPriority => Attempted p b.submission retryPriority s.toPriorities := by
  have kept : ∀ s : AsyncAtmiCtx, s.toPriorities = q →
      Attempted p b.submission b.retryPriority s.toPriorities := by
    rintro s rfl
    exact ⟨settled, since, again⟩
  unfold resolvePriority
  cases retry : b.retry with
  | true => exact Ends.tryPure kept
  | false =>
      rw [retry] at sent
      refine Ends.tryBind (Ends.ofExcept (F := fun _ s => s.toPriorities = q) fun _ same => same)
        (fun _ s same => kept s same) fun priority => ?_
      refine Ends.tryBind (F := fun noted s => noted = .ok ⟨⟩ ∧
          Attempted p b.submission (some priority) s.toPriorities) (Ends.tryModify ?_)
        (fun _ _ holds => nomatch holds.1) fun _ => Ends.tryPure fun _ holds => holds.2
      rintro s rfl
      have noted : (s.toPriorities.note (.resolved b.submission priority)).Settled := by
        refine settled.note ⟨sent, first retry⟩ rfl ?_
        rintro submission ⟨⟩
        exact settled.issued _ sent _ rfl
      refine ⟨rfl, noted, List.subset_cons_of_subset _ since, ?_⟩
      rintro other ⟨⟩
      exact List.mem_cons_self

/-- After the native send of an attempt: the record is in order, and nothing was resolved. -/
def Transmitted (p : Priorities) (submission : Nat) (retry : Bool) (q : Priorities) : Prop :=
  q.Settled ∧ .attempt submission retry :: p.sends ⊆ q.sends ∧
    ∀ other, .resolved submission other ∈ q.sends → .resolved submission other ∈ p.sends

theorem Sent.transmitted {submission : Nat} {retry : Bool} {priority : Option SendPriority} {q : Priorities}
    (settled : (p.note (.attempt submission retry)).Settled)
    (uses : Uses priority (.attempt submission retry :: p.sends))
    (sent : Sent (p.note (.attempt submission retry)) priority q) : Transmitted p submission retry q := by
  have after := settled.note (e := .sent priority) uses rfl nofun
  rcases sent with rfl | rfl
  · exact ⟨settled, List.Subset.refl _, fun other member => by simpa [Priorities.note] using member⟩
  · exact ⟨after, List.subset_cons_self _ _, fun other member => by simpa [Priorities.note] using member⟩

/-- The native send of an attempt is under the priority the attempt is to use. -/
theorem send_transmitted {b : Backpressure} (settled : p.Settled) (resumable : Resumable b p.sends)
    (flags : Flags) (deadline : Option Instant) (script : SendScript) (clears : script.clears = true) :
    Ends (fun s => s.toPriorities = p.note (.attempt b.submission b.retry))
      (ExceptT.run (m := StateM AsyncAtmiCtx) <|
        if b.retry then
          match b.retryPriority with
          | some priority => retryTpacall flags deadline priority script
          | none => throw retryWithoutPriority
        else withSendPriority b.priority flags script) fun _ s =>
      Transmitted p b.submission b.retry s.toPriorities := by
  have attempted := attempt_settled settled resumable
  cases retry : b.retry with
  | true =>
      rw [retry] at attempted
      cases known : b.retryPriority with
      | none =>
          refine Ends.throw fun s same => ?_
          rw [same]
          exact ⟨attempted, List.Subset.refl _, fun other member => by simpa [Priorities.note] using member⟩
      | some priority =>
          refine (retryTpacall_sent attempted flags deadline priority script clears).mono
            (fun _ same => same) fun _ _ sent => sent.transmitted attempted ⟨priority, ?_, rfl⟩
          exact resumable.again priority known
  | false =>
      rw [retry] at attempted
      exact (withSendPriority_sent attempted b.priority flags script clears).mono
        (fun _ same => same) fun _ _ sent => sent.transmitted attempted ⟨b.priority, resumable.begun, rfl⟩

theorem attemptSend_settled {b : Backpressure} (settled : p.Settled) (resumable : Resumable b p.sends)
    (flags : Flags) (deadline : Option Instant) (claimed : Bool) (script : SendScript)
    (clears : script.clears = true) :
    Ends (fun s => s.toPriorities = p) (attemptSend flags deadline claimed b script) fun result s =>
      Attempted p b.submission result.2 s.toPriorities := by
  -- a submission that was not attempted was not resolved
  have first : b.retry = false → ∀ other, .resolved b.submission other ∉ p.sends :=
    fun first other member => resumable.first first (settled.ordered.attempted member)
  have kept : ∀ {q : Priorities}, Transmitted p b.submission b.retry q →
      Attempted p b.submission b.retryPriority q := fun transmitted => by
    have since := List.subset_of_cons_subset transmitted.2.1
    exact ⟨transmitted.1, since, fun priority known => since (resumable.again priority known)⟩
  unfold attemptSend
  refine Ends.bind (Q := fun _ s => s.toPriorities = p.note (.attempt b.submission b.retry))
    (Ends.ofModify (by rintro s rfl; rfl)) fun _ => ?_
  refine Ends.bind (send_transmitted settled resumable _ deadline script clears) fun result => ?_
  cases result with
  | ok cd =>
      refine Ends.bind (keeps_of (R := Transmitted p b.submission b.retry) fun _ =>
        keeps_priorities fun _ => registerSubmission_undisturbed cd deadline claimed _) fun registered => ?_
      exact Ends.pure fun _ transmitted => kept transmitted
  | error e =>
      simp only
      split
      · refine Ends.bind (Q := fun result s => match result with
            | .error _ => Attempted p b.submission b.retryPriority s.toPriorities
            | .ok retryPriority => Attempted p b.submission retryPriority s.toPriorities) ?_ fun resolved => ?_
        · intro s transmitted
          exact resolvePriority_attempted transmitted.1 (transmitted.2.1 List.mem_cons_self)
            (List.subset_of_cons_subset transmitted.2.1)
            (fun isFirst other member => first isFirst other (transmitted.2.2 other member))
            (kept transmitted).2.2 script s rfl
        · cases resolved with
          | error failure => exact Ends.pure fun _ attempted => attempted
          | ok retryPriority =>
              refine Ends.bind (keeps_of (R := Attempted p b.submission retryPriority) fun _ =>
                relieve_priorities script) fun relieved => ?_
              cases relieved with
              | error failure => exact Ends.pure fun _ attempted => attempted
              | ok _ => exact Ends.pure fun _ attempted => attempted
      · exact Ends.pure fun _ transmitted => kept transmitted

end Attempt

/-! ## Submissions -/

/-- The record is in order and has grown from `before`. -/
def Since (before : List SendEvent) (p : Priorities) : Prop := p.Settled ∧ before ⊆ p.sends

/-- How a poll leaves a future that waits to send again. -/
def Retries (b : Backpressure) (sends : List SendEvent) : Prop := b.retry = true ∧ Resumable b sends

theorem Retries.mono {b : Backpressure} {sends sends' : List SendEvent} (retries : Retries b sends)
    (grown : sends ⊆ sends') : Retries b sends' :=
  ⟨retries.1, grown retries.2.begun, fun first => by simp [retries.1] at first,
    fun priority known => grown (retries.2.again priority known)⟩

/-- After an attempt: the record is in order, and whoever retries may. -/
def SendRests (before : List SendEvent) (sending : Sending) (s : AsyncAtmiCtx) : Prop :=
  Since before s.toPriorities ∧ ∀ b wake, sending = .sleeping b wake → Retries b s.sends

theorem attempted_retries {p : Priorities} {b : Backpressure} {retryPriority : Option Int} {q : Priorities}
    (resumable : Resumable b p.sends) (attempted : Attempted p b.submission retryPriority q) (delay : Nat) :
    Retries { b with delay, retry := true, retryPriority } q.sends :=
  ⟨rfl, attempted.2.1 resumable.begun, nofun, attempted.2.2⟩

theorem sendWithBackpressure_settled (before : List SendEvent) (flags : Flags) (deadline : Option Instant)
    (claimed : Bool) (more : List SendScript) (b : Backpressure) (script : SendScript)
    (clears : ∀ attempt ∈ script :: more, attempt.clears = true) :
    Ends (fun s => Since before s.toPriorities ∧ Resumable b s.sends)
      (sendWithBackpressure flags deadline claimed b script more) (SendRests before) := by
  refine sendLoop_ends _ (I := fun b s => Since before s.toPriorities ∧ Resumable b s.sends)
    (fun _ _ _ holds => ⟨holds.1, fun _ _ same => nomatch same⟩) (fun b script clears => ?_)
    (fun b wake s retry holds => ⟨holds.1, fun _ _ same => by cases same; exact ⟨retry, holds.2⟩⟩)
    more b script clears
  rintro s ⟨since, resumable⟩
  have attempted := attemptSend_settled since.1 resumable flags deadline claimed script clears s rfl
  rcases ran : (attemptSend flags deadline claimed b script).run s with ⟨⟨e | submission, p⟩, s'⟩ <;>
    rw [ran] at attempted
  all_goals
    have after : Since before s'.toPriorities := ⟨attempted.1, List.Subset.trans since.2 attempted.2.1⟩
    have again := attempted_retries resumable attempted
  · exact ⟨⟨after, fun _ _ same => nomatch same⟩, fun delay => ⟨after, (again delay).2⟩⟩
  · exact ⟨after, fun _ _ same => nomatch same⟩

/-! ## Polls -/

/-- A future that waits to send again knows what its submission did. -/
def FutRetries (s : AsyncAtmiCtx) : Fut → Prop
  | .sending _ _ b => Retries b s.sends
  | _ => True

theorem isSent_retries {polled : Polled} {s : AsyncAtmiCtx} (sent : polled.IsSent) :
    ∀ fut, polled = .pending fut → FutRetries s fut := by
  rintro fut rfl
  cases fut with
  | sending op deadline b => exact absurd rfl (sent op deadline b)
  | _ => trivial

/-- How a poll leaves the record and its future. -/
def PollRests (before : List SendEvent) (polled : Polled) (s : AsyncAtmiCtx) : Prop :=
  Since before s.toPriorities ∧ ∀ fut, polled = .pending fut → FutRetries s fut

theorem afterSend_settled (before : List SendEvent) (op : Op) (deadline : Option Instant)
    (script : PollScript) (sending : Sending) :
    Ends (SendRests before sending) (afterSend op deadline script sending) (PollRests before) := by
  intro s rests
  have undisturbed : ∀ p, Keeps (fun s => s.toPriorities = p) (afterSend op deadline script sending) :=
    fun p => keeps_priorities fun _ => afterSend_undisturbed op deadline script sending
  have same : ((afterSend op deadline script sending).run s).2.toPriorities = s.toPriorities :=
    undisturbed _ s rfl
  refine ⟨same ▸ rests.1, ?_⟩
  rcases afterSend_isSent op deadline script sending s trivial with sent | ⟨b, wake, sleeping, polled⟩
  · exact isSent_retries sent
  · rw [polled]
    rintro fut ⟨⟩
    show Retries b _
    rw [show (_ : AsyncAtmiCtx).sends = s.sends from congrArg Priorities.sends same]
    exact rests.2 b wake sleeping

/-- The first poll of a send. -/
theorem startSend_settled (before : List SendEvent) (op : Op) (script : PollScript)
    (clears : ∀ attempt ∈ script.send :: script.resends, attempt.clears = true) :
    Ends (fun s => Since before s.toPriorities) (startSend op script) (PollRests before) := by
  unfold startSend
  refine Ends.bind ((checked_ends op script.clock).mono (fun _ since => since) fun _ _ holds => holds.1)
    fun checked => ?_
  cases checked with
  | error e => exact Ends.pure fun _ since => ⟨since, isSent_retries (ready_isSent 0 (.error e))⟩
  | ok deadline =>
      refine Ends.bind (Q := fun taken s => Since before s.toPriorities ∧
        Resumable { priority := taken.1, submission := taken.2 } s.sends) (Ends.ofModifyGet ?_) fun taken => ?_
      · rintro s ⟨settled, grown⟩
        refine ⟨⟨settled.begin, List.subset_cons_of_subset _ grown⟩, List.mem_cons_self, fun _ member => ?_,
          fun _ known => nomatch known⟩
        rcases List.mem_cons.1 member with same | member
        · cases same
        · exact settled.unused member rfl
      · exact Ends.bind (sendWithBackpressure_settled before op.flags deadline op.claimed script.resends _
          script.send clears) fun sending => afterSend_settled before op deadline script sending

/-- **What a poll does to the priorities**, whichever future it is of. -/
theorem poll_settled (before : List SendEvent) (script : PollScript)
    (clears : ∀ attempt ∈ script.send :: script.resends, attempt.clears = true) (fut : Fut)
    (shaped : ∀ op w, fut = .waiting op w → w.Shaped) :
    Ends (fun s => Since before s.toPriorities ∧ FutRetries s fut) (poll script fut) (PollRests before) := by
  have waits : ∀ {fut}, (∀ p, Keeps (fun s => s.toPriorities = p) (poll script fut)) →
      Ends (fun _ => True) (poll script fut) (fun polled _ => polled.IsSent) →
      Ends (fun s => Since before s.toPriorities ∧ FutRetries s fut) (poll script fut) (PollRests before) :=
    fun keeps sent s holds => ⟨keeps_of (R := Since before) keeps s holds.1, isSent_retries (sent s trivial)⟩
  cases fut with
  | waiting op w =>
      exact waits (fun p => keeps_priorities fun _ => resumed_undisturbed (shaped op w rfl) op script)
        (resumed_isSent op w script)
  | created op =>
      cases op with
      | tpgetrply cd data flags =>
          exact waits (fun p => keeps_priorities fun _ => getrply_undisturbed cd data flags script)
            (getrply_isSent cd data flags script)
      | tpcall data flags =>
          exact (startSend_settled before (.tpcall data flags) script clears).mono (fun _ holds => holds.1)
            fun _ _ rests => rests
      | tpacall flags =>
          exact (startSend_settled before (.tpacall flags) script clears).mono (fun _ holds => holds.1)
            fun _ _ rests => rests
  | sending op deadline b =>
      unfold poll
      cases slept : script.slept with
      | false =>
          refine Ends.pure fun s holds => ⟨holds.1, ?_⟩
          rintro _ ⟨⟩
          exact holds.2
      | true =>
          refine Ends.bind ((sendWithBackpressure_settled before op.flags deadline op.claimed script.resends b
            script.send clears).mono (fun _ holds => ⟨holds.1, holds.2.2⟩) fun _ _ rests => rests)
            fun sending => afterSend_settled before op deadline script sending

theorem tryTpacall_settled (before : List SendEvent) (flags : Flags) (clock : Clock) (script : SendScript)
    (clears : script.clears = true) :
    Keeps (fun s => Since before s.toPriorities) (tryTpacall flags clock script).run := by
  unfold tryTpacall
  refine Keeps.tryBind (checkSupportedFlags_keeps _) fun _ => ?_
  refine Keeps.tryBind (deadlineFor_keeps _ _) fun deadline => ?_
  refine Ends.tryBind (F := fun taken s => Since before s.toPriorities ∧ ∀ first, taken = .ok first →
    Resumable { priority := first.1, submission := first.2 } s.sends) (Ends.tryModifyGet ?_)
    (fun _ _ holds => holds.1) fun taken => ?_
  · rintro s ⟨settled, grown⟩
    refine ⟨⟨settled.begin, List.subset_cons_of_subset _ grown⟩, ?_⟩
    rintro _ ⟨⟩
    refine ⟨List.mem_cons_self, fun _ member => ?_, fun _ known => nomatch known⟩
    rcases List.mem_cons.1 member with same | member
    · cases same
    · exact settled.unused member rfl
  · rintro s ⟨since, known⟩
    have resumable := known taken rfl
    have attempted := attempt_settled since.1 resumable
    have noted : Since before (s.toPriorities.note (.attempt taken.2 false)) :=
      ⟨attempted, List.subset_cons_of_subset _ since.2⟩
    have attempts : Ends (· = s) (modify (noteSend (.attempt taken.2 false)) : Act Unit).run
        fun _ s' => s'.toPriorities = s.toPriorities.note (.attempt taken.2 false) :=
      Ends.tryModify (by rintro _ rfl; rfl)
    refine Ends.tryBind (G := fun _ s' => Since before s'.toPriorities) attempts
      (fun _ _ same => same ▸ noted) (fun _ => ?_) s rfl
    refine Ends.tryBind (F := fun _ s' => Since before s'.toPriorities)
      ((withSendPriority_sent attempted taken.1 _ script clears).mono (fun _ same => same)
        fun _ _ sent => ?_) (fun _ _ since => since) fun cd => ?_
    · have transmitted := sent.transmitted attempted ⟨taken.1, resumable.begun, rfl⟩
      exact ⟨transmitted.1, List.Subset.trans since.2 (List.subset_of_cons_subset transmitted.2.1)⟩
    · exact keeps_of (R := Since before) fun _ => keeps_priorities fun _ =>
        registerSubmission_undisturbed cd deadline false script.busyDrained

/-! ## Every run -/

/-- The program sets priorities through the adapter only, and `tpsprio(0, 0)` clears what is pending. -/
def Label.assumed : Label → Bool
  | .contextTpsprio .. => false
  | .poll _ script => (script.send :: script.resends).all SendScript.clears
  | .tryTpacall _ _ script => script.clears
  | _ => true

/-- What the priorities of a world are at an await point. -/
structure World.Settled (world : World) : Prop where
  settled : world.shared.toPriorities.Settled
  retries : ∀ f fut, world.futures.get f = some fut → FutRetries world.shared fut

/-- A label that polls nothing. -/
theorem act_settled {world : World} (label : Label) (assumed : label.assumed = true)
    (settled : world.shared.toPriorities.Settled) (idle : ∀ f script, label ≠ .poll f script) :
    Since world.shared.sends (world.step label).shared.toPriorities := by
  have since : Since world.shared.sends world.shared.toPriorities := ⟨settled, List.Subset.refl _⟩
  have framed : ∀ s : AsyncAtmiCtx, s.settings = world.shared.settings →
      Since world.shared.sends s.toPriorities := fun s same => by
    rw [show s.toPriorities = world.shared.toPriorities from congrArg Prod.fst same]
    exact since
  have kept : ∀ (m : StateM AsyncAtmiCtx Unit), (∀ p t, Keeps (Undisturbed p t) m) →
      Since world.shared.sends (m.run world.shared).2.toPriorities :=
    fun m keeps => keeps_of (R := Since world.shared.sends) (fun p => keeps_priorities (keeps p))
      world.shared since
  cases label with
  | allocData id info => exact framed _ (allocData_settings id info world.shared)
  | freeData id =>
      simp only [World.step]
      split
      · exact since
      · exact framed _ (freeData_settings id world.shared)
  | make op =>
      simp only [World.step]
      split <;> exact since
  | poll f script => exact absurd rfl (idle f script)
  | drop f script =>
      simp only [World.step]
      split
      · exact kept _ fun _ _ => dropFut_undisturbed script _
      · exact since
  | tpcancel cd script =>
      exact keeps_of (R := Since world.shared.sends)
        (fun _ => keeps_priorities fun _ => tpcancel_undisturbed .cancelled cd script) world.shared since
  | tryTpacall flags clock script =>
      exact tryTpacall_settled world.shared.sends flags clock script assumed world.shared since
  | tpsprio value absolute =>
      show Since _ (AsyncAtmiCtx.tpsprio value absolute world.shared).2.toPriorities
      unfold AsyncAtmiCtx.tpsprio
      split
      · exact since
      · exact ⟨settled.set _, List.subset_cons_self _ _⟩
  | tpsblktime => exact since
  | contextTpsprio => cases assumed

theorem step_since {world : World} (known : world.Known) (label : Label) (assumed : label.assumed = true)
    (settled : world.Settled) : Since world.shared.sends (world.step label).shared.toPriorities ∧
      ∀ f script fut fut', label = .poll f script → world.futures.get f = some fut →
        ((poll script fut).run world.shared).1 = .pending fut' → FutRetries (world.step label).shared fut' := by
  have since : Since world.shared.sends world.shared.toPriorities :=
    ⟨settled.settled, List.Subset.refl _⟩
  cases label with
  | poll f script =>
      have rests : ∀ fut, world.futures.get f = some fut → PollRests world.shared.sends
          ((poll script fut).run world.shared).1 (world.step (.poll f script)).shared := by
        intro fut found
        rw [poll_shared script found]
        refine poll_settled world.shared.sends script (by simpa [Label.assumed] using assumed) fut
          (fun op w same => ?_) world.shared ⟨since, settled.retries f fut found⟩
        have there : FutKnown world.shared (.waiting op w) := same ▸ known f fut found
        exact there.1
      refine ⟨?_, fun g script' fut fut' same found pending => ?_⟩
      · cases found : world.futures.get f with
        | none => simpa only [World.step, found] using since
        | some fut => exact (rests fut found).1
      · cases same
        exact (rests fut found).2 fut' pending
  | _ => exact ⟨act_settled _ assumed settled.settled (fun _ _ same => by cases same),
      fun _ _ _ _ same => by cases same⟩

theorem settled_step {world : World} (known : world.Known) (label : Label) (assumed : label.assumed = true)
    (settled : world.Settled) : (world.step label).Settled := by
  obtain ⟨since, polled⟩ := step_since known label assumed settled
  refine ⟨since.1, step_futures label (fun f fut found => ?_) (fun _ => trivial) polled⟩
  have before := settled.retries f fut found
  cases fut with
  | sending op deadline b => exact Retries.mono before since.2
  | _ => trivial

/-- **A priority is used by one submission.**  In every run that sets priorities through the adapter, at every
await point: each submission took the priority set last since the submission before it; its first
attempt was sent under that, and its retries all under the one priority that attempt was resolved
to; what is pending is what was set since the last submission began; and the native context has
no priority pending. -/
theorem priority_oneShot (labels : List Label)
    (assumed : machine.Along (fun _ label => label.assumed = true) labels) :
    (machine.run labels).shared.toPriorities.Settled :=
  (Machine.invariantAlong (M := machine) (P := fun world => world.Known ∧ world.Settled)
    ⟨known_reachable [], ⟨trivial, rfl, rfl, nofun⟩, fun _ _ found => by simp [machine] at found⟩
    (fun _ label assumed holds => ⟨step_known holds.1 label, settled_step holds.1 label assumed holds.2⟩)
    labels assumed).2.settled

/-- A `tpacall` takes a relative priority and is blocked, another is set while it waits, and its retry
is sent under what the first was resolved to. -/
def retriedPriority : List Label :=
  [.tpsprio 5 false, .make (.tpacall {}),
   .poll 0 { waker := 1, send := { sent := .error ⟨.TPEBLOCK, ""⟩, sentPriority := .ok 55 } },
   .tpsprio 7 true, .poll 0 { waker := 1 }, .make (.tpacall {}), .poll 1 { waker := 2 }]

theorem retriedPriority_settled : (machine.run retriedPriority).shared.toPriorities.Settled :=
  priority_oneShot retriedPriority (by decide +kernel)

example : (machine.run retriedPriority).shared.sends.reverse =
    [.set ⟨5, false⟩, .begun 0 (some ⟨5, false⟩), .attempt 0 false, .sent (some ⟨5, false⟩), .resolved 0 55,
     .set ⟨7, true⟩, .attempt 0 true, .sent (some ⟨55, true⟩),
     .begun 1 (some ⟨7, true⟩), .attempt 1 false, .sent (some ⟨7, true⟩)] := by decide +kernel

end Endurox.Async
