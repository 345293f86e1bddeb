/-
# Xatmi.PolledCall -- the polled synchronous call

`tpcall_polled` on a pollable build: `tpacall`, then nonblocking `tpgetrply` and `poll` by
turns, under a guard that cancels the call unless its reply was collected.  The native
layer is what the code sees of it: the descriptors outstanding and the replies that came
for them, with a tape of what each call meets.

The caller's flags go to `tpgetrply` as they are.  With `TPGETANY` among them the reply
of another request is taken for the call's own, and the call's descriptor is left behind;
`call_stays_its_own` says that nothing else goes wrong, provided that the native layer
takes the cancellation of a descriptor that is outstanding.
-/
import Mathlib.Data.Fintype.EquivFin
import Mathlib.Data.Int.Basic
import Endurox.Xatmi.Polled

namespace Endurox.Xatmi

open Endurox.Async (AtmiError AtmiResult Cd Code Flags Instant ParkedBuf)

set_option autoImplicit false

/-! ## The native layer -/

/-- The reply of a request: never "nothing ready", the code for an empty queue. -/
structure Reply where
  cd : Cd
  outcome : AtmiResult Unit
  buf : ParkedBuf
  ready : ∀ error, outcome = .error error → error.code ≠ .TPEBLOCK

/-- The descriptors outstanding in the context and the replies not yet collected.
`received`, an observation, keeps every reply that came. -/
structure Native where
  outstanding : List Cd
  arrived : List Reply
  received : List Reply
  known : ∀ reply ∈ arrived, reply.cd ∈ outstanding

/-- What one native receive meets: replies that came since the last call, descriptors
whose time is over, and a failure of the call itself. -/
structure Moment where
  replies : List Reply := []
  expired : List Cd := []
  fault : Option AtmiError := none
  text : String := ""

/-- What a receive reports: a reply, an expired descriptor, or neither. -/
inductive Report
  | reply (reply : Reply)
  | expired (cd : Cd) (text : String)
  | failed (error : AtmiError)

namespace Report

def result : Report → AtmiResult Unit
  | .reply got => got.outcome
  | .expired _ text => .error ⟨.TPETIME, text⟩
  | .failed error => .error error

/-- The descriptor whose request is reported. -/
def about : Report → Option Cd
  | .reply got => some got.cd
  | .expired cd _ => some cd
  | .failed _ => none

/-- The caller's buffer afterwards: replaced by a reply's. -/
def buffer (data : ParkedBuf) : Report → ParkedBuf
  | .reply got => got.buf
  | _ => data

def blocked : Report → Bool
  | .failed error => error.code = .TPEBLOCK
  | _ => false

theorem buffer_of_blocked {report : Report} (blocked : report.blocked = true) (data : ParkedBuf) :
    report.buffer data = data := by
  cases report with
  | reply got => cases blocked
  | expired cd text => rfl
  | failed error => rfl

end Report

namespace Native

/-- Replies for descriptors that are not outstanding are thrown away. -/
def arrive (n : Native) (replies : List Reply) : Native where
  outstanding := n.outstanding
  arrived := n.arrived ++ replies.filter fun reply => reply.cd ∈ n.outstanding
  received := n.received ++ replies.filter fun reply => reply.cd ∈ n.outstanding
  known := by
    intro reply here
    rcases List.mem_append.1 here with before | now
    · exact n.known reply before
    · exact of_decide_eq_true (List.mem_filter.1 now).2

/-- A descriptor is over, with whatever came for it. -/
def forget (n : Native) (cd : Cd) : Native where
  outstanding := n.outstanding.filter (· ≠ cd)
  arrived := n.arrived.filter (·.cd ≠ cd)
  received := n.received
  known := by
    intro reply here
    obtain ⟨before, other⟩ := List.mem_filter.1 here
    exact List.mem_filter.2 ⟨n.known reply before, other⟩

/-- `tpacall`, when it gives this descriptor. -/
def submit (n : Native) (cd : Cd) : Native where
  outstanding := n.outstanding ++ [cd]
  arrived := n.arrived
  received := n.received
  known := fun reply here => List.mem_append_left _ (n.known reply here)

/-- `tpcancel`, when it gives this answer: an error changes nothing. -/
def cancel (n : Native) (cd : Cd) : AtmiResult Unit → Native
  | .ok _ => n.forget cd
  | .error _ => n

/-- `tpgetrply` with `TPNOBLOCK`: expired descriptors are found first, then replies, in the
order they came; under `TPGETANY` whichever they are of. -/
def getrply (n : Native) (cd : Cd) (flags : Flags) (moment : Moment) : Report × Native :=
  let n := n.arrive moment.replies
  match moment.fault with
  | some error => (.failed error, n)
  | none =>
      if !flags.getAny ∧ cd ∉ n.outstanding then (.failed ⟨.other 2, moment.text⟩, n)
      else match n.outstanding.find? fun c => (flags.getAny || c == cd) && decide (c ∈ moment.expired) with
        | some c => (.expired c moment.text, n.forget c)
        | none => match n.arrived.find? fun reply => flags.getAny || reply.cd == cd with
            | some reply => (.reply reply, n.forget reply.cd)
            | none => (.failed ⟨.TPEBLOCK, moment.text⟩, n)

end Native

/-- What the native `tpcancel` answers. -/
abbrev TpCancel := Native → Cd → AtmiResult Unit

namespace TpCancel

/-- `tpcancel` releases the descriptors that are outstanding. -/
def Releases (tpcancel : TpCancel) : Prop := ∀ n : Native, ∀ cd ∈ n.outstanding, tpcancel n cd = .ok ()

/-- `TPEBADDESC` for a descriptor that is not outstanding, and for no other. -/
def badDescOnly : TpCancel := fun n cd =>
  if cd ∈ n.outstanding then .ok () else .error ⟨.other 2, "Invalid call descriptor"⟩

theorem badDescOnly_releases : badDescOnly.Releases := fun _ _ outstanding => if_pos outstanding

end TpCancel

/-! ## The call -/

/-- `PendingCall::cd` after a receive: `tpgetrply` writes it. -/
def Report.descriptor (cd : Cd) (report : Report) : Cd := report.about.getD cd

/-- One round of `tpgetrply_polled`: the receive, the polls, and the receive after the deadline. -/
structure Round where
  first : Moment
  polls : List Poll
  last : Moment

/-- How `tpgetrply_polled` ends: what it reports, the descriptor and the buffer it leaves. -/
structure Collected where
  report : Report
  cd : Cd
  data : ParkedBuf
  native : Native

/-- What a receive leaves the caller. -/
def collected (cd : Cd) (data : ParkedBuf) (receive : Report × Native) : Collected :=
  ⟨receive.1, receive.1.descriptor cd, receive.1.buffer data, receive.2⟩

/-- The loop of `tpgetrply_polled`; `none` while it still waits. -/
def collectPolled (flags : Flags) (n : Native) (cd : Cd) (data : ParkedBuf) : List Round → Option Collected
  | [] => none
  | round :: rounds =>
      let got := collected cd data (n.getrply cd flags round.first)
      if got.report.blocked then
        match pollReplyQueue round.polls with
        | none => none
        | some (.error error) => some ⟨.failed error, got.cd, got.data, got.native⟩
        | some (.ok true) => collectPolled flags got.native got.cd got.data rounds
        | some (.ok false) =>
            -- the timer fired: one more chance for the native layer to expire the descriptor
            let again := collected got.cd got.data (got.native.getrply got.cd flags round.last)
            if again.report.blocked then
              some ⟨.failed ⟨.TPETIME, "polled tpcall timed out"⟩, again.cd, again.data, again.native⟩
            else some again
      else some got

/-- `tpgetrply_polled`. -/
def tpgetrplyPolled (flags : Flags) (fd : AtmiResult Int) (n : Native) (cd : Cd) (data : ParkedBuf)
    (rounds : List Round) : Option Collected :=
  match fd with
  | .error error => some ⟨.failed error, cd, data, n⟩
  | .ok _ => collectPolled { flags with noBlock := true } n cd data rounds

/-- What the call meets: `reply_deadline`, `tpacall`, the queue descriptor, and the rounds.
A descriptor that `tpacall` gives is not outstanding yet. -/
structure Course (n : Native) where
  deadline : AtmiResult (Option Instant)
  submit : AtmiResult {cd : Cd // cd ∉ n.outstanding}
  fd : AtmiResult Int
  rounds : List Round

/-- How the call ends; `own` is the descriptor it obtained. -/
structure Ended where
  own : Option Cd
  report : Report
  data : ParkedBuf
  native : Native

/-- `PendingCall`: disarmed by a reply, else it cancels the descriptor it holds when dropped,
whatever `tpcancel` answers. -/
def dropPending (tpcancel : TpCancel) (result : AtmiResult Unit) (cd : Cd) (n : Native) : Native :=
  match result with
  | .ok _ => n
  | .error _ => n.cancel cd (tpcancel n cd)

/-- `tpcall_pollable`. -/
def tpcallPollable (tpcancel : TpCancel) (n : Native) (course : Course n) (data : ParkedBuf) (flags : Flags) : Option Ended :=
  if flags.noReply then some ⟨none, .failed ⟨.TPEINVAL, "TPNOREPLY cannot be used with tpcall()"⟩, data, n⟩
  else match if flags.noTime then .ok none else course.deadline with
    | .error error => some ⟨none, .failed error, data, n⟩
    | .ok _ => match course.submit with
      | .error error => some ⟨none, .failed error, data, n⟩
      | .ok own =>
          (tpgetrplyPolled flags course.fd (n.submit own) own data course.rounds).map fun got =>
            ⟨some own, got.report, got.data, dropPending tpcancel got.report.result got.cd got.native⟩

/-! ## Other requests -/

/-- Only the business of `own` has gone on: other descriptors are as outstanding as they
were, and their replies wait, with those that came. -/
structure Aside (own : Cd) (n n' : Native) : Prop where
  outstanding : n'.outstanding.filter (· ≠ own) = n.outstanding.filter (· ≠ own)
  arrived : ∃ came, n'.received = n.received ++ came ∧
    n'.arrived.filter (·.cd ≠ own) = n.arrived.filter (·.cd ≠ own) ++ came.filter (·.cd ≠ own)

namespace Aside

variable {own : Cd} {n n₁ n₂ : Native}

theorem refl (own : Cd) (n : Native) : Aside own n n := ⟨rfl, [], by simp, by simp⟩

theorem trans (first : Aside own n n₁) (second : Aside own n₁ n₂) : Aside own n n₂ := by
  obtain ⟨kept, came, received, arrived⟩ := first
  obtain ⟨kept', came', received', arrived'⟩ := second
  refine ⟨kept'.trans kept, came ++ came', ?_, ?_⟩
  · rw [received', received, List.append_assoc]
  · rw [arrived', arrived, List.filter_append, List.append_assoc]

theorem arrive (own : Cd) (n : Native) (replies : List Reply) : Aside own n (n.arrive replies) :=
  ⟨rfl, _, rfl, List.filter_append _ _⟩

theorem forget (own : Cd) (n : Native) : Aside own n (n.forget own) := by
  refine ⟨?_, [], (List.append_nil _).symm, ?_⟩
  · show (n.outstanding.filter _).filter _ = _
    rw [List.filter_filter]
    simp only [Bool.and_self]
  · show (n.arrived.filter _).filter _ = _
    rw [List.filter_filter, List.filter_nil, List.append_nil]
    simp only [Bool.and_self]

theorem cancel (own : Cd) (n : Native) (answer : AtmiResult Unit) : Aside own n (n.cancel own answer) := by
  cases answer with
  | ok _ => exact forget own n
  | error _ => exact refl own n

end Aside

theorem Native.forget_outstanding (n : Native) (own : Cd) : own ∉ (n.forget own).outstanding := by
  intro here
  exact of_decide_eq_true (List.mem_filter.1 here).2 rfl

theorem Native.cancel_outstanding {tpcancel : TpCancel} (releases : tpcancel.Releases) (n : Native) (own : Cd) :
    own ∉ (n.cancel own (tpcancel n own)).outstanding := by
  cases answer : tpcancel n own with
  | ok _ => exact n.forget_outstanding own
  | error _ =>
      intro outstanding
      rw [releases n own outstanding] at answer
      cases answer

/-! ## A receive for the call's own descriptor -/

/-- The flags ask for one descriptor, or there is no other. -/
def Sole (flags : Flags) (own : Cd) (n : Native) : Prop := flags.getAny = false ∨ ∀ cd ∈ n.outstanding, cd = own

theorem Sole.of_subset {flags : Flags} {own : Cd} {n n' : Native} (sole : Sole flags own n)
    (fewer : ∀ cd ∈ n'.outstanding, cd ∈ n.outstanding) : Sole flags own n' :=
  sole.imp_right fun all cd here => all cd (fewer cd here)

/-- What was got is the own request's, and leaves the others aside. -/
structure Own (own : Cd) (flags : Flags) (data : ParkedBuf) (n : Native) (got : Collected) : Prop where
  aside : Aside own n got.native
  sole : Sole flags own got.native
  about : ∀ cd, got.report.about = some cd → cd = own ∧ own ∉ got.native.outstanding
  cd : got.cd = own
  data : got.data = got.report.buffer data

/-- **A receive takes what is its own**, when the flags ask for one descriptor or there is no other. -/
theorem getrply_own {flags : Flags} {own : Cd} {n : Native} (sole : Sole flags own n) (moment : Moment)
    (data : ParkedBuf) : Own own flags data n (collected own data (n.getrply own flags moment)) := by
  have came := Aside.arrive own n moment.replies
  have sole' : Sole flags own (n.arrive moment.replies) := sole.of_subset fun _ here => here
  have idle : ∀ error, Own own flags data n (collected own data (.failed error, n.arrive moment.replies)) :=
    fun error => ⟨came, sole', fun _ about => (nomatch about), rfl, rfl⟩
  have taken : ∀ report, report.about = some own →
      Own own flags data n (collected own data (report, (n.arrive moment.replies).forget own)) := by
    intro report about
    refine ⟨came.trans (Aside.forget own _), sole'.of_subset fun _ here => (List.mem_filter.1 here).1, ?_, ?_, rfl⟩
    · intro cd same
      exact ⟨Option.some.inj (same.symm.trans about), Native.forget_outstanding _ _⟩
    · show report.about.getD own = own
      rw [about]
      rfl
  unfold Native.getrply
  simp only []
  split
  · exact idle _
  · split
    · exact idle _
    · split
      · rename_i c found
        obtain rfl : c = own := by
          rcases sole' with one | all
          · have matched := List.find?_some found
            rw [one, Bool.false_or, Bool.and_eq_true] at matched
            exact eq_of_beq matched.1
          · exact all c (List.mem_of_find?_eq_some found)
        exact taken _ rfl
      · split
        · rename_i reply found
          obtain rfl : reply.cd = own := by
            rcases sole' with one | all
            · have matched := List.find?_some found
              rw [one, Bool.false_or] at matched
              exact eq_of_beq matched
            · exact all _ (Native.known _ reply (List.mem_of_find?_eq_some found))
          exact taken _ rfl
        · exact idle _

theorem Own.after {own : Cd} {flags : Flags} {data : ParkedBuf} {n : Native} {first got : Collected}
    (before : Own own flags data n first) (blocked : first.report.blocked = true)
    (later : Own own flags first.data first.native got) : Own own flags data n got := by
  have same : first.data = data := before.data.trans (Report.buffer_of_blocked blocked data)
  exact ⟨before.aside.trans later.aside, later.sole, later.about, later.cd, same ▸ later.data⟩

/-- The wait fails without a report: everything is as the last receive left it. -/
theorem Own.fail {own : Cd} {flags : Flags} {data : ParkedBuf} {n : Native} {got : Collected}
    (before : Own own flags data n got) (blocked : got.report.blocked = true) (error : AtmiError) :
    Own own flags data n ⟨.failed error, got.cd, got.data, got.native⟩ := by
  refine ⟨before.aside, before.sole, fun _ about => (nomatch about), before.cd, ?_⟩
  exact before.data.trans (Report.buffer_of_blocked blocked data)

/-- **So does the whole wait**, by induction on its rounds. -/
theorem collectPolled_own {flags : Flags} {own : Cd} : ∀ (rounds : List Round) {n : Native} {data : ParkedBuf}
    {got : Collected}, Sole flags own n → collectPolled flags n own data rounds = some got →
      Own own flags data n got
  | [], _, _, _, _, ended => by cases ended
  | round :: rounds, n, data, got, sole, ended => by
      have first := getrply_own sole round.first data
      unfold collectPolled at ended
      simp only [] at ended
      split at ended
      · rename_i blocked
        split at ended
        · cases ended
        · obtain rfl := Option.some.inj ended
          exact first.fail blocked _
        · rw [first.cd] at ended
          exact first.after blocked (collectPolled_own rounds first.sole ended)
        · have last := getrply_own first.sole round.last (collected own data (n.getrply own flags round.first)).data
          rw [first.cd] at ended
          split at ended
          · rename_i still
            obtain rfl := Option.some.inj ended
            exact first.after blocked (last.fail still _)
          · obtain rfl := Option.some.inj ended
            exact first.after blocked last
      · obtain rfl := Option.some.inj ended
        exact first

/-! ## The call -/

/-- The call returned its own reply or error and no other's; the descriptor it obtained is
not outstanding, the others are, and every reply for them waits to be collected. -/
structure Contained (n : Native) (data : ParkedBuf) (ended : Ended) : Prop where
  report : ∀ cd, ended.report.about = some cd → ended.own = some cd
  data : ended.data = ended.report.buffer data
  outstanding : ended.native.outstanding = n.outstanding
  released : ∀ own, ended.own = some own → own ∉ ended.native.outstanding
  arrived : ∃ came, ended.native.received = n.received ++ came ∧
    ended.native.arrived = n.arrived ++ came.filter fun reply => ended.own ≠ some reply.cd

/-- A call that obtains no descriptor. -/
theorem contained_refused (n : Native) (data : ParkedBuf) (error : AtmiError) :
    Contained n data ⟨none, .failed error, data, n⟩ :=
  ⟨fun _ about => (nomatch about), rfl, rfl, fun _ obtained => (nomatch obtained), [], by simp, by simp⟩

theorem Sole.submit {flags : Flags} {own : Cd} {n : Native} (one : flags.getAny = false ∨ n.outstanding = []) :
    Sole flags own (n.submit own) := by
  refine one.imp_right fun none cd here => ?_
  change cd ∈ n.outstanding ++ [own] at here
  rw [none, List.nil_append] at here
  exact List.mem_singleton.1 here

/-- With nothing of `own` left, what was set aside is all there is. -/
theorem Aside.contained {own : Cd} {n n' : Native} (fresh : own ∉ n.outstanding)
    (aside : Aside own (n.submit own) n') (gone : own ∉ n'.outstanding) :
    n'.outstanding = n.outstanding ∧ ∃ came, n'.received = n.received ++ came ∧
      n'.arrived = n.arrived ++ came.filter fun reply => some own ≠ some reply.cd := by
  obtain ⟨outstanding, came, received, arrived⟩ := aside
  have keep : ∀ m : Native, own ∉ m.outstanding → m.outstanding.filter (· ≠ own) = m.outstanding :=
    fun m none => List.filter_eq_self.2 fun cd here =>
      decide_eq_true fun same => none (same ▸ here)
  have keepArrived : ∀ m : Native, own ∉ m.outstanding → m.arrived.filter (·.cd ≠ own) = m.arrived :=
    fun m none => List.filter_eq_self.2 fun reply here =>
      decide_eq_true fun same => none (same ▸ m.known reply here)
  constructor
  · have before : (n.submit own).outstanding.filter (· ≠ own) = n.outstanding := by
      show (n.outstanding ++ [own]).filter _ = _
      rw [List.filter_append, keep n fresh]
      simp
    rw [keep n' gone, before] at outstanding
    exact outstanding
  · refine ⟨came, received, ?_⟩
    have before : (n.submit own).arrived.filter (·.cd ≠ own) = n.arrived := keepArrived n fresh
    rw [keepArrived n' gone, before] at arrived
    rw [arrived]
    congr 2
    funext reply
    simp [eq_comm]

/-- **The guard releases the descriptor**, after an error as after a reply. -/
theorem Own.dropped {tpcancel : TpCancel} (releases : tpcancel.Releases) {own : Cd} {flags : Flags}
    {data : ParkedBuf} {n : Native} {got : Collected} (owned : Own own flags data n got) :
    own ∉ (dropPending tpcancel got.report.result got.cd got.native).outstanding ∧
      Aside own n (dropPending tpcancel got.report.result got.cd got.native) := by
  rw [owned.cd]
  cases result : got.report.result with
  | ok _ =>
      refine ⟨?_, owned.aside⟩
      -- only a reply is a success, and its descriptor is over
      cases report : got.report with
      | reply reply => exact (owned.about reply.cd (by rw [report]; rfl)).2
      | expired cd text =>
          rw [report] at result
          cases result
      | failed error =>
          rw [report] at result
          cases result
  | error error =>
      exact ⟨Native.cancel_outstanding releases _ _, owned.aside.trans (Aside.cancel own _ _)⟩

/-- One descriptor asked for, or none besides: the call is contained. -/
theorem tpcallPollable_contained {tpcancel : TpCancel} (releases : tpcancel.Releases) {n : Native} {flags : Flags}
    (one : flags.getAny = false ∨ flags.noReply = true ∨ n.outstanding = []) (course : Course n)
    (data : ParkedBuf) (ended : Ended) (run : tpcallPollable tpcancel n course data flags = some ended) :
    Contained n data ended := by
  unfold tpcallPollable at run
  split at run
  · obtain rfl := Option.some.inj run
    exact contained_refused n data _
  · rename_i replies
    split at run
    · obtain rfl := Option.some.inj run
      exact contained_refused n data _
    · split at run
      · obtain rfl := Option.some.inj run
        exact contained_refused n data _
      · rename_i own _
        obtain ⟨got, waited, rfl⟩ := Option.map_eq_some_iff.1 run
        have sole : Sole { flags with noBlock := true } own.1 (n.submit own.1) :=
          Sole.submit (one.imp_right fun other => other.resolve_left replies)
        have owned : Own own.1 { flags with noBlock := true } data (n.submit own.1) got := by
          unfold tpgetrplyPolled at waited
          split at waited
          · obtain rfl := Option.some.inj waited
            exact ⟨Aside.refl _ _, sole, fun _ about => (nomatch about), rfl, rfl⟩
          · exact collectPolled_own course.rounds sole waited
        obtain ⟨gone, aside⟩ := owned.dropped releases
        obtain ⟨outstanding, arrived⟩ := aside.contained own.2 gone
        exact ⟨fun cd same => congrArg some (owned.about cd same).1.symm, owned.data, outstanding,
          fun _ same => Option.some.inj same ▸ gone, arrived⟩

theorem Native.submit_first {n : Native} {other : Cd} {rest : List Cd} (own : Cd)
    (known : n.outstanding = other :: rest) : (n.submit own).outstanding = other :: (rest ++ [own]) := by
  show n.outstanding ++ [own] = _
  rw [known, List.cons_append]

/-- Under `TPGETANY` a receive finds whichever descriptor expired. -/
theorem getrply_expired (flags : Flags) {n : Native} {other : Cd} {rest : List Cd} (own : Cd)
    (any : flags.getAny = true) (known : n.outstanding = other :: rest) :
    n.getrply own flags ⟨[], [other], none, ""⟩ = (.expired other "", (n.arrive []).forget other) := by
  unfold Native.getrply Native.arrive
  simp [any, known]

/-- **When the call stays its own.** Whatever the flags and whatever else is outstanding:
every course of a call is contained exactly when `TPGETANY` is not among the flags, or the
call is refused for `TPNOREPLY`, or no other descriptor is outstanding. -/
theorem call_stays_its_own (tpcancel : TpCancel) (releases : tpcancel.Releases) (n : Native) (flags : Flags) :
    (∀ (course : Course n) (data : ParkedBuf) (ended : Ended),
        tpcallPollable tpcancel n course data flags = some ended → Contained n data ended) ↔
      flags.getAny = false ∨ flags.noReply = true ∨ n.outstanding = [] := by
  constructor
  · intro contained
    by_contra bad
    rw [not_or, not_or] at bad
    obtain ⟨any, replies, others⟩ := bad
    obtain ⟨other, rest, known⟩ := List.exists_cons_of_ne_nil others
    obtain ⟨own, fresh⟩ := Infinite.exists_notMem_finset n.outstanding.toFinset
    rw [List.mem_toFinset] at fresh
    -- the other descriptor expires before anything comes for the own one
    let course : Course n :=
      ⟨.ok none, .ok ⟨own, fresh⟩, .ok 0, [⟨⟨[], [other], none, ""⟩, [], ⟨[], [], none, ""⟩⟩]⟩
    have report : ∃ ended, tpcallPollable tpcancel n course .EMPTY flags = some ended ∧
        ended.own = some own ∧ ended.report = .expired other "" := by
      unfold tpcallPollable
      rw [if_neg replies]
      have deadline : (if flags.noTime then .ok none else course.deadline) = .ok none := by
        cases flags.noTime <;> rfl
      rw [deadline]
      have received := getrply_expired { flags with noBlock := true } own
        (by simpa using any) (n.submit_first own known)
      unfold tpgetrplyPolled collectPolled
      simp only [course]
      rw [received]
      exact ⟨_, rfl, rfl, rfl⟩
    obtain ⟨ended, run, obtained, expired⟩ := report
    have same := (contained course .EMPTY ended run).report other (by rw [expired]; rfl)
    rw [obtained, Option.some.injEq] at same
    rw [same, known] at fresh
    exact fresh List.mem_cons_self
  · exact fun one course data ended run => tpcallPollable_contained releases one course data ended run

/-- Descriptor 1 is outstanding when a call obtains descriptor 2; nothing comes before the
deadline, and descriptor 2 is cancelled. -/
theorem late_call_contained :
    let n : Native := ⟨[1], [], [], by simp⟩
    let course : Course n := ⟨.ok none, .ok ⟨2, by decide⟩, .ok 0, [⟨{}, [⟨0, ⟨0, 0, 0, ""⟩⟩], {}⟩]⟩
    ∃ ended, tpcallPollable .badDescOnly n course .EMPTY {} = some ended ∧ ended.own = some 2 ∧
      Contained n .EMPTY ended := by
  intro n course
  exact ⟨_, rfl, rfl,
    (call_stays_its_own .badDescOnly TpCancel.badDescOnly_releases n {}).2 (.inl rfl) course .EMPTY _ rfl⟩

/-- A reply for descriptor 1 is there when a call under `TPGETANY` obtains descriptor 2: it
returns that reply, and descriptor 2 stays outstanding. -/
theorem call_takes_another_reply :
    ¬ ∀ (tpcancel : TpCancel), tpcancel.Releases → ∀ (n : Native) (flags : Flags) (course : Course n)
      (data : ParkedBuf) (ended : Ended),
      tpcallPollable tpcancel n course data flags = some ended → Contained n data ended := by
  intro contained
  let other : Reply := ⟨1, .ok (), ⟨7, 3⟩, fun _ failed => nomatch failed⟩
  let n : Native := ⟨[1], [other], [other], fun reply here => by
    obtain rfl := List.mem_singleton.1 here
    decide⟩
  let course : Course n := ⟨.ok none, .ok ⟨2, by decide⟩, .ok 0, [⟨{}, [], {}⟩]⟩
  have only := (contained _ TpCancel.badDescOnly_releases n { getAny := true } course ⟨5, 0⟩ _ rfl).outstanding
  exact absurd only (by decide)

end Endurox.Xatmi
