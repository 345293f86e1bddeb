/-
# Async.Shelf -- the buffers on hand, read off the native answers

A hand-over sets a buffer aside when the scratch holds one already.  A `Shelf` is
all that depends on: what each slot holds, whether the scratch is bare, whether
the wait's own registration was told a failure.  `Shelf.drained` reads off the
answers of the native layer what a drain makes of a shelf, and `drain_onHand` is
the proof that the adapter does just that; `collect_onHand` counts what a
collection from a shelf sets aside.
-/
import Endurox.Async.Handover
import Endurox.Async.Wakeup

namespace Endurox.Async

open Endurox.Theory AsyncAtmiCtx

set_option autoImplicit false

/-! ## Shelves -/

/-- What a slot holds: an outcome, a buffer with it, a claim. -/
structure Parcel where
  ready : Bool
  loaded : Bool
  claimed : Bool
  deriving DecidableEq

def Slot.parcel (slot : Slot) : Parcel := ⟨slot.isReady, slot.buf.ptr ≠ 0, slot.claim.isSome⟩

/-- What the adapter has on hand for one wait. -/
structure Shelf where
  slots : Table Cd Parcel
  bare : Bool
  told : Option Bool

/-- The failure a wait for any reply was told, if it is registered. -/
def AsyncAtmiCtx.told (target : Target) (s : AsyncAtmiCtx) : Option Bool :=
  match target with
  | .one _ => none
  | .any id => (s.anyWaiters.get id).map fun entry => entry.error.isSome

def AsyncAtmiCtx.shelf (target : Target) (s : AsyncAtmiCtx) : Shelf where
  slots := s.slots.mapVals Slot.parcel
  bare := s.scratch.isNone
  told := s.told target

namespace Shelf

/-- A queue-level failure: every waiting slot has its outcome, and every registration is told. -/
def failed (shelf : Shelf) : Shelf :=
  { shelf with
    slots := shelf.slots.mapVals fun parcel => { parcel with ready := true }
    told := shelf.told.map fun _ => true }

/-- A report for `cd`: parked, or the second one, whose buffer goes to the scratch. -/
def routed (cd : Cd) (brings : Bool) (shelf : Shelf) : Shelf :=
  match shelf.slots.get cd with
  | some parcel =>
      if parcel.ready then { shelf with bare := !brings }
      else
        { shelf with
          slots := shelf.slots.set cd { parcel with ready := true, loaded := brings }
          bare := true }
  | none => { shelf with slots := shelf.slots.set cd ⟨true, brings, false⟩, bare := true }

/-- One native answer, and whether the drain goes on. -/
def read (reply : NativeReply) (shelf : Shelf) : Bool × Shelf :=
  let brings : Bool := reply.buffer ≠ .gone
  if shelf.bare && !reply.alloc.isOk then (false, shelf.failed)
  else match reply.outcome with
    | .error err =>
        if err.code = .TPEBLOCK then (false, { shelf with bare := !brings })
        else if 0 < reply.cd then (true, shelf.routed reply.cd brings)
        else (false, failed { shelf with bare := !brings })
    | .ok () =>
        if 0 < reply.cd then (true, shelf.routed reply.cd brings)
        else (false, { shelf with bare := !brings })

/-- A whole drain. -/
def drained : List NativeReply → Shelf → Shelf
  | [], shelf => (shelf.read {}).2
  | reply :: replies, shelf =>
      match shelf.read reply with
      | (true, shelf) => drained replies shelf
      | (false, shelf) => shelf

/-- What a collection takes. -/
def taken (target : Target) (choice : Cd) (shelf : Shelf) : Option Parcel :=
  match target with
  | .one cd => (shelf.slots.get cd).filter Parcel.ready
  | .any _ => (shelf.slots.findKey (fun parcel => parcel.ready && !parcel.claimed) choice).bind shelf.slots.get

end Shelf

namespace AsyncAtmiCtx

/-! ## What is on hand -/

/-- `n` orphans, and pointers that are what they say. -/
structure Holding (n : Nat) (b : Buffers) : Prop where
  orphans : b.orphans.length = n
  fresh : b.nextPtr ≠ 0
  null : b.live.get 0 = none
  scratch : ∀ buf, b.scratch = some buf → buf.ptr ≠ 0

/-- The shelf is the adapter's, as far as `target` can tell: the order of the slots is a matter of `TPGETANY`. -/
structure Mirrors (target : Target) (shelf : Shelf) (s : AsyncAtmiCtx) : Prop where
  slots : ∀ cd, shelf.slots.get cd = (s.slots.get cd).map Slot.parcel
  order : ∀ id, target = .any id → shelf.slots = s.slots.mapVals Slot.parcel
  bare : shelf.bare = s.scratch.isNone
  told : shelf.told = s.told target

theorem mirrors_shelf (target : Target) (s : AsyncAtmiCtx) : Mirrors target (s.shelf target) s where
  slots cd := by simp [shelf]
  order _ _ := rfl
  bare := rfl
  told := rfl

variable {n : Nat} {target : Target} {shelf : Shelf} {s : AsyncAtmiCtx}

theorem told_frame {s' : AsyncAtmiCtx} (waiters : s'.anyWaiters = s.anyWaiters) : s'.told target = s.told target := by
  simp [AsyncAtmiCtx.told, waiters]

theorem Mirrors.frame {s' : AsyncAtmiCtx} (mirrors : Mirrors target shelf s) (slots : s'.slots = s.slots)
    (waiters : s'.anyWaiters = s.anyWaiters) : Mirrors target { shelf with bare := s'.scratch.isNone } s' where
  slots cd := by simpa [slots] using mirrors.slots cd
  order id any := by simpa [slots] using mirrors.order id any
  bare := rfl
  told := mirrors.told.trans (told_frame waiters).symm

theorem Holding.stash {s : AsyncAtmiCtx} (buf : ParkedBuf) (holding : Holding n s.toBuffers) :
    Holding (n + (decide (buf.ptr ≠ 0) && s.scratch.isSome).toNat) (s.stash buf).toBuffers := by
  unfold AsyncAtmiCtx.stash
  by_cases null : buf.ptr = 0
  · simpa [null] using holding
  · cases scratch : s.scratch with
    | none =>
        simp only [null, if_false, Option.isNone_none, if_true, Option.isSome_none, Bool.and_false, Bool.toNat_false]
        exact { holding with scratch := fun held same => by cases same; exact null }
    | some held =>
        simp only [null, if_false, Option.isNone_some, Bool.false_eq_true]
        exact { holding with
          orphans := by simp [holding.orphans, null]
          scratch := fun other same => holding.scratch other (scratch.trans same) }

theorem Holding.freeBuf {s : AsyncAtmiCtx} (buf : ParkedBuf) (holding : Holding n s.toBuffers) :
    Holding n (s.freeBuf buf).toBuffers := by
  unfold AsyncAtmiCtx.freeBuf
  split
  · exact holding
  · exact { holding with null := by simpa [tpfree] using fun _ => holding.null }

theorem Holding.tpalloc {s : AsyncAtmiCtx} (info : Option TpTypeInfo) (holding : Holding n s.toBuffers) :
    (s.live.set s.nextPtr info).get 0 = none := by
  simp [Ne.symm holding.fresh, holding.null]

/-! ## One round of a drain -/

/-- The scratch is lent out, and nothing else has changed since `s`. -/
structure Lending (n : Nat) (s s' : AsyncAtmiCtx) : Prop where
  holding : Holding n s'.toBuffers
  scratch : s'.scratch = none
  slots : s'.slots = s.slots
  waiters : s'.anyWaiters = s.anyWaiters

/-- A drain has the scratch to lend or asks for one; either way it stops at once if there is none. -/
theorem takeScratch_cases (alloc : AtmiResult (Option TpTypeInfo)) (holding : Holding n s.toBuffers) :
    (∃ e, s.takeScratch alloc = (.error e, s) ∧ (s.scratch.isNone && !alloc.isOk) = true) ∨
      ∃ buf s', s.takeScratch alloc = (.ok buf, s') ∧ buf.ptr ≠ 0 ∧ Lending n s s' ∧
        (s.scratch.isNone && !alloc.isOk) = false := by
  unfold takeScratch
  cases scratch : s.scratch with
  | some buf =>
      exact .inr ⟨buf, _, rfl, holding.scratch buf scratch,
        ⟨{ holding with scratch := nofun }, rfl, rfl, rfl⟩, rfl⟩
  | none =>
      cases alloc with
      | error e => exact .inl ⟨e, rfl, rfl⟩
      | ok info =>
          refine .inr ⟨_, _, rfl, holding.fresh, ⟨?_, scratch, rfl, rfl⟩, rfl⟩
          exact { holding with
            fresh := Nat.succ_ne_zero _
            null := holding.tpalloc info
            scratch := fun buf same => holding.scratch buf same }

theorem freeBuf_scratch (buf : ParkedBuf) (s : AsyncAtmiCtx) : (s.freeBuf buf).scratch = s.scratch := by
  unfold AsyncAtmiCtx.freeBuf
  split <;> rfl

theorem tpgetrply_scratch (reply : NativeReply) (buf : ParkedBuf) (s : AsyncAtmiCtx) :
    (s.tpgetrply reply buf).2.scratch = s.scratch := by
  unfold tpgetrply
  cases reply.buffer with
  | kept => rfl
  | moved | gone => exact freeBuf_scratch buf s.consumeNext

/-- The native layer gives the lent buffer back, another one, or none. -/
theorem tpgetrply_lending {s₀ : AsyncAtmiCtx} (reply : NativeReply) {buf : ParkedBuf} (owned : buf.ptr ≠ 0)
    (lending : Lending n s₀ s) :
    decide ((s.observe.tpgetrply reply buf).1.ptr ≠ 0) = decide (reply.buffer ≠ .gone) ∧
      Lending n s₀ (s.observe.tpgetrply reply buf).2.observe := by
  have held : Holding n s.observe.consumeNext.toBuffers := { lending.holding with }
  have freed : Holding n (s.observe.consumeNext.freeBuf buf).toBuffers := held.freeBuf buf
  refine ⟨?_, ?_, ?_, ?_, ?_⟩
  · unfold tpgetrply
    cases reply.buffer with
    | kept => simp [owned]
    | moved info => exact decide_eq_true held.fresh
    | gone => rfl
  · unfold tpgetrply
    cases reply.buffer with
    | kept => exact { held with }
    | moved info =>
        exact { freed with
          fresh := Nat.succ_ne_zero _
          null := freed.tpalloc info }
    | gone => exact { freed with }
  · exact (tpgetrply_scratch reply buf s.observe).trans lending.scratch
  · exact (congrArg Tracking.slots (tpgetrply_tracking reply buf s.observe)).trans lending.slots
  · exact (congrArg Waking.anyWaiters (tpgetrply_waking reply buf s.observe)).trans lending.waiters

theorem failAllWaiting_onHand {s : AsyncAtmiCtx} (err : AtmiError) (holding : Holding n s.toBuffers)
    (mirrors : Mirrors target shelf s) :
    Holding n (s.failAllWaiting err).toBuffers ∧ Mirrors target shelf.failed (s.failAllWaiting err) := by
  have parcel : (fun p : Parcel => { p with ready := true }) ∘ Slot.parcel = Slot.parcel ∘ failWaiting err := by
    funext slot
    cases slot <;> rfl
  refine ⟨holding, fun cd => ?_, fun id any => ?_, mirrors.bare, ?_⟩
  · simp only [Shelf.failed, Table.get_mapVals, mirrors.slots, failAllWaiting, wakeAnyWaiters, wake, Option.map_map]
    rw [parcel]
  · simp only [Shelf.failed, mirrors.order id any, failAllWaiting, wakeAnyWaiters, wake, Table.mapVals_mapVals]
    rw [parcel]
  · simp only [Shelf.failed, mirrors.told, AsyncAtmiCtx.told, failAllWaiting, wakeAnyWaiters, wake]
    cases target with
    | one => rfl
    | any id =>
        simp only [Table.get_mapVals, Option.map_map]
        rfl

theorem stash_lending {s₀ : AsyncAtmiCtx} (buf : ParkedBuf) (lending : Lending n s₀ s)
    (mirrors : Mirrors target shelf s₀) :
    Holding n (s.stash buf).toBuffers ∧ Mirrors target { shelf with bare := !decide (buf.ptr ≠ 0) } (s.stash buf) := by
  have stashed := lending.holding.stash buf
  simp only [lending.scratch, Option.isSome_none, Bool.and_false, Bool.toNat_false, Nat.add_zero] at stashed
  have scratch : (s.stash buf).scratch.isNone = !decide (buf.ptr ≠ 0) := by
    unfold AsyncAtmiCtx.stash
    by_cases null : buf.ptr = 0
    · simp [null, lending.scratch]
    · simp [null, lending.scratch]
  refine ⟨stashed, ?_⟩
  rw [← scratch]
  exact mirrors.frame ((congrArg Tracking.slots (stash_tracking buf s)).trans lending.slots)
    ((congrArg Waking.anyWaiters (stash_waking buf s)).trans lending.waiters)

/-- The slot of `cd` is written, and the scratch stays lent out. -/
theorem Mirrors.set {s' : AsyncAtmiCtx} (mirrors : Mirrors target shelf s) {cd : Cd} (slot : Slot)
    (slots : s'.slots = s.slots.set cd slot) (scratch : s'.scratch = none) (told : s'.told target = s.told target) :
    Mirrors target { shelf with slots := shelf.slots.set cd slot.parcel, bare := true } s' where
  slots cd' := by
    rw [slots, Table.get_set, Table.get_set]
    split
    · rfl
    · exact mirrors.slots cd'
  order id any := by rw [slots, mirrors.order id any, Table.mapVals_set]
  bare := by simp [scratch]
  told := mirrors.told.trans told.symm

theorem wakeAnyWaiters_told (s : AsyncAtmiCtx) : s.wakeAnyWaiters.told target = s.told target := by
  unfold AsyncAtmiCtx.told
  cases target with
  | one => rfl
  | any id =>
      simp only [wakeAnyWaiters, wake, Table.get_mapVals, Option.map_map]
      rfl

theorem route_lending {s₀ : AsyncAtmiCtx} (cd : Cd) (outcome : AtmiResult Unit) (buf : ParkedBuf)
    (lending : Lending n s₀ s) (mirrors : Mirrors target shelf s₀) :
    Holding n (s.route cd outcome buf).toBuffers ∧
      Mirrors target (shelf.routed cd (decide (buf.ptr ≠ 0))) (s.route cd outcome buf) := by
  have told : s.told target = s₀.told target := told_frame lending.waiters
  unfold route Shelf.routed
  rw [mirrors.slots, ← lending.slots]
  simp only [record]
  cases found : s.slots.get cd with
  | none =>
      refine ⟨{ lending.holding with }, mirrors.set (.ready s.nextGeneration (.reply s.nextReport) outcome buf none)
        (by rw [← lending.slots]; rfl) lending.scratch ?_⟩
      rw [wakeAnyWaiters_told]
      exact told
  | some slot =>
      cases slot with
      | waiting generation waker claim =>
          refine ⟨{ lending.holding with }, mirrors.set (.ready generation (.reply s.nextReport) outcome buf claim)
            (by rw [← lending.slots]; rfl) lending.scratch ?_⟩
          rw [wakeAnyWaiters_told]
          exact told
      | ready =>
          -- the slot keeps its first outcome, and the second buffer is the scratch again
          have stashed := fun log => stash_lending (s := { s with log, nextReport := s.nextReport + 1 }) buf
            ⟨{ lending.holding with }, lending.scratch, lending.slots, lending.waiters⟩ mirrors
          exact ⟨(stashed _).1, { (stashed _).2 with }⟩

/-- The rest of a round, once the buffer is back. -/
theorem settle_lending {s₀ : AsyncAtmiCtx} (reply : NativeReply) (buf : ParkedBuf)
    (lending : Lending n s₀ s) (mirrors : Mirrors target shelf s₀)
    (brings : decide (buf.ptr ≠ 0) = decide (reply.buffer ≠ .gone))
    (lent : (shelf.bare && !reply.alloc.isOk) = false) :
    (s.settle reply buf).1 = (shelf.read reply).1 ∧ Holding n (s.settle reply buf).2.toBuffers ∧
      Mirrors target (shelf.read reply).2 (s.settle reply buf).2 := by
  have returned : Lending n s₀ { s with lent := none } := ⟨{ lending.holding with }, lending.scratch, lending.slots,
    lending.waiters⟩
  have stashed := stash_lending buf returned mirrors
  have routed := fun outcome => route_lending reply.cd outcome buf returned mirrors
  rw [brings] at stashed routed
  unfold settle Shelf.read
  simp only [lent, Bool.false_eq_true, if_false]
  cases outcome : reply.outcome with
  | ok =>
      simp only
      split
      · exact ⟨rfl, routed _⟩
      · exact ⟨rfl, stashed⟩
  | error err =>
      simp only
      split
      · exact ⟨rfl, stashed⟩
      · split
        · exact ⟨rfl, routed _⟩
        · exact ⟨rfl, failAllWaiting_onHand err stashed.1 stashed.2⟩

theorem round_onHand (reply : NativeReply) (holding : Holding n s.toBuffers) (mirrors : Mirrors target shelf s) :
    (s.drainRound reply).1 = (shelf.read reply).1 ∧ Holding n (s.drainRound reply).2.toBuffers ∧
      Mirrors target (shelf.read reply).2 (s.drainRound reply).2 := by
  unfold drainRound
  obtain ⟨e, taken, none⟩ | ⟨buf, s', taken, owned, lending, some⟩ := takeScratch_cases reply.alloc holding <;>
    rw [taken]
  · rw [← mirrors.bare] at none
    have failed := failAllWaiting_onHand e holding mirrors
    simp only [Shelf.read, none, if_true]
    exact ⟨trivial, failed⟩
  · rw [← mirrors.bare] at some
    obtain ⟨brings, after⟩ := tpgetrply_lending reply owned lending
    exact settle_lending reply _ after mirrors brings some

/-! ## A whole drain -/

theorem drainInner_onHand : ∀ (replies : List NativeReply) (shelf : Shelf) (s : AsyncAtmiCtx),
    Holding n s.toBuffers → Mirrors target shelf s →
      Holding n (drainInner replies s).toBuffers ∧ Mirrors target (shelf.drained replies) (drainInner replies s) := by
  intro replies
  induction replies with
  | nil => exact fun shelf s holding mirrors => (round_onHand {} holding mirrors).2
  | cons reply replies ih =>
      intro shelf s holding mirrors
      obtain ⟨same, after⟩ := round_onHand reply holding mirrors
      unfold drainInner Shelf.drained
      rcases ran : s.drainRound reply with ⟨goesOn, s'⟩
      rcases reads : shelf.read reply with ⟨goesOn', shelf'⟩
      rw [ran, reads] at same after
      cases (show goesOn = goesOn' from same)
      cases goesOn with
      | true => exact ih shelf' s' after.1 after.2
      | false => exact after

/-- What a wait can count on between two drains: `n` buffers set aside, its own variable as it was, and the shelf. -/
structure OnHand (n : Nat) (w : Wait) (mine : ParkedBuf) (shelf : Shelf) (s : AsyncAtmiCtx) : Prop where
  holding : Holding n s.toBuffers
  idle : s.draining = false
  mine : s.data w.data = mine
  mirrors : Mirrors w.target shelf s

/-- **A drain does to the shelf what its answers say**, and sets nothing aside. -/
theorem drain_onHand {w : Wait} {mine : ParkedBuf} (replies : List NativeReply) (onHand : OnHand n w mine shelf s) :
    OnHand n w mine (shelf.drained replies) (drain replies s) := by
  obtain ⟨holding, mirrors⟩ := drainInner_onHand replies shelf { s with draining := true }
    { onHand.holding with } { onHand.mirrors with }
  have kept : (drain replies s).buffers = s.buffers :=
    (shows_quiet (.drained s replies (allowed_any replies)) (shows_self s)).2
  have drains : drain replies s = { drainInner replies { s with draining := true } with draining := false } := by
    simp [drain, onHand.idle]
  refine ⟨?_, ?_, ?_, ?_⟩
  · rw [drains]
    exact { holding with }
  · rw [drains]
  · simpa [data, kept] using onHand.mine
  · rw [drains]
    exact { mirrors with }

/-! ## A collection -/

/-- A buffer nobody has is no `TPNOCHANGE` mismatch. -/
theorem refusal_null {buf : ParkedBuf} {id : BufId} {flags : Flags} (holding : Holding n s.toBuffers)
    (null : (s.data id).ptr = 0) : s.refusal buf id flags = none := by
  unfold refusal
  have untyped : s.tptypes (s.data id).ptr = none := by simp [tptypes, null, holding.null]
  rw [untyped]
  split
  · cases s.tptypes buf.ptr <;> rfl
  · rfl

/-- A hand-over sets a buffer aside where the reply, the variable and the scratch all hold one. -/
theorem handOver_holding (outcome : AtmiResult Unit) (buf : ParkedBuf) (id : BufId) (flags : Flags)
    (holding : Holding n s.toBuffers) :
    Holding (n + (decide (buf.ptr ≠ 0) && !s.scratch.isNone && decide ((s.data id).ptr ≠ 0)).toNat)
      (s.handOver outcome buf id flags).2.toBuffers := by
  unfold handOver
  by_cases null : buf.ptr = 0
  · simpa [null] using holding
  · simp only [null, if_false]
    cases refused : s.refusal buf id flags with
    | some message =>
        have typed : (s.data id).ptr ≠ 0 := fun none => by simp [refusal_null holding none] at refused
        simpa [null, typed, Option.not_isNone] using holding.stash buf
    | none =>
        have kept : Holding n { s with buffers := s.buffers.set id buf }.toBuffers := { holding with }
        have stashed := kept.stash (s.data id)
        simp only [null, ne_eq, not_false_eq_true, decide_true, Bool.true_and, Option.not_isNone]
        rw [Bool.and_comm]
        exact stashed

theorem stash_draining (buf : ParkedBuf) (s : AsyncAtmiCtx) : (s.stash buf).draining = s.draining := by
  unfold AsyncAtmiCtx.stash
  split
  · rfl
  · split <;> rfl

theorem handOver_draining (outcome : AtmiResult Unit) (buf : ParkedBuf) (id : BufId) (flags : Flags)
    (s : AsyncAtmiCtx) : (s.handOver outcome buf id flags).2.draining = s.draining := by
  unfold handOver
  split
  · rfl
  · split
    · exact stash_draining buf s
    · exact stash_draining _ { s with buffers := s.buffers.set id buf }

theorem isUnclaimedReply_parcel :
    (fun parcel : Parcel => parcel.ready && !parcel.claimed) ∘ Slot.parcel = Slot.isUnclaimedReply := by
  funext slot
  cases slot with
  | waiting => rfl
  | ready _ _ _ _ claim => cases claim <;> rfl

theorem Mirrors.chosen {choice : Cd} {id : Nat} (mirrors : Mirrors (.any id) shelf s) :
    shelf.slots.findKey (fun parcel => parcel.ready && !parcel.claimed) choice = s.anyUnclaimed choice := by
  rw [mirrors.order id rfl, Table.findKey_mapVals, isUnclaimedReply_parcel]
  rfl

/-- A collection takes from the adapter what the shelf says. -/
theorem take_holding {w : Wait} {mine : ParkedBuf} (choice : Cd) (onHand : OnHand n w mine shelf s) :
    (shelf.taken w.target choice = none ∧ takeReady w.target w.own w.data w.flags choice s = (none, s)) ∨
      ∃ parcel found s', shelf.taken w.target choice = some parcel ∧
        takeReady w.target w.own w.data w.flags choice s = (some found, s') ∧ s'.draining = false ∧
        Holding (n + (parcel.loaded && !shelf.bare && decide (mine.ptr ≠ 0)).toNat) s'.toBuffers := by
  obtain ⟨missing, nothing⟩ | ⟨cd, generation, origin, outcome, buf, claim, found, takes, taken⟩ :=
    takeReady_cases w.target w.own w.data w.flags choice s
  · refine .inl ⟨?_, missing⟩
    have mirrors := onHand.mirrors
    unfold Shelf.taken
    cases same : w.target with
    | one cd =>
        rw [same] at nothing mirrors
        simp only [mirrors.slots]
        cases held : s.slots.get cd with
        | none => rfl
        | some slot =>
            have waits : slot.isReady = false := by simpa [NothingReady, isReady, held] using nothing
            simp [Option.filter, Slot.parcel, waits]
    | any id =>
        rw [same] at nothing mirrors
        simp only [mirrors.chosen, anyUnclaimed_none.2 nothing, Option.bind_none]
  · refine .inr ⟨Slot.parcel (.ready generation origin outcome buf claim), _, _, ?_, taken, ?_, ?_⟩
    · have mirrors := onHand.mirrors
      unfold Shelf.taken
      cases same : w.target with
      | one cd' =>
          rw [same] at takes mirrors
          cases (show cd = cd' from takes)
          simp [mirrors.slots, found, Option.filter, Slot.parcel, Slot.isReady]
      | any id =>
          rw [same] at taken mirrors
          have chosen : s.anyUnclaimed choice = some cd := by
            unfold takeReady at taken
            cases choose : s.anyUnclaimed choice with
            | none => simp [choose] at taken
            | some cd' =>
                obtain ⟨slot, here, _⟩ := Table.findKey_some choose
                cases slot <;> simp_all
          simp only [mirrors.chosen, chosen, Option.bind_some, mirrors.slots, found, Option.map_some]
    · exact (handOver_draining _ _ _ _ _).trans onHand.idle
    · have handed := handOver_holding outcome buf w.data w.flags
        (s := record (.collected w.own cd (.ready generation origin outcome buf claim)
          (s.refusal buf w.data w.flags).isSome) { s with slots := s.slots.del cd }) { onHand.holding with }
      rw [← onHand.mine, onHand.mirrors.bare]
      exact handed

end AsyncAtmiCtx

end Endurox.Async
