/-
# Async.Buffers -- every native buffer has one owner

`Balanced hand s` is the ledger of the native allocator: what is live is held by
a parked slot, the scratch spare, the orphan list, the drain in progress, a
caller, or is in `hand`, a local of the code that runs.  Each operation takes
its buffers into hand and gives them away again, so at every await point and in
the middle of every drain nothing has two owners and nothing is lost.
-/
import Endurox.Theory.Ledger
import Endurox.Async.Reachable

namespace Endurox.Async

open Endurox.Theory AsyncAtmiCtx

set_option autoImplicit false

namespace AsyncAtmiCtx

/-! ## Owners, and what is in hand -/

theorem count_held (s : AsyncAtmiCtx) (p : Ptr) : s.held.count p = s.inSlots.count p +
    s.inScratch.count p + s.inOrphans.count p + s.inDrain.count p + s.inCallers.count p := by
  simp [held, adapterHeld, List.count_append, Nat.add_assoc]

/-- **Every live allocation has one owner**, counting those in `hand`. -/
def Balanced (hand : List Ptr) (s : AsyncAtmiCtx) : Prop :=
  Ledger (hand ++ s.held) s.live.keys s.freed s.nextPtr

theorem Balanced.moved {hand hand' : List Ptr} {s s' : AsyncAtmiCtx} (balanced : Balanced hand s)
    (native : s'.live = s.live ∧ s'.freed = s.freed ∧ s'.nextPtr = s.nextPtr)
    (same : ∀ p, hand'.count p + s'.held.count p = hand.count p + s.held.count p) :
    Balanced hand' s' := by
  unfold Balanced
  rw [native.1, native.2.1, native.2.2]
  exact balanced.move fun p => by simpa [List.count_append] using same p

theorem keys_perm_set {live : Table Ptr (Option TpTypeInfo)} {p : Ptr} (info : Option TpTypeInfo)
    (fresh : p ∉ live.keys) : (live.set p info).keys.Perm (p :: live.keys) := by
  have absent : live.get p = none := by
    simpa [Table.mem_keys] using fresh
  rw [Table.keys_set, Table.del_of_get_none absent]

/-! ## The native allocator -/

/-- An allocation comes into hand. -/
theorem balanced_alloc {hand : List Ptr} {s : AsyncAtmiCtx} (info : Option TpTypeInfo)
    (balanced : Balanced hand s) : Balanced (s.nextPtr :: hand)
      { s with live := s.live.set s.nextPtr info, nextPtr := s.nextPtr + 1 } := by
  have fresh : s.nextPtr ∉ s.live.keys := fun member =>
    Nat.lt_irrefl _ ((balanced.all _).1 (List.mem_append_left _ member)).2
  exact balanced.alloc (keys_perm_set info fresh)

/-- Freeing a buffer in hand. -/
theorem balanced_free {hand : List Ptr} {buf : ParkedBuf} {s : AsyncAtmiCtx}
    (balanced : Balanced (buf.owned ++ hand) s) : Balanced hand (s.freeBuf buf) := by
  unfold freeBuf
  by_cases null : buf.ptr = 0
  · simpa [null, ParkedBuf.owned] using balanced
  · simp only [null, if_false, tpfree]
    simp only [ParkedBuf.owned, null, if_false, Balanced] at balanced
    have alive : buf.ptr ∈ s.live.keys := (balanced.held_live (by simp)).1
    obtain ⟨info, found⟩ := Option.isSome_iff_exists.1 (Table.mem_keys.1 alive)
    exact balanced.free (Table.keys_perm_of_get found)

theorem balanced_stash {hand : List Ptr} {buf : ParkedBuf} {s : AsyncAtmiCtx}
    (balanced : Balanced (buf.owned ++ hand) s) : Balanced hand (s.stash buf) := by
  unfold stash
  by_cases null : buf.ptr = 0
  · simpa [null, ParkedBuf.owned] using balanced
  · simp only [null, if_false]
    cases scratch : s.scratch with
    | none =>
        refine balanced.moved ⟨rfl, rfl, rfl⟩ fun p => ?_
        simp [count_held, inSlots, inScratch, inOrphans, inDrain, inCallers, ownedBy, scratch]
        omega
    | some spare =>
        refine balanced.moved ⟨rfl, rfl, rfl⟩ fun p => ?_
        simp [count_held, inSlots, inScratch, inOrphans, inDrain, inCallers, ownedBy, scratch]
        omega

theorem stash_keeps (buf : ParkedBuf) (s : AsyncAtmiCtx) :
    (s.stash buf).lent = s.lent ∧ (s.stash buf).observed = s.observed := by
  unfold stash
  split
  · exact ⟨rfl, rfl⟩
  · split <;> exact ⟨rfl, rfl⟩

/-! ## Slots -/

/-- The parts of the ledger a change of slots does not touch. -/
theorem count_slots (slots : Table Cd Slot) (s : AsyncAtmiCtx) (p : Ptr) :
    ({ s with slots } : AsyncAtmiCtx).held.count p + s.inSlots.count p =
      (slots.gather fun _ slot => slot.buf.owned).count p + s.held.count p := by
  simp [count_held, inSlots, inScratch, inOrphans, inDrain, inCallers]
  omega

/-- Writing a slot: the buffer it had, if any, comes into hand for the new one. -/
theorem balanced_set {hand : List Ptr} {s : AsyncAtmiCtx} {cd : Cd} {slot : Slot}
    (balanced : Balanced (slot.buf.owned ++ hand) s)
    (empty : ∀ old, s.slots.get cd = some old → old.buf.owned = []) :
    Balanced hand { s with slots := s.slots.set cd slot } := by
  refine balanced.moved ⟨rfl, rfl, rfl⟩ fun p => ?_
  have parts := count_slots (s.slots.set cd slot) s p
  have after := Table.gather_set (fun _ slot => Slot.buf slot |>.owned) s.slots cd slot p
  have before : s.inSlots.count p =
      ((s.slots.del cd).gather fun _ slot => slot.buf.owned).count p := by
    cases found : s.slots.get cd with
    | none => rw [Table.del_of_get_none found]; rfl
    | some old =>
        have split := Table.gather_of_get (fun _ slot => Slot.buf slot |>.owned) found p
        simpa [inSlots, empty old found] using split
  simp only [List.count_append]
  omega

/-- A slot taken out gives its buffer into hand. -/
theorem balanced_del {hand : List Ptr} {s : AsyncAtmiCtx} {cd : Cd} {slot : Slot}
    (balanced : Balanced hand s) (found : s.slots.get cd = some slot) :
    Balanced (slot.buf.owned ++ hand) { s with slots := s.slots.del cd } := by
  refine balanced.moved ⟨rfl, rfl, rfl⟩ fun p => ?_
  have parts := count_slots (s.slots.del cd) s p
  have split : s.inSlots.count p = _ :=
    Table.gather_of_get (fun _ slot => Slot.buf slot |>.owned) found p
  simp only [List.count_append]
  omega

/-- Rewriting a slot in place, with the buffer it has. -/
theorem balanced_rewrite {hand : List Ptr} {s : AsyncAtmiCtx} {cd : Cd} {slot : Slot} (slot' : Slot)
    (balanced : Balanced hand s) (found : s.slots.get cd = some slot)
    (same : slot'.buf = slot.buf) : Balanced hand { s with slots := s.slots.set cd slot' } := by
  refine balanced.moved ⟨rfl, rfl, rfl⟩ fun p => ?_
  have parts := count_slots (s.slots.set cd slot') s p
  have after := Table.gather_set (fun _ slot => Slot.buf slot |>.owned) s.slots cd slot' p
  have split : s.inSlots.count p = _ :=
    Table.gather_of_get (fun _ slot => Slot.buf slot |>.owned) found p
  simp only [same] at after
  omega

/-- What a state records or wakes is no buffer. -/
theorem balanced_frame {hand : List Ptr} {s s' : AsyncAtmiCtx} (balanced : Balanced hand s)
    (slots : s'.slots = s.slots) (buffers : s'.toBuffers = s.toBuffers) : Balanced hand s' := by
  refine balanced.moved (by simp [buffers]) fun p => ?_
  simp [count_held, inSlots, inScratch, inOrphans, inDrain, inCallers, slots, buffers]

theorem balanced_record {hand : List Ptr} {s : AsyncAtmiCtx} (e : Event)
    (balanced : Balanced hand s) : Balanced hand (record e s) := balanced_frame balanced rfl rfl

theorem balanced_wakeAny {hand : List Ptr} {s : AsyncAtmiCtx} (balanced : Balanced hand s) :
    Balanced hand s.wakeAnyWaiters := balanced_frame balanced rfl rfl

theorem owned_empty : ParkedBuf.EMPTY.owned = [] := rfl

/-! ## A drain -/

theorem balanced_route {cd : Cd} {outcome : AtmiResult Unit} {buf : ParkedBuf} {s : AsyncAtmiCtx}
    (balanced : Balanced buf.owned s) : Balanced [] (s.route cd outcome buf) := by
  have inHand : ∀ s' : AsyncAtmiCtx, s'.slots = s.slots → s'.toBuffers = s.toBuffers →
      Balanced (buf.owned ++ []) s' :=
    fun s' slots buffers => by simpa using balanced_frame balanced slots buffers
  have answered : ∀ (s' : AsyncAtmiCtx) (slot : Slot), slot.buf = buf → s'.slots = s.slots →
      s'.toBuffers = s.toBuffers → (∀ old, s.slots.get cd = some old → old.buf.owned = []) →
      Balanced [] { s' with slots := s'.slots.set cd slot } := by
    intro s' slot same slots buffers empty
    refine balanced_set (by rw [same]; exact inHand s' slots buffers) fun old found => ?_
    exact empty old (by rw [← slots]; exact found)
  unfold route
  cases found : s.slots.get cd with
  | none =>
      simp only [record, found]
      exact balanced_wakeAny (balanced_frame (answered _ _ rfl rfl rfl (by simp [found])) rfl rfl)
  | some slot =>
      cases slot with
      | ready =>
          simp only [record, found]
          exact balanced_record _ (balanced_stash (inHand _ rfl rfl))
      | waiting generation waker claim =>
          simp only [record, found]
          refine balanced_wakeAny (balanced_frame (answered s
            (.ready generation (.reply s.nextReport) outcome buf claim) rfl rfl rfl ?_) rfl rfl)
          intro old there
          cases found.symm.trans there
          rfl

theorem balanced_failAllWaiting {hand : List Ptr} {err : AtmiError} {s : AsyncAtmiCtx}
    (balanced : Balanced hand s) : Balanced hand (s.failAllWaiting err) := by
  refine balanced_wakeAny (balanced_frame (s := { s with slots := s.slots.mapVals (failWaiting err) })
    (balanced.moved ⟨rfl, rfl, rfl⟩ fun p => ?_) rfl rfl)
  have parts := count_slots (s.slots.mapVals (failWaiting err)) s p
  have same : s.slots.gather (fun _ slot => slot.buf.owned) =
      (s.slots.mapVals (failWaiting err)).gather fun _ slot => slot.buf.owned :=
    (Table.gather_mapVals _ (fun _ slot => by cases slot <;> rfl) s.slots).symm
  rw [← same] at parts
  unfold inSlots at parts
  omega

/-- Whenever the native layer had a buffer, everything live had one owner. -/
def Observed (s : AsyncAtmiCtx) : Prop := ∀ seen ∈ s.observed, seen.1.Perm seen.2 ∧ seen.1.Nodup

/-- Between drains nothing is lent out. -/
structure Settled (s : AsyncAtmiCtx) : Prop where
  balanced : Balanced [] s
  lent : s.lent = none
  observed : s.Observed

theorem observed_observe {s : AsyncAtmiCtx} (balanced : Balanced [] s) (observed : s.Observed) :
    s.observe.Observed := by
  intro seen member
  rcases List.mem_cons.1 member with rfl | before
  · exact ⟨Ledger.balanced balanced, Ledger.held_nodup balanced⟩
  · exact observed seen before

theorem balanced_observe {hand : List Ptr} {s : AsyncAtmiCtx} (balanced : Balanced hand s) :
    Balanced hand s.observe := balanced.moved ⟨rfl, rfl, rfl⟩ fun _ => rfl

/-- What was lent comes into hand. -/
theorem balanced_taken {hand : List Ptr} {s : AsyncAtmiCtx} (balanced : Balanced hand s) :
    Balanced (ownedBy s.lent.toList ++ hand) { s with lent := none } := by
  refine balanced.moved ⟨rfl, rfl, rfl⟩ fun p => ?_
  simp [count_held, inSlots, inScratch, inOrphans, inDrain, inCallers, ownedBy]
  omega

/-- What is in hand is lent. -/
theorem balanced_lend {hand : List Ptr} {buf : ParkedBuf} {s : AsyncAtmiCtx}
    (balanced : Balanced (buf.owned ++ hand) s) (none : s.lent = none) :
    Balanced hand { s with lent := some buf } := by
  refine balanced.moved ⟨rfl, rfl, rfl⟩ fun p => ?_
  simp [count_held, inSlots, inScratch, inOrphans, inDrain, inCallers, ownedBy, none]
  omega

/-- A new allocation is lent. -/
theorem balanced_lendNew {hand : List Ptr} {s : AsyncAtmiCtx} (len : Nat)
    (info : Option TpTypeInfo) (balanced : Balanced hand s) (none : s.lent = none) :
    Balanced hand { s with
      live := s.live.set s.nextPtr info, nextPtr := s.nextPtr + 1, lent := some ⟨s.nextPtr, len⟩ } := by
  have positive : s.nextPtr ≠ 0 := Nat.ne_of_gt balanced.positive
  have inHand : Balanced (ParkedBuf.owned ⟨s.nextPtr, len⟩ ++ hand)
      { s with live := s.live.set s.nextPtr info, nextPtr := s.nextPtr + 1 } := by
    simpa [ParkedBuf.owned, positive] using balanced_alloc info balanced
  exact balanced_lend inHand none

/-- The scratch, or a new allocation, is lent to the native layer. -/
theorem balanced_takeScratch (alloc : AtmiResult (Option TpTypeInfo)) {s : AsyncAtmiCtx}
    (balanced : Balanced [] s) (none : s.lent = none) : Balanced [] (s.takeScratch alloc).2 ∧
      match (s.takeScratch alloc).1 with
      | .ok buf => (s.takeScratch alloc).2.lent = some buf
      | .error _ => (s.takeScratch alloc).2.lent = .none := by
  unfold takeScratch
  cases scratch : s.scratch with
  | some buf =>
      refine ⟨balanced.moved ⟨rfl, rfl, rfl⟩ fun p => ?_, rfl⟩
      simp [count_held, inSlots, inScratch, inOrphans, inDrain, inCallers, ownedBy, scratch, none]
      omega
  | none =>
      cases alloc with
      | error e => exact ⟨balanced, none⟩
      | ok info => exact ⟨balanced_lendNew 0 info balanced none, rfl⟩

theorem freeBuf_lent (buf : ParkedBuf) (s : AsyncAtmiCtx) (lent : Option ParkedBuf) :
    ({ s with lent } : AsyncAtmiCtx).freeBuf buf = { s.freeBuf buf with lent } := by
  unfold freeBuf
  split <;> rfl

theorem takeScratch_observed (alloc : AtmiResult (Option TpTypeInfo)) (s : AsyncAtmiCtx) :
    (s.takeScratch alloc).2.observed = s.observed := by
  unfold takeScratch
  cases s.scratch with
  | some => rfl
  | none => cases alloc <;> rfl

theorem freeBuf_keeps (buf : ParkedBuf) (s : AsyncAtmiCtx) :
    (s.freeBuf buf).lent = s.lent ∧ (s.freeBuf buf).observed = s.observed := by
  unfold freeBuf
  split <;> exact ⟨rfl, rfl⟩

theorem tpgetrply_observed (reply : NativeReply) (buf : ParkedBuf) (s : AsyncAtmiCtx) :
    (s.tpgetrply reply buf).2.observed = s.observed := by
  unfold tpgetrply
  cases reply.buffer <;> simp [freeBuf_keeps, consumeNext]

theorem freeBuf_nextPtr (buf : ParkedBuf) (s : AsyncAtmiCtx) : (s.freeBuf buf).nextPtr = s.nextPtr := by
  unfold freeBuf
  split <;> rfl

/-- The native layer keeps the buffer, moves it or takes it away. -/
theorem balanced_tpgetrply (reply : NativeReply) {buf : ParkedBuf} {s : AsyncAtmiCtx}
    (balanced : Balanced [] s) (lent : s.lent = some buf) :
    Balanced [] (s.tpgetrply reply buf).2 ∧
      ownedBy (s.tpgetrply reply buf).2.lent.toList = (s.tpgetrply reply buf).1.owned := by
  have taken : Balanced (buf.owned ++ []) { s.consumeNext with lent := none } := by
    have settled : Balanced [] s.consumeNext := balanced_frame balanced rfl rfl
    have inHand := balanced_taken settled
    have still : s.consumeNext.lent = some buf := lent
    simp only [still] at inHand
    simpa [ownedBy] using inHand
  have freed := balanced_free taken
  rw [freeBuf_lent buf s.consumeNext] at freed
  unfold tpgetrply
  cases reply.buffer with
  | kept =>
      have same : Balanced (ParkedBuf.owned ⟨buf.ptr, reply.len⟩ ++ [])
          { s.consumeNext with lent := none } := taken
      have kept := balanced_lend same rfl
      exact ⟨kept, by simp [ownedBy]⟩
  | moved info =>
      have moved := balanced_lendNew reply.len info freed rfl
      simp only [freeBuf_nextPtr] at moved ⊢
      exact ⟨moved, by simp [ownedBy]⟩
  | gone => exact ⟨freed, rfl⟩

theorem route_keeps (cd : Cd) (outcome : AtmiResult Unit) (buf : ParkedBuf) (s : AsyncAtmiCtx) :
    (s.route cd outcome buf).lent = s.lent ∧ (s.route cd outcome buf).observed = s.observed := by
  have stashed := stash_keeps buf
  unfold route
  simp only [record]
  split
  · exact ⟨rfl, rfl⟩
  · exact stashed _
  · exact ⟨rfl, rfl⟩

/-- The rest of a round gives the buffer in hand away. -/
theorem settled_settle {reply : NativeReply} {buf : ParkedBuf} {s : AsyncAtmiCtx}
    (balanced : Balanced [] s) (lent : ownedBy s.lent.toList = buf.owned) (observed : s.Observed) :
    Settled (s.settle reply buf).2 := by
  have inHand : Balanced buf.owned { s with lent := none } := by
    simpa [lent] using balanced_taken balanced
  have stashed : Settled (stash buf { s with lent := none }) := by
    obtain ⟨lent, seen⟩ := stash_keeps buf { s with lent := none }
    exact ⟨balanced_stash (by simpa using inHand), lent, by simpa [Observed, seen] using observed⟩
  have routed : ∀ outcome, Settled (route reply.cd outcome buf { s with lent := none }) := by
    intro outcome
    obtain ⟨lent, seen⟩ := route_keeps reply.cd outcome buf { s with lent := none }
    exact ⟨balanced_route inHand, lent, by simpa [Observed, seen] using observed⟩
  unfold settle
  split
  · split
    · exact stashed
    · split
      · exact routed _
      · exact ⟨balanced_failAllWaiting stashed.balanced, stashed.lent, stashed.observed⟩
  · split
    · exact routed _
    · exact stashed

theorem settled_round (reply : NativeReply) {s : AsyncAtmiCtx} (settled : Settled s) :
    Settled (s.drainRound reply).2 := by
  obtain ⟨balanced, lent⟩ := balanced_takeScratch reply.alloc settled.balanced settled.lent
  have seen := takeScratch_observed reply.alloc s
  unfold drainRound
  rcases taken : s.takeScratch reply.alloc with ⟨err | buffer, s'⟩ <;>
    simp only [taken] at balanced lent seen ⊢
  all_goals have before : s'.Observed := by simpa [Observed, seen] using settled.observed
  · exact ⟨balanced_failAllWaiting balanced, lent, before⟩
  · obtain ⟨received, holds⟩ := balanced_tpgetrply reply (balanced_observe balanced) lent
    have between := observed_observe balanced before
    have after : (s'.observe.tpgetrply reply buffer).2.Observed := by
      simpa [Observed, tpgetrply_observed] using between
    exact settled_settle (balanced_observe received) holds (observed_observe received after)

/-! ## Between drains -/

theorem Settled.frame {s s' : AsyncAtmiCtx} (settled : Settled s) (slots : s'.slots = s.slots)
    (buffers : s'.toBuffers = s.toBuffers) : Settled s' where
  balanced := balanced_frame settled.balanced slots buffers
  lent := (congrArg Buffers.lent buffers).trans settled.lent
  observed := by simpa [Observed, buffers] using settled.observed

/-- A change of slots alone. -/
theorem Settled.slots {s : AsyncAtmiCtx} {slots : Table Cd Slot} (settled : Settled s)
    (balanced : Balanced [] { s with slots }) : Settled { s with slots } :=
  ⟨balanced, settled.lent, settled.observed⟩

theorem settled_quiet {may : Cd → Prop} : Closed (Quiet may) Settled := by
  refine Closed.quiet fun {s s'} moved settled => ?_
  cases moved with
  | round reply _ => exact settled_round reply settled
  | draining b => exact settled.frame rfl rfl
  | wakeAny => exact settled.frame rfl rfl

theorem settled_freeBuf {buf : ParkedBuf} {s : AsyncAtmiCtx} (balanced : Balanced buf.owned s)
    (lent : s.lent = none) (observed : s.Observed) : Settled (s.freeBuf buf) := by
  obtain ⟨same, seen⟩ := freeBuf_keeps buf s
  exact ⟨balanced_free (by simpa using balanced), same.trans lent, by simpa [Observed, seen] using observed⟩

/-- A slot taken out and its buffer freed. -/
theorem settled_release {s : AsyncAtmiCtx} (cause : Cause) (cd : Cd) (settled : Settled s) :
    Settled (releaseSlot cause cd s) := by
  unfold releaseSlot deregister
  cases found : s.slots.get cd with
  | none =>
      simp only [forgetDeadline, found, freeBuf, ParkedBuf.EMPTY, if_true]
      exact settled.frame rfl rfl
  | some slot =>
      simp only [forgetDeadline, found]
      have inHand := balanced_del settled.balanced found
      have recorded : Balanced (slot.buf.owned ++ []) (record (.released cause cd slot)
          { s with slots := s.slots.del cd, deadlines := s.deadlines.del cd }) :=
        balanced_frame inHand rfl rfl
      exact settled_freeBuf (by simpa using recorded) settled.lent settled.observed

/-- A new slot without a buffer. -/
theorem Settled.waiting {s : AsyncAtmiCtx} {cd : Cd} (slot : Slot) (empty : slot.buf.owned = [])
    (untracked : s.slots.get cd = none) (settled : Settled s) :
    Settled { s with slots := s.slots.set cd slot } := by
  refine settled.slots (balanced_set (by simpa [empty] using settled.balanced) ?_)
  simp [untracked]

theorem settled_submitted {s : AsyncAtmiCtx} {cd : Cd} (deadline : Option Instant) (claimed : Bool)
    (free : s.isDescriptorBusy cd = false) (settled : Settled s) :
    Settled (registered cd deadline claimed s) := by
  have untracked : s.slots.get cd = none := by simpa [isDescriptorBusy] using free
  exact (settled.waiting (.waiting s.nextGeneration none (if claimed then some .call else none)) rfl
    untracked).frame rfl rfl

theorem withClaim_buf (claim : Option ReplyClaim) (slot : Slot) : (withClaim claim slot).buf = slot.buf := by
  cases slot <;> rfl

theorem settled_claimed {s s' : AsyncAtmiCtx} {cd : Cd} {guard : ReplyClaimGuard}
    (claimed : s.claim cd = (.ok guard, s')) (settled : Settled s) : Settled s' := by
  obtain ⟨untracked, rfl, rfl⟩ | ⟨slot, found, unclaimed, rfl, rfl⟩ := claim_cases claimed
  · exact (settled.waiting (.waiting s.nextGeneration none (some (.waiter (s.nextClaimId + 1)))) rfl
      untracked).frame rfl rfl
  · exact (settled.slots
      (balanced_rewrite _ settled.balanced found (withClaim_buf _ slot))).frame rfl rfl

theorem settled_dropClaim {s : AsyncAtmiCtx} (guard : ReplyClaimGuard) (settled : Settled s) :
    Settled (s.dropClaim guard) := by
  unfold dropClaim
  cases found : s.slots.get guard.cd with
  | none => exact settled
  | some slot =>
      simp only
      split
      · cases slot with
        | waiting generation waker claim =>
            simp only
            split
            · exact (settled.slots (balanced_del settled.balanced found)).frame rfl rfl
            · exact (settled.slots (balanced_rewrite (.waiting generation none none) settled.balanced found
                rfl)).frame rfl rfl
        | ready generation origin outcome buf claim =>
            exact (settled.slots (balanced_rewrite (.ready generation origin outcome buf none)
              settled.balanced found rfl)).frame rfl rfl
      · exact settled

theorem settled_parked {s : AsyncAtmiCtx} (target : Target) (own : Own) (waker : Waker)
    (settled : Settled s) : Settled (s.parkWaker target own waker) := by
  obtain ⟨cd, generation, existing, claim, -, found, parked⟩ | ⟨id, entry, -, found, parked⟩ |
    ⟨parked, -⟩ := parkWaker_cases target own waker s <;> rw [parked]
  · exact (settled.slots (balanced_rewrite (.waiting generation (some waker) claim)
      settled.balanced found rfl)).frame rfl rfl
  · exact settled.frame rfl rfl
  · exact settled

/-! ## The callers' buffers -/

theorem count_buffers (buffers : Table BufId ParkedBuf) (s : AsyncAtmiCtx) (p : Ptr) :
    ({ s with buffers } : AsyncAtmiCtx).held.count p + s.inCallers.count p =
      (buffers.gather fun _ buf => buf.owned).count p + s.held.count p := by
  simp [count_held, inSlots, inScratch, inOrphans, inDrain, inCallers]
  omega

/-- A caller's variable written: what it had comes into hand for the new buffer. -/
theorem balanced_data {hand : List Ptr} {s : AsyncAtmiCtx} {buf : ParkedBuf} (id : BufId)
    (balanced : Balanced (buf.owned ++ hand) s) :
    Balanced ((s.data id).owned ++ hand) { s with buffers := s.buffers.set id buf } := by
  refine balanced.moved ⟨rfl, rfl, rfl⟩ fun p => ?_
  have parts := count_buffers (s.buffers.set id buf) s p
  have after := Table.gather_set (fun _ buf => ParkedBuf.owned buf) s.buffers id buf p
  have before : s.inCallers.count p = (s.data id).owned.count p +
      ((s.buffers.del id).gather fun _ buf => buf.owned).count p := by
    cases found : s.buffers.get id with
    | none => simp [data, found, owned_empty, Table.del_of_get_none found, inCallers]
    | some old =>
        simpa [data, found, inCallers] using
          Table.gather_of_get (fun _ buf => ParkedBuf.owned buf) found p
  simp only [List.count_append]
  omega

/-- A variable dropped gives its buffer into hand. -/
theorem balanced_undata {s : AsyncAtmiCtx} {id : BufId} {buf : ParkedBuf} (balanced : Balanced [] s)
    (found : s.buffers.get id = some buf) :
    Balanced buf.owned { s with buffers := s.buffers.del id } := by
  refine balanced.moved ⟨rfl, rfl, rfl⟩ fun p => ?_
  have parts := count_buffers (s.buffers.del id) s p
  have split : s.inCallers.count p = _ :=
    Table.gather_of_get (fun _ buf => ParkedBuf.owned buf) found p
  simp only [List.count_nil]
  omega

theorem settled_stash {buf : ParkedBuf} {s : AsyncAtmiCtx} (balanced : Balanced buf.owned s)
    (lent : s.lent = none) (observed : s.Observed) : Settled (s.stash buf) := by
  obtain ⟨same, seen⟩ := stash_keeps buf s
  exact ⟨balanced_stash (by simpa using balanced), same.trans lent, by simpa [Observed, seen] using observed⟩

/-- The buffer in hand goes to the caller, whose previous one is stashed, or is stashed itself. -/
theorem settled_handOver {buf : ParkedBuf} {s : AsyncAtmiCtx} (outcome : AtmiResult Unit) (id : BufId)
    (flags : Flags) (balanced : Balanced buf.owned s) (lent : s.lent = none)
    (observed : s.Observed) : Settled (s.handOver outcome buf id flags).2 := by
  unfold handOver
  split
  · rename_i null
    exact ⟨by simpa [ParkedBuf.owned, null] using balanced, lent, observed⟩
  · split
    · exact settled_stash balanced lent observed
    · have swapped : Balanced ((s.data id).owned ++ []) _ := balanced_data id (by simpa using balanced)
      exact settled_stash (by simpa using swapped) lent observed

theorem settled_collected {s s' : AsyncAtmiCtx} {target : Target} {own : Own} {id : BufId}
    {flags : Flags} {choice cd : Cd} {result : AtmiResult Unit} (settled : Settled s)
    (taken : takeReady target own id flags choice s = (some (cd, result), s')) :
    Settled (s'.forgetDeadline cd) := by
  rcases takeReady_cases target own id flags choice s with
    ⟨missing, -⟩ | ⟨cd', generation, origin, outcome, buf, claim, found, -, took⟩
  · cases missing.symm.trans taken
  · cases took.symm.trans taken
    have inHand := balanced_del settled.balanced found
    have out := balanced_record (.collected own cd (.ready generation origin outcome buf claim)
      (s.refusal buf id flags).isSome) (by simpa using inHand)
    exact (settled_handOver outcome id flags out settled.lent settled.observed).frame rfl rfl

theorem settled_allocData {s : AsyncAtmiCtx} (id : BufId) (info : Option TpTypeInfo)
    (settled : Settled s) : Settled (s.allocData id info) := by
  unfold allocData
  cases found : s.buffers.get id with
  | some => exact settled
  | none =>
      have positive : s.nextPtr ≠ 0 := Nat.ne_of_gt settled.balanced.positive
      have inHand : Balanced (ParkedBuf.owned ⟨s.nextPtr, 0⟩ ++ [])
          { s with live := s.live.set s.nextPtr info, nextPtr := s.nextPtr + 1 } := by
        simpa [ParkedBuf.owned, positive] using balanced_alloc info settled.balanced
      have swapped := balanced_data id inHand
      exact ⟨by simpa [data, found, owned_empty] using swapped, settled.lent, settled.observed⟩

theorem settled_freeData {s : AsyncAtmiCtx} (id : BufId) (settled : Settled s) :
    Settled (s.freeData id) := by
  unfold freeData
  cases found : s.buffers.get id with
  | none => exact settled
  | some buf =>
      exact settled_freeBuf (balanced_undata settled.balanced found) settled.lent settled.observed

/-- **Every operation leaves each buffer one owner.** -/
theorem settled_stable : Stable Settled where
  quiet := settled_quiet
  settings := by
    intro s s' moved settled
    cases moved
    exact settled.frame rfl rfl
  undoing _ _ settled := settled.frame rfl rfl
  released _ cause cd _ settled := settled_release cause cd settled
  submitted _ _ deadline claimed _ free settled := settled_submitted deadline claimed free settled
  claimed _ _ _ _ claimed settled := settled_claimed claimed settled
  dropped _ guard _ settled := settled_dropClaim guard settled
  parked _ target own waker settled := settled_parked target own waker settled
  collected _ _ _ _ _ _ _ _ _ settled taken := settled_collected settled taken
  errorTaken s id settled := by
    refine settled.frame ?_ ?_ <;> · unfold takeAnyError; split <;> rfl
  anyRegistered _ settled := settled.frame rfl rfl
  anyDeregistered _ _ settled := settled.frame rfl rfl
  allocated _ id info settled := settled_allocData id info settled
  freed _ id settled := settled_freeData id settled

/-! ## Shutdown -/

theorem balanced_freeAll {hand : List Ptr} {bufs : List ParkedBuf} :
    ∀ {s : AsyncAtmiCtx}, Balanced (ownedBy bufs ++ hand) s →
      Balanced hand (bufs.foldl (fun s buf => s.freeBuf buf) s) := by
  induction bufs with
  | nil => exact fun balanced => balanced
  | cons buf bufs ih =>
      intro s balanced
      exact ih (balanced_free (by simpa [ownedBy] using balanced))

/-- Freeing parked buffers changes what is live and freed, and nothing else. -/
theorem freeAll_frees (bufs : List ParkedBuf) : ∀ s : AsyncAtmiCtx,
    ∃ live freed, bufs.foldl (fun s buf => s.freeBuf buf) s = { s with live, freed } ∧
      freed.Perm (ownedBy bufs ++ s.freed) := by
  induction bufs with
  | nil => exact fun s => ⟨s.live, s.freed, rfl, .refl _⟩
  | cons buf bufs ih =>
      intro s
      obtain ⟨live, freed, same, perm⟩ := ih (s.freeBuf buf)
      simp only [List.foldl_cons, same]
      unfold freeBuf at perm ⊢
      by_cases null : buf.ptr = 0
      · simp only [null, if_true] at perm ⊢
        exact ⟨live, freed, rfl, by simpa [ownedBy, ParkedBuf.owned, null] using perm⟩
      · simp only [null, if_false, tpfree] at perm ⊢
        refine ⟨live, freed, rfl, perm.trans ?_⟩
        simp [ownedBy, ParkedBuf.owned, null]

/-- The buffers of the slots, freed one after the other. -/
theorem ownedBy_vals (slots : Table Cd Slot) :
    ownedBy (slots.vals.map Slot.buf) = slots.gather fun _ slot => slot.buf.owned := by
  simp [ownedBy, Table.vals, Table.gather, List.flatMap_map]

/-- Each live buffer is in exactly one place, and each other one was freed, once. -/
structure Accounted (s : AsyncAtmiCtx) : Prop where
  owned : s.held.Perm s.live.keys
  once : s.held.Nodup
  freedOnce : s.freed.Nodup
  either : ∀ p, 0 < p ∧ p < s.nextPtr → (p ∈ s.held ∧ p ∉ s.freed) ∨ (p ∉ s.held ∧ p ∈ s.freed)

theorem Balanced.accounted {s : AsyncAtmiCtx} (balanced : Balanced [] s) : s.Accounted where
  owned := Ledger.balanced balanced
  once := Ledger.held_nodup balanced
  freedOnce := Ledger.freed_nodup balanced
  either p handed := by
    rcases Ledger.accounted balanced handed with here | gone
    · exact .inl ⟨here, (Ledger.held_live balanced here).2⟩
    · exact .inr ⟨fun here => (Ledger.held_live balanced here).2 gone, gone⟩

section Release

variable {s : AsyncAtmiCtx} (balanced : Balanced [] s)

include balanced

theorem balanced_noSlots :
    Balanced (ownedBy (s.slots.vals.map Slot.buf) ++ []) { s with slots := .empty } := by
  refine balanced.moved ⟨rfl, rfl, rfl⟩ fun p => ?_
  simp [count_held, inSlots, inScratch, inOrphans, inDrain, inCallers, ownedBy_vals, Table.gather]
  omega

theorem balanced_noScratch : Balanced (ownedBy s.scratch.toList ++ []) { s with scratch := none } := by
  refine balanced.moved ⟨rfl, rfl, rfl⟩ fun p => ?_
  simp [count_held, inSlots, inScratch, inOrphans, inDrain, inCallers, ownedBy]
  omega

theorem balanced_noOrphans : Balanced (ownedBy s.orphans ++ []) { s with orphans := [] } := by
  refine balanced.moved ⟨rfl, rfl, rfl⟩ fun p => ?_
  simp [count_held, inSlots, inScratch, inOrphans, inDrain, inCallers, ownedBy]
  omega

/-- `release` frees what the adapter holds, once, and leaves everybody else's buffers. -/
theorem release_frees : Balanced [] s.release ∧ s.release.adapterHeld = [] ∧
    s.release.inCallers = s.inCallers ∧ s.release.freed.Perm (s.adapterHeld ++ s.freed) := by
  unfold release
  have slots := balanced_freeAll (balanced_noSlots balanced)
  obtain ⟨live₁, freed₁, same₁, perm₁⟩ :=
    freeAll_frees (s.slots.vals.map Slot.buf) { s with slots := .empty }
  rw [same₁] at slots ⊢
  have scratch := balanced_freeAll (balanced_noScratch slots)
  obtain ⟨live₂, freed₂, same₂, perm₂⟩ := freeAll_frees s.scratch.toList
    { s with slots := .empty, live := live₁, freed := freed₁, scratch := none }
  simp only at scratch ⊢
  rw [same₂] at scratch ⊢
  have orphans := balanced_freeAll (balanced_noOrphans scratch)
  obtain ⟨live₃, freed₃, same₃, perm₃⟩ := freeAll_frees s.orphans
    { s with slots := .empty, live := live₂, freed := freed₂, scratch := none, orphans := [] }
  simp only at orphans ⊢
  rw [same₃] at orphans ⊢
  refine ⟨orphans, rfl, rfl, ?_⟩
  calc freed₃
    _ |>.Perm (s.inOrphans ++ freed₂) := perm₃
    _ |>.Perm (s.inOrphans ++ (s.inScratch ++ freed₁)) := perm₂.append_left _
    _ |>.Perm (s.inOrphans ++ (s.inScratch ++ (s.inSlots ++ s.freed))) :=
        (perm₁.trans (by rw [ownedBy_vals]; rfl) |>.append_left _).append_left _
    _ |>.Perm (s.adapterHeld ++ s.freed) := List.perm_iff_count.2 fun p => by
        simp only [adapterHeld, List.count_append]
        omega

end Release

theorem settled_init : Settled {} where
  balanced := Ledger.empty
  lent := rfl
  observed := nofun

end AsyncAtmiCtx

/-- **Reply buffers are conserved**: after any run each live buffer is in one slot, the scratch,
the orphans or a caller's variable, and was so whenever a drain had lent one to the native layer;
a release then frees what the adapter holds, and that once. -/
theorem buffers_conserved (labels : List Label) :
    let s := (machine.run labels).shared
    s.Accounted ∧ s.inDrain = [] ∧ (∀ seen ∈ s.observed, seen.1.Perm seen.2 ∧ seen.1.Nodup) ∧
      s.release.Accounted ∧ s.release.adapterHeld = [] ∧ s.release.inCallers = s.inCallers ∧
      s.release.freed.Perm (s.adapterHeld ++ s.freed) := by
  have settled := stable_reachable settled_stable settled_init labels
  obtain ⟨balanced, emptied, callers, freed⟩ := release_frees settled.balanced
  exact ⟨settled.balanced.accounted, by simp [inDrain, settled.lent, ownedBy], settled.observed,
    balanced.accounted, emptied, callers, freed⟩

end Endurox.Async
