/-
# Typed.Holding -- what a function has in hand

`Holding hands s` says which values a function works with and what their UBFs
hold, while every allocation keeps its one owner.  Each operation of
`typed_ubf.rs` and `ubf_complex.rs` has one specification in these terms: on
success the values given away are gone and the fields written are as written; on
an error what was given is freed and the rest is as it was.

`Terms` are what a specification may count on: that the native layer answers what
is asked about displaced pointers (`quiet`) and about an emptied shell (`calm`);
where it is `tight`, nothing may be lost.
-/
import Endurox.Typed.Books
import Endurox.Typed.Steady

namespace Endurox.Typed

open Endurox.Theory

set_option autoImplicit false

structure Terms where
  tight : Prop
  quiet : Prop
  calm : Prop

namespace State

/-- Every allocation has its owner, but what was lost; where `tight` holds nothing was. -/
def Owned (tight : Prop) (extra : List Addr) (s : State) : Prop :=
  ∃ lost, (tight → lost = []) ∧ s.Balanced (lost ++ extra)

section Owned

variable {tight : Prop} {extra extra' : List Addr} {s s' : State} {id : BufId} {place : Place}

theorem Owned.map (owned : s.Owned tight extra)
    (step : ∀ lost, s.Balanced (lost ++ extra) → s'.Balanced (lost ++ extra')) : s'.Owned tight extra' := by
  obtain ⟨lost, none, balanced⟩ := owned
  exact ⟨lost, none, step lost balanced⟩

theorem front_perm (p : Addr) (lost extra : List Addr) : (p :: (lost ++ extra)).Perm (lost ++ p :: extra) :=
  List.perm_middle.symm

theorem swap_perm (roots lost extra : List Addr) : (roots ++ (lost ++ extra)).Perm (lost ++ (roots ++ extra)) := by
  rw [← List.append_assoc, ← List.append_assoc]
  exact List.perm_append_comm.append_right extra

/-- What is not taken of what is displaced is lost. -/
theorem Owned.displace {targets roots : List Addr} (owned : s.Owned tight (targets ++ extra))
    (among : roots.Sublist targets) (all : tight → roots = targets) : s.Owned tight (roots ++ extra) := by
  obtain ⟨lost, none, balanced⟩ := owned
  obtain ⟨left, perm⟩ := among.exists_perm_append
  refine ⟨lost ++ left, fun holds => ?_, balanced.perm ?_⟩
  · have empty : left = [] := by
      have length := perm.length_eq
      rw [List.length_append, ← all holds] at length
      exact List.eq_nil_of_length_eq_zero (by omega)
    rw [none holds, empty]
    rfl
  · rw [List.append_assoc]
    refine List.Perm.append_left lost ?_
    rw [← List.append_assoc]
    exact (List.perm_append_comm.trans perm.symm).append_right extra

end Owned

/-- Distinct values own distinct buffers. -/
theorem Balanced.apart {extra : List Addr} {s : State} {a b : BufId} {placeA placeB : Place}
    (balanced : s.Balanced extra) (ownedA : s.bufs.get a = some placeA) (ownedB : s.bufs.get b = some placeB)
    (other : a ≠ b) : placeA.buffer.ptr ≠ placeB.buffer.ptr := by
  intro same
  have still : (s.forget a).bufs.get b = some placeB := by
    show (s.bufs.del a).get b = _
    rw [Table.get_del, if_neg (Ne.symm other)]
    exact ownedB
  have once := List.nodup_iff_count_le_one.1 balanced.books.nodup placeA.buffer.ptr
  have first := values_forget ownedA placeA.buffer.ptr
  have second := values_forget still placeA.buffer.ptr
  rw [List.count_append] at once
  rw [List.count_singleton_self] at first
  rw [← same, List.count_singleton_self] at second
  omega

theorem fieldsAt_bury (p ptr : Addr) (s : State) : (s.bury ptr).2.fieldsAt p = s.fieldsAt p := by
  unfold fieldsAt
  rw [get_bury]
  by_cases same : p = ptr
  · rw [if_pos same, same]
    cases s.heap.get ptr <;> rfl
  · rw [if_neg same]

@[simp] theorem fieldsAt_release (p : Addr) : ∀ (fuel : Nat) (work : List Addr) (s : State),
    (s.release fuel work).fieldsAt p = s.fieldsAt p
  | 0, _, _ => rfl
  | _ + 1, [], _ => rfl
  | fuel + 1, ptr :: rest, s => by
      rw [State.release, fieldsAt_release p fuel, fieldsAt_bury]

@[simp] theorem fieldsAt_tpfree (p ptr : Addr) (s : State) : (s.tpfree ptr).fieldsAt p = s.fieldsAt p := by
  unfold tpfree
  split
  · rfl
  · exact fieldsAt_release p _ _ s

@[simp] theorem fieldsAt_freeRoots (p : Addr) (roots : List Addr) (s : State) :
    (s.freeRoots roots).fieldsAt p = s.fieldsAt p := by
  unfold freeRoots
  induction roots.eraseDups generalizing s with
  | nil => rfl
  | cons root roots ih => exact (ih (s.tpfree root)).trans (fieldsAt_tpfree p root s)

theorem fieldsAt_rewrite (p ptr : Addr) (change : Allocation → Allocation) (s : State)
    (fields : p = ptr → ∀ a, (change a).fields = a.fields) : (s.rewrite ptr change).fieldsAt p = s.fieldsAt p := by
  unfold fieldsAt
  rw [get_rewrite]
  by_cases same : p = ptr
  · rw [if_pos same, same]
    cases s.heap.get ptr with
    | none => rfl
    | some a => exact fields same a
  · rw [if_neg same]

/-- The values in hand and what they hold; `extra` is what only a function's own variables name. -/
structure Holding (terms : Terms) (extra : List Addr) (hands : List (BufId × Fields)) (s : State) : Prop where
  owned : s.Owned terms.tight extra
  distinct : (hands.map Prod.fst).Nodup
  holds : ∀ hand ∈ hands, s.has hand.1 = true ∧ s.fieldsOf hand.1 = hand.2
  quiet : terms.quiet → ∀ failure ∈ s.answers.displaced, failure = none
  calm : terms.calm → ∀ failure ∈ s.answers.shell, failure = none

section Holding

variable {terms : Terms} {extra extra' : List Addr} {hands hands' : List (BufId × Fields)} {s s' : State}
  {id : BufId} {held : Fields} {place : Place}

theorem holding_answerable : Answerable (Holding terms extra hands) := by
  intro s later fewer holding
  exact
    { owned := holding.owned.map fun _ balanced => balanced.frame rfl rfl rfl rfl rfl
      distinct := holding.distinct
      holds := holding.holds
      quiet := fun quiet failure member => holding.quiet quiet failure (fewer.displaced member)
      calm := fun calm failure member => holding.calm calm failure (fewer.shell member) }

theorem Holding.sub (holding : s.Holding terms extra hands) (sublist : hands'.Sublist hands) :
    s.Holding terms extra hands' :=
  { holding with
    distinct := holding.distinct.sublist (sublist.map Prod.fst)
    holds := fun hand member => holding.holds hand (sublist.subset member) }

theorem Holding.perm (holding : s.Holding terms extra hands) (perm : hands'.Perm hands) :
    s.Holding terms extra hands' :=
  { holding with
    distinct := (perm.map Prod.fst).nodup_iff.2 holding.distinct
    holds := fun hand member => holding.holds hand (perm.subset member) }

theorem has_place (has : s.has id = true) : ∃ place, s.bufs.get id = some place := Option.isSome_iff_exists.1 has

theorem Holding.cons (holding : s.Holding terms extra hands) (new : ∀ hand ∈ hands, hand.1 ≠ id)
    (has : s.has id = true) (holds : s.fieldsOf id = held) : s.Holding terms extra ((id, held) :: hands) :=
  { holding with
    distinct := List.nodup_cons.2 ⟨fun member => by
      obtain ⟨hand, there, same⟩ := List.mem_map.1 member
      exact new hand there same, holding.distinct⟩
    holds := fun hand member => by
      rcases List.mem_cons.1 member with rfl | member
      · exact ⟨has, holds⟩
      · exact holding.holds hand member }

theorem Holding.apart (holding : s.Holding terms extra ((id, held) :: hands)) :
    ∀ hand ∈ hands, hand.1 ≠ id := fun hand member same =>
  (List.nodup_cons.1 holding.distinct).1 (List.mem_map.2 ⟨hand, member, same⟩)

theorem Holding.front (holding : s.Holding terms extra ((id, held) :: hands)) :
    s.has id = true ∧ s.fieldsOf id = held := holding.holds _ List.mem_cons_self

/-- No value is of the null pointer. -/
theorem Holding.named (holding : s.Holding terms extra ((id, held) :: hands)) : (s.buffer id).ptr ≠ 0 := by
  obtain ⟨place, owned⟩ := has_place holding.front.1
  obtain ⟨lost, _, balanced⟩ := holding.owned
  rw [buffer_of owned]
  refine Nat.ne_of_gt (balanced.books.named (List.mem_append_right _ ?_)).1
  exact List.one_le_count_iff.1 (by rw [values_forget owned, List.count_singleton_self]; omega)

/-- Another state with the same values, each with the fields it had. -/
theorem Holding.frame (holding : s.Holding terms extra hands) (owned : s'.Owned terms.tight extra')
    (bufs : ∀ hand ∈ hands, (s'.bufs.get hand.1).map (·.buffer.ptr) = (s.bufs.get hand.1).map (·.buffer.ptr))
    (fields : ∀ hand ∈ hands, s'.fieldsAt (s.buffer hand.1).ptr = s.fieldsAt (s.buffer hand.1).ptr)
    (answers : s'.answers = s.answers) : s'.Holding terms extra' hands where
  owned := owned
  distinct := holding.distinct
  holds hand member := by
    obtain ⟨has, holds⟩ := holding.holds hand member
    obtain ⟨place, there⟩ := has_place has
    have still := bufs hand member
    rw [there, Option.map_some] at still
    obtain ⟨place', there', same⟩ := Option.map_eq_some_iff.1 still
    refine ⟨by unfold State.has; rw [there']; rfl, ?_⟩
    have kept := fields hand member
    rw [buffer_of there] at kept
    unfold State.fieldsOf at holds ⊢
    rw [buffer_of there']
    rw [buffer_of there] at holds
    rw [same, kept, holds]
  quiet quiet failure member := holding.quiet quiet failure (answers ▸ member)
  calm calm failure member := holding.calm calm failure (answers ▸ member)

theorem Holding.bytes (holding : s.Holding terms extra hands) (ptr : Addr) {change : Allocation → Allocation}
    (fields : ∀ a, (change a).fields = a.fields) (live : ∀ a, (change a).live = a.live) :
    (s.rewrite ptr change).Holding terms extra hands := by
  have rest := rewrite_rest ptr change s
  refine holding.frame (holding.owned.map fun _ balanced => balanced.bytes ptr fields live)
    (fun hand _ => by rw [rest.2.1]) (fun hand _ => ?_) rest.2.2.2.1
  exact fieldsAt_rewrite _ _ _ _ fun _ => fields

theorem Holding.tpfree {p : Addr} (holding : s.Holding terms (p :: extra) hands) :
    (s.tpfree p).Holding terms extra hands := by
  have rest := tpfree_rest p s
  refine holding.frame (holding.owned.map fun lost balanced => (balanced.perm (front_perm p lost extra)).tpfree)
    (fun hand _ => by rw [rest.2.1]) (fun hand _ => fieldsAt_tpfree _ _ _) rest.2.2.2

theorem Holding.freeRoots {roots : List Addr} (holding : s.Holding terms (roots ++ extra) hands) :
    (s.freeRoots roots).Holding terms extra hands := by
  have rest := freeRoots_rest roots s
  refine holding.frame (holding.owned.map fun lost balanced => (balanced.perm (swap_perm roots lost extra)).freeRoots)
    (fun hand _ => by rw [rest.1]) (fun hand _ => fieldsAt_freeRoots _ _ _) rest.2.2

/-- What is displaced and not taken is lost. -/
theorem Holding.displace {targets roots : List Addr} (holding : s.Holding terms (targets ++ extra) hands)
    (among : roots.Sublist targets) (all : terms.tight → roots = targets) : s.Holding terms (roots ++ extra) hands :=
  { holding with owned := holding.owned.displace among all }

/-- The value in front is given away. -/
theorem Holding.forget (holding : s.Holding terms extra ((id, held) :: hands)) :
    (s.forget id).Holding terms ((s.buffer id).ptr :: extra) hands := by
  obtain ⟨has, _⟩ := holding.front
  obtain ⟨place, owned⟩ := has_place has
  refine (holding.sub (List.sublist_cons_self _ _)).frame ?_ (fun hand member => ?_) (fun _ _ => rfl) rfl
  · rw [buffer_of owned]
    exact holding.owned.map fun lost balanced => (balanced.forget owned).perm (front_perm _ _ _).symm
  · have other := holding.apart hand member
    show ((s.bufs.del id).get hand.1).map _ = _
    rw [Table.get_del, if_neg other]

/-- The value in front is dropped. -/
theorem Holding.drop (holding : s.Holding terms extra ((id, held) :: hands)) :
    (s.drop id).Holding terms extra hands := holding.forget.tpfree

theorem Holding.dropSecond {child : BufId} {inside : Fields}
    (holding : s.Holding terms extra ((id, held) :: (child, inside) :: hands)) :
    (s.drop child).Holding terms extra ((id, held) :: hands) :=
  (holding.perm (.swap _ _ _)).drop

theorem drop_gone (id : BufId) (s : State) : (s.drop id).bufs.get id = none := by
  unfold State.drop
  rw [(tpfree_rest _ _).2.1]
  show (s.bufs.del id).get id = none
  rw [Table.get_del, if_pos rfl]

/-- A value that is gone is dropped for nothing. -/
theorem drop_of_gone (gone : s.bufs.get id = none) : s.drop id = s := by
  unfold State.drop
  rw [buffer_none gone]
  show State.forget id s = s
  unfold State.forget
  rw [Table.del_of_get_none gone]

/-- What is in hand becomes a value. -/
theorem Holding.own {p : Addr} (holding : s.Holding terms (p :: extra) hands) (len : Nat) (wrapper : Wrapper) :
    (s.own ⟨⟨p, len⟩, wrapper⟩).2.Holding terms extra ((s.nextBuf, s.fieldsAt p) :: hands) := by
  obtain ⟨lost, none, balanced⟩ := holding.owned
  have older (hand : BufId × Fields) (member : hand ∈ hands) : hand.1 ≠ s.nextBuf := by
    obtain ⟨has, _⟩ := holding.holds hand member
    obtain ⟨place, there⟩ := has_place has
    intro same
    rw [same, balanced.fresh _ (Nat.le_refl _)] at there
    cases there
  have later : (s.own ⟨⟨p, len⟩, wrapper⟩).2.Holding terms extra hands := by
    refine holding.frame ⟨lost, none, (balanced.perm (front_perm p lost extra)).own len wrapper⟩ (fun hand member => ?_)
      (fun _ _ => rfl) rfl
    show ((s.bufs.set s.nextBuf _).get hand.1).map _ = _
    rw [Table.get_set, if_neg (older hand member)]
  have there : (s.own ⟨⟨p, len⟩, wrapper⟩).2.bufs.get s.nextBuf = some ⟨⟨p, len⟩, wrapper⟩ := by
    show (s.bufs.set s.nextBuf _).get s.nextBuf = _
    rw [Table.get_set, if_pos rfl]
  refine later.cons older (by unfold State.has; rw [there]; rfl) ?_
  unfold State.fieldsOf
  rw [buffer_of there]
  rfl

theorem Holding.setWrapper (holding : s.Holding terms extra hands) (id : BufId) (wrapper : Wrapper) :
    (s.setWrapper id wrapper).Holding terms extra hands := by
  have heap : (s.setWrapper id wrapper).heap = s.heap ∧ (s.setWrapper id wrapper).answers = s.answers := by
    unfold State.setWrapper
    split <;> exact ⟨rfl, rfl⟩
  refine holding.frame (holding.owned.map fun _ balanced => balanced.setWrapper id wrapper) (fun hand _ => ?_)
    (fun _ _ => by unfold State.fieldsAt; rw [heap.1]) heap.2
  unfold State.setWrapper
  cases there : s.bufs.get id with
  | none => rfl
  | some place =>
      simp only [Table.get_set]
      by_cases same : hand.1 = id
      · rw [if_pos same, same, there]
        rfl
      · rw [if_neg same]

/-- A new allocation without fields is in hand. -/
theorem Holding.allocate (holding : s.Holding terms extra hands) {a : Allocation} (live : a.live = true)
    (empty : a.fields = []) :
    (s.allocate a).2.Holding terms (s.next :: extra) hands ∧ (s.allocate a).2.fieldsAt s.next = [] := by
  refine ⟨holding.frame (holding.owned.map fun lost balanced => ?_) (fun _ _ => rfl) (fun hand member => ?_) rfl, ?_⟩
  · exact (Balanced.allocate (by rw [empty]; exact balanced) live).perm (front_perm _ _ _).symm
  · obtain ⟨place, there⟩ := has_place (holding.holds hand member).1
    obtain ⟨lost, _, balanced⟩ := holding.owned
    have older : place.buffer.ptr ≠ s.next := Nat.ne_of_lt (balanced.books.named (List.mem_append_right _
      (List.one_le_count_iff.1 (by rw [values_forget there, List.count_singleton_self]; omega)))).2
    rw [buffer_of there]
    simp only [State.fieldsAt, State.allocate, Table.get_set, if_neg older]
  · simp only [State.fieldsAt, State.allocate, Table.get_set, if_pos, empty]

/-- The fields of the value in front are rewritten. -/
theorem Holding.fields (holding : s.Holding terms extra ((id, held) :: hands)) {change : Fields → Fields}
    (same : ∀ q, extra'.count q + (targetsIn (change held)).count q =
      extra.count q + (targetsIn held).count q) :
    (s.changeFields id change).Holding terms extra' ((id, change held) :: hands) := by
  obtain ⟨has, holds⟩ := holding.front
  obtain ⟨place, owned⟩ := has_place has
  have rest := rewrite_rest (s.buffer id).ptr (fun a => { a with fields := change a.fields }) s
  obtain ⟨lost, none, balanced⟩ := holding.owned
  have balanced' : (s.changeFields id change).Balanced (lost ++ extra') := by
    refine balanced.fields owned fun q => ?_
    have counted := same q
    rw [holds]
    simp only [List.count_append]
    omega
  have others : (s.changeFields id change).Holding terms extra' hands := by
    refine (holding.sub (List.sublist_cons_self _ _)).frame ⟨lost, none, balanced'⟩
      (fun hand _ => by unfold State.changeFields; rw [rest.2.1]) (fun hand member => ?_) rest.2.2.2.1
    obtain ⟨has', _⟩ := holding.holds hand (List.mem_cons_of_mem _ member)
    obtain ⟨place', owned'⟩ := has_place has'
    have other := holding.apart hand member
    refine fieldsAt_rewrite _ _ _ _ fun same => absurd same ?_
    rw [buffer_of owned, buffer_of owned']
    exact balanced.apart owned' owned other
  have bufs : (s.changeFields id change).bufs = s.bufs := rest.2.1
  refine others.cons holding.apart (by unfold State.has; rw [bufs]; exact has) ?_
  have known : (s.changeFields id change).buffer id = s.buffer id := by
    unfold State.buffer
    rw [bufs]
  have named : place.buffer.ptr ∈ lost ++ extra ++ s.values := by
    refine List.mem_append_right _ (List.one_le_count_iff.1 ?_)
    rw [values_forget owned, List.count_singleton_self]
    omega
  obtain ⟨a, found, _⟩ := balanced.books.live named
  unfold State.fieldsOf State.fieldsAt at holds ⊢
  rw [known, State.changeFields, get_rewrite, if_pos rfl]
  rw [buffer_of owned, found] at holds ⊢
  exact congrArg change holds

/-- Only what is read of the allocations matters. -/
theorem Holding.same (holding : s.Holding terms extra hands) (heap : ∀ p, s'.heap.get p = s.heap.get p)
    (freed : s'.freed = s.freed) (next : s'.next = s.next) (bufs : s'.bufs = s.bufs)
    (nextBuf : s'.nextBuf = s.nextBuf) (answers : s'.answers = s.answers) : s'.Holding terms extra hands := by
  refine holding.frame (holding.owned.map fun lost balanced => ⟨?_, fun id later => ?_⟩) (fun _ _ => by rw [bufs])
    (fun _ _ => by unfold fieldsAt; rw [heap]) answers
  · unfold values
    rw [bufs]
    exact balanced.books.same heap freed next
  · rw [bufs]
    exact balanced.fresh id (nextBuf ▸ later)

@[simp] theorem changeFields_rest (id : BufId) (change : Fields → Fields) (s : State) :
    (s.changeFields id change).next = s.next ∧ (s.changeFields id change).bufs = s.bufs ∧
      (s.changeFields id change).nextBuf = s.nextBuf ∧ (s.changeFields id change).answers = s.answers ∧
      (s.changeFields id change).freed = s.freed := rewrite_rest _ _ s

@[simp] theorem buffer_changeFields (other id : BufId) (change : Fields → Fields) (s : State) :
    (s.changeFields other change).buffer id = s.buffer id := by
  unfold State.buffer
  rw [(changeFields_rest other change s).2.1]

theorem changeFields_answers (id : BufId) (change : Fields → Fields) (s : State) (answers : Answers) :
    State.changeFields id change { s with answers } = { s.changeFields id change with answers } := by
  have same : ({ s with answers } : State).buffer id = s.buffer id := rfl
  unfold State.changeFields State.rewrite
  rw [same]
  cases found : s.heap.get (s.buffer id).ptr <;> rfl

theorem get_changeFields (id : BufId) (change : Fields → Fields) (s : State) (p : Addr) :
    (s.changeFields id change).heap.get p =
      if p = (s.buffer id).ptr then
        (s.heap.get (s.buffer id).ptr).map fun a => { a with fields := change a.fields }
      else s.heap.get p := get_rewrite _ _ _ s

theorem get_changeFields_comm {a b : BufId} (other : (s.buffer a).ptr ≠ (s.buffer b).ptr) (c d : Fields → Fields)
    (p : Addr) :
    ((s.changeFields a c).changeFields b d).heap.get p = ((s.changeFields b d).changeFields a c).heap.get p := by
  simp only [get_changeFields, buffer_changeFields, if_neg other, if_neg (Ne.symm other)]
  by_cases first : p = (s.buffer a).ptr
  · rw [if_neg (first ▸ other), if_pos first, if_pos first]
  · simp only [if_neg first]

/-- **Transfer**: what one value's UBF held goes into another's, and it is emptied. -/
theorem Holding.transfer {child : BufId} {inside : Fields}
    (holding : s.Holding terms extra ((id, held) :: (child, inside) :: hands)) {change : Fields → Fields}
    (same : ∀ q, extra'.count q + (targetsIn (change held)).count q =
      extra.count q + (targetsIn held).count q + (targetsIn inside).count q) :
    ((s.changeFields id change).changeFields child fun _ => []).Holding terms extra'
      ((id, change held) :: (child, []) :: hands) := by
  have swapped : s.Holding terms extra ((child, inside) :: (id, held) :: hands) := holding.perm (.swap _ _ _)
  have emptied : (s.changeFields child fun _ => []).Holding terms (targetsIn inside ++ extra)
      ((child, []) :: (id, held) :: hands) := by
    let empty : Fields → Fields := fun _ => []
    show (s.changeFields child empty).Holding terms (targetsIn inside ++ extra) ((child, empty inside) :: (id, held) :: hands)
    refine swapped.fields fun q => ?_
    show (targetsIn inside ++ extra).count q + (targetsIn []).count q = _
    rw [List.count_append, targetsIn_nil, List.count_nil]
    omega
  have filled : ((s.changeFields child fun _ => []).changeFields id change).Holding terms extra'
      ((id, change held) :: (child, []) :: hands) := by
    refine (emptied.perm (.swap _ _ _)).fields fun q => ?_
    have counted := same q
    rw [List.count_append]
    omega
  obtain ⟨place, owned⟩ := has_place holding.front.1
  obtain ⟨place', owned'⟩ := has_place swapped.front.1
  obtain ⟨lost, _, balanced⟩ := holding.owned
  have other : (s.buffer id).ptr ≠ (s.buffer child).ptr := by
    rw [buffer_of owned, buffer_of owned']
    exact balanced.apart owned owned' (Ne.symm (holding.apart _ List.mem_cons_self))
  exact filled.same (get_changeFields_comm other _ _) (by simp) (by simp) (by simp) (by simp) (by simp)

/-! ### A value stored -/

theorem forget_release (id : BufId) : ∀ (fuel : Nat) (work : List Addr) (s : State),
    (s.forget id).release fuel work = (s.release fuel work).forget id
  | 0, _, _ => rfl
  | _ + 1, [], _ => rfl
  | fuel + 1, ptr :: rest, s => by
      have buried : (s.forget id).bury ptr = ((s.bury ptr).1, (s.bury ptr).2.forget id) := by
        have heap : (s.forget id).heap = s.heap := rfl
        unfold State.bury
        rw [heap]
        cases s.heap.get ptr <;> rfl
      rw [State.release, State.release, buried]
      exact forget_release id fuel _ _

theorem forget_tpfree (id : BufId) (p : Addr) (s : State) : (s.forget id).tpfree p = (s.tpfree p).forget id := by
  unfold State.tpfree
  split
  · rfl
  · exact forget_release id _ _ s

theorem forget_rewrite (id : BufId) (p : Addr) (change : Allocation → Allocation) (s : State) :
    (s.forget id).rewrite p change = (s.rewrite p change).forget id := by
  have heap : (s.forget id).heap = s.heap := rfl
  unfold State.rewrite
  rw [heap]
  cases s.heap.get p <;> rfl

theorem forget_changeFields {other : BufId} (apart : other ≠ id) (change : Fields → Fields) (s : State) :
    (s.forget id).changeFields other change = (s.changeFields other change).forget id := by
  have known : (s.forget id).buffer other = s.buffer other := by
    have bufs : (s.forget id).bufs.get other = s.bufs.get other := by
      show (s.bufs.del id).get other = _
      rw [Table.get_del, if_neg apart]
    unfold State.buffer
    rw [bufs]
  unfold State.changeFields
  rw [known]
  exact forget_rewrite id _ _ s

/-- **Store**: the address of a value goes into another's UBF, and the value is gone. -/
theorem Holding.store {child : BufId} {inside : Fields}
    (holding : s.Holding terms extra ((id, held) :: (child, inside) :: hands)) {change : Fields → Fields}
    (same : ∀ q, extra'.count q + (targetsIn (change held)).count q =
      extra.count q + (targetsIn held).count q + [(s.buffer child).ptr].count q) :
    ((s.changeFields id change).forget child).Holding terms extra' ((id, change held) :: hands) := by
  have swapped : s.Holding terms extra ((child, inside) :: (id, held) :: hands) := holding.perm (.swap _ _ _)
  rw [← forget_changeFields (swapped.apart _ List.mem_cons_self)]
  refine swapped.forget.fields fun q => ?_
  have counted := same q
  rw [List.count_cons, ← List.count_singleton]
  omega

/-! ### A value reallocated -/

theorem rewrite_setBuffer (p : Addr) (change : Allocation → Allocation) (id : BufId) (buffer : TypedBuffer)
    (s : State) : (s.rewrite p change).setBuffer id buffer = (s.setBuffer id buffer).rewrite p change := by
  obtain ⟨heap, -⟩ := setBuffer_rest id buffer s
  unfold State.rewrite
  rw [heap]
  cases s.heap.get p with
  | none => rfl
  | some a =>
      unfold State.setBuffer
      cases s.bufs.get id <;> rfl

theorem get_setBuffer (id other : BufId) (buffer : TypedBuffer) (s : State) :
    (s.setBuffer id buffer).bufs.get other =
      if other = id then (s.bufs.get id).map fun place => { place with buffer } else s.bufs.get other := by
  unfold State.setBuffer
  cases found : s.bufs.get id with
  | none =>
      by_cases same : other = id
      · simp [same, found]
      · simp [same]
  | some place => simp

/-- The value in front is of another buffer with the fields of its own. -/
theorem Holding.setBuffer (holding : s.Holding terms extra ((id, held) :: hands)) {buffer : TypedBuffer}
    (bufs : s'.bufs = s.bufs) (answers : s'.answers = s.answers) (mine : s'.fieldsAt buffer.ptr = held)
    (others : ∀ hand ∈ hands, s'.fieldsAt (s.buffer hand.1).ptr = s.fieldsAt (s.buffer hand.1).ptr)
    (owned : (s'.setBuffer id buffer).Owned terms.tight extra) :
    (s'.setBuffer id buffer).Holding terms extra ((id, held) :: hands) := by
  have rest := setBuffer_rest id buffer s'
  have fieldsAt (p : Addr) : (s'.setBuffer id buffer).fieldsAt p = s'.fieldsAt p := by
    unfold State.fieldsAt
    rw [rest.1]
  obtain ⟨place, there⟩ := has_place holding.front.1
  have here : (s'.setBuffer id buffer).bufs.get id = some { place with buffer } := by
    rw [get_setBuffer, if_pos rfl, bufs, there]
    rfl
  have later : (s'.setBuffer id buffer).Holding terms extra hands := by
    refine (holding.sub (List.sublist_cons_self _ _)).frame owned (fun hand member => ?_) (fun hand member => ?_)
      (rest.2.2.2.2.trans answers)
    · rw [get_setBuffer, if_neg (holding.apart hand member), bufs]
    · rw [fieldsAt, others hand member]
  refine later.cons holding.apart (by unfold State.has; rw [here]; rfl) ?_
  unfold State.fieldsOf
  rw [buffer_of here, fieldsAt]
  exact mine

theorem Holding.measured (holding : s.Holding terms extra ((id, held) :: hands)) (len : Nat) :
    (s.setBuffer id { s.buffer id with len }).Holding terms extra ((id, held) :: hands) :=
  holding.setBuffer rfl rfl holding.front.2 (fun _ _ => rfl)
    (holding.owned.map fun _ balanced => balanced.measured id len)

/-- **Reallocate**: the value is of the buffer that takes the place of its own. -/
theorem Holding.reallocate (holding : s.Holding terms extra ((id, held) :: hands)) {size : Nat} {moves : Bool}
    {ptr : Addr} (made : (s.reallocate (s.buffer id).ptr size moves).1 = some ptr) (len : Nat) :
    ((s.reallocate (s.buffer id).ptr size moves).2.setBuffer id ⟨ptr, len⟩).Holding terms extra
      ((id, held) :: hands) := by
  obtain ⟨has, holds⟩ := holding.front
  obtain ⟨place, owned⟩ := has_place has
  obtain ⟨lost, none, balanced⟩ := holding.owned
  have values : (place.buffer.ptr :: (lost ++ extra ++ (s.forget id).values)).Perm (lost ++ extra ++ s.values) :=
    List.perm_iff_count.2 fun q => by
      have counted := values_forget owned q
      simp only [List.count_append, List.count_cons, List.count_nil] at counted ⊢
      omega
  have books := balanced.books.perm values
  obtain ⟨a, found, live⟩ := books.live List.mem_cons_self
  unfold State.fieldsOf State.fieldsAt at holds
  rw [buffer_of owned, found] at holds
  have known : s.buffer id = place.buffer := buffer_of owned
  unfold State.reallocate at made ⊢
  rw [known] at made ⊢
  rw [found] at made ⊢
  simp only [live, if_true] at made ⊢
  cases moves with
  | false =>
      cases made
      have rewritten : ({ s with heap := s.heap.set place.buffer.ptr (a.resize size) } : State) =
          s.rewrite place.buffer.ptr (Allocation.resize size) := by
        unfold State.rewrite
        rw [found]
      simp only [Bool.false_eq_true, if_false]
      rw [rewritten]
      have resized : (s.rewrite place.buffer.ptr (Allocation.resize size)).Holding terms extra ((id, held) :: hands) :=
        holding.bytes place.buffer.ptr (fun _ => rfl) fun _ => rfl
      have same : (s.rewrite place.buffer.ptr (Allocation.resize size)).buffer id = place.buffer := by
        unfold State.buffer
        rw [(rewrite_rest _ _ s).2.1, owned]
      have measured := resized.measured len
      rw [same] at measured
      exact measured
  | true =>
      simp only [if_true] at made ⊢
      cases made
      have next : (s.bury place.buffer.ptr).2.next = s.next := (bury_rest _ s).1
      have bufs : (s.bury place.buffer.ptr).2.bufs = s.bufs := (bury_rest _ s).2.1
      have targets : s.targetsAt place.buffer.ptr = targetsIn a.fields := by
        unfold State.targetsAt
        rw [found]
        simp only [live, if_true]
      have buried := books.bury
      rw [targets] at buried
      have moved := Books.allocate (a := a.resize size) live buried
      refine holding.setBuffer bufs (bury_rest _ s).2.2.2 ?_ (fun hand member => ?_) ⟨lost, none, ?_⟩
      · unfold State.fieldsAt
        simp only [State.allocate, Table.get_set, if_pos]
        exact holds
      · obtain ⟨other, there⟩ := has_place (holding.holds hand (List.mem_cons_of_mem _ member)).1
        have older : other.buffer.ptr ≠ (s.bury place.buffer.ptr).2.next := by
          rw [next]
          have named := (balanced.books.named (p := other.buffer.ptr) (List.mem_append_right _
            (List.one_le_count_iff.1 (by rw [values_forget there, List.count_singleton_self]; omega)))).2
          exact Nat.ne_of_lt named
        have apart := balanced.apart there owned (holding.apart hand member)
        unfold State.fieldsAt
        rw [buffer_of there]
        simp only [State.allocate, Table.get_set, if_neg older]
        rw [get_bury, if_neg apart]
      · refine Balanced.setBuffer (show _ = some place by rw [← owned, ← bufs]; rfl) ?_ fun other later => ?_
        · refine moved.move fun q => ?_
          have same : (((s.bury place.buffer.ptr).2.allocate (a.resize size)).2.forget id).values =
              (s.forget id).values := by
            show Table.gather _ ((s.bury place.buffer.ptr).2.bufs.del id) = Table.gather _ (s.bufs.del id)
            rw [bufs]
          rw [same]
          show List.count q (lost ++ extra ++ (s.bury place.buffer.ptr).2.next :: (s.forget id).values) = _
          simp only [List.count_append, List.count_cons]
          omega
        · show (s.bury place.buffer.ptr).2.bufs.get other = _
          have nextBuf : (s.bury place.buffer.ptr).2.nextBuf = s.nextBuf := (bury_rest _ s).2.2.1
          rw [bufs]
          exact balanced.fresh other (nextBuf ▸ later)

end Holding

end State

end Endurox.Typed
