/-
# Typed.Cloning -- `clone_ubf`, step by step

`Partial` is a clone in the making: a value of its own whose UBF holds the copies of
the fields passed so far.  Each native call either leaves it so or ends the clone,
which touches nothing there was, leaves nothing of what it allocated and, where the
native layer answers everything, does not happen.  From these, by induction on the
fields and on the depth, the specification of `clone_ubf`.
-/
import Endurox.Typed.Clones

namespace Endurox.Typed

open Endurox.Theory State

set_option autoImplicit false

/-! ## Asking -/

/-- It looks at answers to come only through facts about all of them, and a failing one ends it as it must. -/
structure Attends (o : State) (P E : State → Prop) : Prop where
  closed : ∀ {s : State} {later : Answers}, later.Left s.answers → P s → P { s with answers := later }
  left : ∀ s, P s → s.answers.Left o.answers
  fails : ∀ s, P s → ¬ o.Quiet → E s

/-- What stays behind of a deep clone that fails: at most one UBF, where a shell could not be emptied. -/
structure Leak (o : State) (leaked : List Addr) (s : State) : Prop where
  few : leaked.length ≤ 1
  firm : o.Firm → leaked = []
  shells : ∀ a ∈ leaked, s.typeAt a = some "UBF"

theorem Leak.nothing (o s : State) : Leak o [] s :=
  ⟨Nat.zero_le 1, fun _ => rfl, fun _ none => absurd none List.not_mem_nil⟩

theorem Leak.felled {o s u : State} {leaked : List Addr} (leak : Leak o leaked s) (felled : s.Felled u) :
    Leak o leaked u := { leak with shells := fun a member => (felled.types a).trans (leak.shells a member) }

/-- What was allocated has been freed, but for one shell where emptying it failed. -/
def GivenBack (o t s : State) : Prop := ∃ leaked, Leak o leaked s ∧ Accounted leaked t s

/-- It ends without touching what was there, has given back what it allocated, and does not end for want of an answer
where `C` holds. -/
structure Failing (o t : State) (C : Prop) (s : State) : Prop where
  since : t.Since s
  refused : o.Quiet → ¬ C
  givenBack : GivenBack o t s

theorem Failing.mono {o t s : State} {C C' : Prop} (failing : Failing o t C s) (weaker : C' → C) : Failing o t C' s :=
  { failing with refused := fun quiet holds => failing.refused quiet (weaker holds) }

/-- It failed, and nothing was left before it. -/
theorem Failing.earlier {o t s u : State} {C : Prop} (failing : Failing o s C u) (since : t.Since s)
    (accounted : Accounted [] t s) : Failing o t C u := by
  obtain ⟨leaked, leak, after⟩ := failing.givenBack
  exact ⟨since.trans failing.since, failing.refused, leaked, leak, accounted.later failing.since after⟩

section Asking

variable {o : State} {P E : State → Prop} (attends : Attends o P E)

include attends

theorem Attends.next_ends {α : Type} {queue : Queue α} (spends : queue.Spends) {G : α → Prop}
    (otherwise : G queue.otherwise) (all : ∀ s, P s → ∀ a ∈ queue.read s.answers, G a) :
    Ends P (next queue) fun a s => P s ∧ G a :=
  Ends.ofModifyGet fun s holds => by
    cases here : queue.read s.answers with
    | nil => exact ⟨holds, otherwise⟩
    | cons answer later =>
        exact ⟨attends.closed (spends s.answers answer later here) holds,
          all s holds answer (by rw [here]; exact List.mem_cons_self)⟩

theorem Attends.called : Yields P call (fun _ => P) E := by
  unfold Typed.call
  refine Yields.bind (Yields.lift (attends.next_ends Queue.calls_spends (G := fun failure => o.Quiet → failure = none)
    (fun _ => rfl) fun s holds failure member quiet => quiet.calls failure ((attends.left s holds).calls member)))
    fun failure => Ends.ofFact fun answered => ?_
  cases failure with
  | none => exact Yields.pure fun _ holds => holds
  | some e =>
      refine Yields.throw fun s holds => attends.fails s holds fun quiet => ?_
      cases answered quiet

theorem Attends.call_keeps : Keeps P Typed.call.run := by
  unfold Typed.call
  refine Keeps.tryBind (Keeps.lift ((attends.next_ends Queue.calls_spends (G := fun _ => True) trivial
    fun _ _ _ _ => trivial).mono (fun _ holds => holds) fun _ _ holds => holds.1)) fun failure => ?_
  cases failure with
  | none => exact Keeps.tryPure
  | some e => exact Keeps.throw

theorem Attends.requireFieldType {f : BFLDID} {want : UbfFieldType} {what : String} (type : f.type = want) :
    Yields P (requireFieldType f want what) (fun _ => P) E :=
  Yields.bind attends.called fun _ => Yields.throwIf (fun _ other => absurd type other) fun _ _ holds => holds

omit attends in
theorem tptypesOf_answered {failure : Option AtmiError} (answered : o.Quiet → failure = none) (ptr : Addr) :
    Ends P (tptypesOf failure ptr).run fun result s => P s ∧ match result with
      | .ok info => s.typesOf ptr = some info
      | .error _ => o.Quiet → s.typesOf ptr = none := by
  unfold Typed.tptypesOf
  refine Ends.tryRead fun now => ?_
  rintro s ⟨holds, rfl⟩
  cases failure with
  | some e =>
      refine ⟨holds, fun quiet => ?_⟩
      cases answered quiet
  | none =>
      cases known : s.typesOf ptr with
      | some info => exact ⟨holds, known⟩
      | none => exact ⟨holds, fun _ => known⟩

theorem Attends.tptypes (ptr : Addr) :
    Yields P (allocating (tptypes ptr)) (fun info s => P s ∧ s.typesOf ptr = some info)
      (fun s => P s ∧ (o.Quiet → s.typesOf ptr = none)) := by
  have asked : Ends P (Typed.tptypes ptr).run fun result s => P s ∧ match result with
      | .ok info => s.typesOf ptr = some info
      | .error _ => o.Quiet → s.typesOf ptr = none := by
    refine Ends.tryBind (F := fun answer s => P s ∧ ∃ failure, answer = .ok failure ∧ (o.Quiet → failure = none))
      (Ends.lift ((attends.next_ends Queue.types_spends (G := fun failure => o.Quiet → failure = none) (fun _ => rfl)
        fun s holds failure member quiet => quiet.types failure ((attends.left s holds).types member)).mono
          (fun _ holds => holds) fun failure _ holds => ⟨holds.1, failure, rfl, holds.2⟩))
      (fun _ _ holds => ?_) fun failure => ?_
    · obtain ⟨-, _, impossible, -⟩ := holds
      cases impossible
    · rintro s ⟨holds, _, same, answered⟩
      cases same
      exact tptypesOf_answered answered ptr s holds
  unfold allocating
  refine Yields.bind (Q := fun result s => P s ∧ match result with
      | .ok info => s.typesOf ptr = some info
      | .error _ => o.Quiet → s.typesOf ptr = none) (Yields.lift asked) fun result => ?_
  cases result with
  | ok info => exact Yields.pure fun _ holds => holds
  | error e => exact Yields.throw fun _ holds => holds

/-- The root of a pointer; it is missed only when a question fails. -/
theorem Attends.ptrRoots (target : Addr) :
    Yields P (ptrRoots .scanned target)
      (fun roots s => P s ∧ (roots = [] ∧ (o.Truthful → target = 0) ∨ roots = [target] ∧ target ≠ 0)) E := by
  unfold Typed.ptrRoots
  refine Yields.bind (Yields.lift (attends.next_ends Queue.present_spends (G := fun failure => o.Truthful → failure = none)
    (fun _ => rfl) fun s holds failure member truthful => truthful failure ((attends.left s holds).present member)))
    fun failure => Ends.ofFact fun answered => ?_
  cases failure with
  | some e =>
      refine Yields.pure fun s holds => ⟨holds, .inl ⟨rfl, fun truthful => ?_⟩⟩
      cases answered truthful
  | none =>
      refine Yields.bind attends.called fun _ => Yields.pure fun s holds => ⟨holds, ?_⟩
      by_cases null : target = 0
      · exact .inl ⟨by simp [null], fun _ => null⟩
      · exact .inr ⟨by simp [null], null⟩

end Asking

/-! ## A clone in the making -/

/-- The value `copy` is a UBF at `ptr` that holds the copies of `source`, each in an allocation of its own. -/
structure Partial (o t : State) (copy : BufId) (ptr : Addr) (source held : Fields) (used : List Addr) (s : State) :
    Prop where
  since : t.Since s
  fresh : t.nextBuf ≤ copy
  owned : ∃ len, s.bufs.get copy = some ⟨⟨ptr, len⟩, .ubf⟩
  holds : ∃ a, s.heap.get ptr = some a ∧ a.live = true ∧ a.typeName = "UBF" ∧ a.fields = held
  once : (ptr :: used).Nodup
  new : ∀ a ∈ ptr :: used, t.next ≤ a ∧ a < s.next
  copied : Copied o s source held used

namespace Partial

variable {o t s u : State} {copy : BufId} {ptr : Addr} {source held : Fields} {used : List Addr}

theorem buffer (partial_ : Partial o t copy ptr source held used s) : (s.buffer copy).ptr = ptr := by
  obtain ⟨len, owned⟩ := partial_.owned
  rw [buffer_of owned]

theorem fieldsOf (partial_ : Partial o t copy ptr source held used s) : s.fieldsOf copy = held := by
  obtain ⟨a, found, -, -, rfl⟩ := partial_.holds
  unfold State.fieldsOf State.fieldsAt
  rw [partial_.buffer, found]

/-- What touches something else leaves it. -/
theorem touched {ids : List BufId} {ptrs : List Addr} (partial_ : Partial o t copy ptr source held used s)
    (since : t.Since u) (touching : s.Touching ids ptrs u) (other : copy ∉ ids)
    (apart : ∀ a ∈ ptr :: used, a ∉ ptrs) : Partial o t copy ptr source held used u := by
  have same : ∀ a ∈ ptr :: used, u.heap.get a = s.heap.get a := fun a member =>
    touching.heap a (partial_.new a member).2 (apart a member)
  exact
    { since
      fresh := partial_.fresh
      owned := by
        obtain ⟨len, owned⟩ := partial_.owned
        exact ⟨len, (touching.bufs copy (partial_.since.handed owned) other).trans owned⟩
      holds := by
        obtain ⟨a, found, rest⟩ := partial_.holds
        exact ⟨a, (same ptr List.mem_cons_self).trans found, rest⟩
      once := partial_.once
      new := fun a member => ⟨(partial_.new a member).1, Nat.lt_of_lt_of_le (partial_.new a member).2 touching.next⟩
      copied := partial_.copied.frame fun a member => same a (List.mem_cons_of_mem ptr member) }

theorem answered (partial_ : Partial o t copy ptr source held used s) {later : Answers} (left : later.Left s.answers) :
    Partial o t copy ptr source held used { s with answers := later } :=
  partial_.touched (partial_.since.answered left) (touching_answers later s) List.not_mem_nil fun _ _ =>
    List.not_mem_nil

end Partial

/-! ### Giving up -/

section Abandoned

variable {o t s u : State} {copy child : BufId} {ptr : Addr} {source held : Fields} {used leaked : List Addr} {C : Prop}

theorem named_of_later (since : t.Since s) (later : t.next ≤ ptr) : ptr ≠ 0 :=
  Nat.ne_of_gt (Nat.lt_of_lt_of_le since.positive later)

/-- What frees the clone in the making frees all it is in. -/
theorem Partial.felled (partial_ : Partial o t copy ptr source held used s) (felled : s.Felled u) (dead : u.Dead ptr) :
    ∀ a ∈ ptr :: used, u.Dead a := by
  obtain ⟨a, found, live, -, rfl⟩ := partial_.holds
  have alive : ¬ s.Dead ptr := fun dead => by
    rw [dead a found] at live
    cases live
  have fells := felled.fells ptr alive dead
  unfold State.fieldsAt at fells
  rw [found] at fells
  exact List.forall_mem_cons.2 ⟨dead, partial_.copied.felled partial_.since.settled.null felled fells⟩

theorem buffer_drop {other : BufId} (apart : other ≠ child) (s : State) : (s.drop child).buffer other = s.buffer other := by
  have same : (s.drop child).bufs.get other = s.bufs.get other := by
    unfold State.drop
    rw [(tpfree_rest _ _).2.1]
    show (s.bufs.del child).get other = _
    rw [Table.get_del, if_neg apart]
  unfold State.buffer
  rw [same]

/-- A dropped clone is freed with all it is in. -/
theorem Partial.dropped (partial_ : Partial o t copy ptr source held used s) : ∀ a ∈ ptr :: used, (s.drop copy).Dead a := by
  refine partial_.felled (drop_felled copy s) ?_
  have named := named_of_later partial_.since (partial_.new ptr List.mem_cons_self).1
  have dead : (s.drop copy).Dead (s.buffer copy).ptr := drop_dead (partial_.buffer.symm ▸ named)
  rwa [partial_.buffer] at dead

/-- **A clone given up** leaves what had leaked before. -/
theorem Partial.abandon (partial_ : Partial o t copy ptr source held used s)
    (accounted : Accounted (ptr :: used ++ leaked) t s) (leak : Leak o leaked s) (refused : o.Quiet → ¬ C) : Failing o t C (s.drop copy) where
  since := partial_.since.drop partial_.fresh
  refused := refused
  givenBack := by
    refine ⟨leaked, leak.felled (drop_felled copy s), accounted.step (drop_felled copy s).dead fun a member => ?_⟩
    exact (List.mem_append.1 member).symm.imp id (partial_.dropped a)

theorem Partial.discard (partial_ : Partial o t copy ptr source held used s) (accounted : Accounted (ptr :: used) t s)
    (refused : o.Quiet → ¬ C) : Failing o t C (s.drop copy) :=
  partial_.abandon (by rwa [List.append_nil]) (Leak.nothing o s) refused

/-- Given up with a child of its own, the child first, it leaves nothing. -/
theorem Partial.giveUp {more : List Addr} (partial_ : Partial o t copy ptr source held used s)
    (fresh : t.nextBuf ≤ child) (other : copy ≠ child) (accounted : Accounted (ptr :: used ++ more) t s)
    (gone : ∀ a ∈ more, (s.drop child).Dead a) (refused : o.Quiet → ¬ C) :
    Failing o t C ((s.drop child).drop copy) where
  since := (partial_.since.drop fresh).drop partial_.fresh
  refused := refused
  givenBack := by
    have felled : s.Felled ((s.drop child).drop copy) := (drop_felled child s).trans (drop_felled copy _)
    have named := named_of_later partial_.since (partial_.new ptr List.mem_cons_self).1
    have still : ((s.drop child).buffer copy).ptr = ptr := by rw [buffer_drop other, partial_.buffer]
    have dead : ((s.drop child).drop copy).Dead ((s.drop child).buffer copy).ptr := drop_dead (still.symm ▸ named)
    rw [still] at dead
    refine ⟨[], Leak.nothing o _, accounted.step felled.dead fun a member => .inr ?_⟩
    rcases List.mem_append.1 member with there | here
    · exact partial_.felled felled dead a there
    · exact (drop_felled copy _).dead a (gone a here)

/-- What was made after it has failed, and so has the clone. -/
theorem Partial.inherit {C' : Prop} (partial_ : Partial o t copy ptr source held used s)
    (accounted : Accounted (ptr :: used) t s) (failing : Failing o s C' u) (weaker : C → C') :
    Failing o t C (u.drop copy) := by
  obtain ⟨leaked, leak, after⟩ := failing.givenBack
  have still : Partial o t copy ptr source held used u :=
    partial_.touched (partial_.since.trans failing.since) failing.since.untouched List.not_mem_nil fun _ _ =>
      List.not_mem_nil
  exact still.abandon (accounted.later failing.since after) leak fun quiet holds =>
    failing.refused quiet (weaker holds)

end Abandoned

/-! ### Growing -/

/-- The clone in the making has at most moved; whatever else is allocated is where it was. -/
def Moved (o t : State) (copy : BufId) (from_ : State) (ptr₀ : Addr) (source held : Fields) (used : List Addr)
    (s : State) : Prop :=
  ∃ ptr, Partial o t copy ptr source held used s ∧ from_.Touching [copy] [ptr₀] s ∧ (ptr = ptr₀ ∨ from_.next ≤ ptr) ∧
    ∀ list, Accounted (ptr₀ :: list) t from_ → Accounted (ptr :: list) t s

section Moved

variable {o t from_ s : State} {copy : BufId} {ptr₀ : Addr} {source held : Fields} {used : List Addr}

theorem Partial.grown (partial_ : Partial o t copy ptr₀ source held used from_) :
    Moved o t copy from_ ptr₀ source held used from_ :=
  ⟨ptr₀, partial_, Touching.refl _ _ _, .inl rfl, fun _ accounted => accounted⟩

theorem Moved.answered (grown : Moved o t copy from_ ptr₀ source held used s) {later : Answers}
    (left : later.Left s.answers) : Moved o t copy from_ ptr₀ source held used { s with answers := later } := by
  obtain ⟨ptr, partial_, touching, moved, kept⟩ := grown
  exact ⟨ptr, partial_.answered left, touching.trans (touching_answers later s) (by simp) (by simp), moved,
    fun list accounted => (kept list accounted).onHeap rfl⟩

theorem grown_attends (origin : o.Since t) {E : State → Prop}
    (fails : ∀ s, Moved o t copy from_ ptr₀ source held used s → ¬ o.Quiet → E s) :
    Attends o (Moved o t copy from_ ptr₀ source held used) E where
  closed left holds := Moved.answered holds left
  left _ holds := by
    obtain ⟨_, partial_, -⟩ := holds
    exact partial_.since.answers.trans origin.answers
  fails := fails

end Moved

/-! ## Reallocation -/

/-- What a reallocated buffer is. -/
theorem State.reallocate_some {s : State} {ptr ptr' : Addr} {size : Nat} {moves : Bool} {a : Allocation}
    (found : s.heap.get ptr = some a) (done : (s.reallocate ptr size moves).1 = some ptr') :
    (s.reallocate ptr size moves).2.heap.get ptr' = some (a.resize size) ∧ (ptr' = ptr ∨ ptr' = s.next) := by
  unfold State.reallocate at done ⊢
  simp only [found] at done ⊢
  by_cases live : a.live = true
  · cases moves with
    | true =>
        simp only [live, if_true, Option.some.injEq] at done ⊢
        subst done
        exact ⟨by simp [allocate], .inr (bury_rest ptr s).1⟩
    | false =>
        simp only [live, if_true, Bool.false_eq_true, if_false, Option.some.injEq] at done ⊢
        subst done
        simp
  · simp [live] at done

section Growth

variable {o t from_ s : State} {copy : BufId} {ptr₀ : Addr} {source held : Fields} {used : List Addr}

/-- The reallocated buffer takes the place of the one there was. -/
theorem Partial.reallocate {ptr ptr' : Addr} (partial_ : Partial o t copy ptr source held used s) {size : Nat}
    {moves : Bool} (done : (s.reallocate ptr size moves).1 = some ptr') (len : Nat) :
    Partial o t copy ptr' source held used ((s.reallocate ptr size moves).2.setBuffer copy ⟨ptr', len⟩) := by
  obtain ⟨a, found, live, type, rfl⟩ := partial_.holds
  obtain ⟨made, place⟩ := State.reallocate_some found done
  have kept := partial_.since.reallocate (.inr (partial_.new ptr List.mem_cons_self).1) size moves
  have moved := touching_reallocate ptr size moves s
  obtain ⟨heap, -, next, -⟩ := setBuffer_rest copy ⟨ptr', len⟩ (s.reallocate ptr size moves).2
  have inUse : ∀ b ∈ used, b ≠ ptr' := by
    rintro b member rfl
    rcases place with rfl | rfl
    · exact (List.nodup_cons.1 partial_.once).1 member
    · exact absurd (partial_.new _ (List.mem_cons_of_mem ptr member)).2 (Nat.lt_irrefl _)
  have same : ∀ b ∈ used, (s.reallocate ptr size moves).2.heap.get b = s.heap.get b := fun b member =>
    moved.heap b (partial_.new b (List.mem_cons_of_mem ptr member)).2 (by
      rw [List.mem_singleton]
      rintro rfl
      exact (List.nodup_cons.1 partial_.once).1 member)
  have later : t.next ≤ ptr' := by
    rcases place with rfl | rfl
    · exact (partial_.new _ List.mem_cons_self).1
    · exact partial_.since.untouched.next
  exact
    { since := kept.setBuffer partial_.fresh later
      fresh := partial_.fresh
      owned := by
        obtain ⟨before, owned⟩ := partial_.owned
        have still : (s.reallocate ptr size moves).2.bufs.get copy = some ⟨⟨ptr, before⟩, .ubf⟩ := by
          rw [State.reallocate_bufs, owned]
        refine ⟨len, ?_⟩
        unfold State.setBuffer
        rw [still]
        simp
      holds := ⟨a.resize size, heap ▸ made, live, type, rfl⟩
      once := List.nodup_cons.2 ⟨fun member => inUse ptr' member rfl, (List.nodup_cons.1 partial_.once).2⟩
      new := by
        rw [next]
        refine List.forall_mem_cons.2 ⟨⟨later, (kept.settled.inside ptr' _ made).1⟩, fun b member => ?_⟩
        obtain ⟨after, before⟩ := partial_.new b (List.mem_cons_of_mem ptr member)
        exact ⟨after, Nat.lt_of_lt_of_le before moved.next⟩
      copied := partial_.copied.frame fun b member => by rw [heap, same b member] }

theorem Moved.reallocate {ptr ptr' : Addr} {size : Nat} {moves : Bool}
    (grown : Moved o t copy from_ ptr₀ source held used s) (here : (s.buffer copy).ptr = ptr)
    (done : (s.reallocate ptr size moves).1 = some ptr') (len : Nat) :
    Moved o t copy from_ ptr₀ source held used ((s.reallocate ptr size moves).2.setBuffer copy ⟨ptr', len⟩) := by
  obtain ⟨at_, partial_, touching, moved, kept⟩ := grown
  obtain rfl : at_ = ptr := partial_.buffer.symm.trans here
  obtain ⟨a, found, -⟩ := partial_.holds
  obtain ⟨-, place⟩ := State.reallocate_some found done
  refine ⟨ptr', partial_.reallocate done len, ?_, ?_, fun list accounted => ?_⟩
  · refine (touching.trans (touching_reallocate at_ size moves s) (by simp) ?_).trans (touching_setBuffer copy _ _)
      (fun id member => .inl member) (by simp)
    simpa using moved
  · rcases place with rfl | rfl
    · exact moved
    · exact .inr touching.next
  · exact ((kept list accounted).reallocate done).onHeap (setBuffer_rest copy _ _).1

theorem Moved.bytes (grown : Moved o t copy from_ ptr₀ source held used s) {change : Allocation → Allocation}
    (kept : ∀ a, (change a).live = a.live ∧ (change a).typeName = a.typeName ∧ (change a).fields = a.fields) :
    Moved o t copy from_ ptr₀ source held used (s.rewrite (s.buffer copy).ptr change) := by
  obtain ⟨ptr, partial_, touching, moved, accounts⟩ := grown
  rw [partial_.buffer]
  have since : t.Since (s.rewrite ptr change) :=
    partial_.since.rewrite (.inr (partial_.new ptr List.mem_cons_self).1) fun a p member =>
      .inl ((kept a).2.2 ▸ member)
  have written := touching_rewrite ptr change s
  refine ⟨ptr, ?_, touching.trans written (by simp) (by simpa using moved), moved, fun list accounted =>
    (accounts list accounted).rewrite ptr fun a => (kept a).1⟩
  obtain ⟨a, found, live, type, rfl⟩ := partial_.holds
  obtain ⟨next, bufs, -⟩ := rewrite_rest ptr change s
  exact
    { since
      fresh := partial_.fresh
      owned := bufs ▸ partial_.owned
      holds := ⟨change a, by rw [get_rewrite, if_pos rfl, found]; rfl, (kept a).1.trans live, (kept a).2.1.trans type,
        (kept a).2.2⟩
      once := partial_.once
      new := next ▸ partial_.new
      copied := partial_.copied.frame fun b member => written.heap b (partial_.new b (List.mem_cons_of_mem ptr member)).2 (by
        rw [List.mem_singleton]
        rintro rfl
        exact (List.nodup_cons.1 partial_.once).1 member) }

/-- Reallocation leaves the clone where it goes. -/
theorem tprealloc_grown (origin : o.Since t) (newSize : Nat) :
    Keeps (Moved o t copy from_ ptr₀ source held used) (tprealloc copy newSize).run := by
  unfold tprealloc
  refine Ends.tryRead fun now => ?_
  have attends : Attends o (Moved o t copy from_ ptr₀ source held used) fun _ => True :=
    grown_attends origin fun _ _ _ => trivial
  let Q : State → Prop := fun s =>
    Moved o t copy from_ ptr₀ source held used s ∧ (s.buffer copy).ptr = (now.buffer copy).ptr
  have watching : Attends o Q fun _ => True :=
    { closed := fun left holds => ⟨attends.closed left holds.1, holds.2⟩
      left := fun s holds => attends.left s holds.1
      fails := fun _ _ _ => trivial }
  refine Ends.mono (B := Q) ?_ (fun s holds => ⟨holds.1, holds.2 ▸ rfl⟩) fun _ _ holds => holds
  refine Ends.tryBind (F := fun _ => Q) (Ends.lift ((watching.next_ends Queue.reallocs_spends (G := fun _ => True) trivial
    fun _ _ _ _ => trivial).mono (fun _ holds => holds) fun _ _ holds => holds.1)) (fun _ _ holds => holds.1)
    fun answer => ?_
  refine Ends.tryOutcome ((tptypesOf_ends answer.before _).mono (fun _ holds => holds)
    fun _ _ holds => holds.1) fun before => ?_
  refine Ends.tryBind Keeps.throwIf (fun _ _ holds => holds.1) fun _ => ?_
  refine Ends.tryBind (refuseShrink_keeps _ _ _) (fun _ _ holds => holds.1) fun _ => ?_
  split
  · exact Ends.throw fun _ holds => holds.1
  · rename_i more moves _
    let R : Addr → State → Prop := fun ptr s =>
      ∀ len, Moved o t copy from_ ptr₀ source held used (s.setBuffer copy ⟨ptr, len⟩)
    refine Ends.tryBind (F := fun moved s => (∀ ptr, moved = .ok (some ptr) → R ptr s) ∧
      ((∀ ptr, moved ≠ .ok (some ptr)) → Moved o t copy from_ ptr₀ source held used s))
      (Ends.tryModifyGet fun s holds => ?_) (fun _ _ holds => holds.2 (by simp)) fun moved => ?_
    · cases done : (s.reallocate (now.buffer copy).ptr (newSize + more) moves).1 with
      | none =>
          refine ⟨by simp, fun _ => ?_⟩
          rw [State.reallocate_none done]
          exact holds.1
      | some ptr =>
          refine ⟨fun ptr' same len => ?_, fun never => absurd rfl (never ptr)⟩
          cases same
          exact holds.1.reallocate holds.2 done len
    · cases moved with
      | none => exact Ends.throw fun _ holds => holds.2 (by simp)
      | some ptr =>
          refine Ends.mono (B := R ptr) ?_ (fun _ holds => holds.1 ptr rfl) fun _ _ holds => holds
          refine Ends.tryOutcome ((tptypesOf_ends answer.after ptr).mono (fun _ holds => holds)
            fun _ _ holds => holds.1) fun grown => ?_
          refine Ends.tryBind (F := fun result s => result = .ok ⟨⟩ ∧ R ptr s)
            (clearGrowth_done (fun s start holds len => ?_) before grown)
            (fun _ _ impossible => by cases impossible.1) fun _ => Ends.tryModify fun s holds => holds.2 _
          rw [rewrite_setBuffer]
          obtain ⟨at_, partial_, -⟩ := holds len
          obtain ⟨place, owned⟩ := partial_.owned
          have cleared : Moved o t copy from_ ptr₀ source held used ((s.setBuffer copy ⟨ptr, len⟩).rewrite
              ((s.setBuffer copy ⟨ptr, len⟩).buffer copy).ptr fun a => { a with bytes := Typed.cleared start a.bytes }) :=
            (holds len).bytes fun a => ⟨rfl, rfl, rfl⟩
          have here : ((s.setBuffer copy ⟨ptr, len⟩).buffer copy).ptr = ptr := by
            have set := get_setBuffer copy copy ⟨ptr, len⟩ s
            rw [if_pos rfl, owned] at set
            obtain ⟨before, -, same⟩ := Option.map_eq_some_iff.1 set.symm
            exact partial_.buffer.trans (congrArg (fun place : Place => place.buffer.ptr) same).symm
          rwa [here] at cleared

end Growth

/-! ## What is displaced: nothing -/

/-- An occurrence past the last has no roots, and asks nothing. -/
theorem displacedRoots_absent {id : BufId} {f : BFLDID} {occ : Nat} {s : State}
    (absent : bfind f occ (s.fieldsOf id) = none) : (displacedRoots id f occ).run.run s = (.ok [], s) := by
  have read : (get : UbfM State).run.run s = (.ok s, s) := rfl
  unfold displacedRoots ownedFieldRoots
  rw [run_tryBind_ok read]
  simp only [absent]
  rfl

theorem replacedPtr_absent {id : BufId} {f : BFLDID} {occ : Nat} {s : State}
    (absent : bfind f occ (s.fieldsOf id) = none) : (replacedPtr id f (some occ)).run.run s = (.ok none, s) := by
  have read : (get : UbfM State).run.run s = (.ok s, s) := rfl
  unfold replacedPtr
  rw [run_tryBind_ok read]
  simp only [Option.bind_some, absent]
  rfl

theorem Partial.absent {o t s : State} {copy : BufId} {ptr : Addr} {source held : Fields} {used : List Addr}
    (partial_ : Partial o t copy ptr source held used s) (f : BFLDID) :
    bfind f (boccur f source) (s.fieldsOf copy) = none := by
  rw [partial_.fieldsOf, bfind_none_iff, partial_.copied.boccur_eq]

/-! ## Writes -/

section Writes

variable {o t from_ s : State} {copy : BufId} {ptr₀ : Addr} {source held : Fields} {used : List Addr}

theorem growBuffer_grown (origin : o.Since t) :
    Keeps (Moved o t copy from_ ptr₀ source held used) (growBuffer copy).run :=
  Keeps.tryBind (grown_attends origin (E := fun _ => True) fun _ _ _ => trivial).call_keeps fun _ =>
    Keeps.tryBind Keeps.tryGet fun _ => allocating_keeps (tprealloc_grown origin _)

/-- A write stores what was looked up last, in a clone that may have moved. -/
theorem writing_grown (origin : o.Since t) {α : Type} {realloc : Bool} {look : UbfM α} {store : α → UbfM Unit}
    {H : α → Prop} {Q : Unit → State → Prop} {E : State → Prop}
    (fails : ∀ s, Moved o t copy from_ ptr₀ source held used s → ¬ o.Quiet → E s)
    (looked : Yields (Moved o t copy from_ ptr₀ source held used) look
      (fun a s => Moved o t copy from_ ptr₀ source held used s ∧ H a) E)
    (stored : ∀ a, H a → Yields (Moved o t copy from_ ptr₀ source held used) (store a) Q E) :
    Yields (Moved o t copy from_ ptr₀ source held used) (writing copy realloc look store) Q E := by
  have attends : Attends o (Moved o t copy from_ ptr₀ source held used) E := grown_attends origin fails
  have tried : ∀ fuel, (fuel = 0 → ¬ o.Quiet) → Yields (Moved o t copy from_ ptr₀ source held used)
      (untilFits copy realloc look store fuel) Q E := by
    intro fuel
    induction fuel with
    | zero => exact fun loud => Yields.throw fun s holds => fails s holds (loud rfl)
    | succ fuel ih =>
        intro _
        unfold untilFits
        refine Yields.bind looked fun found => Ends.ofFact fun known => ?_
        refine Yields.bind (Yields.lift (attends.next_ends Queue.writes_spends (G := fun failure => o.Quiet → failure = none)
          (fun _ => rfl) fun s holds failure member quiet => quiet.writes failure ((attends.left s holds).writes member)))
          fun failure => Ends.ofFact fun answered => ?_
        cases failure with
        | none => exact stored found known
        | some e =>
            have loud : ¬ o.Quiet := by
              intro quiet
              cases answered quiet
            dsimp only
            split
            · exact Yields.bind ((Yields.ofKeeps (growBuffer_grown origin)).mono (fun _ holds => holds)
                (fun _ _ holds => holds) fun s holds => fails s holds loud) fun _ => ih fun _ => loud
            · exact Yields.throw fun s holds => fails s holds loud
  exact Yields.peek fun now => tried _ fun impossible => absurd impossible (Nat.succ_ne_zero _)

theorem putNative_grown (origin : o.Since t) {f : BFLDID} {occ : Nat} {value : FieldValue} {realloc : Bool}
    {E : State → Prop} (fails : ∀ s, Moved o t copy from_ ptr₀ source held used s → ¬ o.Quiet → E s) :
    Yields (Moved o t copy from_ ptr₀ source held used) (putNative copy f occ value realloc)
      (fun _ u => ∃ s, Moved o t copy from_ ptr₀ source held used s ∧ u = s.changeFields copy (bchg f occ value))
      E :=
  writing_grown origin (H := fun _ => True) fails (Yields.pure fun _ holds => ⟨holds, trivial⟩) fun _ _ =>
    Yields.modify fun s holds => ⟨s, holds, rfl⟩

theorem mem_targetsIn_bchg {f : BFLDID} {occ : Nat} {value : FieldValue} {fields : Fields} {p : Addr}
    (member : p ∈ targetsIn (bchg f occ value fields)) : p ∈ targetsIn fields ∨ p ∈ value.targets := by
  have changed := bchg_targets f occ value fields p
  have some := List.one_le_count_iff.2 member
  by_cases kept : p ∈ targetsIn fields
  · exact .inl kept
  · rw [List.count_eq_zero.2 kept] at changed
    exact .inr (List.one_le_count_iff.1 (by omega))

/-- The copy of the next occurrence goes where the occurrence is in the source. -/
theorem Partial.put {ptr : Addr} (partial_ : Partial o t copy ptr source held used s) {item : Int × FieldValue}
    {value : FieldValue} {more : List Addr} (copied : Copied o s [item] [(item.1, value)] more)
    (once : (ptr :: (used ++ more)).Nodup) (new : ∀ a ∈ more, t.next ≤ a ∧ a < s.next) :
    Partial o t copy ptr (source ++ [item]) (held ++ [(item.1, value)]) (used ++ more)
      (s.changeFields copy (bchg (fieldOf item) (boccur (fieldOf item) source) value)) := by
  have written : s.Touching [] [ptr] (s.changeFields copy (bchg (fieldOf item) (boccur (fieldOf item) source) value)) := by
    have touching := touching_rewrite ptr (fun allocation => { allocation with
      fields := bchg (fieldOf item) (boccur (fieldOf item) source) value allocation.fields }) s
    unfold State.changeFields
    rw [partial_.buffer]
    exact touching
  have apart : ∀ a ∈ used ++ more, a ≠ ptr := by
    rintro a member rfl
    exact (List.nodup_cons.1 once).1 member
  have old : ∀ a ∈ used ++ more, a < s.next := by
    intro a member
    rcases List.mem_append.1 member with there | here
    · exact (partial_.new a (List.mem_cons_of_mem ptr there)).2
    · exact (new a here).2
  obtain ⟨next, bufs, -⟩ := changeFields_rest copy (bchg (fieldOf item) (boccur (fieldOf item) source) value) s
  obtain ⟨a, found, live, type, rfl⟩ := partial_.holds
  exact
    { since := partial_.since.changeFields partial_.fresh fun fields p member => by
        refine (mem_targetsIn_bchg member).imp id fun pointed => new p (copied.targets p ?_)
        simpa using pointed
      fresh := partial_.fresh
      owned := bufs ▸ partial_.owned
      holds := by
        refine ⟨{ a with fields := bchg (fieldOf item) (boccur (fieldOf item) source) value a.fields }, ?_, live, type, ?_⟩
        · rw [get_changeFields, partial_.buffer, if_pos rfl, found]
          rfl
        show bchg (fieldOf item) (boccur (fieldOf item) source) value a.fields = _
        rw [← partial_.copied.boccur_eq, bchg_end]
        rfl
      once
      new := by
        rw [next]
        refine List.forall_mem_cons.2 ⟨partial_.new ptr List.mem_cons_self, fun b member => ?_⟩
        rcases List.mem_append.1 member with there | here
        · exact partial_.new b (List.mem_cons_of_mem ptr there)
        · exact new b here
      copied := (partial_.copied.append copied).frame fun b member => written.heap b (old b member) (by
        rw [List.mem_singleton]
        exact apart b member) }

end Writes

/-! ## What a child becomes -/

/-- The value `child` owns the copy of the buffer at `target`. -/
structure Target (o t : State) (child : BufId) (target ptr : Addr) (used : List Addr) (s : State) : Prop where
  since : t.Since s
  fresh : t.nextBuf ≤ child
  owned : ∃ place, s.bufs.get child = some place ∧ place.buffer.ptr = ptr
  once : used.Nodup
  new : ∀ a ∈ used, t.next ≤ a ∧ a < s.next
  copied : ∀ id, Copied o s [(id, .ptr target)] [(id, .ptr ptr)] used

section Children

variable {o t s u : State} {copy child : BufId} {ptr ptr' : Addr} {source held inner inside : Fields}
  {used within : List Addr} {C : Prop}

theorem Partial.earlier (partial_ : Partial o s copy ptr source held used u) (since : t.Since s) :
    Partial o t copy ptr source held used u :=
  { partial_ with
    since := since.trans partial_.since
    fresh := Nat.le_trans since.untouched.nextBuf partial_.fresh
    new := fun a member => ⟨Nat.le_trans since.untouched.next (partial_.new a member).1, (partial_.new a member).2⟩ }

/-- Two clones in the making. -/
structure Pair (o t : State) (copy : BufId) (ptr : Addr) (source held : Fields) (used : List Addr)
    (child : BufId) (ptr' : Addr) (inner inside : Fields) (within : List Addr) (s : State) : Prop where
  outer : Partial o t copy ptr source held used s
  inner : Partial o t child ptr' inner inside within s
  other : copy ≠ child
  apart : ∀ a ∈ ptr :: used, a ∉ ptr' :: within
  accounts : Accounted (ptr :: used ++ ptr' :: within) t s

theorem Pair.giveUp (pair : Pair o t copy ptr source held used child ptr' inner inside within s)
    (refused : o.Quiet → ¬ C) : Failing o t C ((s.drop child).drop copy) :=
  pair.outer.giveUp pair.inner.fresh pair.other pair.accounts pair.inner.dropped refused

theorem Pair.attends (origin : o.Since t) :
    Attends o (Pair o t copy ptr source held used child ptr' inner inside within)
      fun s => Failing o t C ((s.drop child).drop copy) where
  closed left pair := ⟨pair.outer.answered left, pair.inner.answered left, pair.other, pair.apart,
    pair.accounts.onHeap rfl⟩
  left _ pair := pair.outer.since.answers.trans origin.answers
  fails _ pair loud := pair.giveUp fun quiet => absurd quiet loud

/-- A child built since is another than the clone it goes into. -/
theorem Partial.pair (outer : Partial o t copy ptr source held used s) (accounted : Accounted (ptr :: used) t s)
    (inner' : Partial o s child ptr' inner inside within u) (after : Accounted (ptr' :: within) s u) :
    Pair o t copy ptr source held used child ptr' inner inside within u where
  accounts := accounted.later inner'.since after
  outer := outer.touched (outer.since.trans inner'.since) inner'.since.untouched List.not_mem_nil fun _ _ =>
    List.not_mem_nil
  inner := inner'.earlier outer.since
  other := by
    obtain ⟨len, owned⟩ := outer.owned
    exact Nat.ne_of_lt (Nat.lt_of_lt_of_le (outer.since.handed owned) inner'.fresh)
  apart a member shared := absurd (outer.new a member).2 (Nat.not_lt_of_le (inner'.new a shared).1)

/-- What is left of a child is its shell. -/
structure Shell (o t : State) (copy : BufId) (ptr : Addr) (source held : Fields) (used : List Addr) (child : BufId)
    (s : State) : Prop where
  outer : Partial o t copy ptr source held used s
  fresh : t.nextBuf ≤ child
  other : copy ≠ child
  apart : ∀ a ∈ ptr :: used, a ≠ (s.buffer child).ptr
  named : (s.buffer child).ptr ≠ 0
  empty : targetsIn (s.fieldsOf child) = []
  accounts : Accounted (ptr :: used ++ [(s.buffer child).ptr]) t s

/-- A free that has nothing to cascade to. -/
theorem State.touching_tpfree {s : State} {ptr : Addr} (empty : targetsIn (s.fieldsAt ptr) = []) :
    s.Touching [] [ptr] (s.tpfree ptr) := by
  unfold State.tpfree
  split
  · exact Touching.refl _ _ s
  · have alone : (s.bury ptr).1 = [] := by
      unfold State.bury
      unfold State.fieldsAt at empty
      split
      · rename_i a found
        rw [found] at empty
        rw [empty]
        exact ite_self []
      · rfl
    unfold State.release
    rw [alone, List.append_nil]
    have done : ∀ fuel (s : State), s.release fuel [] = s := fun fuel s => by cases fuel <;> rfl
    rw [done]
    exact touching_bury ptr s

/-- The shell dropped, the clone is as it was. -/
theorem Shell.drop (shell : Shell o t copy ptr source held used child s) :
    Partial o t copy ptr source held used (s.drop child) := by
  have forgotten := shell.outer.touched (shell.outer.since.forget shell.fresh) (touching_forget child s)
    (by simpa using shell.other) fun _ _ => List.not_mem_nil
  have freed : (s.forget child).Touching [] [(s.buffer child).ptr] (s.drop child) := touching_tpfree shell.empty
  exact forgotten.touched (shell.outer.since.drop shell.fresh) freed List.not_mem_nil fun a member => by
    simpa using shell.apart a member

theorem Shell.left (shell : Shell o t copy ptr source held used child s) : Accounted (ptr :: used) t (s.drop child) :=
  shell.accounts.step (drop_felled child s).dead fun a member => by
    rcases List.mem_append.1 member with kept | here
    · exact .inl kept
    · exact .inr (List.mem_singleton.1 here ▸ drop_dead shell.named)

/-- The clone holds what the child held. -/
structure Given (o t : State) (copy : BufId) (ptr : Addr) (source held : Fields) (used : List Addr) (child : BufId)
    (ptr' : Addr) (inside : Fields) (s : State) : Prop where
  outer : Partial o t copy ptr source held used s
  fresh : t.nextBuf ≤ child
  other : copy ≠ child
  fields : s.fieldsOf child = inside
  place : (s.buffer child).ptr = ptr'
  new : t.next ≤ ptr'
  type : s.typeAt ptr' = some "UBF"
  apart : ∀ a ∈ ptr :: used, a ≠ ptr'
  accounts : Accounted (ptr :: used ++ [ptr']) t s

theorem Given.giveUp (given : Given o t copy ptr source held used child ptr' inside s) (refused : o.Quiet → ¬ C) :
    Failing o t C ((s.drop child).drop copy) := by
  refine given.outer.giveUp given.fresh given.other given.accounts (fun a member => ?_) refused
  obtain rfl := List.mem_singleton.1 member
  have dead : (s.drop child).Dead (s.buffer child).ptr :=
    drop_dead (given.place.symm ▸ named_of_later given.outer.since given.new)
  rwa [given.place] at dead

/-- The child given away and not emptied, it is all that is left. -/
theorem Given.leak (given : Given o t copy ptr source held used child ptr' inside s) (refused : o.Quiet → ¬ C)
    (soft : ¬ o.Firm) : Failing o t C (((s.forget child).drop child).drop copy) := by
  have gone : (s.forget child).drop child = s.forget child := drop_of_gone (by
    show (s.bufs.del child).get child = none
    rw [Table.get_del, if_pos rfl])
  have outer : Partial o t copy ptr source held used (s.forget child) :=
    given.outer.touched (given.outer.since.forget given.fresh) (touching_forget child s) (by simpa using given.other)
      fun _ _ => List.not_mem_nil
  rw [gone]
  exact outer.abandon (given.accounts.onHeap rfl)
    ⟨Nat.le_refl 1, fun firm => absurd firm soft, List.forall_mem_singleton.2 given.type⟩ refused

theorem Given.attends (origin : o.Since t) :
    Attends o (Given o t copy ptr source held used child ptr' inside)
      fun s => Failing o t C ((s.drop child).drop copy) where
  closed left given := { given with
    outer := given.outer.answered left
    accounts := given.accounts.onHeap rfl }
  left _ given := given.outer.since.answers.trans origin.answers
  fails _ given loud := given.giveUp fun quiet => absurd quiet loud

theorem Given.emptied (given : Given o t copy ptr source held used child ptr' inside s) :
    Shell o t copy ptr source held used child (s.changeFields child fun _ => []) := by
  have written := touching_rewrite ptr' (fun allocation => { allocation with fields := [] }) s
  have change : (s.changeFields child fun _ => []) = s.rewrite ptr' fun allocation => { allocation with fields := [] } := by
    unfold State.changeFields
    rw [given.place]
  refine ⟨given.outer.touched ?_ (change ▸ written) List.not_mem_nil fun a member => by simpa using given.apart a member,
    given.fresh, given.other, fun a member => ?_, ?_, ?_, ?_⟩
  · exact given.outer.since.changeFields given.fresh fun _ p impossible => absurd impossible List.not_mem_nil
  · rw [buffer_changeFields, given.place]
    exact given.apart a member
  · rw [buffer_changeFields, given.place]
    exact named_of_later given.outer.since given.new
  · unfold State.fieldsOf State.fieldsAt
    rw [buffer_changeFields, get_changeFields, if_pos rfl]
    cases s.heap.get (s.buffer child).ptr <;> rfl
  · rw [buffer_changeFields, given.place]
    exact given.accounts.changeFields child _

theorem clearShell_given (origin : o.Since t) :
    Yields (Given o t copy ptr source held used child ptr' inside) (clearShell child [])
      (fun _ => Shell o t copy ptr source held used child) (fun s => Failing o t C ((s.drop child).drop copy)) := by
  have attends : Attends o (Given o t copy ptr source held used child ptr' inside)
      fun s => Failing o t C ((s.drop child).drop copy) := Given.attends origin
  have asked : Yields (E := fun s => Failing o t C ((s.drop child).drop copy))
      (Given o t copy ptr source held used child ptr' inside) (liftM nextShell : UbfM (Option UbfError))
      fun failure s => Given o t copy ptr source held used child ptr' inside s ∧ (o.Firm → failure = none) :=
    Yields.lift (attends.next_ends Queue.shell_spends (fun _ => rfl) fun s given failure member firm =>
      firm failure ((attends.left s given).shell member))
  unfold clearShell
  refine Yields.bind asked fun failure => Ends.ofFact fun size => ?_
  cases failure with
  | some e =>
      refine Yields.throw fun s given => attends.fails s given fun quiet => ?_
      cases size quiet.shell
  | none =>
      refine Yields.bind asked fun failure => Ends.ofFact fun emptying => ?_
      cases failure with
      | none => exact Yields.modify fun s given => given.emptied
      | some e =>
          have soft : ¬ o.Firm := by
            intro firm
            cases emptying firm
          refine Yields.bind (Q := fun _ s => Failing o t C ((s.drop child).drop copy))
            (Yields.modify fun s given => given.leak (fun quiet => absurd quiet.shell soft) soft) fun _ => ?_
          refine Yields.bind (Q := fun _ s => Failing o t C ((s.drop child).drop copy))
            (Yields.modify fun s failing => failing) fun _ => ?_
          exact Yields.throw fun s failing => failing

/-- The clone may have moved; the child has not. -/
theorem Pair.grown (pair : Pair o t copy ptr source held used child ptr' inner inside within s)
    (grown : Moved o t copy s ptr source held used u) :
    ∃ at_, Pair o t copy at_ source held used child ptr' inner inside within u := by
  obtain ⟨at_, outer, touching, moved, kept⟩ := grown
  have apart : ∀ a ∈ ptr' :: within, a ≠ ptr := by
    rintro a member rfl
    exact pair.apart a List.mem_cons_self member
  refine ⟨at_, outer, ?_, pair.other, ?_, kept _ pair.accounts⟩
  · exact pair.inner.touched outer.since touching (by simpa using Ne.symm pair.other) fun a member => by
      simpa using apart a member
  · refine List.forall_mem_cons.2 ⟨fun shared => ?_, fun a member => pair.apart a (List.mem_cons_of_mem ptr member)⟩
    rcases moved with rfl | later
    · exact apart _ shared rfl
    · exact absurd (pair.inner.new at_ shared).2 (Nat.not_lt_of_le later)

theorem Pair.put (pair : Pair o t copy ptr source held used child ptr' inner inside within s) (id : Int) :
    Given o t copy ptr (source ++ [(id, .ubf inner)]) (held ++ [(id, .ubf inside)]) (used ++ within) child ptr' inside
      (s.changeFields copy (bchg ⟨id, .Ubf⟩ (boccur ⟨id, .Ubf⟩ source) (.ubf inside))) := by
  have embedded : Copied o s [(id, .ubf inner)] [(id, .ubf inside)] within := by
    have alone : Copied o s [(id, .ubf inner)] [(id, .ubf inside)] (within ++ []) :=
      .embedded pair.inner.copied .nil
    rw [List.append_nil] at alone
    exact alone
  have once : (ptr :: (used ++ within)).Nodup := by
    refine List.nodup_append.2 ⟨pair.outer.once, (List.nodup_cons.1 pair.inner.once).2, fun a member b shared => ?_⟩
    rintro rfl
    exact pair.apart a member (List.mem_cons_of_mem ptr' shared)
  exact
    { outer := pair.outer.put embedded once fun a member => pair.inner.new a (List.mem_cons_of_mem ptr' member)
      fresh := pair.inner.fresh
      other := pair.other
      fields := by
        have apart : ptr' ≠ ptr := by
          rintro rfl
          exact pair.apart _ List.mem_cons_self List.mem_cons_self
        unfold State.fieldsOf State.fieldsAt
        rw [buffer_changeFields, get_changeFields, pair.outer.buffer, pair.inner.buffer, if_neg apart]
        obtain ⟨a, found, -, -, rfl⟩ := pair.inner.holds
        rw [found]
      place := by rw [buffer_changeFields, pair.inner.buffer]
      accounts := (pair.accounts.changeFields copy _).mono fun a member => by
        simp only [List.mem_cons, List.mem_append] at member ⊢
        tauto
      new := (pair.inner.new ptr' List.mem_cons_self).1
      type := by
        obtain ⟨a, found, -, type, -⟩ := pair.inner.holds
        unfold State.typeAt
        rw [get_changeFields, pair.outer.buffer, if_neg fun same => ?_, found, Option.map_some, type]
        exact pair.apart ptr List.mem_cons_self (same ▸ List.mem_cons_self)
      apart := by
        rintro a member rfl
        rcases List.mem_append.1 (show a ∈ (ptr :: used) ++ within from member) with there | here
        · exact pair.apart a there List.mem_cons_self
        · exact (List.nodup_cons.1 pair.inner.once).1 here }

/-- **Embedding a child**: the clone holds its copy, and the child is gone. -/
theorem putOwnedUbf_pair (origin : o.Since t) (id : Int) :
    Yields (Pair o t copy ptr source held used child ptr' inner inside within)
      (putOwnedUbf copy ⟨id, .Ubf⟩ (boccur ⟨id, .Ubf⟩ source) child true)
      (fun _ s => ∃ at_, Partial o t copy at_ (source ++ [(id, .ubf inner)]) (held ++ [(id, .ubf inside)])
        (used ++ within) s ∧ Accounted (at_ :: (used ++ within)) t s)
      (fun s => Failing o t C (s.drop copy)) := by
  have attends : Attends o (Pair o t copy ptr source held used child ptr' inner inside within)
      fun s => Failing o t C ((s.drop child).drop copy) := Pair.attends origin
  refine orDrop_yields (B := fun s => Failing o t C ((s.drop child).drop copy)) ?_ fun s failing => failing
  refine Yields.bind (attends.requireFieldType rfl) fun _ => Yields.bind attends.called fun _ =>
    Yields.read fun now pair => ?_
  rw [pair.inner.fieldsOf]
  refine Yields.bind (Q := fun _ s => s = now) (Yields.throwIf (fun _ refused => ?_) fun _ _ same => same) fun _ => ?_
  · simp at refused
  refine Yields.bind (Q := fun previous s => previous = [] ∧ s = now) ?_ fun previous => Ends.ofThen fun none => ?_
  · rintro s rfl
    rw [displacedRoots_absent (pair.outer.absent _)]
    exact ⟨rfl, rfl⟩
  subst none
  refine Yields.bind (Q := fun _ u => ∃ at_, Given o t copy at_ (source ++ [(id, .ubf inner)])
      (held ++ [(id, .ubf inside)]) (used ++ within) child ptr' inside u)
    ((putNative_grown origin (E := fun s => Failing o t C ((s.drop child).drop copy)) fun s grown loud => ?_).mono
      (B := Moved o t copy now ptr source held used) (fun _ same => same ▸ pair.outer.grown) ?_
      fun _ failing => failing) fun _ => Ends.ofExists fun at_ => ?_
  · obtain ⟨at_, moved⟩ := pair.grown grown
    exact moved.giveUp fun quiet => absurd quiet loud
  · rintro _ u ⟨s, grown, rfl⟩
    obtain ⟨at_, moved⟩ := pair.grown grown
    exact ⟨at_, moved.put id⟩
  refine Yields.bind (Q := fun _ => Shell o t copy at_ (source ++ [(id, .ubf inner)]) (held ++ [(id, .ubf inside)])
    (used ++ within) child) (Yields.runIf (fun _ => clearShell_given origin) fun u lacks given => ?_) fun _ => ?_
  · refine ⟨given.outer, given.fresh, given.other, given.place ▸ given.apart,
      given.place ▸ named_of_later given.outer.since given.new, ?_, given.place ▸ given.accounts⟩
    rw [given.fields]
    exact targetsIn_of_not_bhasptr inside (Bool.eq_false_iff.2 lacks)
  refine Yields.bind (Q := fun _ s => Partial o t copy at_ (source ++ [(id, .ubf inner)]) (held ++ [(id, .ubf inside)])
    (used ++ within) s ∧ Accounted (at_ :: (used ++ within)) t s)
    (Yields.modify fun s shell => ⟨shell.drop, shell.left⟩) fun _ => Yields.modify fun s holds => ⟨at_, holds⟩

/-! ### Behind a pointer -/

theorem Target.touched {ids : List BufId} {ptrs : List Addr} {target : Addr}
    (made : Target o t child target ptr' within s) (since : t.Since u) (touching : s.Touching ids ptrs u)
    (other : child ∉ ids) (apart : ∀ a ∈ within, a ∉ ptrs) : Target o t child target ptr' within u := by
  exact
    { since
      fresh := made.fresh
      owned := by
        obtain ⟨place, owned, here⟩ := made.owned
        exact ⟨place, (touching.bufs child (made.since.handed owned) other).trans owned, here⟩
      once := made.once
      new := fun a member => ⟨(made.new a member).1, Nat.lt_of_lt_of_le (made.new a member).2 touching.next⟩
      copied := fun id => (made.copied id).frame fun a member => touching.heap a (made.new a member).2 (apart a member) }

theorem Target.earlier {target : Addr} (made : Target o s child target ptr' within u) (since : t.Since s) :
    Target o t child target ptr' within u :=
  { made with
    since := since.trans made.since
    fresh := Nat.le_trans since.untouched.nextBuf made.fresh
    new := fun a member => ⟨Nat.le_trans since.untouched.next (made.new a member).1, (made.new a member).2⟩ }

/-- A clone in the making, and the copy of a target that goes into it. -/
structure Linked (o t : State) (copy : BufId) (ptr : Addr) (source held : Fields) (used : List Addr)
    (child : BufId) (target ptr' : Addr) (within : List Addr) (s : State) : Prop where
  outer : Partial o t copy ptr source held used s
  made : Target o t child target ptr' within s
  other : copy ≠ child
  apart : ∀ a ∈ ptr :: used, a ∉ within
  accounts : Accounted (ptr :: used ++ within) t s

section Linked

variable {target : Addr}

/-- A dropped copy of a target is freed with all it is in. -/
theorem Target.dropped (made : Target o t child target ptr' within s) : ∀ a ∈ within, (s.drop child).Dead a := by
  refine (made.copied 0).felled made.since.settled.null (drop_felled child s) fun p member => ?_
  obtain ⟨place, owned, here⟩ := made.owned
  have same : (s.buffer child).ptr = ptr' := by rw [buffer_of owned, here]
  simp only [targetsIn_cons, targets_ptr, targetsIn_nil, List.append_nil] at member
  split at member
  · cases member
  · rename_i named
    obtain rfl := List.mem_singleton.1 member
    have dead : (s.drop child).Dead (s.buffer child).ptr := drop_dead (same.symm ▸ named)
    rwa [same] at dead

theorem Linked.giveUp (linked : Linked o t copy ptr source held used child target ptr' within s)
    (refused : o.Quiet → ¬ C) : Failing o t C ((s.drop child).drop copy) :=
  linked.outer.giveUp linked.made.fresh linked.other linked.accounts linked.made.dropped refused

theorem Linked.attends (origin : o.Since t) :
    Attends o (Linked o t copy ptr source held used child target ptr' within)
      fun s => Failing o t C ((s.drop child).drop copy) where
  closed left linked := ⟨linked.outer.answered left,
    linked.made.touched (linked.made.since.answered left) (touching_answers _ _) List.not_mem_nil fun _ _ =>
      List.not_mem_nil, linked.other, linked.apart, linked.accounts.onHeap rfl⟩
  left _ linked := linked.outer.since.answers.trans origin.answers
  fails _ linked loud := linked.giveUp fun quiet => absurd quiet loud

theorem Partial.linked (outer : Partial o t copy ptr source held used s) (accounted : Accounted (ptr :: used) t s)
    (made : Target o s child target ptr' within u) (after : Accounted within s u) :
    Linked o t copy ptr source held used child target ptr' within u where
  accounts := accounted.later made.since after
  outer := outer.touched (outer.since.trans made.since) made.since.untouched List.not_mem_nil fun _ _ =>
    List.not_mem_nil
  made := made.earlier outer.since
  other := by
    obtain ⟨len, owned⟩ := outer.owned
    exact Nat.ne_of_lt (Nat.lt_of_lt_of_le (outer.since.handed owned) made.fresh)
  apart a member shared := absurd (outer.new a member).2 (Nat.not_lt_of_le (made.new a shared).1)

theorem Linked.grown (linked : Linked o t copy ptr source held used child target ptr' within s)
    (grown : Moved o t copy s ptr source held used u) :
    ∃ at_, Linked o t copy at_ source held used child target ptr' within u := by
  obtain ⟨at_, outer, touching, moved, kept⟩ := grown
  have apart : ∀ a ∈ within, a ≠ ptr := by
    rintro a member rfl
    exact linked.apart a List.mem_cons_self member
  refine ⟨at_, outer, ?_, linked.other, ?_, kept _ linked.accounts⟩
  · exact linked.made.touched outer.since touching (by simpa using Ne.symm linked.other) fun a member => by
      simpa using apart a member
  · refine List.forall_mem_cons.2 ⟨fun shared => ?_, fun a member => linked.apart a (List.mem_cons_of_mem ptr member)⟩
    rcases moved with rfl | later
    · exact apart _ shared rfl
    · exact absurd (linked.made.new at_ shared).2 (Nat.not_lt_of_le later)

theorem Linked.store (linked : Linked o t copy ptr source held used child target ptr' within s) (id : Int) :
    Partial o t copy ptr (source ++ [(id, .ptr target)]) (held ++ [(id, .ptr ptr')]) (used ++ within)
        (storePtr copy ⟨id, .Ptr⟩ (some (boccur ⟨id, .Ptr⟩ source)) child none s) ∧
      Accounted (ptr :: (used ++ within)) t
        (storePtr copy ⟨id, .Ptr⟩ (some (boccur ⟨id, .Ptr⟩ source)) child none s) := by
  have once : (ptr :: (used ++ within)).Nodup := by
    refine List.nodup_append.2 ⟨linked.outer.once, linked.made.once, fun a member b shared => ?_⟩
    rintro rfl
    exact linked.apart a member shared
  have stored := linked.outer.put (linked.made.copied id) once linked.made.new
  obtain ⟨place, owned, here⟩ := linked.made.owned
  have same : (s.buffer child).ptr = ptr' := by rw [buffer_of owned, here]
  unfold storePtr
  rw [same]
  exact ⟨stored.touched (stored.since.forget linked.made.fresh) (touching_forget child _) (by simpa using linked.other)
    fun _ _ => List.not_mem_nil, (linked.accounts.changeFields copy _).onHeap rfl⟩

/-- **A pointer to the copy of a target**: the copy is the clone's. -/
theorem writeValue_linked (origin : o.Since t) (id : Int) :
    Yields (Linked o t copy ptr source held used child target ptr' within)
      (writeValue copy ⟨id, .Ptr⟩ (some (boccur ⟨id, .Ptr⟩ source)) (.ptr child) true)
      (fun _ s => ∃ at_, Partial o t copy at_ (source ++ [(id, .ptr target)]) (held ++ [(id, .ptr ptr')])
        (used ++ within) s ∧ Accounted (at_ :: (used ++ within)) t s)
      (fun s => Failing o t C (s.drop copy)) := by
  have attends : Attends o (Linked o t copy ptr source held used child target ptr' within)
      fun s => Failing o t C ((s.drop child).drop copy) := Linked.attends origin
  refine orDrop_yields (B := fun s => Failing o t C ((s.drop child).drop copy)) ?_ fun s failing => failing
  refine Yields.bind (Q := fun _ => Linked o t copy ptr source held used child target ptr' within) ?_ fun _ => ?_
  · unfold checkPointerFieldWrite
    refine Yields.bind attends.called fun _ => ?_
    refine Yields.bind (Q := fun _ => Linked o t copy ptr source held used child target ptr' within)
      (Yields.throwIf (fun _ refused => ?_) fun _ _ linked => linked) fun _ =>
        Yields.throwIf (fun _ refused => ?_) fun _ _ linked => linked
    · simp at refused
    · simp at refused
  refine Yields.bind (Q := fun there s => there = boccur ⟨id, .Ptr⟩ source ∧
    Linked o t copy ptr source held used child target ptr' within s) (Yields.pure fun _ linked => ⟨rfl, linked⟩)
    fun there => Ends.ofThen fun _ => ?_
  show Yields _ (writePtr copy ⟨id, .Ptr⟩ (some (boccur ⟨id, .Ptr⟩ source)) child true) _ _
  intro now linked
  have looked : Yields (Moved o t copy now ptr source held used)
      (replacedPtr copy ⟨id, .Ptr⟩ (some (boccur ⟨id, .Ptr⟩ source)))
      (fun replaced s => Moved o t copy now ptr source held used s ∧ replaced = none)
      (fun s => Failing o t C ((s.drop child).drop copy)) := by
    rintro s ⟨at_, outer, grown⟩
    rw [replacedPtr_absent (outer.absent _)]
    exact ⟨⟨at_, outer, grown⟩, rfl⟩
  have written : Yields (Moved o t copy now ptr source held used)
      (writePtr copy ⟨id, .Ptr⟩ (some (boccur ⟨id, .Ptr⟩ source)) child true)
      (fun _ s => ∃ at_, Partial o t copy at_ (source ++ [(id, .ptr target)]) (held ++ [(id, .ptr ptr')])
        (used ++ within) s ∧ Accounted (at_ :: (used ++ within)) t s)
      (fun s => Failing o t C ((s.drop child).drop copy)) := by
    refine writing_grown origin (fun s grown loud => ?_) looked fun replaced none => ?_
    · obtain ⟨at_, moved⟩ := linked.grown grown
      exact moved.giveUp fun quiet => absurd quiet loud
    subst none
    refine Yields.modify fun s grown => ?_
    obtain ⟨at_, moved⟩ := linked.grown grown
    exact ⟨at_, moved.store id⟩
  exact written now linked.outer.grown

end Linked

end Children

end Endurox.Typed
