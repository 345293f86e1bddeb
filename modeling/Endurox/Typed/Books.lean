/-
# Typed.Books -- the owners of native buffers, counted

A buffer is owned by a value, or by the occurrence of a live UBF that stores its
address.  `Books rest s` accounts for every allocation when `rest` owns what no
live UBF does; each native operation moves an address from one side to the other,
allocates it or frees it.  `Balanced extra s` is the same with the program's values
among the owners, and `extra` for what a function has in hand.
-/
import Endurox.Theory.Ledger
import Endurox.Typed.Deletion

namespace Endurox.Typed

open Endurox.Theory

set_option autoImplicit false

namespace State

/-! ## Owners -/

/-- The live allocations. -/
def alive (s : State) : List Addr := s.heap.gather fun ptr allocation => if allocation.live then [ptr] else []

/-- What the values own. -/
def values (s : State) : List Addr := s.bufs.gather fun _ place => [place.buffer.ptr]

/-- Every live allocation has one owner, among `rest` or in a live UBF, and none was freed twice. -/
def Books (rest : List Addr) (s : State) : Prop := Ledger (rest ++ s.stored) s.alive s.freed s.next

/-- The same, with the values among the owners. -/
structure Balanced (extra : List Addr) (s : State) : Prop where
  books : s.Books (extra ++ s.values)
  fresh : ∀ id, s.nextBuf ≤ id → s.bufs.get id = none

section Books

variable {rest rest' : List Addr} {s s' : State} {p : Addr}

theorem Books.move (books : s.Books rest) (same : ∀ q, rest'.count q = rest.count q) : s.Books rest' :=
  Ledger.move books fun q => by rw [List.count_append, List.count_append, same]

theorem Books.perm (books : s.Books rest) (perm : rest'.Perm rest) : s.Books rest' :=
  books.move fun q => perm.count_eq q

/-- Only the allocations matter. -/
theorem Books.frame (books : s.Books rest) (heap : s'.heap = s.heap) (freed : s'.freed = s.freed)
    (next : s'.next = s.next) : s'.Books rest := by
  unfold Books stored alive
  rw [heap, freed, next]
  exact books

/-- Only what is read of the allocations matters. -/
theorem Books.same (books : s.Books rest) (heap : ∀ p, s'.heap.get p = s.heap.get p) (freed : s'.freed = s.freed)
    (next : s'.next = s.next) : s'.Books rest := by
  have lives : s'.alive.Perm s.alive := Table.gather_perm _ heap
  have stores : s'.stored.Perm s.stored := Table.gather_perm _ heap
  unfold Books at books ⊢
  rw [freed, next]
  exact
    { balanced := ((stores.append_left rest).trans books.balanced).trans lives.symm
      once := (lives.append_right s.freed).nodup_iff.2 books.once
      all := fun q => ((lives.append_right s.freed).mem_iff).trans (books.all q)
      positive := books.positive }

theorem mem_alive {ptr : Addr} : ptr ∈ s.alive ↔ ∃ a, s.heap.get ptr = some a ∧ a.live = true := by
  unfold alive Table.gather
  rw [List.mem_flatMap]
  constructor
  · rintro ⟨⟨key, a⟩, member, named⟩
    cases live : a.live with
    | false => simp [live] at named
    | true =>
        simp only [live, if_true, List.mem_singleton] at named
        subst named
        exact ⟨a, Table.mem_items.1 member, live⟩
  · rintro ⟨a, found, live⟩
    exact ⟨(ptr, a), Table.mem_items.2 found, by simp [live]⟩

/-- What has an owner is live. -/
theorem Books.live (books : s.Books rest) (owned : p ∈ rest) : ∃ a, s.heap.get p = some a ∧ a.live = true :=
  mem_alive.1 (Ledger.held_live books (List.mem_append_left _ owned)).1

theorem Books.named (books : s.Books rest) (owned : p ∈ rest) : 0 < p ∧ p < s.next :=
  (books.all p).1 (List.mem_append_left _ (Ledger.held_live books (List.mem_append_left _ owned)).1)

theorem Books.nodup (books : s.Books rest) : rest.Nodup := (List.nodup_append.1 (Ledger.held_nodup books)).1

theorem alive_set {a b : Allocation} (found : s.heap.get p = some a) (live : b.live = a.live) (q : Addr) :
    (s.heap.set p b |>.gather fun ptr allocation => if allocation.live then [ptr] else []).count q =
      s.alive.count q := by
  unfold alive
  rw [Table.gather_set, Table.gather_of_get _ found, live]

theorem stored_set {a b : Allocation} (found : s.heap.get p = some a) (alive : a.live = true) (live : b.live = true)
    (q : Addr) :
    (s.heap.set p b |>.gather fun _ allocation => if allocation.live then targetsIn allocation.fields else []).count q +
        (targetsIn a.fields).count q =
      s.stored.count q + (targetsIn b.fields).count q := by
  unfold stored
  rw [Table.gather_set, Table.gather_of_get _ found, alive, live]
  simp only [if_true]
  omega

/-- **Bury**: an allocation freed, what it points to is in hand. -/
theorem Books.bury (books : s.Books (p :: rest)) : (s.bury p).2.Books (s.targetsAt p ++ rest) := by
  obtain ⟨a, found, live⟩ := books.live List.mem_cons_self
  have counted : ∀ q, (rest ++ s.stored).count q = (s.targetsAt p ++ rest ++ (s.bury p).2.stored).count q := by
    intro q
    have before := bury_stored p s q
    simp only [List.count_append]
    omega
  have buried : s.alive.Perm (p :: (s.bury p).2.alive) := by
    refine List.perm_iff_count.2 fun q => ?_
    have after : (s.bury p).2.alive = (s.heap.set p { a with live := false }).gather
        fun ptr allocation => if allocation.live then [ptr] else [] := by
      unfold alive State.bury
      rw [found]
    rw [after, List.count_cons, Table.gather_set, alive, Table.gather_of_get _ found, live]
    simp only [if_true, Bool.false_eq_true, if_false, List.count_nil, List.count_singleton]
    omega
  have freed : (s.bury p).2.freed = p :: s.freed := by
    unfold State.bury
    rw [found]
  have next : (s.bury p).2.next = s.next := (bury_rest p s).1
  have ledger : Ledger (rest ++ s.stored) (s.bury p).2.alive (p :: s.freed) s.next := Ledger.free books buried
  unfold Books
  rw [freed, next]
  exact ledger.move fun q => (counted q).symm

/-- **Free**: a list of allocations in hand, with what they point to. -/
theorem Books.release : ∀ (fuel : Nat) (work : List Addr) {s : State}, work.length + s.stored.length ≤ fuel →
    s.Books (work ++ rest) → (s.release fuel work).Books rest
  | 0, work, s, enough, books => by
      have empty : work = [] := List.eq_nil_of_length_eq_zero (by omega)
      subst empty
      exact books
  | fuel + 1, [], s, _, books => books
  | fuel + 1, ptr :: work, s, enough, books => by
      have fewer := bury_stored_length ptr s
      rw [State.release, bury_targets]
      have lasts : (s.targetsAt ptr ++ work).length + (s.bury ptr).2.stored.length ≤ fuel := by
        rw [List.length_append]
        simp only [List.length_cons] at enough
        omega
      refine Books.release fuel _ lasts ?_
      rw [List.append_assoc]
      exact Books.bury books

theorem Books.tpfree (books : s.Books (p :: rest)) : (s.tpfree p).Books rest := by
  have named := (books.named List.mem_cons_self).1
  unfold State.tpfree
  rw [if_neg (Nat.ne_of_gt named)]
  have held : s.Books ([p] ++ rest) := books
  exact held.release _ [p] (Nat.le_of_eq (Nat.add_comm _ _))

theorem Books.frees : ∀ (roots : List Addr) {s : State}, s.Books (roots ++ rest) →
    (roots.foldl (fun s root => s.tpfree root) s).Books rest
  | [], _, books => books
  | _ :: roots, _, books => Books.frees roots (Books.tpfree books)

theorem eraseDups_eq_of_nodup {α : Type} [BEq α] [LawfulBEq α] : ∀ {l : List α}, l.Nodup → l.eraseDups = l
  | [], _ => rfl
  | a :: l, nodup => by
      obtain ⟨new, rest⟩ := List.nodup_cons.1 nodup
      have kept : l.filter (fun b => !b == a) = l := by
        refine List.filter_eq_self.2 fun b member => ?_
        have other : b ≠ a := fun same => new (same ▸ member)
        simpa using other
      rw [List.eraseDups_cons, kept, eraseDups_eq_of_nodup rest]

theorem Books.freeRoots {roots : List Addr} (books : s.Books (roots ++ rest)) : (s.freeRoots roots).Books rest := by
  unfold State.freeRoots
  rw [eraseDups_eq_of_nodup (List.nodup_append.1 books.nodup).1]
  exact books.frees

/-- **Rewrite**: the pointers a live buffer held change places with those it holds. -/
theorem Books.rewrite (books : s.Books rest) {a : Allocation} (found : s.heap.get p = some a) (alive : a.live = true)
    {change : Allocation → Allocation} (live : (change a).live = true)
    (same : ∀ q, rest'.count q + (targetsIn (change a).fields).count q = rest.count q + (targetsIn a.fields).count q) :
    (s.rewrite p change).Books rest' := by
  have after : s.rewrite p change = { s with heap := s.heap.set p (change a) } := by
    unfold State.rewrite
    rw [found]
  have lives := List.perm_iff_count.2 (alive_set found (live.trans alive.symm))
  have stores := stored_set (b := change a) found alive live
  rw [after]
  unfold Books at books ⊢
  refine
    { balanced := ?_
      once := ?_
      all := fun q => ?_
      positive := books.positive }
  · refine List.Perm.trans ?_ (books.balanced.trans lives.symm)
    refine List.perm_iff_count.2 fun q => ?_
    have stored : ({ s with heap := s.heap.set p (change a) } : State).stored.count q + (targetsIn a.fields).count q =
        s.stored.count q + (targetsIn (change a).fields).count q := stores q
    have moved := same q
    rw [List.count_append, List.count_append]
    omega
  · exact (lives.append_right s.freed).nodup_iff.2 books.once
  · exact ((lives.append_right s.freed).mem_iff).trans (books.all q)

/-- The bytes of a buffer own nothing. -/
theorem Books.bytes (books : s.Books rest) (ptr : Addr) {change : Allocation → Allocation}
    (fields : ∀ a, (change a).fields = a.fields) (live : ∀ a, (change a).live = a.live) :
    (s.rewrite ptr change).Books rest := by
  cases found : s.heap.get ptr with
  | none =>
      unfold State.rewrite
      rw [found]
      exact books
  | some a =>
      have after : s.rewrite ptr change = { s with heap := s.heap.set ptr (change a) } := by
        unfold State.rewrite
        rw [found]
      rw [after]
      have stored (q : Addr) : ({ s with heap := s.heap.set ptr (change a) } : State).stored.count q =
          s.stored.count q := by
        unfold State.stored
        rw [Table.gather_set, Table.gather_of_get _ found, fields, live]
      have lives := List.perm_iff_count.2 (alive_set found (live a))
      unfold Books at books ⊢
      refine
        { balanced := ?_
          once := (lives.append_right s.freed).nodup_iff.2 books.once
          all := fun q => ((lives.append_right s.freed).mem_iff).trans (books.all q)
          positive := books.positive }
      refine List.Perm.trans ?_ (books.balanced.trans lives.symm)
      exact List.perm_iff_count.2 fun q => by rw [List.count_append, List.count_append, stored]

/-- **Allocate**: what the new buffer points to is its own. -/
theorem Books.allocate {a : Allocation} (live : a.live = true) (books : s.Books (targetsIn a.fields ++ rest)) :
    (s.allocate a).2.Books (s.next :: rest) := by
  have unborn : ∀ b, s.heap.get s.next = some b → b.live = false := by
    intro b found
    by_contra alive
    have member := mem_alive.2 ⟨b, found, by simpa using alive⟩
    exact Nat.lt_irrefl _ ((books.all s.next).1 (List.mem_append_left _ member)).2
  have lives (q : Addr) : (s.heap.del s.next |>.gather fun ptr b => if b.live then [ptr] else []).count q =
      s.alive.count q := by
    unfold alive
    cases found : s.heap.get s.next with
    | none => rw [Table.del_of_get_none found]
    | some b =>
        rw [Table.gather_of_get _ found, unborn b found]
        simp
  have stores (q : Addr) :
      (s.heap.del s.next |>.gather fun _ b => if b.live then targetsIn b.fields else []).count q = s.stored.count q := by
    unfold stored
    cases found : s.heap.get s.next with
    | none => rw [Table.del_of_get_none found]
    | some b =>
        rw [Table.gather_of_get _ found, unborn b found]
        simp
  have allocated : (s.allocate a).2.alive.Perm (s.next :: s.alive) := by
    refine List.perm_iff_count.2 fun q => ?_
    have set := Table.gather_set (fun ptr b => if b.live then [ptr] else []) s.heap s.next a q
    rw [lives, live, if_pos rfl, ← List.count_append] at set
    exact set
  refine (Ledger.alloc books allocated).move fun q => ?_
  have set := Table.gather_set (fun _ b => if b.live then targetsIn b.fields else []) s.heap s.next a q
  rw [stores, live, if_pos rfl] at set
  have after : (s.allocate a).2.stored.count q = (targetsIn a.fields).count q + s.stored.count q := set
  simp only [List.count_cons, List.count_append] at after ⊢
  omega

end Books

/-! ## The program's values -/

section Balanced

variable {extra extra' : List Addr} {s s' : State} {id : BufId} {place : Place}

theorem Balanced.move (balanced : s.Balanced extra) (same : ∀ q, extra'.count q = extra.count q) :
    s.Balanced extra' :=
  ⟨balanced.books.move fun q => by rw [List.count_append, List.count_append, same], balanced.fresh⟩

theorem Balanced.perm (balanced : s.Balanced extra) (perm : extra'.Perm extra) : s.Balanced extra' :=
  balanced.move fun q => perm.count_eq q

theorem Balanced.frame (balanced : s.Balanced extra) (heap : s'.heap = s.heap) (freed : s'.freed = s.freed)
    (next : s'.next = s.next) (bufs : s'.bufs = s.bufs) (nextBuf : s'.nextBuf = s.nextBuf) : s'.Balanced extra := by
  refine ⟨?_, fun id later => ?_⟩
  · unfold values
    rw [bufs]
    exact balanced.books.frame heap freed next
  · rw [bufs]
    exact balanced.fresh id (nextBuf ▸ later)

/-- The same allocations and values, whatever is in hand. -/
theorem Balanced.heap (balanced : s.Balanced extra) (bufs : s'.bufs = s.bufs) (nextBuf : s'.nextBuf = s.nextBuf)
    (books : s.Books (extra ++ s.values) → s'.Books (extra' ++ s.values)) : s'.Balanced extra' := by
  refine ⟨?_, fun id later => ?_⟩
  · unfold values at books ⊢
    rw [bufs]
    exact books balanced.books
  · rw [bufs]
    exact balanced.fresh id (nextBuf ▸ later)

theorem Balanced.bytes (balanced : s.Balanced extra) (ptr : Addr) {change : Allocation → Allocation}
    (fields : ∀ a, (change a).fields = a.fields) (live : ∀ a, (change a).live = a.live) :
    (s.rewrite ptr change).Balanced extra :=
  balanced.heap (rewrite_rest _ _ s).2.1 (rewrite_rest _ _ s).2.2.1 fun books => books.bytes ptr fields live

theorem Balanced.allocate {a : Allocation} (balanced : s.Balanced (targetsIn a.fields ++ extra)) (live : a.live = true) :
    (s.allocate a).2.Balanced (s.next :: extra) :=
  balanced.heap rfl rfl fun books => Books.allocate live (books.perm (List.append_assoc _ _ _ ▸ .refl _))

theorem Balanced.tpfree {p : Addr} (balanced : s.Balanced (p :: extra)) : (s.tpfree p).Balanced extra :=
  balanced.heap (tpfree_rest p s).2.1 (tpfree_rest p s).2.2.1 fun books => books.tpfree

theorem freeRoots_rest (roots : List Addr) (s : State) :
    (s.freeRoots roots).bufs = s.bufs ∧ (s.freeRoots roots).nextBuf = s.nextBuf ∧
      (s.freeRoots roots).answers = s.answers := by
  unfold State.freeRoots
  induction roots.eraseDups generalizing s with
  | nil => exact ⟨rfl, rfl, rfl⟩
  | cons root roots ih =>
      have rest := tpfree_rest root s
      obtain ⟨bufs, nextBuf, answers⟩ := ih (s.tpfree root)
      exact ⟨bufs.trans rest.2.1, nextBuf.trans rest.2.2.1, answers.trans rest.2.2.2⟩

theorem Balanced.freeRoots {roots : List Addr} (balanced : s.Balanced (roots ++ extra)) :
    (s.freeRoots roots).Balanced extra :=
  balanced.heap (freeRoots_rest roots s).1 (freeRoots_rest roots s).2.1 fun books =>
    Books.freeRoots (books.perm (List.append_assoc _ _ _ ▸ .refl _))

/-- What an address in hand becomes a value of. -/
theorem Balanced.own {p : Addr} (balanced : s.Balanced (p :: extra)) (len : Nat) (wrapper : Wrapper) :
    (s.own ⟨⟨p, len⟩, wrapper⟩).2.Balanced extra := by
  refine ⟨?_, fun id later => ?_⟩
  · have counted : ∀ q, (extra ++ (s.own ⟨⟨p, len⟩, wrapper⟩).2.values).count q = (p :: extra ++ s.values).count q := by
      intro q
      have set := Table.gather_set (fun _ place => [place.buffer.ptr]) s.bufs s.nextBuf ⟨⟨p, len⟩, wrapper⟩ q
      rw [Table.del_of_get_none (balanced.fresh _ (Nat.le_refl _))] at set
      have after : (s.own ⟨⟨p, len⟩, wrapper⟩).2.values.count q = [p].count q + s.values.count q := set
      simp only [List.count_append, List.count_cons, List.count_nil] at after ⊢
      omega
    exact (balanced.books.move counted).frame rfl rfl rfl
  · have older : s.nextBuf + 1 ≤ id := later
    have other : id ≠ s.nextBuf := Nat.ne_of_gt older
    show (s.bufs.set s.nextBuf _).get id = none
    rw [Table.get_set, if_neg other]
    exact balanced.fresh id (Nat.le_of_succ_le older)

theorem values_forget (owned : s.bufs.get id = some place) (q : Addr) :
    s.values.count q = [place.buffer.ptr].count q + (s.forget id).values.count q :=
  Table.gather_of_get _ owned q

theorem Balanced.forget (balanced : s.Balanced extra) (owned : s.bufs.get id = some place) :
    (s.forget id).Balanced (place.buffer.ptr :: extra) := by
  refine ⟨?_, fun other later => ?_⟩
  · have counted : ∀ q, (place.buffer.ptr :: extra ++ (s.forget id).values).count q = (extra ++ s.values).count q := by
      intro q
      have values := values_forget owned q
      simp only [List.count_append, List.count_cons, List.count_nil] at values ⊢
      omega
    exact (balanced.books.move counted).frame rfl rfl rfl
  · show (s.bufs.del id).get other = none
    rw [Table.get_del, balanced.fresh other later]
    split <;> rfl

theorem buffer_of (owned : s.bufs.get id = some place) : s.buffer id = place.buffer := by
  unfold State.buffer
  rw [owned]

theorem buffer_none (missing : s.bufs.get id = none) : s.buffer id = ⟨0, 0⟩ := by
  unfold State.buffer
  rw [missing]

/-- **Drop**: what the value owned is freed. -/
theorem Balanced.drop (balanced : s.Balanced extra) (id : BufId) : (s.drop id).Balanced extra := by
  unfold State.drop
  cases owned : s.bufs.get id with
  | none =>
      rw [buffer_none owned]
      refine balanced.frame rfl rfl rfl ?_ rfl
      exact Table.del_of_get_none owned
  | some place =>
      rw [buffer_of owned]
      exact (balanced.forget owned).tpfree

theorem values_setBuffer (owned : s.bufs.get id = some place) (buffer : TypedBuffer) (q : Addr) :
    (s.setBuffer id buffer).values.count q + [place.buffer.ptr].count q =
      s.values.count q + [buffer.ptr].count q := by
  unfold State.setBuffer values
  rw [owned]
  have set := Table.gather_set (fun _ place => [place.buffer.ptr]) s.bufs id { place with buffer } q
  have before := Table.gather_of_get (fun _ place => [place.buffer.ptr]) owned q
  simp only at set before ⊢
  omega

theorem setBuffer_rest (id : BufId) (buffer : TypedBuffer) (s : State) :
    (s.setBuffer id buffer).heap = s.heap ∧ (s.setBuffer id buffer).freed = s.freed ∧
      (s.setBuffer id buffer).next = s.next ∧ (s.setBuffer id buffer).nextBuf = s.nextBuf ∧
      (s.setBuffer id buffer).answers = s.answers := by
  unfold State.setBuffer
  split <;> exact ⟨rfl, rfl, rfl, rfl, rfl⟩

/-- A value of one buffer becomes one of another. -/
theorem Balanced.setBuffer (owned : s.bufs.get id = some place) {buffer : TypedBuffer}
    (books : s.Books (extra ++ buffer.ptr :: (s.forget id).values))
    (fresh : ∀ id, s.nextBuf ≤ id → s.bufs.get id = none) : (s.setBuffer id buffer).Balanced extra := by
  obtain ⟨heap, freed, next, nextBuf, -⟩ := setBuffer_rest id buffer s
  refine ⟨?_, fun other later => ?_⟩
  · have counted : ∀ q, (extra ++ (s.setBuffer id buffer).values).count q =
        (extra ++ buffer.ptr :: (s.forget id).values).count q := by
      intro q
      have after := values_setBuffer owned buffer q
      have before := values_forget owned q
      simp only [List.count_append, List.count_cons, List.count_nil] at after before ⊢
      omega
    exact (books.move counted).frame heap freed next
  · rw [nextBuf] at later
    have missing := fresh other later
    unfold State.setBuffer
    rw [owned]
    show (s.bufs.set id _).get other = none
    rw [Table.get_set]
    split
    · rename_i same
      rw [same, owned] at missing
      cases missing
    · exact missing

/-- Only the length changes. -/
theorem Balanced.measured (balanced : s.Balanced extra) (id : BufId) (len : Nat) :
    (s.setBuffer id { s.buffer id with len }).Balanced extra := by
  cases owned : s.bufs.get id with
  | none =>
      unfold State.setBuffer
      rw [owned]
      exact balanced
  | some place =>
      refine Balanced.setBuffer owned (balanced.books.move fun q => ?_) balanced.fresh
      have before := values_forget owned q
      rw [buffer_of owned]
      simp only [List.count_append, List.count_cons, List.count_nil] at before ⊢
      omega

theorem Balanced.setWrapper (balanced : s.Balanced extra) (id : BufId) (wrapper : Wrapper) :
    (s.setWrapper id wrapper).Balanced extra := by
  unfold State.setWrapper
  cases owned : s.bufs.get id with
  | none => exact balanced
  | some place =>
      refine ⟨?_, fun other later => ?_⟩
      · have counted : ∀ q, (s.bufs.set id { place with wrapper } |>.gather fun _ place => [place.buffer.ptr]).count q =
            s.values.count q := by
          intro q
          unfold values
          rw [Table.gather_set, Table.gather_of_get _ owned]
        exact (balanced.books.move fun q => by rw [List.count_append, List.count_append]; exact congrArg _ (counted q)).frame
          rfl rfl rfl
      · have missing := balanced.fresh other later
        show (s.bufs.set id _).get other = none
        rw [Table.get_set]
        split
        · rename_i same
          rw [same, owned] at missing
          cases missing
        · exact missing

/-- The pointers of a value's UBF change places with those in hand. -/
theorem Balanced.fields (balanced : s.Balanced extra) (owned : s.bufs.get id = some place) {change : Fields → Fields}
    (same : ∀ q, extra'.count q + (targetsIn (change (s.fieldsOf id))).count q =
      extra.count q + (targetsIn (s.fieldsOf id)).count q) : (s.changeFields id change).Balanced extra' := by
  have member : place.buffer.ptr ∈ extra ++ s.values := by
    refine List.mem_append_right extra (List.one_le_count_iff.1 ?_)
    rw [values_forget owned, List.count_singleton_self]
    omega
  obtain ⟨a, found, live⟩ := balanced.books.live member
  have here : s.fieldsOf id = a.fields := by
    unfold State.fieldsOf State.fieldsAt
    rw [buffer_of owned, found]
  refine balanced.heap (rewrite_rest _ _ s).2.1 (rewrite_rest _ _ s).2.2.1 fun books => ?_
  unfold State.changeFields
  rw [buffer_of owned]
  refine books.rewrite found live (by exact live) fun q => ?_
  have counted := same q
  rw [here] at counted
  simp only [List.count_append]
  omega

end Balanced

end State

end Endurox.Typed
