/-
# Ubf.Heaps -- a tree of buffers as memory holds it

`Held s fields tree used` says that the fields of a UBF in memory hold the occurrences of
`tree`, each pointer leading to an allocation that holds what it points to in `tree`; `used`
are these allocations.  Where each is met once (`Holds`), how deep `tree` goes alone decides
whether `deep_clone` copies the buffer and whether `ensure_owned_tree` accepts it.
-/
import Endurox.Typed.DeepClone
import Endurox.Ubf.Shapes

namespace Endurox.Ubf

open Endurox.Theory Endurox.Typed

set_option autoImplicit false

/-! ## Levels -/

mutual

/-- How deep an occurrence nests UBFs. -/
def Datum.levels : Datum → Nat
  | .ubf fields => levels fields + 1
  | .ptrUbf fields => levels fields + 1
  | .plain _ => 0
  | .view _ _ => 0
  | .null => 0
  | .ptrView _ _ => 0
  | .ptrOther _ _ => 0

/-- How many levels of UBFs are below a buffer, embedded or pointed to. -/
def levels : List (BFLDID × Datum) → Nat
  | [] => 0
  | (_, datum) :: fields => max datum.levels (levels fields)

end

theorem levels_column {f : BFLDID} {datum : Datum} : ∀ {fields : Buffer}, datum ∈ column f fields →
    datum.levels ≤ levels fields
  | [], member => absurd member List.not_mem_nil
  | (g, other) :: fields, member => by
      rw [column_cons] at member
      rw [levels]
      split at member
      · rcases List.mem_cons.1 member with rfl | later
        · exact Nat.le_max_left _ _
        · exact Nat.le_trans (levels_column later) (Nat.le_max_right _ _)
      · exact Nat.le_trans (levels_column member) (Nat.le_max_right _ _)

/-! ## Trees in memory -/

/-- An allocation that is not a UBF, as long as its bytes, of a type and a size that can be asked for. -/
inductive Leaf (s : State) (a : Allocation) : Datum → Prop
  | view {name : String} {data : List UInt8} (type : a.typeName = "VIEW") (named : a.subtype = name)
      (measured : s.answers.viewSize name = .ok data.length) (bytes : a.bytes.take data.length = data.map some)
      (requestable : Requestable a.info data.length) : Leaf s a (.ptrView name data)
  | other {typeName : String} {bytes : List UInt8} (type : a.typeName = typeName) (ubf : typeName ≠ "UBF")
      (view : typeName ≠ "VIEW") (same : a.bytes = bytes.map some) (requestable : Requestable a.info bytes.length) :
      Leaf s a (.ptrOther typeName bytes)

/-- The fields hold the occurrences of the tree, and what they point to is in the allocations `used`. -/
inductive Held (s : State) : Fields → Buffer → List Addr → Prop
  | nil : Held s [] [] []
  | plain {f : BFLDID} {type : UbfFieldType} {inline : type ≠ .Ptr ∧ type ≠ .Ubf} {bytes : List UInt8} {rest : Fields}
      {tree : Buffer} {used : List Addr} (typed : f.type = type) (others : Held s rest tree used) :
      Held s ((f.id, .plain type inline bytes) :: rest) ((f, .plain bytes) :: tree) used
  /-- An embedded VIEW, its name and its data in its bytes. -/
  | view {f : BFLDID} {inline : UbfFieldType.View ≠ .Ptr ∧ UbfFieldType.View ≠ .Ubf} {name : String}
      {data : List UInt8} {rest : Fields} {tree : Buffer} {used : List Addr} (typed : f.type = .View)
      (others : Held s rest tree used) :
      Held s ((f.id, .plain .View inline (name.toUTF8.toList ++ 0 :: data)) :: rest) ((f, .view name data) :: tree) used
  | null {f : BFLDID} {rest : Fields} {tree : Buffer} {used : List Addr} (typed : f.type = .Ptr)
      (others : Held s rest tree used) : Held s ((f.id, .ptr 0) :: rest) ((f, .null) :: tree) used
  | embedded {f : BFLDID} {inside rest : Fields} {fields tree : Buffer} {within used : List Addr}
      (typed : f.type = .Ubf) (inner : Held s inside fields within) (others : Held s rest tree used) :
      Held s ((f.id, .ubf inside) :: rest) ((f, .ubf fields) :: tree) (within ++ used)
  | pointed {f : BFLDID} {target : Addr} {a : Allocation} {rest : Fields} {fields tree : Buffer}
      {within used : List Addr} (typed : f.type = .Ptr) (named : target ≠ 0) (found : s.heap.get target = some a)
      (live : a.live = true) (type : a.typeName = "UBF") (inner : Held s a.fields fields within)
      (others : Held s rest tree used) :
      Held s ((f.id, .ptr target) :: rest) ((f, .ptrUbf fields) :: tree) (target :: within ++ used)
  | leaf {f : BFLDID} {target : Addr} {a : Allocation} {datum : Datum} {rest : Fields} {tree : Buffer}
      {used : List Addr} (typed : f.type = .Ptr) (named : target ≠ 0) (found : s.heap.get target = some a)
      (live : a.live = true) (leaf : Leaf s a datum) (others : Held s rest tree used) :
      Held s ((f.id, .ptr target) :: rest) ((f, datum) :: tree) (target :: used)

/-- The value's UBF holds the tree, each allocation once. -/
structure Holds (s : State) (buf : BufId) (tree : Buffer) : Prop where
  root : ∃ a used, s.heap.get (s.buffer buf).ptr = some a ∧ a.live = true ∧ Held s a.fields tree used ∧
    ((s.buffer buf).ptr :: used).Nodup

section Held

variable {s : State} {a : Allocation} {datum : Datum} {fields : Fields} {tree : Buffer} {used : List Addr}
  {target : Addr}

theorem Leaf.levels (leaf : Leaf s a datum) : datum.levels = 0 := by
  cases leaf <;> rfl

theorem Leaf.type (leaf : Leaf s a datum) : a.typeName ≠ "UBF" := by
  cases leaf with
  | view type => exact type ▸ by decide
  | other type ubf => exact type ▸ ubf

theorem Leaf.canCopy (leaf : Leaf s a datum) (found : s.heap.get target = some a) (live : a.live = true)
    (path : List Addr) : s.CanCopy path target := by
  have known : s.typesOf target = some a.info := by
    unfold State.typesOf
    rw [found]
    exact if_pos live
  refine ⟨a.info, known, ?_⟩
  rw [if_neg (show a.info.typeName ≠ "UBF" from leaf.type)]
  cases leaf with
  | @view name data type named measured bytes requestable =>
      refine ⟨data.length, ?_, ?_, requestable⟩
      · unfold State.payload
        rw [if_pos (show a.info.typeName = "VIEW" from type)]
        rw [show a.info.subtype = name from named]
        exact measured
      · have length := congrArg List.length bytes
        rw [List.length_take, List.length_map] at length
        exact length ▸ Nat.min_le_right _ _
  | @other typeName bytes type ubf view same requestable =>
      have length : a.bytes.length = bytes.length := by rw [same, List.length_map]
      refine ⟨bytes.length, ?_, Nat.le_of_eq length.symm, requestable⟩
      unfold State.payload
      rw [if_neg (show ¬ a.info.typeName = "VIEW" from fun same => view (type.symm.trans same))]
      exact congrArg Except.ok length

/-! ## How deep a clone goes -/

/-- A deep clone's check, an occurrence at a time. -/
theorem clonable_cons {item : Int × FieldValue} {rest : Fields} {f : BFLDID} {fuel : Nat} {path : List Addr}
    (here : ∀ less, fuel = less + 1 →
      (Each (fun inside => Within s.Onward s.Sound less (path, inside)) (s.Reachable less path) item ↔
        datum.levels ≤ less))
    (others : Within s.Onward s.Sound fuel (path, rest) ↔ levels tree < fuel) :
    Within s.Onward s.Sound fuel (path, item :: rest) ↔ levels ((f, datum) :: tree) < fuel := by
  cases fuel with
  | zero => exact iff_of_false id (Nat.not_lt_zero _)
  | succ less =>
      rw [within_succ, List.forall_mem_cons, ← within_succ, others, here less rfl, Ubf.levels, Nat.max_lt,
        Nat.lt_succ_iff, Nat.lt_succ_iff]

/-- **A tree is cloned** where it has fewer levels than the clone may go. -/
theorem Held.clonable_iff (held : Held s fields tree used) : ∀ (fuel : Nat) (path : List Addr), used.Nodup →
    (∀ p ∈ used, p ∉ path) → (Within s.Onward s.Sound fuel (path, fields) ↔ levels tree < fuel) := by
  induction held with
  | nil =>
      intro fuel path _ _
      cases fuel with
      | zero => exact iff_of_false id (Nat.not_lt_zero _)
      | succ less =>
          rw [within_succ]
          exact iff_of_true (fun _ none => absurd none List.not_mem_nil) (Nat.succ_pos less)
  | plain _ _ ih | view _ _ ih =>
      exact fun fuel path once apart =>
        clonable_cons (fun less _ => iff_of_true trivial (Nat.zero_le less)) (ih fuel path once apart)
  | null _ _ ih =>
      exact fun fuel path once apart =>
        clonable_cons (fun less _ => iff_of_true (fun named => absurd rfl named) (Nat.zero_le less))
          (ih fuel path once apart)
  | embedded _ _ _ inner ih =>
      intro fuel path once apart
      obtain ⟨first, second, -⟩ := List.nodup_append.1 once
      refine clonable_cons (fun less _ => ?_)
        (ih fuel path second fun p member => apart p (List.mem_append_right _ member))
      exact inner less path first fun p member => apart p (List.mem_append_left _ member)
  | @pointed f target a rest fields tree within used _ named found live type _ _ inner ih =>
      intro fuel path once apart
      obtain ⟨new, once⟩ := List.nodup_cons.1 once
      obtain ⟨first, second, -⟩ := List.nodup_append.1 once
      refine clonable_cons (fun less _ => ?_) (ih fuel path second fun p member =>
        apart p (List.mem_cons_of_mem _ (List.mem_append_right _ member)))
      have deeper := inner less (target :: path) first fun p member => List.not_mem_cons_of_ne_of_not_mem
        (fun same => new (same ▸ List.mem_append_left _ member))
        (apart p (List.mem_cons_of_mem _ (List.mem_append_left _ member)))
      have known : s.typesOf target = some a.info := by
        unfold State.typesOf
        rw [found]
        exact if_pos live
      constructor
      · exact fun each => deeper.1 ((each named).2 a found live type)
      · refine fun shallow _ => ⟨⟨a.info, known, ?_⟩, fun b other _ _ => ?_⟩
        · rw [if_pos (show a.info.typeName = "UBF" from type)]
          exact apart target List.mem_cons_self
        · cases found.symm.trans other
          exact deeper.2 shallow
  | leaf _ named found live leaf _ ih =>
      intro fuel path once apart
      refine clonable_cons (fun less _ => ?_) (ih fuel path (List.nodup_cons.1 once).2 fun p member =>
        apart p (List.mem_cons_of_mem _ member))
      refine iff_of_true (fun _ => ⟨leaf.canCopy found live path, fun b other _ ubf => ?_⟩)
        (leaf.levels ▸ Nat.zero_le less)
      cases found.symm.trans other
      exact absurd ubf leaf.type

/-! ## How deep the ownership scan goes -/

theorem Held.live (held : Held s fields tree used) : ∀ p ∈ used, (s.typesOf p).isSome := by
  induction held with
  | nil => exact fun _ none => absurd none List.not_mem_nil
  | plain _ _ ih | view _ _ ih | null _ _ ih => exact ih
  | embedded _ _ _ inner ih => exact List.forall_mem_append.2 ⟨inner, ih⟩
  | pointed _ _ found live _ _ _ inner ih =>
      exact List.forall_mem_cons.2 ⟨(isUbf_made found live).1, List.forall_mem_append.2 ⟨inner, ih⟩⟩
  | leaf _ _ found live _ _ ih => exact List.forall_mem_cons.2 ⟨(isUbf_made found live).1, ih⟩

theorem isUbf_ubf (found : s.heap.get target = some a) (live : a.live = true) (type : a.typeName = "UBF") :
    s.isUbf target = true := (isUbf_made found live).2.trans (decide_eq_true type)

theorem Leaf.isUbf (leaf : Leaf s a datum) (found : s.heap.get target = some a) (live : a.live = true) :
    s.isUbf target = false := (isUbf_made found live).2.trans (decide_eq_false leaf.type)

theorem fieldsAt_found (found : s.heap.get target = some a) : s.fieldsAt target = a.fields := by
  unfold State.fieldsAt
  rw [found]

/-- The scan's depth limit, an occurrence at a time. -/
theorem scannable_cons {item : Int × FieldValue} {rest : Fields} {f : BFLDID} {fuel : Nat}
    (here : ∀ less, fuel = less + 1 → (s.within (less + 1) [item] ↔ datum.levels ≤ less))
    (others : s.within fuel rest ↔ levels tree < fuel) :
    s.within fuel (item :: rest) ↔ levels ((f, datum) :: tree) < fuel := by
  cases fuel with
  | zero => exact iff_of_false id (Nat.not_lt_zero _)
  | succ less =>
      have split : s.within (less + 1) (item :: rest) ↔ s.within (less + 1) [item] ∧ s.within (less + 1) rest := by
        simp only [State.within, List.forall_mem_cons, List.not_mem_nil, false_imp_iff, implies_true, and_true]
      rw [split, here less rfl, others, Ubf.levels, Nat.max_lt, Nat.lt_succ_iff, Nat.lt_succ_iff]

/-- **The scan accepts** as many levels as its limit, less one. -/
theorem Held.scannable_iff (held : Held s fields tree used) : ∀ fuel : Nat,
    s.within fuel fields ↔ levels tree < fuel := by
  induction held with
  | nil =>
      intro fuel
      cases fuel with
      | zero => exact iff_of_false id (Nat.not_lt_zero _)
      | succ less => exact iff_of_true (fun _ none => absurd none List.not_mem_nil) (Nat.succ_pos less)
  | plain _ _ ih | view _ _ ih =>
      refine fun fuel => scannable_cons (fun less _ => iff_of_true ?_ (Nat.zero_le less)) (ih fuel)
      exact List.forall_mem_singleton.2 trivial
  | null _ _ ih =>
      refine fun fuel => scannable_cons (fun less _ => iff_of_true ?_ (Nat.zero_le less)) (ih fuel)
      exact List.forall_mem_singleton.2 fun named => absurd rfl named
  | embedded _ _ _ inner ih =>
      refine fun fuel => scannable_cons (fun less _ => ?_) (ih fuel)
      exact List.forall_mem_singleton.trans (inner less)
  | pointed _ named found live type _ _ inner ih =>
      refine fun fuel => scannable_cons (fun less _ => ?_) (ih fuel)
      refine List.forall_mem_singleton.trans (Iff.trans ?_ (inner less))
      rw [← fieldsAt_found found]
      exact ⟨fun each => each named (isUbf_ubf found live type), fun inside _ _ => inside⟩
  | leaf _ _ found live leaf _ ih =>
      refine fun fuel => scannable_cons (fun less _ => iff_of_true ?_ (leaf.levels ▸ Nat.zero_le less)) (ih fuel)
      refine List.forall_mem_singleton.2 fun _ ubf => ?_
      rw [leaf.isUbf found live] at ubf
      cases ubf

/-- And meets each allocation. -/
theorem Held.walk (held : Held s fields tree used) : ∀ fuel : Nat, levels tree < fuel → s.walk fuel fields = used := by
  induction held with
  | nil =>
      intro fuel deep
      cases fuel with
      | zero => exact absurd deep (Nat.not_lt_zero _)
      | succ less => rfl
  | plain _ _ ih | view _ _ ih | null _ _ ih =>
      intro fuel deep
      cases fuel with
      | zero => exact absurd deep (Nat.not_lt_zero _)
      | succ less => exact ih (less + 1) (Nat.max_lt.1 deep).2
  | embedded _ _ _ inner ih =>
      intro fuel deep
      cases fuel with
      | zero => exact absurd deep (Nat.not_lt_zero _)
      | succ less =>
          obtain ⟨here, later⟩ := Nat.max_lt.1 deep
          rw [← inner less (Nat.lt_of_succ_lt_succ here), ← ih (less + 1) later]
          rfl
  | @pointed f target a rest fields tree within used _ named found live type _ _ inner ih =>
      intro fuel deep
      cases fuel with
      | zero => exact absurd deep (Nat.not_lt_zero _)
      | succ less =>
          obtain ⟨here, later⟩ := Nat.max_lt.1 deep
          show (if target = 0 then [] else target :: (if s.isUbf target then s.walk less (s.fieldsAt target) else [])) ++
            s.walk (less + 1) rest = _
          rw [if_neg named, isUbf_ubf found live type, if_pos rfl, fieldsAt_found found,
            inner less (Nat.lt_of_succ_lt_succ here), ih (less + 1) later]
  | @leaf f target a datum rest tree used _ named found live leaf _ ih =>
      intro fuel deep
      cases fuel with
      | zero => exact absurd deep (Nat.not_lt_zero _)
      | succ less =>
          show (if target = 0 then [] else target :: (if s.isUbf target then s.walk less (s.fieldsAt target) else [])) ++
            s.walk (less + 1) rest = _
          rw [if_neg named, leaf.isUbf found live, ih (less + 1) (Nat.max_lt.1 deep).2]
          rfl

end Held

/-! ## Edits -/

/-- No question to come about a buffer, a field or what is displaced fails. -/
structure Calm (answers : Answers) : Prop where
  types : ∀ failure ∈ answers.types, failure = none
  displaced : ∀ failure ∈ answers.displaced, failure = none
  present : ∀ failure ∈ answers.present, failure = none
  calls : ∀ failure ∈ answers.calls, failure = none

/-- The state some questions later. -/
def Later (s u : State) : Prop := Calm u.answers ∧ ∃ answers, u = { s with answers }

section Edits

variable {s : State} {buf : BufId} {tree : Buffer}

theorem calm_of_quiet (quiet : s.Quiet) : Calm s.answers :=
  ⟨quiet.types, quiet.displaced, quiet.truthful, quiet.calls⟩

theorem next_later {ε : Type} {queue : Queue (Option ε)} (otherwise : queue.otherwise = none)
    (answered : ∀ answers, Calm answers → ∀ failure ∈ queue.read answers, failure = none)
    (still : ∀ answers later, Calm answers → later ⊆ queue.read answers → Calm (queue.write later answers)) :
    Ends (Later s) (next queue) fun failure u => Later s u ∧ failure = none :=
  Ends.ofModifyGet fun u held => by
    obtain ⟨calm, answers, rfl⟩ := held
    cases here : queue.read answers with
    | nil => exact ⟨⟨calm, answers, rfl⟩, otherwise⟩
    | cons failure later =>
        exact ⟨⟨still answers later calm (here ▸ List.subset_cons_self failure later), _, rfl⟩,
          answered answers calm failure (here ▸ List.mem_cons_self)⟩

theorem call_later : Yields (Later s) call (fun _ => Later s) fun _ => False := by
  unfold call
  refine Yields.bind (Yields.lift (next_later rfl (fun _ calm => calm.calls) fun _ _ calm fewer =>
    ⟨calm.types, calm.displaced, calm.present, fun failure member => calm.calls failure (fewer member)⟩))
    fun failure => Ends.ofFact fun answered => ?_
  subst answered
  exact Yields.pure fun _ later => later

theorem asked_later (asked : Asked) : Ends (Later s) asked.next fun failure u => Later s u ∧ failure = none := by
  cases asked with
  | displaced => exact next_later rfl (fun _ calm => calm.displaced) fun _ _ calm fewer =>
      ⟨calm.types, fun failure member => calm.displaced failure (fewer member), calm.present, calm.calls⟩
  | scanned => exact next_later rfl (fun _ calm => calm.present) fun _ _ calm fewer =>
      ⟨calm.types, calm.displaced, fun failure member => calm.present failure (fewer member), calm.calls⟩

theorem ptrRoots_later (asked : Asked) (target : Addr) :
    Yields (Later s) (ptrRoots asked target) (fun _ => Later s) fun _ => False := by
  unfold ptrRoots
  refine Yields.bind (Yields.lift (asked_later asked)) fun failure => Ends.ofFact fun answered => ?_
  subst answered
  exact Yields.bind call_later fun _ => Yields.pure fun _ later => later

/-- The roots of an embedded UBF are collected where the scan would accept as many levels. -/
theorem collectRoots_later (asked : Asked) : ∀ (shallow fuel : Nat) (fields : Fields), shallow ≤ fuel →
    s.within shallow fields → Yields (Later s) (collectRoots asked fuel fields) (fun _ => Later s) fun _ => False
  | 0, _, _, _, impossible => impossible.elim
  | shallow + 1, 0, _, fewer, _ => absurd fewer (Nat.not_succ_le_zero _)
  | shallow + 1, fuel + 1, fields, fewer, within => by
      rw [collectRoots_succ]
      have loop : ∀ (fields : Fields) (before : List Addr), s.within (shallow + 1) fields →
          Yields (Later s) (fields.foldlM (addRoots asked fuel) before) (fun _ => Later s) fun _ => False := by
        intro fields
        induction fields with
        | nil => exact fun _ _ => Yields.pure fun _ later => later
        | cons item fields ih =>
            intro before within
            obtain ⟨first, others⟩ := List.forall_mem_cons.1 within
            rw [List.foldlM_cons]
            refine Yields.bind (Q := fun _ => Later s) ?_ fun roots => ih roots others
            unfold addRoots
            refine Yields.bind call_later fun _ => ?_
            obtain ⟨id, value⟩ := item
            cases value with
            | plain type inline bytes => exact Yields.pure fun _ later => later
            | ptr target => exact Yields.bind (ptrRoots_later asked target) fun _ => Yields.pure fun _ later => later
            | ubf nested =>
                exact Yields.bind call_later fun _ => Yields.bind (collectRoots_later asked shallow fuel nested
                  (Nat.le_of_succ_le_succ fewer) first) fun _ => Yields.pure fun _ later => later
      exact loop fields [] within

theorem within_found {fields nested : Fields} {shallow : Nat} {f : BFLDID} {occ : Nat}
    (within : s.within (shallow + 1) fields) (found : bfind f occ fields = some (.ubf nested)) :
    s.within shallow nested := by
  obtain ⟨item, member, same⟩ := List.mem_map.1 (List.mem_of_getElem? found)
  have here := within item (List.mem_of_mem_filter member)
  rw [same] at here
  exact here

theorem ownedFieldRoots_later {fields : Fields} (within : s.within 128 fields) (f : BFLDID) (occ : Nat) :
    Yields (Later s) (ownedFieldRoots .displaced f occ fields) (fun _ => Later s) fun _ => False := by
  unfold ownedFieldRoots
  cases found : bfind f occ fields with
  | none => exact Yields.pure fun _ later => later
  | some value =>
      cases value with
      | ptr target => exact ptrRoots_later .displaced target
      | plain type inline bytes =>
          refine Yields.bind (Yields.lift (asked_later .displaced)) fun failure => Ends.ofFact fun answered => ?_
          subst answered
          exact Yields.bind call_later fun _ => Yields.pure fun _ later => later
      | ubf nested =>
          refine Yields.bind (Yields.lift (asked_later .displaced)) fun failure => Ends.ofFact fun answered => ?_
          subst answered
          exact Yields.bind call_later fun _ =>
            collectRoots_later .displaced 127 129 nested (by decide) (within_found within found)

theorem Later.asks {u : State} (later : Later s u) : s.Asks u :=
  ⟨⟨later.1.calls, later.1.present, later.1.types⟩, later.2⟩

end Edits

/-! ## What the limits decide -/

section Holds

variable {s : State} {buf : BufId} {tree : Buffer}

/-- **A deep clone of a tree** succeeds where it has fewer than 128 levels below the root. -/
theorem Holds.cloned_iff (holds : Holds s buf tree) (settled : s.Settled) (quiet : s.Quiet) :
    (∃ copy s', (deepClone buf).run.run s = (.ok copy, s')) ↔ levels tree < 128 := by
  obtain ⟨a, used, found, -, held, once⟩ := holds.root
  obtain ⟨new, once⟩ := List.nodup_cons.1 once
  rw [deepClone_runs_iff settled quiet, State.fieldsOf, fieldsAt_found found]
  exact held.clonable_iff 128 _ once fun p member same => new (List.mem_singleton.1 same ▸ member)

/-- **The ownership scan accepts a tree** of as many levels. -/
theorem Holds.owned_iff (holds : Holds s buf tree) {u : State} (asked : s.Asks u) :
    ((ensureOwnedTree buf).run.run u).1 = .ok ⟨⟩ ↔ levels tree < 128 := by
  obtain ⟨a, used, found, -, held, once⟩ := holds.root
  rw [State.ensureOwnedTree_ok asked, State.fieldsOf, fieldsAt_found found, held.scannable_iff]
  refine ⟨fun accepted => accepted.1.1, fun shallow => ?_⟩
  rw [held.walk 128 shallow]
  exact ⟨⟨shallow, held.live⟩, (List.perm_append_singleton _ used).nodup_iff.2 once⟩

/-- And so does every edit that replaces or deletes an occurrence. -/
theorem Holds.displaced (holds : Holds s buf tree) (quiet : s.Quiet) (shallow : levels tree < 128) (f : BFLDID)
    (occ : Nat) : ∃ roots, ((displacedRoots buf f occ).run.run s).1 = .ok roots := by
  have within : s.within 128 (s.fieldsOf buf) := by
    obtain ⟨a, used, found, -, held, -⟩ := holds.root
    rw [State.fieldsOf, fieldsAt_found found]
    exact (held.scannable_iff 128).2 shallow
  have accepted : Yields (Later s) (ensureOwnedTree buf) (fun _ _ => True) fun _ => False := by
    intro u later
    rw [(holds.owned_iff later.asks).2 shallow]
    trivial
  have yields : Yields (· = s) (displacedRoots buf f occ) (fun _ _ => True) fun _ => False := by
    refine Yields.read fun now same => ?_
    subst same
    refine Yields.bind ((ownedFieldRoots_later within f occ).mono (fun u same => ?_) (fun _ _ later => later)
      fun _ impossible => impossible) fun roots => ?_
    · subst same
      exact ⟨calm_of_quiet quiet, u.answers, rfl⟩
    · exact Yields.bind (Q := fun _ _ => True) (Yields.runIf (fun _ => accepted) fun _ _ _ => trivial) fun _ =>
        Yields.pure fun _ _ => trivial
  have ended := yields s rfl
  cases result : ((displacedRoots buf f occ).run.run s).1 with
  | ok roots => exact ⟨roots, rfl⟩
  | error e =>
      rw [result] at ended
      exact ended.elim

end Holds

end Endurox.Ubf
