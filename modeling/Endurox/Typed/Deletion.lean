/-
# Typed.Deletion -- what a deleted occurrence takes with it

Freeing a UBF frees what its pointers name, and so on down.  `ensure_owned_tree`
walks the whole graph first: where it accepts, one occurrence alone leads to every
target, so what the deleted occurrence's roots reach is nowhere under what remains
(`owned_deletion_spares`).  The walk that it makes is `walk`, and `within` is the
depth it allows.
-/
import Endurox.Theory.Forest
import Endurox.Typed.Complex

namespace Endurox.Typed

open Endurox.Theory

set_option autoImplicit false

namespace State

/-- The targets of a buffer while it lives, each occurrence for itself. -/
def targetsAt (s : State) (ptr : Addr) : List Addr :=
  match s.heap.get ptr with
  | some allocation => if allocation.live then targetsIn allocation.fields else []
  | none => []

/-! ## What native code frees -/

theorem bury_targets (ptr : Addr) (s : State) : (s.bury ptr).1 = s.targetsAt ptr := by
  unfold bury targetsAt
  cases s.heap.get ptr <;> rfl

theorem targetsAt_bury (ptr addr : Addr) (s : State) :
    (s.bury ptr).2.targetsAt addr = if addr = ptr then [] else s.targetsAt addr := by
  unfold targetsAt
  rw [get_bury]
  by_cases same : addr = ptr
  · rw [if_pos same, if_pos same]
    cases s.heap.get ptr <;> rfl
  · rw [if_neg same, if_neg same]

theorem bury_stored (ptr : Addr) (s : State) (p : Addr) :
    (s.bury ptr).2.stored.count p + (s.targetsAt ptr).count p = s.stored.count p := by
  unfold targetsAt bury stored
  cases found : s.heap.get ptr with
  | none => simp
  | some allocation =>
      have before := Table.gather_of_get
        (f := fun _ allocation => if allocation.live then targetsIn allocation.fields else []) found p
      have after := Table.gather_set
        (f := fun _ allocation => if allocation.live then targetsIn allocation.fields else [])
        s.heap ptr { allocation with live := false } p
      simp only [Bool.false_eq_true, if_false, List.count_nil, Nat.zero_add] at after
      show List.count p (Table.gather _ _) + List.count p (if allocation.live then _ else _) = _
      rw [after, before]
      omega

theorem bury_stored_length (ptr : Addr) (s : State) :
    (s.bury ptr).2.stored.length + (s.targetsAt ptr).length = s.stored.length := by
  have perm : ((s.bury ptr).2.stored ++ s.targetsAt ptr).Perm s.stored :=
    List.perm_iff_count.2 fun p => by rw [List.count_append, bury_stored]
  rw [← perm.length_eq, List.length_append]

theorem bury_freed (ptr p : Addr) (s : State) : p ∈ (s.bury ptr).2.freed ↔ p = ptr ∨ p ∈ s.freed := by
  unfold bury
  cases s.heap.get ptr <;> exact List.mem_cons

/-- **The cascade** frees what its pointers reach, and changes no other buffer. -/
theorem release_spec : ∀ (fuel : Nat) (work : List Addr) (s : State),
    work.length + s.stored.length ≤ fuel →
      (∀ p, p ∈ (s.release fuel work).freed ↔ Reached s.targetsAt work p ∨ p ∈ s.freed) ∧
      (∀ p, (s.release fuel work).targetsAt p ⊆ s.targetsAt p) ∧
      ∀ p, ¬ Reached s.targetsAt work p → (s.release fuel work).targetsAt p = s.targetsAt p
  | 0, work, s, enough => by
      have empty : work = [] := List.eq_nil_of_length_eq_zero (by omega)
      subst empty
      exact ⟨fun p => (or_iff_right (not_reached_nil p)).symm, fun _ => List.Subset.refl _, fun _ _ => rfl⟩
  | fuel + 1, [], s, _ =>
      ⟨fun p => (or_iff_right (not_reached_nil p)).symm, fun _ => List.Subset.refl _, fun _ _ => rfl⟩
  | fuel + 1, ptr :: rest, s, enough => by
      have fewer := bury_stored_length ptr s
      rw [release, bury_targets]
      have lasts : (s.targetsAt ptr ++ rest).length + (s.bury ptr).2.stored.length ≤ fuel := by
        rw [List.length_append]
        simp only [List.length_cons] at enough
        omega
      have later := release_spec fuel (s.targetsAt ptr ++ rest) (s.bury ptr).2 lasts
      have cut : (s.bury ptr).2.targetsAt = fun addr => if addr = ptr then [] else s.targetsAt addr :=
        funext fun addr => targetsAt_bury ptr addr s
      rw [cut] at later
      have visit (p : Addr) : Reached s.targetsAt (ptr :: rest) p ↔ p = ptr ∨
          Reached (fun addr => if addr = ptr then [] else s.targetsAt addr) (s.targetsAt ptr ++ rest) p :=
        reached_visit
      refine ⟨fun p => ?_, fun p => ?_, fun p unreached => ?_⟩
      · have freed := later.1 p
        rw [bury_freed] at freed
        rw [visit p]
        refine freed.trans ?_
        constructor
        · rintro (reached | rfl | before)
          · exact .inl (.inr reached)
          · exact .inl (.inl rfl)
          · exact .inr before
        · rintro ((rfl | reached) | before)
          · exact .inr (.inl rfl)
          · exact .inl reached
          · exact .inr (.inr before)
      · refine List.Subset.trans (later.2.1 p) ?_
        show (if p = ptr then [] else s.targetsAt p) ⊆ s.targetsAt p
        split
        · exact List.nil_subset _
        · exact List.Subset.refl _
      · rw [visit p, not_or] at unreached
        exact (later.2.2 p unreached.2).trans (if_neg unreached.1)

theorem tpfree_spec {ptr : Addr} (named : ptr ≠ 0) (s : State) :
    (∀ p, p ∈ (s.tpfree ptr).freed ↔ Reached s.targetsAt [ptr] p ∨ p ∈ s.freed) ∧
      (∀ p, (s.tpfree ptr).targetsAt p ⊆ s.targetsAt p) ∧
      ∀ p, ¬ Reached s.targetsAt [ptr] p → (s.tpfree ptr).targetsAt p = s.targetsAt p := by
  unfold tpfree
  rw [if_neg named]
  exact release_spec _ _ s (Nat.le_of_eq (Nat.add_comm _ _))

theorem frees_spec : ∀ (roots : List Addr) (s : State), (∀ root ∈ roots, root ≠ 0) → ∀ p,
    p ∈ (roots.foldl (fun s root => s.tpfree root) s).freed ↔ Reached s.targetsAt roots p ∨ p ∈ s.freed
  | [], s, _, p => (or_iff_right (not_reached_nil p)).symm
  | root :: roots, s, named, p => by
      obtain ⟨freed, fewer, kept⟩ := tpfree_spec (named root List.mem_cons_self) s
      rw [List.foldl_cons, frees_spec roots (s.tpfree root) (fun r member => named r (List.mem_cons_of_mem root member)),
        freed]
      have both : Reached s.targetsAt ([root] ++ roots) p ↔
          Reached s.targetsAt [root] p ∨ Reached s.targetsAt roots p := reached_append
      rw [show root :: roots = [root] ++ roots from rfl, both]
      constructor
      · rintro (reached | reached | before)
        · exact .inl (.inr (reached.subgraph fewer))
        · exact .inl (.inl reached)
        · exact .inr before
      · rintro ((reached | reached) | before)
        · exact .inr (.inl reached)
        · exact (reached.cut kept).elim (fun first => .inr (.inl first)) .inl
        · exact .inr (.inr before)

end State

/-! ## The roots found -/

/-- Every root found is one of these, each occurrence at most once. -/
def Finds (targets : List Addr) (m : UbfM (List Addr)) : Prop :=
  ∀ s roots, (m.run.run s).1 = .ok roots → roots.Sublist targets

section Finds

variable {targets : List Addr}

theorem finds_pure {roots : List Addr} (sublist : roots.Sublist targets) : Finds targets (pure roots) := by
  intro s found same
  cases same
  exact sublist

theorem Finds.bind {α : Type} {m : UbfM α} {f : α → UbfM (List Addr)} {Q : α → Prop}
    (first : ∀ s a, (m.run.run s).1 = .ok a → Q a) (rest : ∀ a, Q a → Finds targets (f a)) :
    Finds targets (m >>= f) := by
  intro s roots found
  rcases ran : m.run.run s with ⟨e | a, t⟩
  · rw [run_tryBind_error ran] at found
    cases found
  · rw [run_tryBind_ok ran] at found
    exact rest a (first s a (by rw [ran])) t roots found

theorem Finds.after {α : Type} {m : UbfM α} {f : α → UbfM (List Addr)} (rest : ∀ a, Finds targets (f a)) :
    Finds targets (m >>= f) := Finds.bind (Q := fun _ => True) (fun _ _ _ => trivial) fun a _ => rest a

theorem ptrRoots_finds (asked : Asked) (target : Addr) :
    Finds (FieldValue.ptr target).targets (ptrRoots asked target) :=
  Finds.after fun failure => match failure with
    | some _ => finds_pure (List.nil_sublist _)
    | none => Finds.after fun _ => finds_pure (List.Sublist.refl _)

theorem collectRoots_finds (asked : Asked) : ∀ (fuel : Nat) (fields : Fields),
    Finds (targetsIn fields) (collectRoots asked fuel fields)
  | 0, _ => fun _ _ impossible => nomatch impossible
  | fuel + 1, fields => by
      rw [collectRoots_succ]
      have loop : ∀ (fields : Fields) (before held : List Addr), before.Sublist held →
          Finds (held ++ targetsIn fields) (fields.foldlM (addRoots asked fuel) before) := by
        intro fields
        induction fields with
        | nil => exact fun before held among => finds_pure (by simpa using among)
        | cons item fields ih =>
            obtain ⟨id, value⟩ := item
            intro before held among
            rw [List.foldlM_cons, targetsIn_cons, ← List.append_assoc]
            have first : Finds (held ++ value.targets) (addRoots asked fuel before (id, value)) := by
              refine Finds.after fun _ => ?_
              cases value with
              | plain type inline bytes => exact finds_pure (by simpa using among)
              | ptr target =>
                  exact Finds.bind (ptrRoots_finds asked target) fun more found => finds_pure (among.append found)
              | ubf nested =>
                  exact Finds.after fun _ => Finds.bind (collectRoots_finds asked fuel nested) fun more found =>
                    finds_pure (among.append found)
            exact Finds.bind first fun roots among => ih roots _ among
      exact loop fields [] [] (List.Sublist.refl _)

/-- The roots of an occurrence are among the pointers it holds, whatever the native layer answers. -/
theorem ownedFieldRoots_finds (asked : Asked) (f : BFLDID) (occ : Nat) (fields : Fields) :
    Finds ((bfind f occ fields).elim [] FieldValue.targets) (ownedFieldRoots asked f occ fields) := by
  unfold ownedFieldRoots
  cases bfind f occ fields with
  | none => exact finds_pure (List.nil_sublist _)
  | some value =>
      cases value with
      | ptr target => exact ptrRoots_finds asked target
      | ubf nested =>
          exact Finds.after fun failure => match failure with
            | some _ => finds_pure (List.nil_sublist _)
            | none => Finds.after fun _ => collectRoots_finds asked 129 nested
      | plain type inline bytes =>
          exact Finds.after fun failure => match failure with
            | some _ => finds_pure (List.nil_sublist _)
            | none => Finds.after fun _ => finds_pure (List.nil_sublist _)

end Finds

namespace State

/-! ## The walk of the graph -/

/-- The buffer is a UBF. -/
def isUbf (ptr : Addr) (s : State) : Bool :=
  match s.typesOf ptr with
  | some info => info.typeName = "UBF"
  | none => false

/-- Every target `unique_targets` comes to, in order, down to where it stops. -/
def walk (s : State) : Nat → Fields → List Addr
  | 0, _ => []
  | fuel + 1, fields => fields.flatMap fun item => match item.2 with
      | .ptr target =>
          if target = 0 then []
          else target :: (if s.isUbf target then s.walk fuel (s.fieldsAt target) else [])
      | .ubf nested => s.walk fuel nested
      | .plain .. => []

/-- Its depth limit: fewer than `fuel` levels below these fields, of embedding or of pointers. -/
def within (s : State) : Nat → Fields → Prop
  | 0, _ => False
  | fuel + 1, fields => ∀ item ∈ fields, match item.2 with
      | .ptr target => target ≠ 0 → s.isUbf target → s.within fuel (s.fieldsAt target)
      | .ubf nested => s.within fuel nested
      | .plain .. => True

/-- The targets under a value are live buffers, and only a UBF holds pointers. -/
structure BufferGraph (id : BufId) (s : State) : Prop where
  root : (s.typesOf (s.buffer id).ptr).isSome
  live : ∀ p, Reached s.targetsAt (s.targetsAt (s.buffer id).ptr) p → (s.typesOf p).isSome
  plain : ∀ p, s.isUbf p = false → s.targetsAt p = []

theorem targetsAt_fieldsAt {ptr : Addr} {s : State} (live : (s.typesOf ptr).isSome) :
    s.targetsAt ptr = targetsIn (s.fieldsAt ptr) := by
  unfold typesOf at live
  unfold targetsAt fieldsAt
  cases found : s.heap.get ptr with
  | none => simp [found] at live
  | some allocation =>
      cases alive : allocation.live with
      | false => simp [found, alive] at live
      | true => simp [alive]

theorem isUbf_live {ptr : Addr} {s : State} (ubf : s.isUbf ptr = true) : (s.typesOf ptr).isSome := by
  unfold isUbf at ubf
  cases known : s.typesOf ptr with
  | none => simp [known] at ubf
  | some => rfl

/-- Within its depth limit, the walk follows every occurrence. -/
theorem walk_walks {s : State} (plain : ∀ p, s.isUbf p = false → s.targetsAt p = []) :
    ∀ (fuel : Nat) (fields : Fields), s.within fuel fields →
      Walks s.targetsAt (targetsIn fields) (s.walk fuel fields)
  | 0, _, within => within.elim
  | fuel + 1, fields, within => by
      induction fields with
      | nil => exact .nil
      | cons item fields ih =>
          obtain ⟨id, value⟩ := item
          have rest := ih fun item member => within item (List.mem_cons_of_mem _ member)
          have first := within (id, value) List.mem_cons_self
          rw [targetsIn_cons]
          refine Walks.append ?_ rest
          cases value with
          | plain type inline bytes => exact .nil
          | ubf nested => exact walk_walks plain fuel nested first
          | ptr target =>
              rw [targets_ptr]
              by_cases null : target = 0
              · simp only [null, if_true]
                exact .nil
              · simp only [null, if_false]
                have under : Walks s.targetsAt (s.targetsAt target)
                    (if s.isUbf target then s.walk fuel (s.fieldsAt target) else []) := by
                  cases ubf : s.isUbf target with
                  | false =>
                      rw [plain target ubf]
                      exact .nil
                  | true =>
                      rw [targetsAt_fieldsAt (isUbf_live ubf)]
                      exact walk_walks plain fuel _ (first null ubf)
                simpa using Walks.cons under .nil

/-! ## Native calls that answer -/

/-- No native call about a buffer or its fields fails. -/
def Answering (s : State) : Prop :=
  (∀ failure ∈ s.answers.calls, failure = none) ∧ (∀ failure ∈ s.answers.present, failure = none) ∧
    ∀ failure ∈ s.answers.types, failure = none

/-- The state some questions later. -/
def Asks (s t : State) : Prop := t.Answering ∧ ∃ answers, t = { s with answers }

theorem Asks.trans {s t u : State} (first : s.Asks t) (second : t.Asks u) : s.Asks u := by
  obtain ⟨_, answers, rfl⟩ := first
  obtain ⟨answering, answers', rfl⟩ := second
  exact ⟨answering, answers', rfl⟩

/-- The code ends like this, having only asked. -/
def Runs {α : Type} (s : State) (m : UbfM α) (result : Except UbfError α) : Prop :=
  ∃ t, m.run.run s = (result, t) ∧ s.Asks t

section Runs

variable {α β : Type} {s : State}

theorem Runs.bind {m : UbfM α} {f : α → UbfM β} {a : α} {result : Except UbfError β} (first : s.Runs m (.ok a))
    (rest : ∀ t, s.Asks t → t.Runs (f a) result) : s.Runs (m >>= f) result := by
  obtain ⟨t, ran, asked⟩ := first
  obtain ⟨u, ran', asked'⟩ := rest t asked
  exact ⟨u, (run_tryBind_ok ran).trans ran', asked.trans asked'⟩

theorem Runs.fail {m : UbfM α} {f : α → UbfM β} {e : UbfError} (first : s.Runs m (.error e)) :
    s.Runs (m >>= f) (.error e) := by
  obtain ⟨t, ran, asked⟩ := first
  exact ⟨t, run_tryBind_error ran, asked⟩

omit s in
theorem next_cases {α : Type} (queue : Queue α) (s : State) :
    (queue.read s.answers = [] ∧ (Typed.next queue).run s = (queue.otherwise, s)) ∨
    ∃ answer later, queue.read s.answers = answer :: later ∧
      (Typed.next queue).run s = (answer, { s with answers := queue.write later s.answers }) := by
  simp only [Typed.next, StateT.run, modifyGet, MonadStateOf.modifyGet, StateT.modifyGet]
  cases here : queue.read s.answers with
  | nil => exact .inl ⟨rfl, rfl⟩
  | cons answer later => exact .inr ⟨answer, later, rfl, rfl⟩

/-- A call whose answers all are successes gets one. -/
theorem runs_next {ε : Type} {queue : Queue (Option ε)} (answering : s.Answering) (otherwise : queue.otherwise = none)
    (answered : ∀ failure ∈ queue.read s.answers, failure = none)
    (still : ∀ later, later ⊆ queue.read s.answers →
      ({ s with answers := queue.write later s.answers } : State).Answering) :
    ∃ t, (Typed.next queue).run s = (none, t) ∧ s.Asks t := by
  rcases next_cases queue s with ⟨_, ran⟩ | ⟨answer, later, here, ran⟩
  · exact ⟨s, otherwise ▸ ran, answering, s.answers, rfl⟩
  · rw [answered answer (here ▸ List.mem_cons_self)] at ran
    exact ⟨_, ran, still later (here ▸ List.subset_cons_self answer later), _, rfl⟩

theorem runs_nextCall (answering : s.Answering) : ∃ t, nextCall.run s = (none, t) ∧ s.Asks t :=
  runs_next answering rfl answering.1 fun _ fewer => ⟨fun failure member => answering.1 failure (fewer member), answering.2⟩

theorem runs_nextPresent (answering : s.Answering) : ∃ t, nextPresent.run s = (none, t) ∧ s.Asks t :=
  runs_next answering rfl answering.2.1 fun _ fewer =>
    ⟨answering.1, fun failure member => answering.2.1 failure (fewer member), answering.2.2⟩

theorem runs_nextTypes (answering : s.Answering) : ∃ t, nextTypes.run s = (none, t) ∧ s.Asks t :=
  runs_next answering rfl answering.2.2 fun _ fewer =>
    ⟨answering.1, answering.2.1, fun failure member => answering.2.2 failure (fewer member)⟩

/-- An answer taken inside a fallible action. -/
theorem run_lift {m : StateM State α} {a : α} {t : State} (ran : m.run s = (a, t)) :
    (liftM m : Fallible UbfError State α).run.run s = (.ok a, t) := by
  rw [show (liftM m : Fallible UbfError State α).run.run s = (.ok (m.run s).1, (m.run s).2) from rfl, ran]

theorem runs_call (answering : s.Answering) : s.Runs call (.ok ⟨⟩) := by
  obtain ⟨t, ran, asked⟩ := runs_nextCall answering
  exact ⟨t, run_tryBind_ok (run_lift ran), asked⟩

theorem runs_ptrRoots (answering : s.Answering) (target : Addr) :
    s.Runs (ptrRoots .scanned target) (.ok (if target = 0 then [] else [target])) := by
  obtain ⟨t, ran, asked⟩ := runs_nextPresent answering
  refine Runs.bind ⟨t, run_lift ran, asked⟩ fun u asked => ?_
  exact Runs.bind (runs_call asked.1) fun v asked => ⟨v, rfl, asked.1, v.answers, rfl⟩

theorem runs_tptypes (answering : s.Answering) (ptr : Addr) :
    s.Runs (allocating (tptypes ptr)) ((s.typesOf ptr).elim (.error (allocationError notABuffer)) .ok) := by
  obtain ⟨t, ran, asked⟩ := runs_nextTypes answering
  refine ⟨t, ?_, asked⟩
  obtain ⟨_, answers, rfl⟩ := asked
  have types : (tptypes ptr).run.run s = ((s.typesOf ptr).elim (.error notABuffer) .ok, { s with answers }) := by
    have asking : (liftM nextTypes : AtmiM (Option AtmiError)).run.run s = (.ok none, { s with answers }) := by
      rw [show (liftM nextTypes : AtmiM (Option AtmiError)).run.run s =
        (.ok (nextTypes.run s).1, (nextTypes.run s).2) from rfl, ran]
    refine (run_tryBind_ok asking).trans ?_
    have reading : (get : AtmiM State).run.run { s with answers } = (.ok { s with answers }, { s with answers }) := rfl
    refine (run_tryBind_ok reading).trans ?_
    have same : ({ s with answers } : State).typesOf ptr = s.typesOf ptr := rfl
    rw [same]
    cases s.typesOf ptr <;> rfl
  have outcome : (liftM (tptypes ptr).run : UbfM (Except AtmiError TpTypeInfo)).run.run s =
      (.ok ((s.typesOf ptr).elim (.error notABuffer) .ok), { s with answers }) := run_lift types
  refine (run_tryBind_ok outcome).trans ?_
  cases s.typesOf ptr <;> rfl

end Runs

/-! ## What `unique_targets` accepts -/

/-- A search of fields: it accepts when they are `good` and its walk is of new targets only. -/
def Visits (s : State) (m : UbfM (List Addr)) (good : Prop) (walk seen : List Addr) : Prop :=
  ∃ result, s.Runs m result ∧
    ∀ seen', result = .ok seen' ↔ good ∧ (walk ++ seen).Nodup ∧ seen' = walk.reverse ++ seen

section Visits

variable {s t : State}

theorem Visits.after {good : Prop} {walk seen : List Addr} {α : Type} {first : UbfM α} {a : α}
    {f : α → UbfM (List Addr)} (ran : s.Runs first (.ok a))
    (rest : ∀ t, s.Asks t → t.Visits (f a) good walk seen) : s.Visits (first >>= f) good walk seen := by
  obtain ⟨t, ran, asked⟩ := ran
  obtain ⟨result, ⟨u, ran', asked'⟩, accepts⟩ := rest t asked
  exact ⟨result, ⟨u, (run_tryBind_ok ran).trans ran', asked.trans asked'⟩, accepts⟩

theorem visits_nothing (answering : s.Answering) {seen : List Addr} (nodup : seen.Nodup) :
    s.Visits (pure seen) True [] seen :=
  ⟨.ok seen, ⟨s, rfl, answering, s.answers, rfl⟩, fun _ =>
    ⟨fun same => ⟨trivial, nodup, (Except.ok.inj same).symm⟩, fun ⟨_, _, same⟩ => congrArg Except.ok same.symm⟩⟩

theorem Visits.mono {m : UbfM (List Addr)} {good good' : Prop} {walk seen : List Addr}
    (visits : s.Visits m good walk seen) (same : good ↔ good') : s.Visits m good' walk seen := by
  obtain ⟨result, ran, accepts⟩ := visits
  exact ⟨result, ran, fun seen' => by rw [accepts seen', same]⟩

/-- One search after another. -/
theorem Visits.bind {m : UbfM (List Addr)} {f : List Addr → UbfM (List Addr)} {good good' : Prop}
    {walk walk' seen : List Addr} (first : s.Visits m good walk seen)
    (rest : ∀ t, s.Asks t → (walk.reverse ++ seen).Nodup → t.Visits (f (walk.reverse ++ seen)) good' walk'
      (walk.reverse ++ seen)) :
    s.Visits (m >>= f) (good ∧ good') (walk ++ walk') seen := by
  have perm : (walk ++ walk' ++ seen).Perm (walk' ++ (walk.reverse ++ seen)) := by
    refine (List.perm_append_comm.append_right seen).trans ?_
    rw [List.append_assoc]
    exact (List.reverse_perm walk).symm.append_right seen |>.append_left walk'
  have seenFirst : (walk.reverse ++ seen).Perm (walk ++ seen) := (List.reverse_perm walk).append_right seen
  obtain ⟨result, ⟨t, ran, asked⟩, accepts⟩ := first
  cases result with
  | error e =>
      refine ⟨.error e, Runs.fail ⟨t, ran, asked⟩, fun _ => ⟨nofun, fun ⟨⟨met, _⟩, nodup, _⟩ => ?_⟩⟩
      have fresh : (walk ++ seen).Nodup := (seenFirst.nodup_iff.1 (perm.nodup_iff.1 nodup).of_append_right)
      cases (accepts _).2 ⟨met, fresh, rfl⟩
  | ok seen₁ =>
      obtain ⟨met, fresh, rfl⟩ := (accepts seen₁).1 rfl
      obtain ⟨result', ⟨u, ran', asked'⟩, accepts'⟩ := rest t asked (seenFirst.nodup_iff.2 fresh)
      refine ⟨result', ⟨u, (run_tryBind_ok ran).trans ran', asked.trans asked'⟩, fun all => ?_⟩
      rw [accepts' all, perm.nodup_iff, List.reverse_append, List.append_assoc]
      exact ⟨fun ⟨met', rest⟩ => ⟨⟨met, met'⟩, rest⟩, fun ⟨⟨_, met'⟩, rest⟩ => ⟨met', rest⟩⟩

/-- A search of a list, an item at a time. -/
theorem visits_each {α : Type} {f : List Addr → α → UbfM (List Addr)} (good : α → Prop) {walk : α → List Addr}
    (each : ∀ item t seen, s.Asks t → seen.Nodup → t.Visits (f seen item) (good item) (walk item) seen) :
    ∀ (items : List α) (t : State) (seen : List Addr), s.Asks t → seen.Nodup →
      t.Visits (items.foldlM f seen) (∀ item ∈ items, good item) (items.flatMap walk) seen
  | [], t, seen, asked, nodup => (visits_nothing asked.1 nodup).mono (by simp)
  | item :: items, t, seen, asked, nodup => by
      rw [List.foldlM_cons, List.flatMap_cons]
      refine Visits.mono (Visits.bind (each item t seen asked nodup) fun u asked' fresh =>
        visits_each good each items u _ (asked.trans asked') fresh) ?_
      simp

/-- A target searched: it is new, it is a buffer, and so is what a UBF holds. -/
theorem visits_target {target : Addr} {seen : List Addr} {search : TpTypeInfo → UbfM (List Addr)} (good : Prop)
    {under : List Addr} (answering : s.Answering) (nodup : seen.Nodup)
    (rest : ∀ info t, s.typesOf target = some info → s.Asks t → (target :: seen).Nodup →
      t.Visits (search info) good under (target :: seen)) :
    s.Visits (do
        throwIf (target ∈ seen) sharedPointer
        let info ← allocating (tptypes target)
        search info)
      (good ∧ (s.typesOf target).isSome) (target :: under) seen := by
  by_cases member : target ∈ seen
  · refine ⟨.error sharedPointer, Runs.fail ⟨s, ?_, answering, s.answers, rfl⟩, fun _ => ⟨nofun, fun ⟨_, fresh, _⟩ => ?_⟩⟩
    · rw [run_throwIf, if_pos member]
    · rw [List.cons_append, List.nodup_cons] at fresh
      exact absurd (List.mem_append_right under member) fresh.1
  · have passed : s.Runs (throwIf (target ∈ seen) sharedPointer) (.ok ⟨⟩) :=
      ⟨s, by rw [run_throwIf, if_neg member], answering, s.answers, rfl⟩
    refine Visits.after passed fun t asked => ?_
    have types := runs_tptypes asked.1 target
    obtain ⟨_, answers, rfl⟩ := asked
    have same : ({ s with answers } : State).typesOf target = s.typesOf target := rfl
    rw [same] at types
    cases known : s.typesOf target with
    | none =>
        rw [known] at types
        exact ⟨_, Runs.fail types, fun _ => ⟨nofun, fun ⟨⟨_, missing⟩, _⟩ => nomatch missing⟩⟩
    | some info =>
        rw [known] at types
        obtain ⟨u, ran, asked⟩ := types
        obtain ⟨result, ⟨v, ran', asked'⟩, accepts⟩ := rest info u known (Asks.trans ⟨by assumption, answers, rfl⟩ asked)
          (List.nodup_cons.2 ⟨member, nodup⟩)
        refine ⟨result, ⟨v, (run_tryBind_ok ran).trans ran', asked.trans asked'⟩, fun seen' => ?_⟩
        have perm : (under ++ target :: seen).Perm (target :: under ++ seen) := List.perm_middle
        rw [accepts seen', perm.nodup_iff, List.reverse_cons, List.append_assoc, List.singleton_append]
        simp

/-- **`unique_targets` accepts** what its depth allows and meets no target twice, all of them live. -/
theorem uniqueTargets_visits : ∀ (fuel : Nat) (fields : Fields) (t : State) (seen : List Addr), s.Asks t →
    seen.Nodup → t.Visits (uniqueTargets fuel fields seen)
      (s.within fuel fields ∧ ∀ p ∈ s.walk fuel fields, (s.typesOf p).isSome) (s.walk fuel fields) seen
  | 0, _, t, seen, asked, _ => ⟨.error ownershipDepth, ⟨t, rfl, asked.1, t.answers, rfl⟩,
      fun _ => ⟨nofun, fun ⟨⟨impossible, _⟩, _⟩ => impossible.elim⟩⟩
  | fuel + 1, fields, t, seen, asked, nodup => by
      unfold uniqueTargets
      refine (visits_each (s := s)
        (fun item : Int × FieldValue => (match item.2 with
          | .ptr target => target ≠ 0 → s.isUbf target → s.within fuel (s.fieldsAt target)
          | .ubf nested => s.within fuel nested
          | .plain .. => True) ∧ ∀ p ∈ (match item.2 with
            | .ptr target =>
                if target = 0 then []
                else target :: (if s.isUbf target then s.walk fuel (s.fieldsAt target) else [])
            | .ubf nested => s.walk fuel nested
            | .plain .. => []), (s.typesOf p).isSome)
        (fun item t seen asked nodup => ?_) fields t seen asked nodup).mono ?_
      · refine Visits.after (runs_call asked.1) fun u asked' => ?_
        have later := asked.trans asked'
        obtain ⟨id, value⟩ := item
        cases value with
        | plain type inline bytes => exact (visits_nothing later.1 nodup).mono (by simp)
        | ubf nested =>
            exact Visits.after (runs_call later.1) fun v asked'' =>
              uniqueTargets_visits fuel nested v seen (later.trans asked'') nodup
        | ptr target =>
            refine Visits.after (runs_ptrRoots later.1 target) fun v asked'' => ?_
            have still := later.trans asked''
            by_cases null : target = 0
            · simp only [null, if_true]
              exact (visits_nothing still.1 nodup).mono (by simp)
            · simp only [null, if_false, List.foldlM_cons, List.foldlM_nil, bind_pure]
              obtain ⟨answering, answers, rfl⟩ := still
              refine (visits_target (s.isUbf target → s.within fuel (s.fieldsAt target) ∧
                ∀ p ∈ s.walk fuel (s.fieldsAt target), (s.typesOf p).isSome) answering nodup
                fun info w known asked fresh => ?_).mono ?_
              · have known : s.typesOf target = some info := known
                have here : s.isUbf target = decide (info.typeName = "UBF") := by simp [isUbf, known]
                have now : s.Asks w := Asks.trans ⟨answering, answers, rfl⟩ asked
                by_cases ubf : info.typeName = "UBF"
                · simp only [ubf, if_true, here, decide_true]
                  refine Visits.after (a := w) ⟨w, rfl, now.1, w.answers, rfl⟩ fun x asked' => ?_
                  have fields : w.fieldsAt target = s.fieldsAt target := by
                    obtain ⟨_, answers', rfl⟩ := now
                    rfl
                  rw [fields]
                  exact (uniqueTargets_visits fuel _ x _ (now.trans asked') fresh).mono (by simp)
                · simp only [ubf, if_false, here, decide_false]
                  exact (visits_nothing now.1 fresh).mono (by simp)
              · have types : ({ s with answers } : State).typesOf target = s.typesOf target := rfl
                rw [types]
                cases ubf : s.isUbf target with
                | false => simp
                | true =>
                    simp only [List.forall_mem_cons, if_true, forall_true_left, ne_eq, null, not_false_eq_true]
                    exact ⟨fun ⟨⟨deep, under⟩, here⟩ => ⟨deep, here, under⟩,
                      fun ⟨deep, here, under⟩ => ⟨⟨deep, under⟩, here⟩⟩
      · simp only [within, walk, List.mem_flatMap]
        exact ⟨fun good => ⟨fun item member => (good item member).1,
            fun p ⟨item, member, met⟩ => (good item member).2 p met⟩,
          fun ⟨deep, live⟩ item member => ⟨deep item member, fun p met => live p ⟨item, member, met⟩⟩⟩

end Visits

/-! ## Deletion -/

/-- Where the native layer answers, what is accepted is within the depth limit, live and met once. -/
theorem ensureOwnedTree_ok {s t : State} (asked : s.Asks t) (id : BufId) :
    ((ensureOwnedTree id).run.run t).1 = .ok ⟨⟩ ↔
      (s.within 128 (s.fieldsOf id) ∧ ∀ p ∈ s.walk 128 (s.fieldsOf id), (s.typesOf p).isSome) ∧
        (s.walk 128 (s.fieldsOf id) ++ [(s.buffer id).ptr]).Nodup := by
  obtain ⟨result, ⟨u, ran, _⟩, accepts⟩ := uniqueTargets_visits 128 (s.fieldsOf id) t [(s.buffer id).ptr] asked
    (List.nodup_singleton _)
  have reading : (get : UbfM State).run.run t = (.ok t, t) := rfl
  have same : t.fieldsOf id = s.fieldsOf id ∧ t.buffer id = s.buffer id := by
    obtain ⟨-, answers, rfl⟩ := asked
    exact ⟨rfl, rfl⟩
  rw [ensureOwnedTree, run_tryBind_ok reading, same.1, same.2]
  cases result with
  | error e =>
      rw [run_tryBind_error ran]
      exact ⟨nofun, fun ⟨good, once⟩ => nomatch (accepts _).2 ⟨good, once, rfl⟩⟩
  | ok seen =>
      rw [run_tryBind_ok ran]
      obtain ⟨good, once, -⟩ := (accepts seen).1 rfl
      exact ⟨fun _ => ⟨good, once⟩, fun _ => rfl⟩

/-- Where the native layer answers, a tree within the depth limit is accepted, and nothing else. -/
theorem ensureOwnedTree_accepts {s : State} {id : BufId} (graph : s.BufferGraph id) (answering : s.Answering) :
    ((ensureOwnedTree id).run.run s).1 = .ok ⟨⟩ ↔
      s.within 128 (s.fieldsOf id) ∧ TreeAt s.targetsAt (s.buffer id).ptr := by
  have fields : targetsIn (s.fieldsOf id) = s.targetsAt (s.buffer id).ptr := (targetsAt_fieldsAt graph.root).symm
  rw [ensureOwnedTree_ok ⟨answering, s.answers, rfl⟩]
  simp only [treeAt_iff, List.nodup_append, List.nodup_singleton]
  constructor
  · rintro ⟨⟨deep, _⟩, nodup, _, apart⟩
    have walks := walk_walks graph.plain 128 _ deep
    rw [fields] at walks
    refine ⟨deep, walks.nodup_iff.1 nodup, fun reached => ?_⟩
    exact apart _ ((walks.mem_iff _).2 reached) _ (List.mem_singleton_self _) rfl
  · rintro ⟨deep, sole, apart⟩
    have walks := walk_walks graph.plain 128 _ deep
    rw [fields] at walks
    refine ⟨⟨deep, fun p met => graph.live p ((walks.mem_iff p).1 met)⟩,
      walks.nodup_iff.2 sole, trivial, fun p met root member same => ?_⟩
    rw [List.mem_singleton.1 member] at same
    exact apart ((walks.mem_iff _).1 (same ▸ met))

/-- The cascade from roots of a deleted occurrence, when they do not reach the buffer it was in. -/
theorem freeRoots_freed {s : State} {id : BufId} {f : BFLDID} {occ : Nat} {roots : List Addr}
    (named : ∀ root ∈ roots, root ≠ 0) (apart : ¬ Reached s.targetsAt roots (s.buffer id).ptr) (p : Addr) :
    p ∈ ((s.changeFields id (bdel f occ)).freeRoots roots).freed ↔ Reached s.targetsAt roots p ∨ p ∈ s.freed := by
  have same : ∀ q, Reached s.targetsAt roots q → (s.changeFields id (bdel f occ)).targetsAt q = s.targetsAt q := by
    intro q reached
    have other : q ≠ (s.buffer id).ptr := fun same => apart (same ▸ reached)
    unfold changeFields targetsAt
    rw [get_rewrite, if_neg other]
  have once (q : Addr) : Reached s.targetsAt roots.eraseDups q ↔ Reached s.targetsAt roots q :=
    ⟨Reached.mono fun _ => List.mem_eraseDups.1, Reached.mono fun _ => List.mem_eraseDups.2⟩
  have freed : (s.changeFields id (bdel f occ)).freed = s.freed := (rewrite_rest _ _ s).2.2.2.2
  rw [freeRoots, frees_spec _ _ fun root member => named root (List.mem_eraseDups.1 member), freed,
    reached_congr fun q reached => same q ((once q).1 reached), once]

/-- **Owned deletion never frees what survives.**  Where the native layer answers,
`ensure_owned_tree` accepts exactly the graphs within its depth limit in which one occurrence alone
leads to each target and none to the root; and where it accepts, the cascade from the roots
reported for an occurrence frees what they reach, which is neither the root nor under any
occurrence that remains. -/
theorem owned_deletion_spares (s : State) (id : BufId) (graph : s.BufferGraph id) (answering : s.Answering) :
    let root := (s.buffer id).ptr
    let fields := s.fieldsOf id
    (((ensureOwnedTree id).run.run s).1 = .ok ⟨⟩ ↔ s.within 128 fields ∧ TreeAt s.targetsAt root) ∧
    (((ensureOwnedTree id).run.run s).1 = .ok ⟨⟩ → ∀ (asked : Asked) (f : BFLDID) (occ : Nat) (t : State)
      (roots : List Addr), ((ownedFieldRoots asked f occ fields).run.run t).1 = .ok roots →
      (∀ p, p ∈ ((s.changeFields id (bdel f occ)).freeRoots roots).freed ↔
        Reached s.targetsAt roots p ∨ p ∈ s.freed) ∧
      ∀ p, Reached s.targetsAt roots p →
        p ≠ root ∧ ¬ Reached s.targetsAt (targetsIn (bdel f occ fields)) p) := by
  intro root fields
  have accepts := ensureOwnedTree_accepts graph answering
  refine ⟨accepts, fun accepted asked f occ t roots found => ?_⟩
  obtain ⟨sole, apart⟩ := treeAt_iff.1 (accepts.1 accepted).2
  rw [targetsAt_fieldsAt graph.root] at sole
  have among := (ownedFieldRoots_finds asked f occ fields t roots found).subset
  cases present : bfind f occ fields with
  | none =>
      rw [present] at among
      have nothing : roots = [] := List.subset_nil.1 among
      subst nothing
      exact ⟨freeRoots_freed (fun _ member => nomatch member) (not_reached_nil _),
        fun p reached => absurd reached (not_reached_nil p)⟩
  | some old =>
      rw [present] at among
      have perm := bdel_perm present
      have below {p : Addr} (reached : Reached s.targetsAt roots p) : Reached s.targetsAt (s.targetsAt root) p := by
        rw [targetsAt_fieldsAt graph.root]
        exact reached.mono fun q member => perm.symm.subset (List.mem_append_left _ (among member))
      have unrooted : ¬ Reached s.targetsAt roots root := fun reached => apart (below reached)
      refine ⟨freeRoots_freed (fun q member => FieldValue.targets_named old q (among member)) unrooted,
        fun p reached => ⟨fun same => unrooted (same ▸ reached), ?_⟩⟩
      exact (sole.perm perm).apart (reached.mono among)

/-- A pointer field, a UBF with two occurrences of it, and the buffers they name. -/
def pointerField : BFLDID := ⟨1, .Ptr⟩

def twoPointers : State where
  heap := ((Table.empty.set 1 { typeName := "UBF", bytes := [], fields := [(1, .ptr 2), (1, .ptr 3)] }).set 2
    { typeName := "CARRAY", bytes := [] }).set 3 { typeName := "CARRAY", bytes := [] }
  next := 4
  bufs := Table.empty.set 0 ⟨⟨1, 0⟩, .ubf⟩
  nextBuf := 1

theorem two_pointers_spared :
    ((ensureOwnedTree 0).run.run twoPointers).1 = .ok ⟨⟩ ∧
    (∀ p, p ∈ ((twoPointers.changeFields 0 (bdel pointerField 0)).freeRoots [2]).freed ↔
      Reached twoPointers.targetsAt [2] p ∨ p ∈ twoPointers.freed) ∧
    ¬ Reached twoPointers.targetsAt [3] 2 := by
  have targets : ∀ p, twoPointers.targetsAt p = if p = 1 then [2, 3] else [] := by
    intro p
    by_cases one : p = 1
    · subst one
      rfl
    · by_cases two : p = 2
      · subst two
        rfl
      · by_cases three : p = 3
        · subst three
          rfl
        · simp [targetsAt, twoPointers, one, two, three]
  have reached : ∀ p, Reached twoPointers.targetsAt [2, 3] p ↔ p = 2 ∨ p = 3 := by
    have leaf (p : Addr) (other : p ≠ 1) : Walks twoPointers.targetsAt (twoPointers.targetsAt p) [] := by
      rw [targets, if_neg other]
      exact .nil
    have walks : Walks twoPointers.targetsAt [2, 3] [2, 3] :=
      .cons (leaf 2 (by decide)) (.cons (leaf 3 (by decide)) .nil)
    intro p
    rw [← walks.mem_iff]
    simp
  have graph : twoPointers.BufferGraph 0 := by
    refine ⟨rfl, fun p under => ?_, fun p other => ?_⟩
    · rw [show (twoPointers.buffer 0).ptr = 1 from rfl, targets, if_pos rfl, reached] at under
      rcases under with rfl | rfl <;> rfl
    · rw [targets, if_neg]
      rintro rfl
      exact absurd other (by decide)
  have spares := owned_deletion_spares twoPointers 0 graph ⟨by simp [twoPointers], by simp [twoPointers]⟩
  have accepted : ((ensureOwnedTree 0).run.run twoPointers).1 = .ok ⟨⟩ := rfl
  obtain ⟨freed, apart⟩ := spares.2 accepted .displaced pointerField 0 twoPointers [2] rfl
  exact ⟨accepted, freed, (apart 2 ⟨2, List.mem_singleton_self 2, .refl⟩).2⟩

end State

end Endurox.Typed
