/-
# Typed.Custody -- what each operation does with what it is given

One specification for each function of `typed_buf.rs`, `typed_ubf.rs` and
`ubf_complex.rs` that moves an owner: what it leaves in hand on success, and that on
an error what it was given is freed and the rest is as it was.  A failing native
call takes the error's way out; a write that found no room takes none.
-/
import Endurox.Typed.Holding

namespace Endurox.Typed

open Endurox.Theory State

set_option autoImplicit false

variable {terms : Terms} {extra : List Addr} {hands : List (BufId × Fields)} {id child : BufId}
  {held inside : Fields}

/-! ## Reallocation -/

/-- Clearing what has grown never fails. -/
theorem clearGrowth_done {P : State → Prop} {ptr : Addr}
    (cleared : ∀ s start, P s → P (s.rewrite ptr fun a => { a with bytes := Typed.cleared start a.bytes }))
    (before grown : Except AtmiError TpTypeInfo) :
    Ends P (clearGrowth ptr before grown).run fun result s => result = .ok ⟨⟩ ∧ P s := by
  unfold clearGrowth
  split
  · exact Ends.runIf (fun _ => Ends.tryModify fun s holds => ⟨rfl, cleared s _ holds⟩) fun _ _ holds => ⟨rfl, holds⟩
  · exact Ends.tryPure fun _ holds => ⟨rfl, holds⟩

theorem tprealloc_custody (id : BufId) (newSize : Nat) :
    Keeps (Holding terms extra ((id, held) :: hands)) (tprealloc id newSize).run := by
  unfold tprealloc
  refine Ends.tryRead fun now => ?_
  -- the value keeps its buffer until the reallocated one is its own
  let Q : State → Prop := fun s =>
    s.Holding terms extra ((id, held) :: hands) ∧ (s.buffer id).ptr = (now.buffer id).ptr
  have answered : Answerable Q := fun later holds => ⟨holding_answerable later holds.1, holds.2⟩
  refine Ends.mono (B := Q) ?_ (fun s holds => ⟨holds.1, holds.2 ▸ rfl⟩) fun _ _ holds => holds
  refine Ends.tryBind (Keeps.lift (next_keeps answered Queue.reallocs_shrinks)) (fun _ _ holds => holds.1)
    fun answer => ?_
  refine Ends.tryOutcome ((tptypesOf_ends answer.before _).mono (fun _ holds => holds)
    fun _ _ holds => holds.1) fun before => ?_
  refine Ends.tryBind Keeps.throwIf (fun _ _ holds => holds.1) fun _ => ?_
  refine Ends.tryBind (refuseShrink_keeps _ _ _) (fun _ _ holds => holds.1) fun _ => ?_
  split
  · exact Ends.throw fun _ holds => holds.1
  · rename_i more moves _
    let R : Addr → State → Prop := fun ptr s =>
      ∀ len, (s.setBuffer id ⟨ptr, len⟩).Holding terms extra ((id, held) :: hands)
    refine Ends.tryBind (F := fun moved s => (∀ ptr, moved = .ok (some ptr) → R ptr s) ∧
      ((∀ ptr, moved ≠ .ok (some ptr)) → s.Holding terms extra ((id, held) :: hands)))
      (Ends.tryModifyGet fun s holds => ?_) (fun _ _ holds => holds.2 (by simp)) fun moved => ?_
    · have made : (s.reallocate (now.buffer id).ptr (newSize + more) moves).1 = none →
          (s.reallocate (now.buffer id).ptr (newSize + more) moves).2 = s := State.reallocate_none
      cases done : (s.reallocate (now.buffer id).ptr (newSize + more) moves).1 with
      | none =>
          refine ⟨by simp, fun _ => ?_⟩
          rw [made done]
          exact holds.1
      | some ptr =>
          refine ⟨fun ptr' same len => ?_, fun never => absurd rfl (never ptr)⟩
          cases same
          rw [← holds.2] at done ⊢
          exact holds.1.reallocate done len
    · cases moved with
      | none => exact Ends.throw fun _ holds => holds.2 (by simp)
      | some ptr =>
          refine Ends.mono (B := R ptr) ?_ (fun _ holds => holds.1 ptr rfl) fun _ _ holds => holds
          refine Ends.tryOutcome ((tptypesOf_ends answer.after ptr).mono (fun _ holds => holds)
            fun _ _ holds => holds.1) fun grown => ?_
          refine Ends.tryBind (F := fun result s => result = .ok ⟨⟩ ∧ R ptr s)
            (clearGrowth_done (fun s start holds len => ?_) before grown)
            (fun _ _ impossible => by cases impossible.1) fun _ => Ends.tryModify fun s holds => holds.2 _
          rw [rewrite_setBuffer]
          exact (holds len).bytes ptr (fun _ => rfl) fun _ => rfl

theorem growBuffer_custody (id : BufId) :
    Keeps (Holding terms extra ((id, held) :: hands)) (growBuffer id).run :=
  Keeps.tryBind (call_keeps holding_answerable) fun _ => Keeps.tryBind Keeps.tryGet fun _ =>
    allocating_keeps (tprealloc_custody id _)

/-! ## Writes -/

section Writing

variable {α : Type} {realloc : Bool} {look : UbfM α} {store : α → UbfM Unit} {G : α → Prop}
  {Q : Unit → State → Prop}

/-- A write stores what was looked up last, in a buffer that may have grown. -/
theorem writing_yields (looked : Yields (Holding terms extra ((id, held) :: hands)) look
      (fun a s => s.Holding terms extra ((id, held) :: hands) ∧ G a) (Holding terms extra ((id, held) :: hands)))
    (stored : ∀ a, G a → Yields (Holding terms extra ((id, held) :: hands)) (store a) Q
      (Holding terms extra ((id, held) :: hands))) :
    Yields (Holding terms extra ((id, held) :: hands)) (writing id realloc look store) Q
      (Holding terms extra ((id, held) :: hands)) := by
  have tried : ∀ fuel, Yields (Holding terms extra ((id, held) :: hands)) (untilFits id realloc look store fuel) Q
      (Holding terms extra ((id, held) :: hands)) := by
    intro fuel
    induction fuel with
    | zero => exact Yields.throw fun _ holds => holds
    | succ fuel ih =>
        unfold untilFits
        refine Yields.bind looked fun found => Ends.ofFact fun known => ?_
        refine Yields.bind (Yields.lift (next_keeps holding_answerable Queue.writes_shrinks)) fun failure => ?_
        cases failure with
        | none => exact stored found known
        | some e =>
            dsimp only
            split
            · exact Yields.bind (Yields.ofKeeps (growBuffer_custody id)) fun _ => ih
            · exact Yields.throw fun _ holds => holds
  exact Yields.read fun now holds => (tried _).mono (fun _ same => same ▸ holds) (fun _ _ holds => holds)
    fun _ holds => holds

end Writing

theorem putNative_yields {f : BFLDID} {occ : Nat} {value : FieldValue} {realloc : Bool} {Q : State → Prop}
    (put : ∀ s : State, s.Holding terms extra ((id, held) :: hands) → Q (s.changeFields id (bchg f occ value))) :
    Yields (Holding terms extra ((id, held) :: hands)) (putNative id f occ value realloc) (fun _ => Q)
      (Holding terms extra ((id, held) :: hands)) :=
  writing_yields (G := fun _ => True) (Yields.pure fun _ holds => ⟨holds, trivial⟩) fun _ _ => Yields.modify put

/-! ## What is displaced -/

/-- The pointers of an occurrence. -/
def targetsOf (f : BFLDID) (occ : Nat) (fields : Fields) : List Addr := (bfind f occ fields).elim [] FieldValue.targets

/-- Where nothing may be lost, an occurrence that goes has no pointers or is asked about in earnest. -/
def Earnest (terms : Terms) (targets : List Addr) : Prop := terms.tight → targets = [] ∨ terms.quiet

/-- The roots found are those there are, but for some lost. -/
structure Roots (terms : Terms) (targets roots : List Addr) : Prop where
  among : roots.Sublist targets
  all : terms.tight → roots = targets

theorem displacedRoots_yields {f : BFLDID} {occ : Nat} (asks : Earnest terms (targetsOf f occ held)) :
    Yields (Holding terms extra ((id, held) :: hands)) (displacedRoots id f occ)
      (fun roots s => s.Holding terms extra ((id, held) :: hands) ∧ Roots terms (targetsOf f occ held) roots)
      (Holding terms extra ((id, held) :: hands)) := by
  have truthful (quiet : terms.quiet) (s : State) (holding : s.Holding terms extra ((id, held) :: hands)) :=
    holding.quiet quiet
  have reports : Ends (fun s : State => s.Holding terms extra ((id, held) :: hands) ∧ s.fieldsOf id = held) _ _ :=
    displacedRoots_ends holding_answerable truthful id f occ
  intro s holding
  have holds := holding.front.2
  have reported := reports s ⟨holding, holds⟩
  have among : ∀ roots, ((displacedRoots id f occ).run.run s).1 = .ok roots → roots.Sublist (targetsOf f occ held) := by
    have found : Finds (targetsOf f occ (s.fieldsOf id)) (do
        let roots ← ownedFieldRoots .displaced f occ (s.fieldsOf id)
        runIf (roots ≠ []) (ensureOwnedTree id)
        pure roots) :=
      Finds.bind (fun t roots => ownedFieldRoots_finds .displaced f occ (s.fieldsOf id) t roots) fun roots among =>
        Finds.after fun _ => finds_pure among
    intro roots same
    rw [← holds]
    exact found s roots same
  cases result : ((displacedRoots id f occ).run.run s).1 with
  | error e => exact reported.1
  | ok roots =>
      refine ⟨reported.1, among roots result, fun tight => ?_⟩
      rcases asks tight with none | quiet
      · rw [none]
        exact List.sublist_nil.1 (none ▸ among roots result)
      · exact reported.2 roots result quiet

theorem bdelOwned_yields {f : BFLDID} {occ : Nat} (asks : Earnest terms (targetsOf f occ held)) :
    Yields (Holding terms extra ((id, held) :: hands)) (bdelOwned id f occ)
      (fun _ => Holding terms extra ((id, bdel f occ held) :: hands)) (Holding terms extra ((id, held) :: hands)) := by
  unfold bdelOwned
  refine Yields.bind (displacedRoots_yields asks) fun roots => Ends.ofFact fun found => ?_
  refine Yields.bind (Yields.ofKeeps (call_keeps holding_answerable)) fun _ => Yields.read fun now holding => ?_
  have holds := holding.front.2
  refine Yields.bind (Q := fun _ s => s = now ∧ bfind f occ held ≠ none)
    (Yields.throwIf (fun _ _ same => same ▸ holding) fun _ there same => ⟨same, ?_⟩) fun _ => Ends.ofFact fun there => ?_
  · rw [← holds]
    simpa using there
  obtain ⟨old, found'⟩ := Option.ne_none_iff_exists'.1 there
  refine Yields.bind (Q := fun _ => Holding terms (roots ++ extra) ((id, bdel f occ held) :: hands))
    (Yields.modify fun s same => ?_) fun _ => Yields.modify fun _ holding => holding.freeRoots
  subst same
  have displaced : (s.changeFields id (bdel f occ)).Holding terms (targetsOf f occ held ++ extra)
      ((id, bdel f occ held) :: hands) := holding.fields fun q => ?_
  · exact displaced.displace found.among found.all
  have deleted := bdel_targets q found'
  unfold targetsOf
  rw [found', List.count_append]
  simp only [Option.elim]
  omega

/-- What `Bchg` displaces is in hand, with what is not stored. -/
theorem bchg_displaced {f : BFLDID} {occ : Nat} {value : FieldValue} {s : State}
    (holding : s.Holding terms (value.targets ++ extra) ((id, held) :: hands)) :
    (s.changeFields id (bchg f occ value)).Holding terms (targetsOf f occ held ++ extra)
      ((id, bchg f occ value held) :: hands) :=
  holding.fields fun q => by
    have changed := bchg_targets f occ value held q
    unfold targetsOf
    rw [List.count_append, List.count_append]
    omega

theorem putNullComplex_yields {f : BFLDID} {occ : Nat} {realloc : Bool} (asks : Earnest terms (targetsOf f occ held)) :
    Yields (Holding terms extra ((id, held) :: hands)) (putNullComplex id f occ realloc)
      (fun _ => Holding terms extra ((id, bchg f occ (placeholder f.type) held) :: hands))
      (Holding terms extra ((id, held) :: hands)) := by
  unfold putNullComplex
  refine Yields.bind (displacedRoots_yields asks) fun roots => Ends.ofFact fun found => ?_
  refine Yields.bind (Yields.ofKeeps (call_keeps holding_answerable)) fun _ => ?_
  refine Yields.bind (Yields.ofKeeps Keeps.throwIf) fun _ => ?_
  refine Yields.bind (putNative_yields
    (Q := Holding terms (roots ++ extra) ((id, bchg f occ (placeholder f.type) held) :: hands)) fun s holding => ?_)
    fun _ => Yields.modify fun _ holding => holding.freeRoots
  refine Holding.displace (bchg_displaced ?_) found.among found.all
  rw [placeholder_targets]
  exact holding

/-! ## Embedding -/

theorem orDrop_yields {α : Type} {m : UbfM α} {P B E : State → Prop} {Q : α → State → Prop}
    (yields : Yields P m Q B) (dropped : ∀ s, B s → E (s.drop child)) : Yields P (orDrop child m) Q E :=
  orDrop_ends (Ends.mono yields (fun _ holds => holds) fun result s holds => match result, holds with
    | .ok _, holds => holds
    | .error _, holds => dropped s holds)

/-- The shell of a value whose pointers were given away is emptied. -/
theorem clearShell_yields {previous : List Addr} {Q : State → Prop} (calm : terms.calm)
    (emptied : ∀ s, Q s → (s.changeFields child fun _ => []).Holding terms extra hands) (answerable : Answerable Q)
    {E : State → Prop} :
    Yields Q (clearShell child previous)
      (fun _ => Holding terms extra hands) E := by
  have quiet : ∀ s, Q s → ∀ failure ∈ s.answers.shell, failure = none := fun s holds =>
    (changeFields_rest child _ s).2.2.2.1 ▸ (emptied s holds).calm calm
  have asked : Yields (E := E) Q (liftM nextShell : UbfM (Option UbfError)) fun failure s => Q s ∧ failure = none :=
    Yields.lift (next_ends answerable Queue.shell_shrinks (G := fun failure => failure = none) rfl quiet)
  unfold clearShell
  refine Yields.bind asked fun failure => Ends.ofFact fun size => ?_
  subst size
  refine Yields.bind asked fun failure => Ends.ofFact fun emptying => ?_
  subst emptying
  exact Yields.modify emptied

/-- **Embedding**: the child is gone, and its pointers are the occurrence's. -/
theorem embedUbf_yields {f : BFLDID} {occ : Nat} {realloc transferPointers : Bool}
    (asks : Earnest terms (targetsOf f occ held)) (calm : transferPointers = true → terms.calm) :
    Yields (Holding terms extra ((id, held) :: (child, inside) :: hands))
      (embedUbf id f occ child realloc transferPointers)
      (fun _ => Holding terms extra ((id, bchg f occ (.ubf inside) held) :: hands))
      (fun s => s.Holding terms extra ((id, held) :: hands) ∧ s.bufs.get child = none) := by
  refine orDrop_yields (B := Holding terms extra ((id, held) :: (child, inside) :: hands)) ?_
    fun s holding => ⟨holding.dropSecond, drop_gone child s⟩
  refine Yields.bind (Yields.ofKeeps (requireFieldType_keeps holding_answerable _ _ _)) fun _ => ?_
  refine Yields.bind (Yields.ofKeeps (call_keeps holding_answerable)) fun _ => Yields.read fun now holding => ?_
  have holds : now.fieldsOf child = inside := (holding.perm (.swap _ _ _)).front.2
  rw [holds]
  refine Yields.bind (Q := fun _ s => s = now ∧ ¬ (bhasptr inside = true ∧ transferPointers = false))
    (Yields.throwIf (fun _ _ same => same ▸ holding) fun _ allowed same => ⟨same, allowed⟩) fun _ =>
      Ends.ofFact fun allowed => ?_
  refine Yields.bind ((displacedRoots_yields asks).mono (fun _ same => same ▸ holding) (fun _ _ holds => holds)
    fun _ holds => holds) fun previous => Ends.ofFact fun found => ?_
  -- once the pointers have one owner again
  let R : State → Prop := fun s => ∃ inside', s.Holding terms (previous ++ extra)
    ((id, bchg f occ (.ubf inside) held) :: (child, inside') :: hands)
  have rest : Yields R (do
      modify (State.drop child)
      modify (State.freeRoots previous) : UbfM Unit)
      (fun _ => Holding terms extra ((id, bchg f occ (.ubf inside) held) :: hands))
      (Holding terms extra ((id, held) :: (child, inside) :: hands)) := by
    refine Yields.bind (Q := fun _ => Holding terms (previous ++ extra) ((id, bchg f occ (.ubf inside) held) :: hands))
      (Yields.modify fun s ⟨_, holding⟩ => holding.dropSecond) fun _ => Yields.modify fun _ holding => holding.freeRoots
  cases owns : bhasptr inside with
  | false =>
      refine Yields.bind (putNative_yields (Q := R) fun s holding => ⟨inside, ?_⟩) fun _ =>
        Yields.bind (Yields.runIf (fun impossible => nomatch impossible) fun _ _ holds => holds) fun _ => rest
      refine Holding.displace (bchg_displaced ?_) found.among found.all
      rw [targets_ubf, targetsIn_of_not_bhasptr inside owns]
      exact holding
  | true =>
      have calm : terms.calm := calm (by simpa [owns] using allowed)
      let Q : State → Prop := fun s => (s.changeFields child fun _ => []).Holding terms (previous ++ extra)
        ((id, bchg f occ (.ubf inside) held) :: (child, []) :: hands)
      have answerable : Answerable Q := by
        intro s later fewer holding
        have answers := (changeFields_rest child (fun _ => []) s).2.2.2.1
        show Holding terms _ _ _
        rw [changeFields_answers]
        exact holding_answerable (answers.symm ▸ fewer) holding
      refine Yields.bind (putNative_yields (Q := Q) fun s holding => ?_) fun _ =>
        Yields.bind (Yields.runIf (fun _ => ?_) fun _ no => absurd rfl no) fun _ => rest
      · refine Holding.displace (holding.transfer fun q => ?_) found.among found.all
        have changed := bchg_targets f occ (.ubf inside) held q
        unfold targetsOf
        rw [targets_ubf] at changed
        rw [List.count_append]
        omega
      · exact (clearShell_yields calm (fun _ holds => holds) answerable).mono (fun _ holds => holds)
          (fun _ s holding => ⟨[], holding⟩) fun _ holds => holds

/-! ## Values -/

/-- The pointers a write displaces. -/
def displacedBy (f : BFLDID) (occ : Option Nat) (fields : Fields) : List Addr :=
  occ.elim [] fun occ => targetsOf f occ fields

theorem chgOrAdd_targets (f : BFLDID) (occ : Option Nat) (value : FieldValue) (fields : Fields) (q : Addr) :
    (targetsIn (chgOrAdd f occ value fields)).count q + (displacedBy f occ fields).count q =
      (targetsIn fields).count q + value.targets.count q := by
  cases occ with
  | some occ => exact bchg_targets f occ value fields q
  | none => simp [displacedBy, chgOrAdd, badd, List.count_append]

theorem displacedBy_plain {f : BFLDID} (pointer : f.type ≠ .Ptr) (embedded : f.type ≠ .Ubf) (occ : Option Nat)
    (fields : Fields) : displacedBy f occ fields = [] := by
  cases occ with
  | none => rfl
  | some occ =>
      unfold displacedBy targetsOf
      simp only [Option.elim]
      cases found : bfind f occ fields with
      | none => rfl
      | some value => exact targets_of_type (bfind_type found ▸ pointer) (bfind_type found ▸ embedded)

theorem writePlain_yields {f : BFLDID} {occ : Option Nat} {prepared : Except UbfError (List UInt8)} {realloc : Bool} :
    Yields (Holding terms extra ((id, held) :: hands)) (writePlain id f occ prepared realloc)
      (fun _ s => ∃ held', s.Holding terms extra ((id, held') :: hands)) (Holding terms extra ((id, held) :: hands)) := by
  unfold writePlain
  refine Yields.bind (Yields.ofKeeps Keeps.ofExcept) fun bytes => ?_
  split
  · exact Yields.throw fun _ holding => holding
  · rename_i value plain
    refine writing_yields (G := fun _ => True) (Yields.pure fun _ holding => ⟨holding, trivial⟩) fun _ _ =>
      Yields.modify fun s holding => ⟨_, holding.fields fun q => ?_⟩
    have changed := chgOrAdd_targets f occ value held q
    have inline : f.type ≠ .Ptr ∧ f.type ≠ .Ubf := by
      unfold plainValue at plain
      split at plain
      · assumption
      · cases plain
    rw [displacedBy_plain inline.1 inline.2, plainValue_targets plain] at changed
    simp only [List.count_nil, Nat.add_zero] at changed
    rw [changed]

theorem replacedPtr_yields {f : BFLDID} {occ : Option Nat} (pointer : f.type = .Ptr)
    (asks : Earnest terms (displacedBy f occ held)) :
    Yields (Holding terms extra ((id, held) :: hands)) (replacedPtr id f occ)
      (fun replaced s => s.Holding terms extra ((id, held) :: hands) ∧
        Roots terms (displacedBy f occ held) replaced.toList)
      (Holding terms extra ((id, held) :: hands)) := by
  unfold replacedPtr
  refine Yields.read fun now holding => ?_
  rw [holding.front.2]
  have absent : displacedBy f occ held = [] → Roots terms (displacedBy f occ held) (none : Option Addr).toList :=
    fun none => ⟨List.nil_sublist _, fun _ => none.symm⟩
  cases found : occ.bind fun occ => bfind f occ held with
  | none =>
      refine Yields.pure fun s same => ⟨same ▸ holding, absent ?_⟩
      cases occ with
      | none => rfl
      | some occ =>
          have missing : bfind f occ held = none := found
          unfold displacedBy targetsOf
          simp only [Option.elim, missing]
  | some value =>
      obtain ⟨occ, rfl, here⟩ := Option.bind_eq_some_iff.1 found
      have targets : displacedBy f (some occ) held = value.targets := by
        unfold displacedBy targetsOf
        simp only [Option.elim, here]
      have type := bfind_type here
      cases value with
      | plain type inline bytes => exact absurd (type.trans pointer) inline.1
      | ubf fields => exact absurd (type.trans pointer) (by simp [FieldValue.type])
      | ptr target =>
          dsimp only
          split
          · rename_i null
            exact Yields.pure fun s same => ⟨same ▸ holding, absent (by rw [targets]; simp [null])⟩
          · rename_i named
            rw [targets_ptr, if_neg named] at targets
            refine Yields.bind (Yields.lift ((next_ends holding_answerable Queue.displaced_shrinks
              (G := fun failure => terms.quiet → failure = none) (fun _ => rfl)
              fun s holding failure member quiet => holding.quiet quiet failure member).mono
                (fun _ same => same ▸ holding) fun _ _ holds => holds)) fun failure => Ends.ofFact fun answered => ?_
            cases failure with
            | some e =>
                refine Yields.pure fun _ holding => ⟨holding, List.nil_sublist _, fun tight => ?_⟩
                rcases asks tight with none | quiet
                · exact none.symm
                · exact absurd (answered quiet) (by simp)
            | none =>
                refine Yields.bind (Yields.ofKeeps (ensureOwnedTree_keeps holding_answerable id)) fun _ => ?_
                exact Yields.pure fun _ holding => ⟨holding, by rw [targets]; exact List.Sublist.refl _,
                  fun _ => targets.symm⟩

/-- **A pointer written**: the child is the field's. -/
theorem writePtr_yields {f : BFLDID} {occ : Option Nat} {realloc : Bool} (pointer : f.type = .Ptr)
    (asks : Earnest terms (displacedBy f occ held)) :
    Yields (Holding terms extra ((id, held) :: (child, inside) :: hands)) (writePtr id f occ child realloc)
      (fun _ s => ∃ p, s.Holding terms extra ((id, chgOrAdd f occ (.ptr p) held) :: hands))
      (Holding terms extra ((id, held) :: (child, inside) :: hands)) := by
  refine writing_yields (replacedPtr_yields pointer asks) fun replaced found => Yields.modify fun s holding => ?_
  have stored : ((s.changeFields id (chgOrAdd f occ (.ptr (s.buffer child).ptr))).forget child).Holding terms
      (displacedBy f occ held ++ extra) ((id, chgOrAdd f occ (.ptr (s.buffer child).ptr) held) :: hands) := by
    refine holding.store fun q => ?_
    have named : (s.buffer child).ptr ≠ 0 := (holding.perm (.swap _ _ _)).named
    have changed := chgOrAdd_targets f occ (.ptr (s.buffer child).ptr) held q
    rw [targets_ptr, if_neg named] at changed
    rw [List.count_append]
    omega
  have displaced := stored.displace found.among found.all
  refine ⟨(s.buffer child).ptr, ?_⟩
  unfold storePtr
  cases replaced with
  | none => exact displaced
  | some previous =>
      show ((State.tpfree previous _).forget child).Holding _ _ _
      rw [← forget_tpfree]
      exact Holding.tpfree displaced

/-- What a written value has in hand. -/
def UbfValue.hand (inside : Fields) : UbfValue → List (BufId × Fields)
  | .plain _ => []
  | .ptr child | .ubf child | .view child => [(child, inside)]

/-- An operation that owns a value left early: the value is still there, or it is gone already. -/
def Left (terms : Terms) (extra : List Addr) (front : BufId × Fields) (own hands : List (BufId × Fields)) (s : State) :
    Prop :=
  s.Holding terms extra (front :: (own ++ hands)) ∨
    s.Holding terms extra (front :: hands) ∧ ∀ hand ∈ own, s.bufs.get hand.1 = none

theorem owningValue_yields {v : UbfValue} (inside : Fields) {m : UbfM Unit} {P Q : State → Prop}
    (yields : Yields P m (fun _ => Q) (Left terms extra (id, held) (v.hand inside) hands)) :
    Yields P (owningValue v m) (fun _ => Q) (Holding terms extra ((id, held) :: hands)) := by
  have dropped (child : BufId) (s : State) (left : Left terms extra (id, held) [(child, inside)] hands s) :
      (s.drop child).Holding terms extra ((id, held) :: hands) := by
    rcases left with holding | ⟨holding, gone⟩
    · exact holding.dropSecond
    · rw [drop_of_gone (gone _ List.mem_cons_self)]
      exact holding
  cases v with
  | plain prepared =>
      refine yields.mono (fun _ holds => holds) (fun _ _ holds => holds) fun s left => ?_
      exact left.elim (fun holding => holding) And.left
  | ptr child => exact orDrop_yields yields (dropped child)
  | ubf child => exact orDrop_yields yields (dropped child)
  | view child => exact orDrop_yields yields (dropped child)

theorem requireFieldType_yields {P : State → Prop} (answerable : Answerable P) (f : BFLDID) (want : UbfFieldType)
    (what : String) : Yields P (requireFieldType f want what) (fun _ s => P s ∧ f.type = want) P :=
  Yields.bind (Yields.ofKeeps (call_keeps answerable)) fun _ =>
    Yields.throwIf (fun _ _ holds => holds) fun _ passed holds => ⟨holds, by simpa using passed⟩

theorem checkPointerFieldWrite_yields {P : State → Prop} (answerable : Answerable P) (f : BFLDID) (v : UbfValue) :
    Yields P (checkPointerFieldWrite f v) (fun _ s => P s ∧ ∀ child, v = .ptr child → f.type = .Ptr) P := by
  unfold checkPointerFieldWrite
  refine Yields.bind (Yields.ofKeeps (call_keeps answerable)) fun _ =>
    Yields.bind (Yields.ofKeeps Keeps.throwIf) fun _ =>
      Yields.throwIf (fun _ _ holds => holds) fun _ passed holds => ⟨holds, ?_⟩
  rintro child rfl
  simpa using passed

theorem complexOcc_yields (f : BFLDID) (occ : Option Nat) :
    Yields (Holding terms extra ((id, held) :: hands)) (complexOcc id f occ)
      (fun there s => s.Holding terms extra ((id, held) :: hands) ∧ targetsOf f there held = displacedBy f occ held)
      (Holding terms extra ((id, held) :: hands)) := by
  unfold complexOcc
  cases occ with
  | some occ => exact Yields.pure fun _ holding => ⟨holding, rfl⟩
  | none =>
      refine Yields.bind (Yields.ofKeeps (call_keeps holding_answerable)) fun _ => Yields.read fun now holding => ?_
      rw [holding.front.2]
      refine Yields.bind (Q := fun _ s => s = now) (Yields.throwIf (fun _ _ same => same ▸ holding) fun _ _ same => same)
        fun _ => Yields.pure fun _ same => ⟨same ▸ holding, ?_⟩
      unfold targetsOf
      rw [bfind_none_iff.2 (Nat.le_refl _)]
      rfl

theorem viewValue_type (id : BufId) (s : State) : (viewValue id s).type = .View := by
  unfold viewValue
  split <;> rfl

/-- **A value written**: it is gone, and its pointers are the field's. -/
theorem writeValue_yields {f : BFLDID} {occ : Option Nat} {v : UbfValue} {realloc : Bool}
    (asks : Earnest terms (displacedBy f occ held)) :
    Yields (Holding terms extra ((id, held) :: (v.hand inside ++ hands))) (writeValue id f occ v realloc)
      (fun _ s => ∃ held', s.Holding terms extra ((id, held') :: hands) ∧
        ∀ child, v = .ptr child → ∃ p, held' = chgOrAdd f occ (.ptr p) held)
      (Holding terms extra ((id, held) :: hands)) := by
  refine owningValue_yields inside ?_
  have still (s : State) (holding : s.Holding terms extra ((id, held) :: (v.hand inside ++ hands))) :
      Left terms extra (id, held) (v.hand inside) hands s := .inl holding
  refine Yields.bind ((checkPointerFieldWrite_yields holding_answerable f v).mono (fun _ holds => holds)
    (fun _ _ holds => holds) still) fun _ => Ends.ofFact fun pointer => ?_
  refine Yields.bind ((complexOcc_yields f occ).mono (fun _ holds => holds) (fun _ _ holds => holds) still)
    fun there => Ends.ofFact fun same => ?_
  cases v with
  | plain prepared =>
      exact writePlain_yields.mono (fun _ holds => holds) (fun _ _ ⟨_, holding⟩ => ⟨_, holding, nofun⟩) still
  | ptr child =>
      exact (writePtr_yields (pointer child rfl) asks).mono (fun _ holds => holds)
        (fun _ _ ⟨p, holding⟩ => ⟨_, holding, fun _ _ => ⟨p, rfl⟩⟩) still
  | ubf child =>
      have asks' : Earnest terms (targetsOf f there held) := by rw [same]; exact asks
      show Yields _ (embedUbf id f there child realloc false) _ _
      refine (embedUbf_yields asks' (by simp)).mono (fun _ holds => holds) (fun _ _ holding => ⟨_, holding, nofun⟩)
        fun s ⟨holding, gone⟩ => .inr ⟨holding, fun hand member => ?_⟩
      rw [List.mem_singleton.1 member]
      exact gone
  | view child =>
      refine Yields.bind ((requireFieldType_yields holding_answerable f .View _).mono (fun _ holds => holds)
        (fun _ _ holds => holds) still) fun _ => Ends.ofFact fun view => Yields.read fun now holding => ?_
      have inline : f.type ≠ .Ptr ∧ f.type ≠ .Ubf := by rw [view]; exact ⟨nofun, nofun⟩
      rw [displacedBy_plain inline.1 inline.2] at same
      have value : (viewValue child now).targets = [] :=
        targets_of_type (by rw [viewValue_type]; exact nofun) (by rw [viewValue_type]; exact nofun)
      refine Yields.bind ((putNative_yields (Q := Holding terms extra
        ((id, bchg f there (viewValue child now) held) :: (child, inside) :: hands)) fun s holding => ?_).mono
          (fun _ same => same ▸ holding) (fun _ _ holds => holds) still) fun _ =>
            Yields.modify fun s holding => ⟨_, holding.dropSecond, nofun⟩
      have changed : (s.changeFields id (bchg f there (viewValue child now))).Holding terms
          (targetsOf f there held ++ extra) ((id, bchg f there (viewValue child now) held) :: (child, inside) :: hands) :=
        bchg_displaced (by rw [value]; exact holding)
      rw [same] at changed
      exact changed

theorem writeValueFast_yields {f : BFLDID} {v : UbfValue} {realloc : Bool} :
    Yields (Holding terms extra ((id, held) :: (v.hand inside ++ hands))) (writeValueFast id f v realloc)
      (fun _ s => ∃ held', s.Holding terms extra ((id, held') :: hands)) (Holding terms extra ((id, held) :: hands)) := by
  refine owningValue_yields inside ?_
  have still (s : State) (holding : s.Holding terms extra ((id, held) :: (v.hand inside ++ hands))) :
      Left terms extra (id, held) (v.hand inside) hands s := .inl holding
  refine Yields.bind ((checkPointerFieldWrite_yields holding_answerable f v).mono (fun _ holds => holds)
    (fun _ _ holds => holds) still) fun _ => Ends.ofFact fun pointer => ?_
  cases v with
  | plain prepared => exact writePlain_yields.mono (fun _ holds => holds) (fun _ _ holds => holds) still
  | ptr child =>
      exact (writePtr_yields (pointer child rfl) fun _ => .inl rfl).mono (fun _ holds => holds)
        (fun _ _ ⟨p, holding⟩ => ⟨_, holding⟩) still
  | ubf child => exact Yields.throw still
  | view child => exact Yields.throw still

/-! ## Taking a pointer back -/

/-- **A pointer taken back**: it is a value's, and no longer the field's. -/
theorem bextractPtr_yields {f : BFLDID} {occ : Nat} :
    Yields (Holding terms extra ((id, held) :: hands)) (bextractPtr id f occ)
      (fun taken s => ∃ inside, s.Holding terms extra ((taken, inside) :: (id, bdel f occ held) :: hands))
      (Holding terms extra ((id, held) :: hands)) := by
  refine Yields.read fun now holding => ?_
  rw [holding.front.2]
  refine Yields.bind ((readPtrField_yields holding_answerable f occ held).mono (fun _ same => same ▸ holding)
    (fun _ _ holds => holds) fun _ holds => holds) fun target => Ends.ofFact fun ⟨named, found⟩ => ?_
  refine Yields.bind (Yields.ofKeeps (ensureOwnedTree_keeps holding_answerable id)) fun _ =>
    Yields.bind (Yields.ofKeeps (call_keeps holding_answerable)) fun _ => ?_
  refine Yields.bind (Q := fun _ => Holding terms (target :: extra) ((id, bdel f occ held) :: hands))
    (Yields.modify fun s holding => holding.fields fun q => ?_) fun _ =>
      Yields.modifyGet fun s holding => ⟨_, holding.own 0 .typed⟩
  have deleted := bdel_targets q found
  rw [targets_ptr, if_neg named] at deleted
  rw [List.count_cons, ← List.count_singleton]
  omega

/-! ## Allocation -/

theorem allocNative_yields {type_ subtype : String} {size : Nat} {answer : AllocAnswer} :
    Yields (Holding terms extra hands) (allocNative type_ subtype size answer)
      (fun ptr s => s.Holding terms (ptr :: extra) hands ∧ s.fieldsAt ptr = []) (Holding terms extra hands) := by
  unfold allocNative
  split
  · exact Yields.throw fun _ holding => holding
  · exact Yields.modifyGet fun s holding => holding.allocate rfl rfl

theorem tpallocUbf_yields {size : Nat} :
    Yields (Holding terms extra hands) (tpallocUbf size)
      (fun id s => s.Holding terms extra ((id, []) :: hands)) (Holding terms extra hands) := by
  unfold tpallocUbf
  refine Yields.bind (Yields.ofKeeps Keeps.throwIf) fun _ =>
    Yields.bind (Yields.lift (next_keeps holding_answerable Queue.allocs_shrinks)) fun answer =>
      Yields.bind allocNative_yields fun ptr => Yields.modifyGet fun s ⟨holding, empty⟩ => ?_
  have owned := holding.own 0 .ubf
  rw [empty] at owned
  exact owned

theorem tpalloc_yields {type_ subtype : String} {size : Nat} :
    Yields (Holding terms extra hands) (tpalloc type_ subtype size)
      (fun id s => s.Holding terms extra ((id, []) :: hands)) (Holding terms extra hands) := by
  unfold tpalloc
  refine Yields.bind (Yields.ofKeeps Keeps.throwIf) fun _ => Yields.bind (Yields.ofKeeps Keeps.throwIf) fun _ =>
    Yields.bind (Yields.ofKeeps Keeps.throwIf) fun _ => ?_
  refine Yields.bind (Yields.lift (next_keeps holding_answerable Queue.allocs_shrinks)) fun answer =>
    Yields.bind allocNative_yields fun ptr => ?_
  let P : State → Prop := fun s => s.Holding terms (ptr :: extra) hands ∧ s.fieldsAt ptr = []
  refine Yields.bind (Q := fun _ => P) (Yields.outcome ((tptypesOf_ends answer.types ptr).mono (fun _ holds => holds)
    fun _ _ holds => holds.1)) fun types => ?_
  refine Yields.bind (Q := fun _ => P) ?_ fun _ => Yields.modifyGet fun s ⟨holding, empty⟩ => ?_
  · unfold clearAll
    split
    · refine Yields.runIf (fun _ => Yields.modify fun s ⟨holding, empty⟩ => ⟨?_, ?_⟩) fun _ _ holds => holds
      · exact holding.bytes ptr (fun _ => rfl) fun _ => rfl
      · have kept : (s.rewrite ptr fun a => { a with bytes := cleared 0 a.bytes }).fieldsAt ptr = s.fieldsAt ptr :=
          fieldsAt_rewrite _ _ _ _ fun _ _ => rfl
        exact kept.trans empty
    · exact Yields.pure fun _ holds => holds
  · have owned := holding.own 0 .typed
    rw [empty] at owned
    exact owned

/-! ## Cloning -/

theorem allocating_yields {α : Type} {m : AtmiM α} {P E : State → Prop} {Q : α → State → Prop} (yields : Yields P m Q E) :
    Yields P (allocating m) Q E := by
  unfold allocating
  refine Yields.bind (Yields.lift yields) fun result => ?_
  cases result with
  | ok a => exact Yields.pure fun _ holds => holds
  | error e => exact Yields.throw fun _ holds => holds

/-- It makes a value, or leaves what was in hand. -/
def Makes (terms : Terms) (extra : List Addr) (hands : List (BufId × Fields)) (m : UbfM BufId) : Prop :=
  Yields (Holding terms extra hands) m (fun copy s => ∃ inside, s.Holding terms extra ((copy, inside) :: hands))
    (Holding terms extra hands)

theorem clonePlain_makes (source : Addr) (info : TpTypeInfo) : Makes terms extra hands (clonePlain source info) := by
  unfold Makes clonePlain
  refine Yields.bind (Yields.ofKeeps (cloneSize_keeps info)) fun size =>
    Yields.bind (Yields.ofKeeps Keeps.throwIf) fun _ => Yields.bind (allocating_yields tpalloc_yields) fun copy => ?_
  refine Yields.bind (Q := fun _ => Holding terms extra ((copy, []) :: hands))
    (orDrop_yields (B := Holding terms extra ((copy, []) :: hands)) ?_ fun _ holding => holding.drop)
    fun _ => Yields.pure fun _ holding => ⟨[], holding⟩
  refine Yields.peek fun now => ?_
  refine Yields.bind (Yields.ofKeeps (allocating_keeps (tptypes_keeps holding_answerable _))) fun made => ?_
  refine Yields.bind (Yields.ofKeeps Keeps.throwIf) fun _ => Yields.modify fun s holding => ?_
  unfold copyMemory
  split
  · exact holding.bytes _ (fun _ => rfl) fun _ => rfl
  · exact holding

theorem cloneBuffer_makes {clone : List Addr → Fields → UbfM BufId}
    (makes : ∀ path fields, Makes terms extra hands (clone path fields)) (path : List Addr) (source : Addr) :
    Makes terms extra hands (cloneBuffer clone path source) := by
  unfold Makes cloneBuffer
  refine Yields.bind (Yields.ofKeeps (allocating_keeps (tptypes_keeps holding_answerable source))) fun info => ?_
  split
  · refine Yields.peek fun now => Yields.bind (Yields.ofKeeps Keeps.throwIf) fun _ =>
      Yields.bind (makes _ _) fun copy => ?_
    refine Yields.bind (Q := fun _ s => ∃ inside, s.Holding terms extra ((copy, inside) :: hands))
      (Yields.modify fun s made => ?_) fun _ => Yields.pure fun _ holds => holds
    obtain ⟨inside, holding⟩ := made
    exact ⟨inside, holding.setWrapper copy .typed⟩
  · exact clonePlain_makes source info

/-- What is not there has no pointers. -/
theorem targetsOf_end (f : BFLDID) (fields : Fields) : targetsOf f (boccur f fields) fields = [] := by
  unfold targetsOf
  rw [bfind_none_iff.2 (Nat.le_refl _)]
  rfl

/-- **The copying loop** adds one occurrence after another to the copy. -/
theorem cloneFields_yields (calm : terms.calm) {nested : Fields → UbfM BufId} {target : Addr → UbfM BufId}
    (copy : BufId) (embedded : ∀ fields hands, Makes terms extra hands (nested fields))
    (pointed : ∀ ptr hands, Makes terms extra hands (target ptr)) :
    ∀ (rest done held : Fields), (∀ f, boccur f held = boccur f done) →
      Yields (Holding terms extra ((copy, held) :: hands)) (cloneFields nested target copy done rest)
        (fun _ s => ∃ held', s.Holding terms extra ((copy, held') :: hands))
        (fun s => ∃ held', s.Holding terms extra ((copy, held') :: hands))
  | [], done, held, _ => by
      unfold cloneFields
      exact (Yields.ofKeeps (call_keeps holding_answerable)).mono (fun _ holds => holds)
        (fun _ _ holding => ⟨held, holding⟩) fun _ holding => ⟨held, holding⟩
  | (i, value) :: rest, done, held, level => by
      have left (s : State) (holding : s.Holding terms extra ((copy, held) :: hands)) :
          ∃ held', s.Holding terms extra ((copy, held') :: hands) := ⟨held, holding⟩
      have more (other : FieldValue) (type : other.type = value.type) :=
        cloneFields_yields calm copy embedded pointed rest (done ++ [(i, value)]) (held ++ [(i, other)]) fun f => by
          have here : isAt f (i, other) = isAt f (i, value) := by unfold isAt; rw [type]
          rw [boccur_append, boccur_append, level f, boccur_single, boccur_single, here]
      have put (f : BFLDID) (same : f = ⟨i, value.type⟩) (other : FieldValue) :
          bchg f (boccur f done) other held = held ++ [(i, other)] := by
        rw [← level f, bchg_end, same]
      have absent (f : BFLDID) : targetsOf f (boccur f done) held = [] := by rw [← level f, targetsOf_end]
      unfold cloneFields
      have called : Yields (Holding terms extra ((copy, held) :: hands)) call
          (fun _ => Holding terms extra ((copy, held) :: hands))
          (fun s => ∃ held', s.Holding terms extra ((copy, held') :: hands)) :=
        (Yields.ofKeeps (call_keeps holding_answerable)).mono (fun _ holds => holds) (fun _ _ holds => holds) left
      have stored (f : BFLDID) (same : f = ⟨i, value.type⟩) (other : FieldValue) (none : other.targets = [])
          (type : other.type = value.type) : Yields (Holding terms extra ((copy, held) :: hands)) (do
            putNative copy f (boccur f done) other true
            cloneFields nested target copy (done ++ [(i, value)]) rest)
            (fun _ s => ∃ held', s.Holding terms extra ((copy, held') :: hands))
            (fun s => ∃ held', s.Holding terms extra ((copy, held') :: hands)) := by
        refine Yields.bind ((putNative_yields (Q := Holding terms extra ((copy, held ++ [(i, other)]) :: hands))
          fun s holding => ?_).mono (fun _ holds => holds) (fun _ _ holds => holds) left) fun _ => more other type
        have changed : (s.changeFields copy (bchg f (boccur f done) other)).Holding terms
            (targetsOf f (boccur f done) held ++ extra) ((copy, bchg f (boccur f done) other held) :: hands) :=
          bchg_displaced (by rw [none]; exact holding)
        rw [put f same, absent f] at changed
        exact changed
      refine Yields.bind called fun _ => ?_
      cases value with
      | plain type inline bytes =>
          exact Yields.bind called fun _ => stored _ rfl _ rfl rfl
      | ubf fields =>
          refine Yields.bind called fun _ => Yields.bind ((embedded fields _).mono (fun _ holds => holds)
            (fun _ _ holds => holds) left) fun child => Ends.ofExists fun inside => ?_
          have embed : Yields (Holding terms extra ((copy, held) :: (child, inside) :: hands))
              (putOwnedUbf copy ⟨i, .Ubf⟩ (boccur ⟨i, .Ubf⟩ done) child true) _ _ :=
            embedUbf_yields (fun _ => .inl (absent _)) fun _ => calm
          refine Yields.bind (embed.mono (fun _ holding => holding.perm (.swap _ _ _)) (fun _ _ holds => holds)
            fun _ holds => left _ holds.1) fun _ => ?_
          rw [put ⟨i, .Ubf⟩ rfl]
          exact more (.ubf inside) rfl
      | ptr ptr =>
          refine Yields.bind ((Yields.ofKeeps (ptrRoots_keeps holding_answerable .scanned ptr)).mono
            (fun _ holds => holds) (fun _ _ holds => holds) left) fun roots => ?_
          cases roots with
          | nil => exact stored _ rfl (.ptr 0) rfl rfl
          | cons root roots =>
              refine Yields.bind called fun _ => Yields.bind ((pointed root _).mono (fun _ holds => holds)
                (fun _ _ holds => holds) left) fun child => Ends.ofExists fun inside => ?_
              have write : Yields (Holding terms extra ((copy, held) :: (child, inside) :: hands))
                  (writeValue copy ⟨i, .Ptr⟩ (some (boccur ⟨i, .Ptr⟩ done)) (.ptr child) true) _ _ :=
                writeValue_yields (v := .ptr child) fun _ => .inl (absent _)
              refine Yields.bind (write.mono (fun _ holding => holding.perm (.swap _ _ _)) (fun _ _ holds => holds)
                left) fun _ => Ends.ofExists fun held' => Ends.ofFact fun stored => ?_
              obtain ⟨p, rfl⟩ := stored child rfl
              show Yields (Holding terms extra ((copy, bchg _ _ (.ptr p) held) :: hands)) _ _ _
              rw [put ⟨i, .Ptr⟩ rfl]
              exact more (.ptr p) rfl

theorem cloneUbf_makes (calm : terms.calm) : ∀ (fuel : Nat) (path : List Addr) (fields : Fields)
    (hands : List (BufId × Fields)), Makes terms extra hands (cloneUbf fuel path fields)
  | 0, _, _, _ => Yields.throw fun _ holding => holding
  | fuel + 1, path, fields, hands => by
      unfold Makes cloneUbf
      refine Yields.bind (Yields.ofKeeps (call_keeps holding_answerable)) fun _ => Yields.peek fun now =>
        Yields.bind (allocating_yields tpallocUbf_yields) fun copy => ?_
      refine Yields.bind (orDrop_yields (cloneFields_yields calm copy (fun fields => cloneUbf_makes calm fuel path fields)
        (fun ptr hands => cloneBuffer_makes (fun path fields => cloneUbf_makes calm fuel path fields hands) path ptr)
        fields [] [] fun _ => rfl) fun _ made => made.elim fun _ holding => holding.drop) fun _ =>
          Yields.pure fun _ holds => holds

/-- **`deep_clone`** makes a value of its own. -/
theorem deepClone_makes (calm : terms.calm) (id : BufId) : Makes terms extra hands (deepClone id) :=
  Yields.peek fun _ => cloneUbf_makes calm 128 _ _ hands

theorem writeAdhoc_yields {f : BFLDID} {occ : Nat} {src : BufId} {realloc : Bool} (calm : terms.calm)
    (asks : Earnest terms (targetsOf f occ held)) :
    Yields (Holding terms extra ((id, held) :: hands)) (writeAdhoc id f occ src realloc)
      (fun _ s => ∃ held', s.Holding terms extra ((id, held') :: hands)) (Holding terms extra ((id, held) :: hands)) := by
  unfold writeAdhoc
  refine Yields.bind (deepClone_makes calm src) fun copy => Ends.ofExists fun inside => ?_
  exact (embedUbf_yields asks fun _ => calm).mono (fun _ holding => holding.perm (.swap _ _ _))
    (fun _ _ holding => ⟨_, holding⟩) fun _ holds => holds.1

end Endurox.Typed
