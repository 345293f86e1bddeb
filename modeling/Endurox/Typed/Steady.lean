/-
# Typed.Steady -- what every operation keeps

`Answerable P` says that `P` looks at answers still to come only through facts about
all of them; the operations that only ask keep it.  `Steady tracked P` says that each
change the UBF operations are made of keeps `P`; so do the operations then, on every way
out, and it is proved of each here once.

Some invariants care which pointers a change brings in.  If they are `tracked`, the state
is `Inside` at each step, and what an operation stores comes from addresses that were
handed out before: `P n` holds when the first `n` of them have been.
-/
import Endurox.Typed.Program

namespace Endurox.Typed

open Endurox.Theory

set_option autoImplicit false

/-! ## Fewer answers -/

/-- The answers left are among those there were. -/
structure Answers.Later (later before : Answers) : Prop where
  allocs : later.allocs ⊆ before.allocs
  reallocs : later.reallocs ⊆ before.reallocs
  displaced : later.displaced ⊆ before.displaced
  shell : later.shell ⊆ before.shell

theorem Answers.Later.refl (answers : Answers) : answers.Later answers :=
  ⟨List.Subset.refl _, List.Subset.refl _, List.Subset.refl _, List.Subset.refl _⟩

def Answerable (P : State → Prop) : Prop :=
  ∀ {s : State} {later : Answers}, later.Later s.answers → P s → P { s with answers := later }

/-- Taking an answer leaves fewer. -/
def Queue.Shrinks {α : Type} (queue : Queue α) : Prop :=
  ∀ (answers : Answers) (answer : α) (later : List α), queue.read answers = answer :: later →
    (queue.write later answers).Later answers

theorem Queue.allocs_shrinks : Queue.allocs.Shrinks := fun answers _ _ here =>
  { Answers.Later.refl answers with
    allocs := by rw [show answers.allocs = _ from here]; exact List.subset_cons_self _ _ }

theorem Queue.reallocs_shrinks : Queue.reallocs.Shrinks := fun answers _ _ here =>
  { Answers.Later.refl answers with
    reallocs := by rw [show answers.reallocs = _ from here]; exact List.subset_cons_self _ _ }

theorem Queue.displaced_shrinks : Queue.displaced.Shrinks := fun answers _ _ here =>
  { Answers.Later.refl answers with
    displaced := by rw [show answers.displaced = _ from here]; exact List.subset_cons_self _ _ }

theorem Queue.shell_shrinks : Queue.shell.Shrinks := fun answers _ _ here =>
  { Answers.Later.refl answers with
    shell := by rw [show answers.shell = _ from here]; exact List.subset_cons_self _ _ }

theorem Queue.types_shrinks : Queue.types.Shrinks := fun _ _ _ _ =>
  ⟨List.Subset.refl _, List.Subset.refl _, List.Subset.refl _, List.Subset.refl _⟩

theorem Queue.writes_shrinks : Queue.writes.Shrinks := fun _ _ _ _ =>
  ⟨List.Subset.refl _, List.Subset.refl _, List.Subset.refl _, List.Subset.refl _⟩

theorem Queue.present_shrinks : Queue.present.Shrinks := fun _ _ _ _ =>
  ⟨List.Subset.refl _, List.Subset.refl _, List.Subset.refl _, List.Subset.refl _⟩

theorem Queue.calls_shrinks : Queue.calls.Shrinks := fun _ _ _ _ =>
  ⟨List.Subset.refl _, List.Subset.refl _, List.Subset.refl _, List.Subset.refl _⟩

/-- What `tptypes` reports is of a live allocation. -/
theorem State.typesOf_some {ptr : Addr} {s : State} {info : TpTypeInfo} (known : s.typesOf ptr = some info) :
    ∃ a, s.heap.get ptr = some a ∧ a.live = true ∧ a.info = info := by
  unfold State.typesOf at known
  split at known
  · rename_i a found
    split at known
    · rename_i live
      exact ⟨a, found, live, Option.some.inj known⟩
    · cases known
  · cases known

section Asking

variable {P : State → Prop} (answerable : Answerable P)

include answerable

/-- An answer is one of the queue, or the one a call gets without. -/
theorem next_ends {α : Type} {queue : Queue α} (shrinks : queue.Shrinks) {G : α → Prop}
    (otherwise : G queue.otherwise) (all : ∀ s, P s → ∀ a ∈ queue.read s.answers, G a) :
    Ends P (next queue) fun a s => P s ∧ G a :=
  Ends.ofModifyGet fun s holds => by
    cases here : queue.read s.answers with
    | nil => exact ⟨holds, otherwise⟩
    | cons answer later =>
        exact ⟨answerable (shrinks s.answers answer later here) holds,
          all s holds answer (by rw [here]; exact List.mem_cons_self)⟩

/-- Asking for an answer changes nothing else. -/
theorem next_keeps {α : Type} {queue : Queue α} (shrinks : queue.Shrinks) : Keeps P (next queue) :=
  (next_ends answerable shrinks (G := fun _ => True) trivial fun _ _ _ _ => trivial).mono
    (fun _ holds => holds) fun _ _ holds => holds.1

/-- A native call without effects of its own, answered or failed. -/
theorem call_keeps : Keeps P call.run := by
  unfold call
  refine Keeps.tryBind (Keeps.lift (next_keeps answerable Queue.calls_shrinks)) fun failure => ?_
  cases failure with
  | some e => exact Keeps.throw
  | none => exact Keeps.tryPure

omit answerable in
/-- What is reported of an allocation is what it is. -/
theorem tptypesOf_ends (failure : Option AtmiError) (ptr : Addr) :
    Ends P (tptypesOf failure ptr).run fun result s =>
      P s ∧ ∀ info, result = .ok info → s.typesOf ptr = some info := by
  unfold tptypesOf
  refine Ends.tryBind (F := fun result s => P s ∧ result = .ok s) (Ends.tryGet fun _ holds => ⟨holds, rfl⟩)
    (fun _ _ holds => nomatch holds.2) fun before => ?_
  rintro s ⟨holds, ⟨⟩⟩
  split
  · exact ⟨holds, fun _ impossible => nomatch impossible⟩
  · rename_i known
    exact ⟨holds, fun _ same => Except.ok.inj same ▸ known⟩
  · exact ⟨holds, fun _ impossible => nomatch impossible⟩

/-- `tptypes`, which may also fail on a live allocation. -/
theorem tptypes_ends (ptr : Addr) : Ends P (tptypes ptr).run fun result s =>
    P s ∧ ∀ info, result = .ok info → s.typesOf ptr = some info :=
  Ends.tryBind (Keeps.lift (next_keeps answerable Queue.types_shrinks))
    (fun _ _ holds => ⟨holds, fun _ impossible => nomatch impossible⟩) fun failure =>
      tptypesOf_ends failure ptr

theorem tptypes_keeps (ptr : Addr) : Keeps P (tptypes ptr).run :=
  (tptypes_ends answerable ptr).mono (fun _ holds => holds) fun _ _ holds => holds.1

/-- A value becomes a `TypedUbf` when its buffer is a UBF, and is dropped otherwise. -/
theorem fromTyped_keeps (id : BufId)
    (wrapped : ∀ s info, P s → s.typesOf (s.buffer id).ptr = some info → info.typeName = "UBF" →
      P (s.setWrapper id .ubf))
    (dropped : ∀ s, P s → P (s.drop id)) : Keeps P (fromTyped id).run := by
  unfold fromTyped
  refine Ends.tryRead fun now => ?_
  have kept : Answerable fun s => P s ∧ s.buffer id = now.buffer id :=
    fun later holds => ⟨answerable later holds.1, holds.2⟩
  refine Ends.tryBind (F := fun result s => ∃ known, result = .ok known ∧
      (P s ∧ s.buffer id = now.buffer id) ∧
        ∀ info, known = .ok info → s.typesOf (now.buffer id).ptr = some info)
    (Ends.lift ((tptypes_ends kept _).mono (fun s holds => ⟨holds.1, holds.2 ▸ rfl⟩)
      fun _ _ holds => ⟨_, rfl, holds⟩)) (fun _ _ ⟨_, impossible, _⟩ => nomatch impossible) fun known => ?_
  refine Ends.mono (B := fun s => (P s ∧ s.buffer id = now.buffer id) ∧
      ∀ info, known = .ok info → s.typesOf (now.buffer id).ptr = some info) ?_
    (fun s ⟨_, same, holds⟩ => Except.ok.inj same ▸ holds) fun _ _ holds => holds
  cases known with
  | error e =>
      exact Ends.tryBind (F := fun _ => P) (Ends.tryModify fun s holds => dropped s holds.1.1) (fun _ _ holds => holds)
        fun _ => Keeps.throw
  | ok info =>
      dsimp only
      split
      · rename_i ubf
        exact Ends.tryModify fun s ⟨⟨holds, same⟩, types⟩ => wrapped s info holds (same ▸ types info rfl) ubf
      · exact Ends.tryBind (F := fun _ => P) (Ends.tryModify fun s holds => dropped s holds.1.1) (fun _ _ holds => holds)
          fun _ => Keeps.throw

/-- The beginning of an `edit_ubf`: another type leaves the value as it is. -/
theorem editUbf_keeps (id : BufId)
    (wrapped : ∀ s info, P s → s.typesOf (s.buffer id).ptr = some info → info.typeName = "UBF" →
      P (s.setWrapper id .ubf))
    (dropped : ∀ s, P s → P (s.drop id)) : Keeps P (editUbf id) := by
  unfold editUbf
  refine Keeps.bind Keeps.ofGet fun now => Keeps.bind (tptypes_keeps answerable _) fun known => ?_
  cases known with
  | error e => exact Keeps.pure
  | ok info =>
      dsimp only
      split
      · exact Keeps.bind (fromTyped_keeps answerable id wrapped dropped) fun _ => Keeps.pure
      · exact Keeps.pure

theorem requireCarray_keeps (op : String) (id : BufId) : Keeps P (requireCarray op id).run :=
  Keeps.tryBind Keeps.tryGet fun _ => Keeps.tryBind (tptypes_keeps answerable _) fun _ =>
    Keeps.tryBind Keeps.throwIf fun _ => Keeps.tryPure

omit answerable in
/-- A refusal to shrink looks at sizes only. -/
theorem refuseShrink_keeps (newSize : Nat) (viewSize : String → Except UbfError Nat)
    (before : Except AtmiError TpTypeInfo) : Keeps P (refuseShrink newSize viewSize before).run := by
  unfold refuseShrink
  split
  · split
    · exact Keeps.throwIf
    · exact Keeps.tryPure
  · exact Keeps.tryPure

omit answerable in
theorem cloneSize_keeps (info : TpTypeInfo) : Keeps P (cloneSize info).run := by
  unfold cloneSize
  split
  · exact Keeps.tryBind Keeps.tryGet fun _ => Keeps.ofExcept
  · exact Keeps.tryPure

omit answerable in
/-- An XATMI error that becomes a `BMALLOC`. -/
theorem allocating_ends {α : Type} {m : AtmiM α} {R : State → Prop} {Q : α → State → Prop}
    (ends : Ends P m.run fun result s => R s ∧ ∀ a, result = .ok a → Q a s) :
    Ends P (allocating m).run fun result s => R s ∧ ∀ a, result = .ok a → Q a s := by
  unfold allocating
  refine Ends.tryBind (F := fun result s => R s ∧ ∀ answer, result = .ok answer → ∀ a, answer = .ok a → Q a s)
    (Ends.lift (ends.mono (fun _ holds => holds)
      fun _ _ holds => ⟨holds.1, fun _ same => Except.ok.inj same ▸ holds.2⟩))
    (fun _ _ holds => ⟨holds.1, fun _ impossible => nomatch impossible⟩) fun result => ?_
  cases result with
  | ok a => exact Ends.tryPure fun _ holds => ⟨holds.1, fun _ same => Except.ok.inj same ▸ holds.2 _ rfl _ rfl⟩
  | error e => exact Ends.throw fun _ holds => ⟨holds.1, fun _ impossible => nomatch impossible⟩

omit answerable in
theorem allocating_keeps {α : Type} {m : AtmiM α} (keeps : Keeps P m.run) :
    Keeps P (allocating m).run :=
  (allocating_ends (Q := fun _ _ => True) (keeps.mono (fun _ holds => holds)
    fun _ _ holds => ⟨holds, fun _ _ => trivial⟩)).mono (fun _ holds => holds) fun _ _ holds => holds.1

omit answerable in
/-- On an error the value is dropped. -/
theorem orDrop_ends {α : Type} {id : BufId} {m : UbfM α} {F : Except UbfError α → State → Prop}
    (ends : Ends P m.run fun result s => match result with
      | .ok a => F (.ok a) s
      | .error e => F (.error e) (s.drop id)) : Ends P (orDrop id m).run F := by
  unfold Typed.orDrop
  refine Ends.tryOutcome ends fun result => ?_
  cases result with
  | ok a => exact Ends.tryPure fun _ holds => holds
  | error e =>
      exact Ends.tryBind (F := fun result s => result = .ok ⟨⟩ ∧ F (.error e) s)
        (Ends.tryModify fun _ holds => ⟨rfl, holds⟩) (fun _ _ holds => nomatch holds.1)
        fun _ => Ends.throw fun _ holds => holds.2

omit answerable in
/-- What holds on success and on failure alike, and of the value dropped. -/
theorem orDrop_always {α : Type} {id : BufId} {m : UbfM α} {Q : State → Prop}
    (ends : Ends P m.run fun _ => Q) (dropped : ∀ s, Q s → Q (s.drop id)) :
    Ends P (orDrop id m).run fun _ => Q :=
  orDrop_ends (ends.mono (fun _ holds => holds) fun result s holds => by
    cases result with
    | ok a => exact holds
    | error e => exact dropped s holds)

theorem requireFieldType_keeps (f : BFLDID) (want : UbfFieldType) (what : String) :
    Keeps P (requireFieldType f want what).run :=
  Keeps.tryBind (call_keeps answerable) fun _ => Keeps.throwIf

/-- A pointer that is read is there, and not null. -/
theorem readPtrField_yields (f : BFLDID) (occ : Nat) (fields : Fields) :
    Yields P (readPtrField f occ fields)
      (fun target s => P s ∧ target ≠ 0 ∧ bfind f occ fields = some (.ptr target)) P := by
  unfold readPtrField
  refine Yields.bind (Yields.ofKeeps (requireFieldType_keeps answerable _ _ _)) fun _ =>
    Yields.bind (Yields.ofKeeps (call_keeps answerable)) fun _ => ?_
  split
  · rename_i target found
    split
    · exact Yields.throw fun _ holds => holds
    · rename_i named
      exact Yields.pure fun _ holds => ⟨holds, named, found⟩
  · exact Yields.throw fun _ holds => holds

/-! ## Roots and trees -/

variable {clean : Prop} (truthful : clean → ∀ s, P s → ∀ e ∈ s.answers.displaced, e = none)

include truthful

/-- Whether a question is answered, when those about what is to go all are. -/
theorem Asked.next_ends (asked : Asked) :
    Ends P asked.next fun e s => P s ∧ (clean → asked = .displaced → e = none) := by
  cases asked with
  | displaced =>
      exact Typed.next_ends answerable Queue.displaced_shrinks
        (G := fun e => clean → Asked.displaced = .displaced → e = none) (fun _ _ => rfl)
        fun s holds e member clean _ => truthful clean s holds e member
  | scanned =>
      exact (next_keeps answerable Queue.present_shrinks).mono (fun _ holds => holds)
        fun _ _ holds => ⟨holds, fun _ scanned => nomatch scanned⟩

/-- The roots reported are those there are, when the questions are answered. -/
def Reports (P : State → Prop) (clean : Prop) (asked : Asked) (targets : List Addr)
    (m : UbfM (List Addr)) : Prop :=
  Ends P m.run fun result s =>
    P s ∧ ∀ roots, result = .ok roots → clean → asked = .displaced → roots = targets

section Reports

variable {asked : Asked} {targets T : List Addr}

omit answerable truthful in
theorem Reports.pure {roots : List Addr} (found : clean → asked = .displaced → roots = targets) :
    Reports P clean asked targets (Pure.pure roots) :=
  Ends.tryPure fun _ holds => ⟨holds, fun _ same => Except.ok.inj same ▸ found⟩

omit answerable truthful in
theorem Reports.throw {e : UbfError} : Reports P clean asked targets (throw e) :=
  Ends.throw fun _ holds => ⟨holds, fun _ impossible => nomatch impossible⟩

omit answerable truthful in
/-- Roots found from roots found. -/
theorem Reports.bind {m : UbfM (List Addr)} {f : List Addr → UbfM (List Addr)}
    (first : Reports P clean asked T m)
    (rest : ∀ roots, (clean → asked = .displaced → roots = T) → Reports P clean asked targets (f roots)) :
    Reports P clean asked targets (m >>= f) :=
  Ends.tryBind first (fun _ _ holds => ⟨holds.1, fun _ impossible => nomatch impossible⟩)
    fun roots s holds => rest roots (holds.2 roots rfl) s holds.1

omit truthful in
/-- A native call before the roots are looked for; its failure reports none. -/
theorem Reports.called {m : UbfM (List Addr)} (rest : Reports P clean asked targets m) :
    Reports P clean asked targets (call >>= fun _ => m) :=
  Ends.tryBind (call_keeps answerable) (fun _ _ holds => ⟨holds, fun _ impossible => nomatch impossible⟩)
    fun _ => rest

/-- An occurrence that is there, if the question about it is answered. -/
theorem Reports.present {absent present : UbfM (List Addr)} (missed : Reports P clean .scanned targets absent)
    (found : Reports P clean asked targets present) :
    Reports P clean asked targets (do
      match ← (asked.next : StateM State (Option UbfError)) with
      | some _ => absent
      | none => present) := by
  refine Ends.tryBind (F := fun e s => P s ∧ ∀ e', e = .ok e' → clean → asked = .displaced → e' = none)
    (Ends.lift ((Asked.next_ends answerable truthful asked).mono (fun _ holds => holds)
      fun e s holds => ⟨holds.1, fun e' same => Except.ok.inj same ▸ holds.2⟩))
    (fun _ _ holds => ⟨holds.1, fun _ impossible => nomatch impossible⟩) fun e => ?_
  cases e with
  | some failure =>
      refine (Ends.ofThen fun unanswered => missed.mono (fun _ holds => holds) ?_).mono
        (fun s holds => ⟨holds.2 _ rfl, holds.1⟩) fun _ _ holds => holds
      exact fun _ _ holds => ⟨holds.1, fun _ _ clean displaced => absurd (unanswered clean displaced) (by simp)⟩
  | none => exact found.mono (fun _ holds => holds.1) fun _ _ holds => holds

theorem ptrRoots_reports (asked : Asked) (target : Addr) :
    Reports P clean asked (FieldValue.ptr target).targets (ptrRoots asked target) :=
  Reports.present answerable truthful (Reports.pure fun _ scanned => nomatch scanned)
    (Reports.called answerable (Reports.pure fun _ _ => rfl))

omit truthful in
/-- Looking at a pointer follows it no further. -/
theorem ptrRoots_keeps (asked : Asked) (target : Addr) : Keeps P (ptrRoots asked target).run :=
  (ptrRoots_reports answerable (fun impossible : False => nomatch impossible) asked target).mono
    (fun _ holds => holds) fun _ _ holds => holds.1

/-- **`collect_roots` finds every pointer embedded**, at any depth it does not refuse. -/
theorem collectRoots_reports (asked : Asked) : ∀ (fuel : Nat) (fields : Fields),
    Reports P clean asked (targetsIn fields) (collectRoots asked fuel fields)
  | 0, _ => Reports.throw
  | fuel + 1, fields => by
      rw [collectRoots_succ]
      have loop : ∀ (fields : Fields) (before : List Addr), Reports P clean asked (before ++ targetsIn fields)
          (fields.foldlM (addRoots asked fuel) before) := by
        intro fields
        induction fields with
        | nil => exact fun before => Reports.pure fun _ _ => (List.append_nil before).symm
        | cons item fields ih =>
            obtain ⟨id, value⟩ := item
            intro before
            rw [List.foldlM_cons, targetsIn_cons, ← List.append_assoc]
            refine Reports.bind (T := before ++ value.targets) (Reports.called answerable ?_)
              fun roots found => ?_
            · cases value with
              | plain type inline bytes => exact Reports.pure fun _ _ => (List.append_nil before).symm
              | ptr target =>
                  exact (ptrRoots_reports answerable truthful asked target).bind fun more found => Reports.pure
                    fun clean displaced => by rw [found clean displaced]
              | ubf nested =>
                  exact Reports.called answerable ((collectRoots_reports asked fuel nested).bind
                    fun more found => Reports.pure fun clean displaced => by rw [found clean displaced]; rfl)
            · refine (ih roots).mono (fun _ holds => holds) fun result s holds => ⟨holds.1, ?_⟩
              exact fun all same clean displaced => found clean displaced ▸ holds.2 all same clean displaced
      exact loop fields []

/-- **The roots of an occurrence** are the pointers it holds. -/
theorem ownedFieldRoots_reports (asked : Asked) (f : BFLDID) (occ : Nat) (fields : Fields) :
    Reports P clean asked ((bfind f occ fields).elim [] FieldValue.targets)
      (ownedFieldRoots asked f occ fields) := by
  unfold ownedFieldRoots
  cases bfind f occ fields with
  | none => exact Reports.pure fun _ _ => rfl
  | some value =>
      cases value with
      | ptr target => exact ptrRoots_reports answerable truthful asked target
      | ubf nested =>
          exact Reports.present answerable truthful (Reports.pure fun _ scanned => nomatch scanned)
            (Reports.called answerable (collectRoots_reports answerable truthful asked 129 nested))
      | plain type inline bytes =>
          exact Reports.present answerable truthful (Reports.pure fun _ _ => rfl)
            (Reports.called answerable (Reports.pure fun _ _ => rfl))

end Reports

omit truthful in
/-- The search for shared targets, on every way out: it only asks. -/
theorem uniqueTargets_keeps : ∀ (fuel : Nat) (fields : Fields) (seen : List Addr),
    Keeps P (uniqueTargets fuel fields seen).run
  | 0, _, _ => Keeps.throw
  | fuel + 1, fields, seen => by
      unfold uniqueTargets
      refine Keeps.tryFoldlM (fun seen item => Keeps.tryBind (call_keeps answerable) fun _ => ?_) fields seen
      obtain ⟨id, value⟩ := item
      cases value with
      | plain type inline bytes => exact Keeps.tryPure
      | ubf nested =>
          exact Keeps.tryBind (call_keeps answerable) fun _ => uniqueTargets_keeps fuel nested seen
      | ptr target =>
          refine Keeps.tryBind (ptrRoots_keeps answerable .scanned target) fun roots => ?_
          refine Keeps.tryFoldlM (fun seen root => ?_) roots seen
          refine Keeps.tryBind Keeps.throwIf fun _ => ?_
          refine Keeps.tryBind (allocating_keeps (tptypes_keeps answerable _)) fun info => ?_
          split
          · exact Keeps.tryBind Keeps.tryGet fun s => uniqueTargets_keeps fuel _ _
          · exact Keeps.tryPure

omit truthful in
/-- Nothing is changed where a tree is only checked. -/
theorem ensureOwnedTree_keeps (id : BufId) : Keeps P (ensureOwnedTree id).run :=
  Keeps.tryBind Keeps.tryGet fun _ =>
    Keeps.tryBind (uniqueTargets_keeps answerable _ _ _) fun _ => Keeps.tryPure

/-- What is to go with an occurrence of the fields there were. -/
theorem displacedRoots_ends (id : BufId) (f : BFLDID) (occ : Nat) {fields : Fields} :
    Ends (fun s => P s ∧ s.fieldsOf id = fields) (displacedRoots id f occ).run fun result s =>
      P s ∧ ∀ roots, result = .ok roots → clean →
        roots = (bfind f occ fields).elim [] FieldValue.targets := by
  unfold displacedRoots
  refine Ends.tryBind (F := fun result s => ∃ s', result = .ok s' ∧ P s ∧ s'.fieldsOf id = fields)
    (Ends.tryGet fun s holds => ⟨s, rfl, holds⟩) (fun _ _ ⟨_, impossible, _⟩ => nomatch impossible) fun s => ?_
  refine (Ends.ofFact (P := P) fun same : s.fieldsOf id = fields => ?_).mono
    (fun s' ⟨_, this, holds, same⟩ => ⟨holds, Except.ok.inj this ▸ same⟩) fun _ _ holds => holds
  subst same
  refine Ends.tryBind (ownedFieldRoots_reports answerable truthful .displaced f occ _)
    (fun _ _ holds => ⟨holds.1, fun _ impossible => nomatch impossible⟩) fun roots => ?_
  refine (Ends.ofFact (P := P) fun found => ?_).mono (fun _ holds => ⟨holds.1, holds.2 roots rfl⟩)
    fun _ _ holds => holds
  refine Ends.tryBind (Keeps.runIf fun _ => ensureOwnedTree_keeps answerable id)
    (fun _ _ holds => ⟨holds, fun _ impossible => nomatch impossible⟩) fun _ => ?_
  exact Ends.tryPure fun s holds => ⟨holds, fun all same clean => Except.ok.inj same ▸ found clean rfl⟩

end Asking

/-! ## Addresses handed out -/

namespace State

/-- Addresses and values are handed out in order, and no stored pointer names what was never handed out. -/
structure Settled (s : State) : Prop where
  null : s.heap.get 0 = none
  positive : 0 < s.next
  inside : ∀ a allocation, s.heap.get a = some allocation →
    a < s.next ∧ ∀ p ∈ targetsIn allocation.fields, p < s.next
  fresh : ∀ id, s.nextBuf ≤ id → s.bufs.get id = none

/-- Nor does a value or a dump; and these addresses have been handed out. -/
structure Inside (n : Addr) (s : State) : Prop where
  settled : s.Settled
  reach : n ≤ s.next
  held : ∀ id place, s.bufs.get id = some place → place.buffer.ptr < s.next
  dumped : ∀ fields ∈ s.dumps, ∀ p ∈ targetsIn fields, p < s.next

variable {n : Addr} {s : State}

/-- What has been handed out by now counts as handed out. -/
theorem Inside.rebase (inside : s.Inside n) : s.Inside s.next := { inside with reach := Nat.le_refl _ }

/-- What held of more addresses holds of fewer. -/
theorem Inside.lower {m : Addr} (inside : s.Inside m) (less : n ≤ m) : s.Inside n :=
  { inside with reach := Nat.le_trans less inside.reach }

/-- The address of a value that is not there is null, which is below every other. -/
theorem Inside.buffer (inside : s.Inside n) (id : BufId) : (s.buffer id).ptr < s.next := by
  unfold State.buffer
  split
  · rename_i place owned
    exact inside.held id place owned
  · exact inside.settled.positive

/-- No pointer in a field of an allocation is still to be handed out. -/
theorem Inside.fieldsAt (inside : s.Inside n) (ptr : Addr) : ∀ p ∈ targetsIn (s.fieldsAt ptr), p < s.next := by
  unfold State.fieldsAt
  split
  · rename_i allocation found
    exact (inside.settled.inside ptr allocation found).2
  · exact fun _ none => absurd none List.not_mem_nil

/-- Nor is one that was written out. -/
theorem Inside.dump (inside : s.Inside n) (k : Nat) : ∀ p ∈ targetsIn (s.dumps.getD k []), p < s.next := by
  rw [List.getD_eq_getElem?_getD]
  cases there : s.dumps[k]? with
  | none => exact fun _ none => nomatch none
  | some fields => exact inside.dumped fields (List.mem_of_getElem? there)

end State

/-- A change that brings in no other pointers than these addresses. -/
def Adds (n : Addr) (change : Fields → Fields) : Prop :=
  ∀ fields, ∀ p ∈ targetsIn (change fields), p ∈ targetsIn fields ∨ p < n

section Adds

variable {n : Addr}

/-- A target of fields is a target of one of them. -/
theorem mem_targetsIn {p : Addr} {fields : Fields} :
    p ∈ targetsIn fields ↔ ∃ item ∈ fields, p ∈ item.2.targets := by
  induction fields with
  | nil => simp
  | cons item fields ih =>
      obtain ⟨id, value⟩ := item
      simp [ih]

theorem targetsIn_subset {fields more : Fields} (less : fields ⊆ more) : targetsIn fields ⊆ targetsIn more :=
  fun _ member =>
    have ⟨item, there, held⟩ := mem_targetsIn.1 member
    mem_targetsIn.2 ⟨item, less there, held⟩

/-- An occurrence that is found brings no target of its own. -/
theorem targets_of_bfind {f : BFLDID} {occ : Nat} {fields : Fields} {value : FieldValue}
    (found : bfind f occ fields = some value) : ∀ p ∈ value.targets, p ∈ targetsIn fields := by
  intro p member
  obtain ⟨item, there, rfl⟩ := List.mem_map.1 (List.mem_of_getElem? found)
  exact mem_targetsIn.2 ⟨item, (List.mem_filter.1 there).1, member⟩

/-- A changed occurrence: the targets are those that were there, and those of the new value. -/
theorem targetsIn_bchg (f : BFLDID) (occ : Nat) (value : FieldValue) (fields : Fields) :
    ∀ p ∈ targetsIn (bchg f occ value fields), p ∈ targetsIn fields ∨ p ∈ value.targets := by
  intro p member
  have counted := bchg_targets f occ value fields p
  have some : 0 < (targetsIn (bchg f occ value fields)).count p := List.count_pos_iff.2 member
  by_cases there : p ∈ targetsIn fields
  · exact .inl there
  · rw [List.count_eq_zero.2 there] at counted
    exact .inr (List.count_pos_iff.1 (by omega))

/-- A deletion brings no field. -/
theorem bdel_subset (f : BFLDID) : ∀ (occ : Nat) (fields : Fields), bdel f occ fields ⊆ fields
  | _, [] => List.Subset.refl _
  | occ, item :: fields => by
      unfold bdel
      split
      · cases occ with
        | zero => exact List.subset_cons_self _ _
        | succ occ => exact List.cons_subset_cons item (bdel_subset f occ fields)
      · exact List.cons_subset_cons item (bdel_subset f occ fields)

/-- `Bjoin` and `Bojoin` keep fields and replace them by those of the source; the targets are of one of
the two. -/
theorem joined_subset (keeps : Bool) (src : Fields) : ∀ done rest : Fields, ∀ p ∈ targetsIn (joined keeps src done rest),
    p ∈ targetsIn rest ∨ p ∈ targetsIn src
  | _, [], _, member => nomatch member
  | done, item :: rest, p, member => by
      have later := joined_subset keeps src (done ++ [item]) rest p
      unfold joined at member
      split at member
      · rename_i value found
        rcases List.mem_append.1 member with taken | others
        · exact .inr (targets_of_bfind found p taken)
        · exact (later others).imp_left fun there => List.mem_append_right _ there
      · split at member
        · rcases List.mem_append.1 member with kept | others
          · exact .inl (List.mem_append_left _ kept)
          · exact (later others).imp_left fun there => List.mem_append_right _ there
        · exact (later member).imp_left fun there => List.mem_append_right _ there

/-- `Bupdate` adds no target to those of its two buffers. -/
theorem updated_subset : ∀ done rest dst : Fields, ∀ p ∈ targetsIn (updated done rest dst),
    p ∈ targetsIn dst ∨ p ∈ targetsIn rest
  | _, [], _, _, member => .inl member
  | done, item :: rest, dst, p, member => by
      unfold updated at member
      rcases updated_subset _ rest _ p member with there | later
      · exact (targetsIn_bchg _ _ _ dst p there).imp_right fun written => List.mem_append_left _ written
      · exact .inr (List.mem_append_right _ later)

theorem adds_const {fields : Fields} (below : ∀ p ∈ targetsIn fields, p < n) : Adds n fun _ => fields :=
  fun _ p member => .inr (below p member)

theorem adds_append {more : Fields} (below : ∀ p ∈ targetsIn more, p < n) : Adds n fun fields => fields ++ more := by
  intro fields p member
  rw [targetsIn_append, List.mem_append] at member
  exact member.imp_right (below p)

/-- A value stored with targets that were handed out. -/
theorem adds_bchg (f : BFLDID) (occ : Nat) {value : FieldValue} (below : ∀ p ∈ value.targets, p < n) :
    Adds n (bchg f occ value) := fun fields p member =>
  (targetsIn_bchg f occ value fields p member).imp_right (below p)

theorem adds_bdel (f : BFLDID) (occ : Nat) : Adds n (bdel f occ) := fun fields _ member =>
  .inl (targetsIn_subset (bdel_subset f occ fields) member)

/-- A value changed or added, with targets that were handed out. -/
theorem adds_chgOrAdd (f : BFLDID) (occ : Option Nat) {value : FieldValue} (below : ∀ p ∈ value.targets, p < n) :
    Adds n (chgOrAdd f occ value) := by
  cases occ with
  | some occ => exact adds_bchg f occ below
  | none => exact adds_append fun p member => below p (by simpa [targetsIn] using member)

theorem adds_ptr {ptr : Addr} (below : ptr < n) : ∀ p ∈ (FieldValue.ptr ptr).targets, p < n := by
  intro p member
  rw [targets_ptr] at member
  split at member
  · cases member
  · exact List.mem_singleton.1 member ▸ below

/-- **A copy adds what its source holds.** -/
theorem adds_result (copying : Copying) {src : Fields} (below : ∀ p ∈ targetsIn src, p < n) :
    Adds n fun fields => copying.result fields src := by
  cases copying with
  | bcpy => exact adds_const below
  | bconcat => exact adds_append below
  | bjoin => exact fun fields p member => (joined_subset false src [] fields p member).imp_right (below p)
  | bojoin => exact fun fields p member => (joined_subset true src [] fields p member).imp_right (below p)
  | bupdate => exact fun fields p member => (updated_subset [] src fields p member).imp_right (below p)
  | bprojcpy fldlist => exact adds_const fun p member => below p (targetsIn_subset (List.filter_subset_self _) member)

/-- A VIEW embeds no pointer that anything follows. -/
theorem viewValue_targets (id : BufId) (s : State) : (viewValue id s).targets = [] := by
  unfold viewValue
  split <;> rfl

end Adds

/-! ## Changes -/

structure Steady (tracked : Prop) (P : Addr → State → Prop) : Prop where
  inside : ∀ {n : Addr} {s : State}, tracked → P n s → s.Inside n
  rebase : ∀ {n : Addr} {s : State}, P n s → P s.next s
  lower : ∀ {n m : Addr} {s : State}, (tracked → n ≤ m) → P m s → P n s
  answered : ∀ n : Addr, Answerable (P n)
  fields : ∀ {n : Addr} {s : State} (id : BufId) (change : Fields → Fields), (tracked → Adds n change) → P n s →
    P n (s.changeFields id change)
  freed : ∀ {n : Addr} {s : State} (ptr : Addr), P n s → P n (s.tpfree ptr)
  forgotten : ∀ {n : Addr} {s : State} (id : BufId), P n s → P n (s.forget id)
  /-- A value made of an address is a `TypedBuffer`. -/
  owned : ∀ {n : Addr} {s : State} (buffer : TypedBuffer), (tracked → buffer.ptr < n) → P n s →
    P n (s.own ⟨buffer, .typed⟩).2
  unwrapped : ∀ {n : Addr} {s : State} (id : BufId), P n s → P n (s.setWrapper id .typed)
  dumped : ∀ {n : Addr} {s : State} (id : BufId), P n s → P n { s with dumps := s.dumps ++ [s.fieldsOf id] }
  tprealloc : ∀ (n : Addr) (id : BufId) (size : Nat), Keeps (P n) (tprealloc id size).run
  tpallocUbf : ∀ (n : Addr) (size : Nat), Keeps (P n) (tpallocUbf size).run
  tpalloc : ∀ (n : Addr) (type_ subtype : String) (size : Nat), Keeps (P n) (tpalloc type_ subtype size).run
  /-- The program's bytes, in a buffer of its own. -/
  copied : ∀ {n : Addr} {s : State} (ptr : Addr) (bytes : List UInt8), P n s →
    P n (s.rewrite ptr fun a => { a with bytes := Typed.copied (bytes.map some) a.bytes })
  masked : ∀ {n : Addr} {s : State} (ptr : Addr) (len : Nat) (write : Nat → Option UInt8), P n s →
    P n (s.rewrite ptr fun a =>
      { a with bytes := a.bytes.mapIdx fun i byte => if i < len then (write i <|> byte) else byte })
  measured : ∀ {n : Addr} {s : State} (id : BufId) (len : Nat), P n s →
    P n (s.setBuffer id { s.buffer id with len })
  clonePlain : ∀ (n : Addr) (source : Addr) (info : TpTypeInfo),
    Ends (fun s => P n s ∧ s.typesOf source = some info) (clonePlain source info).run fun _ => P n

/-- Every operation but those that receive a message, wrap a buffer or exchange two. -/
def Op.plain : Op → Bool
  | .tpimport _ | .tpcall .. | .tpgetrply .. | .fromTyped _ | .editUbf _ | .assign .. | .swap .. => false
  | _ => true

namespace Steady

variable {tracked : Prop} {P : Addr → State → Prop} (steady : Steady tracked P) {n : Addr}

include steady

/-- What is read was handed out, and so was whatever is handed out from then on. -/
theorem read {α : Type} {f : State → UbfM α}
    (rest : ∀ now, (tracked → now.Inside n) → Keeps (P now.next) (f now).run) :
    Keeps (P n) ((get : UbfM State) >>= f).run := fun s holds => by
  have inside : tracked → s.Inside n := fun known => steady.inside known holds
  exact steady.lower (fun known => (inside known).reach) (rest s inside s (steady.rebase holds))

/-- The roots of what was displaced, freed one after another. -/
theorem freeRoots {s : State} (roots : List Addr) (holds : P n s) : P n (s.freeRoots roots) := by
  unfold State.freeRoots
  induction roots.eraseDups generalizing s with
  | nil => exact holds
  | cons root roots ih => exact ih (steady.freed root holds)

/-- A dropped value frees its buffer. -/
theorem drop {s : State} (id : BufId) (holds : P n s) : P n (s.drop id) :=
  steady.freed _ (steady.forgotten id holds)

/-- A value that is written is dropped if it cannot be. -/
theorem orDrop {α : Type} {id : BufId} {m : UbfM α} (keeps : Keeps (P n) m.run) :
    Keeps (P n) (orDrop id m).run :=
  orDrop_always keeps fun _ holds => steady.drop id holds

/-- What a write would displace is looked up, and changed by nothing. -/
theorem displacedRoots (id : BufId) (f : BFLDID) (occ : Nat) : Keeps (P n) (displacedRoots id f occ).run :=
  fun s holds => (displacedRoots_ends (steady.answered n) (fun impossible : False => nomatch impossible) id f occ s
    ⟨holds, rfl⟩).1

/-! ### Writes -/

/-- A buffer that grows may move; the value follows it. -/
theorem growBuffer (id : BufId) : Keeps (P n) (growBuffer id).run :=
  Keeps.tryBind (call_keeps (steady.answered n)) fun _ => Keeps.tryBind Keeps.tryGet fun _ =>
    allocating_keeps (steady.tprealloc n id _)

/-- **A store is tried until it fits**: by induction on how often the native call asks for space. -/
theorem untilFits {α : Type} {id : BufId} {realloc : Bool} {look : UbfM α} {store : α → UbfM Unit}
    (looked : Keeps (P n) look.run) (stored : ∀ a, Keeps (P n) (store a).run) :
    ∀ fuel : Nat, Keeps (P n) (untilFits id realloc look store fuel).run
  | 0 => Keeps.throw
  | fuel + 1 => by
      unfold Typed.untilFits
      refine Keeps.tryBind looked fun found => ?_
      refine Keeps.tryBind (Keeps.lift (next_keeps (steady.answered n) Queue.writes_shrinks)) fun failure => ?_
      cases failure with
      | none => exact stored found
      | some e =>
          dsimp only
          split
          · exact Keeps.tryBind (steady.growBuffer id) fun _ => untilFits looked stored fuel
          · exact Keeps.throw

theorem writing {α : Type} {id : BufId} {realloc : Bool} {look : UbfM α} {store : α → UbfM Unit}
    (looked : Keeps (P n) look.run) (stored : ∀ a, Keeps (P n) (store a).run) :
    Keeps (P n) (writing id realloc look store).run :=
  Keeps.tryBind Keeps.tryGet fun _ => steady.untilFits looked stored _

/-- `Bchg` of a prepared value. -/
theorem putNative (id : BufId) (f : BFLDID) (occ : Nat) {value : FieldValue} (realloc : Bool)
    (below : tracked → ∀ p ∈ value.targets, p < n) : Keeps (P n) (putNative id f occ value realloc).run :=
  steady.writing Keeps.tryPure fun _ => Keeps.tryModify fun _ holds =>
    steady.fields id _ (fun known => adds_bchg f occ (below known)) holds

/-- An owned deletion: the tree is checked, the occurrence deleted, and its targets freed. -/
theorem bdelOwned (id : BufId) (f : BFLDID) (occ : Nat) : Keeps (P n) (bdelOwned id f occ).run :=
  Keeps.tryBind (steady.displacedRoots id f occ) fun roots =>
    Keeps.tryBind (call_keeps (steady.answered n)) fun _ => Keeps.tryBind Keeps.tryGet fun _ =>
      Keeps.tryBind Keeps.throwIf fun _ =>
        Keeps.tryBind (Keeps.tryModify fun _ holds => steady.fields id _ (fun _ => adds_bdel f occ) holds)
          fun _ => Keeps.tryModify fun _ holds => steady.freeRoots roots holds

/-- A null pointer or an empty embedded UBF in the place of what was there. -/
theorem putNullComplex (id : BufId) (f : BFLDID) (occ : Nat) (realloc : Bool) :
    Keeps (P n) (putNullComplex id f occ realloc).run :=
  Keeps.tryBind (steady.displacedRoots id f occ) fun roots =>
    Keeps.tryBind (call_keeps (steady.answered n)) fun _ => Keeps.tryBind Keeps.throwIf fun _ =>
      Keeps.tryBind (steady.putNative id f occ realloc fun _ p member => by simp at member) fun _ =>
        Keeps.tryModify fun _ holds => steady.freeRoots roots holds

/-! ### Embedding -/

/-- The pointers of an embedded value go with the copy; its own buffer is emptied before it is freed. -/
theorem clearShell (child : BufId) (previous : List Addr) : Keeps (P n) (clearShell child previous).run := by
  unfold Typed.clearShell
  refine Keeps.tryBind (Keeps.lift (next_keeps (steady.answered n) Queue.shell_shrinks)) fun failure => ?_
  cases failure with
  | some e => exact Keeps.throw
  | none =>
      refine Keeps.tryBind (Keeps.lift (next_keeps (steady.answered n) Queue.shell_shrinks)) fun failure => ?_
      cases failure with
      | none => exact Keeps.tryModify fun _ holds => steady.fields child _ (fun _ => adds_const nofun) holds
      | some e =>
          exact Keeps.tryBind (Keeps.tryModify fun _ holds => steady.forgotten child holds) fun _ =>
            Keeps.tryBind (Keeps.tryModify fun _ holds => steady.freeRoots previous holds) fun _ => Keeps.throw

/-- **A UBF embedded by value**: refused or stored, its own buffer is gone afterwards. -/
theorem embedUbf (id : BufId) (f : BFLDID) (occ : Nat) (child : BufId) (realloc transferPointers : Bool) :
    Keeps (P n) (embedUbf id f occ child realloc transferPointers).run := by
  refine steady.orDrop ?_
  refine Keeps.tryBind (requireFieldType_keeps (steady.answered n) _ _ _) fun _ => ?_
  refine Keeps.tryBind (call_keeps (steady.answered n)) fun _ => steady.read fun now inside => ?_
  refine Keeps.tryBind Keeps.throwIf fun _ => ?_
  refine Keeps.tryBind (steady.displacedRoots id f occ) fun previous => ?_
  refine Keeps.tryBind (steady.putNative id f occ realloc fun known => (inside known).fieldsAt _) fun _ => ?_
  refine Keeps.tryBind (Keeps.runIf fun _ => steady.clearShell child previous) fun _ => ?_
  exact Keeps.tryBind (Keeps.tryModify fun _ holds => steady.drop child holds) fun _ =>
    Keeps.tryModify fun _ holds => steady.freeRoots previous holds

/-! ### Values -/

/-- A buffer given as a value is dropped if the write fails; plain data is the caller's. -/
theorem owningValue {v : UbfValue} {m : UbfM Unit} (keeps : Keeps (P n) m.run) :
    Keeps (P n) (owningValue v m).run := by
  cases v with
  | plain prepared => exact keeps
  | _ => exact steady.orDrop keeps

theorem checkPointerFieldWrite (f : BFLDID) (v : UbfValue) : Keeps (P n) (checkPointerFieldWrite f v).run :=
  Keeps.tryBind (call_keeps (steady.answered n)) fun _ => Keeps.tryBind Keeps.throwIf fun _ => Keeps.throwIf

/-- Plain bytes, changed in place or added. -/
theorem writePlain (id : BufId) (f : BFLDID) (occ : Option Nat) (prepared : Except UbfError (List UInt8))
    (realloc : Bool) : Keeps (P n) (writePlain id f occ prepared realloc).run := by
  unfold Typed.writePlain
  refine Keeps.tryBind Keeps.ofExcept fun bytes => ?_
  split
  · exact Keeps.throw
  · rename_i plain
    refine steady.writing Keeps.tryPure fun _ => Keeps.tryModify fun _ holds =>
      steady.fields id _ (fun _ => adds_chgOrAdd f occ ?_) holds
    rw [plainValue_targets plain]
    exact nofun

/-- The pointer that a write replaces, which must own its target. -/
theorem replacedPtr (id : BufId) (f : BFLDID) (occ : Option Nat) : Keeps (P n) (replacedPtr id f occ).run := by
  unfold Typed.replacedPtr
  refine Keeps.tryBind Keeps.tryGet fun s => ?_
  split
  · split
    · exact Keeps.tryPure
    · refine Keeps.tryBind (Keeps.lift (next_keeps (steady.answered n) Queue.displaced_shrinks)) fun failure => ?_
      cases failure with
      | some e => exact Keeps.tryPure
      | none => exact Keeps.tryBind (ensureOwnedTree_keeps (steady.answered n) id) fun _ => Keeps.tryPure
  · exact Keeps.tryPure

/-- A pointer is stored, the value it came from is forgotten, and what was there is freed. -/
theorem storePtr {s : State} (id : BufId) (f : BFLDID) (occ : Option Nat) (child : BufId)
    (replaced : Option Addr) (holds : P n s) : P n (storePtr id f occ child replaced s) := by
  have inside : tracked → s.Inside n := fun known => steady.inside known holds
  refine steady.lower (fun known => (inside known).reach) (m := s.next) (steady.forgotten child ?_)
  have stored := steady.fields id (chgOrAdd f occ (.ptr (s.buffer child).ptr))
    (fun known => adds_chgOrAdd f occ (adds_ptr ((inside known).buffer child))) (steady.rebase holds)
  cases replaced with
  | none => exact stored
  | some previous => exact steady.freed previous stored

/-- A buffer given to a pointer field. -/
theorem writePtr (id : BufId) (f : BFLDID) (occ : Option Nat) (child : BufId) (realloc : Bool) :
    Keeps (P n) (writePtr id f occ child realloc).run :=
  steady.writing (steady.replacedPtr id f occ) fun replaced =>
    Keeps.tryModify fun _ holds => steady.storePtr id f occ child replaced holds

/-- An added occurrence goes after those there are. -/
theorem complexOcc (id : BufId) (f : BFLDID) (occ : Option Nat) : Keeps (P n) (complexOcc id f occ).run := by
  unfold Typed.complexOcc
  cases occ with
  | some occ => exact Keeps.tryPure
  | none =>
      exact Keeps.tryBind (call_keeps (steady.answered n)) fun _ => Keeps.tryBind Keeps.tryGet fun _ =>
        Keeps.tryBind Keeps.throwIf fun _ => Keeps.tryPure

/-- **`bchg` and `badd` of any value**: plain, pointer, embedded UBF or embedded VIEW. -/
theorem writeValue (id : BufId) (f : BFLDID) (occ : Option Nat) (v : UbfValue) (realloc : Bool) :
    Keeps (P n) (writeValue id f occ v realloc).run := by
  refine steady.owningValue ?_
  refine Keeps.tryBind (steady.checkPointerFieldWrite f v) fun _ => ?_
  refine Keeps.tryBind (steady.complexOcc id f occ) fun there => ?_
  cases v with
  | ubf child => exact steady.embedUbf id f there child realloc false
  | view child =>
      refine Keeps.tryBind (requireFieldType_keeps (steady.answered n) _ _ _) fun _ => ?_
      refine Keeps.tryBind Keeps.tryGet fun now => Keeps.tryBind (steady.putNative id f there realloc ?_) fun _ =>
        Keeps.tryModify fun _ holds => steady.drop child holds
      intro _ p member
      rw [viewValue_targets] at member
      cases member
  | plain prepared => exact steady.writePlain id f occ prepared realloc
  | ptr child => exact steady.writePtr id f occ child realloc

/-- The fast adder takes no embedded value. -/
theorem writeValueFast (id : BufId) (f : BFLDID) (v : UbfValue) (realloc : Bool) :
    Keeps (P n) (writeValueFast id f v realloc).run := by
  refine steady.owningValue ?_
  refine Keeps.tryBind (steady.checkPointerFieldWrite f v) fun _ => ?_
  cases v with
  | ubf child => exact Keeps.throw
  | view child => exact Keeps.throw
  | plain prepared => exact steady.writePlain id f none prepared realloc
  | ptr child => exact steady.writePtr id f none child realloc

/-- An extracted pointer becomes a value; its field is deleted, its target stays. -/
theorem bextractPtr (id : BufId) (f : BFLDID) (occ : Nat) : Keeps (P n) (bextractPtr id f occ).run := by
  refine steady.read fun now inside => ?_
  refine Ends.tryBind (readPtrField_yields (steady.answered _) f occ (now.fieldsOf id)) (fun _ _ holds => holds)
    fun target => Ends.ofFact fun ⟨named, found⟩ => ?_
  refine Keeps.tryBind (ensureOwnedTree_keeps (steady.answered _) id) fun _ => ?_
  refine Keeps.tryBind (call_keeps (steady.answered _)) fun _ => ?_
  refine Keeps.tryBind (Keeps.tryModify fun _ holds => steady.fields id _ (fun _ => adds_bdel f occ) holds) fun _ => ?_
  have there : target ∈ targetsIn (now.fieldsOf id) := targets_of_bfind found target (by simp [named])
  exact Keeps.tryModifyGet fun _ holds =>
    steady.owned ⟨target, 0⟩ (fun known => (inside known).fieldsAt _ target there) holds

/-! ### Cloning -/

/-- A pointer's target is copied as a UBF or byte by byte. -/
theorem cloneBuffer {clone : List Addr → Fields → UbfM BufId}
    (cloned : ∀ path fields, Keeps (P n) (clone path fields).run) (path : List Addr) (source : Addr) :
    Keeps (P n) (cloneBuffer clone path source).run := by
  unfold Typed.cloneBuffer
  refine Ends.tryBind (allocating_ends (tptypes_ends (steady.answered n) source)) (fun _ _ holds => holds.1)
    fun info => ?_
  split
  · refine Ends.mono (B := P n) ?_ (fun _ holds => holds.1) fun _ _ holds => holds
    exact Keeps.tryBind Keeps.tryGet fun _ => Keeps.tryBind Keeps.throwIf fun _ =>
      Keeps.tryBind (cloned _ _) fun copy =>
        Keeps.tryBind (Keeps.tryModify fun _ holds => steady.unwrapped copy holds) fun _ => Keeps.tryPure
  · exact (steady.clonePlain n source info).mono (fun _ holds => ⟨holds.1, holds.2 info rfl⟩)
      fun _ _ holds => holds

/-- The loop over the fields to copy: by induction on what is left. -/
theorem cloneFields {nested : Fields → UbfM BufId} {target : Addr → UbfM BufId} (copy : BufId)
    (embedded : ∀ fields, Keeps (P n) (nested fields).run) (pointed : ∀ ptr, Keeps (P n) (target ptr).run) :
    ∀ done fields : Fields, Keeps (P n) (cloneFields nested target copy done fields).run
  | _, [] => call_keeps (steady.answered n)
  | done, (id, value) :: rest => by
      have more := cloneFields copy embedded pointed (done ++ [(id, value)]) rest
      unfold Typed.cloneFields
      refine Keeps.tryBind (call_keeps (steady.answered n)) fun _ => ?_
      cases value with
      | plain type inline bytes =>
          exact Keeps.tryBind (call_keeps (steady.answered n)) fun _ =>
            Keeps.tryBind (steady.putNative copy _ _ true fun _ => nofun) fun _ => more
      | ubf fields =>
          exact Keeps.tryBind (call_keeps (steady.answered n)) fun _ => Keeps.tryBind (embedded fields) fun child =>
            Keeps.tryBind (steady.embedUbf copy _ _ child true true) fun _ => more
      | ptr ptr =>
          refine Keeps.tryBind (ptrRoots_keeps (steady.answered n) .scanned ptr) fun roots => ?_
          cases roots with
          | nil => exact Keeps.tryBind (steady.putNative copy _ _ true fun _ p none => by simp at none) fun _ => more
          | cons root roots =>
              exact Keeps.tryBind (call_keeps (steady.answered n)) fun _ => Keeps.tryBind (pointed root) fun child =>
                Keeps.tryBind (steady.writeValue copy _ _ (.ptr child) true) fun _ => more

/-- **A clone, however deep**: by induction on how deep it may still go. -/
theorem cloneUbf : ∀ (fuel : Nat) (path : List Addr) (fields : Fields), Keeps (P n) (cloneUbf fuel path fields).run
  | 0, _, _ => Keeps.throw
  | fuel + 1, path, fields => by
      unfold Typed.cloneUbf
      refine Keeps.tryBind (call_keeps (steady.answered n)) fun _ => Keeps.tryBind Keeps.tryGet fun s => ?_
      refine Keeps.tryBind (allocating_keeps (steady.tpallocUbf n _)) fun copy => ?_
      refine Keeps.tryBind (steady.orDrop ?_) fun _ => Keeps.tryPure
      exact steady.cloneFields copy (fun fields => cloneUbf fuel path fields)
        (fun ptr => steady.cloneBuffer (fun path fields => cloneUbf fuel path fields) path ptr) [] fields

theorem deepClone (id : BufId) : Keeps (P n) (deepClone id).run :=
  Keeps.tryBind Keeps.tryGet fun _ => steady.cloneUbf 128 _ _

/-- A source that is written without being given away is cloned first. -/
theorem writeAdhoc (id : BufId) (f : BFLDID) (occ : Nat) (src : BufId) (realloc : Bool) :
    Keeps (P n) (writeAdhoc id f occ src realloc).run :=
  Keeps.tryBind (steady.deepClone src) fun copy => steady.embedUbf id f occ copy realloc true

/-! ### Copies and dumps -/

/-- The native copies between two buffers. -/
theorem copyFields (copying : Copying) (dst src : BufId) : Keeps (P n) (copyFields copying dst src).run :=
  Keeps.tryBind
    (Keeps.tryBind (call_keeps (steady.answered n)) fun _ => Keeps.tryBind Keeps.tryGet fun _ => Keeps.throwIf)
    fun _ => Keeps.tryBind (call_keeps (steady.answered n)) fun _ => steady.read fun _ inside =>
      Keeps.tryModify fun _ holds =>
        steady.fields dst _ (fun known => adds_result copying ((inside known).fieldsAt _)) holds

theorem writeDump (id : BufId) : Keeps (P n) (writeDump id).run :=
  Keeps.tryBind (call_keeps (steady.answered n)) fun _ => Keeps.tryModify fun _ holds => steady.dumped id holds

/-- A dump that is read back replaces the fields. -/
theorem bread (id : BufId) (k : Nat) : Keeps (P n) (bread id k).run :=
  Keeps.tryBind (call_keeps (steady.answered n)) fun _ => steady.read fun _ inside =>
    Keeps.tryModify fun _ holds => steady.fields id _ (fun known => adds_const ((inside known).dump k)) holds

/-- A dump read back field by field may stop in the middle, with what it has read so far. -/
theorem bextread (id : BufId) (k part : Nat) : Keeps (P n) (bextread id k part).run := by
  unfold Typed.bextread
  refine steady.read fun now inside => ?_
  refine Keeps.tryBind (Keeps.lift (next_keeps (steady.answered _) Queue.calls_shrinks)) fun failure => ?_
  have dumped : ∀ known : tracked, ∀ p ∈ targetsIn (now.dumps.getD k []), p < now.next :=
    fun known => (inside known).dump k
  cases failure with
  | none =>
      exact Keeps.tryModify fun _ holds => steady.fields id _ (fun known => adds_append (dumped known)) holds
  | some e =>
      refine Keeps.tryBind (Keeps.tryModify fun _ holds => steady.fields id _ (fun known => ?_) holds) fun _ => Keeps.throw
      exact adds_append fun p member => dumped known p (targetsIn_subset (List.take_subset part _) member)

/-! ### Bytes -/

theorem setLen (id : BufId) (len : Nat) : Keeps (P n) (setLen id len).run :=
  Keeps.tryBind (requireCarray_keeps (steady.answered n) _ id) fun _ => Keeps.tryBind Keeps.throwIf fun _ =>
    Keeps.tryModify fun _ holds => steady.measured id len holds

theorem asBytesMut (id : BufId) (write : Nat → Option UInt8) : Keeps (P n) (asBytesMut id write).run :=
  Keeps.tryBind Keeps.tryGet fun _ => Keeps.tryBind (requireCarray_keeps (steady.answered n) _ id) fun _ =>
    Keeps.tryModify fun _ holds => steady.masked _ _ write holds

/-- Bytes that do not fit make the buffer grow. -/
theorem setBytes (id : BufId) (bytes : List UInt8) : Keeps (P n) (setBytes id bytes).run :=
  Keeps.tryBind (requireCarray_keeps (steady.answered n) _ id) fun _ =>
    Keeps.tryBind (Keeps.runIf fun _ => steady.tprealloc n id _) fun _ =>
      Keeps.tryBind (Keeps.lift (Keeps.ofModify fun _ holds => steady.copied _ bytes holds)) fun _ =>
        Keeps.tryModify fun _ holds => steady.measured id _ holds

/-- A CARRAY that is made of bytes. -/
theorem tpallocCarray (bytes : List UInt8) : Keeps (P n) (tpallocCarray bytes).run :=
  Keeps.tryBind (steady.tpalloc n _ _ _) fun id =>
    Keeps.tryBind (Keeps.lift (Keeps.ofModify fun _ holds => steady.copied _ bytes holds)) fun _ =>
      Keeps.tryBind (Keeps.tryModify fun _ holds => steady.measured id _ holds) fun _ => Keeps.tryPure

/-! ### Runs -/

/-- **What each change keeps, each operation keeps.** -/
theorem run {s : State} {op : Op} (plain : op.plain = true) (holds : P n s) : P n (s.run op) := by
  cases op with
  | tpalloc type_ subtype size => exact steady.tpalloc n type_ subtype size s holds
  | tpallocCarray bytes => exact steady.tpallocCarray bytes s holds
  | tpallocUbf size => exact steady.tpallocUbf n size s holds
  | tprealloc id newSize => exact steady.tprealloc n id newSize s holds
  | setLen id len => exact steady.setLen id len s holds
  | setBytes id bytes => exact steady.setBytes id bytes s holds
  | asBytesMut id write => exact steady.asBytesMut id write s holds
  | bchg id f occ v realloc => exact steady.writeValue id f (some occ) v realloc s holds
  | badd id f v realloc => exact steady.writeValue id f none v realloc s holds
  | fastAdd id f v realloc => exact steady.writeValueFast id f v realloc s holds
  | bextractPtr id f occ => exact steady.bextractPtr id f occ s holds
  | bdelOwned id f occ => exact steady.bdelOwned id f occ s holds
  | putNullComplex id f occ realloc => exact steady.putNullComplex id f occ realloc s holds
  | deepClone id => exact steady.deepClone id s holds
  | writeAdhoc id f occ src realloc => exact steady.writeAdhoc id f occ src realloc s holds
  | copyFields copying dst src => exact steady.copyFields copying dst src s holds
  | writeDump id => exact steady.writeDump id s holds
  | bread id k => exact steady.bread id k s holds
  | bextread id k part => exact steady.bextread id k part s holds
  | intoInner id => exact steady.unwrapped id holds
  | drop id => exact steady.drop id holds
  | _ => cases plain

end Steady

end Endurox.Typed
