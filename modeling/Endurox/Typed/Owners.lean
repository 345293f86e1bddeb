/-
# Typed.Owners -- one owner for every buffer, over whole runs

The operations that move owned buffers between values and fields, one after another,
with whatever the native layer answers.  Every buffer keeps its one owner as long as
the native layer answers what is asked about an occurrence that is to go, and the
size and emptying of a shell whose pointers were given away succeed.
-/
import Endurox.Typed.Custody

namespace Endurox.Typed

open Endurox.Theory State

set_option autoImplicit false

variable {terms : Terms} {extra : List Addr} {hands : List (BufId × Fields)} {id child : BufId}
  {held inside : Fields} {s : State}

/-! ## Bytes -/

theorem setLen_custody (id : BufId) (len : Nat) :
    Keeps (Holding terms extra ((id, held) :: hands)) (setLen id len).run :=
  Keeps.tryBind (requireCarray_keeps holding_answerable _ id) fun _ => Keeps.tryBind Keeps.throwIf fun _ =>
    Keeps.tryModify fun _ holding => holding.measured len

theorem asBytesMut_custody (id : BufId) (write : Nat → Option UInt8) :
    Keeps (Holding terms extra ((id, held) :: hands)) (asBytesMut id write).run :=
  Keeps.tryBind Keeps.tryGet fun _ => Keeps.tryBind (requireCarray_keeps holding_answerable _ id) fun _ =>
    Keeps.tryModify fun _ holding => holding.bytes _ (fun _ => rfl) fun _ => rfl

theorem copyIn_custody (id : BufId) (bytes : List UInt8) :
    Keeps (Holding terms extra hands) (copyIn id bytes) :=
  Keeps.ofModify fun _ holding => holding.bytes _ (fun _ => rfl) fun _ => rfl

theorem setBytes_custody (id : BufId) (bytes : List UInt8) :
    Keeps (Holding terms extra ((id, held) :: hands)) (setBytes id bytes).run :=
  Keeps.tryBind (requireCarray_keeps holding_answerable _ id) fun _ =>
    Keeps.tryBind (Keeps.runIf fun _ => tprealloc_custody id _) fun _ =>
      Keeps.tryBind (Keeps.lift (copyIn_custody id bytes)) fun _ =>
        Keeps.tryModify fun _ holding => holding.measured _

theorem tpallocCarray_yields {bytes : List UInt8} :
    Yields (Holding terms extra hands) (tpallocCarray bytes)
      (fun id s => s.Holding terms extra ((id, []) :: hands)) (Holding terms extra hands) := by
  unfold tpallocCarray
  refine Yields.bind tpalloc_yields fun id => ?_
  refine Yields.bind (Q := fun _ => Holding terms extra ((id, []) :: hands))
    (Yields.lift (copyIn_custody id bytes)) fun _ => ?_
  exact Yields.bind (Q := fun _ => Holding terms extra ((id, []) :: hands))
    (Yields.modify fun _ holding => holding.measured _) fun _ => Yields.pure fun _ holding => holding

/-! ## Values exchanged -/

namespace State

theorem Holding.ofOwned (holding : s.Holding terms extra []) {s' : State} (owned : s'.Owned terms.tight extra)
    (answers : s'.answers = s.answers) : s'.Holding terms extra [] :=
  holding.frame owned (fun _ member => nomatch member) (fun _ member => nomatch member) answers

theorem Holding.drops (holding : s.Holding terms extra []) (id : BufId) : (s.drop id).Holding terms extra [] :=
  holding.ofOwned (holding.owned.map fun _ balanced => balanced.drop id) (tpfree_rest _ _).2.2.2

/-- `*dst = src`: what `dst` owned is freed, and it owns what `src` did. -/
theorem Holding.assign (holding : s.Holding terms extra []) {dst src : BufId} (apart : dst ≠ src)
    (hasDst : s.has dst = true) (hasSrc : s.has src = true) :
    (((s.forget src).tpfree (s.buffer dst).ptr).setBuffer dst (s.buffer src)).Holding terms extra [] := by
  obtain ⟨from_, ownedSrc⟩ := has_place hasSrc
  obtain ⟨into, ownedDst⟩ := has_place hasDst
  have rest := tpfree_rest into.buffer.ptr (s.forget src)
  have still : (s.forget src).bufs.get dst = some into := by
    show (s.bufs.del src).get dst = _
    rw [Table.get_del, if_neg apart, ownedDst]
  rw [buffer_of ownedDst, buffer_of ownedSrc]
  refine holding.ofOwned (holding.owned.map fun lost balanced => ?_) ?_
  · have counted : ∀ q, (into.buffer.ptr :: (lost ++ extra ++ from_.buffer.ptr ::
        ((s.forget src).forget dst).values)).count q = (lost ++ extra ++ s.values).count q := by
      intro q
      have first := values_forget ownedSrc q
      have second := values_forget still q
      simp only [List.count_append, List.count_cons, List.count_nil] at first second ⊢
      omega
    have forgotten : (s.forget src).Books (into.buffer.ptr :: (lost ++ extra ++ from_.buffer.ptr ::
        ((s.forget src).forget dst).values)) := (balanced.books.move counted).frame rfl rfl rfl
    have books := Books.tpfree forgotten
    refine Balanced.setBuffer (by rw [rest.2.1]; exact still) (books.move fun q => ?_) fun id later => ?_
    · have same : (((s.forget src).tpfree into.buffer.ptr).forget dst).values = ((s.forget src).forget dst).values := by
        show Table.gather _ (((s.forget src).tpfree into.buffer.ptr).bufs.del dst) = _
        rw [rest.2.1]
        rfl
      rw [same]
    · rw [rest.2.2.1] at later
      rw [rest.2.1]
      show (s.bufs.del src).get id = none
      rw [Table.get_del, balanced.fresh id later]
      split <;> rfl
  · exact (setBuffer_rest _ _ _).2.2.2.2.trans rest.2.2.2

/-- `mem::swap`. -/
theorem Holding.swap (holding : s.Holding terms extra []) {a b : BufId} (apart : a ≠ b) (hasA : s.has a = true)
    (hasB : s.has b = true) :
    ((s.setBuffer a (s.buffer b)).setBuffer b (s.buffer a)).Holding terms extra [] := by
  obtain ⟨left, ownedA⟩ := has_place hasA
  obtain ⟨right, ownedB⟩ := has_place hasB
  have first := setBuffer_rest a right.buffer s
  have second := setBuffer_rest b left.buffer (s.setBuffer a right.buffer)
  have still : (s.setBuffer a right.buffer).bufs.get b = some right := by
    rw [get_setBuffer, if_neg (Ne.symm apart), ownedB]
  rw [buffer_of ownedA, buffer_of ownedB]
  refine holding.ofOwned (holding.owned.map fun lost balanced => ⟨?_, fun id later => ?_⟩) ?_
  · refine (balanced.books.move fun q => ?_).frame (second.1.trans first.1) (second.2.1.trans first.2.1)
      (second.2.2.1.trans first.2.2.1)
    have moved := values_setBuffer ownedA right.buffer q
    have back := values_setBuffer still left.buffer q
    simp only [List.count_append]
    omega
  · rw [second.2.2.2.1, first.2.2.2.1] at later
    have missing := balanced.fresh id later
    have otherA : id ≠ a := fun same => by rw [same, ownedA] at missing; cases missing
    have otherB : id ≠ b := fun same => by rw [same, ownedB] at missing; cases missing
    rw [get_setBuffer, if_neg otherB, get_setBuffer, if_neg otherA, missing]
  · exact second.2.2.2.2.trans first.2.2.2.2

/-- A value the program has is in hand. -/
theorem Holding.take (holding : s.Holding terms extra []) (has : s.has id = true) :
    s.Holding terms extra [(id, s.fieldsOf id)] :=
  holding.cons (fun _ member => nomatch member) has rfl

theorem Holding.takeBoth (holding : s.Holding terms extra []) (apart : id ≠ child) (hasId : s.has id = true)
    (hasChild : s.has child = true) :
    s.Holding terms extra [(id, s.fieldsOf id), (child, s.fieldsOf child)] :=
  (holding.take hasChild).cons (fun _ member => List.mem_singleton.1 member ▸ Ne.symm apart) hasId rfl

/-- What was in hand is the program's again. -/
theorem Holding.leave (holding : s.Holding terms extra hands) : s.Holding terms extra [] :=
  holding.sub (List.nil_sublist _)

theorem has_of_hasUbf (ubf : s.hasUbf id = true) : s.has id = true := by
  unfold State.hasUbf at ubf
  unfold State.has
  cases there : s.bufs.get id with
  | none => rw [there] at ubf; cases ubf
  | some place => rfl

end State

/-! ## Operations -/

/-- The pointers an operation's write or deletion displaces. -/
def Op.displaces (s : State) : Op → List Addr
  | .bchg id f occ _ _ | .bdelOwned id f occ | .putNullComplex id f occ _ | .writeAdhoc id f occ _ _ =>
      targetsOf f occ (s.fieldsOf id)
  | _ => []

/-- The operations that embed copies made by `deep_clone`. -/
def Op.clones : Op → Bool
  | .deepClone _ | .writeAdhoc .. => true
  | _ => false

/-- Every operation but those that receive a message, and those that copy fields or a dump. -/
def Op.edits : Op → Bool
  | .tpimport _ | .tpcall .. | .tpgetrply .. | .copyFields .. | .writeDump _ | .bread .. | .bextread .. => false
  | _ => true

theorem Yields.after {ε α : Type} {m : Fallible ε State α} {P E R : State → Prop} {Q : α → State → Prop}
    (yields : Yields P m Q E) (holds : P s) (done : ∀ a s, Q a s → R s) (left : ∀ s, E s → R s) : R (s.after m) := by
  have ended := yields s holds
  unfold State.after
  cases result : (m.run.run s).1 with
  | ok a =>
      rw [result] at ended
      exact done a _ ended
  | error e =>
      rw [result] at ended
      exact left _ ended

theorem State.Holding.takeValue (holding : s.Holding terms extra []) {v : UbfValue} (ubf : s.hasUbf id = true)
    (given : s.hasValue id v = true) :
    ∃ inside, s.Holding terms extra ((id, s.fieldsOf id) :: (v.hand inside ++ [])) := by
  have has := has_of_hasUbf ubf
  cases v with
  | plain prepared => exact ⟨[], holding.take has⟩
  | ptr child =>
      simp only [State.hasValue, Bool.and_eq_true, decide_eq_true_eq] at given
      exact ⟨_, holding.takeBoth (Ne.symm given.1) has given.2⟩
  | ubf child =>
      simp only [State.hasValue, Bool.and_eq_true, decide_eq_true_eq] at given
      exact ⟨_, holding.takeBoth (Ne.symm given.1) has (has_of_hasUbf given.2)⟩
  | view child =>
      simp only [State.hasValue, Bool.and_eq_true, decide_eq_true_eq] at given
      exact ⟨_, holding.takeBoth (Ne.symm given.1) has given.2⟩

/-- **An edit keeps the accounts**, on every way out. -/
theorem State.Holding.run {op : Op} (holding : s.Holding terms extra []) (edits : op.edits = true)
    (accepted : s.accepts op = true) (asks : Earnest terms (op.displaces s)) (calm : op.clones = true → terms.calm) :
    (s.run op).Holding terms extra [] := by
  have both (s : State) : s.Holding terms extra [] → s.Holding terms extra [] := fun holds => holds
  cases op with
  | tpalloc type_ subtype size => exact Yields.after tpalloc_yields holding (fun _ _ holds => holds.leave) both
  | tpallocCarray bytes => exact Yields.after tpallocCarray_yields holding (fun _ _ holds => holds.leave) both
  | tpallocUbf size => exact Yields.after tpallocUbf_yields holding (fun _ _ holds => holds.leave) both
  | tprealloc id newSize => exact (tprealloc_custody id newSize _ (holding.take accepted)).leave
  | setLen id len => exact (setLen_custody id len _ (holding.take accepted)).leave
  | setBytes id bytes => exact (setBytes_custody id bytes _ (holding.take accepted)).leave
  | asBytesMut id write => exact (asBytesMut_custody id write _ (holding.take accepted)).leave
  | fromTyped id =>
      exact fromTyped_keeps holding_answerable id (fun _ _ holds _ _ => holds.setWrapper id .ubf)
        (fun _ holds => holds.drops id) _ holding
  | intoInner id => exact holding.setWrapper id .typed
  | editUbf id =>
      exact editUbf_keeps holding_answerable id (fun _ _ holds _ _ => holds.setWrapper id .ubf)
        (fun _ holds => holds.drops id) _ holding
  | assign dst src =>
      simp only [State.accepts, Bool.and_eq_true, decide_eq_true_eq] at accepted
      exact holding.assign accepted.1.1 accepted.1.2 accepted.2
  | swap a b =>
      simp only [State.accepts, Bool.and_eq_true, decide_eq_true_eq] at accepted
      exact holding.swap accepted.1.1 accepted.1.2 accepted.2
  | drop id => exact holding.drops id
  | bchg id f occ v realloc =>
      simp only [State.accepts, Bool.and_eq_true] at accepted
      obtain ⟨inside, given⟩ := holding.takeValue accepted.1 accepted.2
      exact Yields.after (writeValue_yields asks) given (fun _ _ ⟨_, holds, _⟩ => holds.leave) fun _ holds => holds.leave
  | badd id f v realloc =>
      simp only [State.accepts, Bool.and_eq_true] at accepted
      obtain ⟨inside, given⟩ := holding.takeValue accepted.1 accepted.2
      exact Yields.after (writeValue_yields fun _ => .inl rfl) given (fun _ _ ⟨_, holds, _⟩ => holds.leave)
        fun _ holds => holds.leave
  | fastAdd id f v realloc =>
      simp only [State.accepts, Bool.and_eq_true] at accepted
      obtain ⟨inside, given⟩ := holding.takeValue accepted.1 accepted.2
      exact Yields.after writeValueFast_yields given (fun _ _ ⟨_, holds⟩ => holds.leave) fun _ holds => holds.leave
  | bextractPtr id f occ =>
      exact Yields.after bextractPtr_yields (holding.take (has_of_hasUbf accepted))
        (fun _ _ ⟨_, holds⟩ => holds.leave) fun _ holds => holds.leave
  | bdelOwned id f occ =>
      exact Yields.after (bdelOwned_yields asks) (holding.take (has_of_hasUbf accepted)) (fun _ _ holds => holds.leave)
        fun _ holds => holds.leave
  | putNullComplex id f occ realloc =>
      exact Yields.after (putNullComplex_yields asks) (holding.take (has_of_hasUbf accepted))
        (fun _ _ holds => holds.leave) fun _ holds => holds.leave
  | deepClone id =>
      exact Yields.after (deepClone_makes (calm rfl) id) holding (fun _ _ ⟨_, holds⟩ => holds.leave) both
  | writeAdhoc id f occ src realloc =>
      simp only [State.accepts, Bool.and_eq_true] at accepted
      exact Yields.after (writeAdhoc_yields (calm rfl) asks) (holding.take (has_of_hasUbf accepted.1.2))
        (fun _ _ ⟨_, holds⟩ => holds.leave) fun _ holds => holds.leave
  | _ => cases edits

/-! ## Runs of edits -/

/-- The native layer answers what is asked about pointers that go, and about a shell whose pointers were
given away. -/
structure Answered (s : State) (label : Label) : Prop where
  displaced : label.op.displaces s ≠ [] → ∀ failure ∈ label.answers.displaced, failure = none
  shell : label.op.clones = true → ∀ failure ∈ label.answers.shell, failure = none

theorem State.Balanced.step {label : Label} (balanced : s.Balanced []) (edits : label.op.edits = true)
    (answered : Answered s label) : (s.step label).Balanced [] := by
  unfold State.step
  split
  · rename_i accepted
    let terms : Terms :=
      { tight := True
        quiet := ∀ failure ∈ label.answers.displaced, failure = none
        calm := ∀ failure ∈ label.answers.shell, failure = none }
    have holding : State.Holding terms [] [] { s with answers := label.answers } :=
      { owned := ⟨[], fun _ => rfl, balanced.frame rfl rfl rfl rfl rfl⟩
        distinct := List.nodup_nil
        holds := fun _ member => nomatch member
        quiet := fun quiet => quiet
        calm := fun calm => calm }
    have asks : Earnest terms (label.op.displaces { s with answers := label.answers }) := fun _ => by
      by_cases none : label.op.displaces s = []
      · exact .inl none
      · exact .inr (answered.displaced none)
    obtain ⟨lost, nothing, kept⟩ := (holding.run edits accepted asks answered.shell).owned
    rw [nothing trivial] at kept
    exact kept
  · exact balanced

/-- **Sole owners**: in every run of edits whose questions about displaced pointers and transferred shells are
answered, every buffer is owned by one value or one occurrence of one live UBF, and none is freed twice. -/
theorem edits_keep_sole_owners (start : State) (balanced : start.Balanced []) (labels : List Label)
    (along : program.AlongFrom (fun s label => label.op.edits = true ∧ Answered s label) start labels) :
    ∀ earlier, earlier <+: labels → (program.runFrom start earlier).Balanced [] := by
  rintro earlier ⟨later, rfl⟩
  exact Machine.invariantAlongFrom (M := program) (fun _ _ ok holds => State.Balanced.step holds ok.1 ok.2) earlier start
    along.before balanced

theorem State.balanced_init : State.Balanced [] {} where
  books := Ledger.empty
  fresh _ _ := rfl

/-- A UBF with a pointer, written over with another; `failure` answers what is asked about the first. -/
def replacedPointer (failure : Option UbfError) : List Label :=
  [{ op := .tpallocUbf 64 }, { op := .tpallocCarray [1] }, { op := .bchg 0 ⟨1, .Ptr⟩ 0 (.ptr 1) true },
   { op := .tpallocCarray [2] },
   { op := .bchg 0 ⟨1, .Ptr⟩ 0 (.ptr 2) true, answers := { displaced := [failure] } }]

/-- A UBF with a pointer embedded in another; `failure` answers for the size of the copy's shell. -/
def embeddedPointer (failure : Option UbfError) : List Label :=
  [{ op := .tpallocUbf 64 }, { op := .tpallocCarray [1] }, { op := .bchg 0 ⟨1, .Ptr⟩ 0 (.ptr 1) true },
   { op := .tpallocUbf 64 }, { op := .writeAdhoc 2 ⟨2, .Ubf⟩ 0 0 true, answers := { shell := [failure] } },
   { op := .drop 2 }]

theorem replaced_pointer_freed :
    (∀ earlier, earlier <+: replacedPointer none → (program.runFrom {} earlier).Balanced []) ∧
      (program.runFrom {} (replacedPointer none)).freed = [2] := by
  refine ⟨edits_keep_sole_owners {} balanced_init (replacedPointer none) ?_, by decide +kernel⟩
  have answered (s : State) (op : Op) : Answered s { op } := ⟨fun _ => nofun, fun _ => nofun⟩
  have asked (s : State) (op : Op) : Answered s { op, answers := { displaced := [none] } } :=
    ⟨fun _ _ member => List.mem_singleton.1 member, fun _ => nofun⟩
  exact ⟨⟨rfl, answered _ _⟩, ⟨rfl, answered _ _⟩, ⟨rfl, answered _ _⟩, ⟨rfl, answered _ _⟩, ⟨rfl, asked _ _⟩, trivial⟩

/-- A question that fails loses the pointer written over, and a size that cannot be had frees a pointer twice. -/
theorem failed_questions_break_owners :
    (¬ ∀ (start : State) (labels : List Label), start.Balanced [] → (∀ label ∈ labels, label.op.edits = true) →
      (program.runFrom start labels).Balanced []) ∧
    (program.runFrom {} (embeddedPointer (some ⟨.BEINVAL, ""⟩))).freed.count 5 = 2 := by
  refine ⟨fun all => ?_, by decide +kernel⟩
  have balanced := all {} (replacedPointer (some ⟨.BEINVAL, ""⟩)) balanced_init (by decide)
  have lost : 2 ∈ (program.runFrom {} (replacedPointer (some ⟨.BEINVAL, ""⟩))).alive := by decide +kernel
  have unowned : 2 ∉ [] ++ (program.runFrom {} (replacedPointer (some ⟨.BEINVAL, ""⟩))).values ++
      (program.runFrom {} (replacedPointer (some ⟨.BEINVAL, ""⟩))).stored := by decide +kernel
  exact unowned ((Ledger.balanced balanced.books).mem_iff.2 lost)

end Endurox.Typed
