/-
# Typed.Exclusive -- no copy makes a second owner

Fields copied between buffers, and dumps read back, next to every edit.  The calls
that copy refuse a source with pointers, so nothing they write owns anything.  A dump
carries its pointers as addresses and reading it installs them: they keep one owner
only if nothing owns them then but what the read replaces.
-/
import Mathlib.Data.List.Count
import Endurox.Typed.Owners

namespace Endurox.Typed

open Endurox.Theory State

set_option autoImplicit false

variable {terms : Terms} {extra : List Addr} {hands : List (BufId × Fields)} {id : BufId} {held : Fields} {s : State}

/-! ## Copies -/

theorem joined_targets {src : Fields} (plain : targetsIn src = []) (keeps : Bool) (q : Addr) :
    ∀ done fields : Fields, (targetsIn (joined keeps src done fields)).count q ≤ (targetsIn fields).count q
  | _, [] => Nat.le_refl _
  | done, (i, value) :: rest => by
      have more := joined_targets plain keeps q (done ++ [(i, value)]) rest
      unfold joined
      rw [targetsIn_cons, List.count_append]
      split
      · rename_i other found
        have none : other.targets = [] := by
          have perm := bdel_perm found
          rw [plain] at perm
          exact (List.append_eq_nil_iff.1 (List.nil_perm.1 perm)).1
        rw [targetsIn_cons, none, List.nil_append]
        exact Nat.le_trans more (Nat.le_add_left _ _)
      · split
        · rw [targetsIn_cons, List.count_append]
          exact Nat.add_le_add_left more _
        · exact Nat.le_trans more (Nat.le_add_left _ _)

theorem updated_targets (q : Addr) : ∀ done src dst : Fields, targetsIn src = [] →
    (targetsIn (updated done src dst)).count q ≤ (targetsIn dst).count q
  | _, [], _, _ => Nat.le_refl _
  | done, (i, value) :: rest, dst, plain => by
      rw [targetsIn_cons, List.append_eq_nil_iff] at plain
      have changed := bchg_targets (fieldOf (i, value)) (boccur (fieldOf (i, value)) done) value dst q
      rw [plain.1, List.count_nil] at changed
      unfold updated
      have more := updated_targets q (done ++ [(i, value)]) rest
        (bchg (fieldOf (i, value)) (boccur (fieldOf (i, value)) done) value dst) plain.2
      exact Nat.le_trans more (by omega)

theorem filter_targets {src : Fields} (plain : targetsIn src = []) (keep : Int × FieldValue → Bool) :
    targetsIn (src.filter keep) = [] := by
  induction src with
  | nil => rfl
  | cons item src ih =>
      obtain ⟨i, value⟩ := item
      rw [targetsIn_cons, List.append_eq_nil_iff] at plain
      rw [List.filter_cons]
      split
      · rw [targetsIn_cons, plain.1, ih plain.2]
        rfl
      · exact ih plain.2

/-- **No copy of a source without pointers** leaves a pointer the destination did not hold. -/
theorem result_targets {src : Fields} (plain : targetsIn src = []) (copying : Copying) (dst : Fields) (q : Addr) :
    (targetsIn (copying.result dst src)).count q ≤ (targetsIn dst).count q := by
  cases copying with
  | bcpy => simp [Copying.result, plain]
  | bconcat => simp [Copying.result, plain]
  | bjoin => exact joined_targets plain false q [] dst
  | bojoin => exact joined_targets plain true q [] dst
  | bupdate => exact updated_targets q [] src dst plain
  | bprojcpy fldlist => simp [Copying.result, filter_targets plain]

/-- Where something may be lost, the pointers a UBF no longer holds are. -/
theorem State.Holding.shrink (holding : s.Holding terms extra ((id, held) :: hands)) (loose : ¬ terms.tight)
    (change : Fields → Fields) (fewer : ∀ q, (targetsIn (change held)).count q ≤ (targetsIn held).count q) :
    (s.changeFields id change).Holding terms extra ((id, change held) :: hands) := by
  have displaced : (s.changeFields id change).Holding terms ((targetsIn held).diff (targetsIn (change held)) ++ extra)
      ((id, change held) :: hands) :=
    holding.fields fun q => by
      have less := fewer q
      rw [List.count_append, List.count_diff]
      omega
  exact displaced.displace (List.nil_sublist _) fun tight => absurd tight loose

theorem copyFields_yields (loose : ¬ terms.tight) {copying : Copying} {dst src : BufId} {source : Fields} :
    Yields (Holding terms extra ((dst, held) :: (src, source) :: hands)) (copyFields copying dst src)
      (fun _ => Holding terms extra ((dst, copying.result held source) :: (src, source) :: hands))
      (Holding terms extra ((dst, held) :: (src, source) :: hands)) := by
  have second {s : State} (holding : s.Holding terms extra ((dst, held) :: (src, source) :: hands)) :
      s.fieldsOf src = source := (holding.perm (.swap _ _ _)).front.2
  have rejected : Yields (Holding terms extra ((dst, held) :: (src, source) :: hands))
      (rejectPointerCopy src copying.name)
      (fun _ s => s.Holding terms extra ((dst, held) :: (src, source) :: hands) ∧ bhasptr source = false)
      (Holding terms extra ((dst, held) :: (src, source) :: hands)) := by
    refine Yields.bind (Yields.ofKeeps (call_keeps holding_answerable)) fun _ => Yields.read fun now holding => ?_
    rw [second holding]
    exact Yields.throwIf (fun _ _ same => same ▸ holding) fun _ passed same => ⟨same ▸ holding, by simpa using passed⟩
  refine Yields.bind rejected fun _ => Ends.ofFact fun plain => ?_
  refine Yields.bind (Yields.ofKeeps (call_keeps holding_answerable)) fun _ => Yields.read fun now holding => ?_
  rw [second holding]
  exact Yields.modify fun s same => (same ▸ holding).shrink loose (fun fields => copying.result fields source)
    (result_targets (targetsIn_of_not_bhasptr source plain) copying held)

/-! ## Dumps -/

/-- These pointers name live buffers, each once, that nothing owns but `own`. -/
structure Restorable (pointers own : List Addr) (s : State) : Prop where
  once : pointers.Nodup
  free : ∀ p ∈ pointers, p ∈ s.alive ∧ p ∉ (s.values ++ s.stored).diff own

/-- Pointers that nothing owned but what a UBF held are installed in it. -/
theorem State.Holding.restore (holding : s.Holding terms [] [(id, held)]) (loose : ¬ terms.tight)
    {pointers own : List Addr} (restorable : Restorable pointers own s) {change : Fields → Fields}
    (fits : ∀ q, (targetsIn (change held)).count q + own.count q ≤ pointers.count q + (targetsIn held).count q) :
    (s.changeFields id change).Holding terms [] [] := by
  obtain ⟨lost, _, balanced⟩ := holding.owned
  have mine : s.Holding terms lost [(id, held)] :=
    { holding with owned := ⟨[], fun _ => rfl, balanced.move fun q => by simp⟩ }
  have installed : (s.changeFields id change).Holding terms
      ((lost ++ targetsIn held).diff (targetsIn (change held)) ++ []) [(id, change held)] := by
    refine mine.fields fun q => ?_
    have alive := balanced.books.balanced.count_eq q
    have within := fits q
    have unowned : pointers.count q + (s.values ++ s.stored).count q ≤ own.count q + s.alive.count q := by
      by_cases named : q ∈ pointers
      · obtain ⟨live, free⟩ := restorable.free q named
        have one := List.nodup_iff_count_le_one.1 restorable.once q
        have some := List.one_le_count_iff.2 live
        have none := List.count_eq_zero.2 free
        rw [List.count_diff] at none
        omega
      · rw [List.count_eq_zero.2 named]
        simp only [List.count_append] at alive ⊢
        omega
    simp only [List.count_append, List.count_diff, List.count_nil] at alive unowned ⊢
    omega
  exact (installed.displace (List.nil_sublist _) fun tight => absurd tight loose).leave

/-- The dump that is read, and who owns what it points to. -/
def Reading (terms : Terms) (id : BufId) (held dump : Fields) (own : List Addr) (k : Nat) (s : State) : Prop :=
  s.Holding terms [] [(id, held)] ∧ s.dumps.getD k [] = dump ∧ Restorable (targetsIn dump) own s

theorem reading_answerable {dump : Fields} {own : List Addr} {k : Nat} :
    Answerable (Reading terms id held dump own k) := fun fewer ⟨holding, read, restorable⟩ =>
  ⟨holding_answerable fewer holding, read, ⟨restorable.once, restorable.free⟩⟩

theorem bread_yields (loose : ¬ terms.tight) {dump : Fields} {k : Nat} :
    Yields (Reading terms id held dump (targetsIn held) k) (bread id k) (fun _ => Holding terms [] [])
      (Holding terms [] []) := by
  refine Yields.bind ((Yields.ofKeeps (call_keeps reading_answerable)).mono (fun _ holds => holds)
    (fun _ _ holds => holds) fun _ holds => holds.1.leave) fun _ => Yields.read fun now reading => ?_
  rw [reading.2.1]
  exact Yields.modify fun s same => (same ▸ reading.1).restore loose (same ▸ reading.2.2) fun q => Nat.le_refl _

theorem bextread_yields (loose : ¬ terms.tight) {dump : Fields} {k part : Nat} :
    Yields (Reading terms id held dump [] k) (bextread id k part) (fun _ => Holding terms [] [])
      (Holding terms [] []) := by
  unfold bextread
  refine Yields.read fun now reading => ?_
  rw [reading.2.1]
  have asked : Yields (E := Holding terms [] []) (Reading terms id held dump [] k)
      (liftM nextCall : UbfM (Option UbfError)) fun _ => Reading terms id held dump [] k :=
    Yields.lift (next_keeps reading_answerable Queue.calls_shrinks)
  refine Yields.bind (asked.mono (fun _ same => same ▸ reading) (fun _ _ holds => holds) fun _ holds => holds)
    fun failure => ?_
  cases failure with
  | none =>
      refine Yields.modify fun s reading => reading.1.restore loose reading.2.2 fun q => ?_
      rw [targetsIn_append, List.count_append, List.count_nil]
      omega
  | some e =>
      refine Yields.bind (Q := fun _ => Holding terms [] []) (Yields.modify fun s reading =>
        reading.1.restore loose reading.2.2 fun q => ?_) fun _ => Yields.throw fun _ holding => holding
      have split : (targetsIn dump).count q = (targetsIn (dump.take part)).count q + (targetsIn (dump.drop part)).count q := by
        rw [← List.count_append, ← targetsIn_append, List.take_append_drop]
      rw [targetsIn_append, List.count_append, List.count_nil]
      omega

/-! ## Runs -/

/-- Nothing owned has two owners, and it was not freed. -/
structure State.Exclusive (s : State) : Prop where
  once : (s.values ++ s.stored).Nodup
  live : ∀ p ∈ s.values ++ s.stored, p ∈ s.alive ∧ p ∉ s.freed

theorem State.Owned.exclusive {tight : Prop} (owned : s.Owned tight []) : s.Exclusive := by
  obtain ⟨lost, _, balanced⟩ := owned
  have among : (s.values ++ s.stored).Sublist (lost ++ [] ++ s.values ++ s.stored) := by
    rw [List.append_assoc]
    exact List.sublist_append_right _ _
  exact ⟨(Ledger.held_nodup balanced.books).sublist among, fun p owned => Ledger.held_live balanced.books (among.subset owned)⟩

/-- What a dump that is read points to is owned by nothing but what the read replaces. -/
def Op.restores (s : State) : Op → Prop
  | .bread id k => Restorable (targetsIn (s.dumps.getD k [])) (targetsIn (s.fieldsOf id)) s
  | .bextread _ k _ => Restorable (targetsIn (s.dumps.getD k [])) [] s
  | _ => True

/-- The message a native call receives is not the program's. -/
def Op.receives : Op → Bool
  | .tpimport _ | .tpcall .. | .tpgetrply .. => true
  | _ => false

/-- No dump makes a second owner, and the shell of a buffer whose pointers were given away is emptied. -/
structure Restoring (s : State) (label : Label) : Prop where
  safe : label.op.receives = false
  restores : label.op.restores s
  shell : label.op.clones = true → ∀ failure ∈ label.answers.shell, failure = none

theorem State.Owned.step {label : Label} (owned : s.Owned False []) (restoring : Restoring s label) :
    (s.step label).Owned False [] := by
  unfold State.step
  split
  · rename_i accepted
    obtain ⟨op, answers⟩ := label
    let terms : Terms := { tight := False, quiet := False, calm := ∀ failure ∈ answers.shell, failure = none }
    have loose : ¬ terms.tight := id
    have holding : State.Holding terms [] [] { s with answers } :=
      { owned := owned.map fun _ balanced => balanced.frame rfl rfl rfl rfl rfl
        distinct := List.nodup_nil
        holds := fun _ member => nomatch member
        quiet := fun impossible => nomatch impossible
        calm := fun calm => calm }
    have edited (edits : op.edits = true) : State.Owned False [] (State.run { s with answers } op) :=
      (holding.run edits accepted (fun impossible => nomatch impossible) restoring.shell).owned
    cases op with
    | copyFields copying dst src =>
        simp only [State.accepts, Bool.and_eq_true, decide_eq_true_eq] at accepted
        have both := holding.takeBoth accepted.1.1 (has_of_hasUbf accepted.1.2) (has_of_hasUbf accepted.2)
        exact (Yields.after (R := Holding terms [] []) (copyFields_yields loose) both (fun _ _ holds => holds.leave)
          fun _ holds => holds.leave).owned
    | writeDump id =>
        have written : Yields (Holding terms [] []) (writeDump id) (fun _ => Holding terms [] []) (Holding terms [] []) :=
          Yields.bind (Yields.ofKeeps (call_keeps holding_answerable)) fun _ => Yields.modify fun s holding =>
            holding.ofOwned (holding.owned.map fun _ balanced => balanced.frame rfl rfl rfl rfl rfl) rfl
        exact (Yields.after (R := Holding terms [] []) written holding (fun _ _ holds => holds) fun _ holds => holds).owned
    | bread id k =>
        have reading : Reading terms id (s.fieldsOf id) (s.dumps.getD k []) (targetsIn (s.fieldsOf id)) k
            { s with answers } := ⟨holding.take (has_of_hasUbf accepted), rfl, restoring.restores.once, restoring.restores.free⟩
        exact (Yields.after (R := Holding terms [] []) (bread_yields loose) reading (fun _ _ holds => holds)
          fun _ holds => holds).owned
    | bextread id k part =>
        have reading : Reading terms id (s.fieldsOf id) (s.dumps.getD k []) [] k { s with answers } :=
          ⟨holding.take (has_of_hasUbf accepted), rfl, restoring.restores.once, restoring.restores.free⟩
        exact (Yields.after (R := Holding terms [] []) (bextread_yields loose) reading (fun _ _ holds => holds)
          fun _ holds => holds).owned
    | tpimport received => exact absurd restoring.safe (by simp [Op.receives])
    | tpcall svc id reply => exact absurd restoring.safe (by simp [Op.receives])
    | tpgetrply id cd reply => exact absurd restoring.safe (by simp [Op.receives])
    | _ => exact edited rfl
  · exact owned

/-- **No second owner**: in every run whose reads of dumps restore only what nothing else owns, no two values and
occurrences own one buffer. -/
theorem copies_keep_one_owner (labels : List Label) (restoring : program.Along Restoring labels) :
    ∀ earlier, earlier <+: labels → (program.run earlier).Exclusive := by
  rintro earlier ⟨later, rfl⟩
  have start : State.Owned False [] program.init := ⟨[], fun _ => rfl, balanced_init⟩
  exact (Machine.invariantAlong (M := program) start (fun _ _ restoring owned => State.Owned.step owned restoring) earlier
    restoring.before).exclusive

/-- A UBF with a pointer written out, and read into another. -/
def readBack (id : BufId) : List Label :=
  [{ op := .tpallocUbf 64 }, { op := .tpallocCarray [1] }, { op := .bchg 0 ⟨1, .Ptr⟩ 0 (.ptr 1) true },
   { op := .writeDump 0 }, { op := .tpallocUbf 64 }, { op := .bread id 0 }]

/-- Read into the buffer it was written from, the dump restores what it replaces. -/
theorem read_back_restores : (program.run (readBack 0)).Exclusive := by
  refine copies_keep_one_owner (readBack 0) ?_ (readBack 0) List.prefix_rfl
  have safe (s : State) (op : Op) (kept : op.receives = false) (restores : op.restores s) : Restoring s { op } :=
    ⟨kept, restores, fun _ => nofun⟩
  refine ⟨safe _ _ rfl trivial, safe _ _ rfl trivial, safe _ _ rfl trivial, safe _ _ rfl trivial,
    safe _ _ rfl trivial, safe _ _ rfl ⟨?_, ?_⟩, trivial⟩
  · decide +kernel
  · decide +kernel

/-- Read into another buffer, it makes a second owner. -/
theorem read_back_duplicates : ¬ ∀ labels : List Label, (∀ label ∈ labels, label.op.receives = false) →
    (program.run labels).Exclusive := by
  intro all
  have twice : ¬ ((program.run (readBack 2)).values ++ (program.run (readBack 2)).stored).Nodup := by decide +kernel
  exact twice (all (readBack 2) (by decide)).once

end Endurox.Typed
