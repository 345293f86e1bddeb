/-
# Ubf.Groups -- what a group checks before it writes

Every write of a flat group checks its members once, at the first row and at the last
one (a `Vec`, past it); every occurrence that a row, the clearing behind it or a read
then computes lies between.  So a group that does not fit is refused before anything is
written, and one that passes meets no overflow (`group_validation_protects`).
-/
import Endurox.Ubf.Reading

namespace Endurox.Ubf

open Endurox.Theory
open Endurox.Typed (BFLDID UbfFieldType UbfError UbfCode)

set_option autoImplicit false

/-! ## What validation says -/

/-- Every member of a row at `base` has one occurrence, and its slot is one. -/
def Slots (base : Int) (members : List (String × Placed)) : Prop :=
  ∀ member ∈ members, ∀ single occ, member.2.slot = some (single, occ) →
    single = true ∧ 0 ≤ occ ∧ base + occ ≤ i32Max

theorem groupChecks_eq_ok (name : String) {base : Int} (based : 0 ≤ base) :
    ∀ members : List (String × Placed), groupChecks name base members = .ok () ↔ Slots base members
  | [] => by simp [groupChecks, Slots]
  | (member, placed) :: members => by
      have ih := groupChecks_eq_ok name based members
      unfold Slots at ih ⊢
      rw [List.forall_mem_cons, ← ih, groupChecks]
      cases slot : placed.slot with
      | none => simp [bind, Except.bind]
      | some width =>
          obtain ⟨single, occ⟩ := width
          have one : (∀ single' occ', some (single, occ) = some (single', occ') →
              single' = true ∧ 0 ≤ occ' ∧ base + occ' ≤ i32Max) ↔
              ∃ slot', ubfGroupFieldCheck single base occ = .ok slot' := by
            simp only [Option.some.injEq, Prod.mk.injEq, ubfGroupFieldCheck_eq_ok]
            constructor
            · intro fits
              obtain ⟨wide, placed, inside⟩ := fits single occ ⟨rfl, rfl⟩
              exact ⟨_, wide, based, placed, inside, rfl⟩
            · rintro ⟨_, wide, _, placed, inside, -⟩ _ _ ⟨rfl, rfl⟩
              exact ⟨wide, placed, inside⟩
          rw [one]
          cases checked : ubfGroupFieldCheck single base occ with
          | error e => simp [bind, Except.bind, Except.mapError, checked]
          | ok slot' => simp [bind, Except.bind, Except.mapError, checked]

/-- **What a group validates**: its row's place, and every member's slot. -/
theorem validateGroup_eq_ok (g : GroupDecl) (base : Int) :
    validateGroup g base = .ok () ↔ 0 ≤ base ∧ base ≤ i32Max ∧ Slots base g.members := by
  unfold validateGroup
  cases checked : ubfOccurrence base 0 with
  | error e =>
      simp only [bind, Except.bind, reduceCtorEq, false_iff]
      rintro ⟨based, inside, -⟩
      have : ubfOccurrence base 0 = .ok (base + (0 : Nat)) :=
        ubfOccurrence_eq_ok.2 ⟨based, by simpa using inside, rfl⟩
      rw [this] at checked
      cases checked
  | ok first =>
      obtain ⟨based, inside, -⟩ := ubfOccurrence_eq_ok.1 checked
      have first_inside : base ≤ i32Max := by simpa using inside
      simp only [bind, Except.bind, groupChecks_eq_ok g.name based, based, first_inside, true_and]

/-! ## What each container validates -/

/-- The rows a value has. -/
def rowsOf : GroupTy → Value → Nat
  | .one _, _ => 1
  | .vec _, .list rows => rows.length
  | .array size _, _ => size
  | _, _ => 0

/-- The rows a read finds, of an anchor with so many occurrences. -/
def rowsFound (g : GroupDecl) (base : Int) (occurrences : Nat) : GroupTy → Nat
  | .one _ => 1
  | .vec _ => rowCount g occurrences - base.toNat
  | .array size _ => size

/-- What a write checks first. -/
def writeValidation (g : GroupDecl) (base : Int) : GroupTy → Nat → Except UbfError Unit
  | .one _, _ => validateGroup g base
  | .vec _, rows => do
      let last ← ubfOccurrence base rows
      validateGroup g base
      validateGroup g last
  | .array _ _, rows => do
      validateGroup g base
      let last ← ubfOccurrence base (rows - 1)
      validateGroup g last

/-- What a read checks first, of an anchor with so many occurrences. -/
def readValidation (g : GroupDecl) (base : Int) (occurrences : Nat) : GroupTy → Except UbfError Unit
  | .one _ => validateGroup g base
  | .vec _ => do
      validateGroup g base
      let _ ← ubfGroupFieldCheck true base g.anchor.2
      if base < rowCount g occurrences then validateGroup g (rowCount g occurrences - 1) else .ok ()
  | .array size _ => do
      validateGroup g base
      let last ← ubfOccurrence base (size - 1)
      validateGroup g last

theorem bind_ok {ε α β : Type} {first : Except ε α} {next : α → Except ε β} {b : β} :
    (first >>= next) = .ok b ↔ ∃ a, first = .ok a ∧ next a = .ok b := by
  cases first <;> simp [bind, Except.bind]

/-- A row's place and its slots, as the row's write, its read and the clearing compute them. -/
structure Computed (g : GroupDecl) (base : Int) (row : Nat) : Prop where
  place : ubfOccurrence base row = .ok (base + row)
  valid : validateGroup g (base + row) = .ok ()
  slots : ∀ member ∈ g.members, ∀ single occ, member.2.slot = some (single, occ) →
    ubfGroupFieldCheck true (base + row) occ = .ok (base + row + occ)

/-- **Between two valid rows every row is.** -/
theorem computed_between {g : GroupDecl} {base last : Int} {row : Nat} (first : validateGroup g base = .ok ())
    (end_ : validateGroup g last = .ok ()) (inside : base + row ≤ last) : Computed g base row := by
  obtain ⟨based, fits, below⟩ := (validateGroup_eq_ok g base).1 first
  obtain ⟨-, top, above⟩ := (validateGroup_eq_ok g last).1 end_
  have slots : Slots (base + row) g.members := by
    intro member here single occ slot
    obtain ⟨wide, placed, bound⟩ := above member here single occ slot
    exact ⟨wide, placed, by omega⟩
  refine ⟨ubfOccurrence_eq_ok.2 ⟨based, by omega, rfl⟩, ?_, ?_⟩
  · exact (validateGroup_eq_ok g _).2 ⟨by omega, by omega, slots⟩
  · intro member here single occ slot
    obtain ⟨_, placed, bound⟩ := slots member here single occ slot
    exact ubfGroupFieldCheck_eq_ok.2 ⟨rfl, by omega, placed, bound, rfl⟩

/-- **A validated write computes no occurrence out of range**: no row's, and behind a `Vec`
not the clearing's. -/
theorem writeValidation_computed {g : GroupDecl} {base : Int} {type : GroupTy} {rows : Nat}
    (passed : writeValidation g base type rows = .ok ()) :
    (∀ row < match type with | .one _ => 1 | _ => rows, Computed g base row) ∧
      ∀ id, type = .vec id → Computed g base rows := by
  cases type with
  | one id =>
      refine ⟨fun row only => ?_, fun _ other => nomatch other⟩
      obtain rfl : row = 0 := Nat.lt_one_iff.1 only
      exact computed_between passed passed (by simp)
  | vec id =>
      obtain ⟨last, placed, rest⟩ := bind_ok.1 passed
      obtain ⟨_, first, end_⟩ := bind_ok.1 rest
      obtain ⟨-, -, rfl⟩ := ubfOccurrence_eq_ok.1 placed
      exact ⟨fun row below => computed_between first end_ (by simp only at below; omega),
        fun _ _ => computed_between first end_ (Int.le_refl _)⟩
  | array size id =>
      obtain ⟨_, first, rest⟩ := bind_ok.1 passed
      obtain ⟨last, placed, end_⟩ := bind_ok.1 rest
      obtain ⟨-, -, rfl⟩ := ubfOccurrence_eq_ok.1 placed
      exact ⟨fun row below => computed_between first end_ (by simp only at below; omega),
        fun _ other => nomatch other⟩

/-- **Nor does a validated read.** -/
theorem readValidation_computed {g : GroupDecl} {base : Int} {type : GroupTy} {occurrences : Nat}
    (passed : readValidation g base occurrences type = .ok ()) :
    ∀ row < rowsFound g base occurrences type, Computed g base row := by
  cases type with
  | one id =>
      intro row only
      obtain rfl : row = 0 := Nat.lt_one_iff.1 only
      exact computed_between passed passed (by simp)
  | vec id =>
      intro row below
      obtain ⟨_, first, rest⟩ := bind_ok.1 passed
      obtain ⟨_, _, end_⟩ := bind_ok.1 rest
      have based := ((validateGroup_eq_ok g base).1 first).1
      change row < rowCount g occurrences - base.toNat at below
      rw [if_pos (by omega)] at end_
      exact computed_between first end_ (by omega)
  | array size id =>
      intro row below
      obtain ⟨_, first, rest⟩ := bind_ok.1 passed
      obtain ⟨last, placed, end_⟩ := bind_ok.1 rest
      obtain ⟨-, -, rfl⟩ := ubfOccurrence_eq_ok.1 placed
      change row < size at below
      exact computed_between first end_ (by omega)

/-! ## What is refused -/

/-- Some member of the group does not fit: it has several occurrences, or its offset is
negative or overflows in some row. -/
def Unfit (g : GroupDecl) (base : Int) (rows : Nat) : Prop :=
  ∃ member ∈ g.members, ∃ single occ, member.2.slot = some (single, occ) ∧
    (single = false ∨ occ < 0 ∨ i32Max < base + occ ∨ ∃ row < rows, i32Max < base + row + occ)

theorem writeValidation_unfit {g : GroupDecl} {base : Int} {type : GroupTy} {rows : Nat}
    (unfit : Unfit g base rows) (one : ∀ id, type = .one id → rows = 1) : ∃ e, writeValidation g base type rows = .error e := by
  cases validated : writeValidation g base type rows with
  | error e => exact ⟨e, rfl⟩
  | ok u =>
      exfalso
      obtain ⟨member, here, single, occ, slot, bad⟩ := unfit
      have first : validateGroup g base = .ok () := by
        cases type with
        | one id => exact validated
        | vec id =>
            obtain ⟨_, _, rest⟩ := bind_ok.1 validated
            exact (bind_ok.1 rest).choose_spec.1
        | array size id => exact (bind_ok.1 validated).choose_spec.1
      obtain ⟨-, -, slots⟩ := (validateGroup_eq_ok g base).1 first
      obtain ⟨wide, placed, inside⟩ := slots member here single occ slot
      have rowsFit : ∀ row < rows, base + row + occ ≤ i32Max := by
        intro row below
        have computed := (writeValidation_computed validated).1 row (by
          cases type with
          | one id => exact (one id rfl) ▸ below
          | vec id => exact below
          | array size id => exact below)
        exact (ubfGroupFieldCheck_eq_ok.1 (computed.slots member here single occ slot)).2.2.2.1
      rcases bad with many | negative | past | ⟨row, below, past⟩
      · exact absurd (many.symm.trans wide) (by decide)
      · omega
      · omega
      · have := rowsFit row below
        omega

section Runs

theorem check_run {α : Type} (result : Except UbfError α) (t : Target) :
    (check result).run.run t = (result, t) := by
  cases result <;> rfl

/-- Checks made one after another fail as they do together, and touch nothing. -/
theorem check_refused {α β γ : Type} {first : Except UbfError α} {rest : α → Except UbfError β}
    {next : α → Writing γ} {e : UbfError} {t : Target} (failed : (first >>= rest) = .error e)
    (later : ∀ a, rest a = .error e → (next a).run.run t = (.error e, t)) :
    (check first >>= next).run.run t = (.error e, t) := by
  cases result : first with
  | error e' =>
      rw [result] at failed
      cases failed
      rfl
  | ok a =>
      rw [result] at failed
      exact later a failed

/-- The same of the last check. -/
theorem check_last {α γ : Type} {last : Except UbfError α} {next : α → Writing γ} {e : UbfError} {t : Target}
    (failed : last = .error e) : (check last >>= next).run.run t = (.error e, t) := by
  subst failed
  rfl

variable (N : Native) (child : StructId → Value → Writing PUnit)

/-- **A write that does not validate leaves the buffer alone.** -/
theorem writeGroup_refused {groups : List GroupDecl} {g : GroupDecl} {base : Int} {type : GroupTy}
    {value : Value} {e : UbfError} (known : groups[type.id]? = some g)
    (failed : writeValidation g base type (rowsOf type value) = .error e) (t : Target) :
    ∃ e', (writeGroup N child groups base type value).run.run t = (.error e', t) := by
  unfold writeGroup
  rw [known]
  cases type with
  | one id => exact ⟨e, check_last failed⟩
  | vec id =>
      cases value with
      | list rows =>
          exact ⟨e, check_refused failed fun last rest => check_refused rest fun _ end_ => check_last end_⟩
      | _ => exact ⟨illTyped, rfl⟩
  | array size id =>
      cases value with
      | list rows =>
          show ∃ e', (throwIf (rows.length ≠ size) illTyped >>= _ : Writing PUnit).run.run t = _
          unfold throwIf
          by_cases same : rows.length = size
          · subst same
            rw [if_neg (not_not.2 rfl)]
            exact ⟨e, check_refused failed fun _ rest => check_refused rest fun last end_ => check_last end_⟩
          · rw [if_pos same]
            exact ⟨illTyped, rfl⟩
      | _ => exact ⟨illTyped, rfl⟩

end Runs

section Reads

variable {Addr : Type} [DecidableEq Addr] (S : Source Addr) (D : Decls) (pos : S.Pos)
  (child : StructId → S.Pos → Reading Addr Value)

omit [DecidableEq Addr] in
theorem ask_refused {α β γ : Type} {first : Except UbfError α} {rest : α → Except UbfError β}
    {next : α → Reading Addr γ} {e : UbfError} {path : List Addr} (failed : (first >>= rest) = .error e)
    (later : ∀ a, rest a = .error e → (next a).run.run path = some (.error (.error e), path)) :
    (ask first >>= next).run.run path = some (.error (.error e), path) := by
  cases result : first with
  | error e' =>
      rw [result] at failed
      cases failed
      rfl
  | ok a =>
      rw [result] at failed
      exact later a failed

omit [DecidableEq Addr] in
theorem ask_last {α γ : Type} {last : Except UbfError α} {next : α → Reading Addr γ} {e : UbfError}
    {path : List Addr} (failed : last = .error e) :
    (ask last >>= next).run.run path = some (.error (.error e), path) := by
  subst failed
  rfl

/-- **A read that does not validate reads nothing.** -/
theorem readGroup_refused {g : GroupDecl} {base : Int} {type : GroupTy} {occurrences : Nat} {e : UbfError}
    (known : D.groups[type.id]? = some g) (counted : S.count pos g.anchor.1 = .ok occurrences)
    (failed : readValidation g base occurrences type = .error e) (path : List Addr) :
    (readGroup S D pos child base type).run.run path = some (.error (.error e), path) := by
  unfold readGroup
  rw [known]
  cases type with
  | one id => exact ask_last failed
  | vec id =>
      refine ask_refused failed fun _ rest => ask_refused rest fun _ end_ => ?_
      rw [counted]
      show (ask (if base < (rowCount g occurrences : Nat) then validateGroup g (rowCount g occurrences - 1)
        else .ok ()) >>= _).run.run path = _
      exact ask_last end_
  | array size id =>
      exact ask_refused failed fun _ rest => ask_refused rest fun last end_ => ask_last end_

end Reads

/-! ## The result -/

/-- **Group validation protects the buffer.** For every group, place, container and value: if
some member does not fit, the write is refused and the buffer is as it was; a write, or a
read, that does not validate ends there; and past validation no occurrence of a row, of
the clearing behind the rows or of a row read is out of range. -/
theorem group_validation_protects (N : Native) (child : StructId → Value → Writing PUnit) (D : Decls)
    (g : GroupDecl) (base : Int) (type : GroupTy) (value : Value) (known : D.groups[type.id]? = some g) :
    (Unfit g base (rowsOf type value) →
        ∀ t, ∃ e, (writeGroup N child D.groups base type value).run.run t = (.error e, t)) ∧
      (∀ e, writeValidation g base type (rowsOf type value) = .error e →
        ∀ t, ∃ e', (writeGroup N child D.groups base type value).run.run t = (.error e', t)) ∧
      (writeValidation g base type (rowsOf type value) = .ok () →
        (∀ row < rowsOf type value, Computed g base row) ∧
          ∀ id, type = .vec id → Computed g base (rowsOf type value)) ∧
      ∀ (Addr : Type) [DecidableEq Addr] (S : Source Addr) (pos : S.Pos)
        (child : StructId → S.Pos → Reading Addr Value) (occurrences : Nat),
        S.count pos g.anchor.1 = .ok occurrences →
        (∀ e, readValidation g base occurrences type = .error e →
          ∀ path, (readGroup S D pos child base type).run.run path = some (.error (.error e), path)) ∧
        (readValidation g base occurrences type = .ok () →
          ∀ row < rowsFound g base occurrences type, Computed g base row) := by
  have single : ∀ id, type = .one id → rowsOf type value = 1 := by
    rintro id rfl
    rfl
  refine ⟨fun unfit t => ?_, fun e failed t => writeGroup_refused N child known failed t, fun passed => ?_, ?_⟩
  · obtain ⟨e, failed⟩ := writeValidation_unfit unfit single
    exact writeGroup_refused N child known failed t
  · obtain ⟨rows, behind⟩ := writeValidation_computed passed
    refine ⟨fun row below => rows row ?_, behind⟩
    cases type with
    | one id => exact below
    | vec id => exact below
    | array size id => exact below
  · intro Addr _ S pos child occurrences counted
    exact ⟨fun e failed path => readGroup_refused S D pos child known counted failed path,
      readValidation_computed⟩

/-- Rows of an id and, one occurrence further on, a count. -/
def pairGroup : GroupDecl where
  name := "Pair"
  members :=
    [("id", .field ⟨3, .Long⟩ 0 (.scalar (.int longMin longMax)) false),
     ("count", .field ⟨4, .Long⟩ 1 (.scalar (.int longMin longMax)) false)]
  anchor := (⟨3, .Long⟩, 0)
  anchored := rfl

/-- A row at the last occurrence there is: the count does not fit, and nothing is written. -/
theorem pair_at_the_end_refused :
    ∃ e, (writeGroup littleEndian (fun _ _ => pure ⟨⟩) [pairGroup] i32Max (.vec 0)
      (.list [.struct [.scalar (.int 1), .scalar (.int 2)]])).run.run ⟨[], []⟩ = (.error e, ⟨[], []⟩) :=
  (group_validation_protects littleEndian (fun _ _ => pure ⟨⟩) ⟨[], [pairGroup], []⟩ pairGroup i32Max (.vec 0)
    (.list [.struct [.scalar (.int 1), .scalar (.int 2)]]) rfl).1
    ⟨("count", _), List.mem_cons_of_mem _ List.mem_cons_self, true, 1, rfl, .inr (.inr (.inl (by decide)))⟩ _

end Endurox.Ubf
