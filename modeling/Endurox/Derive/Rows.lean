/-
# Derive.Rows -- what the emitted code of a group does

A `#[ubf(group)]` struct has, beside its plain impls, those of a row of a parent buffer: the
checks, the members at an occurrence, what clears the tail, and the anchor that counts rows.
The emitted code asks for the occurrence of a member where it needs it, twice in a read that
may take a default; `derived_rows_mean_declaration` says that it does what the mapping layer
does for the group.
-/
import Endurox.Derive.Meaning

namespace Endurox.Derive

open Endurox.Theory
open Endurox.Typed (BFLDID UbfError)
open Endurox.Ubf (Mapping StructId FieldTy MappedTy Value Placed GroupDecl Decls Native Writing Reading Source Exit
  labelled readLabelled illTyped ask writeField writeOccurrence writePlacedAt writeRow writeAt clearFrom clearRow
  clearGroup readField readMapped readPlacedAt readRow readAt mappingPresent orDefault about ubfOccurrence
  ubfGroupFieldCheck groupChecks validateGroup)

set_option autoImplicit false

/-- The occurrence given to a call. -/
def Call.occ : Call → Option Expr
  | .field _ occ => occ
  | .mapped _ _ occ _ => occ
  | .flatten => none
  | .group occ => occ

section Rows

variable {Ty : Type} (R : Rust Ty)

/-- `SINGLE` of the impl that a call is of. -/
def Rust.single (type : Ty) : Call → Bool
  | .field _ _ => (R.fieldTy type).elim false FieldTy.single
  | .mapped m _ _ _ => (R.mappedTy m type).elim false (MappedTy.single m)
  | _ => false

/-! ## Checks -/

def runChecks (name : String) (base : Int) : List (Check Ty) → Except UbfError Unit
  | [] => .ok ()
  | check :: rest => do
      let _ ← (ubfGroupFieldCheck (R.single check.type check.call) base (R.occ check.occ)).mapError
        (about name check.ident)
      runChecks name base rest

/-- The emitted `ubf_validate_group`. -/
def runValidate (name : String) (checks : List (Check Ty)) (base : Int) : Except UbfError Unit := do
  let _ ← ubfOccurrence base 0
  runChecks R name base checks

/-! ## Rows that are written -/

section Writes

variable (N : Native) (child : StructId → Value → Writing PUnit)

/-- A call at an occurrence of the parent. -/
def rowCall (slot : Int) (value : Value) (type : Ty) : Call → Writing PUnit
  | .field id _ => (R.fieldTy type).elim (throw illTyped) fun t => writeField N (R.field id) t value slot
  | .mapped m id _ _ =>
      (R.mappedTy m type).elim (throw illTyped) fun t => writeOccurrence N child m (R.field id) t value slot
  | _ => throw illTyped

def runRow (name : String) (base : Int) (self : List (String × Value)) : List (Statement Ty) → Writing PUnit
  | [] => pure ⟨⟩
  | .write ident type call :: rest => do
      let slot ← labelled name ident (Ubf.check (ubfGroupFieldCheck true base (R.occ call.occ)))
      labelled name ident (rowCall R N child slot (memberNamed self ident) type call)
      runRow name base self rest
  | _ :: _ => throw illTyped

/-- The emitted `ubf_write_at`. -/
def runWriteAt (name : String) (checks : List (Check Ty)) (rows : List (Statement Ty)) (self : List (String × Value))
    (base : Int) : Writing PUnit := do
  Ubf.check (runValidate R name checks base)
  runRow R N child name base self rows

def runClears (name : String) (first : Int) : List Clear → Writing PUnit
  | [] => pure ⟨⟩
  | clear :: rest => do
      let slot ← labelled name clear.ident (Ubf.check (ubfGroupFieldCheck true first (R.occ clear.occ)))
      labelled name clear.ident (clearFrom (R.field clear.id) slot)
      runClears name first rest

/-- The emitted `ubf_clear_from`. -/
def runClearFrom (name : String) (checks : List (Check Ty)) (clears : List Clear) (first : Int) : Writing PUnit := do
  Ubf.check (runValidate R name checks first)
  runClears R name first clears

end Writes

/-! ## Rows that are read -/

section Reads

variable {Addr : Type} [DecidableEq Addr] (S : Source Addr) (D : Decls) (pos : S.Pos)
  (child : StructId → S.Pos → Reading Addr Value)

def rowRead (slot : Int) (type : Ty) : Call → Reading Addr Value
  | .field id _ => (R.fieldTy type).elim (throw (.error illTyped)) fun t => readField S pos (R.field id) t slot
  | .mapped m id _ _ =>
      (R.mappedTy m type).elim (throw (.error illTyped)) fun t => readMapped S pos (R.field id) child m t slot
  | _ => throw (.error illTyped)

def rowPresent (slot : Int) : Call → Reading Addr Bool
  | .field id _ => mappingPresent S pos (R.field id) slot
  | .mapped _ id _ _ => mappingPresent S pos (R.field id) slot
  | _ => throw (.error illTyped)

/-- The occurrence a member of a row is at. -/
def rowSlot (name ident : String) (base : Int) (call : Call) : Reading Addr Int :=
  readLabelled name ident (ask (ubfGroupFieldCheck true base (R.occ call.occ)))

def runRowRead (name : String) (base : Int) : Statement Ty → Reading Addr Value
  | .read ident type call => do
      let slot ← rowSlot R name ident base call
      readLabelled name ident (rowRead R S pos child slot type call)
  | .readOrDefault ident type call => do
      let slot ← rowSlot R name ident base call
      let present ← readLabelled name ident (rowPresent R S pos slot call)
      if present then do
        let slot ← rowSlot R name ident base call
        readLabelled name ident (rowRead R S pos child slot type call)
      else pure (defaultOf R D type call)
  | .default _ _ => pure (.skipped none)
  | .write _ _ _ => throw (.error illTyped)

def runRowReads (name : String) (base : Int) : List (Statement Ty) → Reading Addr (List Value)
  | [] => pure []
  | statement :: rest => do
      let value ← runRowRead R S D pos child name base statement
      let values ← runRowReads name base rest
      pure (value :: values)

/-- The emitted `ubf_read_at`. -/
def runReadAt (name : String) (checks : List (Check Ty)) (rows : List (Statement Ty)) (base : Int) :
    Reading Addr Value := do
  ask (runValidate R name checks base)
  let values ← runRowReads R S D pos child name base rows
  pure (.struct values)

end Reads

/-! ## What is declared -/

/-- The members of a row as they are declared. -/
def Rust.Row (mapped : List (Field Ty)) (members : List (String × Placed)) : Prop :=
  List.Forall₂ (fun field member => member.1 = field.ident ∧ R.placed field.type field.place = some member.2)
    mapped members

/-- The group of the mapping layer that an input declares. -/
def Rust.DeclaresGroup (input : DeriveInput Ty) (g : GroupDecl) : Prop :=
  ∃ mapped, fields false input.data = .ok mapped ∧ g.name = input.name ∧ R.Row mapped g.members

end Rows

/-! ## A member of a row -/

section Members

variable {Ty : Type} {R : Rust Ty} {type : Ty}

/-- A check that has passed passes again. -/
theorem relabelled_ask_again {Addr α β : Type} (rename : Exit → Exit) (result : Except UbfError α)
    (next : α → Reading Addr Bool) (then_ : α → Reading Addr β) (else_ : Reading Addr β) :
    (relabelled rename (ask result : Reading Addr α) >>= fun a => next a >>= fun present =>
      if present then relabelled rename (ask result : Reading Addr α) >>= then_ else else_) =
      relabelled rename (ask result : Reading Addr α) >>= fun a => next a >>= fun present =>
        if present then then_ a else else_ := by
  cases result with
  | error e => rfl
  | ok a =>
      have passed : relabelled rename (ask (.ok a) : Reading Addr α) = pure a := relabelled_pure rename a
      simp only [passed, pure_bind]

/-- The emitted code of a row's member does what the mapping layer does for it. -/
structure RowCarries (R : Rust Ty) (type : Ty) (call : Call) (default : Bool) (slot : Expr × Option Expr)
    (placed : Placed) : Prop where
  at_ : call.occ = slot.2
  wide : placed.slot = some (R.single type call, R.occ slot.2)
  field : placed.field? = some (R.field slot.1, R.occ slot.2)
  writes : ∀ N child base value name ident,
    (do
      let slot ← labelled name ident (Ubf.check (ubfGroupFieldCheck true base (R.occ call.occ)))
      labelled name ident (rowCall R N child slot value type call)) =
      labelled name ident (writePlacedAt N child base value placed)
  reads : ∀ {Addr : Type} [DecidableEq Addr] (S : Source Addr) D pos child base name ident,
    runRowRead R S D pos child name base
        (if default then .readOrDefault ident type call else .read ident type call) =
      readLabelled name ident (readPlacedAt S D pos child base placed)

theorem rowCarries_field {id : Expr} {occ : Option Expr} {t : FieldTy} (typed : R.fieldTy type = some t)
    (default : Bool) :
    RowCarries R type (.field id occ) default (id, occ) (.field (R.field id) (R.occ occ) t default) where
  at_ := rfl
  wide := by
    simp [Rust.single, typed, Ubf.Placed.slot]
  field := rfl
  writes N child base value name ident := by
    simp only [rowCall, typed, Option.elim_some, writePlacedAt, Call.occ, labelled_eq, relabelled_bind]
  reads S D pos child base name ident := by
    cases default with
    | false =>
        simp only [runRowRead, rowSlot, rowRead, typed, Option.elim_some, readPlacedAt, Call.occ, orDefault,
          readLabelled_eq, relabelled_bind, Bool.false_eq_true, if_false]
    | true =>
        simp only [runRowRead, rowSlot, rowRead, rowPresent, typed, Option.elim_some, readPlacedAt, Call.occ,
          readLabelled_eq, relabelled_bind, if_true]
        rw [relabelled_ask_again]
        congr 1
        funext slot
        simp only [← readLabelled_eq, orDefault_labelled, defaultOf, typed]
        simp

theorem rowCarries_mapped {m : Mapping} {id : Expr} {occ size : Option Expr} {t : MappedTy}
    (typed : R.mappedTy m type = some t) (default : Bool) :
    RowCarries R type (.mapped m id occ size) default (id, occ) (.mapped m (R.field id) (R.occ occ) t default) where
  at_ := rfl
  wide := by
    simp [Rust.single, typed, Ubf.Placed.slot]
  field := rfl
  writes N child base value name ident := by
    simp only [rowCall, typed, Option.elim_some, writePlacedAt, Call.occ, labelled_eq, relabelled_bind]
  reads S D pos child base name ident := by
    cases default with
    | false =>
        simp only [runRowRead, rowSlot, rowRead, typed, Option.elim_some, readPlacedAt, Call.occ, orDefault,
          readLabelled_eq, relabelled_bind, Bool.false_eq_true, if_false]
    | true =>
        simp only [runRowRead, rowSlot, rowRead, rowPresent, typed, Option.elim_some, readPlacedAt, Call.occ,
          readLabelled_eq, relabelled_bind, if_true]
        rw [relabelled_ask_again]
        congr 1
        funext slot
        simp only [← readLabelled_eq, orDefault_labelled, defaultOf, typed]
        simp

theorem rowCarries_member (ident : String) {place : Placement} {placed : Placed} (declared : R.placed type place = some placed) :
    (place = .skip ∧ placed = .skip) ∨
      ∃ call slot, place.call false ident = some call ∧ place.slot false ident = some slot ∧
        RowCarries R type call place.default slot placed := by
  cases place with
  | skip =>
      cases declared
      exact .inl ⟨rfl, rfl⟩
  | flatten => cases declared
  | group occ => cases declared
  | field id occ default =>
      cases id with
      | none => cases declared
      | some id =>
          obtain ⟨t, typed, rfl⟩ := Option.map_eq_some_iff.1 declared
          exact .inr ⟨_, _, rfl, rfl, rowCarries_field typed default⟩
  | ubf pointer id occ size default =>
      cases id with
      | none => cases declared
      | some id =>
          obtain ⟨t, typed, rfl⟩ := Option.map_eq_some_iff.1 declared
          exact .inr ⟨_, _, rfl, rfl, rowCarries_mapped typed default⟩
  | view pointer id occ default =>
      cases id with
      | none => cases declared
      | some id =>
          obtain ⟨t, typed, rfl⟩ := Option.map_eq_some_iff.1 declared
          exact .inr ⟨_, _, rfl, rfl, rowCarries_mapped typed default⟩

end Members

/-! ## A group -/

section Group

variable {Ty : Type} {R : Rust Ty} {mapped : List (Field Ty)} {members : List (String × Placed)}

theorem runChecks_row (declared : R.Row mapped members) (name : String) (base : Int) :
    runChecks R name base (mapped.filterMap (checkOf false)) = groupChecks name base members := by
  induction declared with
  | nil => rfl
  | cons first _ ih =>
      rename_i field member mapped members _
      obtain ⟨label, placed⟩ := member
      obtain ⟨rfl, meant⟩ := first
      rw [filterMap_cons_toList]
      unfold groupChecks
      rw [← ih]
      rcases rowCarries_member field.ident meant with ⟨skipped, rfl⟩ | ⟨call, slot, called, at_, carries⟩
      · have unchecked : checkOf false field = none := by
          unfold checkOf
          rw [skipped]
          rfl
        rw [unchecked]
        rfl
      · have checked : checkOf false field = some { ident := field.ident, type := field.type, call, occ := slot.2 } := by
          unfold checkOf
          rw [called, at_]
          rfl
        rw [checked, carries.wide]
        rfl

theorem runRow_row (declared : R.Row mapped members) (N : Native) (child : StructId → Value → Writing PUnit)
    (name : String) (base : Int) (self : List (String × Value)) : ∀ {values : List Value},
      List.Forall₂ (fun member value => memberNamed self member.1 = value) members values →
        runRow R N child name base self (mapped.flatMap (statementsOf false true)) =
          writeRow N child name base members values := by
  induction declared with
  | nil =>
      intro values each
      cases each
      rfl
  | cons first _ ih =>
      rename_i field member mapped members _
      intro values each
      obtain ⟨label, placed⟩ := member
      obtain ⟨rfl, meant⟩ := first
      cases each with
      | cons here rest =>
          rename_i value values
          unfold writeRow
          rw [← ih rest, List.flatMap_cons]
          rcases rowCarries_member field.ident meant with ⟨skipped, rfl⟩ | ⟨call, slot, called, at_, carries⟩
          · simp only [statementsOf, skipped, Placement.call, if_true, List.nil_append, writePlacedAt]
            rw [labelled_eq, relabelled_pure]
            rfl
          · simp only [statementsOf, called, if_true, List.cons_append, List.nil_append, runRow]
            rw [here, ← carries.writes, bind_assoc]

theorem runClears_row (declared : R.Row mapped members) (name : String) (first : Int) :
    runClears R name first (mapped.filterMap (clearOf false)) = clearRow name first members := by
  induction declared with
  | nil => rfl
  | cons head _ ih =>
      rename_i field member mapped members _
      obtain ⟨label, placed⟩ := member
      obtain ⟨rfl, meant⟩ := head
      rw [filterMap_cons_toList]
      unfold clearRow
      rw [← ih]
      rcases rowCarries_member field.ident meant with ⟨skipped, rfl⟩ | ⟨call, slot, called, at_, carries⟩
      · have kept : clearOf false field = none := by
          unfold clearOf
          rw [skipped]
          rfl
        rw [kept]
        rfl
      · have cleared : clearOf false field = some { ident := field.ident, id := slot.1, occ := slot.2 } := by
          unfold clearOf
          rw [at_]
          rfl
        rw [cleared, carries.field]
        simp only [Option.toList_some, List.cons_append, List.nil_append, runClears, labelled_eq, relabelled_bind,
          bind_assoc]

theorem runRowReads_row (declared : R.Row mapped members) {Addr : Type} [DecidableEq Addr] (S : Source Addr) (D : Decls)
    (pos : S.Pos) (child : StructId → S.Pos → Reading Addr Value) (name : String) (base : Int) :
    runRowReads R S D pos child name base (mapped.flatMap (statementsOf false false)) =
      readRow S D pos child name base members := by
  induction declared with
  | nil => rfl
  | cons first _ ih =>
      rename_i field member mapped members _
      obtain ⟨label, placed⟩ := member
      obtain ⟨rfl, meant⟩ := first
      unfold readRow
      rw [← ih, List.flatMap_cons]
      rcases rowCarries_member field.ident meant with ⟨skipped, rfl⟩ | ⟨call, slot, called, at_, carries⟩
      · simp only [statementsOf, skipped, Placement.call, Bool.false_eq_true, if_false, List.cons_append,
          List.nil_append, runRowReads, runRowRead, readPlacedAt]
        rw [readLabelled_eq, relabelled_pure]
      · simp only [statementsOf, called, Bool.false_eq_true, if_false, List.cons_append, List.nil_append, runRowReads]
        rw [carries.reads]

/-- The anchor is the first member's that has a field. -/
theorem anchorOf_row (declared : R.Row mapped members) :
    (anchorOf false mapped).map (fun slot => (R.field slot.1, R.occ slot.2)) =
      members.findSome? fun member => member.2.field? := by
  unfold anchorOf
  induction declared with
  | nil => rfl
  | cons first _ ih =>
      rename_i field member mapped members _
      obtain ⟨label, placed⟩ := member
      obtain ⟨rfl, meant⟩ := first
      rcases rowCarries_member field.ident meant with ⟨skipped, rfl⟩ | ⟨call, slot, called, at_, carries⟩
      · rw [List.findSome?_cons, List.findSome?_cons, skipped]
        exact ih
      · rw [List.findSome?_cons, List.findSome?_cons, at_, carries.field]
        rfl

/-- The emitted `ubf_validate_group`, of either derive. -/
theorem runValidate_row {g : GroupDecl} (declared : R.Row mapped g.members) (base : Int) :
    runValidate R g.name (mapped.filterMap (checkOf false)) base = validateGroup g base := by
  unfold runValidate validateGroup
  rw [runChecks_row declared]

/-- The code of a group, from an accepted input. -/
theorem groupOf_expand {pathOf : PathParser} {serialize : Bool} {input : DeriveInput Ty} {impl : Impl Ty} {group : GroupImpl Ty}
    (ok : expand pathOf false serialize input = .ok impl) (grouped : impl.group = some group)
    (read : fields false input.data = .ok mapped) :
    impl.name = input.name ∧ groupOf false serialize mapped = some group := by
  obtain ⟨container, mapped', -, read', -, -, rfl⟩ := expand_eq_ok.1 ok
  cases read.symm.trans read'
  refine ⟨rfl, ?_⟩
  unfold implOf at grouped
  simp only at grouped
  split at grouped
  · exact grouped
  · cases grouped

/-- **The derived code of a group means what is declared.**  For whatever group the attributes of an accepted
`#[ubf(group)]` struct declare: the emitted checks accept the rows that the mapping layer accepts, a row is written,
cleared and read at an occurrence of the parent as the mapping layer does it, with its errors, and rows are counted
by the field that anchors the group. -/
theorem derived_rows_mean_declaration (pathOf : PathParser) (R : Rust Ty) (input : DeriveInput Ty) (g : GroupDecl)
    (declared : R.DeclaresGroup input g) (distinct : (g.members.map Prod.fst).Nodup) :
    (∀ writer checks rows clears, expand pathOf false true input = .ok writer →
      writer.group = some (.write checks rows clears) →
        (∀ base, runValidate R writer.name checks base = validateGroup g base) ∧
        (∀ N child values base, values.length = g.members.length →
          runWriteAt R N child writer.name checks rows (selfOf g.members values) base =
            writeAt N child g (.struct values) base) ∧
        ∀ first, runClearFrom R writer.name checks clears first = clearGroup g first) ∧
    (∀ reader checks rows anchor, expand pathOf false false input = .ok reader →
      reader.group = some (.read checks rows anchor) →
        (R.field anchor.1, R.occ anchor.2) = g.anchor ∧
        (∀ base, runValidate R reader.name checks base = validateGroup g base) ∧
        ∀ {Addr : Type} [DecidableEq Addr] (S : Source Addr) D pos child base,
          runReadAt R S D pos child reader.name checks rows base = readAt S D pos child g base) := by
  obtain ⟨mapped, read, called, members⟩ := declared
  constructor
  · intro writer checks rows clears ok grouped
    obtain ⟨named, emitted⟩ := groupOf_expand ok grouped read
    cases emitted
    rw [named, ← called]
    have validated := runValidate_row members
    refine ⟨validated, fun N child values base whole => ?_, fun first => ?_⟩
    · unfold runWriteAt writeAt
      have found := named_after [] (fun _ _ => List.not_mem_nil) distinct whole
      have written := runRow_row members N child g.name base _ found
      rw [List.nil_append] at written
      rw [validated, written]
    · unfold runClearFrom clearGroup
      rw [validated, runClears_row members]
  · intro reader checks rows anchor ok grouped
    obtain ⟨named, emitted⟩ := groupOf_expand ok grouped read
    obtain ⟨anchor, anchored, same⟩ := Option.map_eq_some_iff.1 emitted
    cases same
    rw [named, ← called]
    have validated := runValidate_row members
    refine ⟨?_, validated, fun S D pos child base => ?_⟩
    · have first := anchorOf_row members
      rw [anchored, g.anchored] at first
      exact Option.some.inj first
    · unfold runReadAt readAt
      rw [validated, runRowReads_row members]

/-- Two columns of longs, the second two occurrences on. -/
def columns : DeriveInput Unit where
  name := "Line"
  attrs := [⟨"ubf", .list [⟨some "group", none⟩]⟩]
  data := .named [⟨"note", (), [⟨"ubf", .list [⟨some "skip", none⟩]⟩]⟩,
    ⟨"n", (), [⟨"ubf", .list [⟨some "field", some (.other "T_LONG_FLD")⟩]⟩]⟩,
    ⟨"m", (), [⟨"ubf", .list [⟨some "field", some (.other "T_LONG_2_FLD")⟩, ⟨some "occ", some (.other "2")⟩]⟩]⟩]

/-- What `columns` declares. -/
def line : GroupDecl where
  name := "Line"
  members := [("note", .skip), ("n", .field ⟨33554433, .Long⟩ 0 (.scalar (.int Ubf.longMin Ubf.longMax)) false),
    ("m", .field ⟨33554434, .Long⟩ 2 (.scalar (.int Ubf.longMin Ubf.longMax)) false)]
  anchor := (⟨33554433, .Long⟩, 0)
  anchored := rfl

theorem columns_line : ∃ writer checks rows clears, expand .ok false true columns = .ok writer ∧
    writer.group = some (.write checks rows clears) ∧
      runClearFrom longs writer.name checks clears 3 = clearGroup line 3 := by
  have declared : longs.DeclaresGroup columns line :=
    ⟨_, rfl, rfl, .cons ⟨rfl, rfl⟩ (.cons ⟨rfl, rfl⟩ (.cons ⟨rfl, rfl⟩ .nil))⟩
  refine ⟨_, _, _, _, rfl, rfl, ?_⟩
  exact ((derived_rows_mean_declaration .ok longs columns line declared (by decide)).1 _ _ _ _ rfl rfl).2.2 3

end Group

end Endurox.Derive
