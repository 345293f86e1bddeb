/-
# Derive.Views -- what the emitted code of a VIEW does

The other two derives map a struct to a compiled VIEW: its members by name, each a field of
the layout, under the member's own name unless another is given.  A VIEW's member is a plain
one (`viewMember_plain`): of the storage strategies and the default nothing is accepted there.
`derived_view_means_declaration` says that the emitted code is the mapping layer's, the check
of the VIEW's name before it.
-/
import Endurox.Derive.Meaning
import Endurox.View.RoundTrip

namespace Endurox.Derive

open Endurox.Theory
open Endurox.Typed (UbfError)
open Endurox.Ubf (StructId FieldTy Value about)
open Endurox.View (Viewing ViewMember ViewDecl ViewDecls TypedView checkView)

set_option autoImplicit false

/-- What the compiler knows of a program that maps VIEWs. -/
structure ViewRust (Ty : Type) where
  /-- A constant that is a name; a literal is its own. -/
  text : Expr → String
  text_literal : ∀ name, text (.text name) = name
  /-- A constant that is a number. -/
  int : Expr → Int
  /-- `impl ViewFieldSerialize`. -/
  fieldTy : Ty → Option FieldTy
  /-- `impl ViewSerialize`. -/
  structTy : Ty → Option StructId

section Meaning

variable {Ty : Type} (R : ViewRust Ty)

def ViewRust.occ (occ : Option Expr) : Int := (occ.map R.int).getD 0

/-! ## What is declared -/

/-- A member of a VIEW, as the mapping layer has it. -/
def ViewRust.member (ident : String) (type : Ty) : Placement → Option ViewMember
  | .skip => some .skip
  | .flatten => (R.structTy type).map .flatten
  | .field id occ false => (R.fieldTy type).map fun t => .field ((id.map R.text).getD ident) (R.occ occ) t
  | _ => none

def ViewRust.Members (mapped : List (Field Ty)) (members : List (String × ViewMember)) : Prop :=
  List.Forall₂
    (fun field member => member.1 = field.ident ∧ R.member field.ident field.type field.place = some member.2)
    mapped members

/-- The mapping that an input declares, with the name of its VIEW. -/
def ViewRust.Declares (pathOf : PathParser) (input : DeriveInput Ty) (decl : ViewDecl) : Prop :=
  ∃ container mapped, containerAttr pathOf true input.attrs = .ok container ∧ container.viewName = some decl.viewName ∧
    fields true input.data = .ok mapped ∧ decl.name = input.name ∧ R.Members mapped decl.members

/-! ## Emitted code -/

section Writes

variable (N : View.Native) (child : StructId → Value → Viewing PUnit)

def runViewCall (value : Value) (type : Ty) : Call → Viewing PUnit
  | .field id occ =>
      (R.fieldTy type).elim (throw View.illTyped) fun t => View.writeField N (R.text id) t value (R.occ occ)
  | .flatten => (R.structTy type).elim (throw View.illTyped) fun id => child id value
  | _ => throw View.illTyped

def runViewWrites (name : String) (self : List (String × Value)) : List (Statement Ty) → Viewing PUnit
  | [] => pure ⟨⟩
  | .write ident type call :: rest => do
      View.labelled name ident (runViewCall R N child (memberNamed self ident) type call)
      runViewWrites name self rest
  | _ :: _ => throw View.illTyped

/-- The emitted `view_serialize`. -/
def runViewSerialize (writer : Impl Ty) (self : List (String × Value)) : Viewing PUnit := do
  let t ← get
  View.check (checkView t.view.view (writer.viewName.getD ""))
  runViewWrites R N child writer.name self writer.body

end Writes

section Reads

variable (N : View.Native) (v : TypedView) (child : StructId → Except UbfError Value)

def runViewRead (name : String) : Statement Ty → Except UbfError Value
  | .read ident type (.field id occ) =>
      ((R.fieldTy type).elim (.error View.illTyped) fun t =>
        View.readField N v (R.text id) t (R.occ occ)).mapError (about name ident)
  | .read ident type .flatten =>
      ((R.structTy type).elim (.error View.illTyped) child).mapError (about name ident)
  | .default _ _ => .ok (.skipped none)
  | _ => .error View.illTyped

def runViewReads (name : String) : List (Statement Ty) → Except UbfError (List Value)
  | [] => .ok []
  | statement :: rest => do
      let value ← runViewRead R N v child name statement
      let values ← runViewReads name rest
      .ok (value :: values)

/-- The emitted `view_deserialize`. -/
def runViewDeserialize (reader : Impl Ty) : Except UbfError Value := do
  checkView v.view (reader.viewName.getD "")
  .struct <$> runViewReads R N v child reader.name reader.body

end Reads

end Meaning

/-! ## What a VIEW accepts -/

/-- Only what every mapping has: a field, an occurrence, `skip` and `flatten`. -/
def FieldAttr.Plain (attr : FieldAttr) : Prop :=
  attr.size = none ∧ attr.nested = false ∧ attr.ptr = false ∧ attr.view = false ∧ attr.group = false ∧
    attr.default = false

/-- The keys a VIEW has. -/
theorem viewKey_cases {ident : String} {key : Key} (known : Key.ofIdent true ident = some key) :
    key = .slot .field ∨ key = .slot .occ ∨ key = .flag .skip ∨ key = .flag .flatten := by
  unfold Key.ofIdent at known
  split at known <;> cases known <;> simp

theorem plain_assign {ident : String} {key : Key} {argument : Option Expr} {change : FieldAttr → FieldAttr}
    {attr : FieldAttr} (known : Key.ofIdent true ident = some key) (assigned : assign argument key = .ok change)
    (plain : attr.Plain) : (change attr).Plain := by
  rcases assign_cases assigned with ⟨slot, e, rfl, rfl⟩ | ⟨flag, value, rfl, rfl⟩
  · rcases viewKey_cases known with same | same | same | same <;> cases same <;> exact plain
  · rcases viewKey_cases known with same | same | same | same <;> cases same <;> exact plain

theorem plain_changed {items : List Meta} {changes : List Change}
    (each : List.Forall₂ (Means keyOf changeOf) (items.map (named true)) changes) : ∀ {attr : FieldAttr},
      attr.Plain → (changed changes attr).Plain := by
  induction items generalizing changes with
  | nil =>
      intro attr plain
      cases each
      exact plain
  | cons item items ih =>
      intro attr plain
      cases each with
      | cons meant rest =>
          rename_i change changes
          refine ih rest ?_
          unfold named at meant
          obtain ⟨key, change⟩ := change
          cases path : item.path with
          | none =>
              rw [path] at meant
              cases meant.1
          | some ident =>
              rw [path] at meant
              cases known : Key.ofIdent true ident with
              | none =>
                  simp only [known] at meant
                  cases meant.1
              | some key' =>
                  simp only [known] at meant
                  obtain ⟨keyed, assigned⟩ := meant
                  cases keyed
                  exact plain_assign known assigned plain

/-- **A member of a VIEW is plain.** -/
theorem viewMember_plain {attrs : List Attribute} {attr : FieldAttr} (ok : fieldAttr true attrs = .ok attr) :
    attr.placement = .skip ∨ attr.placement = .flatten ∨ ∃ id occ, attr.placement = .field id occ false := by
  obtain ⟨changes, ⟨items, -, each⟩, -, rfl, -, -⟩ := fieldAttr_eq_ok.1 ok
  obtain ⟨-, nested, ptr, view, group, default⟩ :=
    plain_changed each (show ({} : FieldAttr).Plain from ⟨rfl, rfl, rfl, rfl, rfl, rfl⟩)
  unfold FieldAttr.placement
  rw [nested, ptr, view, group, default]
  cases (changed changes {}).skip <;> cases (changed changes {}).flatten <;> simp

/-! ## A struct -/

section Struct

variable {Ty : Type} {R : ViewRust Ty} {mapped : List (Field Ty)} {members : List (String × ViewMember)}

/-- The call of a member, and what the mapping layer does for it. -/
theorem viewCarries {ident : String} {type : Ty} {place : Placement} {member : ViewMember}
    (declared : R.member ident type place = some member) :
    (place = .skip ∧ member = .skip) ∨
      ∃ call, place.call true ident = some call ∧ place.default = false ∧
        (∀ N child value, runViewCall R N child value type call = View.writeMember N child value member) ∧
        ∀ N v child name, runViewRead R N v child name (.read ident type call) =
          (View.readMember N v child member).mapError (about name ident) := by
  cases place with
  | skip =>
      cases declared
      exact .inl ⟨rfl, rfl⟩
  | flatten =>
      obtain ⟨id, typed, rfl⟩ := Option.map_eq_some_iff.1 declared
      refine .inr ⟨_, rfl, rfl, fun N child value => ?_, fun N v child name => ?_⟩
      · simp only [runViewCall, typed]
        rfl
      · simp only [runViewRead, typed]
        rfl
  | field id occ default =>
      cases default with
      | true => cases declared
      | false =>
          obtain ⟨t, typed, rfl⟩ := Option.map_eq_some_iff.1 declared
          -- a member that names no field has its own name for one
          cases id with
          | none =>
              refine .inr ⟨_, rfl, rfl, fun N child value => ?_, fun N v child name => ?_⟩
              · simp only [runViewCall, typed, R.text_literal]
                rfl
              · simp only [runViewRead, typed, R.text_literal]
                rfl
          | some id =>
              refine .inr ⟨_, rfl, rfl, fun N child value => ?_, fun N v child name => ?_⟩
              · simp only [runViewCall, typed]
                rfl
              · simp only [runViewRead, typed]
                rfl
  | group occ => cases declared
  | ubf pointer id occ size default => cases declared
  | view pointer id occ default => cases declared

theorem runViewWrites_members (declared : R.Members mapped members) (N : View.Native)
    (child : StructId → Value → Viewing PUnit) (name : String) (self : List (String × Value)) :
    ∀ {values : List Value}, List.Forall₂ (fun member value => memberNamed self member.1 = value) members values →
      runViewWrites R N child name self (mapped.flatMap (statementsOf true true)) =
        View.writeMembers N child name members values := by
  induction declared with
  | nil =>
      intro values each
      cases each
      rfl
  | cons first _ ih =>
      rename_i field member mapped members _
      intro values each
      obtain ⟨label, member⟩ := member
      obtain ⟨rfl, meant⟩ := first
      cases each with
      | cons here rest =>
          rename_i value values
          unfold View.writeMembers
          rw [← ih rest, List.flatMap_cons]
          rcases viewCarries meant with ⟨skipped, rfl⟩ | ⟨call, called, -, writes, -⟩
          · simp only [statementsOf, skipped, Placement.call, if_true, List.nil_append, View.writeMember]
            rfl
          · simp only [statementsOf, called, if_true, List.cons_append, List.nil_append, runViewWrites]
            rw [writes, here]

theorem runViewReads_members (declared : R.Members mapped members) (N : View.Native) (v : TypedView)
    (child : StructId → Except UbfError Value) (name : String) :
    runViewReads R N v child name (mapped.flatMap (statementsOf true false)) =
      View.readMembers N v child name members := by
  induction declared with
  | nil => rfl
  | cons first _ ih =>
      rename_i field member mapped members _
      obtain ⟨label, member⟩ := member
      obtain ⟨rfl, meant⟩ := first
      unfold View.readMembers
      rw [← ih, List.flatMap_cons]
      rcases viewCarries meant with ⟨skipped, rfl⟩ | ⟨call, called, plain, -, reads⟩
      · simp only [statementsOf, skipped, Placement.call, Bool.false_eq_true, if_false, List.cons_append,
          List.nil_append, runViewReads]
        rfl
      · simp only [statementsOf, called, plain, Bool.false_eq_true, if_false, List.cons_append, List.nil_append,
          runViewReads]
        rw [reads]

/-- **The derived code of a VIEW means what is declared.**  Where the attributes of an accepted input declare a
mapping of a program, the emitted `view_serialize` and `view_deserialize` are the mapping layer's for it, flattened
structs and the check of the VIEW's name included. -/
theorem derived_view_means_declaration (pathOf : PathParser) (R : ViewRust Ty) (input : DeriveInput Ty) (decl : ViewDecl)
    (declared : R.Declares pathOf input decl) (distinct : (decl.members.map Prod.fst).Nodup) (D : ViewDecls) (id : StructId)
    (found : D[id]? = some decl) (N : View.Native) (fuel : Nat) :
    (∀ writer, expand pathOf true true input = .ok writer → ∀ values, values.length = decl.members.length →
      runViewSerialize R N (View.serialize N D fuel) writer (selfOf decl.members values) =
        View.serialize N D (fuel + 1) id (.struct values)) ∧
    (∀ reader, expand pathOf true false input = .ok reader → ∀ v,
      runViewDeserialize R N v (View.deserialize N D v fuel) reader = View.deserialize N D v (fuel + 1) id) := by
  obtain ⟨container, mapped, contained, viewed, read, named, members⟩ := declared
  constructor
  · intro writer ok values whole
    obtain ⟨container', mapped', contained', read', -, -, rfl⟩ := expand_eq_ok.1 ok
    cases contained.symm.trans contained'
    cases read.symm.trans read'
    have each := named_after [] (fun _ _ => List.not_mem_nil) distinct whole
    have written := runViewWrites_members members N (View.serialize N D fuel) input.name _ each
    rw [List.nil_append] at written
    unfold runViewSerialize View.serialize implOf
    simp only [found, viewed, Option.getD_some, named, written]
  · intro reader ok v
    obtain ⟨container', mapped', contained', read', -, -, rfl⟩ := expand_eq_ok.1 ok
    cases contained.symm.trans contained'
    cases read.symm.trans read'
    have reads := runViewReads_members members N v (View.deserialize N D v fuel) input.name
    unfold runViewDeserialize View.deserialize implOf
    simp only [found, viewed, Option.getD_some, named, reads]

/-- A struct of the VIEW `POSITION`, whose members go by their own names. -/
def tracked : DeriveInput String where
  name := "Position"
  attrs := [⟨"view", .list [⟨some "name", some (.text "POSITION")⟩]⟩]
  data := .named [⟨"id", "i64", []⟩, ⟨"samples", "Vec<i64>", [⟨"view", .list [⟨some "occ", some (.other "1")⟩]⟩]⟩,
    ⟨"note", "Option<String>", []⟩, ⟨"cached", "i64", [⟨"view", .list [⟨some "skip", none⟩]⟩]⟩]

def library : ViewRust String where
  text := fun
    | .text name => name
    | _ => ""
  text_literal _ := rfl
  int value := if value = .other "1" then 1 else 0
  fieldTy
    | "i64" => some (.scalar View.i64)
    | "Vec<i64>" => some (.vec (.scalar View.i64))
    | "Option<String>" => some (.option (.scalar .string))
    | _ => none
  structTy _ := none

theorem tracked_position : ∃ reader, expand .ok true false tracked = .ok reader ∧
    runViewDeserialize library View.positionView View.stale
        (View.deserialize View.positionView View.position View.stale 0) reader =
      View.deserialize View.positionView View.position View.stale 1 0 := by
  have declared : library.Declares .ok tracked (View.position.get ⟨0, by decide⟩) :=
    ⟨_, _, rfl, rfl, rfl, rfl, .cons ⟨rfl, rfl⟩ (.cons ⟨rfl, rfl⟩ (.cons ⟨rfl, rfl⟩ (.cons ⟨rfl, rfl⟩ .nil)))⟩
  exact ⟨_, rfl, (derived_view_means_declaration .ok library tracked _ declared (by decide) View.position 0 rfl
    View.positionView 0).2 _ rfl View.stale⟩

end Struct

end Endurox.Derive
