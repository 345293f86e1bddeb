/-
# Derive.Expand -- the code the derives emit

`expand`, from a struct and its attributes to the bodies of the impls: one loop over the
members, the same for all four derives, which collects statements, and for a
`#[ubf(group)]` struct beside them the checks, the statements at an occurrence of the
parent, what clears the tail, and the anchor.

The emitted code is data here: which function of the mapping layer a statement calls, of
which member, with which field, occurrence and size.  Bounds on type parameters are left to
the compiler.  What `syn` takes for a path in a `crate = ".."` is a parameter, `pathOf`.
-/
import Endurox.Derive.Attributes

namespace Endurox.Derive

open Endurox.Ubf (Mapping)

set_option autoImplicit false

/-! ## Emitted code -/

/-- The function a statement calls.  An occurrence or a size that is not given is a literal. -/
inductive Call
  /-- `ubf_write_field`, `view_write_field` and their readers. -/
  | field (id : Expr) (occ : Option Expr)
  /-- `ubf_write_mapped` and its reader. -/
  | mapped (m : Mapping) (id : Expr) (occ size : Option Expr)
  | flatten
  | group (occ : Option Expr)
  deriving DecidableEq, Repr

section Code

variable (Ty : Type)

/-- One statement of a body, about the member `ident` of type `type`. -/
inductive Statement
  /-- `call.map_err(error)?;` -/
  | write (ident : String) (type : Ty) (call : Call)
  /-- `ident: call.map_err(error)?,` -/
  | read (ident : String) (type : Ty) (call : Call)
  /-- `ident: { if present { call } else { default } },` -/
  | readOrDefault (ident : String) (type : Ty) (call : Call)
  /-- `ident: Default::default(),` -/
  | default (ident : String) (type : Ty)
  deriving DecidableEq, Repr

/-- `ubf_group_field_check(<type as bound>::SINGLE, base, occ)`, for the bound of `call`. -/
structure Check where
  ident : String
  type : Ty
  call : Call
  occ : Option Expr
  deriving DecidableEq, Repr

/-- `ubf_group_clear` of a field from an occurrence on. -/
structure Clear where
  ident : String
  id : Expr
  occ : Option Expr
  deriving DecidableEq, Repr

/-- The body of `UbfGroupSerialize` or of `UbfGroupDeserialize`. -/
inductive GroupImpl
  | write (checks : List (Check Ty)) (rows : List (Statement Ty)) (clears : List Clear)
  | read (checks : List (Check Ty)) (rows : List (Statement Ty)) (anchor : Expr × Option Expr)
  deriving DecidableEq, Repr

structure Impl where
  krate : String
  name : String
  viewName : Option String
  body : List (Statement Ty)
  group : Option (GroupImpl Ty)
  deriving DecidableEq, Repr

end Code

/-! ## The input -/

structure FieldDef (Ty : Type) where
  ident : String
  type : Ty
  attrs : List Attribute

/-- What the item is: a struct with named fields, one without, or no struct. -/
inductive Shape (Ty : Type)
  | named (fields : List (FieldDef Ty))
  | unnamed
  | other

structure DeriveInput (Ty : Type) where
  name : String
  attrs : List Attribute
  data : Shape Ty

/-- A member with its attributes read. -/
structure Field (Ty : Type) where
  ident : String
  type : Ty
  attr : FieldAttr

/-! ## The container's attributes -/

structure Container where
  krate : String := "::endurox_rs"
  viewName : Option String := none
  group : Bool := false
  deriving DecidableEq, Repr

inductive ContainerKey
  | krate | name | group
  deriving DecidableEq, Repr

def ContainerKey.ofIdent (isView : Bool) : String → Option ContainerKey
  | "crate" => some .krate
  | "name" => if isView then some .name else none
  | "group" => if isView then none else some .group
  | _ => none

def containerNamed (isView : Bool) (item : Meta) : Except Message (ContainerKey × Option Expr) :=
  match item.path with
  | none => .error "expected a container attribute"
  | some ident =>
      match ContainerKey.ofIdent isView ident with
      | some key => .ok (key, item.argument)
      | none => .error "unsupported container attribute"

/-- The name of a VIEW. -/
def viewLiteral (argument : Option Expr) : Except Message String := do
  let name ← literal argument
  if name = "" ∨ '\x00' ∈ name.toList then .error "VIEW name must be nonempty and contain no NUL"
  else .ok name

/-- What `syn` makes of a text as a `Path`: the path by its text, or an error. -/
abbrev PathParser := String → Except Message String

section Container

variable (pathOf : PathParser)

/-- `parse::<LitStr>()?.parse::<Path>()`. -/
def crateLiteral (argument : Option Expr) : Except Message String := do
  let text ← literal argument
  pathOf text

def containerAssign (argument : Option Expr) : ContainerKey → Except Message (Container → Container)
  | .krate => (crateLiteral pathOf argument).map fun krate container => { container with krate }
  | .name => (viewLiteral argument).map fun name container => { container with viewName := some name }
  | .group => (boolean argument).map fun flag container => { container with group := flag }

def containerKeyOf (item : Except Message (ContainerKey × Option Expr)) : Except Message ContainerKey :=
  item.map Prod.fst

def containerChangeOf (item : Except Message (ContainerKey × Option Expr)) :
    Except Message (Container → Container) := do
  let (key, argument) ← item
  containerAssign pathOf argument key

def containerMeta (isView : Bool) (state : Container × List ContainerKey) (item : Meta) :
    Except Message (Container × List ContainerKey) :=
  Theory.readOption containerKeyOf (containerChangeOf pathOf) "duplicate container attribute" state
    (containerNamed isView item)

/-- The container's attributes; a VIEW has a name. -/
def containerAttr (isView : Bool) (attrs : List Attribute) : Except Message Container := do
  let (container, _) ← parseAttrs isView (containerMeta pathOf isView) attrs ({}, [])
  if isView ∧ container.viewName = none then .error "missing #[view(name = \"COMPILED_VIEW\")]"
  else .ok container

end Container

/-! ## `expand` -/

section Expand

variable {Ty : Type}

/-- `fields`. -/
def fields (isView : Bool) : Shape Ty → Except Message (List (Field Ty))
  | .named defs => defs.mapM fun field => do
      let attr ← fieldAttr isView field.attrs
      .ok { ident := field.ident, type := field.type, attr }
  | .unnamed => .error "buffer mappings require named fields"
  | .other => .error "buffer mappings require a struct"

/-- What the loop over the members has collected. -/
structure Code (Ty : Type) where
  statements : List (Statement Ty) := []
  groupStatements : List (Statement Ty) := []
  groupChecks : List (Check Ty) := []
  clearStatements : List Clear := []
  anchor : Option (Expr × Option Expr) := none

/-- The storage strategy the flags select. -/
def marker (attr : FieldAttr) : Option Mapping :=
  if attr.view then some (if attr.ptr then .PointerView else .EmbeddedView)
  else if attr.ptr then some .PointerUbf
  else if attr.nested then some .EmbeddedUbf
  else none

/-- The field of a member; a VIEW's is the member's name unless it is given. -/
def fieldId (isView : Bool) (field : Field Ty) : Except Message Expr :=
  match field.attr.field with
  | some id => .ok id
  | none => if isView then .ok (.text field.ident) else .error "missing #[ubf(field = ...)]"

def secondAxis : Message :=
  "a #[ubf(group)] struct cannot contain a flatten or a group field: that would need a second occurrence " ++
    "axis the flat buffer has not"

/-- A statement that reads, by `#[ubf(default)]`. -/
def reading (field : Field Ty) (call : Call) : Statement Ty :=
  if field.attr.default then .readOrDefault field.ident field.type call else .read field.ident field.type call

def statement (serialize : Bool) (field : Field Ty) (call : Call) : Statement Ty :=
  if serialize then .write field.ident field.type call else reading field call

/-- The call for a member with a field. -/
def storageCall (attr : FieldAttr) (id : Expr) : Call :=
  match marker attr with
  | some m => .mapped m id attr.occ attr.size
  | none => .field id attr.occ

/-- A member with a field of its own, beside its group's code. -/
def placed (serialize group : Bool) (field : Field Ty) (id : Expr) (code : Code Ty) : Code Ty :=
  let attr := field.attr
  let call := storageCall attr id
  let code := { code with statements := code.statements ++ [statement serialize field call] }
  if group then
    { code with
      groupStatements := code.groupStatements ++ [statement serialize field call]
      groupChecks := code.groupChecks ++ [{ ident := field.ident, type := field.type, call, occ := attr.occ }]
      clearStatements :=
        if serialize then code.clearStatements ++ [{ ident := field.ident, id, occ := attr.occ }]
        else code.clearStatements
      anchor := code.anchor.or (some (id, attr.occ)) }
  else code

/-- The loop's body. -/
def member (isView serialize group : Bool) (code : Code Ty) (field : Field Ty) : Except Message (Code Ty) := do
  let attr := field.attr
  if group ∧ (attr.flatten ∨ attr.group) then .error secondAxis
  else if attr.skip then
    if serialize then .ok code
    else
      let default : Statement Ty := .default field.ident field.type
      .ok { code with
        statements := code.statements ++ [default]
        groupStatements := if group then code.groupStatements ++ [default] else code.groupStatements }
  else if attr.group then
    .ok { code with statements := code.statements ++ [statement serialize field (.group attr.occ)] }
  else if attr.flatten then
    .ok { code with statements := code.statements ++ [statement serialize field .flatten] }
  else do
    let id ← fieldId isView field
    .ok (placed serialize group field id code)

/-- The impls of a group beside the plain one. -/
def groupImpl (isView serialize group : Bool) (code : Code Ty) : Except Message (Option (GroupImpl Ty)) :=
  if ¬ group ∨ isView then .ok none
  else if serialize then .ok (some (.write code.groupChecks code.groupStatements code.clearStatements))
  else
    match code.anchor with
    | some anchor => .ok (some (.read code.groupChecks code.groupStatements anchor))
    | none => .error
        "a #[ubf(group)] struct needs at least one field with an explicit field id to anchor its occurrence count"

/-- `expand`. -/
def expand (pathOf : PathParser) (isView serialize : Bool) (input : DeriveInput Ty) : Except Message (Impl Ty) := do
  let container ← containerAttr pathOf isView input.attrs
  let mapped ← fields isView input.data
  let code ← mapped.foldlM (member isView serialize container.group) {}
  let group ← groupImpl isView serialize container.group code
  .ok { krate := container.krate, name := input.name, viewName := container.viewName, body := code.statements, group }

end Expand

end Endurox.Derive
