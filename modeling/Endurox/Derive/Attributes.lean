/-
# Derive.Attributes -- the attributes of a mapped member

`field_attr` of the derives: the `#[ubf(..)]` or `#[view(..)]` attributes of a member, taken
together, into the flags of a `FieldAttr`, and the combinations of flags that are refused.

Of an expression the derives look at literals only; every other one they copy, so it is here
by its text.  An attribute is what `syn` makes of its tokens: a list of paths, each with an
expression or without.
-/
import Endurox.Theory.Options
import Endurox.Ubf.Shapes

namespace Endurox.Derive

open Endurox.Theory
open Endurox.Ubf (Mapping)

set_option autoImplicit false

/-! ## Tokens -/

/-- An expression in an attribute: a boolean or a string literal, or another by its text. -/
inductive Expr
  | bool (value : Bool)
  | text (value : String)
  | other (source : String)
  deriving DecidableEq, Repr

/-- A nested meta item; its path is `none` when it is not a single identifier. -/
structure Meta where
  path : Option String
  argument : Option Expr := none
  deriving DecidableEq, Repr

/-- What follows the path of an attribute: nothing, `= ..`, or items in parentheses. -/
inductive Arguments
  | path
  | nameValue
  | list (items : List Meta)
  deriving DecidableEq, Repr

structure Attribute where
  path : String
  arguments : Arguments
  deriving DecidableEq, Repr

/-- The message of a `syn::Error`. -/
abbrev Message := String

/-- `meta.value()`, and the expression behind it. -/
def valueOf : Option Expr → Except Message Expr
  | some e => .ok e
  | none => .error "expected `=`"

/-- `boolean`. -/
def boolean : Option Expr → Except Message Bool
  | none => .ok true
  | some (.bool value) => .ok value
  | some _ => .error "expected boolean literal"

/-- `parse::<LitStr>`. -/
def literal (argument : Option Expr) : Except Message String := do
  match ← valueOf argument with
  | .text value => .ok value
  | _ => .error "expected string literal"

def namespaceOf (isView : Bool) : String := if isView then "view" else "ubf"

/-- The items in the parentheses of an attribute. -/
def itemsIn (attr : Attribute) : Except Message (List Meta) :=
  match attr.arguments with
  | .path => .error ("expected attribute arguments in parentheses: #[" ++ attr.path ++ "(...)]")
  | .nameValue => .error ("expected parentheses: #[" ++ attr.path ++ "(...)]")
  | .list items => .ok items

/-- `parse_nested_meta` of the attributes in the namespace, one after another. -/
def parseAttrs {σ : Type} (isView : Bool) (item : σ → Meta → Except Message σ) :
    List Attribute → σ → Except Message σ
  | [], state => .ok state
  | attr :: attrs, state =>
      if attr.path = namespaceOf isView then do
        let items ← itemsIn attr
        let state ← items.foldlM item state
        parseAttrs isView item attrs state
      else parseAttrs isView item attrs state

/-! ## `field_attr` -/

structure FieldAttr where
  field : Option Expr := none
  occ : Option Expr := none
  size : Option Expr := none
  nested : Bool := false
  ptr : Bool := false
  view : Bool := false
  flatten : Bool := false
  group : Bool := false
  default : Bool := false
  skip : Bool := false
  deriving DecidableEq, Repr

/-- The attributes that take an expression. -/
inductive Slot
  | field | occ | size
  deriving DecidableEq, Repr

/-- The attributes that are on or off. -/
inductive Flag
  | nested | ptr | view | flatten | group | default | skip
  deriving DecidableEq, Repr

/-- What a member's attributes may name. -/
inductive Key
  | slot (slot : Slot)
  | flag (flag : Flag)
  deriving DecidableEq, Repr

/-- The key an identifier stands for; `occurrence` is `occ`, and a VIEW has but four of them. -/
def Key.ofIdent (isView : Bool) : String → Option Key
  | "field" => some (.slot .field)
  | "occ" => some (.slot .occ)
  | "occurrence" => some (.slot .occ)
  | "skip" => some (.flag .skip)
  | "flatten" => some (.flag .flatten)
  | "nested" => if isView then none else some (.flag .nested)
  | "ptr" => if isView then none else some (.flag .ptr)
  | "view" => if isView then none else some (.flag .view)
  | "group" => if isView then none else some (.flag .group)
  | "default" => if isView then none else some (.flag .default)
  | "size" => if isView then none else some (.slot .size)
  | _ => none

/-- The key of an item and its argument.  An unsupported key is refused where it first comes, so that none
is ever a duplicate. -/
def named (isView : Bool) (item : Meta) : Except Message (Key × Option Expr) :=
  match item.path with
  | none => .error "expected a mapping attribute"
  | some ident =>
      match Key.ofIdent isView ident with
      | some key => .ok (key, item.argument)
      | none => .error "unsupported mapping attribute"

def FieldAttr.setSlot (e : Expr) (attr : FieldAttr) : Slot → FieldAttr
  | .field => { attr with field := some e }
  | .occ => { attr with occ := some e }
  | .size => { attr with size := some e }

def FieldAttr.setFlag (value : Bool) (attr : FieldAttr) : Flag → FieldAttr
  | .nested => { attr with nested := value }
  | .ptr => { attr with ptr := value }
  | .view => { attr with view := value }
  | .flatten => { attr with flatten := value }
  | .group => { attr with group := value }
  | .default => { attr with default := value }
  | .skip => { attr with skip := value }

/-- What a key says of the member. -/
def assign (argument : Option Expr) : Key → Except Message (FieldAttr → FieldAttr)
  | .slot slot => (valueOf argument).map fun e attr => attr.setSlot e slot
  | .flag flag => (boolean argument).map fun value attr => attr.setFlag value flag

/-- The key of an item, once it has been read. -/
def keyOf (item : Except Message (Key × Option Expr)) : Except Message Key := item.map Prod.fst

def changeOf (item : Except Message (Key × Option Expr)) : Except Message (FieldAttr → FieldAttr) := do
  let (key, argument) ← item
  assign argument key

/-- One item, over what has been read and seen. -/
def fieldMeta (isView : Bool) (state : FieldAttr × List Key) (item : Meta) : Except Message (FieldAttr × List Key) :=
  readOption keyOf changeOf "duplicate mapping attribute" state (named isView item)

/-- The combinations of `seen` attributes that `field_attr` refuses. -/
def checkAttr (attr : FieldAttr) (seen : Nat) : Except Message FieldAttr :=
  if attr.nested ∧ (attr.ptr ∨ attr.view) then
    .error "nested selects BFLD_UBF and cannot be combined with ptr or view"
  else if attr.group ∧ (attr.nested ∨ attr.ptr ∨ attr.view ∨ attr.flatten ∨ attr.field.isSome ∨ attr.size.isSome ∨
      attr.default) then
    .error "group feeds from the parent buffer and takes only an optional occurrence"
  else if attr.size.isSome ∧ ((¬ attr.nested ∧ ¬ attr.ptr) ∨ attr.view) then
    .error "size is only valid for nested UBF or UBF pointer mappings"
  else if attr.skip ∧ 1 < seen then
    .error "skip cannot be combined with other field attributes"
  else if attr.flatten ∧ (attr.field.isSome ∨ attr.occ.isSome ∨ attr.size.isSome ∨ attr.nested ∨ attr.ptr ∨
      attr.view ∨ attr.default) then
    .error "flatten cannot have a field, occurrence, storage mode, size, or default"
  else .ok attr

/-- `field_attr`. -/
def fieldAttr (isView : Bool) (attrs : List Attribute) : Except Message FieldAttr := do
  let (attr, seen) ← parseAttrs isView (fieldMeta isView) attrs ({}, [])
  checkAttr attr seen.length

end Endurox.Derive
