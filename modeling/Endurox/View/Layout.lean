/-
# View.Layout -- compiled layouts, and the accessors of a VIEW

A VIEW buffer is a C struct: every member is an array of elements, one at least, and may
have a count of its own, the `C` indicator.  What Rust does with it goes through native
calls by C name and element; conversions to and from an element's own type, the
elements a fresh VIEW has and the NULL sentinel come with the compiled layout, which is
`Native`.  An element's bytes go as far as its length indicator says.

`bvoccur`, `bvsetoccur`, `bvchg` and the getters are those of `typed_view.rs`; `bvnull`,
`bvsetnull` and `reset_occurrence` those of `view_serde.rs`.  Any native call may fail while
a VIEW is written; the faults to come are part of the state.
-/
import Endurox.Theory.Success
import Endurox.Ubf.Shapes

namespace Endurox.View

open Endurox.Theory
open Endurox.Typed (UbfError UbfCode)

set_option autoImplicit false

/-! ## Layouts -/

/-- The `BFLD_*` types of VIEW members. -/
inductive ViewFieldType
  | Short | Long | Int | Char | Float | Double | String | Carray
  deriving DecidableEq, Repr

/-- A value handed to `CBvchg`. -/
inductive ViewValue
  | Long (value : Int)
  | Float (bits : UInt32)
  | Double (bits : UInt64)
  | String (text : String)
  | Carray (bytes : List UInt8)
  deriving DecidableEq, Repr

/-- A member of a compiled layout. -/
structure LayoutField where
  type : ViewFieldType
  /-- The declared array size. -/
  max : Nat
  /-- The bytes of an element. -/
  dim : Nat
  /-- It has a `C` count indicator. -/
  counted : Bool
  /-- What the elements of a fresh VIEW hold. -/
  fresh : Nat → List UInt8
  /-- The compiled NULL sentinel. -/
  isNull : List UInt8 → Bool

/-- The layouts found through `VIEWDIR` and `VIEWFILES`, and what native code makes of an element:
`CBvchg` of a value, `CBvget` as a type, and both at the member's own type. -/
structure Native where
  layout : String → Option (String → Option LayoutField)
  convert : LayoutField → ViewValue → Except UbfError (List UInt8)
  toLong : LayoutField → List UInt8 → Except UbfError Int
  toFloat : LayoutField → List UInt8 → Except UbfError UInt32
  toDouble : LayoutField → List UInt8 → Except UbfError UInt64
  toText : LayoutField → List UInt8 → Except UbfError String
  toBytes : LayoutField → List UInt8 → Except UbfError (List UInt8)
  toOwn : LayoutField → List UInt8 → Except UbfError (List UInt8)
  ofOwn : LayoutField → List UInt8 → Except UbfError (List UInt8)

def BNOCNAME : UbfCode := .other 23

def Native.field (N : Native) (view cname : String) : Except UbfError LayoutField :=
  match N.layout view with
  | none => .error ⟨.BBADVIEW, ""⟩
  | some fields =>
      match fields cname with
      | none => .error ⟨BNOCNAME, ""⟩
      | some field => .ok field

/-! ## Buffers -/

/-- A VIEW buffer: its layout's name, its elements, and its count indicators. -/
@[ext] structure TypedView where
  view : String
  cells : String → Nat → List UInt8
  counts : String → Nat

/-- The active elements of a member: its count indicator, or all of them. -/
def TypedView.active (v : TypedView) (cname : String) (field : LayoutField) : Nat :=
  if field.counted then v.counts cname else field.max

/-- `CBvchg` stores an element, and moves the count indicator up to it. -/
def TypedView.store (v : TypedView) (cname : String) (field : LayoutField) (occ : Nat) (cell : List UInt8) :
    TypedView where
  view := v.view
  cells := fun c i => if c = cname ∧ i = occ then cell else v.cells c i
  counts := fun c => if c = cname ∧ field.counted = true then Nat.max (v.counts c) (occ + 1) else v.counts c

/-- `Bvsetoccur` sets the count indicator, if there is one. -/
def TypedView.setCount (v : TypedView) (cname : String) (field : LayoutField) (count : Nat) : TypedView :=
  { v with counts := fun c => if c = cname ∧ field.counted = true then count else v.counts c }

/-- The VIEW being written, and how the native calls to come fail. -/
structure Target where
  view : TypedView
  faults : List (Option UbfError) := []

abbrev Viewing := Fallible UbfError Target

def check {α : Type} (result : Except UbfError α) : Viewing α := MonadExcept.ofExcept result

/-- A native call, before what it does. -/
def native : Viewing PUnit := do
  let t ← get
  match t.faults with
  | [] => pure ⟨⟩
  | fault :: faults => do
      set { t with faults }
      match fault with
      | none => pure ⟨⟩
      | some error => throw error

/-! ## Names -/

def hasNul (text : String) : Bool := text.toUTF8.toList.any (· = 0)

/-- `CString::new`, with its own error. -/
def nulAt (text : String) : UbfError :=
  ⟨.BEINVAL, s!"nul byte found in provided data at position: {text.toUTF8.toList.findIdx (· = 0)}"⟩

/-- `cstring`. -/
def nulInName : UbfError := ⟨.BEINVAL, "VIEW name/field contains NUL"⟩

/-- A string is a C string. -/
def ViewValue.cString : ViewValue → Except UbfError Unit
  | .String text => if hasNul text then .error (nulAt text) else .ok ()
  | _ => .ok ()

/-- The names of a native call, with what is thrown for one that contains NUL. -/
def cNames (nul : String → UbfError) (view cname : String) : Except UbfError Unit :=
  if hasNul view then .error (nul view) else if hasNul cname then .error (nul cname) else .ok ()

/-- An element of the member. -/
def LayoutField.element (field : LayoutField) (occ : Int) : Except UbfError Nat :=
  if occ < 0 ∨ field.max ≤ occ then .error ⟨.BEINVAL, ""⟩ else .ok occ.toNat

/-! ## `typed_view.rs` -/

section Accessors

variable (N : Native) (cname : String)

/-- The native call of an accessor finds its member. -/
def memberOf (nul : String → UbfError) : Viewing LayoutField := do
  let t ← get
  check (cNames nul t.view.view cname)
  native
  check (N.field t.view.view cname)

/-- Of what it returns, the mapping uses the count and what the layout says. -/
def bvoccur : Viewing (Nat × LayoutField) := do
  let field ← memberOf N cname nulAt
  let t ← get
  pure (t.view.active cname field, field)

def bvsetoccur (occ : Int) : Viewing PUnit := do
  let field ← memberOf N cname nulAt
  throwIf (occ < 0 ∨ field.max < occ) ⟨.BEINVAL, ""⟩
  modify fun t => { t with view := t.view.setCount cname field occ.toNat }

def bvchg (occ : Int) (value : ViewValue) : Viewing PUnit := do
  let t ← get
  check (cNames nulAt t.view.view cname)
  check value.cString
  native
  let field ← check (N.field t.view.view cname)
  let i ← check (field.element occ)
  let cell ← check (N.convert field value)
  modify fun t => { t with view := t.view.store cname field i cell }

/-- `cbvget`: the member, and the element's bytes. -/
def cbvget (v : TypedView) (occ : Int) : Except UbfError (LayoutField × List UInt8) := do
  cNames nulAt v.view cname
  let field ← N.field v.view cname
  let i ← field.element occ
  .ok (field, v.cells cname i)

/-! ## `view_serde.rs` -/

def bvnull (occ : Int) : Viewing Bool := do
  let field ← memberOf N cname fun _ => nulInName
  let i ← check (field.element occ)
  let t ← get
  pure (field.isNull (t.view.cells cname i))

/-- `tpalloc_view(self.bvname(), self.bvsizeof()?)`, a fresh VIEW of the same layout. -/
def template : Viewing PUnit := do
  let t ← get
  throwIf (hasNul t.view.view) (nulAt t.view.view)
  native
  match ← outcomeOf native with
  | .ok _ => pure ⟨⟩
  | .error error => throw ⟨.BMALLOC, error.message⟩

/-- The largest `BFLDLEN`. -/
def bfldlenMax : Nat := 2147483647

/-- `reset_occurrence`: the element is read from a fresh VIEW, as its own type, and written back. -/
def resetOccurrence (occ : Int) : Viewing PUnit := do
  let (_, field) ← bvoccur N cname
  throwIf (occ < 0 ∨ field.max ≤ occ) ⟨.BEINVAL, "VIEW occurrence is outside its declared array"⟩
  throwIf (bfldlenMax < Nat.max field.dim 32) ⟨.BEINVAL, "VIEW dimension exceeds BFLDLEN"⟩
  native
  let data ← check (N.toOwn field (field.fresh occ.toNat))
  native
  let cell ← check (N.ofOwn field data)
  modify fun t => { t with view := t.view.store cname field occ.toNat cell }

def bvsetnull (occ : Int) : Viewing PUnit := do
  template
  let field ← memberOf N cname fun _ => nulInName
  let i ← check (field.element occ)
  throwIf (field.isNull (field.fresh i) = false) ⟨.BEINVAL, "VIEW field has no NULL sentinel"⟩
  resetOccurrence N cname occ

end Accessors

end Endurox.View
