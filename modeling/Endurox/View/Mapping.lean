/-
# View.Mapping -- `view_write` and `view_read`

`view_serde.rs` with the code the derives emit: scalars, options through the NULL sentinel,
vectors with their count indicator, arrays, and structs member by member; a flattened
struct is of the same VIEW.  Types and values are those of the UBF mapping; `Box` and
references map as what they hold and do not show.

A write that fails leaves what it had written.  `serialize` descends through flattened
structs with fuel.
-/
import Endurox.View.Layout

namespace Endurox.View

open Endurox.Theory
open Endurox.Typed (UbfError UbfCode)
open Endurox.Ubf (Scalar ScalarTy FieldTy Value StructId ubfOccurrence requireSingle about longMin longMax)

set_option autoImplicit false

/-! ## Mapped types -/

/-- `ViewFieldSerialize::SINGLE`: a NULL element holds the place of a `None`. -/
def single : FieldTy → Bool
  | .scalar _ => true
  | .option _ => true
  | .vec _ => false
  | .array _ _ => false

inductive ViewMember
  | skip
  | field (cname : String) (occ : Int) (type : FieldTy)
  | flatten (id : StructId)
  deriving DecidableEq, Repr

/-- A struct, with the VIEW it is mapped to. -/
structure ViewDecl where
  name : String
  viewName : String
  members : List (String × ViewMember)

/-- The mapped structs of a program. -/
abbrev ViewDecls := List ViewDecl

/-- Where Rust's types rule a value out. -/
def illTyped : UbfError := ⟨.other 0, "value of another type"⟩

/-! ## Scalars -/

/-- Whether an integer fits a member of this type. -/
def integerFits : ViewFieldType → Int → Prop
  | .Short, value => -32768 ≤ value ∧ value ≤ 32767
  | .Char, value => -128 ≤ value ∧ value ≤ 127
  | .Int, value => -2147483648 ≤ value ∧ value ≤ 2147483647
  | .Long, value => longMin ≤ value ∧ value ≤ longMax
  | _, _ => True

instance (type : ViewFieldType) (value : Int) : Decidable (integerFits type value) := by
  unfold integerFits
  split <;> infer_instance

section Writing

variable (N : Native) (cname : String)

/-- `write_integer`. -/
def writeInteger (occ : Int) (value : Int) : Viewing PUnit := do
  let (_, field) ← bvoccur N cname
  throwIf (¬ integerFits field.type value) ⟨.BTYPERR, "integer does not fit the VIEW field"⟩
  bvchg N cname occ (.Long value)

/-- `view_write_field` of a scalar. -/
def writeScalar (occ : Int) : ScalarTy → Scalar → Viewing PUnit
  | .int min max, .int value => do
      throwIf (¬ (min ≤ value ∧ value ≤ max)) illTyped
      -- `i64::try_from`
      throwIf (¬ (longMin ≤ value ∧ value ≤ longMax)) ⟨.BTYPERR, "integer exceeds signed XATMI long"⟩
      writeInteger N cname occ value
  | .bool, .bool value => writeInteger N cname occ (if value then 1 else 0)
  | .float, .float bits => bvchg N cname occ (.Float bits)
  | .double, .double bits => bvchg N cname occ (.Double bits)
  | .string, .string text => bvchg N cname occ (.String text)
  | .carray, .carray bytes => bvchg N cname occ (.Carray bytes)
  | _, _ => throw illTyped

/-! ## Fields -/

/-- Elements one after another, from the `index`th on. -/
def writeEach (write : Value → Int → Viewing PUnit) (occ : Int) : Nat → List Value → Viewing PUnit
  | _, [] => pure ⟨⟩
  | index, value :: values => do
      let element ← check (ubfOccurrence occ index)
      write value element
      writeEach write occ (index + 1) values

/-- The loop that resets so many elements. -/
def resetEach : Int → Nat → Viewing PUnit
  | _, 0 => pure ⟨⟩
  | occ, count + 1 => do
      resetOccurrence N cname occ
      resetEach (occ + 1) count

def noCounter : UbfError := ⟨.BEINVAL, "variable-length VIEW vectors require a C occurrence indicator"⟩

/-- A vector: its count indicator, its elements, and the rest of the array reset. -/
def writeVec (write : Value → Int → Viewing PUnit) (values : List Value) (occ : Int) : Viewing PUnit := do
  let last ← check (ubfOccurrence occ values.length)
  let (_, field) ← bvoccur N cname
  throwIf (field.max < last) ⟨.BNOSPACE, "vector exceeds the VIEW occurrence capacity"⟩
  -- without a count indicator only the full array is representable
  bvsetoccur N cname last
  let (count, _) ← bvoccur N cname
  throwIf ((count : Int) ≠ last) noCounter
  writeEach write occ 0 values
  runIf (last < field.max) do
    template
    resetEach N cname last (field.max - last.toNat)
  -- writing past it has moved the indicator
  bvsetoccur N cname last

def writeArray (write : Value → Int → Viewing PUnit) (values : List Value) (occ : Int) : Viewing PUnit := do
  let last ← check (ubfOccurrence occ values.length)
  let (_, field) ← bvoccur N cname
  throwIf (field.max < last) ⟨.BNOSPACE, "array exceeds the VIEW occurrence capacity"⟩
  writeEach write occ 0 values

/-- `ViewFieldSerialize::view_write_field`. -/
def writeField : FieldTy → Value → Int → Viewing PUnit
  | .scalar type, .scalar value, occ => writeScalar N cname occ type value
  | .option type, value, occ => do
      check (requireSingle (single type))
      match value with
      | .some value => do
          writeField type value occ
          let null ← bvnull N cname occ
          throwIf (null = true) ⟨.BTYPERR, "Some(value) equals the compiled VIEW NULL sentinel"⟩
      | .none => bvsetnull N cname occ
      | _ => throw illTyped
  | .vec type, .list values, occ => do
      check (requireSingle (single type))
      writeVec N cname (writeField type) values occ
  | .array size type, .list values, occ => do
      throwIf (values.length ≠ size) illTyped
      check (requireSingle (single type))
      writeArray N cname (writeField type) values occ
  | _, _, _ => throw illTyped

end Writing

/-! ## Structs -/

/-- A member's statement, its error under the member's name. -/
def labelled {α : Type} (name member : String) (m : Viewing α) : Viewing α := do
  match ← outcomeOf m with
  | .ok a => pure a
  | .error error => throw (about name member error)

/-- `check_view`. -/
def checkView (view expected : String) : Except UbfError Unit :=
  if view = expected then .ok () else .error ⟨.BTYPERR, s!"expected VIEW {expected}, got {view}"⟩

section Struct

variable (N : Native) (D : ViewDecls) (child : StructId → Value → Viewing PUnit)

/-- The statement the derive emits for a member. -/
def writeMember (value : Value) : ViewMember → Viewing PUnit
  | .skip => pure ⟨⟩
  | .field cname occ type => writeField N cname type value occ
  | .flatten id => child id value

def writeMembers (name : String) : List (String × ViewMember) → List Value → Viewing PUnit
  | [], [] => pure ⟨⟩
  | (label, member) :: members, value :: values => do
      labelled name label (writeMember N child value member)
      writeMembers name members values
  | _, _ => throw illTyped

/-- `view_serialize`. -/
def serialize : Nat → StructId → Value → Viewing PUnit
  | 0, _, _ => throw illTyped
  | fuel + 1, id, value =>
      match D[id]?, value with
      | some decl, .struct values => do
          let t ← get
          check (checkView t.view.view decl.viewName)
          writeMembers N (serialize fuel) decl.name decl.members values
      | _, _ => throw illTyped

/-- `view_write`. -/
def viewWrite (fuel : Nat) (id : StructId) (value : Value) : Viewing PUnit :=
  match D[id]? with
  | none => throw illTyped
  | some decl => do
      let t ← get
      check (checkView t.view.view decl.viewName)
      serialize N D fuel id value

end Struct

/-! ## Reading -/

section Reading

variable (N : Native) (v : TypedView) (cname : String)

/-- The getter of a scalar type, and what is made of what it returns. -/
def decode (field : LayoutField) : ScalarTy → List UInt8 → Except UbfError Scalar
  | .int min max, cell => do
      let value ← N.toLong field cell
      if min ≤ value ∧ value ≤ max then .ok (.int value)
      else .error ⟨.BTYPERR, "VIEW integer does not fit the Rust type"⟩
  | .bool, cell => do
      let value ← N.toLong field cell
      if value = 0 then .ok (.bool false)
      else if value = 1 then .ok (.bool true)
      else .error ⟨.BTYPERR, "boolean VIEW field must be 0 or 1"⟩
  | .float, cell => .float <$> N.toFloat field cell
  | .double, cell => .double <$> N.toDouble field cell
  | .string, cell => .string <$> N.toText field cell
  | .carray, cell => .carray <$> N.toBytes field cell

/-- `view_read_field` of a scalar. -/
def readScalar (occ : Int) (type : ScalarTy) : Except UbfError Scalar := do
  let (field, cell) ← cbvget N cname v occ
  decode N field type cell

/-- `bvnull`, of a VIEW that is read. -/
def readNull (occ : Int) : Except UbfError Bool := do
  cNames (fun _ => nulInName) v.view cname
  let field ← N.field v.view cname
  let i ← field.element occ
  .ok (field.isNull (v.cells cname i))

/-- `bvoccur`, of a VIEW that is read. -/
def readCount : Except UbfError Nat := do
  cNames nulAt v.view cname
  let field ← N.field v.view cname
  .ok (v.active cname field)

/-- So many elements from `occ` on. -/
def readEach (read : Int → Except UbfError Value) : Int → Nat → Except UbfError (List Value)
  | _, 0 => .ok []
  | occ, count + 1 => do
      let value ← read occ
      let values ← readEach read (occ + 1) count
      .ok (value :: values)

/-- `ViewFieldDeserialize::view_read_field`. -/
def readField : FieldTy → Int → Except UbfError Value
  | .scalar type, occ => .scalar <$> readScalar N v cname occ type
  | .option type, occ => do
      requireSingle (single type)
      let null ← readNull N v cname occ
      if null then .ok .none else .some <$> readField type occ
  | .vec type, occ => do
      requireSingle (single type)
      let _ ← ubfOccurrence occ 0
      let count ← readCount N v cname
      .list <$> readEach (readField type) occ (count - occ.toNat)
  | .array size type, occ => do
      requireSingle (single type)
      let last ← ubfOccurrence occ size
      let count ← readCount N v cname
      if count < last then .error ⟨.BNOTPRES, "VIEW array has fewer occurrences than required"⟩
      else .list <$> readEach (readField type) occ size

end Reading

section Struct

variable (N : Native) (D : ViewDecls) (v : TypedView) (child : StructId → Except UbfError Value)

def readMember : ViewMember → Except UbfError Value
  | .skip => .ok (.skipped none)
  | .field cname occ type => readField N v cname type occ
  | .flatten id => child id

def readMembers (name : String) : List (String × ViewMember) → Except UbfError (List Value)
  | [] => .ok []
  | (label, member) :: members => do
      let value ← (readMember N v child member).mapError (about name label)
      let values ← readMembers name members
      .ok (value :: values)

/-- `view_deserialize`. -/
def deserialize : Nat → StructId → Except UbfError Value
  | 0, _ => .error illTyped
  | fuel + 1, id =>
      match D[id]? with
      | none => .error illTyped
      | some decl => do
          checkView v.view decl.viewName
          .struct <$> readMembers N v (deserialize fuel) decl.name decl.members

/-- `view_read`. -/
def viewRead (fuel : Nat) (id : StructId) : Except UbfError Value :=
  match D[id]? with
  | none => .error illTyped
  | some decl => do
      checkView v.view decl.viewName
      deserialize N D v fuel id

end Struct

end Endurox.View
