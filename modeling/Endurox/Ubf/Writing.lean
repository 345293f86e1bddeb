/-
# Ubf.Writing -- `ubf_write`

The serializing half of `ubf_serde.rs`, with the code the derives emit: every field kind
as the trait implementation writes it, structs member by member, and flat groups.  A
write that fails leaves what it had written.  Any native call may fail; the faults to
come are part of the state.

`serialize` descends from a struct into the structs its members name; the fuel bounds
how deep, and what it takes for the values at hand is enough.
-/
import Endurox.Ubf.Shapes
import Endurox.Typed.Complex

namespace Endurox.Ubf

open Endurox.Theory
open Endurox.Typed (BFLDID UbfFieldType UbfError UbfCode fieldTypeName)

set_option autoImplicit false

/-! ## The buffer being written -/

/-- The buffer, and how the native calls to come fail. -/
structure Target where
  fields : Buffer
  faults : List (Option UbfError) := []

abbrev Writing := Fallible UbfError Target

def check {α : Type} (result : Except UbfError α) : Writing α := MonadExcept.ofExcept result

/-- A native call, before what it does. -/
def native : Writing PUnit := do
  let t ← get
  match t.faults with
  | [] => pure ⟨⟩
  | fault :: faults => do
      set { t with faults }
      match fault with
      | none => pure ⟨⟩
      | some error => throw error

/-- `Boccur`; the native count is a C int. -/
def boccur (f : BFLDID) : Writing Nat := do
  native
  let t ← get
  pure (column f t.fields).length

/-- What `Bchg` makes of the buffer. -/
def Native.changed (N : Native) (f : BFLDID) (occ : Int) (datum : Datum) (fields : Buffer) : Except UbfError Buffer :=
  if 0 ≤ occ then .ok (change (placeholder f.type) f occ.toNat datum fields)
  else N.changeNegative f occ datum fields

/-- Native `Bchg` of a value in the field's own representation. -/
def putNative (N : Native) (f : BFLDID) (occ : Int) (datum : Datum) : Writing PUnit := do
  native
  let t ← get
  let fields ← check (N.changed f occ datum t.fields)
  set { t with fields }

/-- `bdel_owned`: what the occurrence owns goes with it. -/
def bdelOwned (f : BFLDID) (occ : Nat) : Writing PUnit := do
  native
  let t ← get
  throwIf ((column f t.fields).length ≤ occ) ⟨.BNOTPRES, ""⟩
  modify fun t => { t with fields := remove f occ t.fields }

/-- The loop of `clear_from`: so many occurrences past `first`, the last one first. -/
def clearLoop (f : BFLDID) (first : Nat) : Nat → Writing PUnit
  | 0 => pure ⟨⟩
  | count + 1 => do
      bdelOwned f (first + count)
      clearLoop f first count

def clearFrom (f : BFLDID) (first : Int) : Writing PUnit := do
  throwIf (first < 0) negativeOccurrence
  let total ← boccur f
  clearLoop f first.toNat (total - first.toNat)

/-- Run `write` on a buffer of its own (`tpalloc_ubf`), and hand over what it holds. -/
def nested (write : Writing PUnit) : Writing Buffer := do
  native
  let t ← get
  set { t with fields := [] }
  let outcome ← outcomeOf write
  let child ← get
  set { child with fields := t.fields }
  MonadExcept.ofExcept outcome
  pure child.fields

/-! ## Scalars -/

/-- `bchg` of a scalar. -/
def bchg (N : Native) (f : BFLDID) (occ : Int) (value : UbfValue) : Writing PUnit := do
  native
  throwIf (f.type = .Ptr) ⟨.BTYPERR, s!"field id {f.id} is BFLD_PTR and only accepts an owned buffer; " ++
    "the parent frees whatever address is stored here"⟩
  let bytes ← check (N.convert f.type value)
  putNative N f occ (.plain bytes)

/-- Whether an integer fits a field of this type. -/
def integerFits (type : UbfFieldType) (value : Int) : Prop :=
  match type with
  | .Short => -32768 ≤ value ∧ value ≤ 32767
  | .Char => -128 ≤ value ∧ value ≤ 127
  | .Long => longMin ≤ value ∧ value ≤ longMax
  | _ => True

instance (type : UbfFieldType) (value : Int) : Decidable (integerFits type value) := by
  unfold integerFits
  split <;> infer_instance

def writeInteger (N : Native) (f : BFLDID) (occ : Int) (value : Int) : Writing PUnit := do
  let _ ← check (ubfOccurrence occ 0)
  native
  throwIf (¬ integerFits f.type value) ⟨.BTYPERR, "integer does not fit the UBF field"⟩
  bchg N f occ (.Long value)

/-- Where Rust's types rule a value out. -/
def illTyped : UbfError := ⟨.other 0, "value of another type"⟩

/-- `ubf_write_field` of a scalar. -/
def writeScalar (N : Native) (f : BFLDID) (occ : Int) : ScalarTy → Scalar → Writing PUnit
  | .int min max, .int value => do
      throwIf (¬ (min ≤ value ∧ value ≤ max)) illTyped
      -- `i64::try_from`
      throwIf (¬ (longMin ≤ value ∧ value ≤ longMax)) ⟨.BTYPERR, "integer exceeds signed XATMI long"⟩
      writeInteger N f occ value
  | .bool, .bool value => writeInteger N f occ (if value then 1 else 0)
  | .float, .float bits => bchg N f occ (.Float bits)
  | .double, .double bits => bchg N f occ (.Double bits)
  | .string, .string text => bchg N f occ (.String text)
  | .carray, .carray bytes => bchg N f occ (.Carray bytes)
  | _, _ => throw illTyped

/-! ## Fields -/

/-- Elements on consecutive occurrences, from the `index`th on. -/
def writeEach (write : Value → Int → Writing PUnit) (occ : Int) : Nat → List Value → Writing PUnit
  | _, [] => pure ⟨⟩
  | index, value :: values => do
      let element ← check (ubfOccurrence occ index)
      write value element
      writeEach write occ (index + 1) values

/-- `UbfFieldSerialize::ubf_write_field`. -/
def writeField (N : Native) (f : BFLDID) : FieldTy → Value → Int → Writing PUnit
  | .scalar type, .scalar value, occ => writeScalar N f occ type value
  | .option type, value, occ => do
      let _ ← check (ubfOccurrence occ 0)
      check (requireSingle type.single)
      match value with
      | .some value => writeField N f type value occ
      | .none => clearFrom f occ
      | _ => throw illTyped
  | .vec type, .list values, occ => do
      check (requireSingle type.single)
      let last ← check (ubfOccurrence occ values.length)
      writeEach (writeField N f type) occ 0 values
      clearFrom f last
  | .array size type, .list values, occ => do
      throwIf (values.length ≠ size) illTyped
      check (requireSingle type.single)
      let _ ← check (ubfOccurrence occ size)
      writeEach (writeField N f type) occ 0 values
  | _, _, _ => throw illTyped

/-! ## Mapped structs -/

/-- `require_field_type`. -/
def requireFieldType (f : BFLDID) (want : UbfFieldType) (what : String) : Except UbfError Unit :=
  if f.type = want then .ok ()
  else .error ⟨.BTYPERR,
    s!"{what} requires a {fieldTypeName want} field; field id {f.id} is {fieldTypeName f.type}"⟩

/-- `mapped_field`. -/
def mappedField (m : Mapping) (f : BFLDID) (occ : Int) : Except UbfError Unit := do
  let _ ← ubfOccurrence occ 0
  requireFieldType f m.fieldType "structure mapping"

/-- The longest name a `BVIEWFLD` takes. -/
def viewNameMax : Nat := 33

def embedsPointers : UbfError :=
  ⟨.BEINVAL, "cannot inline-embed a UBF containing BFLD_PTR fields; store it behind a BFLD_PTR (ptr) " ++
    "mapping instead"⟩

section Mapped

variable (N : Native) (child : StructId → Value → Writing PUnit) (m : Mapping) (f : BFLDID)

/-- `ubf_write_mapped` of a struct, by storage strategy. -/
def writeBase (id : StructId) (value : Value) (occ : Int) : Writing PUnit := do
  check (mappedField m f occ)
  match m with
  | .EmbeddedUbf => do
      let fields ← nested (child id value)
      native
      throwIf (bhasptr fields = true) embedsPointers
      putNative N f occ (.ubf fields)
  | .PointerUbf => do
      let fields ← nested (child id value)
      putNative N f occ (.ptrUbf fields)
  | .EmbeddedView => do
      native
      let data ← check (N.viewWrite id value)
      throwIf (viewNameMax < (N.viewName id).utf8ByteSize) ⟨.BEINVAL, "VIEW name is too long"⟩
      putNative N f occ (.view (N.viewName id) data)
  | .PointerView => do
      native
      let data ← check (N.viewWrite id value)
      putNative N f occ (.ptrView (N.viewName id) data)

/-- `put_null_complex`. -/
def putNullComplex (occ : Int) : Writing PUnit := do
  native
  throwIf (f.type ≠ .Ptr ∧ f.type ≠ .View) ⟨.BTYPERR, "this field type has no NULL complex occurrence"⟩
  putNative N f occ (placeholder f.type)

/-- A `Vec`, each element by `element`. -/
def writeVec (single : Bool) (element : Value → Int → Writing PUnit) (values : List Value) (occ : Int) :
    Writing PUnit := do
  check (mappedField m f occ)
  check (requireSingle single)
  let last ← check (ubfOccurrence occ values.length)
  writeEach element occ 0 values
  clearFrom f last

/-- An array. -/
def writeArray (single : Bool) (element : Value → Int → Writing PUnit) (size : Nat) (values : List Value)
    (occ : Int) : Writing PUnit := do
  throwIf (values.length ≠ size) illTyped
  check (mappedField m f occ)
  check (requireSingle single)
  let _ ← check (ubfOccurrence occ size)
  writeEach element occ 0 values

mutual

/-- `UbfMappedSerialize::ubf_write_mapped`. -/
def writeMapped : MappedTy → Value → Int → Writing PUnit
  | .base id, value, occ => writeBase N child m f id value occ
  | .option type, value, occ => do
      check (mappedField m f occ)
      check (requireSingle (type.single m && !type.optional))
      match value with
      | .some value => writeMapped type value occ
      | .none => clearFrom f occ
      | _ => throw illTyped
  | .vec type, .list values, occ => writeVec m f (type.single m) (writeOccurrence type) values occ
  | .array size type, .list values, occ => writeArray m f (type.single m) (writeOccurrence type) size values occ
  | _, _, _ => throw illTyped

/-- `UbfMappedSerialize::ubf_write_occurrence`: `None` keeps its place. -/
def writeOccurrence : MappedTy → Value → Int → Writing PUnit
  | .base id, value, occ => writeBase N child m f id value occ
  | .option type, value, occ => do
      check (mappedField m f occ)
      check (requireSingle ((MappedTy.option type).single m && type.single m && !type.optional))
      match value with
      | .some value => writeOccurrence type value occ
      | .none => putNullComplex N f occ
      | _ => throw illTyped
  | .vec type, .list values, occ => writeVec m f (type.single m) (writeOccurrence type) values occ
  | .array size type, .list values, occ => writeArray m f (type.single m) (writeOccurrence type) size values occ
  | _, _, _ => throw illTyped

end

end Mapped

/-! ## Groups -/

/-- A member's statement, its error under the member's name. -/
def labelled {α : Type} (name member : String) (m : Writing α) : Writing α := do
  match ← outcomeOf m with
  | .ok a => pure a
  | .error error => throw (about name member error)

section Group

variable (N : Native) (child : StructId → Value → Writing PUnit)

/-- One member of a row. -/
def writePlacedAt (base : Int) (value : Value) : Placed → Writing PUnit
  | .skip => pure ⟨⟩
  | .field f occ type _ => do
      let slot ← check (ubfGroupFieldCheck true base occ)
      writeField N f type value slot
  | .mapped m f occ type _ => do
      let slot ← check (ubfGroupFieldCheck true base occ)
      writeOccurrence N child m f type value slot

def writeRow (name : String) (base : Int) : List (String × Placed) → List Value → Writing PUnit
  | [], [] => pure ⟨⟩
  | (member, placed) :: members, value :: values => do
      labelled name member (writePlacedAt N child base value placed)
      writeRow name base members values
  | _, _ => throw illTyped

/-- `ubf_write_at`. -/
def writeAt (g : GroupDecl) (value : Value) (base : Int) : Writing PUnit := do
  check (validateGroup g base)
  match value with
  | .struct values => writeRow N child g.name base g.members values
  | _ => throw illTyped

def clearRow (name : String) (first : Int) : List (String × Placed) → Writing PUnit
  | [] => pure ⟨⟩
  | (member, placed) :: members => do
      match placed.field? with
      | none => pure ⟨⟩
      | some (f, occ) => labelled name member do
          let slot ← check (ubfGroupFieldCheck true first occ)
          clearFrom f slot
      clearRow name first members

/-- `ubf_clear_from` of a group. -/
def clearGroup (g : GroupDecl) (first : Int) : Writing PUnit := do
  check (validateGroup g first)
  clearRow g.name first g.members

/-- `ubf_group_write_field` of a `Vec` of rows. -/
def writeVecGroup (g : GroupDecl) (rows : List Value) (base : Int) : Writing PUnit := do
  let last ← check (ubfOccurrence base rows.length)
  check (validateGroup g base)
  check (validateGroup g last)
  writeEach (writeAt N child g) base 0 rows
  clearGroup g last

/-- `ubf_group_write_field` of an array of rows. -/
def writeArrayGroup (g : GroupDecl) (rows : List Value) (base : Int) : Writing PUnit := do
  check (validateGroup g base)
  let last ← check (ubfOccurrence base (rows.length - 1))
  check (validateGroup g last)
  writeEach (writeAt N child g) base 0 rows

/-- `UbfGroupFieldSerialize::ubf_group_write_field`: one row, a `Vec` of rows, or an array. -/
def writeGroup (groups : List GroupDecl) (base : Int) (type : GroupTy) (value : Value) : Writing PUnit :=
  match groups[type.id]? with
  | none => throw illTyped
  | some g =>
      match type, value with
      | .one _, value => writeAt N child g value base
      | .vec _, .list rows => writeVecGroup N child g rows base
      | .array size _, .list rows => do
          throwIf (rows.length ≠ size) illTyped
          writeArrayGroup N child g rows base
      | _, _ => throw illTyped

end Group

/-! ## Structs -/

section Struct

variable (N : Native) (D : Decls) (child : StructId → Value → Writing PUnit)

/-- The statement the derive emits for a member. -/
def writeMember (value : Value) : Member → Writing PUnit
  | .placed .skip => pure ⟨⟩
  | .placed (.field f occ type _) => writeField N f type value occ
  | .placed (.mapped m f occ type _) => writeMapped N child m f type value occ
  | .flatten id => child id value
  | .group occ type => writeGroup N child D.groups occ type value

def writeMembers (name : String) : List (String × Member) → List Value → Writing PUnit
  | [], [] => pure ⟨⟩
  | (label, member) :: members, value :: values => do
      labelled name label (writeMember N D child value member)
      writeMembers name members values
  | _, _ => throw illTyped

/-- `ubf_serialize`. -/
def serialize : Nat → StructId → Value → Writing PUnit
  | 0, _, _ => throw illTyped
  | fuel + 1, id, value =>
      match D.structs[id]?, value with
      | some decl, .struct values => writeMembers N D (serialize fuel) decl.name decl.members values
      | _, _ => throw illTyped

end Struct

end Endurox.Ubf
