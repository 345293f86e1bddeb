/-
# Ubf.Reading -- `ubf_read`

The deserializing half of `ubf_serde.rs`, with the code the derives emit.  What a read
asks of buffers is a `Source`: positions, each a buffer that stands alone, is embedded or
is pointed to, and what is found from one.  A read ends in a value, an error or a panic;
a thread keeps the addresses of the nested buffers it is reading in `READ_PATH`.

`deserialize` descends through structs with fuel; a run that returns does so with any
more of it.
-/
import Endurox.Ubf.Writing

namespace Endurox.Ubf

open Endurox.Theory
open Endurox.Typed (BFLDID UbfFieldType UbfError UbfCode)

set_option autoImplicit false

/-! ## What is read -/

/-- How a read ends without a value. -/
inductive Exit
  | error (error : UbfError)
  | panic
  deriving DecidableEq, Repr

/-- What a read finds, position by position.  Conversions of the user's own may panic. -/
structure Source (Addr : Type) where
  Pos : Type
  address : Pos → Addr
  /-- `Boccur`. -/
  count : Pos → BFLDID → Except UbfError Nat
  /-- `Bpres`. -/
  present : Pos → BFLDID → Int → Bool
  /-- `null_complex`. -/
  isNull : Pos → BFLDID → Int → Except UbfError Bool
  /-- `ubf_read_field` of a scalar. -/
  scalar : Pos → BFLDID → Int → ScalarTy → Except Exit Scalar
  /-- `bget_ubf`. -/
  embedded : Pos → BFLDID → Int → Except UbfError Pos
  /-- `bget_ptr_ubf`. -/
  target : Pos → BFLDID → Int → Except UbfError Pos
  /-- `bget_view` and `view_read`. -/
  view : Pos → BFLDID → Int → StructId → Except Exit Value
  /-- The same of a VIEW that is pointed to. -/
  viewTarget : Pos → BFLDID → Int → StructId → Except Exit Value

/-- Reads over the path of addresses, the last one entered first; `none` for want of fuel. -/
abbrev Reading (Addr : Type) := ExceptT Exit (StateT (List Addr) Option)

section Reads

variable {Addr : Type}

def ask {α : Type} (result : Except UbfError α) : Reading Addr α :=
  MonadExcept.ofExcept (result.mapError Exit.error)

def tooDeep : UbfError := ⟨.BEINVAL, "cyclic or excessively deep UBF structure mapping"⟩

/-- `ReadScope::enter`. -/
def enter [DecidableEq Addr] (address : Addr) : Reading Addr PUnit := do
  let path ← get
  if 128 ≤ path.length ∨ address ∈ path then throw (.error tooDeep)
  else set (address :: path)

/-- A read under a `ReadScope`: on every way out the scope is dropped. -/
def withScope {α : Type} [DecidableEq Addr] (address : Addr) (read : Reading Addr α) : Reading Addr α := do
  enter address
  let outcome ← ExceptT.lift read.run
  modify List.tail
  MonadExcept.ofExcept outcome

/-- An error under the name of the member it is about; a panic passes. -/
def Exit.about (name member : String) : Exit → Exit
  | .error e => .error (Ubf.about name member e)
  | .panic => .panic

def readLabelled {α : Type} (name member : String) (read : Reading Addr α) : Reading Addr α := do
  match ← ExceptT.lift read.run with
  | .ok a => pure a
  | .error exit => throw (exit.about name member)

/-- One read after another. -/
def readAll {ι : Type} (read : ι → Reading Addr Value) : List ι → Reading Addr (List Value)
  | [] => pure []
  | i :: rest => do
      let value ← read i
      let values ← readAll read rest
      pure (value :: values)

end Reads

/-- `occ..total`. -/
def occurrencesFrom (occ : Int) (total : Nat) : List Int :=
  (List.range (total - occ.toNat)).map fun i => occ + i

/-! ## Scalars -/

/-- The native `BNOTPRES`. -/
def notPresent : UbfError := ⟨.BNOTPRES, ""⟩

/-- The getter of a scalar type. -/
def ScalarTy.getter : ScalarTy → String
  | .int _ _ => "bget_long"
  | .bool => "bget_long"
  | .float => "bget_float"
  | .double => "bget_double"
  | .string => "bget_string"
  | .carray => "bget_bytes"

/-- What the getter makes of an occurrence, and what is made of that. -/
def decode (N : Native) (f : BFLDID) : ScalarTy → List UInt8 → Except UbfError Scalar
  | .int min max, bytes => do
      let value ← N.toLong f.type bytes
      if min ≤ value ∧ value ≤ max then .ok (.int value)
      else .error ⟨.BTYPERR, "UBF integer does not fit the Rust type"⟩
  | .bool, bytes => do
      let value ← N.toLong f.type bytes
      if value = 0 then .ok (.bool false)
      else if value = 1 then .ok (.bool true)
      else .error ⟨.BTYPERR, "boolean UBF field must be 0 or 1"⟩
  | .float, bytes => .float <$> N.toFloat f.type bytes
  | .double, bytes => .double <$> N.toDouble f.type bytes
  | .string, bytes => .string <$> N.toText f.type bytes
  | .carray, bytes => .carray <$> N.toBytes f.type bytes

/-- `reject_ptr_conversion`. -/
def rejectPtrConversion (f : BFLDID) (op : String) : Except UbfError Unit :=
  if f.type = .Ptr then .error ⟨.BTYPERR, s!"{op}: field id {f.id} is BFLD_PTR; write it with an owned " ++
    "buffer and read it back with bget_ptr or bextract_ptr"⟩
  else .ok ()

/-- `ubf_read_field` of a scalar, of the occurrence's bytes if it is there. -/
def readScalar (N : Native) (f : BFLDID) (occ : Int) (type : ScalarTy) (found : Option (List UInt8)) :
    Except UbfError Scalar := do
  match type with
  | .int _ _ => do
      let _ ← ubfOccurrence occ 0
      .ok ()
  | _ => .ok ()
  rejectPtrConversion f type.getter
  match found with
  | some bytes => decode N f type bytes
  | none => .error notPresent

/-! ## Defaults -/

def ScalarTy.default : ScalarTy → Scalar
  | .int _ _ => .int 0
  | .bool => .bool false
  | .float => .float 0
  | .double => .double 0
  | .string => .string ""
  | .carray => .carray []

def FieldTy.default : FieldTy → Value
  | .scalar type => .scalar type.default
  | .option _ => .none
  | .vec _ => .list []
  | .array size type => .list (List.replicate size type.default)

def MappedTy.default (D : Decls) (m : Mapping) : MappedTy → Value
  | .base id =>
      match m with
      | .EmbeddedUbf | .PointerUbf => (D.structs[id]?.map (·.default)).getD (.struct [])
      | .EmbeddedView | .PointerView => D.viewDefaults[id]?.getD (.struct [])
  | .option _ => .none
  | .vec _ => .list []
  | .array size type => .list (List.replicate size (type.default D m))

section Fields

variable {Addr : Type} [DecidableEq Addr] (S : Source Addr) (pos : S.Pos) (f : BFLDID)

/-! ## Fields -/

/-- `ubf_mapping_present`. -/
def mappingPresent (occ : Int) : Reading Addr Bool := do
  let _ ← ask (ubfOccurrence occ 0)
  let count ← ask (S.count pos f)
  pure (occ < count)

/-- `UbfFieldDeserialize::ubf_read_field`. -/
def readField : FieldTy → Int → Reading Addr Value
  | .scalar type, occ => do
      let value ← MonadExcept.ofExcept (S.scalar pos f occ type)
      pure (.scalar value)
  | .option type, occ => do
      ask (requireSingle type.single)
      if ← mappingPresent S pos f occ then do
        let value ← readField type occ
        pure (.some value)
      else pure .none
  | .vec type, occ => do
      ask (requireSingle type.single)
      let _ ← ask (ubfOccurrence occ 0)
      let total ← ask (S.count pos f)
      let values ← readAll (readField type) (occurrencesFrom occ total)
      pure (.list values)
  | .array size type, occ => do
      ask (requireSingle type.single)
      let _ ← ask (ubfOccurrence occ size)
      let values ← readAll (fun i => do readField type (← ask (ubfOccurrence occ i))) (List.range size)
      pure (.list values)

/-! ## Mapped structs -/

variable (child : StructId → S.Pos → Reading Addr Value) (m : Mapping)

/-- `ubf_read_mapped` of a struct, by storage strategy. -/
def readBase (id : StructId) (occ : Int) : Reading Addr Value := do
  ask (mappedField m f occ)
  match m with
  | .EmbeddedUbf => do
      let nested ← ask (S.embedded pos f occ)
      withScope (S.address nested) (child id nested)
  | .PointerUbf => do
      let target ← ask (S.target pos f occ)
      withScope (S.address target) (child id target)
  | .EmbeddedView => MonadExcept.ofExcept (S.view pos f occ id)
  | .PointerView => MonadExcept.ofExcept (S.viewTarget pos f occ id)

/-- `UbfMappedDeserialize::ubf_read_mapped`. -/
def readMapped : MappedTy → Int → Reading Addr Value
  | .base id, occ => readBase S pos f child m id occ
  | .option type, occ => do
      ask (mappedField m f occ)
      ask (requireSingle (type.single m && !type.optional))
      if !S.present pos f occ then pure .none
      else if ← ask (S.isNull pos f occ) then pure .none
      else do
        let value ← readMapped type occ
        pure (.some value)
  | .vec type, occ => do
      ask (mappedField m f occ)
      ask (requireSingle (type.single m))
      let count ← ask (S.count pos f)
      let values ← readAll (readMapped type) (occurrencesFrom occ count)
      pure (.list values)
  | .array size type, occ => do
      ask (mappedField m f occ)
      ask (requireSingle (type.single m))
      let _ ← ask (ubfOccurrence occ size)
      let values ← readAll (fun i => do readMapped type (← ask (ubfOccurrence occ i))) (List.range size)
      pure (.list values)

/-- A member read by `read`, or its default when a read may take that and nothing is there. -/
def orDefault (default : Bool) (value : Value) (occ : Int) (read : Reading Addr Value) : Reading Addr Value := do
  if default then
    if ← mappingPresent S pos f occ then read else pure value
  else read

end Fields

section Structs

variable {Addr : Type} [DecidableEq Addr] (S : Source Addr) (D : Decls) (pos : S.Pos)
  (child : StructId → S.Pos → Reading Addr Value)

/-! ## Groups -/

/-- One member of a row. -/
def readPlacedAt (base : Int) : Placed → Reading Addr Value
  | .skip => pure (.skipped none)
  | .field f occ type default => do
      let slot ← ask (ubfGroupFieldCheck true base occ)
      orDefault S pos f default type.default slot (readField S pos f type slot)
  | .mapped m f occ type default => do
      let slot ← ask (ubfGroupFieldCheck true base occ)
      orDefault S pos f default (type.default D m) slot (readMapped S pos f child m type slot)

def readRow (name : String) (base : Int) : List (String × Placed) → Reading Addr (List Value)
  | [] => pure []
  | (member, placed) :: members => do
      let value ← readLabelled name member (readPlacedAt S D pos child base placed)
      let values ← readRow name base members
      pure (value :: values)

/-- `ubf_read_at`. -/
def readAt (g : GroupDecl) (base : Int) : Reading Addr Value := do
  ask (validateGroup g base)
  let values ← readRow S D pos child g.name base g.members
  pure (.struct values)

/-- The rows from `base` on: the anchor's occurrences less where they start. -/
def rowCount (g : GroupDecl) (occurrences : Nat) : Nat := occurrences - g.anchor.2.toNat

/-- `ubf_group_read_field` of a `Vec` of rows. -/
def readVecGroup (g : GroupDecl) (base : Int) : Reading Addr Value := do
  ask (validateGroup g base)
  let _ ← ask (ubfGroupFieldCheck true base g.anchor.2)
  let occurrences ← ask (S.count pos g.anchor.1)
  let count := rowCount g occurrences
  ask (if base < count then validateGroup g (count - 1) else .ok ())
  let values ← readAll (readAt S D pos child g) (occurrencesFrom base count)
  pure (.list values)

/-- `ubf_group_read_field` of an array of rows. -/
def readArrayGroup (g : GroupDecl) (size : Nat) (base : Int) : Reading Addr Value := do
  ask (validateGroup g base)
  let last ← ask (ubfOccurrence base (size - 1))
  ask (validateGroup g last)
  let values ← readAll (fun i => do readAt S D pos child g (← ask (ubfOccurrence base i))) (List.range size)
  pure (.list values)

/-- `UbfGroupFieldDeserialize::ubf_group_read_field`. -/
def readGroup (base : Int) (type : GroupTy) : Reading Addr Value :=
  match D.groups[type.id]? with
  | none => throw (.error illTyped)
  | some g =>
      match type with
      | .one _ => readAt S D pos child g base
      | .vec _ => readVecGroup S D pos child g base
      | .array size _ => readArrayGroup S D pos child g size base

/-! ## Structs -/

/-- What the derive emits for a member. -/
def readMember : Member → Reading Addr Value
  | .placed .skip => pure (.skipped none)
  | .placed (.field f occ type default) =>
      orDefault S pos f default type.default occ (readField S pos f type occ)
  | .placed (.mapped m f occ type default) =>
      orDefault S pos f default (type.default D m) occ (readMapped S pos f child m type occ)
  | .flatten id => child id pos
  | .group occ type => readGroup S D pos child occ type

def readMembers (name : String) : List (String × Member) → Reading Addr (List Value)
  | [] => pure []
  | (label, member) :: members => do
      let value ← readLabelled name label (readMember S D pos child member)
      let values ← readMembers name members
      pure (value :: values)

end Structs

/-- `ubf_deserialize`. -/
def deserialize {Addr : Type} [DecidableEq Addr] (S : Source Addr) (D : Decls) :
    Nat → StructId → S.Pos → Reading Addr Value
  | 0, _, _ => StateT.lift (m := Option) none
  | fuel + 1, id, pos =>
      match D.structs[id]? with
      | some decl => do
          let values ← readMembers S D pos (deserialize S D fuel) decl.name decl.members
          pure (.struct values)
      | none => throw (.error illTyped)

end Endurox.Ubf
