/-
# Ubf.Shapes -- mapped types, their values, and what a buffer holds

The types that `UbfSerialize` and `UbfDeserialize` derive for, as data: a struct is its
mapped members, each with its field, its starting occurrence and its Rust type; structs
name one another, so a type may be recursive.  A `#[ubf(group)]` struct has members with a
field of their own only.  `Box` and references map as what they hold and do not show.

A buffer is its occurrences under their fields; what a pointer owns is kept in the
occurrence that owns it.  What native code does to a value (conversions between field
types, the layout of a VIEW) is `Native`.
-/
import Endurox.Theory.Columns
import Endurox.Theory.Action
import Endurox.Typed.Heap

namespace Endurox.Ubf

open Endurox.Theory
open Endurox.Typed (BFLDID UbfFieldType UbfError UbfCode)

set_option autoImplicit false

/-! ## Buffers -/

/-- One occurrence, with the buffer it embeds or owns.  A VIEW without a name is NULL. -/
inductive Datum
  | plain (bytes : List UInt8)
  | view (name : String) (data : List UInt8)
  | ubf (fields : List (BFLDID × Datum))
  | null
  | ptrUbf (fields : List (BFLDID × Datum))
  | ptrView (name : String) (data : List UInt8)
  | ptrOther (typeName : String) (bytes : List UInt8)

abbrev Buffer := Columns BFLDID Datum

/-- What `Bchg` fills a gap with. -/
def placeholder : UbfFieldType → Datum
  | .Ptr => .null
  | .Ubf => .ubf []
  | .View => .view "" []
  | _ => .plain []

mutual

/-- `Bhasptr` of an occurrence. -/
def Datum.hasPtr : Datum → Bool
  | .null => true
  | .ptrUbf _ => true
  | .ptrView _ _ => true
  | .ptrOther _ _ => true
  | .ubf fields => bhasptr fields
  | .plain _ => false
  | .view _ _ => false

def bhasptr : List (BFLDID × Datum) → Bool
  | [] => false
  | (_, datum) :: fields => datum.hasPtr || bhasptr fields

end

/-! ## Values -/

/-- A Rust scalar; floating-point values by their bits. -/
inductive Scalar
  | int (value : Int)
  | bool (value : Bool)
  | float (bits : UInt32)
  | double (bits : UInt64)
  | string (text : String)
  | carray (bytes : List UInt8)
  deriving DecidableEq, Repr

/-- A Rust value.  A skipped member holds anything, `none` for its type's default. -/
inductive Value
  | scalar (value : Scalar)
  | none
  | some (value : Value)
  | list (values : List Value)
  | struct (members : List Value)
  | skipped (held : Option Scalar)

mutual

/-- The value with its skipped members at their defaults. -/
def Value.reset : Value → Value
  | .scalar value => .scalar value
  | .none => .none
  | .some value => .some value.reset
  | .list values => .list (resetAll values)
  | .struct members => .struct (resetAll members)
  | .skipped _ => .skipped .none

def resetAll : List Value → List Value
  | [] => []
  | value :: values => value.reset :: resetAll values

end

theorem resetAll_eq_map : ∀ values : List Value, resetAll values = values.map Value.reset
  | [] => rfl
  | value :: values => by rw [resetAll, resetAll_eq_map values, List.map_cons]

/-! ## Types -/

/-- The scalars the library maps; an integer type by its range. -/
inductive ScalarTy
  | int (min max : Int)
  | bool
  | float
  | double
  | string
  | carray
  deriving DecidableEq, Repr

inductive FieldTy
  | scalar (type : ScalarTy)
  | option (type : FieldTy)
  | vec (type : FieldTy)
  | array (size : Nat) (type : FieldTy)
  deriving DecidableEq, Repr

/-- `UbfFieldSerialize::SINGLE`. -/
def FieldTy.single : FieldTy → Bool
  | .scalar _ => true
  | _ => false

/-- A storage strategy. -/
inductive Mapping
  | EmbeddedUbf | PointerUbf | EmbeddedView | PointerView
  deriving DecidableEq, Repr

def Mapping.fieldType : Mapping → UbfFieldType
  | .EmbeddedUbf => .Ubf
  | .PointerUbf => .Ptr
  | .EmbeddedView => .View
  | .PointerView => .Ptr

/-- A struct, or a VIEW type, by its number. -/
abbrev StructId := Nat

inductive MappedTy
  | base (id : StructId)
  | option (type : MappedTy)
  | vec (type : MappedTy)
  | array (size : Nat) (type : MappedTy)
  deriving DecidableEq, Repr

/-- `UbfMappedSerialize::SINGLE`: a NULL pointer or VIEW holds the place of a `None`. -/
def MappedTy.single (m : Mapping) : MappedTy → Bool
  | .base _ => true
  | .option _ => m.fieldType = .Ptr ∨ m.fieldType = .View
  | _ => false

/-- `UbfMappedSerialize::OPTIONAL`. -/
def MappedTy.optional : MappedTy → Bool
  | .option _ => true
  | _ => false

/-- A member with a field of its own, and whether a read may take its default. -/
inductive Placed
  | skip
  | field (f : BFLDID) (occ : Int) (type : FieldTy) (default : Bool)
  | mapped (m : Mapping) (f : BFLDID) (occ : Int) (type : MappedTy) (default : Bool)
  deriving DecidableEq, Repr

inductive GroupTy
  | one (group : Nat)
  | vec (group : Nat)
  | array (size : Nat) (group : Nat)
  deriving DecidableEq, Repr

def GroupTy.id : GroupTy → Nat
  | .one group => group
  | .vec group => group
  | .array _ group => group

inductive Member
  | placed (member : Placed)
  | flatten (id : StructId)
  | group (occ : Int) (type : GroupTy)
  deriving DecidableEq, Repr

/-- The field of a member, and its occurrence offset. -/
def Placed.field? : Placed → Option (BFLDID × Int)
  | .skip => none
  | .field f occ _ _ => some (f, occ)
  | .mapped _ f occ _ _ => some (f, occ)

/-- A struct: its members by name, and what its `Default` gives. -/
structure Decl where
  name : String
  members : List (String × Member)
  default : Value := .struct []

/-- A `#[ubf(group)]` struct: some member anchors its rows. -/
structure GroupDecl where
  name : String
  members : List (String × Placed)
  anchor : BFLDID × Int
  anchored : members.findSome? (fun member => member.2.field?) = some anchor

/-- The types of a program; of a VIEW type, what its `Default` gives. -/
structure Decls where
  structs : List Decl
  groups : List GroupDecl := []
  viewDefaults : List Value := []

/-! ## What native code does -/

/-- `UbfValue`, as far as scalars go. -/
inductive UbfValue
  | Long (value : Int)
  | Float (bits : UInt32)
  | Double (bits : UInt64)
  | String (text : String)
  | Carray (bytes : List UInt8)
  deriving DecidableEq, Repr

/-- Conversions to and from a field's type, what `Bchg` does at a negative occurrence, and the
layouts of the VIEW types. -/
structure Native where
  convert : UbfFieldType → UbfValue → Except UbfError (List UInt8)
  toLong : UbfFieldType → List UInt8 → Except UbfError Int
  toFloat : UbfFieldType → List UInt8 → Except UbfError UInt32
  toDouble : UbfFieldType → List UInt8 → Except UbfError UInt64
  toText : UbfFieldType → List UInt8 → Except UbfError String
  toBytes : UbfFieldType → List UInt8 → Except UbfError (List UInt8)
  changeNegative : BFLDID → Int → Datum → Buffer → Except UbfError Buffer
  viewName : StructId → String
  viewNamed : ∀ id, viewName id ≠ ""
  viewWrite : StructId → Value → Except UbfError (List UInt8)
  viewRead : StructId → List UInt8 → Except UbfError Value

/-- `Bchg` refuses negative occurrences. -/
def Native.RefusesNegative (N : Native) : Prop :=
  ∀ f occ datum fields, occ < 0 → ∃ error, N.changeNegative f occ datum fields = .error error

/-- An occurrence is zero-based, or refused if it is not. -/
def Native.Places (N : Native) (occ : Int) : Prop := 0 ≤ occ ∨ N.RefusesNegative

/-- Fields start at zero-based occurrences, or native code refuses the others. -/
def Decls.ZeroBased (N : Native) (D : Decls) : Prop :=
  ∀ decl ∈ D.structs, ∀ label f occ type default,
    (label, Member.placed (.field f occ type default)) ∈ decl.members → N.Places occ

/-- A `long` in memory. -/
def longBytes (value : Int) : List UInt8 :=
  (List.range 8).map fun i => UInt8.ofNat ((value % 2 ^ 64).toNat / 256 ^ i % 256)

def bytesLong (bytes : List UInt8) : Int :=
  let raw : Nat := bytes.foldr (fun byte rest => byte.toNat + 256 * rest) 0
  if raw < 2 ^ 63 then (raw : Int) else raw - 2 ^ 64

/-- Long, string and carray fields on a 64-bit little-endian machine, each read as its own type. -/
def littleEndian : Native where
  convert
    | .Long, .Long value => .ok (longBytes value)
    | .String, .String text => .ok text.toUTF8.toList
    | .Carray, .Carray bytes => .ok bytes
    | _, _ => .error ⟨.BTYPERR, ""⟩
  toLong _ bytes := .ok (bytesLong bytes)
  toFloat _ _ := .error ⟨.BTYPERR, ""⟩
  toDouble _ _ := .error ⟨.BTYPERR, ""⟩
  toText _ bytes := .ok (String.ofList (bytes.map fun byte => Char.ofNat byte.toNat))
  toBytes _ bytes := .ok bytes
  changeNegative _ _ _ _ := .error ⟨.BEINVAL, ""⟩
  viewName _ := "VIEW"
  viewNamed _ := by decide
  viewWrite _ _ := .error ⟨.BBADVIEW, ""⟩
  viewRead _ _ := .error ⟨.BBADVIEW, ""⟩

/-! ## Occurrences -/

/-- `i32::MAX`. -/
def i32Max : Int := 2147483647

/-- `c_long` is 64 bits wide. -/
def longMin : Int := -9223372036854775808
def longMax : Int := 9223372036854775807

def negativeOccurrence : UbfError := ⟨.BEINVAL, "negative occurrence"⟩

/-- `ubf_occurrence`. -/
def ubfOccurrence (first : Int) (index : Nat) : Except UbfError Int :=
  if first < 0 then .error negativeOccurrence
  else if index ≤ i32Max ∧ first + index ≤ i32Max then .ok (first + index)
  else .error ⟨.BEINVAL, "occurrence index overflow"⟩

def requireSingle (single : Bool) : Except UbfError Unit :=
  if single then .ok ()
  else .error ⟨.BEINVAL, "a collection element must occupy one occurrence; wrap nested collections or " ++
    "optional elements in a mapped struct"⟩

/-- An error under the name of the member it is about. -/
def about (name member : String) (error : UbfError) : UbfError :=
  { error with message := s!"{name}.{member}: {error.message}" }

/-- `ubf_group_field_check`. -/
def ubfGroupFieldCheck (single : Bool) (base offset : Int) : Except UbfError Int := do
  requireSingle single
  let _ ← ubfOccurrence offset 0
  ubfOccurrence base offset.toNat

/-- The width and the offset of a group member, when it has a field. -/
def Placed.slot : Placed → Option (Bool × Int)
  | .skip => none
  | .field _ occ type _ => some (type.single, occ)
  | .mapped m _ occ type _ => some (type.single m, occ)

/-- `ubf_group_field_check` of each member, as the derive lists them. -/
def groupChecks (name : String) (base : Int) : List (String × Placed) → Except UbfError Unit
  | [] => .ok ()
  | (member, placed) :: members => do
      match placed.slot with
      | none => .ok ()
      | some (single, occ) => do
          let _ ← (ubfGroupFieldCheck single base occ).mapError (about name member)
          .ok ()
      groupChecks name base members

/-- `ubf_validate_group`. -/
def validateGroup (g : GroupDecl) (base : Int) : Except UbfError Unit := do
  let _ ← ubfOccurrence base 0
  groupChecks g.name base g.members

theorem ubfOccurrence_eq_ok {first : Int} {index : Nat} {occ : Int} :
    ubfOccurrence first index = .ok occ ↔ 0 ≤ first ∧ first + index ≤ i32Max ∧ occ = first + index := by
  unfold ubfOccurrence i32Max
  split
  · constructor
    · intro ok
      cases ok
    · omega
  · split
    · rename_i fits
      constructor
      · intro ok
        cases ok
        omega
      · rintro ⟨_, _, rfl⟩
        rfl
    · constructor
      · intro ok
        cases ok
      · omega

theorem requireSingle_eq_ok {single : Bool} {u : Unit} : requireSingle single = .ok u ↔ single = true := by
  cases single <;> simp [requireSingle]

theorem ubfGroupFieldCheck_eq_ok {single : Bool} {base offset occ : Int} :
    ubfGroupFieldCheck single base offset = .ok occ ↔
      single = true ∧ 0 ≤ base ∧ 0 ≤ offset ∧ base + offset ≤ i32Max ∧ occ = base + offset := by
  unfold ubfGroupFieldCheck
  cases single with
  | false => simp [requireSingle, bind, Except.bind]
  | true =>
      simp only [requireSingle, if_true, bind, Except.bind, true_and]
      cases checked : ubfOccurrence offset 0 with
      | error e =>
          simp only [reduceCtorEq, false_iff]
          rintro ⟨based, placed, fits, -⟩
          have : ubfOccurrence offset 0 = .ok (offset + (0 : Nat)) :=
            ubfOccurrence_eq_ok.2 ⟨placed, by unfold i32Max at *; omega, rfl⟩
          rw [this] at checked
          cases checked
      | ok _ =>
          have placed := (ubfOccurrence_eq_ok.1 checked).1
          simp only [ubfOccurrence_eq_ok]
          unfold i32Max
          omega

end Endurox.Ubf
