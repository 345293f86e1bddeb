/-
# Ubf.Strips -- what a successful write does

A write of a value lays strips into the columns of the buffer: which ones follows from the
type and the value alone (`structScript`), in the order the writer makes them.  A write
that succeeds has done exactly that (`serialize_ran`).  What it has checked on the way, a
read will check again: for each kind of write one lemma says what it has passed.

What a nested struct leaves is what its own script makes of an empty buffer.
-/
import Endurox.Ubf.Success

namespace Endurox.Ubf

open Endurox.Theory
open Endurox.Typed (BFLDID UbfFieldType UbfError UbfCode)

set_option autoImplicit false

/-! ## Scripts -/

/-- What is written, strip by strip, in the order it is written. -/
abbrev Script := List (Strip BFLDID Datum)

/-- What gaps in a field are filled with. -/
abbrev padding (f : BFLDID) : Datum := placeholder f.type

def Script.onto (script : Script) (fields : Buffer) : Buffer := Strip.applyAll padding script fields

@[simp] theorem Script.onto_nil (fields : Buffer) : Script.onto [] fields = fields := rfl

theorem Script.onto_append (first later : Script) (fields : Buffer) :
    Script.onto (first ++ later) fields = later.onto (first.onto fields) :=
  Strip.applyAll_append padding first later fields

/-- A run, and nothing behind it. -/
theorem apply_cut (f : BFLDID) (start : Nat) (data : List Datum) (fields : Buffer) :
    Strip.apply padding ⟨f, start, data, true⟩ fields =
      truncate f (start + data.length) (changeAll (padding f) f start data fields) := rfl

/-! ## Scalars -/

/-- A scalar as it is handed over. -/
def sent : ScalarTy → Scalar → Option UbfValue
  | .int _ _, .int value => some (.Long value)
  | .bool, .bool value => some (.Long (if value then 1 else 0))
  | .float, .float bits => some (.Float bits)
  | .double, .double bits => some (.Double bits)
  | .string, .string text => some (.String text)
  | .carray, .carray bytes => some (.Carray bytes)
  | _, _ => none

section Fields

variable (N : Native) (f : BFLDID)

/-- A scalar in the field's representation. -/
def scalarBytes (type : ScalarTy) (value : Scalar) : Except UbfError (List UInt8) :=
  match sent type value with
  | some value => N.convert f.type value
  | none => .error illTyped

def scalarDatum (type : ScalarTy) (value : Scalar) : Datum :=
  match scalarBytes N f type value with
  | .ok bytes => .plain bytes
  | .error _ => padding f

/-- What a written scalar has passed. -/
structure ScalarWritten (type : ScalarTy) (value : Scalar) (occ : Int) : Prop where
  placed : 0 ≤ occ
  inside : ∀ min max, type = .int min max → occ ≤ i32Max
  plain : f.type ≠ .Ptr
  converted : ∃ bytes, scalarBytes N f type value = .ok bytes

variable {N f} {t t' : Target} {u : PUnit} {occ : Int}

theorem bchg_ran {value : UbfValue} (places : N.Places occ) (ran : Ran (bchg N f occ value) t u t') :
    f.type ≠ .Ptr ∧ 0 ≤ occ ∧ ∃ bytes, N.convert f.type value = .ok bytes ∧
      t'.fields = change (padding f) f occ.toNat (.plain bytes) t.fields := by
  obtain ⟨_, t₁, called, rest⟩ := ran_bind.1 ran
  obtain ⟨_, t₂, checked, rest⟩ := ran_bind.1 rest
  obtain ⟨plain, rfl⟩ := ran_throwIf.1 checked
  obtain ⟨bytes, t₃, given, put⟩ := ran_bind.1 rest
  obtain ⟨converted, rfl⟩ := ran_check.1 given
  obtain ⟨placed, written⟩ := putNative_ran places put
  exact ⟨plain, placed, bytes, converted, by rw [written, ran_native called]⟩

theorem writeInteger_ran {value : Int} (ran : Ran (writeInteger N f occ value) t u t') :
    occ ≤ i32Max ∧ f.type ≠ .Ptr ∧ 0 ≤ occ ∧ ∃ bytes, N.convert f.type (.Long value) = .ok bytes ∧
      t'.fields = change (padding f) f occ.toNat (.plain bytes) t.fields := by
  obtain ⟨_, t₁, checked, rest⟩ := ran_bind.1 ran
  obtain ⟨there, rfl⟩ := ran_check.1 checked
  obtain ⟨first, last, -⟩ := ubfOccurrence_eq_ok.1 there
  have inside : occ ≤ i32Max := by omega
  obtain ⟨_, t₂, called, rest⟩ := ran_bind.1 rest
  obtain ⟨_, t₃, fits, changed⟩ := ran_bind.1 rest
  obtain ⟨-, rfl⟩ := ran_throwIf.1 fits
  obtain ⟨plain, placed, bytes, converted, written⟩ := bchg_ran (.inl first) changed
  exact ⟨inside, plain, placed, bytes, converted, by rw [written, ran_native called]⟩

/-- **A scalar** is put where it belongs. -/
theorem writeScalar_ran {type : ScalarTy} {value : Scalar} (places : N.Places occ)
    (ran : Ran (writeScalar N f occ type value) t u t') :
    ScalarWritten N f type value occ ∧
      t'.fields = change (padding f) f occ.toNat (scalarDatum N f type value) t.fields := by
  have done : ∀ {x : UbfValue}, sent type value = some x → (∀ min max, type = .int min max → occ ≤ i32Max) →
      (f.type ≠ .Ptr ∧ 0 ≤ occ ∧ ∃ bytes, N.convert f.type x = .ok bytes ∧
        t'.fields = change (padding f) f occ.toNat (.plain bytes) t.fields) →
      ScalarWritten N f type value occ ∧
        t'.fields = change (padding f) f occ.toNat (scalarDatum N f type value) t.fields := by
    rintro x given inside ⟨plain, placed, bytes, converted, written⟩
    have bytes_eq : scalarBytes N f type value = .ok bytes := by rw [scalarBytes, given, ← converted]
    exact ⟨⟨placed, inside, plain, bytes, bytes_eq⟩, by rw [written, scalarDatum, bytes_eq]⟩
  unfold writeScalar at ran
  split at ran
  · obtain ⟨_, t₁, ranged, rest⟩ := ran_bind.1 ran
    obtain ⟨-, rfl⟩ := ran_throwIf.1 ranged
    obtain ⟨_, t₂, fits, rest⟩ := ran_bind.1 rest
    obtain ⟨-, rfl⟩ := ran_throwIf.1 fits
    obtain ⟨inside, changed⟩ := writeInteger_ran rest
    exact done rfl (fun _ _ _ => inside) changed
  · exact done rfl (fun _ _ other => nomatch other) (writeInteger_ran ran).2
  · exact done rfl (fun _ _ other => nomatch other) (bchg_ran places ran)
  · exact done rfl (fun _ _ other => nomatch other) (bchg_ran places ran)
  · exact done rfl (fun _ _ other => nomatch other) (bchg_ran places ran)
  · exact done rfl (fun _ _ other => nomatch other) (bchg_ran places ran)
  · exact absurd ran ran_throw

end Fields

/-! ## One after another -/

section Each

variable {write : Value → Int → Writing PUnit} {occ : Int}

/-- Each element was written where it belongs. -/
theorem writeEach_each : ∀ (values : List Value) (index : Nat) {t t' : Target} {u : PUnit},
    Ran (writeEach write occ index values) t u t' → ∀ (i : Nat) (value : Value), values[i]? = some value →
      ubfOccurrence occ (index + i) = .ok (occ + (index + i : Nat)) ∧
        ∃ s s', Ran (write value (occ + (index + i : Nat))) s ⟨⟩ s'
  | [], _, _, _, _, _, _, _, there => nomatch there
  | first :: values, index, t, t', u, ran, i, value, there => by
      obtain ⟨element, t₁, checked, rest⟩ := ran_bind.1 ran
      obtain ⟨placed, rfl⟩ := ran_check.1 checked
      obtain ⟨_, t₂, wrote, rest⟩ := ran_bind.1 rest
      cases i with
      | zero =>
          obtain rfl := Option.some.inj there
          obtain ⟨-, -, rfl⟩ := ubfOccurrence_eq_ok.1 placed
          exact ⟨placed, t, t₂, wrote⟩
      | succ i =>
          have later := writeEach_each values (index + 1) rest i value there
          rw [show index + 1 + i = index + (i + 1) by omega] at later
          exact later

/-- **Elements of one occurrence each** make a run. -/
theorem writeEach_ran {f : BFLDID} {datum : Value → Datum}
    (each : ∀ value slot (t t' : Target), 0 ≤ slot → Ran (write value slot) t ⟨⟩ t' →
      t'.fields = change (padding f) f slot.toNat (datum value) t.fields) :
    ∀ (values : List Value) (index : Nat) {t t' : Target} {u : PUnit},
      Ran (writeEach write occ index values) t u t' →
      t'.fields = changeAll (padding f) f (occ.toNat + index) (values.map datum) t.fields
  | [], _, _, _, _, ran => by
      obtain ⟨-, rfl⟩ := ran_pure.1 ran
      rfl
  | value :: values, index, t, t', u, ran => by
      obtain ⟨element, t₁, checked, rest⟩ := ran_bind.1 ran
      obtain ⟨placed, rfl⟩ := ran_check.1 checked
      obtain ⟨first, -, rfl⟩ := ubfOccurrence_eq_ok.1 placed
      obtain ⟨_, t₂, wrote, rest⟩ := ran_bind.1 rest
      rw [writeEach_ran each values (index + 1) rest, each value _ _ _ (by omega) wrote,
        show (occ + (index : Int)).toNat = occ.toNat + index by omega]
      rfl

end Each

/-! ## Fields -/

section Fields

variable (N : Native) (f : BFLDID)

/-- The one occurrence of a value that has one. -/
def fieldDatum : FieldTy → Value → Datum
  | .scalar type, .scalar value => scalarDatum N f type value
  | _, _ => padding f

/-- What a member's value leaves in its field. -/
def fieldStrip : FieldTy → Value → Nat → Strip BFLDID Datum
  | .scalar type, value, start => ⟨f, start, [fieldDatum N f (.scalar type) value], false⟩
  | .option type, .some value, start => ⟨f, start, [fieldDatum N f type value], false⟩
  | .option _, _, start => ⟨f, start, [], true⟩
  | .vec type, .list values, start => ⟨f, start, values.map (fieldDatum N f type), true⟩
  | .array _ type, .list values, start => ⟨f, start, values.map (fieldDatum N f type), false⟩
  | _, _, start => ⟨f, start, [], false⟩

variable {N f} {type : FieldTy} {value : Value} {occ : Int} {t t' : Target} {u : PUnit}

theorem FieldTy.single_eq (single : type.single = true) : ∃ scalar, type = .scalar scalar := by
  cases type with
  | scalar scalar => exact ⟨scalar, rfl⟩
  | _ => exact nomatch single

theorem writeField_scalar_ran {scalar : ScalarTy} (ran : Ran (writeField N f (.scalar scalar) value occ) t u t') :
    ∃ held, value = .scalar held ∧ Ran (writeScalar N f occ scalar held) t u t' := by
  cases value with
  | scalar held => exact ⟨held, rfl, ran⟩
  | _ => exact absurd ran ran_throw

/-- An optional field holds one scalar, or is cleared. -/
theorem writeField_option_ran (ran : Ran (writeField N f (.option type) value occ) t u t') :
    type.single = true ∧ 0 ≤ occ ∧ occ ≤ i32Max ∧
      ((∃ held, value = .some held ∧ Ran (writeField N f type held occ) t u t') ∨
        value = .none ∧ Ran (clearFrom f occ) t u t') := by
  unfold writeField at ran
  obtain ⟨_, t₁, checked, rest⟩ := ran_bind.1 ran
  obtain ⟨placed, rfl⟩ := ran_check.1 checked
  obtain ⟨first, inside, -⟩ := ubfOccurrence_eq_ok.1 placed
  obtain ⟨_, t₂, required, rest⟩ := ran_bind.1 rest
  obtain ⟨single, rfl⟩ := ran_check.1 required
  refine ⟨requireSingle_eq_ok.1 single, first, by omega, ?_⟩
  cases value with
  | some held => exact .inl ⟨held, rfl, rest⟩
  | none => exact .inr ⟨rfl, rest⟩
  | _ => exact absurd rest ran_throw

theorem writeField_vec_ran (ran : Ran (writeField N f (.vec type) value occ) t u t') :
    ∃ values, value = .list values ∧ type.single = true ∧ 0 ≤ occ ∧ occ + values.length ≤ i32Max ∧
      ∃ t₁, Ran (writeEach (writeField N f type) occ 0 values) t ⟨⟩ t₁ ∧
        Ran (clearFrom f (occ + values.length)) t₁ u t' := by
  cases value with
  | list values =>
      obtain ⟨_, t₁, required, rest⟩ := ran_bind.1 ran
      obtain ⟨single, rfl⟩ := ran_check.1 required
      obtain ⟨last, t₂, checked, rest⟩ := ran_bind.1 rest
      obtain ⟨placed, rfl⟩ := ran_check.1 checked
      obtain ⟨first, inside, rfl⟩ := ubfOccurrence_eq_ok.1 placed
      obtain ⟨_, t₃, wrote, cleared⟩ := ran_bind.1 rest
      exact ⟨values, rfl, requireSingle_eq_ok.1 single, first, inside, t₃, wrote, cleared⟩
  | _ => exact absurd ran ran_throw

theorem writeField_array_ran {size : Nat} (ran : Ran (writeField N f (.array size type) value occ) t u t') :
    ∃ values, value = .list values ∧ values.length = size ∧ type.single = true ∧ 0 ≤ occ ∧
      occ + size ≤ i32Max ∧ Ran (writeEach (writeField N f type) occ 0 values) t u t' := by
  cases value with
  | list values =>
      obtain ⟨_, t₁, counted, rest⟩ := ran_bind.1 ran
      obtain ⟨length, rfl⟩ := ran_throwIf.1 counted
      obtain ⟨_, t₂, required, rest⟩ := ran_bind.1 rest
      obtain ⟨single, rfl⟩ := ran_check.1 required
      obtain ⟨last, t₃, checked, rest⟩ := ran_bind.1 rest
      obtain ⟨placed, rfl⟩ := ran_check.1 checked
      obtain ⟨first, inside, -⟩ := ubfOccurrence_eq_ok.1 placed
      exact ⟨values, rfl, not_not.1 length, requireSingle_eq_ok.1 single, first, inside, rest⟩
  | _ => exact absurd ran ran_throw

theorem writeField_single_ran (single : type.single = true) (places : N.Places occ)
    (ran : Ran (writeField N f type value occ) t u t') :
    0 ≤ occ ∧ t'.fields = change (padding f) f occ.toNat (fieldDatum N f type value) t.fields := by
  obtain ⟨scalar, rfl⟩ := FieldTy.single_eq single
  obtain ⟨held, rfl, wrote⟩ := writeField_scalar_ran ran
  obtain ⟨written, changed⟩ := writeScalar_ran places wrote
  exact ⟨written.placed, changed⟩

theorem writeField_each_ran {values : List Value} (single : type.single = true)
    (ran : Ran (writeEach (writeField N f type) occ 0 values) t u t') :
    t'.fields = changeAll (padding f) f occ.toNat (values.map (fieldDatum N f type)) t.fields := by
  have each : ∀ value slot (t t' : Target), 0 ≤ slot → Ran (writeField N f type value slot) t ⟨⟩ t' →
      t'.fields = change (padding f) f slot.toNat (fieldDatum N f type value) t.fields :=
    fun _ _ _ _ placed wrote => (writeField_single_ran single (.inl placed) wrote).2
  exact writeEach_ran each values 0 ran

/-- **A field's write** lays its strip. -/
theorem writeField_ran (places : N.Places occ) (ran : Ran (writeField N f type value occ) t u t') :
    0 ≤ occ ∧ t'.fields = (fieldStrip N f type value occ.toNat).apply padding t.fields := by
  cases type with
  | scalar scalar =>
      obtain ⟨placed, changed⟩ := writeField_single_ran rfl places ran
      exact ⟨placed, changed⟩
  | option type =>
      obtain ⟨single, placed, -, ⟨held, rfl, wrote⟩ | ⟨rfl, cleared⟩⟩ := writeField_option_ran ran
      · exact writeField_single_ran single places wrote
      · obtain ⟨-, cut⟩ := clearFrom_ran cleared
        exact ⟨placed, cut⟩
  | vec type =>
      obtain ⟨values, rfl, single, placed, -, t₁, wrote, cleared⟩ := writeField_vec_ran ran
      obtain ⟨-, cut⟩ := clearFrom_ran cleared
      refine ⟨placed, ?_⟩
      rw [cut, writeField_each_ran single wrote, fieldStrip, apply_cut, List.length_map,
        show (occ + (values.length : Int)).toNat = occ.toNat + values.length by omega]
  | array size type =>
      obtain ⟨values, rfl, -, single, placed, -, wrote⟩ := writeField_array_ran ran
      exact ⟨placed, writeField_each_ran single wrote⟩

end Fields

/-! ## Mapped structs -/

theorem requireFieldType_eq_ok {f : BFLDID} {want : UbfFieldType} {what : String} {u : Unit} :
    requireFieldType f want what = .ok u ↔ f.type = want := by
  unfold requireFieldType
  by_cases same : f.type = want <;> simp [same]

theorem mappedField_eq_ok {m : Mapping} {f : BFLDID} {occ : Int} {u : Unit} :
    mappedField m f occ = .ok u ↔ 0 ≤ occ ∧ occ ≤ i32Max ∧ f.type = m.fieldType := by
  unfold mappedField
  rw [bind_ok]
  simp only [requireFieldType_eq_ok, ubfOccurrence_eq_ok]
  constructor
  · rintro ⟨_, ⟨placed, inside, -⟩, type⟩
    exact ⟨placed, by omega, type⟩
  · rintro ⟨placed, inside, type⟩
    exact ⟨_, ⟨placed, by omega, rfl⟩, type⟩

section Mapped

variable (N : Native) (image : StructId → Value → Buffer) (m : Mapping) (f : BFLDID)

/-- A struct in the representation its mapping gives it; `image` is what a nested buffer holds. -/
def baseDatum (id : StructId) (value : Value) : Datum :=
  match m with
  | .EmbeddedUbf => .ubf (image id value)
  | .PointerUbf => .ptrUbf (image id value)
  | .EmbeddedView =>
      match N.viewWrite id value with
      | .ok data => .view (N.viewName id) data
      | .error _ => padding f
  | .PointerView =>
      match N.viewWrite id value with
      | .ok data => .ptrView (N.viewName id) data
      | .error _ => padding f

/-- The one occurrence of a value that has one: a `None` keeps its place. -/
def mappedDatum : MappedTy → Value → Datum
  | .base id, value => baseDatum N image m f id value
  | .option type, .some value => mappedDatum type value
  | _, _ => padding f

/-- What a member's value leaves in its field. -/
def mappedStrip : MappedTy → Value → Nat → Strip BFLDID Datum
  | .base id, value, start => ⟨f, start, [baseDatum N image m f id value], false⟩
  | .option type, .some value, start => ⟨f, start, [mappedDatum N image m f type value], false⟩
  | .option _, _, start => ⟨f, start, [], true⟩
  | .vec type, .list values, start => ⟨f, start, values.map (mappedDatum N image m f type), true⟩
  | .array _ type, .list values, start => ⟨f, start, values.map (mappedDatum N image m f type), false⟩
  | _, _, start => ⟨f, start, [], false⟩

variable {N image m f} {child : StructId → Value → Writing PUnit} {type : MappedTy} {value : Value} {occ : Int}
  {t t' : Target} {u : PUnit}

/-- What a struct's write has passed, and what it put into its field. -/
inductive BaseWritten (N : Native) (child : StructId → Value → Writing PUnit) (id : StructId) (value : Value) :
    Mapping → Datum → Prop
  | embedded {s s' : Target} : s.fields = [] → Ran (child id value) s ⟨⟩ s' →
      BaseWritten N child id value .EmbeddedUbf (.ubf s'.fields)
  | pointed {s s' : Target} : s.fields = [] → Ran (child id value) s ⟨⟩ s' →
      BaseWritten N child id value .PointerUbf (.ptrUbf s'.fields)
  | view {data : List UInt8} : N.viewWrite id value = .ok data →
      BaseWritten N child id value .EmbeddedView (.view (N.viewName id) data)
  | viewPointed {data : List UInt8} : N.viewWrite id value = .ok data →
      BaseWritten N child id value .PointerView (.ptrView (N.viewName id) data)

theorem writeBase_written {id : StructId} (ran : Ran (writeBase N child m f id value occ) t u t') :
    0 ≤ occ ∧ occ ≤ i32Max ∧ f.type = m.fieldType ∧ ∃ datum, BaseWritten N child id value m datum ∧
      t'.fields = change (padding f) f occ.toNat datum t.fields := by
  obtain ⟨_, t₁, checked, rest⟩ := ran_bind.1 ran
  obtain ⟨mapped, rfl⟩ := ran_check.1 checked
  obtain ⟨placed, inside, typed⟩ := mappedField_eq_ok.1 mapped
  refine ⟨placed, inside, typed, ?_⟩
  cases m with
  | EmbeddedUbf =>
      obtain ⟨fields, t₂, inner, rest⟩ := ran_bind.1 rest
      obtain ⟨kept, s, s', ⟨⟩, empty, wrote, rfl⟩ := nested_ran inner
      obtain ⟨_, t₃, called, rest⟩ := ran_bind.1 rest
      obtain ⟨_, t₄, allowed, put⟩ := ran_bind.1 rest
      obtain ⟨-, rfl⟩ := ran_throwIf.1 allowed
      exact ⟨_, .embedded empty wrote, by rw [(putNative_ran (.inl placed) put).2, ran_native called, kept]⟩
  | PointerUbf =>
      obtain ⟨fields, t₂, inner, put⟩ := ran_bind.1 rest
      obtain ⟨kept, s, s', ⟨⟩, empty, wrote, rfl⟩ := nested_ran inner
      exact ⟨_, .pointed empty wrote, by rw [(putNative_ran (.inl placed) put).2, kept]⟩
  | EmbeddedView =>
      obtain ⟨_, t₂, called, rest⟩ := ran_bind.1 rest
      obtain ⟨data, t₃, given, rest⟩ := ran_bind.1 rest
      obtain ⟨laid, rfl⟩ := ran_check.1 given
      obtain ⟨_, t₄, named, put⟩ := ran_bind.1 rest
      obtain ⟨-, rfl⟩ := ran_throwIf.1 named
      exact ⟨_, .view laid, by rw [(putNative_ran (.inl placed) put).2, ran_native called]⟩
  | PointerView =>
      obtain ⟨_, t₂, called, rest⟩ := ran_bind.1 rest
      obtain ⟨data, t₃, given, put⟩ := ran_bind.1 rest
      obtain ⟨laid, rfl⟩ := ran_check.1 given
      exact ⟨_, .viewPointed laid, by rw [(putNative_ran (.inl placed) put).2, ran_native called]⟩

/-- A `None` among elements is a placeholder. -/
theorem putNullComplex_ran (placed : 0 ≤ occ) (ran : Ran (putNullComplex N f occ) t u t') :
    t'.fields = change (padding f) f occ.toNat (padding f) t.fields := by
  obtain ⟨_, t₁, called, rest⟩ := ran_bind.1 ran
  obtain ⟨_, t₂, checked, put⟩ := ran_bind.1 rest
  obtain ⟨-, rfl⟩ := ran_throwIf.1 checked
  rw [(putNative_ran (.inl placed) put).2, ran_native called]

theorem writeVec_ran {single : Bool} {element : Value → Int → Writing PUnit} {values : List Value}
    (ran : Ran (writeVec m f single element values occ) t u t') :
    f.type = m.fieldType ∧ single = true ∧ 0 ≤ occ ∧ occ + values.length ≤ i32Max ∧
      ∃ t₁, Ran (writeEach element occ 0 values) t ⟨⟩ t₁ ∧ Ran (clearFrom f (occ + values.length)) t₁ u t' := by
  obtain ⟨_, t₁, checked, rest⟩ := ran_bind.1 ran
  obtain ⟨mapped, rfl⟩ := ran_check.1 checked
  obtain ⟨_, t₂, required, rest⟩ := ran_bind.1 rest
  obtain ⟨wide, rfl⟩ := ran_check.1 required
  obtain ⟨last, t₃, bounded, rest⟩ := ran_bind.1 rest
  obtain ⟨fits, rfl⟩ := ran_check.1 bounded
  obtain ⟨placed, inside, rfl⟩ := ubfOccurrence_eq_ok.1 fits
  obtain ⟨_, t₄, wrote, cleared⟩ := ran_bind.1 rest
  exact ⟨(mappedField_eq_ok.1 mapped).2.2, requireSingle_eq_ok.1 wide, placed, inside, t₄, wrote, cleared⟩

theorem writeArray_ran {single : Bool} {element : Value → Int → Writing PUnit} {size : Nat} {values : List Value}
    (ran : Ran (writeArray m f single element size values occ) t u t') :
    values.length = size ∧ f.type = m.fieldType ∧ single = true ∧ 0 ≤ occ ∧ occ + size ≤ i32Max ∧
      Ran (writeEach element occ 0 values) t u t' := by
  obtain ⟨_, t₁, counted, rest⟩ := ran_bind.1 ran
  obtain ⟨length, rfl⟩ := ran_throwIf.1 counted
  obtain ⟨_, t₂, checked, rest⟩ := ran_bind.1 rest
  obtain ⟨mapped, rfl⟩ := ran_check.1 checked
  obtain ⟨_, t₃, required, rest⟩ := ran_bind.1 rest
  obtain ⟨wide, rfl⟩ := ran_check.1 required
  obtain ⟨last, t₄, bounded, rest⟩ := ran_bind.1 rest
  obtain ⟨fits, rfl⟩ := ran_check.1 bounded
  obtain ⟨placed, inside, -⟩ := ubfOccurrence_eq_ok.1 fits
  exact ⟨not_not.1 length, (mappedField_eq_ok.1 mapped).2.2, requireSingle_eq_ok.1 wide, placed, inside, rest⟩

/-- A type of one occurrence that is not optional is a struct. -/
theorem MappedTy.base_of (plain : (type.single m && !type.optional) = true) : ∃ id, type = .base id := by
  cases type with
  | base id => exact ⟨id, rfl⟩
  | _ => simp [MappedTy.single, MappedTy.optional] at plain

theorem writeMapped_option_ran (ran : Ran (writeMapped N child m f (.option type) value occ) t u t') :
    f.type = m.fieldType ∧ 0 ≤ occ ∧ occ ≤ i32Max ∧ (∃ id, type = .base id ∧
      ((∃ held, value = .some held ∧ Ran (writeBase N child m f id held occ) t u t') ∨
        value = .none ∧ Ran (clearFrom f occ) t u t')) := by
  unfold writeMapped at ran
  obtain ⟨_, t₁, checked, rest⟩ := ran_bind.1 ran
  obtain ⟨mapped, rfl⟩ := ran_check.1 checked
  obtain ⟨placed, inside, typed⟩ := mappedField_eq_ok.1 mapped
  obtain ⟨_, t₂, required, rest⟩ := ran_bind.1 rest
  obtain ⟨plain, rfl⟩ := ran_check.1 required
  obtain ⟨id, rfl⟩ := MappedTy.base_of (requireSingle_eq_ok.1 plain)
  refine ⟨typed, placed, inside, id, rfl, ?_⟩
  cases value with
  | some held => exact .inl ⟨held, rfl, rest⟩
  | none => exact .inr ⟨rfl, rest⟩
  | _ => exact absurd rest ran_throw

theorem writeOccurrence_option_ran (ran : Ran (writeOccurrence N child m f (.option type) value occ) t u t') :
    (m.fieldType = .Ptr ∨ m.fieldType = .View) ∧ f.type = m.fieldType ∧ 0 ≤ occ ∧ occ ≤ i32Max ∧
      (∃ id, type = .base id ∧
        ((∃ held, value = .some held ∧ Ran (writeBase N child m f id held occ) t u t') ∨
          value = .none ∧ Ran (putNullComplex N f occ) t u t')) := by
  unfold writeOccurrence at ran
  obtain ⟨_, t₁, checked, rest⟩ := ran_bind.1 ran
  obtain ⟨mapped, rfl⟩ := ran_check.1 checked
  obtain ⟨placed, inside, typed⟩ := mappedField_eq_ok.1 mapped
  obtain ⟨_, t₂, required, rest⟩ := ran_bind.1 rest
  obtain ⟨plain, rfl⟩ := ran_check.1 required
  have wide := requireSingle_eq_ok.1 plain
  rw [Bool.and_assoc, Bool.and_eq_true] at wide
  obtain ⟨id, rfl⟩ := MappedTy.base_of wide.2
  refine ⟨by simpa [MappedTy.single] using wide.1, typed, placed, inside, id, rfl, ?_⟩
  cases value with
  | some held => exact .inl ⟨held, rfl, rest⟩
  | none => exact .inr ⟨rfl, rest⟩
  | _ => exact absurd rest ran_throw

/-- Writes of nested structs make these images of empty buffers. -/
def Makes (child : StructId → Value → Writing PUnit) (image : StructId → Value → Buffer) : Prop :=
  ∀ id value (t t' : Target), t.fields = [] → Ran (child id value) t ⟨⟩ t' → t'.fields = image id value

theorem BaseWritten.datum_eq {id : StructId} {datum : Datum} (makes : Makes child image)
    (written : BaseWritten N child id value m datum) : datum = baseDatum N image m f id value := by
  cases written with
  | embedded empty wrote => rw [baseDatum, makes _ _ _ _ empty wrote]
  | pointed empty wrote => rw [baseDatum, makes _ _ _ _ empty wrote]
  | view laid => rw [baseDatum, laid]
  | viewPointed laid => rw [baseDatum, laid]

theorem writeBase_ran {id : StructId} (makes : Makes child image)
    (ran : Ran (writeBase N child m f id value occ) t u t') :
    t'.fields = change (padding f) f occ.toNat (baseDatum N image m f id value) t.fields := by
  obtain ⟨-, -, -, datum, written, changed⟩ := writeBase_written ran
  rw [changed, written.datum_eq makes]

/-- **An element** is put where it belongs. -/
theorem writeOccurrence_ran (makes : Makes child image) (single : type.single m = true)
    (ran : Ran (writeOccurrence N child m f type value occ) t u t') :
    t'.fields = change (padding f) f occ.toNat (mappedDatum N image m f type value) t.fields := by
  cases type with
  | base id => exact writeBase_ran makes ran
  | option type =>
      obtain ⟨-, -, placed, -, id, rfl, ⟨held, rfl, wrote⟩ | ⟨rfl, put⟩⟩ := writeOccurrence_option_ran ran
      · exact writeBase_ran makes wrote
      · exact putNullComplex_ran placed put
  | _ => exact nomatch single

theorem writeOccurrence_each_ran {values : List Value} (makes : Makes child image) (single : type.single m = true)
    (ran : Ran (writeEach (writeOccurrence N child m f type) occ 0 values) t u t') :
    t'.fields = changeAll (padding f) f occ.toNat (values.map (mappedDatum N image m f type)) t.fields := by
  have each : ∀ value slot (t t' : Target), 0 ≤ slot → Ran (writeOccurrence N child m f type value slot) t ⟨⟩ t' →
      t'.fields = change (padding f) f slot.toNat (mappedDatum N image m f type value) t.fields :=
    fun _ _ _ _ _ wrote => writeOccurrence_ran makes single wrote
  exact writeEach_ran each values 0 ran

theorem writeMapped_vec_ran (ran : Ran (writeMapped N child m f (.vec type) value occ) t u t') :
    ∃ values, value = .list values ∧
      Ran (writeVec m f (type.single m) (writeOccurrence N child m f type) values occ) t u t' := by
  cases value with
  | list values => exact ⟨values, rfl, ran⟩
  | _ => exact absurd ran ran_throw

theorem writeMapped_array_ran {size : Nat} (ran : Ran (writeMapped N child m f (.array size type) value occ) t u t') :
    ∃ values, value = .list values ∧
      Ran (writeArray m f (type.single m) (writeOccurrence N child m f type) size values occ) t u t' := by
  cases value with
  | list values => exact ⟨values, rfl, ran⟩
  | _ => exact absurd ran ran_throw

/-- **A mapped member's write** lays its strip. -/
theorem writeMapped_ran (makes : Makes child image) (ran : Ran (writeMapped N child m f type value occ) t u t') :
    0 ≤ occ ∧ t'.fields = (mappedStrip N image m f type value occ.toNat).apply padding t.fields := by
  cases type with
  | base id =>
      obtain ⟨placed, -⟩ := writeBase_written ran
      exact ⟨placed, writeBase_ran makes ran⟩
  | option type =>
      obtain ⟨-, placed, -, id, rfl, ⟨held, rfl, wrote⟩ | ⟨rfl, cleared⟩⟩ := writeMapped_option_ran ran
      · exact ⟨placed, writeBase_ran makes wrote⟩
      · exact ⟨placed, (clearFrom_ran cleared).2⟩
  | vec type =>
      obtain ⟨values, rfl, wrote⟩ := writeMapped_vec_ran ran
      obtain ⟨-, single, placed, -, t₁, each, cleared⟩ := writeVec_ran wrote
      obtain ⟨-, cut⟩ := clearFrom_ran cleared
      refine ⟨placed, ?_⟩
      rw [cut, writeOccurrence_each_ran makes single each, mappedStrip, apply_cut, List.length_map,
        show (occ + (values.length : Int)).toNat = occ.toNat + values.length by omega]
  | array size type =>
      obtain ⟨values, rfl, wrote⟩ := writeMapped_array_ran ran
      obtain ⟨-, -, single, placed, -, each⟩ := writeArray_ran wrote
      exact ⟨placed, writeOccurrence_each_ran makes single each⟩

end Mapped

/-! ## Groups -/

section Group

variable (N : Native) (image : StructId → Value → Buffer)

/-- The occurrence a row's member has. -/
def Placed.datum : Placed → Value → Datum
  | .skip, _ => .plain []
  | .field f _ type _, value => fieldDatum N f type value
  | .mapped m f _ type _, value => mappedDatum N image m f type value

/-- Values of one member, in rows from `base` on. -/
def placedStrips (base : Nat) (placed : Placed) (values : List Value) (cut : Bool) : Script :=
  match placed.field? with
  | none => []
  | some (f, occ) => [⟨f, base + occ.toNat, values.map (placed.datum N image), cut⟩]

def rowScript (base : Nat) : List (String × Placed) → List Value → Script
  | (_, placed) :: members, value :: values =>
      placedStrips N image base placed [value] false ++ rowScript base members values
  | _, _ => []

def clearScript (base : Nat) : List (String × Placed) → Script
  | [] => []
  | (_, placed) :: members => placedStrips N image base placed [] true ++ clearScript base members

/-- The members of a row. -/
def rowValues : Value → List Value
  | .struct values => values
  | _ => []

/-- Row by row. -/
def rowsScript (members : List (String × Placed)) : Nat → List Value → Script
  | _, [] => []
  | base, row :: rows => rowScript N image base members (rowValues row) ++ rowsScript members (base + 1) rows

def groupScript (g : GroupDecl) (base : Nat) : GroupTy → Value → Script
  | .one _, row => rowScript N image base g.members (rowValues row)
  | .vec _, .list rows =>
      rowsScript N image g.members base rows ++ clearScript N image (base + rows.length) g.members
  | .array _ _, .list rows => rowsScript N image g.members base rows
  | _, _ => []

variable {N image} {child : StructId → Value → Writing PUnit} {g : GroupDecl} {base : Int} {t t' : Target}
  {u : PUnit}

theorem groupSlot_ran {occ slot : Int} (ran : Ran (check (ubfGroupFieldCheck true base occ)) t slot t') :
    t' = t ∧ 0 ≤ base ∧ 0 ≤ occ ∧ slot = base + occ := by
  obtain ⟨checked, rfl⟩ := ran_check.1 ran
  obtain ⟨-, based, placed, -, rfl⟩ := ubfGroupFieldCheck_eq_ok.1 checked
  exact ⟨rfl, based, placed, rfl⟩

theorem writePlacedAt_ran {placed : Placed} {value : Value} (makes : Makes child image)
    (single : ∀ wide occ, placed.slot = some (wide, occ) → wide = true)
    (ran : Ran (writePlacedAt N child base value placed) t u t') :
    t'.fields = (placedStrips N image base.toNat placed [value] false).onto t.fields := by
  cases placed with
  | skip =>
      obtain ⟨-, rfl⟩ := ran_pure.1 ran
      rfl
  | field f occ type default =>
      obtain ⟨slot, t₁, checked, wrote⟩ := ran_bind.1 ran
      obtain ⟨rfl, based, placed, rfl⟩ := groupSlot_ran checked
      obtain ⟨-, changed⟩ := writeField_single_ran (single _ _ rfl) (.inl (Int.add_nonneg based placed)) wrote
      rw [changed, Int.toNat_add based placed]
      rfl
  | mapped m f occ type default =>
      obtain ⟨slot, t₁, checked, wrote⟩ := ran_bind.1 ran
      obtain ⟨rfl, based, placed, rfl⟩ := groupSlot_ran checked
      rw [writeOccurrence_ran makes (single _ _ rfl) wrote, Int.toNat_add based placed]
      rfl

theorem writeRow_ran {name : String} (makes : Makes child image) :
    ∀ (members : List (String × Placed)) (values : List Value) {t t' : Target} {u : PUnit},
      Slots base members → Ran (writeRow N child name base members values) t u t' →
      members.length = values.length ∧ t'.fields = (rowScript N image base.toNat members values).onto t.fields
  | [], [], _, _, _, _, ran => by
      obtain ⟨-, rfl⟩ := ran_pure.1 ran
      exact ⟨rfl, rfl⟩
  | (member, placed) :: members, value :: values, t, t', u, slots, ran => by
      obtain ⟨_, t₁, first, rest⟩ := ran_bind.1 ran
      obtain ⟨length, later⟩ := writeRow_ran makes members values (List.forall_mem_of_forall_mem_cons slots) rest
      have wrote := writePlacedAt_ran makes (fun wide occ slot => (slots _ List.mem_cons_self wide occ slot).1)
        ((ran_labelled name member).1 first)
      exact ⟨congrArg Nat.succ length, by rw [later, wrote, rowScript, Script.onto_append]⟩
  | [], _ :: _, _, _, _, _, ran => absurd ran ran_throw
  | _ :: _, [], _, _, _, _, ran => absurd ran ran_throw

theorem writeAt_row_ran {value : Value} (ran : Ran (writeAt N child g value base) t u t') :
    validateGroup g base = .ok () ∧ ∃ values, value = .struct values ∧
      Ran (writeRow N child g.name base g.members values) t u t' := by
  obtain ⟨_, t₁, checked, rest⟩ := ran_bind.1 ran
  obtain ⟨valid, rfl⟩ := ran_check.1 checked
  refine ⟨valid, ?_⟩
  cases value with
  | struct values => exact ⟨values, rfl, rest⟩
  | _ => exact absurd rest ran_throw

theorem writeAt_ran {value : Value} (makes : Makes child image) (ran : Ran (writeAt N child g value base) t u t') :
    g.members.length = (rowValues value).length ∧
      t'.fields = (rowScript N image base.toNat g.members (rowValues value)).onto t.fields := by
  obtain ⟨valid, values, rfl, wrote⟩ := writeAt_row_ran ran
  exact writeRow_ran makes g.members values ((validateGroup_eq_ok g base).1 valid).2.2 wrote

theorem writeRows_ran (makes : Makes child image) : ∀ (rows : List Value) (index : Nat) {t t' : Target} {u : PUnit},
    Ran (writeEach (writeAt N child g) base index rows) t u t' →
    (∀ row ∈ rows, g.members.length = (rowValues row).length) ∧
      t'.fields = (rowsScript N image g.members (base.toNat + index) rows).onto t.fields
  | [], _, _, _, _, ran => by
      obtain ⟨-, rfl⟩ := ran_pure.1 ran
      exact ⟨List.forall_mem_nil _, rfl⟩
  | row :: rows, index, t, t', u, ran => by
      obtain ⟨element, t₁, checked, rest⟩ := ran_bind.1 ran
      obtain ⟨place, rfl⟩ := ran_check.1 checked
      obtain ⟨based, -, rfl⟩ := ubfOccurrence_eq_ok.1 place
      obtain ⟨_, t₂, wrote, rest⟩ := ran_bind.1 rest
      obtain ⟨length, first⟩ := writeAt_ran makes wrote
      obtain ⟨lengths, later⟩ := writeRows_ran makes rows (index + 1) rest
      refine ⟨List.forall_mem_cons.2 ⟨length, lengths⟩, ?_⟩
      rw [later, first, rowsScript, Script.onto_append, show (base + (index : Int)).toNat = base.toNat + index by omega]
      rfl

theorem clearRow_ran (N : Native) (image : StructId → Value → Buffer) {name : String} : ∀ (members : List (String × Placed)) {t t' : Target} {u : PUnit},
    Ran (clearRow name base members) t u t' →
    t'.fields = (clearScript N image base.toNat members).onto t.fields
  | [], _, _, _, ran => by
      obtain ⟨-, rfl⟩ := ran_pure.1 ran
      rfl
  | (member, placed) :: members, t, t', u, ran => by
      rw [clearScript, Script.onto_append, placedStrips]
      unfold clearRow at ran
      cases slot : placed.field? with
      | none =>
          simp only [slot] at ran
          exact clearRow_ran N image members ran
      | some place =>
          obtain ⟨f, occ⟩ := place
          simp only [slot] at ran
          obtain ⟨_, t₁, first, rest⟩ := ran_bind.1 ran
          obtain ⟨slot, t₂, checked, cleared⟩ := ran_bind.1 ((ran_labelled name member).1 first)
          obtain ⟨rfl, based, placed, rfl⟩ := groupSlot_ran checked
          rw [clearRow_ran N image members rest, (clearFrom_ran cleared).2, Int.toNat_add based placed]
          rfl

theorem writeVecGroup_rows_ran {rows : List Value} (ran : Ran (writeVecGroup N child g rows base) t u t') :
    ubfOccurrence base rows.length = .ok (base + rows.length) ∧ validateGroup g base = .ok () ∧
      validateGroup g (base + rows.length) = .ok () ∧
      ∃ t₁, Ran (writeEach (writeAt N child g) base 0 rows) t ⟨⟩ t₁ ∧
        Ran (clearGroup g (base + rows.length)) t₁ u t' := by
  obtain ⟨last, t₁, bounded, rest⟩ := ran_bind.1 ran
  obtain ⟨fits, rfl⟩ := ran_check.1 bounded
  obtain ⟨-, -, rfl⟩ := ubfOccurrence_eq_ok.1 fits
  obtain ⟨_, t₂, checked, rest⟩ := ran_bind.1 rest
  obtain ⟨first, rfl⟩ := ran_check.1 checked
  obtain ⟨_, t₃, checked, rest⟩ := ran_bind.1 rest
  obtain ⟨end_, rfl⟩ := ran_check.1 checked
  obtain ⟨_, t₄, wrote, cleared⟩ := ran_bind.1 rest
  exact ⟨fits, first, end_, t₄, wrote, cleared⟩

theorem writeArrayGroup_rows_ran {rows : List Value} (ran : Ran (writeArrayGroup N child g rows base) t u t') :
    validateGroup g base = .ok () ∧ (∃ last, ubfOccurrence base (rows.length - 1) = .ok last ∧
      validateGroup g last = .ok ()) ∧ Ran (writeEach (writeAt N child g) base 0 rows) t u t' := by
  obtain ⟨_, t₁, checked, rest⟩ := ran_bind.1 ran
  obtain ⟨first, rfl⟩ := ran_check.1 checked
  obtain ⟨last, t₂, bounded, rest⟩ := ran_bind.1 rest
  obtain ⟨fits, rfl⟩ := ran_check.1 bounded
  obtain ⟨_, t₃, checked, rest⟩ := ran_bind.1 rest
  obtain ⟨end_, rfl⟩ := ran_check.1 checked
  exact ⟨first, ⟨last, fits, end_⟩, rest⟩

/-- The rows a write is given: one for a plain member. -/
def groupRows : GroupTy → Value → List Value
  | .one _, row => [row]
  | _, .list rows => rows
  | _, _ => []

theorem writeVecGroup_ran {rows : List Value} (makes : Makes child image)
    (ran : Ran (writeVecGroup N child g rows base) t u t') :
    (∀ row ∈ rows, g.members.length = (rowValues row).length) ∧ t'.fields =
      (rowsScript N image g.members base.toNat rows ++
        clearScript N image (base.toNat + rows.length) g.members).onto t.fields := by
  obtain ⟨fits, -, -, t₁, wrote, clearing⟩ := writeVecGroup_rows_ran ran
  have based := (ubfOccurrence_eq_ok.1 fits).1
  obtain ⟨lengths, first⟩ := writeRows_ran makes rows 0 wrote
  obtain ⟨_, t₂, checked, cleared⟩ := ran_bind.1 clearing
  obtain ⟨-, rfl⟩ := ran_check.1 checked
  refine ⟨lengths, ?_⟩
  rw [clearRow_ran N image g.members cleared, first, Script.onto_append,
    show (base + (rows.length : Int)).toNat = base.toNat + rows.length by omega]
  rfl

theorem writeGroup_known {groups : List GroupDecl} {type : GroupTy} {value : Value}
    (ran : Ran (writeGroup N child groups base type value) t u t') : ∃ g, groups[type.id]? = some g := by
  unfold writeGroup at ran
  split at ran
  · exact absurd ran ran_throw
  · rename_i g known
    exact ⟨g, known⟩

/-- **A group's write** lays its rows, and clears behind a `Vec`. -/
theorem writeGroup_ran {groups : List GroupDecl} {type : GroupTy} {value : Value} (makes : Makes child image)
    (known : groups[type.id]? = some g) (ran : Ran (writeGroup N child groups base type value) t u t') :
    (∀ row ∈ groupRows type value, g.members.length = (rowValues row).length) ∧
      t'.fields = (groupScript N image g base.toNat type value).onto t.fields := by
  unfold writeGroup at ran
  rw [known] at ran
  cases type with
  | one id =>
      obtain ⟨length, wrote⟩ := writeAt_ran makes ran
      exact ⟨List.forall_mem_singleton.2 length, wrote⟩
  | vec id =>
      cases value with
      | list rows => exact writeVecGroup_ran makes ran
      | _ => exact absurd ran ran_throw
  | array size id =>
      cases value with
      | list rows =>
          obtain ⟨_, t₁, counted, rest⟩ := ran_bind.1 ran
          obtain ⟨-, rfl⟩ := ran_throwIf.1 counted
          obtain ⟨-, -, wrote⟩ := writeArrayGroup_rows_ran rest
          exact writeRows_ran makes rows 0 wrote
      | _ => exact absurd ran ran_throw

end Group

/-! ## Structs -/

/-- What makes a script of a group's value. -/
abbrev GroupScripts := GroupDecl → Nat → GroupTy → Value → Script

section Struct

variable (N : Native) (D : Decls) (image : StructId → Value → Buffer) (flat : StructId → Value → Script)
  (rows : GroupScripts)

def memberScript (value : Value) : Member → Script
  | .placed .skip => []
  | .placed (.field f occ type _) => [fieldStrip N f type value occ.toNat]
  | .placed (.mapped m f occ type _) => [mappedStrip N image m f type value occ.toNat]
  | .flatten id => flat id value
  | .group occ type =>
      match D.groups[type.id]? with
      | some g => rows g occ.toNat type value
      | none => []

def membersScript : List (String × Member) → List Value → Script
  | (_, member) :: members, value :: values =>
      memberScript N D image flat rows value member ++ membersScript members values
  | _, _ => []

end Struct

section Struct

variable (N : Native) (D : Decls)

/-- **What a struct's write writes**, in the order it is written. -/
def structScript : Nat → StructId → Value → Script
  | 0, _, _ => []
  | fuel + 1, id, value =>
      match D.structs[id]?, value with
      | some decl, .struct values =>
          membersScript N D (fun id value => (structScript fuel id value).onto []) (structScript fuel)
            (groupScript N fun id value => (structScript fuel id value).onto []) decl.members values
      | _, _ => []

/-- What an empty buffer holds afterwards. -/
def structImage (fuel : Nat) (id : StructId) (value : Value) : Buffer := (structScript N D fuel id value).onto []

variable {N D} {t t' : Target} {u : PUnit}

theorem serialize_struct_ran {fuel : Nat} {id : StructId} {value : Value}
    (ran : Ran (serialize N D (fuel + 1) id value) t u t') :
    ∃ decl values, D.structs[id]? = some decl ∧ value = .struct values ∧
      Ran (writeMembers N D (serialize N D fuel) decl.name decl.members values) t u t' := by
  unfold serialize at ran
  split at ran
  · rename_i decl values found
    exact ⟨decl, values, found, rfl, ran⟩
  · exact absurd ran ran_throw

theorem writeMember_ran {child : StructId → Value → Writing PUnit} {image : StructId → Value → Buffer}
    {flat : StructId → Value → Script} {value : Value} {member : Member} (makes : Makes child image)
    (lays : ∀ id value (t t' : Target), Ran (child id value) t ⟨⟩ t' → t'.fields = (flat id value).onto t.fields)
    (places : ∀ f occ type default, member = .placed (.field f occ type default) → N.Places occ)
    (ran : Ran (writeMember N D child value member) t u t') :
    t'.fields = (memberScript N D image flat (groupScript N image) value member).onto t.fields := by
  cases member with
  | placed placed =>
      cases placed with
      | skip =>
          obtain ⟨-, rfl⟩ := ran_pure.1 ran
          rfl
      | field f occ type default => exact (writeField_ran (places f occ type default rfl) ran).2
      | mapped m f occ type default => exact (writeMapped_ran makes ran).2
  | flatten id => exact lays id value t t' ran
  | group occ type =>
      obtain ⟨g, known⟩ := writeGroup_known ran
      simp only [memberScript, known]
      exact (writeGroup_ran makes known ran).2

theorem writeMembers_ran {child : StructId → Value → Writing PUnit} {image : StructId → Value → Buffer}
    {flat : StructId → Value → Script} {name : String} (makes : Makes child image)
    (lays : ∀ id value (t t' : Target), Ran (child id value) t ⟨⟩ t' → t'.fields = (flat id value).onto t.fields) :
    ∀ (members : List (String × Member)) (values : List Value) {t t' : Target} {u : PUnit},
      (∀ label f occ type default, (label, Member.placed (.field f occ type default)) ∈ members → N.Places occ) →
      Ran (writeMembers N D child name members values) t u t' →
      t'.fields = (membersScript N D image flat (groupScript N image) members values).onto t.fields
  | [], [], _, _, _, _, ran => by
      obtain ⟨-, rfl⟩ := ran_pure.1 ran
      rfl
  | (label, member) :: members, value :: values, t, t', u, places, ran => by
      obtain ⟨_, t₁, first, rest⟩ := ran_bind.1 ran
      have wrote := writeMember_ran makes lays
        (fun f occ type default same => places label f occ type default (same ▸ List.mem_cons_self))
        ((ran_labelled name label).1 first)
      have later := writeMembers_ran makes lays members values
        (fun label f occ type default there => places label f occ type default (List.mem_cons_of_mem _ there)) rest
      rw [later, wrote, membersScript, Script.onto_append]
  | [], _ :: _, _, _, _, _, ran => absurd ran ran_throw
  | _ :: _, [], _, _, _, _, ran => absurd ran ran_throw

theorem structScript_struct {fuel : Nat} {id : StructId} {decl : Decl} (found : D.structs[id]? = some decl)
    (values : List Value) :
    structScript N D (fuel + 1) id (.struct values) =
      membersScript N D (structImage N D fuel) (structScript N D fuel) (groupScript N (structImage N D fuel))
        decl.members values := by
  unfold structScript
  simp only [found]
  rfl

/-- **A write that succeeds has laid its script**: nothing else happened to the buffer. -/
theorem serialize_ran (zeroBased : D.ZeroBased N) : ∀ (fuel : Nat) (id : StructId) (value : Value) (t t' : Target),
    Ran (serialize N D fuel id value) t ⟨⟩ t' → t'.fields = (structScript N D fuel id value).onto t.fields
  | 0, _, _, _, _, ran => absurd ran ran_throw
  | fuel + 1, id, value, t, t', ran => by
      obtain ⟨decl, values, found, rfl, wrote⟩ := serialize_struct_ran ran
      have makes : Makes (serialize N D fuel) (structImage N D fuel) := fun id value t t' empty ran => by
        rw [serialize_ran zeroBased fuel id value t t' ran, empty, structImage]
      rw [writeMembers_ran makes (serialize_ran zeroBased fuel) decl.members values
        (zeroBased decl (List.mem_of_getElem? found)) wrote, structScript_struct found]

theorem serialize_makes (zeroBased : D.ZeroBased N) (fuel : Nat) :
    Makes (serialize N D fuel) (structImage N D fuel) := fun id value t t' empty ran => by
  rw [serialize_ran zeroBased fuel id value t t' ran, empty, structImage]

end Struct

end Endurox.Ubf
