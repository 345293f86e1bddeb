/-
# Ubf.RoundTrip -- what was written is read

A read checks again what the write has checked, and finds in each column what the strip of
its member has left there, so it gives the member's value: of fields, of mapped structs,
of groups row by row, and of structs by induction over what they nest and flatten
(`deserialize_reads`).  `Faithful` is what that takes of the value: that its scalars come
back from their fields and its VIEWs from their layouts, and that it does not nest deeper
than a read goes.
-/
import Endurox.Ubf.Replacement
import Endurox.Ubf.Trees

namespace Endurox.Ubf

open Endurox.Theory
open Endurox.Typed (BFLDID UbfFieldType UbfError UbfCode)

set_option autoImplicit false

/-! ## Values that come back -/

section Faithful

variable (N : Native)

/-- Of this field the scalar comes back, if it goes in. -/
def ScalarReads (f : BFLDID) (type : ScalarTy) (value : Scalar) : Prop :=
  ∀ bytes, scalarBytes N f type value = .ok bytes → decode N f type bytes = .ok value

def FieldReads (f : BFLDID) : FieldTy → Value → Prop
  | .scalar type, .scalar value => ScalarReads N f type value
  | .option type, .some value => FieldReads f type value
  | .vec type, .list values => ∀ value ∈ values, FieldReads f type value
  | .array _ type, .list values => ∀ value ∈ values, FieldReads f type value
  | _, _ => True

variable (D : Decls) (nests flat : StructId → Value → Prop)

/-- A nested struct comes back, and a VIEW from its own layout. -/
def BaseReads (id : StructId) (value : Value) : Mapping → Prop
  | .EmbeddedUbf => nests id value
  | .PointerUbf => nests id value
  | .EmbeddedView => ∀ data, N.viewWrite id value = .ok data → N.viewRead id data = .ok value.reset
  | .PointerView => ∀ data, N.viewWrite id value = .ok data → N.viewRead id data = .ok value.reset

def MappedReads (m : Mapping) : MappedTy → Value → Prop
  | .base id, value => BaseReads N nests id value m
  | .option type, .some value => MappedReads m type value
  | .vec type, .list values => ∀ value ∈ values, MappedReads m type value
  | .array _ type, .list values => ∀ value ∈ values, MappedReads m type value
  | _, _ => True

def PlacedReads (value : Value) : Placed → Prop
  | .skip => ∃ held, value = .skipped held
  | .field f _ type _ => FieldReads N f type value
  | .mapped m _ _ type _ => MappedReads N nests m type value

def RowReads : List (String × Placed) → List Value → Prop
  | (_, placed) :: members, value :: values => PlacedReads N nests value placed ∧ RowReads members values
  | _, _ => True

def MemberReads (value : Value) : Member → Prop
  | .placed placed => PlacedReads N nests value placed
  | .flatten id => flat id value
  | .group _ type => ∀ g, D.groups[type.id]? = some g → ∀ row ∈ groupRows type value,
      RowReads N nests g.members (rowValues row)

def MembersReads : List (String × Member) → List Value → Prop
  | (_, member) :: members, value :: values =>
      MemberReads N D nests flat value member ∧ MembersReads members values
  | _, _ => True

end Faithful

/-- The value nests buffers at most `room` deep, each of its scalars comes back from its field,
and each of its VIEWs from its layout. -/
def Faithful (N : Native) (D : Decls) : Nat → Nat → StructId → Value → Prop
  | 0, _, _, _ => True
  | fuel + 1, room, id, value =>
      match D.structs[id]?, value with
      | some decl, .struct values =>
          MembersReads N D (fun id value => ∃ less, room = less + 1 ∧ Faithful N D fuel less id value)
            (Faithful N D fuel room) decl.members values
      | _, _ => True

/-- No field is mapped twice at one level. -/
def Decls.Distinct (D : Decls) : Prop := ∀ fuel id, (D.fields fuel id).Nodup

/-- Occurrences are `i32`s. -/
def Decls.Fits (D : Decls) : Prop :=
  ∀ decl ∈ D.structs, ∀ label f occ type default,
    (label, Member.placed (.field f occ type default)) ∈ decl.members → occ ≤ i32Max

/-! ## Fields -/

section Fields

variable {N : Native} {f : BFLDID} {type : FieldTy} {value : Value} {occ : Int} {t t' : Target} {u : PUnit}
  {pos : Branch} {path : List Way}

theorem Branch.find_eq (placed : 0 ≤ occ) : pos.find f occ = (column f pos.fields)[occ.toNat]? := if_pos placed

theorem readScalar_found {scalar : ScalarTy} {held : Scalar} {bytes : List UInt8} (placed : 0 ≤ occ)
    (inside : ∀ min max, scalar = .int min max → occ ≤ i32Max) (plain : f.type ≠ .Ptr)
    (decoded : decode N f scalar bytes = .ok held) : readScalar N f occ scalar (some bytes) = .ok held := by
  have direct : rejectPtrConversion f scalar.getter = .ok () := if_neg plain
  unfold readScalar
  rw [direct]
  cases scalar with
  | int min max =>
      have there : ubfOccurrence occ 0 = .ok (occ + (0 : Nat)) :=
        ubfOccurrence_eq_ok.2 ⟨placed, by have := inside min max rfl; omega, rfl⟩
      rw [there]
      exact decoded
  | _ => exact decoded

theorem trees_scalar {scalar : ScalarTy} {held : Scalar} (written : ScalarWritten N f scalar held occ)
    (reads : ScalarReads N f scalar held)
    (found : (column f pos.fields)[occ.toNat]? = some (scalarDatum N f scalar held)) :
    (trees N).scalar pos f occ scalar = .ok held := by
  obtain ⟨bytes, converted⟩ := written.converted
  have decoded := readScalar_found written.placed written.inside written.plain (reads bytes converted)
  show (readScalar N f occ scalar ((pos.find f occ).bind Datum.bytes?)).mapError Exit.error = .ok held
  rw [Branch.find_eq written.placed, found, scalarDatum, converted]
  show (readScalar N f occ scalar (some bytes)).mapError Exit.error = .ok held
  rw [decoded]
  rfl

theorem Reads.single {single : Bool} (wide : single = true) : Reads path (Ubf.ask (requireSingle single)) () :=
  .ask (requireSingle_eq_ok.2 wide)

theorem mappingPresent_reads (placed : 0 ≤ occ) (inside : occ ≤ i32Max) :
    Reads path (mappingPresent (trees N) pos f occ) (decide (occ < (column f pos.fields).length)) := by
  have there : ubfOccurrence occ 0 = .ok (occ + (0 : Nat)) := ubfOccurrence_eq_ok.2 ⟨placed, by omega, rfl⟩
  exact (Reads.ask there).bind ((Reads.ask rfl).bind (.pure _))

/-- An occurrence that is there is before the end. -/
theorem before_end {datum : Datum} (placed : 0 ≤ occ) (found : (column f pos.fields)[occ.toNat]? = some datum) :
    occ < (column f pos.fields).length := by
  have := (List.getElem?_eq_some_iff.1 found).1
  omega

theorem readField_single (single : type.single = true) (places : N.Places occ) (ran : Ran (writeField N f type value occ) t u t')
    (reads : FieldReads N f type value)
    (found : (column f pos.fields)[occ.toNat]? = some (fieldDatum N f type value)) :
    Reads path (readField (trees N) pos f type occ) value.reset := by
  obtain ⟨scalar, rfl⟩ := FieldTy.single_eq single
  obtain ⟨held, rfl, wrote⟩ := writeField_scalar_ran ran
  exact (Reads.ofExcept (trees_scalar (writeScalar_ran places wrote).1 reads found)).bind (.pure _)

/-- The elements of a collection, each where it was written. -/
theorem readField_each (path : List Way) {values : List Value} (single : type.single = true) (placed : 0 ≤ occ)
    (wrote : Ran (writeEach (writeField N f type) occ 0 values) t u t')
    (reads : ∀ value ∈ values, FieldReads N f type value)
    (found : ∀ (i : Nat) (value : Value), values[i]? = some value →
      (column f pos.fields)[occ.toNat + i]? = some (fieldDatum N f type value))
    (i : Nat) (value : Value) (there : values[i]? = some value) :
    ubfOccurrence occ i = .ok (occ + i) ∧ Reads path (readField (trees N) pos f type (occ + i)) value.reset := by
  obtain ⟨fits, s, s', element⟩ := writeEach_each values 0 wrote i value there
  rw [Nat.zero_add] at fits element
  refine ⟨fits, readField_single single (.inl (by omega)) element (reads value (List.mem_of_getElem? there)) ?_⟩
  rw [show (occ + (i : Int)).toNat = occ.toNat + i by omega]
  exact found i value there

/-- **A field is read as it was written.** -/
theorem readField_reads (places : N.Places occ) (ran : Ran (writeField N f type value occ) t u t')
    (reads : FieldReads N f type value)
    (shows : (fieldStrip N f type value occ.toNat).Shows (column f pos.fields)) :
    Reads path (readField (trees N) pos f type occ) value.reset := by
  cases type with
  | scalar scalar => exact readField_single rfl places ran reads shows.first
  | option type =>
      obtain ⟨single, placed, inside, ⟨held, rfl, wrote⟩ | ⟨rfl, -⟩⟩ := writeField_option_ran ran
      · refine (Reads.single single).bind ((mappingPresent_reads placed inside).bind ?_)
        rw [if_pos (decide_eq_true (before_end placed shows.first))]
        exact (readField_single single places wrote reads shows.first).bind (.pure _)
      · refine (Reads.single single).bind ((mappingPresent_reads placed inside).bind ?_)
        have ends : (column f pos.fields).length ≤ occ.toNat := shows.ends rfl
        rw [if_neg (by rw [decide_eq_true_eq]; omega)]
        exact .pure _
  | vec type =>
      obtain ⟨values, rfl, single, placed, inside, t₁, wrote, -⟩ := writeField_vec_ran ran
      have there : ubfOccurrence occ 0 = .ok (occ + (0 : Nat)) :=
        ubfOccurrence_eq_ok.2 ⟨placed, by omega, rfl⟩
      have length : (column f pos.fields).length - occ.toNat = values.length := by
        have cut := shows.length_cut rfl
        rwa [fieldStrip, List.length_map] at cut
      have each := readField_each path single placed wrote reads fun _ _ => shows.element
      exact (Reads.single single).bind ((Reads.ask there).bind ((Reads.ask rfl).bind
        ((Reads.occurrences length fun i value there => (each i value there).2).bind (.pure _))))
  | array size type =>
      obtain ⟨values, rfl, rfl, single, placed, inside, wrote⟩ := writeField_array_ran ran
      have there : ubfOccurrence occ values.length = .ok (occ + values.length) :=
        ubfOccurrence_eq_ok.2 ⟨placed, inside, rfl⟩
      have each := readField_each path single placed wrote reads fun _ _ => shows.element
      refine (Reads.single single).bind ((Reads.ask there).bind
        ((Reads.elements fun i value there => ?_).bind (.pure _)))
      obtain ⟨fits, element⟩ := each i value there
      exact (Reads.ask fits).bind element

/-- Where a field's write has left nothing, the value was the default. -/
theorem fieldDefault (ran : Ran (writeField N f type value occ) t u t')
    (shows : (fieldStrip N f type value occ.toNat).Shows (column f pos.fields))
    (short : (column f pos.fields).length ≤ occ.toNat) : type.default = value.reset := by
  have none_there : ∀ {datum : Datum}, (column f pos.fields)[occ.toNat]? ≠ some datum := by
    intro datum found
    have := (List.getElem?_eq_some_iff.1 found).1
    omega
  cases type with
  | scalar scalar => exact absurd shows.first none_there
  | option type =>
      obtain ⟨-, -, -, ⟨held, rfl, -⟩ | ⟨rfl, -⟩⟩ := writeField_option_ran ran
      · exact absurd shows.first none_there
      · rfl
  | vec type =>
      obtain ⟨values, rfl, -⟩ := writeField_vec_ran ran
      cases values with
      | nil => rfl
      | cons value values => exact absurd shows.first none_there
  | array size type =>
      obtain ⟨values, rfl, rfl, -⟩ := writeField_array_ran ran
      cases values with
      | nil => rfl
      | cons value values => exact absurd shows.first none_there

/-- A member is read, or its default is what was written. -/
theorem orDefault_reads {default : Bool} {held read : Value} {reading : Reading Way Value} (placed : 0 ≤ occ)
    (inside : occ ≤ i32Max) (reads : Reads path reading read)
    (same : (column f pos.fields).length ≤ occ.toNat → held = read) :
    Reads path (orDefault (trees N) pos f default held occ reading) read := by
  cases default with
  | false => exact reads
  | true =>
      refine (mappingPresent_reads placed inside).bind ?_
      by_cases there : occ < (column f pos.fields).length
      · rw [if_pos (decide_eq_true there)]
        exact reads
      · rw [if_neg (by rw [decide_eq_true_eq]; exact there), same (by omega)]
        exact .pure _

end Fields

/-! ## Mapped structs -/

section Mapped

variable {N : Native} {image : StructId → Value → Buffer} {write : StructId → Value → Writing PUnit}
  {read : StructId → Branch → Reading Way Value} {nests : StructId → Value → Prop} {m : Mapping} {f : BFLDID}
  {type : MappedTy} {value : Value} {occ : Int} {t t' : Target} {u : PUnit} {pos : Branch} {path : List Way}

theorem Reads.mapped (placed : 0 ≤ occ) (inside : occ ≤ i32Max) (typed : f.type = m.fieldType) :
    Reads path (Ubf.ask (mappedField m f occ)) () :=
  .ask (mappedField_eq_ok.2 ⟨placed, inside, typed⟩)

/-- Below `pos`, what a nested struct's write left in an empty buffer is read as the struct. -/
def Nested (write : StructId → Value → Writing PUnit) (read : StructId → Branch → Reading Way Value)
    (nests : StructId → Value → Prop) (pos : Branch) (path : List Way) : Prop :=
  ∀ id value (s s' : Target) (step : BFLDID × Int), nests id value → s.fields = [] →
    Ran (write id value) s ⟨⟩ s' → path.length < 128 ∧ (step :: pos.way) ∉ path ∧
      Reads ((step :: pos.way) :: path) (read id ⟨s'.fields, step :: pos.way⟩) value.reset

/-- A struct is found where it was put. -/
theorem readBase_reads {id : StructId} (makes : Makes write image) (inner : Nested write read nests pos path)
    (ran : Ran (writeBase N write m f id value occ) t u t') (reads : BaseReads N nests id value m)
    (found : (column f pos.fields)[occ.toNat]? = some (baseDatum N image m f id value)) :
    Reads path (readBase (trees N) pos f read m id occ) value.reset := by
  obtain ⟨placed, inside, typed, datum, written, -⟩ := writeBase_written ran
  rw [← written.datum_eq makes, ← Branch.find_eq placed] at found
  refine (Reads.mapped placed inside typed).bind ?_
  cases written with
  | @embedded s s' empty wrote =>
      obtain ⟨room, new, below⟩ := inner id value s s' (f, occ) reads empty wrote
      have there : (trees N).embedded pos f occ = .ok ⟨s'.fields, (f, occ) :: pos.way⟩ := by
        simp only [trees, found]
      exact (Reads.ask there).bind (.withScope room new below)
  | @pointed s s' empty wrote =>
      obtain ⟨room, new, below⟩ := inner id value s s' (f, occ) reads empty wrote
      have there : (trees N).target pos f occ = .ok ⟨s'.fields, (f, occ) :: pos.way⟩ := by
        simp only [trees, found]
      exact (Reads.ask there).bind (.withScope room new below)
  | view laid =>
      refine Reads.ofExcept ?_
      simp only [trees, found, viewAt, if_neg (N.viewNamed id), checkView, if_pos, bind, Except.bind, reads _ laid]
      rfl
  | viewPointed laid =>
      refine Reads.ofExcept ?_
      simp only [trees, found, viewTargetAt, if_pos, reads _ laid]
      rfl

/-- A struct is nowhere NULL. -/
theorem BaseWritten.not_null {id : StructId} {datum : Datum} (written : BaseWritten N write id value m datum) :
    datum.isNull = false := by
  cases written with
  | view laid => exact decide_eq_false (N.viewNamed id)
  | _ => rfl

/-- An optional struct that is there is read. -/
theorem readSome_reads {id : StructId} (makes : Makes write image) (inner : Nested write read nests pos path)
    (ran : Ran (writeBase N write m f id value occ) t u t') (reads : BaseReads N nests id value m)
    (found : (column f pos.fields)[occ.toNat]? = some (baseDatum N image m f id value)) :
    Reads path (readMapped (trees N) pos f read m (.option (.base id)) occ) (.some value.reset) := by
  obtain ⟨placed, inside, typed, datum, written, -⟩ := writeBase_written ran
  have read_ := readBase_reads makes inner ran reads found
  rw [← written.datum_eq makes, ← Branch.find_eq placed] at found
  have present : (trees N).present pos f occ = true := by simp only [trees, found, Option.isSome_some]
  have full : (trees N).isNull pos f occ = .ok false := by
    simp only [trees, found, Option.elim_some, written.not_null]
  refine (Reads.mapped placed inside typed).bind ((Reads.single (by rfl)).bind ?_)
  rw [present]
  exact (Reads.ask full).bind (read_.bind (.pure _))

/-- Where nothing is, or a placeholder, an optional struct is `None`. -/
theorem readNone_reads {id : StructId} (placed : 0 ≤ occ) (inside : occ ≤ i32Max) (typed : f.type = m.fieldType)
    (gone : ∀ datum, (column f pos.fields)[occ.toNat]? = some datum → datum.isNull = true) :
    Reads path (readMapped (trees N) pos f read m (.option (.base id)) occ) .none := by
  refine (Reads.mapped placed inside typed).bind ((Reads.single (by rfl)).bind ?_)
  cases found : (column f pos.fields)[occ.toNat]? with
  | none =>
      have absent : (trees N).present pos f occ = false := by
        simp only [trees, Branch.find_eq placed, found, Option.isSome_none]
      rw [absent]
      exact .pure _
  | some datum =>
      have present : (trees N).present pos f occ = true := by
        simp only [trees, Branch.find_eq placed, found, Option.isSome_some]
      have null : (trees N).isNull pos f occ = .ok true := by
        simp only [trees, Branch.find_eq placed, found, Option.elim_some, gone datum found]
      rw [present]
      exact (Reads.ask null).bind (.pure _)

/-- What holds the place of a `None` is NULL. -/
theorem padding_null (nullable : m.fieldType = .Ptr ∨ m.fieldType = .View) (typed : f.type = m.fieldType) :
    (padding f).isNull = true := by
  rcases nullable with pointer | view
  · rw [padding, typed, pointer]
    rfl
  · rw [padding, typed, view]
    rfl

/-- **An element is read as it was written.** -/
theorem readElement_reads (makes : Makes write image) (inner : Nested write read nests pos path)
    (single : type.single m = true) (ran : Ran (writeOccurrence N write m f type value occ) t u t')
    (reads : MappedReads N nests m type value)
    (found : (column f pos.fields)[occ.toNat]? = some (mappedDatum N image m f type value)) :
    Reads path (readMapped (trees N) pos f read m type occ) value.reset := by
  cases type with
  | base id => exact readBase_reads makes inner ran reads found
  | option type =>
      obtain ⟨nullable, typed, placed, inside, id, rfl, ⟨held, rfl, wrote⟩ | ⟨rfl, -⟩⟩ :=
        writeOccurrence_option_ran ran
      · exact readSome_reads makes inner wrote reads found
      · refine readNone_reads placed inside typed fun datum there => ?_
        obtain rfl := Option.some.inj (found.symm.trans there)
        exact padding_null nullable typed
  | _ => exact nomatch single

theorem readMapped_each {values : List Value} (makes : Makes write image) (inner : Nested write read nests pos path)
    (single : type.single m = true) (placed : 0 ≤ occ)
    (wrote : Ran (writeEach (writeOccurrence N write m f type) occ 0 values) t u t')
    (reads : ∀ value ∈ values, MappedReads N nests m type value)
    (found : ∀ (i : Nat) (value : Value), values[i]? = some value →
      (column f pos.fields)[occ.toNat + i]? = some (mappedDatum N image m f type value))
    (i : Nat) (value : Value) (there : values[i]? = some value) :
    ubfOccurrence occ i = .ok (occ + i) ∧
      Reads path (readMapped (trees N) pos f read m type (occ + i)) value.reset := by
  obtain ⟨fits, s, s', element⟩ := writeEach_each values 0 wrote i value there
  rw [Nat.zero_add] at fits element
  refine ⟨fits, readElement_reads makes inner single element (reads value (List.mem_of_getElem? there)) ?_⟩
  rw [show (occ + (i : Int)).toNat = occ.toNat + i by omega]
  exact found i value there

/-- **A mapped member is read as it was written.** -/
theorem readMapped_reads (makes : Makes write image) (inner : Nested write read nests pos path)
    (ran : Ran (writeMapped N write m f type value occ) t u t') (reads : MappedReads N nests m type value)
    (shows : (mappedStrip N image m f type value occ.toNat).Shows (column f pos.fields)) :
    Reads path (readMapped (trees N) pos f read m type occ) value.reset := by
  cases type with
  | base id => exact readBase_reads makes inner ran reads shows.first
  | option type =>
      obtain ⟨typed, placed, inside, id, rfl, ⟨held, rfl, wrote⟩ | ⟨rfl, -⟩⟩ := writeMapped_option_ran ran
      · exact readSome_reads makes inner wrote reads shows.first
      · refine readNone_reads placed inside typed fun datum there => ?_
        have ends : (column f pos.fields).length ≤ occ.toNat := shows.ends rfl
        have := before_end placed there
        omega
  | vec type =>
      obtain ⟨values, rfl, wrote⟩ := writeMapped_vec_ran ran
      obtain ⟨typed, single, placed, inside, t₁, each, -⟩ := writeVec_ran wrote
      have length : (column f pos.fields).length - occ.toNat = values.length := by
        have cut := shows.length_cut rfl
        rwa [mappedStrip, List.length_map] at cut
      have elements := readMapped_each makes inner single placed each reads fun _ _ => shows.element
      exact (Reads.mapped placed (by omega) typed).bind ((Reads.single single).bind
        ((Reads.ask rfl).bind ((Reads.occurrences length fun i value there => (elements i value there).2).bind
          (.pure _))))
  | array size type =>
      obtain ⟨values, rfl, wrote⟩ := writeMapped_array_ran ran
      obtain ⟨rfl, typed, single, placed, inside, each⟩ := writeArray_ran wrote
      have there : ubfOccurrence occ values.length = .ok (occ + values.length) :=
        ubfOccurrence_eq_ok.2 ⟨placed, inside, rfl⟩
      have elements := readMapped_each makes inner single placed each reads fun _ _ => shows.element
      refine (Reads.mapped placed (by omega) typed).bind ((Reads.single single).bind
        ((Reads.ask there).bind ((Reads.elements fun i value there => ?_).bind (.pure _))))
      obtain ⟨fits, element⟩ := elements i value there
      exact (Reads.ask fits).bind element

/-- Where a mapped write has left nothing, the value was the default. -/
theorem mappedDefault (D : Decls) (ran : Ran (writeMapped N write m f type value occ) t u t')
    (shows : (mappedStrip N image m f type value occ.toNat).Shows (column f pos.fields))
    (short : (column f pos.fields).length ≤ occ.toNat) : type.default D m = value.reset := by
  have none_there : ∀ {datum : Datum}, (column f pos.fields)[occ.toNat]? ≠ some datum := by
    intro datum found
    have := (List.getElem?_eq_some_iff.1 found).1
    omega
  cases type with
  | base id => exact absurd shows.first none_there
  | option type =>
      obtain ⟨-, -, -, id, rfl, ⟨held, rfl, -⟩ | ⟨rfl, -⟩⟩ := writeMapped_option_ran ran
      · exact absurd shows.first none_there
      · rfl
  | vec type =>
      obtain ⟨values, rfl, -⟩ := writeMapped_vec_ran ran
      cases values with
      | nil => rfl
      | cons value values => exact absurd shows.first none_there
  | array size type =>
      obtain ⟨values, rfl, wrote⟩ := writeMapped_array_ran ran
      obtain ⟨rfl, -⟩ := writeArray_ran wrote
      cases values with
      | nil => rfl
      | cons value values => exact absurd shows.first none_there

theorem writeMapped_inside (ran : Ran (writeMapped N write m f type value occ) t u t') : occ ≤ i32Max := by
  cases type with
  | base id => exact (writeBase_written ran).2.1
  | option type => exact (writeMapped_option_ran ran).2.2.1
  | vec type =>
      obtain ⟨values, rfl, wrote⟩ := writeMapped_vec_ran ran
      obtain ⟨-, -, -, inside, -⟩ := writeVec_ran wrote
      omega
  | array size type =>
      obtain ⟨values, rfl, wrote⟩ := writeMapped_array_ran ran
      obtain ⟨-, -, -, -, inside, -⟩ := writeArray_ran wrote
      omega

end Mapped

/-! ## Groups -/

section Group

variable {N : Native} {D : Decls} {image : StructId → Value → Buffer} {write : StructId → Value → Writing PUnit}
  {read : StructId → Branch → Reading Way Value} {nests : StructId → Value → Prop} {g : GroupDecl} {base : Int}
  {value : Value} {t t' : Target} {u : PUnit} {pos : Branch} {path : List Way}

/-- In the row at `base` each member is found in its column. -/
def RowShown (N : Native) (image : StructId → Value → Buffer) (pos : Branch) (base : Nat) :
    List (String × Placed) → List Value → Prop
  | (_, placed) :: members, value :: values =>
      (∀ f occ, placed.field? = some (f, occ) →
        (column f pos.fields)[base + occ.toNat]? = some (placed.datum N image value)) ∧
        RowShown N image pos base members values
  | _, _ => True

/-- The rows of columns. -/
theorem groupStrips_row {base : Nat} {cut : Bool} {i : Nat} : ∀ (members : List (String × Placed))
    (rows : List (List Value)) (row : List Value),
    (∀ s ∈ groupStrips N image base cut members rows, s.Shows (column s.key pos.fields)) →
    rows[i]? = some row → members.length = row.length → RowShown N image pos (base + i) members row
  | [], _, _, _, _, _ => trivial
  | _ :: _, _, [], _, _, length => nomatch length
  | (_, placed) :: members, rows, value :: row, shows, there, length => by
      rw [groupStrips, List.forall_mem_append] at shows
      refine ⟨fun f occ slot => ?_, groupStrips_row members (rows.map List.tail) row shows.2 ?_ (Nat.succ.inj length)⟩
      · rw [placedStrips, slot, List.forall_mem_singleton] at shows
        have first : (rows.map (·.headD .none))[i]? = some value := by
          rw [List.getElem?_map, there]
          rfl
        have found := shows.1.element first
        rwa [show base + occ.toNat + i = base + i + occ.toNat by omega] at found
      · rw [List.getElem?_map, there]
        rfl

/-- A member's column has an occurrence for each row. -/
theorem member_strip (base : Nat) (cut : Bool) {f : BFLDID} {occ : Int} {label : String} {placed : Placed}
    (slot : placed.field? = some (f, occ)) : ∀ (members : List (String × Placed)) (rows : List (List Value)),
    (label, placed) ∈ members → ∃ data, data.length = rows.length ∧
      Strip.mk f (base + occ.toNat) data cut ∈ groupStrips N image base cut members rows
  | [], _, here => absurd here List.not_mem_nil
  | (_, first) :: members, rows, here => by
      rw [groupStrips]
      rcases List.mem_cons.1 here with same | later
      · obtain ⟨rfl, rfl⟩ := Prod.mk.inj same
        rw [placedStrips, slot]
        exact ⟨_, by rw [List.length_map, List.length_map], List.mem_append_left _ List.mem_cons_self⟩
      · obtain ⟨data, length, member⟩ := member_strip base cut slot members (rows.map List.tail) later
        exact ⟨data, by rw [length, List.length_map], List.mem_append_right _ member⟩

/-- Of a valid group's anchor the slot is one. -/
theorem anchor_slot (valid : validateGroup g base = .ok ()) :
    ubfGroupFieldCheck true base g.anchor.2 = .ok (base + g.anchor.2) ∧ 0 ≤ g.anchor.2 := by
  obtain ⟨based, -, slots⟩ := (validateGroup_eq_ok g base).1 valid
  obtain ⟨member, here, placed⟩ := List.exists_of_findSome?_eq_some g.anchored
  have slot : ∃ single, member.2.slot = some (single, g.anchor.2) := by
    cases kind : member.2 with
    | skip =>
        rw [kind] at placed
        exact nomatch placed
    | field f occ type default =>
        rw [kind] at placed
        have same : (f, occ) = g.anchor := Option.some.inj placed
        exact ⟨_, by rw [← same]; rfl⟩
    | mapped m f occ type default =>
        rw [kind] at placed
        have same : (f, occ) = g.anchor := Option.some.inj placed
        exact ⟨_, by rw [← same]; rfl⟩
  obtain ⟨single, slot⟩ := slot
  obtain ⟨-, first, inside⟩ := slots member here single _ slot
  exact ⟨ubfGroupFieldCheck_eq_ok.2 ⟨rfl, based, first, inside, rfl⟩, first⟩

theorem readPlacedAt_reads {placed : Placed} (makes : Makes write image) (inner : Nested write read nests pos path)
    (single : ∀ wide occ, placed.slot = some (wide, occ) → wide = true)
    (ran : Ran (writePlacedAt N write base value placed) t u t') (reads : PlacedReads N nests value placed)
    (shown : ∀ f occ, placed.field? = some (f, occ) →
      (column f pos.fields)[base.toNat + occ.toNat]? = some (placed.datum N image value)) :
    Reads path (readPlacedAt (trees N) D pos read base placed) value.reset := by
  cases placed with
  | skip =>
      obtain ⟨held, rfl⟩ := reads
      exact .pure _
  | field f occ type default =>
      obtain ⟨slot, t₁, checked, wrote⟩ := ran_bind.1 ran
      obtain ⟨fits, rfl⟩ := ran_check.1 checked
      obtain ⟨-, based, placed, inside, rfl⟩ := ubfGroupFieldCheck_eq_ok.1 fits
      have found := shown f occ rfl
      rw [← Int.toNat_add based placed] at found
      have start := Int.add_nonneg based placed
      refine (Reads.ask fits).bind (orDefault_reads (by omega) inside
        (readField_single (single _ _ rfl) (.inl start) wrote reads found) fun short => ?_)
      have := before_end start found
      omega
  | mapped m f occ type default =>
      obtain ⟨slot, t₁, checked, wrote⟩ := ran_bind.1 ran
      obtain ⟨fits, rfl⟩ := ran_check.1 checked
      obtain ⟨-, based, placed, inside, rfl⟩ := ubfGroupFieldCheck_eq_ok.1 fits
      have found := shown f occ rfl
      rw [← Int.toNat_add based placed] at found
      refine (Reads.ask fits).bind (orDefault_reads (by omega) inside (readElement_reads makes inner (single _ _ rfl)
        wrote reads found) fun short => ?_)
      have := before_end (Int.add_nonneg based placed) found
      omega

theorem readRow_reads {name : String} (makes : Makes write image) (inner : Nested write read nests pos path) :
    ∀ (members : List (String × Placed)) (values : List Value) {t t' : Target} {u : PUnit},
      Slots base members → Ran (writeRow N write name base members values) t u t' →
      RowReads N nests members values → RowShown N image pos base.toNat members values →
      Reads path (readRow (trees N) D pos read name base members) (resetAll values)
  | [], [], _, _, _, _, _, _, _ => .pure _
  | (member, placed) :: members, value :: values, t, t', u, slots, ran, reads, shown => by
      obtain ⟨_, t₁, first, rest⟩ := ran_bind.1 ran
      have here := readPlacedAt_reads (D := D) makes inner
        (fun wide occ slot => (slots _ List.mem_cons_self wide occ slot).1) ((ran_labelled name member).1 first)
        reads.1 shown.1
      have later := readRow_reads makes inner members values (List.forall_mem_of_forall_mem_cons slots) rest reads.2
        shown.2
      exact (here.labelled name member).bind (later.bind (.pure _))
  | [], _ :: _, _, _, _, _, ran, _, _ => absurd ran ran_throw
  | _ :: _, [], _, _, _, _, ran, _, _ => absurd ran ran_throw

/-- **A row is read as it was written.** -/
theorem readAt_reads (makes : Makes write image) (inner : Nested write read nests pos path)
    (ran : Ran (writeAt N write g value base) t u t') (reads : RowReads N nests g.members (rowValues value))
    (shown : RowShown N image pos base.toNat g.members (rowValues value)) :
    Reads path (readAt (trees N) D pos read g base) value.reset := by
  obtain ⟨valid, values, rfl, wrote⟩ := writeAt_row_ran ran
  have slots := ((validateGroup_eq_ok g base).1 valid).2.2
  exact (Reads.ask valid).bind ((readRow_reads makes inner g.members values slots wrote reads shown).bind (.pure _))

/-- The rows of a collection, each where it was written. -/
theorem readAt_each {rows : List Value} {cut : Bool} (makes : Makes write image)
    (inner : Nested write read nests pos path) (ran : Ran (writeEach (writeAt N write g) base 0 rows) t u t')
    (reads : ∀ row ∈ rows, RowReads N nests g.members (rowValues row))
    (shows : ∀ s ∈ groupStrips N image base.toNat cut g.members (rows.map rowValues),
      s.Shows (column s.key pos.fields))
    (i : Nat) (row : Value) (there : rows[i]? = some row) :
    ubfOccurrence base i = .ok (base + i) ∧
      Reads path (readAt (trees N) D pos read g (base + i)) row.reset := by
  obtain ⟨fits, s, s', wrote⟩ := writeEach_each rows 0 ran i row there
  rw [Nat.zero_add] at fits wrote
  obtain ⟨based, -, -⟩ := ubfOccurrence_eq_ok.1 fits
  refine ⟨fits, readAt_reads makes inner wrote (reads row (List.mem_of_getElem? there)) ?_⟩
  rw [show (base + (i : Int)).toNat = base.toNat + i by omega]
  refine groupStrips_row g.members (rows.map rowValues) (rowValues row) shows ?_ (writeAt_ran makes wrote).1
  rw [List.getElem?_map, there]
  rfl

/-- **The rows are counted by their anchor**, from `base` on. -/
theorem rowCount_shown {rows : List Value}
    (shows : ∀ s ∈ groupStrips N image base.toNat true g.members (rows.map rowValues),
      s.Shows (column s.key pos.fields)) :
    rowCount g (column g.anchor.1 pos.fields).length - base.toNat = rows.length := by
  obtain ⟨anchor, here, slot⟩ := List.exists_of_findSome?_eq_some g.anchored
  have slot : anchor.2.field? = some (g.anchor.1, g.anchor.2) := slot
  obtain ⟨data, length, member⟩ := member_strip base.toNat true slot g.members (rows.map rowValues) here
  have cut : (column g.anchor.1 pos.fields).length - (base.toNat + g.anchor.2.toNat) = data.length :=
    (shows _ member).length_cut rfl
  rw [length, List.length_map] at cut
  unfold rowCount
  omega

/-- **A `Vec` of rows is read as it was written.** -/
theorem readVecGroup_reads {rows : List Value} (makes : Makes write image)
    (inner : Nested write read nests pos path) (ran : Ran (writeVecGroup N write g rows base) t u t')
    (reads : ∀ row ∈ rows, RowReads N nests g.members (rowValues row))
    (shows : ∀ s ∈ groupStrips N image base.toNat true g.members (rows.map rowValues),
      s.Shows (column s.key pos.fields)) :
    Reads path (readVecGroup (trees N) D pos read g base) (Value.list rows).reset := by
  obtain ⟨fits, first, end_, t₁, wrote, -⟩ := writeVecGroup_rows_ran ran
  obtain ⟨based, -, -⟩ := ubfOccurrence_eq_ok.1 fits
  have counted := rowCount_shown shows
  have last : (if base < (rowCount g (column g.anchor.1 pos.fields).length : Nat) then
      validateGroup g ((rowCount g (column g.anchor.1 pos.fields).length : Nat) - 1) else .ok ()) = .ok () := by
    split
    · have before : base + ((rows.length - 1 : Nat) : Int) ≤ base + rows.length := by omega
      have valid := (computed_between first end_ before).valid
      rwa [show base + ((rows.length - 1 : Nat) : Int) =
        ((rowCount g (column g.anchor.1 pos.fields).length : Nat) : Int) - 1 by omega] at valid
    · rfl
  have each := readAt_each (D := D) makes inner wrote reads shows
  exact (Reads.ask first).bind ((Reads.ask (anchor_slot first).1).bind ((Reads.ask rfl).bind ((Reads.ask last).bind
    ((Reads.occurrences counted fun i row there => (each i row there).2).bind (.pure _)))))

/-- **A group is read as it was written.** -/
theorem readGroup_reads {type : GroupTy} (makes : Makes write image) (inner : Nested write read nests pos path)
    (known : D.groups[type.id]? = some g) (ran : Ran (writeGroup N write D.groups base type value) t u t')
    (reads : ∀ row ∈ groupRows type value, RowReads N nests g.members (rowValues row))
    (shows : ∀ s ∈ columnScript N image g base.toNat type value, s.Shows (column s.key pos.fields)) :
    Reads path (readGroup (trees N) D pos read base type) value.reset := by
  unfold writeGroup at ran
  unfold readGroup
  rw [known] at ran ⊢
  cases type with
  | one id =>
      refine readAt_reads makes inner ran (reads value List.mem_cons_self) ?_
      exact groupStrips_row (i := 0) g.members [rowValues value] _ shows rfl (writeAt_ran makes ran).1
  | vec id =>
      cases value with
      | list rows => exact readVecGroup_reads makes inner ran reads shows
      | _ => exact absurd ran ran_throw
  | array size id =>
      cases value with
      | list rows =>
          obtain ⟨_, t₁, counted, rest⟩ := ran_bind.1 ran
          obtain ⟨length, rfl⟩ := ran_throwIf.1 counted
          obtain rfl := not_not.1 length
          obtain ⟨first, ⟨last, placed, end_⟩, wrote⟩ := writeArrayGroup_rows_ran rest
          have each := readAt_each (D := D) makes inner wrote reads shows
          refine (Reads.ask first).bind ((Reads.ask placed).bind ((Reads.ask end_).bind
            ((Reads.elements fun i row there => ?_).bind (.pure _))))
          obtain ⟨fits, row⟩ := each i row there
          exact (Reads.ask fits).bind row
      | _ => exact absurd ran ran_throw

end Group

/-! ## Structs -/

section Struct

variable {N : Native} {D : Decls} {image : StructId → Value → Buffer} {write : StructId → Value → Writing PUnit}
  {read : StructId → Branch → Reading Way Value} {nests flat : StructId → Value → Prop}
  {strips : StructId → Value → Script} {pos : Branch} {path : List Way}

/-- What `pos` flattens is read from `pos`. -/
def Flat (write : StructId → Value → Writing PUnit) (read : StructId → Branch → Reading Way Value)
    (flat : StructId → Value → Prop) (strips : StructId → Value → Script) (pos : Branch) (path : List Way) : Prop :=
  ∀ id value (t t' : Target), flat id value → Ran (write id value) t ⟨⟩ t' →
    (∀ s ∈ strips id value, s.Shows (column s.key pos.fields)) → Reads path (read id pos) value.reset

theorem readMember_reads {value : Value} {member : Member} {t t' : Target} {u : PUnit}
    (makes : Makes write image) (inner : Nested write read nests pos path)
    (here : Flat write read flat strips pos path)
    (places : ∀ f occ type default, member = .placed (.field f occ type default) → N.Places occ)
    (fits : ∀ f occ type default, member = .placed (.field f occ type default) → occ ≤ i32Max)
    (ran : Ran (writeMember N D write value member) t u t') (reads : MemberReads N D nests flat value member)
    (shows : ∀ s ∈ memberScript N D image strips (columnScript N image) value member,
      s.Shows (column s.key pos.fields)) :
    Reads path (readMember (trees N) D pos read member) value.reset := by
  cases member with
  | placed placed =>
      cases placed with
      | skip =>
          obtain ⟨held, rfl⟩ := reads
          exact .pure _
      | field f occ type default =>
          have shown := shows _ List.mem_cons_self
          rw [fieldStrip_key] at shown
          have placed := places f occ type default rfl
          exact orDefault_reads (writeField_ran placed ran).1 (fits f occ type default rfl)
            (readField_reads placed ran reads shown) (fieldDefault ran shown)
      | mapped m f occ type default =>
          have shown := shows _ List.mem_cons_self
          rw [mappedStrip_key] at shown
          exact orDefault_reads (writeMapped_ran makes ran).1 (writeMapped_inside ran)
            (readMapped_reads makes inner ran reads shown) (mappedDefault D ran shown)
  | flatten id => exact here id value t t' reads ran shows
  | group occ type =>
      obtain ⟨g, known⟩ := writeGroup_known ran
      simp only [memberScript, known] at shows
      exact readGroup_reads makes inner known ran (reads g known) shows

theorem readMembers_reads {name : String} (makes : Makes write image) (inner : Nested write read nests pos path)
    (here : Flat write read flat strips pos path) :
    ∀ (members : List (String × Member)) (values : List Value) {t t' : Target} {u : PUnit},
      (∀ label f occ type default, (label, Member.placed (.field f occ type default)) ∈ members → N.Places occ) →
      (∀ label f occ type default, (label, Member.placed (.field f occ type default)) ∈ members → occ ≤ i32Max) →
      Ran (writeMembers N D write name members values) t u t' → MembersReads N D nests flat members values →
      (∀ s ∈ membersScript N D image strips (columnScript N image) members values,
        s.Shows (column s.key pos.fields)) →
      Reads path (readMembers (trees N) D pos read name members) (resetAll values)
  | [], [], _, _, _, _, _, _, _, _ => .pure _
  | (label, member) :: members, value :: values, t, t', u, places, fits, ran, reads, shows => by
      obtain ⟨_, t₁, first, rest⟩ := ran_bind.1 ran
      rw [membersScript, List.forall_mem_append] at shows
      have one := readMember_reads makes inner here
        (fun f occ type default same => places label f occ type default (same ▸ List.mem_cons_self))
        (fun f occ type default same => fits label f occ type default (same ▸ List.mem_cons_self))
        ((ran_labelled name label).1 first) reads.1 shows.1
      have others := readMembers_reads makes inner here members values
        (fun label f occ type default there => places label f occ type default (List.mem_cons_of_mem _ there))
        (fun label f occ type default there => fits label f occ type default (List.mem_cons_of_mem _ there))
        rest reads.2 shows.2
      exact (one.labelled name label).bind (others.bind (.pure _))
  | [], _ :: _, _, _, _, _, _, ran, _, _ => absurd ran ran_throw
  | _ :: _, [], _, _, _, _, _, ran, _, _ => absurd ran ran_throw

theorem deserialize_struct {Addr : Type} [DecidableEq Addr] (S : Source Addr) (pos : S.Pos) (fuel : Nat)
    {id : StructId} {decl : Decl} (found : D.structs[id]? = some decl) :
    deserialize S D (fuel + 1) id pos =
      readMembers S D pos (deserialize S D fuel) decl.name decl.members >>= fun values => pure (.struct values) := by
  unfold deserialize
  rw [found]

/-- With so much fuel a value is read from any buffer that shows its strips. -/
def Restores (N : Native) (D : Decls) (fuel more : Nat) : Prop :=
  ∀ (room : Nat) (id : StructId) (value : Value) (t t' : Target) (pos : Branch) (path : List Way),
    Faithful N D fuel room id value → Ran (serialize N D fuel id value) t ⟨⟩ t' →
    (∀ s ∈ structStrips N D fuel id value, s.Shows (column s.key pos.fields)) →
    path.length + room ≤ 128 → (∀ way ∈ path, way.length ≤ pos.way.length) →
    Reads path (deserialize (trees N) D more id pos) value.reset

/-- **One scope further down** is a place of its own, where a nested write has laid its strips. -/
theorem Restores.nested {fuel more room : Nat} (restores : Restores N D fuel more) (zeroBased : D.ZeroBased N)
    (distinct : D.Distinct)
    (deep : path.length + room ≤ 128) (above : ∀ way ∈ path, way.length ≤ pos.way.length) :
    Nested (serialize N D fuel) (deserialize (trees N) D more)
      (fun id value => ∃ less, room = less + 1 ∧ Faithful N D fuel less id value) pos path := by
  rintro id value s s' step ⟨rest, rfl, faithful⟩ empty wrote
  refine ⟨by omega, fun same => ?_, ?_⟩
  · have := above _ same
    rw [List.length_cons] at this
    omega
  · refine restores rest id value s s' _ _ faithful wrote (fun strip member => ?_)
      (by rw [List.length_cons]; omega) ?_
    · rw [(serialize_lays zeroBased fuel id value s s' wrote (distinct fuel id)).only (distinct fuel id) member]
      exact strip.on_shows _ _
    · exact List.forall_mem_cons.2 ⟨Nat.le_refl _, fun way there => Nat.le_succ_of_le (above way there)⟩

/-- **A struct is read as it was written.**  What is flattened is read from the same buffer; what is
nested, one scope further down. -/
theorem deserialize_reads (zeroBased : D.ZeroBased N) (distinct : D.Distinct) (fitting : D.Fits) :
    ∀ fuel more, fuel ≤ more → Restores N D fuel more
  | 0, _, _ => fun _ _ _ _ _ _ _ _ ran _ _ _ => absurd ran ran_throw
  | fuel + 1, 0, less => absurd less (Nat.not_succ_le_zero _)
  | fuel + 1, more + 1, less => by
      have restores : Restores N D fuel more :=
        deserialize_reads zeroBased distinct fitting fuel more (Nat.le_of_succ_le_succ less)
      intro room id value t t' pos path faithful ran shows deep above
      obtain ⟨decl, values, found, rfl, wrote⟩ := serialize_struct_ran ran
      rw [structStrips_struct found] at shows
      simp only [Faithful, found] at faithful
      have here : Flat (serialize N D fuel) (deserialize (trees N) D more) (Faithful N D fuel room)
          (structStrips N D fuel) pos path := fun id value t t' faithful wrote shown =>
        restores room id value t t' pos path faithful wrote shown deep above
      have known := List.mem_of_getElem? found
      have members := readMembers_reads (serialize_makes zeroBased fuel) (restores.nested zeroBased distinct deep above)
        here decl.members values (zeroBased decl known) (fitting decl known) wrote faithful shows
      have unfolded := deserialize_struct (trees N) pos more found
      rw [unfolded]
      exact members.bind (.pure _)

end Struct

/-! ## The result -/

/-- **What is written is read.**  For every program of mapped types with zero-based starts (or native
code that refuses others) in which no field is mapped twice at one level, every value of them whose
scalars and VIEWs come back on their own and which does not nest deeper than a read goes, and whatever
the buffer held: after a write that succeeds, a read gives the value again, with skipped members at
their defaults, and leaves the path as it was. -/
theorem mapped_round_trip (N : Native) (D : Decls) (zeroBased : D.ZeroBased N) (distinct : D.Distinct)
    (fits : D.Fits) (fuel : Nat) (id : StructId) (value : Value) (faithful : Faithful N D fuel 128 id value) (t t' : Target)
    (wrote : Ran (serialize N D fuel id value) t ⟨⟩ t') :
    ∀ more, fuel ≤ more →
      (deserialize (trees N) D more id ⟨t'.fields, []⟩).run.run [] = some (.ok value.reset, []) := by
  intro more enough
  have lays := serialize_lays zeroBased fuel id value t t' wrote (distinct fuel id)
  refine deserialize_reads zeroBased distinct fits fuel more enough 128 id value t t' _ [] faithful wrote
    (fun strip member => ?_) (Nat.le_refl _) (fun _ there => nomatch there)
  rw [lays.only (distinct fuel id) member]
  exact strip.on_shows _ _

/-- A carray comes back from a carray field. -/
theorem carray_reads (f : BFLDID) (carray : f.type = .Carray) (bytes : List UInt8) :
    ScalarReads littleEndian f .carray (.carray bytes) := by
  intro given converted
  rw [scalarBytes, sent, carray] at converted
  cases converted
  rfl

/-- Rows of two columns, the second one shifted. -/
def chainRow : GroupDecl where
  name := "Row"
  members :=
    [("id", .field ⟨6, .Carray⟩ 0 (.scalar .carray) false), ("count", .field ⟨7, .Carray⟩ 1 (.scalar .carray) false)]
  anchor := (⟨6, .Carray⟩, 0)
  anchored := rfl

/-- A list linked by pointers, each node with labels from the second occurrence on, a tag flattened
into it and rows. -/
def chainTypes : Decls where
  structs :=
    [{ name := "Node"
       members :=
        [("labels", .placed (.field ⟨3, .Carray⟩ 1 (.vec (.scalar .carray)) true)),
         ("tag", .flatten 1),
         ("rows", .group 0 (.vec 0)),
         ("next", .placed (.mapped .PointerUbf ⟨8, .Ptr⟩ 0 (.option (.base 0)) false))] },
     { name := "Tag"
       members :=
        [("text", .placed (.field ⟨4, .Carray⟩ 0 (.option (.scalar .carray)) false)),
         ("scratch", .placed .skip)] }]
  groups := [chainRow]

theorem chainTypes_distinct : chainTypes.Distinct := by
  intro fuel id
  rcases fuel with _ | _ | fuel
  · exact List.nodup_nil
  · rcases id with _ | _ | id
    · decide
    · decide
    · exact List.nodup_nil
  · rcases id with _ | _ | id
    · show ([⟨3, .Carray⟩, ⟨4, .Carray⟩, ⟨6, .Carray⟩, ⟨7, .Carray⟩, ⟨8, .Ptr⟩] : List BFLDID).Nodup
      decide
    · show ([⟨4, .Carray⟩] : List BFLDID).Nodup
      decide
    · exact List.nodup_nil

theorem chainTypes_starts : ∀ decl ∈ chainTypes.structs, ∀ label f occ type default,
    (label, Member.placed (.field f occ type default)) ∈ decl.members → 0 ≤ occ ∧ occ ≤ i32Max := by
  intro decl known label f occ type default member
  simp only [chainTypes, List.mem_cons, List.not_mem_nil, or_false] at known
  rcases known with rfl | rfl
  · simp only [List.mem_cons, Prod.mk.injEq, Member.placed.injEq, Placed.field.injEq, reduceCtorEq, and_false,
      List.not_mem_nil, or_false] at member
    obtain ⟨-, -, rfl, -⟩ := member
    decide
  · simp only [List.mem_cons, Prod.mk.injEq, Member.placed.injEq, Placed.field.injEq, reduceCtorEq, and_false,
      List.not_mem_nil, or_false] at member
    obtain ⟨-, -, rfl, -⟩ := member
    decide

theorem chainTypes_fits : chainTypes.Fits := fun decl known label f occ type default member =>
  (chainTypes_starts decl known label f occ type default member).2

theorem chainTypes_zeroBased : chainTypes.ZeroBased littleEndian := fun decl known label f occ type default member =>
  .inl (chainTypes_starts decl known label f occ type default member).1

/-- A node behind a node. -/
def chainValue : Value :=
  .struct
    [.list [.scalar (.carray [1]), .scalar (.carray [2])],
     .struct [.some (.scalar (.carray [3])), .skipped (some (.int 4))],
     .list [.struct [.scalar (.carray [5]), .scalar (.carray [6])]],
     .some (.struct [.list [], .struct [.none, .skipped none], .list [], .none])]

/-- Over another chain's fields. -/
def chainBefore : Target :=
  ⟨[(⟨6, .Carray⟩, .plain [9]), (⟨6, .Carray⟩, .plain [9]), (⟨8, .Ptr⟩, .null), (⟨8, .Ptr⟩, .null)], []⟩

theorem chainValue_faithful : Faithful littleEndian chainTypes 3 128 0 chainValue := by
  have bytes : ∀ (id : Int) (bytes : List UInt8), ScalarReads littleEndian ⟨id, .Carray⟩ .carray (.carray bytes) :=
    fun id bytes => carray_reads ⟨id, .Carray⟩ rfl bytes
  have labels : ∀ value ∈ [Value.scalar (.carray [1]), Value.scalar (.carray [2])],
      FieldReads littleEndian ⟨3, .Carray⟩ (.scalar .carray) value := by
    intro value member
    simp only [List.mem_cons, List.not_mem_nil, or_false] at member
    rcases member with rfl | rfl
    · exact bytes 3 [1]
    · exact bytes 3 [2]
  refine ⟨labels, ⟨bytes 4 [3], ⟨_, rfl⟩, trivial⟩, fun g known row there => ?_, ?_, trivial⟩
  · obtain rfl := Option.some.inj known
    obtain rfl := List.mem_singleton.1 there
    exact ⟨bytes 6 [5], bytes 7 [6], trivial⟩
  · have no_label : ∀ value ∈ ([] : List Value), FieldReads littleEndian ⟨3, .Carray⟩ (.scalar .carray) value :=
      fun _ member => absurd member List.not_mem_nil
    exact ⟨127, rfl, no_label, ⟨trivial, ⟨_, rfl⟩, trivial⟩, fun _ _ _ member => absurd member List.not_mem_nil,
      trivial, trivial⟩

/-- The chain is read back, its scratch member at the default. -/
theorem chain_round_trip :
    (deserialize (trees littleEndian) chainTypes 3 0
      ⟨((serialize littleEndian chainTypes 3 0 chainValue).run.run chainBefore).2.fields, []⟩).run.run [] =
      some (.ok chainValue.reset, []) :=
  mapped_round_trip littleEndian chainTypes chainTypes_zeroBased chainTypes_distinct chainTypes_fits 3 0 chainValue
    chainValue_faithful
    chainBefore _ rfl 3 (Nat.le_refl _)

end Endurox.Ubf
