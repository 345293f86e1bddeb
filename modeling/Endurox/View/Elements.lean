/-
# View.Elements -- what an element is written as

`cellOf` is what one element of a member holds after a value was written to it, if it can
be: a scalar's conversion, an optional value's when it is not the NULL sentinel, and the
sentinel of a fresh VIEW for `None`.  A write to one element succeeds when the native calls
do and there is such a cell, and stores it (`single_writes`, `single_calm`).
-/
import Endurox.View.Frame

namespace Endurox.View

open Endurox.Theory
open Endurox.Typed (UbfError UbfCode)
open Endurox.Ubf (Scalar ScalarTy FieldTy Value StructId ubfOccurrence requireSingle longMin longMax
  ubfOccurrence_eq_ok requireSingle_eq_ok)

set_option autoImplicit false

/-! ## Names and elements -/

/-- Neither name contains NUL. -/
def Named (view cname : String) : Prop := hasNul view = false ∧ hasNul cname = false

instance (view cname : String) : Decidable (Named view cname) := inferInstanceAs (Decidable (_ ∧ _))

theorem cNames_eq_ok {nul : String → UbfError} {view cname : String} {u : Unit} :
    cNames nul view cname = .ok u ↔ Named view cname := by
  unfold cNames Named
  cases hasNul view <;> cases hasNul cname <;> simp

theorem element_eq_ok {field : LayoutField} {occ : Int} {i : Nat} :
    field.element occ = .ok i ↔ 0 ≤ occ ∧ occ < field.max ∧ i = occ.toNat := by
  unfold LayoutField.element
  split
  · rename_i outside
    constructor
    · intro found
      cases found
    · omega
  · rename_i inside
    constructor
    · intro found
      cases found
      exact ⟨by omega, by omega, rfl⟩
    · rintro ⟨_, _, rfl⟩
      rfl

/-! ## Native calls that succeed -/

/-- A native call answers. -/
def Answers (t t' : Target) : Prop := Succeeds native t ⟨⟩ t'

theorem Answers.view {t t' : Target} (answers : Answers t t') : t'.view = t.view := by
  have same := native_view t
  rwa [show (native.run.run t).2 = t' from congrArg Prod.snd answers] at same

/-- No native call is to fail. -/
def Target.Calm (t : Target) : Prop := t.faults = []

/-- Where every native call answers, asking changes nothing. -/
theorem answers_calm {t t' : Target} (calm : t.Calm) : Answers t t' ↔ t' = t := by
  obtain ⟨view, faults⟩ := t
  cases calm
  constructor
  · intro answers
    cases answers
    rfl
  · rintro rfl
    rfl

section Calls

variable {N : Native} {cname : String} {t t' : Target} {u : PUnit}

theorem memberOf_succeeds {nul : String → UbfError} {field : LayoutField} :
    Succeeds (memberOf N cname nul) t field t' ↔
      Named t.view.view cname ∧ N.field t.view.view cname = .ok field ∧ Answers t t' := by
  simp only [memberOf, check, succeeds_bind, succeeds_get, succeeds_ofExcept, cNames_eq_ok]
  constructor
  · rintro ⟨_, _, ⟨rfl, rfl⟩, _, _, ⟨named, rfl⟩, _, _, answers, found, rfl⟩
    exact ⟨named, found, answers⟩
  · rintro ⟨named, found, answers⟩
    exact ⟨_, _, ⟨rfl, rfl⟩, ⟨⟩, _, ⟨named, rfl⟩, _, _, answers, found, rfl⟩

theorem bvoccur_succeeds {count : Nat} {field : LayoutField} :
    Succeeds (bvoccur N cname) t (count, field) t' ↔
      Named t.view.view cname ∧ N.field t.view.view cname = .ok field ∧ Answers t t' ∧
        count = t.view.active cname field := by
  simp only [bvoccur, succeeds_bind, succeeds_get, succeeds_pure, memberOf_succeeds, Prod.mk.injEq]
  constructor
  · rintro ⟨_, _, ⟨named, found, answers⟩, _, _, ⟨rfl, rfl⟩, ⟨rfl, rfl⟩, rfl⟩
    exact ⟨named, found, answers, by rw [answers.view]⟩
  · rintro ⟨named, found, answers, rfl⟩
    exact ⟨_, _, ⟨named, found, answers⟩, _, _, ⟨rfl, rfl⟩, ⟨by rw [answers.view], rfl⟩, rfl⟩

theorem bvsetoccur_succeeds {occ : Int} :
    Succeeds (bvsetoccur N cname occ) t u t' ↔
      ∃ field t₁, Named t.view.view cname ∧ N.field t.view.view cname = .ok field ∧ Answers t t₁ ∧
        (0 ≤ occ ∧ occ ≤ field.max) ∧ t' = { t₁ with view := t.view.setCount cname field occ.toNat } := by
  simp only [bvsetoccur, succeeds_bind, succeeds_throwIf, succeeds_modify, memberOf_succeeds]
  constructor
  · rintro ⟨field, t₁, ⟨named, found, answers⟩, _, _, ⟨inside, rfl⟩, rfl⟩
    exact ⟨field, t₁, named, found, answers, by omega, by rw [answers.view]⟩
  · rintro ⟨field, t₁, named, found, answers, inside, rfl⟩
    exact ⟨field, t₁, ⟨named, found, answers⟩, ⟨⟩, t₁, ⟨by omega, rfl⟩, by rw [answers.view]⟩

/-- `Bvchg` succeeds on an element that is there, with a value of its type, and stores it. -/
theorem bvchg_succeeds {occ : Int} {value : ViewValue} :
    Succeeds (bvchg N cname occ value) t u t' ↔
      ∃ field cell t₁, Named t.view.view cname ∧ N.field t.view.view cname = .ok field ∧ Answers t t₁ ∧
        (0 ≤ occ ∧ occ < field.max) ∧ (value.cString = .ok () ∧ N.convert field value = .ok cell) ∧
        t' = { t₁ with view := t.view.store cname field occ.toNat cell } := by
  simp only [bvchg, check, succeeds_bind, succeeds_get, succeeds_ofExcept, succeeds_modify, cNames_eq_ok,
    element_eq_ok]
  constructor
  · rintro ⟨_, _, ⟨rfl, rfl⟩, _, _, ⟨named, rfl⟩, _, _, ⟨clean, rfl⟩, _, t₁, answers, field, _, ⟨found, rfl⟩, _, _,
      ⟨⟨placed, inside, rfl⟩, rfl⟩, cell, _, ⟨converted, rfl⟩, rfl⟩
    exact ⟨field, cell, t₁, named, found, answers, ⟨placed, inside⟩, ⟨clean, converted⟩, by rw [Answers.view answers]⟩
  · rintro ⟨field, cell, t₁, named, found, answers, ⟨placed, inside⟩, ⟨clean, converted⟩, rfl⟩
    exact ⟨_, _, ⟨rfl, rfl⟩, ⟨⟩, _, ⟨named, rfl⟩, ⟨⟩, _, ⟨clean, rfl⟩, ⟨⟩, t₁, answers, field, _, ⟨found, rfl⟩, _, _,
      ⟨⟨placed, inside, rfl⟩, rfl⟩, cell, _, ⟨converted, rfl⟩, by rw [answers.view]⟩

theorem bvnull_succeeds {occ : Int} {null : Bool} :
    Succeeds (bvnull N cname occ) t null t' ↔
      ∃ field, Named t.view.view cname ∧ N.field t.view.view cname = .ok field ∧ Answers t t' ∧
        (0 ≤ occ ∧ occ < field.max) ∧ null = field.isNull (t.view.cells cname occ.toNat) := by
  simp only [bvnull, check, succeeds_bind, succeeds_get, succeeds_ofExcept, succeeds_pure, memberOf_succeeds,
    element_eq_ok]
  constructor
  · rintro ⟨field, t₁, ⟨named, found, answers⟩, _, _, ⟨⟨placed, inside, rfl⟩, rfl⟩, _, _, ⟨rfl, rfl⟩, rfl, rfl⟩
    exact ⟨field, named, found, answers, ⟨placed, inside⟩, by rw [answers.view]⟩
  · rintro ⟨field, named, found, answers, ⟨placed, inside⟩, rfl⟩
    exact ⟨field, _, ⟨named, found, answers⟩, _, _, ⟨⟨placed, inside, rfl⟩, rfl⟩, _, _, ⟨rfl, rfl⟩,
      by rw [answers.view], rfl⟩

/-- A fresh VIEW is allocated. -/
theorem template_succeeds :
    Succeeds template t u t' ↔ hasNul t.view.view = false ∧ ∃ t₁, Answers t t₁ ∧ Answers t₁ t' := by
  simp only [template, succeeds_bind, succeeds_get, succeeds_throwIf, succeeds_outcomeOf]
  constructor
  · rintro ⟨_, _, ⟨rfl, rfl⟩, _, _, ⟨clean, rfl⟩, _, t₁, first, result, t₂, second, ended⟩
    refine ⟨by simpa using clean, t₁, first, ?_⟩
    cases result with
    | error e => exact absurd ended succeeds_throw
    | ok a =>
        obtain ⟨-, rfl⟩ := succeeds_pure.1 ended
        exact second
  · rintro ⟨clean, t₁, first, second⟩
    exact ⟨_, _, ⟨rfl, rfl⟩, ⟨⟩, _, ⟨by simp [clean], rfl⟩, ⟨⟩, t₁, first, .ok ⟨⟩, t', second, succeeds_pure.2 ⟨rfl, rfl⟩⟩

/-- The element a reset leaves. -/
def resetCell (N : Native) (field : LayoutField) (occ : Nat) : Except UbfError (List UInt8) := do
  let data ← N.toOwn field (field.fresh occ)
  N.ofOwn field data

/-- A reset copies the element of the template. -/
theorem resetOccurrence_succeeds {occ : Int} :
    Succeeds (resetOccurrence N cname occ) t u t' ↔
      ∃ field cell t₁ t₂ t₃, Named t.view.view cname ∧ N.field t.view.view cname = .ok field ∧
        (Answers t t₁ ∧ Answers t₁ t₂ ∧ Answers t₂ t₃) ∧ (0 ≤ occ ∧ occ < field.max) ∧
        Nat.max field.dim 32 ≤ bfldlenMax ∧ resetCell N field occ.toNat = .ok cell ∧
        t' = { t₃ with view := t.view.store cname field occ.toNat cell } := by
  simp only [resetOccurrence, check, succeeds_bind, succeeds_throwIf, succeeds_ofExcept, succeeds_modify]
  constructor
  · rintro ⟨⟨count, field⟩, t₁, looked, _, _, ⟨inside, rfl⟩, _, _, ⟨short, rfl⟩, _, t₂, second, data, _,
      ⟨taken, rfl⟩, _, t₃, third, cell, _, ⟨given, rfl⟩, rfl⟩
    obtain ⟨named, found, first, -⟩ := bvoccur_succeeds.1 looked
    have same : t₃.view = t.view := by rw [Answers.view third, Answers.view second, first.view]
    have within : ¬ (occ < 0 ∨ (field.max : Int) ≤ occ) := inside
    refine ⟨field, cell, t₁, t₂, t₃, named, found, ⟨first, second, third⟩, by omega, Nat.not_lt.1 short, ?_, ?_⟩
    · rw [resetCell, taken]
      exact given
    · rw [same]
  · rintro ⟨field, cell, t₁, t₂, t₃, named, found, ⟨first, second, third⟩, inside, short, reset, rfl⟩
    have same : t₃.view = t.view := by rw [Answers.view third, Answers.view second, first.view]
    obtain ⟨data, taken, given⟩ : ∃ data, N.toOwn field (field.fresh occ.toNat) = .ok data ∧ N.ofOwn field data = .ok cell := by
      rw [resetCell] at reset
      cases taken : N.toOwn field (field.fresh occ.toNat) with
      | error e =>
          rw [taken] at reset
          cases reset
      | ok data =>
          rw [taken] at reset
          exact ⟨data, rfl, reset⟩
    have within : ¬ (occ < 0 ∨ (field.max : Int) ≤ occ) := by omega
    exact ⟨(_, field), t₁, bvoccur_succeeds.2 ⟨named, found, first, rfl⟩, ⟨⟩, _, ⟨within, rfl⟩, ⟨⟩, _,
      ⟨Nat.not_lt.2 short, rfl⟩, ⟨⟩, t₂, second, data, _, ⟨taken, rfl⟩, ⟨⟩, t₃, third, cell, _, ⟨given, rfl⟩,
      by rw [same]⟩

end Calls

/-! ## What an element is written as -/

/-- What `view_write_field` hands to `bvchg`, of a scalar it does not refuse. -/
def viewValue (field : LayoutField) : ScalarTy → Scalar → Option ViewValue
  | .int min max, .int value =>
      if (min ≤ value ∧ value ≤ max) ∧ (longMin ≤ value ∧ value ≤ longMax) ∧ integerFits field.type value then
        some (.Long value)
      else none
  | .bool, .bool value => if integerFits field.type (if value then 1 else 0) then some (.Long (if value then 1 else 0)) else none
  | .float, .float bits => some (.Float bits)
  | .double, .double bits => some (.Double bits)
  | .string, .string text => some (.String text)
  | .carray, .carray bytes => some (.Carray bytes)
  | _, _ => none

/-- What an element holds after a scalar was written to it. -/
def scalarCell (N : Native) (field : LayoutField) (type : ScalarTy) (value : Scalar) : Option (List UInt8) :=
  match viewValue field type value with
  | none => none
  | some given =>
      match given.cString, N.convert field given with
      | .ok (), .ok cell => some cell
      | _, _ => none

/-- What an element holds after a value was written to it that has its place. -/
def cellOf (N : Native) (field : LayoutField) (occ : Nat) : FieldTy → Value → Option (List UInt8)
  | .scalar type, .scalar value => scalarCell N field type value
  | .option type, .some value =>
      if single type then
        match cellOf N field occ type value with
        | some cell => if field.isNull cell then none else some cell
        | none => none
      else none
  | .option type, .none =>
      if single type ∧ field.isNull (field.fresh occ) = true ∧ Nat.max field.dim 32 ≤ bfldlenMax then
        match resetCell N field occ with
        | .ok cell => some cell
        | .error _ => none
      else none
  | _, _ => none

/-- The element is one of the layout's. -/
structure Lands (N : Native) (view cname : String) (occ : Int) (field : LayoutField) : Prop where
  named : Named view cname
  found : N.field view cname = .ok field
  placed : 0 ≤ occ
  inside : occ < field.max

section Single

variable {N : Native} {cname : String} {field : LayoutField} {occ : Int} {t t' : Target} {u : PUnit}

theorem viewValue_int {min max value : Int} {given : ViewValue} :
    viewValue field (.int min max) (.int value) = some given ↔
      ((min ≤ value ∧ value ≤ max) ∧ (longMin ≤ value ∧ value ≤ longMax) ∧ integerFits field.type value) ∧
        given = .Long value := by
  simp only [viewValue]
  split
  · rename_i fits
    rw [Option.some.injEq]
    exact ⟨fun same => ⟨fits, same.symm⟩, fun same => same.2.symm⟩
  · rename_i unfit
    exact ⟨fun impossible => (by cases impossible), fun fits => absurd fits.1 unfit⟩

theorem scalarCell_eq_some {type : ScalarTy} {value : Scalar} {cell : List UInt8} :
    scalarCell N field type value = some cell ↔
      ∃ given, viewValue field type value = some given ∧ given.cString = .ok () ∧ N.convert field given = .ok cell := by
  unfold scalarCell
  cases viewValue field type value with
  | none => simp
  | some given =>
      simp only [Option.some.injEq, exists_eq_left']
      cases clean : given.cString with
      | error e => simp
      | ok u => cases converted : N.convert field given <;> simp

/-- `bvchg` of a value stores its conversion. -/
theorem bvchg_writes {given : ViewValue} (ran : Succeeds (bvchg N cname occ given) t u t') :
    ∃ field cell, Lands N t.view.view cname occ field ∧ given.cString = .ok () ∧ N.convert field given = .ok cell ∧
      t'.view = t.view.store cname field occ.toNat cell := by
  obtain ⟨field, cell, t₁, named, found, _, ⟨placed, inside⟩, ⟨clean, converted⟩, rfl⟩ := bvchg_succeeds.1 ran
  exact ⟨field, cell, ⟨named, found, placed, inside⟩, clean, converted, rfl⟩

theorem bvchg_calm {given : ViewValue} {cell : List UInt8} (calm : t.Calm)
    (lands : Lands N t.view.view cname occ field) (clean : given.cString = .ok ())
    (converted : N.convert field given = .ok cell) :
    Succeeds (bvchg N cname occ given) t ⟨⟩ { t with view := t.view.store cname field occ.toNat cell } :=
  bvchg_succeeds.2 ⟨field, cell, t, lands.named, lands.found, (answers_calm calm).2 rfl, ⟨lands.placed, lands.inside⟩,
    ⟨clean, converted⟩, rfl⟩

theorem writeInteger_writes {value : Int} (ran : Succeeds (writeInteger N cname occ value) t u t') :
    ∃ field cell, Lands N t.view.view cname occ field ∧ integerFits field.type value ∧
      N.convert field (.Long value) = .ok cell ∧ t'.view = t.view.store cname field occ.toNat cell := by
  unfold writeInteger at ran
  obtain ⟨⟨count, field⟩, t₁, looked, rest⟩ := succeeds_bind.1 ran
  obtain ⟨-, found, answers, -⟩ := bvoccur_succeeds.1 looked
  obtain ⟨_, t₂, passed, changed⟩ := succeeds_bind.1 rest
  obtain ⟨fits, rfl⟩ := succeeds_throwIf.1 passed
  obtain ⟨field', cell, lands, _, converted, stored⟩ := bvchg_writes changed
  rw [answers.view] at lands stored
  obtain rfl : field' = field := Except.ok.inj (lands.found.symm.trans found)
  exact ⟨field', cell, lands, not_not.1 fits, converted, stored⟩

theorem writeInteger_calm {value : Int} {cell : List UInt8} (calm : t.Calm)
    (lands : Lands N t.view.view cname occ field) (fits : integerFits field.type value)
    (converted : N.convert field (.Long value) = .ok cell) :
    Succeeds (writeInteger N cname occ value) t ⟨⟩ { t with view := t.view.store cname field occ.toNat cell } :=
  succeeds_bind.2 ⟨(_, field), t, bvoccur_succeeds.2 ⟨lands.named, lands.found, (answers_calm calm).2 rfl, rfl⟩,
    succeeds_bind.2 ⟨⟨⟩, t, succeeds_throwIf.2 ⟨not_not.2 fits, rfl⟩, bvchg_calm calm lands rfl converted⟩⟩

/-- A scalar that is written is in its element, as the bytes of its type. -/
theorem writeScalar_writes {type : ScalarTy} {value : Scalar}
    (ran : Succeeds (writeScalar N cname occ type value) t u t') :
    ∃ field cell, Lands N t.view.view cname occ field ∧ scalarCell N field type value = some cell ∧
      t'.view = t.view.store cname field occ.toNat cell := by
  have plain : ∀ {given : ViewValue}, Succeeds (bvchg N cname occ given) t u t' →
      (∀ field, viewValue field type value = some given) →
      ∃ field cell, Lands N t.view.view cname occ field ∧ scalarCell N field type value = some cell ∧
        t'.view = t.view.store cname field occ.toNat cell := by
    intro given changed handed
    obtain ⟨field, cell, lands, clean, converted, stored⟩ := bvchg_writes changed
    exact ⟨field, cell, lands, scalarCell_eq_some.2 ⟨given, handed field, clean, converted⟩, stored⟩
  unfold writeScalar at ran
  split at ran
  · obtain ⟨_, t₁, first, rest⟩ := succeeds_bind.1 ran
    obtain ⟨typed, rfl⟩ := succeeds_throwIf.1 first
    obtain ⟨_, t₂, second, rest⟩ := succeeds_bind.1 rest
    obtain ⟨long, rfl⟩ := succeeds_throwIf.1 second
    obtain ⟨field, cell, lands, fits, converted, stored⟩ := writeInteger_writes rest
    refine ⟨field, cell, lands, scalarCell_eq_some.2 ⟨_, viewValue_int.2 ⟨⟨?_, ?_, fits⟩, rfl⟩, rfl, converted⟩, stored⟩
    · exact not_not.1 typed
    · exact not_not.1 long
  · obtain ⟨field, cell, lands, fits, converted, stored⟩ := writeInteger_writes ran
    exact ⟨field, cell, lands, scalarCell_eq_some.2 ⟨_, if_pos fits, rfl, converted⟩, stored⟩
  · exact plain ran fun _ => rfl
  · exact plain ran fun _ => rfl
  · exact plain ran fun _ => rfl
  · exact plain ran fun _ => rfl
  · exact absurd ran succeeds_throw

/-- Where the native layer answers, a scalar in range is written. -/
theorem writeScalar_calm {type : ScalarTy} {value : Scalar} {cell : List UInt8} (calm : t.Calm)
    (lands : Lands N t.view.view cname occ field) (written : scalarCell N field type value = some cell) :
    Succeeds (writeScalar N cname occ type value) t ⟨⟩ { t with view := t.view.store cname field occ.toNat cell } := by
  obtain ⟨given, handed, clean, converted⟩ := scalarCell_eq_some.1 written
  unfold writeScalar
  split
  · obtain ⟨⟨typed, long, fits⟩, rfl⟩ := viewValue_int.1 handed
    exact succeeds_bind.2 ⟨⟨⟩, t, succeeds_throwIf.2 ⟨not_not.2 typed, rfl⟩,
      succeeds_bind.2 ⟨⟨⟩, t, succeeds_throwIf.2 ⟨not_not.2 long, rfl⟩, writeInteger_calm calm lands fits converted⟩⟩
  · rename_i value
    by_cases fits : integerFits field.type (if value then 1 else 0)
    · obtain rfl := Option.some.inj ((if_pos fits).symm.trans handed)
      exact writeInteger_calm calm lands fits converted
    · cases (if_neg fits).symm.trans handed
  · cases handed
    exact bvchg_calm calm lands clean converted
  · cases handed
    exact bvchg_calm calm lands clean converted
  · cases handed
    exact bvchg_calm calm lands clean converted
  · cases handed
    exact bvchg_calm calm lands clean converted
  · cases type <;> cases value <;> first | (cases handed; done) | simp_all

/-- An element set to null holds the null of the layout. -/
theorem bvsetnull_writes (ran : Succeeds (bvsetnull N cname occ) t u t') :
    ∃ field cell, Lands N t.view.view cname occ field ∧ field.isNull (field.fresh occ.toNat) = true ∧
      Nat.max field.dim 32 ≤ bfldlenMax ∧ resetCell N field occ.toNat = .ok cell ∧
      t'.view = t.view.store cname field occ.toNat cell := by
  unfold bvsetnull at ran
  obtain ⟨_, t₁, made, rest⟩ := succeeds_bind.1 ran
  obtain ⟨-, t₂, first, second⟩ := template_succeeds.1 made
  obtain ⟨field, t₃, member, rest⟩ := succeeds_bind.1 rest
  obtain ⟨named, found, third⟩ := memberOf_succeeds.1 member
  obtain ⟨i, t₄, checked, rest⟩ := succeeds_bind.1 rest
  obtain ⟨located, rfl⟩ := succeeds_ofExcept.1 checked
  obtain ⟨placed, inside, rfl⟩ := element_eq_ok.1 located
  obtain ⟨_, t₅, passed, reset⟩ := succeeds_bind.1 rest
  obtain ⟨null, rfl⟩ := succeeds_throwIf.1 passed
  obtain ⟨field', cell, _, _, _, _, found', _, _, short, copied, rfl⟩ := resetOccurrence_succeeds.1 reset
  have same : t₃.view = t.view := by rw [third.view, second.view, first.view]
  have before : t₁.view = t.view := by rw [second.view, first.view]
  rw [before] at named found
  rw [same] at found'
  obtain rfl : field' = field := Except.ok.inj (found'.symm.trans found)
  exact ⟨field', cell, ⟨named, found, placed, inside⟩, by simpa using null, short, copied, by rw [same]⟩

theorem bvsetnull_calm {cell : List UInt8} (calm : t.Calm) (lands : Lands N t.view.view cname occ field)
    (null : field.isNull (field.fresh occ.toNat) = true) (short : Nat.max field.dim 32 ≤ bfldlenMax)
    (copied : resetCell N field occ.toNat = .ok cell) :
    Succeeds (bvsetnull N cname occ) t ⟨⟩ { t with view := t.view.store cname field occ.toNat cell } := by
  have answers : Answers t t := (answers_calm calm).2 rfl
  refine succeeds_bind.2 ⟨⟨⟩, t, template_succeeds.2 ⟨lands.named.1, t, answers, answers⟩, ?_⟩
  refine succeeds_bind.2 ⟨field, t, memberOf_succeeds.2 ⟨lands.named, lands.found, answers⟩, ?_⟩
  refine succeeds_bind.2 ⟨_, t, succeeds_ofExcept.2 ⟨element_eq_ok.2 ⟨lands.placed, lands.inside, rfl⟩, rfl⟩, ?_⟩
  refine succeeds_bind.2 ⟨⟨⟩, t, succeeds_throwIf.2 ⟨by simp [null], rfl⟩, ?_⟩
  exact resetOccurrence_succeeds.2 ⟨field, cell, t, t, t, lands.named, lands.found, ⟨answers, answers, answers⟩,
    ⟨lands.placed, lands.inside⟩, short, copied, rfl⟩

theorem cellOf_some {type : FieldTy} {value : Value} {i : Nat} {cell : List UInt8} :
    cellOf N field i (.option type) (.some value) = some cell ↔
      single type = true ∧ cellOf N field i type value = some cell ∧ field.isNull cell = false := by
  simp only [cellOf]
  cases single type with
  | false => simp
  | true =>
      cases written : cellOf N field i type value with
      | none => simp
      | some cell' =>
          simp only [if_true, Option.some.injEq, true_and]
          split
          · rename_i null
            refine ⟨fun impossible => (by cases impossible), ?_⟩
            rintro ⟨rfl, present⟩
            cases null.symm.trans present
          · rename_i present
            rw [Option.some.injEq]
            exact ⟨fun same => ⟨same, same ▸ Bool.eq_false_iff.2 present⟩, fun same => same.1⟩

theorem cellOf_none {type : FieldTy} {i : Nat} {cell : List UInt8} :
    cellOf N field i (.option type) .none = some cell ↔
      (single type = true ∧ field.isNull (field.fresh i) = true ∧ Nat.max field.dim 32 ≤ bfldlenMax) ∧
        resetCell N field i = .ok cell := by
  simp only [cellOf]
  split
  · rename_i fits
    cases resetCell N field i <;> simp [fits]
  · rename_i unfit
    exact ⟨fun impossible => (by cases impossible), fun fits => absurd fits.1 unfit⟩

/-- **A write to one element** stores what the element is written as. -/
theorem single_writes {type : FieldTy} (one : single type = true) : ∀ {value : Value} {t t' : Target},
    Succeeds (writeField N cname type value occ) t u t' →
      ∃ field cell, Lands N t.view.view cname occ field ∧ cellOf N field occ.toNat type value = some cell ∧
        t'.view = t.view.store cname field occ.toNat cell := by
  induction type with
  | scalar type =>
      intro value t t' ran
      cases value with
      | scalar value => exact writeScalar_writes ran
      | _ => exact absurd ran succeeds_throw
  | option type ih =>
      intro value t t' ran
      obtain ⟨_, t₁, checked, rest⟩ := succeeds_bind.1 ran
      obtain ⟨wide, rfl⟩ := succeeds_ofExcept.1 checked
      have inner := requireSingle_eq_ok.1 wide
      cases value with
      | some value =>
          obtain ⟨_, t₂, wrote, rest⟩ := succeeds_bind.1 rest
          obtain ⟨field, cell, lands, written, stored⟩ := ih inner wrote
          obtain ⟨null, t₃, asked, passed⟩ := succeeds_bind.1 rest
          obtain ⟨field', _, found, answers, _, rfl⟩ := bvnull_succeeds.1 asked
          obtain ⟨present, rfl⟩ := succeeds_throwIf.1 passed
          rw [stored] at found present
          obtain rfl : field' = field := Except.ok.inj (found.symm.trans lands.found)
          have kept : field'.isNull cell = false := by simpa [TypedView.store] using present
          exact ⟨field', cell, lands, cellOf_some.2 ⟨inner, written, kept⟩, answers.view.trans stored⟩
      | none =>
          obtain ⟨field, cell, lands, null, short, copied, stored⟩ := bvsetnull_writes rest
          exact ⟨field, cell, lands, cellOf_none.2 ⟨⟨inner, null, short⟩, copied⟩, stored⟩
      | _ => exact absurd rest succeeds_throw
  | vec type ih => cases one
  | array size type ih => cases one

/-- When the native calls answer, it succeeds if there is something to store. -/
theorem single_calm {type : FieldTy} (one : single type = true) : ∀ {value : Value} {t : Target} {cell : List UInt8},
    t.Calm → Lands N t.view.view cname occ field → cellOf N field occ.toNat type value = some cell →
      Succeeds (writeField N cname type value occ) t ⟨⟩
        { t with view := t.view.store cname field occ.toNat cell } := by
  induction type with
  | scalar type =>
      intro value t cell calm lands written
      cases value with
      | scalar value => exact writeScalar_calm calm lands written
      | _ => cases written
  | option type ih =>
      intro value t cell calm lands written
      cases value with
      | some value =>
          obtain ⟨inner, stored, present⟩ := cellOf_some.1 written
          refine succeeds_bind.2 ⟨⟨⟩, t, succeeds_ofExcept.2 ⟨requireSingle_eq_ok.2 inner, rfl⟩, ?_⟩
          refine succeeds_bind.2 ⟨⟨⟩, _, ih inner calm lands stored, ?_⟩
          have calmly : Target.Calm { t with view := t.view.store cname field occ.toNat cell } := calm
          refine succeeds_bind.2 ⟨_, _, bvnull_succeeds.2 ⟨field, lands.named, lands.found, (answers_calm calmly).2 rfl,
            ⟨lands.placed, lands.inside⟩, rfl⟩, succeeds_throwIf.2 ⟨?_, rfl⟩⟩
          simp [TypedView.store, present]
      | none =>
          obtain ⟨⟨inner, null, short⟩, copied⟩ := cellOf_none.1 written
          refine succeeds_bind.2 ⟨⟨⟩, t, succeeds_ofExcept.2 ⟨requireSingle_eq_ok.2 inner, rfl⟩, ?_⟩
          exact bvsetnull_calm calm lands null short copied
      | _ => cases written
  | vec type ih => cases one
  | array size type ih => cases one

end Single

/-! ## Runs of elements -/

/-- Elements stored one after another. -/
def storeAll (cname : String) (field : LayoutField) : TypedView → Nat → List (List UInt8) → TypedView
  | v, _, [] => v
  | v, start, cell :: cells => storeAll cname field (v.store cname field start cell) (start + 1) cells

section Runs

variable {N : Native} {cname : String} {field : LayoutField}

@[simp] theorem storeAll_view : ∀ (cells : List (List UInt8)) (v : TypedView) (start : Nat),
    (storeAll cname field v start cells).view = v.view
  | [], _, _ => rfl
  | _ :: cells, _, start => storeAll_view cells _ (start + 1)

/-- Elements stored one after another. -/
theorem storeAll_cells : ∀ (cells : List (List UInt8)) (v : TypedView) (start : Nat) (c : String) (i : Nat),
    (storeAll cname field v start cells).cells c i =
      if c = cname ∧ start ≤ i ∧ i < start + cells.length then (cells[i - start]?).getD [] else v.cells c i
  | [], v, start, c, i => by
      rw [storeAll, if_neg (by simp)]
  | cell :: cells, v, start, c, i => by
      rw [storeAll, storeAll_cells cells, List.length_cons]
      by_cases here : c = cname
      · subst here
        by_cases first : i = start
        · subst first
          rw [if_neg (by omega), if_pos (by simp), Nat.sub_self]
          simp [TypedView.store]
        · by_cases later : start + 1 ≤ i ∧ i < start + 1 + cells.length
          · rw [if_pos ⟨rfl, later⟩, if_pos (by refine ⟨rfl, ?_⟩; omega), show i - start = i - (start + 1) + 1 by omega]
            rfl
          · rw [if_neg (fun inside => later inside.2), if_neg (by rintro ⟨_, _⟩; omega)]
            simp [TypedView.store, first]
      · simp [here, TypedView.store]

theorem storeAll_counts : ∀ (cells : List (List UInt8)) (v : TypedView) (start : Nat) (c : String),
    (storeAll cname field v start cells).counts c =
      if c = cname ∧ field.counted = true ∧ cells ≠ [] then Nat.max (v.counts c) (start + cells.length) else v.counts c
  | [], v, start, c => by simp [storeAll]
  | cell :: cells, v, start, c => by
      rw [storeAll, storeAll_counts cells, List.length_cons]
      by_cases here : c = cname ∧ field.counted = true
      · obtain ⟨rfl, counted⟩ := here
        have stored : (v.store c field start cell).counts c = Nat.max (v.counts c) (start + 1) := if_pos ⟨rfl, counted⟩
        rw [stored, if_pos (show c = c ∧ field.counted = true ∧ cell :: cells ≠ [] from ⟨rfl, counted, List.cons_ne_nil _ _⟩)]
        by_cases none : cells = []
        · subst none
          rw [if_neg (by simp)]
          rfl
        · have some : 0 < cells.length := List.length_pos_iff.2 none
          rw [if_pos ⟨rfl, counted, none⟩]
          simp only [Nat.max_def]
          split <;> split <;> split <;> omega
      · rw [if_neg (fun inside => here ⟨inside.1, inside.2.1⟩), if_neg (fun inside => here ⟨inside.1, inside.2.1⟩)]
        exact if_neg here

/-- What elements from `start` on are written as. -/
def cellsOf (N : Native) (field : LayoutField) (type : FieldTy) : Nat → List Value → Option (List (List UInt8))
  | _, [] => some []
  | start, value :: values =>
      match cellOf N field start type value, cellsOf N field type (start + 1) values with
      | some cell, some cells => some (cell :: cells)
      | _, _ => none

theorem cellsOf_cons {type : FieldTy} {start : Nat} {value : Value} {values : List Value}
    {all : List (List UInt8)} :
    cellsOf N field type start (value :: values) = some all ↔
      ∃ cell cells, cellOf N field start type value = some cell ∧
        cellsOf N field type (start + 1) values = some cells ∧ cell :: cells = all := by
  simp only [cellsOf]
  cases cellOf N field start type value with
  | none => simp
  | some cell => cases cellsOf N field type (start + 1) values <;> simp

theorem cellsOf_length {type : FieldTy} : ∀ {values : List Value} {start : Nat} {cells : List (List UInt8)},
    cellsOf N field type start values = some cells → cells.length = values.length
  | [], _, _, written => by
      cases written
      rfl
  | value :: values, start, cells, written => by
      obtain ⟨_, rest, _, later, rfl⟩ := cellsOf_cons.1 written
      rw [List.length_cons, List.length_cons, cellsOf_length later]

/-- **Elements one after another** store what each is written as. -/
theorem writeEach_writes {type : FieldTy} (one : single type = true) {occ : Int} (placed : 0 ≤ occ) :
    ∀ (values : List Value) (index : Nat) {t t' : Target} {u : PUnit}, N.field t.view.view cname = .ok field →
      Succeeds (writeEach (writeField N cname type) occ index values) t u t' →
      ∃ cells, cellsOf N field type (occ.toNat + index) values = some cells ∧
        t'.view = storeAll cname field t.view (occ.toNat + index) cells
  | [], index, t, t', u, found, ran => by
      obtain ⟨-, rfl⟩ := succeeds_pure.1 ran
      exact ⟨[], rfl, rfl⟩
  | value :: values, index, t, t', u, found, ran => by
      obtain ⟨at', t₁, checked, rest⟩ := succeeds_bind.1 ran
      obtain ⟨located, rfl⟩ := succeeds_ofExcept.1 checked
      obtain ⟨-, -, rfl⟩ := ubfOccurrence_eq_ok.1 located
      obtain ⟨_, t₂, wrote, rest⟩ := succeeds_bind.1 rest
      obtain ⟨field', cell, lands, written, stored⟩ := single_writes one wrote
      obtain rfl : field = field' := Except.ok.inj (found.symm.trans lands.found)
      have known : N.field t₂.view.view cname = .ok field := by
        rw [stored]
        exact found
      obtain ⟨cells, later, after⟩ := writeEach_writes one placed values (index + 1) known rest
      have here : (occ + index).toNat = occ.toNat + index := by omega
      rw [here] at written stored
      refine ⟨cell :: cells, cellsOf_cons.2 ⟨cell, cells, written, later, rfl⟩, ?_⟩
      rw [after, stored]
      rfl

theorem writeEach_calm {type : FieldTy} (one : single type = true) {occ : Int} (placed : 0 ≤ occ) :
    ∀ (values : List Value) (index : Nat) {t : Target} {cells : List (List UInt8)}, t.Calm →
      Named t.view.view cname → N.field t.view.view cname = .ok field →
      occ + index + values.length ≤ Ubf.i32Max → occ.toNat + index + values.length ≤ field.max →
      cellsOf N field type (occ.toNat + index) values = some cells →
      Succeeds (writeEach (writeField N cname type) occ index values) t ⟨⟩
        { t with view := storeAll cname field t.view (occ.toNat + index) cells }
  | [], index, t, cells, calm, named, found, short, inside, written => by
      cases written
      exact succeeds_pure.2 ⟨rfl, rfl⟩
  | value :: values, index, t, cells, calm, named, found, short, inside, written => by
      obtain ⟨cell, rest, first, later, rfl⟩ := cellsOf_cons.1 written
      rw [List.length_cons] at short inside
      have here : (occ + index).toNat = occ.toNat + index := by omega
      have lands : Lands N t.view.view cname (occ + index) field := ⟨named, found, by omega, by omega⟩
      refine succeeds_bind.2 ⟨_, t, succeeds_ofExcept.2 ⟨ubfOccurrence_eq_ok.2 ⟨placed, by omega, rfl⟩, rfl⟩, ?_⟩
      refine succeeds_bind.2 ⟨⟨⟩, _, single_calm one calm lands (here.symm ▸ first), ?_⟩
      rw [here]
      have calmly : Target.Calm { t with view := t.view.store cname field (occ.toNat + index) cell } := calm
      exact writeEach_calm one placed values (index + 1) calmly named found (by omega) (by omega) later

/-- The elements the reset of so many leaves. -/
def resetCells (N : Native) (field : LayoutField) : Nat → Nat → Option (List (List UInt8))
  | _, 0 => some []
  | start, count + 1 =>
      match resetCell N field start, resetCells N field (start + 1) count with
      | .ok cell, some cells => some (cell :: cells)
      | _, _ => none

theorem resetCells_succ {start count : Nat} {all : List (List UInt8)} :
    resetCells N field start (count + 1) = some all ↔
      ∃ cell cells, resetCell N field start = .ok cell ∧ resetCells N field (start + 1) count = some cells ∧
        cell :: cells = all := by
  simp only [resetCells]
  cases resetCell N field start with
  | error e => simp
  | ok cell => cases resetCells N field (start + 1) count <;> simp

theorem resetCells_length : ∀ {count start : Nat} {cells : List (List UInt8)},
    resetCells N field start count = some cells → cells.length = count
  | 0, _, _, reset => by
      cases reset
      rfl
  | count + 1, start, cells, reset => by
      obtain ⟨_, rest, _, later, rfl⟩ := resetCells_succ.1 reset
      rw [List.length_cons, resetCells_length later]

/-- The rest of a field reset: by induction on how many elements are left. -/
theorem resetEach_writes : ∀ (count : Nat) (occ : Int) {t t' : Target} {u : PUnit},
    N.field t.view.view cname = .ok field → Succeeds (resetEach N cname occ count) t u t' →
      ∃ cells, resetCells N field occ.toNat count = some cells ∧
        t'.view = storeAll cname field t.view occ.toNat cells
  | 0, occ, t, t', u, found, ran => by
      obtain ⟨-, rfl⟩ := succeeds_pure.1 ran
      exact ⟨[], rfl, rfl⟩
  | count + 1, occ, t, t', u, found, ran => by
      obtain ⟨_, t₁, reset, rest⟩ := succeeds_bind.1 ran
      obtain ⟨field', cell, t₂, t₃, t₄, _, found', _, ⟨placed, _⟩, _, copied, rfl⟩ :=
        resetOccurrence_succeeds.1 reset
      obtain rfl : field = field' := Except.ok.inj (found.symm.trans found')
      have found : N.field (t.view.store cname field occ.toNat cell).view cname = .ok field := found
      obtain ⟨cells, later, after⟩ := resetEach_writes (t := { t₄ with view := _ }) count (occ + 1) found rest
      have next : (occ + 1).toNat = occ.toNat + 1 := by omega
      rw [next] at later after
      exact ⟨cell :: cells, resetCells_succ.2 ⟨cell, cells, copied, later, rfl⟩, after⟩

theorem resetEach_calm : ∀ (count : Nat) (occ : Int) {t : Target} {cells : List (List UInt8)}, t.Calm →
    Named t.view.view cname → N.field t.view.view cname = .ok field → 0 ≤ occ → occ.toNat + count ≤ field.max →
    Nat.max field.dim 32 ≤ bfldlenMax → resetCells N field occ.toNat count = some cells →
      Succeeds (resetEach N cname occ count) t ⟨⟩ { t with view := storeAll cname field t.view occ.toNat cells }
  | 0, occ, t, cells, calm, named, found, placed, inside, short, reset => by
      cases reset
      exact succeeds_pure.2 ⟨rfl, rfl⟩
  | count + 1, occ, t, cells, calm, named, found, placed, inside, short, reset => by
      obtain ⟨cell, rest, first, later, rfl⟩ := resetCells_succ.1 reset
      have next : (occ + 1).toNat = occ.toNat + 1 := by omega
      have answers : Answers t t := (answers_calm calm).2 rfl
      refine succeeds_bind.2 ⟨⟨⟩, _, resetOccurrence_succeeds.2 ⟨field, cell, t, t, t, named, found,
        ⟨answers, answers, answers⟩, ⟨placed, by omega⟩, short, first, rfl⟩, ?_⟩
      have calmly : Target.Calm { t with view := t.view.store cname field occ.toNat cell } := calm
      have after := resetEach_calm count (occ + 1) calmly named found (by omega) (by omega) short (next.symm ▸ later)
      rw [next] at after
      exact after

end Runs

end Endurox.View
