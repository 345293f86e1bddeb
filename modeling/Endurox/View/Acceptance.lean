/-
# View.Acceptance -- when a value can be written

Whether `view_write` accepts a value is a matter of its layout alone: every element has
something to store, every vector and array has its room, a vector shorter than its array
has a count indicator, and what is reset can be.  What the VIEW holds before never matters.
-/
import Endurox.View.Elements

namespace Endurox.View

open Endurox.Theory
open Endurox.Typed (UbfError UbfCode)
open Endurox.Ubf (Scalar ScalarTy FieldTy Value StructId ubfOccurrence requireSingle about i32Max
  ubfOccurrence_eq_ok requireSingle_eq_ok)

set_option autoImplicit false

/-! ## Collections -/

/-- Elements from `occ` on fit the array, and each has something to store. -/
structure ElementsFit (N : Native) (field : LayoutField) (type : FieldTy) (values : List Value) (occ : Int)
    (cells : List (List UInt8)) : Prop where
  placed : 0 ≤ occ
  short : occ + values.length ≤ i32Max
  room : occ.toNat + values.length ≤ field.max
  stored : cellsOf N field type occ.toNat values = some cells

/-- A vector that ends at `last` says so, and the rest of its array can be reset. -/
structure RestFits (N : Native) (field : LayoutField) (last : Nat) (resets : List (List UInt8)) : Prop where
  counter : field.counted = true ∨ last = field.max
  dims : last < field.max → Nat.max field.dim 32 ≤ bfldlenMax
  reset : resetCells N field last (field.max - last) = some resets

/-- What a vector leaves. -/
def vecImage (cname : String) (field : LayoutField) (v : TypedView) (occ : Nat)
    (cells resets : List (List UInt8)) : TypedView :=
  let last := occ + cells.length
  (storeAll cname field (storeAll cname field (v.setCount cname field last) occ cells) last resets).setCount
    cname field last

section Collections

variable {N : Native} {cname : String} {type : FieldTy} {values : List Value} {occ : Int} {t t' : Target} {u : PUnit}

theorem setCount_active (v : TypedView) (cname : String) (field : LayoutField) (count : Nat) :
    (v.setCount cname field count).active cname field = if field.counted then count else field.max := by
  unfold TypedView.active TypedView.setCount
  cases field.counted <;> simp

/-- The rest of a vector's array. -/
theorem resetRest_writes {field : LayoutField} {last : Int} (placed : 0 ≤ last)
    (found : N.field t.view.view cname = .ok field)
    (ran : Succeeds (runIf (last < field.max) do
      template
      resetEach N cname last (field.max - last.toNat)) t u t') :
    ∃ resets, (last < field.max → Nat.max field.dim 32 ≤ bfldlenMax) ∧
      resetCells N field last.toNat (field.max - last.toNat) = some resets ∧
      t'.view = storeAll cname field t.view last.toNat resets := by
  rcases succeeds_runIf.1 ran with ⟨before, ran⟩ | ⟨after, rfl⟩
  · obtain ⟨_, t₁, made, rest⟩ := succeeds_bind.1 ran
    obtain ⟨-, t₂, first, second⟩ := template_succeeds.1 made
    have same : t₁.view = t.view := by rw [second.view, first.view]
    obtain ⟨resets, reset, left⟩ := resetEach_writes (field.max - last.toNat) last (same ▸ found) rest
    refine ⟨resets, fun _ => ?_, reset, by rw [left, same]⟩
    obtain ⟨count, some⟩ : ∃ count, field.max - last.toNat = count + 1 := ⟨field.max - last.toNat - 1, by omega⟩
    rw [some] at rest
    obtain ⟨_, t₃, one, -⟩ := succeeds_bind.1 rest
    obtain ⟨field', _, _, _, _, _, found', _, _, short, _⟩ := resetOccurrence_succeeds.1 one
    rw [same] at found'
    obtain rfl : field = field' := Except.ok.inj (found.symm.trans found')
    exact short
  · have none : field.max - last.toNat = 0 := by omega
    exact ⟨[], fun before => absurd before after, by rw [none]; rfl, rfl⟩

theorem resetRest_calm {field : LayoutField} {last : Int} {resets : List (List UInt8)} (calm : t.Calm)
    (placed : 0 ≤ last) (named : Named t.view.view cname) (found : N.field t.view.view cname = .ok field)
    (short : last < field.max → Nat.max field.dim 32 ≤ bfldlenMax)
    (reset : resetCells N field last.toNat (field.max - last.toNat) = some resets) :
    Succeeds (runIf (last < field.max) do
      template
      resetEach N cname last (field.max - last.toNat)) t ⟨⟩
      { t with view := storeAll cname field t.view last.toNat resets } := by
  have answers : Answers t t := (answers_calm calm).2 rfl
  by_cases before : last < field.max
  · refine succeeds_runIf.2 (.inl ⟨before, succeeds_bind.2 ⟨⟨⟩, t, template_succeeds.2 ⟨named.1, t, answers, answers⟩, ?_⟩⟩)
    exact resetEach_calm _ last calm named found placed (by omega) (short before) reset
  · have none : field.max - last.toNat = 0 := by omega
    rw [none] at reset
    cases reset
    exact succeeds_runIf.2 (.inr ⟨before, rfl⟩)

/-- A `Vec` that is written has the count and the elements it should. -/
theorem writeVec_writes (one : single type = true)
    (ran : Succeeds (writeVec N cname (writeField N cname type) values occ) t u t') :
    ∃ field cells resets, Named t.view.view cname ∧ N.field t.view.view cname = .ok field ∧
      ElementsFit N field type values occ cells ∧ RestFits N field (occ.toNat + values.length) resets ∧
      t'.view = vecImage cname field t.view occ.toNat cells resets := by
  unfold writeVec at ran
  obtain ⟨last, t₁, located, rest⟩ := succeeds_bind.1 ran
  obtain ⟨within, rfl⟩ := succeeds_ofExcept.1 located
  obtain ⟨placed, short, rfl⟩ := ubfOccurrence_eq_ok.1 within
  have here : (occ + (values.length : Int)).toNat = occ.toNat + values.length := by omega
  obtain ⟨⟨_, field⟩, t₂, looked, rest⟩ := succeeds_bind.1 rest
  obtain ⟨named, found, first, -⟩ := bvoccur_succeeds.1 looked
  obtain ⟨_, t₃, passed, rest⟩ := succeeds_bind.1 rest
  obtain ⟨room, rfl⟩ := succeeds_throwIf.1 passed
  obtain ⟨_, t₄, counting, rest⟩ := succeeds_bind.1 rest
  obtain ⟨field', t₅, -, found', second, -, rfl⟩ := bvsetoccur_succeeds.1 counting
  rw [first.view] at found'
  obtain rfl : field = field' := Except.ok.inj (found.symm.trans found')
  rw [first.view] at rest
  obtain ⟨⟨count, again⟩, t₆, recounted, rest⟩ := succeeds_bind.1 rest
  obtain ⟨-, found'', third, rfl⟩ := bvoccur_succeeds.1 recounted
  obtain rfl : field = again := Except.ok.inj (found.symm.trans found'')
  obtain ⟨_, t₇, agrees, rest⟩ := succeeds_bind.1 rest
  obtain ⟨counter, rfl⟩ := succeeds_throwIf.1 agrees
  obtain ⟨_, t₈, wrote, rest⟩ := succeeds_bind.1 rest
  have known : N.field t₆.view.view cname = .ok field := by
    rw [third.view]
    exact found
  obtain ⟨cells, stored, left⟩ := writeEach_writes one placed values 0 known wrote
  obtain ⟨_, t₉, cleared, counted⟩ := succeeds_bind.1 rest
  have known' : N.field t₈.view.view cname = .ok field := by
    rw [left, storeAll_view]
    exact known
  obtain ⟨resets, dims, reset, cleaned⟩ := resetRest_writes (by omega) known' cleared
  obtain ⟨field', t₁₀, -, found', -, -, rfl⟩ := bvsetoccur_succeeds.1 counted
  have known'' : N.field t₉.view.view cname = .ok field := by
    rw [cleaned, storeAll_view]
    exact known'
  obtain rfl : field = field' := Except.ok.inj (known''.symm.trans found')
  have total := cellsOf_length stored
  rw [here] at reset cleaned
  refine ⟨field, cells, resets, named, found, ⟨placed, short, by omega, stored⟩, ⟨?_, fun before => dims (by omega), reset⟩, ?_⟩
  · rw [not_not, setCount_active, here] at counter
    cases counted : field.counted with
    | true => exact .inl rfl
    | false =>
        rw [counted] at counter
        have full : (field.max : Int) = occ + values.length := counter
        exact .inr (by omega)
  · simp only [cleaned, left, third.view, here, total, vecImage, Nat.add_zero]

/-- Where the native layer answers, a `Vec` that fits is written. -/
theorem writeVec_calm {field : LayoutField} {cells resets : List (List UInt8)} (one : single type = true)
    (calm : t.Calm) (named : Named t.view.view cname) (found : N.field t.view.view cname = .ok field)
    (fits : ElementsFit N field type values occ cells)
    (rest : RestFits N field (occ.toNat + values.length) resets) :
    Succeeds (writeVec N cname (writeField N cname type) values occ) t ⟨⟩
      { t with view := vecImage cname field t.view occ.toNat cells resets } := by
  obtain ⟨placed, short, room, stored⟩ := fits
  obtain ⟨counter, dims, reset⟩ := rest
  have here : (occ + (values.length : Int)).toNat = occ.toNat + values.length := by omega
  have total := cellsOf_length stored
  have calmly : ∀ view, Target.Calm { t with view } := fun _ => calm
  unfold writeVec
  refine succeeds_bind.2 ⟨_, t, succeeds_ofExcept.2 ⟨ubfOccurrence_eq_ok.2 ⟨placed, short, rfl⟩, rfl⟩, ?_⟩
  refine succeeds_bind.2 ⟨(_, field), t, bvoccur_succeeds.2 ⟨named, found, (answers_calm calm).2 rfl, rfl⟩, ?_⟩
  refine succeeds_bind.2 ⟨⟨⟩, t, succeeds_throwIf.2 ⟨by show ¬ (field.max : Int) < _; omega, rfl⟩, ?_⟩
  refine succeeds_bind.2 ⟨⟨⟩, _, bvsetoccur_succeeds.2 ⟨field, t, named, found, (answers_calm calm).2 rfl, by omega, rfl⟩, ?_⟩
  refine succeeds_bind.2 ⟨(_, field), _, bvoccur_succeeds.2 ⟨named, found, (answers_calm (calmly _)).2 rfl, rfl⟩, ?_⟩
  refine succeeds_bind.2 ⟨⟨⟩, _, succeeds_throwIf.2 ⟨?_, rfl⟩, ?_⟩
  · rw [not_not, setCount_active, here]
    rcases counter with counted | full
    · rw [if_pos counted]
      omega
    · split <;> omega
  refine succeeds_bind.2 ⟨⟨⟩, _, writeEach_calm one placed values 0 (calmly _) named found (by omega) (by omega) stored, ?_⟩
  have known : N.field (storeAll cname field (t.view.setCount cname field (occ + (values.length : Int)).toNat)
      (occ.toNat + 0) cells).view cname = .ok field := by
    rw [storeAll_view]
    exact found
  rw [← here] at reset
  refine succeeds_bind.2 ⟨⟨⟩, _, resetRest_calm (calmly _) (by omega) ?_ known (fun before => dims (by omega)) reset, ?_⟩
  · rw [storeAll_view]
    exact named
  refine bvsetoccur_succeeds.2 ⟨field, _, ?_, ?_, (answers_calm (calmly _)).2 rfl, by omega, ?_⟩
  · rw [storeAll_view, storeAll_view]
    exact named
  · rw [storeAll_view, storeAll_view]
    exact found
  · simp only [vecImage, here, total, Nat.add_zero]

/-- An array that is written has its elements. -/
theorem writeArray_writes (one : single type = true)
    (ran : Succeeds (writeArray N cname (writeField N cname type) values occ) t u t') :
    ∃ field cells, Named t.view.view cname ∧ N.field t.view.view cname = .ok field ∧
      ElementsFit N field type values occ cells ∧ t'.view = storeAll cname field t.view occ.toNat cells := by
  unfold writeArray at ran
  obtain ⟨last, t₁, located, rest⟩ := succeeds_bind.1 ran
  obtain ⟨within, rfl⟩ := succeeds_ofExcept.1 located
  obtain ⟨placed, short, rfl⟩ := ubfOccurrence_eq_ok.1 within
  obtain ⟨⟨_, field⟩, t₂, looked, rest⟩ := succeeds_bind.1 rest
  obtain ⟨named, found, first, -⟩ := bvoccur_succeeds.1 looked
  obtain ⟨_, t₃, passed, rest⟩ := succeeds_bind.1 rest
  obtain ⟨room, rfl⟩ := succeeds_throwIf.1 passed
  have known : N.field t₂.view.view cname = .ok field := by
    rw [first.view]
    exact found
  obtain ⟨cells, stored, left⟩ := writeEach_writes one placed values 0 known rest
  rw [first.view] at left
  have fits : ¬ (field.max : Int) < occ + values.length := room
  exact ⟨field, cells, named, found, ⟨placed, short, by omega, stored⟩, left⟩

/-- Where the native layer answers, an array that fits is written. -/
theorem writeArray_calm {field : LayoutField} {cells : List (List UInt8)} (one : single type = true) (calm : t.Calm)
    (named : Named t.view.view cname) (found : N.field t.view.view cname = .ok field)
    (fits : ElementsFit N field type values occ cells) :
    Succeeds (writeArray N cname (writeField N cname type) values occ) t ⟨⟩
      { t with view := storeAll cname field t.view occ.toNat cells } := by
  obtain ⟨placed, short, room, stored⟩ := fits
  unfold writeArray
  refine succeeds_bind.2 ⟨_, t, succeeds_ofExcept.2 ⟨ubfOccurrence_eq_ok.2 ⟨placed, short, rfl⟩, rfl⟩, ?_⟩
  refine succeeds_bind.2 ⟨(_, field), t, bvoccur_succeeds.2 ⟨named, found, (answers_calm calm).2 rfl, rfl⟩, ?_⟩
  refine succeeds_bind.2 ⟨⟨⟩, t, succeeds_throwIf.2 ⟨by show ¬ (field.max : Int) < _; omega, rfl⟩, ?_⟩
  exact writeEach_calm one placed values 0 calm named found (by omega) (by omega) stored

end Collections

/-! ## Fields -/

/-- A value can be written to a member, of a type that has one element. -/
def SingleFits (N : Native) (view cname : String) (type : FieldTy) (value : Value) (occ : Int) : Prop :=
  ∃ field cell, Lands N view cname occ field ∧ cellOf N field occ.toNat type value = some cell

/-- A value can be written to a member. -/
def FieldFits (N : Native) (view cname : String) : FieldTy → Value → Int → Prop
  | .vec type, .list values, occ => single type = true ∧ Named view cname ∧
      ∃ field cells resets, N.field view cname = .ok field ∧ ElementsFit N field type values occ cells ∧
        RestFits N field (occ.toNat + values.length) resets
  | .array size type, .list values, occ => values.length = size ∧ single type = true ∧ Named view cname ∧
      ∃ field cells, N.field view cname = .ok field ∧ ElementsFit N field type values occ cells
  | .scalar type, value, occ => SingleFits N view cname (.scalar type) value occ
  | .option type, value, occ => SingleFits N view cname (.option type) value occ
  | _, _, _ => False

section Fields

variable {N : Native} {cname : String} {value : Value} {occ : Int} {t t' : Target} {u : PUnit}

/-- A field that is written fits: the cases of its type. -/
theorem writeField_fits : ∀ {type : FieldTy}, Succeeds (writeField N cname type value occ) t u t' →
    FieldFits N t.view.view cname type value occ
  | .scalar type, ran => by
      obtain ⟨field, cell, lands, written, -⟩ := single_writes rfl ran
      exact ⟨field, cell, lands, written⟩
  | .option type, ran => by
      obtain ⟨field, cell, lands, written, -⟩ := single_writes rfl ran
      exact ⟨field, cell, lands, written⟩
  | .vec type, ran => by
      cases value with
      | list values =>
          obtain ⟨_, t₁, checked, rest⟩ := succeeds_bind.1 ran
          obtain ⟨wide, rfl⟩ := succeeds_ofExcept.1 checked
          have one := requireSingle_eq_ok.1 wide
          obtain ⟨field, cells, resets, named, found, fits, cleared, -⟩ := writeVec_writes one rest
          exact ⟨one, named, field, cells, resets, found, fits, cleared⟩
      | _ => exact absurd ran succeeds_throw
  | .array size type, ran => by
      cases value with
      | list values =>
          obtain ⟨_, t₁, passed, rest⟩ := succeeds_bind.1 ran
          obtain ⟨sized, rfl⟩ := succeeds_throwIf.1 passed
          obtain ⟨_, t₂, checked, rest⟩ := succeeds_bind.1 rest
          obtain ⟨wide, rfl⟩ := succeeds_ofExcept.1 checked
          have one := requireSingle_eq_ok.1 wide
          obtain ⟨field, cells, named, found, fits, -⟩ := writeArray_writes one rest
          exact ⟨not_not.1 sized, one, named, field, cells, found, fits⟩
      | _ => exact absurd ran succeeds_throw

/-- A write from where no native call is to fail goes on from such a state, of the same VIEW. -/
theorem writeField_calm (calm : t.Calm) : ∀ {type : FieldTy}, FieldFits N t.view.view cname type value occ →
    ∃ view, view.view = t.view.view ∧ Succeeds (writeField N cname type value occ) t ⟨⟩ { t with view }
  | .scalar type, fits => by
      obtain ⟨field, cell, lands, written⟩ := fits
      exact ⟨t.view.store cname field occ.toNat cell, rfl, single_calm rfl calm lands written⟩
  | .option type, fits => by
      obtain ⟨field, cell, lands, written⟩ := fits
      exact ⟨t.view.store cname field occ.toNat cell, rfl, single_calm rfl calm lands written⟩
  | .vec type, fits => by
      cases value with
      | list values =>
          obtain ⟨one, named, field, cells, resets, found, elements, rest⟩ := fits
          refine ⟨vecImage cname field t.view occ.toNat cells resets, ?_, ?_⟩
          · show (storeAll cname field _ _ _).view = t.view.view
            rw [storeAll_view, storeAll_view]
            rfl
          · exact succeeds_bind.2 ⟨⟨⟩, t, succeeds_ofExcept.2 ⟨requireSingle_eq_ok.2 one, rfl⟩,
              writeVec_calm one calm named found elements rest⟩
      | _ => exact absurd fits not_false
  | .array size type, fits => by
      cases value with
      | list values =>
          obtain ⟨sized, one, named, field, cells, found, elements⟩ := fits
          refine ⟨storeAll cname field t.view occ.toNat cells, storeAll_view cells t.view occ.toNat, ?_⟩
          exact succeeds_bind.2 ⟨⟨⟩, t, succeeds_throwIf.2 ⟨not_not.2 sized, rfl⟩, succeeds_bind.2 ⟨⟨⟩, t,
            succeeds_ofExcept.2 ⟨requireSingle_eq_ok.2 one, rfl⟩, writeArray_calm one calm named found elements⟩⟩
      | _ => exact absurd fits not_false

end Fields

/-! ## Structs -/

section Structs

variable (N : Native) (D : ViewDecls) (view : String)

def MemberFits (child : StructId → Value → Prop) (value : Value) : ViewMember → Prop
  | .skip => True
  | .field cname occ type => FieldFits N view cname type value occ
  | .flatten id => child id value

def MembersFit (child : StructId → Value → Prop) : List (String × ViewMember) → List Value → Prop
  | [], [] => True
  | (_, member) :: members, value :: values => MemberFits N view child value member ∧ MembersFit child members values
  | _, _ => False

/-- A struct can be written to a VIEW of this name. -/
def StructFits : Nat → StructId → Value → Prop
  | 0, _, _ => False
  | fuel + 1, id, value => ∃ decl values, D[id]? = some decl ∧ value = .struct values ∧ view = decl.viewName ∧
      MembersFit N view (StructFits fuel) decl.members values

end Structs

section Structs

variable {N : Native} {D : ViewDecls} {t t' : Target} {u : PUnit}

theorem succeeds_labelled {α : Type} {m : Viewing α} {a : α} (name member : String) :
    Succeeds (labelled name member m) t a t' ↔ Succeeds m t a t' := by
  unfold labelled
  rw [succeeds_bind]
  constructor
  · rintro ⟨result, t₁, first, rest⟩
    rw [succeeds_outcomeOf] at first
    cases result with
    | error e => exact absurd rest succeeds_throw
    | ok a' =>
        obtain ⟨rfl, rfl⟩ := succeeds_pure.1 rest
        exact first
  · exact fun ran => ⟨.ok a, t', succeeds_outcomeOf.2 ran, succeeds_pure.2 ⟨rfl, rfl⟩⟩

theorem checkView_eq_ok {view expected : String} {u : Unit} : checkView view expected = .ok u ↔ view = expected := by
  unfold checkView
  split
  · rename_i same
    simp [same]
  · rename_i other
    simp [other]

/-- No write of a struct renames the VIEW. -/
theorem Touching.view {α : Type} {R : Region} {m : Viewing α} {a : α} (touching : Touching R m)
    (ran : Succeeds m t a t') : t'.view.view = t.view.view :=
  (ran.keeps (touching t.view) (.refl R t.view)).named

/-- **The members of a struct that is written fit**: by induction on those left. -/
theorem writeMembers_fit {child : StructId → Value → Viewing PUnit} {fits : StructId → Value → Prop}
    {regions : StructId → Region} {view : String} (inner : ∀ id value, Touching (regions id) (child id value))
    (writes : ∀ {id value t u t'}, Succeeds (child id value) t u t' → t.view.view = view → fits id value)
    (name : String) : ∀ (members : List (String × ViewMember)) (values : List Value) {t t' : Target} {u : PUnit},
      t.view.view = view → Succeeds (writeMembers N child name members values) t u t' →
      MembersFit N view fits members values
  | [], [], _, _, _, _, _ => trivial
  | [], _ :: _, _, _, _, _, ran => absurd ran succeeds_throw
  | _ :: _, [], _, _, _, _, ran => absurd ran succeeds_throw
  | (label, member) :: members, value :: values, t, t', u, same, ran => by
      obtain ⟨_, t₁, first, rest⟩ := succeeds_bind.1 ran
      rw [succeeds_labelled] at first
      refine ⟨?_, writeMembers_fit inner writes name members values ?_ rest⟩
      · cases member with
        | skip => trivial
        | field cname occ type => exact same ▸ writeField_fits first
        | flatten id => exact writes first same
      · exact ((writeMember_touching N inner value member).view first).trans same

/-- Where the native layer answers, members that fit are written. -/
theorem writeMembers_calm {child : StructId → Value → Viewing PUnit} {fits : StructId → Value → Prop} {view : String}
    (writes : ∀ {id value t}, Target.Calm t → t.view.view = view → fits id value →
      ∃ after : TypedView, after.view = view ∧ Succeeds (child id value) t ⟨⟩ { t with view := after })
    (name : String) : ∀ (members : List (String × ViewMember)) (values : List Value) {t : Target}, t.Calm →
      t.view.view = view → MembersFit N view fits members values →
      ∃ after : TypedView, after.view = view ∧
        Succeeds (writeMembers N child name members values) t ⟨⟩ { t with view := after }
  | [], [], t, _, same, _ => ⟨t.view, same, succeeds_pure.2 ⟨rfl, rfl⟩⟩
  | [], _ :: _, _, _, _, fits => absurd fits not_false
  | _ :: _, [], _, _, _, fits => absurd fits not_false
  | (label, member) :: members, value :: values, t, calm, same, fits => by
      obtain ⟨middle, named, wrote⟩ : ∃ after : TypedView, after.view = view ∧
          Succeeds (writeMember N child value member) t ⟨⟩ { t with view := after } := by
        cases member with
        | skip => exact ⟨t.view, same, succeeds_pure.2 ⟨rfl, rfl⟩⟩
        | field cname occ type =>
            have fits : FieldFits N t.view.view cname type value occ := same.symm ▸ fits.1
            obtain ⟨after, kept, wrote⟩ := writeField_calm calm fits
            exact ⟨after, kept.trans same, wrote⟩
        | flatten id => exact writes calm same fits.1
      have calmly : Target.Calm { t with view := middle } := calm
      obtain ⟨after, kept, rest⟩ := writeMembers_calm writes name members values calmly named fits.2
      exact ⟨after, kept, succeeds_bind.2 ⟨⟨⟩, _, (succeeds_labelled name label).2 wrote, rest⟩⟩

/-- A struct that is written fits, however deep. -/
theorem serialize_fits : ∀ (fuel : Nat) {id : StructId} {value : Value} {t t' : Target} {u : PUnit},
    Succeeds (serialize N D fuel id value) t u t' → StructFits N D t.view.view fuel id value
  | 0, _, _, _, _, _, ran => absurd ran succeeds_throw
  | fuel + 1, id, value, t, t', u, ran => by
      unfold serialize at ran
      split at ran
      · rename_i decl values found
        obtain ⟨_, t₁, got, rest⟩ := succeeds_bind.1 ran
        obtain ⟨rfl, rfl⟩ := succeeds_get.1 got
        obtain ⟨_, t₂, checked, rest⟩ := succeeds_bind.1 rest
        obtain ⟨named, rfl⟩ := succeeds_ofExcept.1 checked
        refine ⟨decl, values, found, rfl, checkView_eq_ok.1 named, ?_⟩
        refine writeMembers_fit (serialize_touching N D fuel) (fun wrote same => ?_) decl.name _ _ rfl rest
        exact same ▸ serialize_fits fuel wrote
      · exact absurd ran succeeds_throw

/-- And where the native layer answers, one that fits is written. -/
theorem serialize_calm : ∀ (fuel : Nat) {id : StructId} {value : Value} {t : Target}, t.Calm →
    StructFits N D t.view.view fuel id value →
      ∃ after : TypedView, after.view = t.view.view ∧
        Succeeds (serialize N D fuel id value) t ⟨⟩ { t with view := after }
  | 0, _, _, _, _, fits => absurd fits not_false
  | fuel + 1, id, value, t, calm, fits => by
      obtain ⟨decl, values, found, rfl, named, members⟩ := fits
      have writes : ∀ {id value s}, Target.Calm s → s.view.view = t.view.view →
          StructFits N D t.view.view fuel id value →
          ∃ after : TypedView, after.view = t.view.view ∧
            Succeeds (serialize N D fuel id value) s ⟨⟩ { s with view := after } := by
        intro id value s quiet same fits
        rw [← same] at fits ⊢
        exact serialize_calm fuel quiet fits
      obtain ⟨after, kept, wrote⟩ := writeMembers_calm writes decl.name decl.members values calm rfl members
      refine ⟨after, kept, ?_⟩
      unfold serialize
      rw [found]
      exact succeeds_bind.2 ⟨t, t, succeeds_get.2 ⟨rfl, rfl⟩, succeeds_bind.2 ⟨⟨⟩, t,
        succeeds_ofExcept.2 ⟨checkView_eq_ok.2 named, rfl⟩, wrote⟩⟩

/-- **What `view_write` accepts.**  Where no native call fails, it succeeds exactly for the values that fit
their layout, which never depends on what the VIEW holds.  Refused are `Some` of what is stored as the NULL
sentinel, `None` without one, a vector that is shorter than its array and has no count indicator, an element
past the array, an integer too wide, a text with a NUL, what native code does not convert, a collection of
collections, a member that the VIEW has not, and a struct of another VIEW. -/
theorem view_write_accepts_iff (N : Native) (D : ViewDecls) (fuel : Nat) (id : StructId) (value : Value)
    (view : TypedView) :
    (∃ t', Succeeds (viewWrite N D fuel id value) ⟨view, []⟩ ⟨⟩ t') ↔ StructFits N D view.view fuel id value := by
  constructor
  · rintro ⟨t', ran⟩
    unfold viewWrite at ran
    split at ran
    · exact absurd ran succeeds_throw
    · obtain ⟨_, t₁, got, rest⟩ := succeeds_bind.1 ran
      obtain ⟨rfl, rfl⟩ := succeeds_get.1 got
      obtain ⟨_, t₂, checked, wrote⟩ := succeeds_bind.1 rest
      obtain ⟨named, rfl⟩ := succeeds_ofExcept.1 checked
      exact serialize_fits fuel wrote
  · intro fits
    have calm : Target.Calm ⟨view, []⟩ := rfl
    obtain ⟨after, -, wrote⟩ := serialize_calm (t := ⟨view, []⟩) fuel calm fits
    cases fuel with
    | zero => exact absurd fits not_false
    | succ fuel =>
        obtain ⟨decl, values, found, rfl, named, -⟩ := fits
        refine ⟨⟨after, []⟩, ?_⟩
        unfold viewWrite
        rw [found]
        exact succeeds_bind.2 ⟨_, _, succeeds_get.2 ⟨rfl, rfl⟩, succeeds_bind.2 ⟨⟨⟩, _,
          succeeds_ofExcept.2 ⟨checkView_eq_ok.2 named, rfl⟩, wrote⟩⟩

end Structs

end Endurox.View
