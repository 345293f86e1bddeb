/-
# View.Frame -- what a write can touch

A member has a region: the elements its type is mapped to, from its starting one on.
However a write ends, what lies outside the region of its members is as it was, and so is
the count indicator of every member that none of them is mapped to.
-/
import Endurox.View.Mapping

namespace Endurox.View

open Endurox.Theory
open Endurox.Typed (UbfError UbfCode)
open Endurox.Ubf (Scalar ScalarTy FieldTy Value StructId ubfOccurrence requireSingle about ubfOccurrence_eq_ok)

set_option autoImplicit false

/-! ## Regions -/

/-- Elements, by the C name of their member. -/
abbrev Region := String → Nat → Prop

/-- From one VIEW to the other nothing has changed outside the region. -/
structure Touched (R : Region) (v v' : TypedView) : Prop where
  named : v'.view = v.view
  cells : ∀ cname i, ¬ R cname i → v'.cells cname i = v.cells cname i
  counts : ∀ cname, (∀ i, ¬ R cname i) → v'.counts cname = v.counts cname

namespace Touched

variable {R R' : Region} {v v' v'' : TypedView}

theorem refl (R : Region) (v : TypedView) : Touched R v v := ⟨rfl, fun _ _ _ => rfl, fun _ _ => rfl⟩

/-- Two changes within a region are one. -/
theorem trans (first : Touched R v v') (second : Touched R v' v'') : Touched R v v'' where
  named := second.named.trans first.named
  cells := fun cname i outside => (second.cells cname i outside).trans (first.cells cname i outside)
  counts := fun cname outside => (second.counts cname outside).trans (first.counts cname outside)

theorem mono (touched : Touched R v v') (wider : ∀ cname i, R cname i → R' cname i) : Touched R' v v' where
  named := touched.named
  cells := fun cname i outside => touched.cells cname i fun inside => outside (wider cname i inside)
  counts := fun cname outside => touched.counts cname fun i inside => outside i (wider cname i inside)

end Touched

/-- However the action ends, it has touched nothing outside the region. -/
def Touching {α : Type} (R : Region) (m : Viewing α) : Prop :=
  ∀ v, Keeps (fun t => Touched R v t.view) m.run

namespace Touching

variable {α β : Type} {R R' : Region} {m : Viewing α}

/-- One operation after another, in one region. -/
theorem bind {next : α → Viewing β} (first : Touching R m) (rest : ∀ a, Touching R (next a)) :
    Touching R (m >>= next) := fun v => Keeps.tryBind (first v) fun a => rest a v

theorem mono (touching : Touching R m) (wider : ∀ cname i, R cname i → R' cname i) : Touching R' m := by
  intro v t touched
  exact touched.trans ((touching t.view t (.refl R t.view)).mono wider)

theorem pure (a : α) : Touching R (Pure.pure a : Viewing α) := fun _ => Keeps.tryPure

theorem throw (e : UbfError) : Touching R (MonadExcept.throw e : Viewing α) := fun _ => Keeps.throw

theorem throwIf (c : Prop) [Decidable c] (e : UbfError) : Touching R (Theory.throwIf c e : Viewing PUnit) :=
  fun _ => Keeps.throwIf

theorem runIf {c : Prop} [Decidable c] {m : Viewing PUnit} (touching : c → Touching R m) :
    Touching R (Theory.runIf c m) := fun v => Keeps.runIf fun holds => touching holds v

theorem check (result : Except UbfError α) : Touching R (View.check result) := fun _ => Keeps.ofExcept

/-- A check, with what it has found. -/
theorem checked {result : Except UbfError α} {next : α → Viewing β}
    (rest : ∀ a, result = .ok a → Touching R (next a)) : Touching R (View.check result >>= next) := by
  cases result with
  | error e => exact throw e
  | ok a => exact rest a rfl

/-- A refusal, with what has passed it. -/
theorem guarded {c : Prop} [Decidable c] {e : UbfError} {next : PUnit → Viewing β}
    (rest : ¬ c → Touching R (next ⟨⟩)) : Touching R (Theory.throwIf c e >>= next) := by
  unfold Theory.throwIf
  split
  · exact throw e
  · rename_i passed
    exact rest passed

/-- What follows may depend on the state. -/
theorem read {next : Target → Viewing β} (rest : ∀ t, Touching R (next t)) :
    Touching R ((get : Viewing Target) >>= next) := bind (fun _ => Keeps.tryGet) rest

/-- What follows may depend on how the first one ended. -/
theorem outcome {next : Except UbfError α → Viewing β} (first : Touching R m)
    (rest : ∀ result, Touching R (next result)) : Touching R (outcomeOf m >>= next) :=
  bind (fun v => Keeps.outcome (first v)) rest

theorem modify (change : TypedView → TypedView) (touched : ∀ v, Touched R v (change v)) :
    Touching R (modify fun t => { t with view := change t.view } : Viewing PUnit) :=
  fun _ => Keeps.tryModify fun t before => before.trans (touched t.view)

end Touching

/-! ## The native calls -/

/-- One element of a member. -/
def element (cname : String) (occ : Nat) : Region := fun c i => c = cname ∧ i = occ

/-- A stored element, and the count of its field. -/
theorem store_touched (v : TypedView) (cname : String) (field : LayoutField) (occ : Nat) (cell : List UInt8) :
    Touched (element cname occ) v (v.store cname field occ cell) where
  named := rfl
  cells := fun _ _ outside => if_neg outside
  counts := fun _ outside => if_neg fun inside => outside occ ⟨inside.1, rfl⟩

/-- A count is of a field that the region has elements of. -/
theorem setCount_touched (v : TypedView) (cname : String) (field : LayoutField) (count : Nat) {R : Region}
    (somewhere : ∃ i, R cname i) : Touched R v (v.setCount cname field count) where
  named := rfl
  cells := fun _ _ _ => rfl
  counts := fun _ outside => if_neg fun inside => by
    obtain ⟨i, here⟩ := somewhere
    exact outside i (inside.1 ▸ here)

section Calls

variable {R : Region} (N : Native) (cname : String)

/-- A native call does not touch the VIEW on its own. -/
theorem native_view (t : Target) : (native.run.run t).2.view = t.view := by
  obtain ⟨view, faults⟩ := t
  cases faults with
  | nil => rfl
  | cons fault faults => cases fault <;> rfl

/-- A native call that fails has done nothing. -/
theorem native_touching : Touching R native := by
  intro v t touched
  have same := native_view t
  exact same.symm ▸ touched

theorem memberOf_touching (nul : String → UbfError) : Touching R (memberOf N cname nul) :=
  .read fun _ => .bind (.check _) fun _ => .bind native_touching fun _ => .check _

theorem bvoccur_touching : Touching R (bvoccur N cname) :=
  .bind (memberOf_touching N cname nulAt) fun _ => .read fun _ => .pure _

/-- A count that is set. -/
theorem bvsetoccur_touching (occ : Int) (somewhere : ∃ i, R cname i) : Touching R (bvsetoccur N cname occ) :=
  .bind (memberOf_touching N cname nulAt) fun field => .bind (.throwIf _ _) fun _ =>
    .modify (·.setCount cname field occ.toNat) fun v => setCount_touched v cname field occ.toNat somewhere

theorem bvnull_touching (occ : Int) : Touching R (bvnull N cname occ) :=
  .bind (memberOf_touching N cname _) fun _ => .bind (.check _) fun _ => .read fun _ => .pure _

/-- The template VIEW is another buffer. -/
theorem template_touching : Touching R template := by
  refine .read fun t => .bind (.throwIf _ _) fun _ => .bind native_touching fun _ => ?_
  refine .outcome native_touching fun result => ?_
  cases result with
  | ok a => exact .pure _
  | error e => exact .throw _

/-- The elements a call goes to are those it names. -/
theorem element_eq {field : LayoutField} {occ : Int} {i : Nat} (found : field.element occ = .ok i) :
    i = occ.toNat := by
  unfold LayoutField.element at found
  split at found
  · cases found
  · exact (Except.ok.inj found).symm

/-- A value stored in one element. -/
theorem bvchg_touching (occ : Int) (value : ViewValue) :
    Touching (element cname occ.toNat) (bvchg N cname occ value) := by
  refine .read fun t => .bind (.check _) fun _ => .bind (.check _) fun _ => .bind native_touching fun _ => ?_
  refine .bind (.check _) fun field => .checked fun i found => .bind (.check _) fun cell => ?_
  exact .modify (·.store cname field i cell) fun v => element_eq found ▸ store_touched v cname field i cell

/-- One element reset from the template. -/
theorem resetOccurrence_touching (occ : Int) :
    Touching (element cname occ.toNat) (resetOccurrence N cname occ) :=
  .bind (bvoccur_touching N cname) fun found => .bind (.throwIf _ _) fun _ => .bind (.throwIf _ _) fun _ =>
    .bind native_touching fun _ => .bind (.check _) fun _ => .bind native_touching fun _ =>
    .bind (.check _) fun cell => .modify (·.store cname found.2 occ.toNat cell) fun v =>
    store_touched v cname found.2 occ.toNat cell

theorem bvsetnull_touching (occ : Int) : Touching (element cname occ.toNat) (bvsetnull N cname occ) :=
  .bind template_touching fun _ => .bind (memberOf_touching N cname _) fun _ => .bind (.check _) fun _ =>
    .bind (.throwIf _ _) fun _ => resetOccurrence_touching N cname occ

end Calls

/-! ## Fields -/

/-- The elements a type is mapped to, from the starting one on. -/
def region (cname : String) (occ : Int) : FieldTy → Region
  | .scalar _ => element cname occ.toNat
  | .option _ => element cname occ.toNat
  | .vec _ => fun c i => c = cname ∧ occ.toNat ≤ i
  | .array size _ => fun c i => c = cname ∧ occ.toNat ≤ i ∧ i < occ.toNat + size

theorem region_single {type : FieldTy} (one : single type = true) (cname : String) (occ : Int) :
    region cname occ type = element cname occ.toNat := by
  cases type with
  | scalar type => rfl
  | option type => rfl
  | vec type => cases one
  | array size type => cases one

section Fields

variable (N : Native) (cname : String)

theorem writeInteger_touching (occ value : Int) :
    Touching (element cname occ.toNat) (writeInteger N cname occ value) :=
  .bind (bvoccur_touching N cname) fun _ => .bind (.throwIf _ _) fun _ => bvchg_touching N cname occ _

theorem writeScalar_touching (occ : Int) (type : ScalarTy) (value : Scalar) :
    Touching (element cname occ.toNat) (writeScalar N cname occ type value) := by
  unfold writeScalar
  split
  · exact .bind (.throwIf _ _) fun _ => .bind (.throwIf _ _) fun _ => writeInteger_touching N cname occ _
  · exact writeInteger_touching N cname occ _
  · exact bvchg_touching N cname occ _
  · exact bvchg_touching N cname occ _
  · exact bvchg_touching N cname occ _
  · exact bvchg_touching N cname occ _
  · exact .throw _

/-- A run of elements, each of which touches its own. -/
theorem writeEach_touching {write : Value → Int → Viewing PUnit} {occ : Int} (placed : 0 ≤ occ)
    (each : ∀ value occ, Touching (element cname occ.toNat) (write value occ)) :
    ∀ (values : List Value) (index : Nat),
      Touching (fun c i => c = cname ∧ occ.toNat ≤ i ∧ i < occ.toNat + index + values.length)
        (writeEach write occ index values)
  | [], index => .pure _
  | value :: values, index => by
      refine .checked fun at' found => .bind ((each value at').mono ?_) fun _ => ?_
      · rintro c i ⟨rfl, rfl⟩
        have := (ubfOccurrence_eq_ok.1 found).2.2
        refine ⟨rfl, by omega, ?_⟩
        rw [List.length_cons]
        omega
      · refine (writeEach_touching placed each values (index + 1)).mono ?_
        rintro c i ⟨rfl, above, below⟩
        refine ⟨rfl, above, ?_⟩
        rw [List.length_cons]
        omega

theorem resetEach_touching {first : Nat} : ∀ (count : Nat) (occ : Int), first ≤ occ.toNat → 0 ≤ occ →
    Touching (fun c i => c = cname ∧ first ≤ i) (resetEach N cname occ count)
  | 0, _, _, _ => .pure _
  | count + 1, occ, above, placed => by
      refine .bind ((resetOccurrence_touching N cname occ).mono ?_) fun _ => ?_
      · rintro c i ⟨rfl, rfl⟩
        exact ⟨rfl, above⟩
      · exact resetEach_touching count (occ + 1) (by omega) (by omega)

/-- A `Vec` writes the elements from its start and resets the rest. -/
theorem writeVec_touching {write : Value → Int → Viewing PUnit} (values : List Value) (occ : Int)
    (each : ∀ value occ, Touching (element cname occ.toNat) (write value occ)) :
    Touching (fun c i => c = cname ∧ occ.toNat ≤ i) (writeVec N cname write values occ) := by
  have somewhere : ∃ i, cname = cname ∧ occ.toNat ≤ i := ⟨_, rfl, Nat.le_refl _⟩
  refine .checked fun last found => ?_
  obtain ⟨placed, -, rfl⟩ := ubfOccurrence_eq_ok.1 found
  refine .bind (bvoccur_touching N cname) fun _ => .bind (.throwIf _ _) fun _ => ?_
  refine .bind (bvsetoccur_touching N cname _ somewhere) fun _ => ?_
  refine .bind (bvoccur_touching N cname) fun _ => .bind (.throwIf _ _) fun _ => ?_
  refine .bind ((writeEach_touching cname placed each values 0).mono ?_) fun _ => ?_
  · rintro c i ⟨rfl, above, -⟩
    exact ⟨rfl, above⟩
  refine .bind (.runIf fun _ => .bind template_touching fun _ => ?_) fun _ => bvsetoccur_touching N cname _ somewhere
  exact resetEach_touching N cname _ _ (by omega) (by omega)

/-- An array writes as many elements as it has. -/
theorem writeArray_touching {write : Value → Int → Viewing PUnit} (values : List Value) (occ : Int)
    (each : ∀ value occ, Touching (element cname occ.toNat) (write value occ)) :
    Touching (fun c i => c = cname ∧ occ.toNat ≤ i ∧ i < occ.toNat + values.length)
      (writeArray N cname write values occ) := by
  refine .checked fun last found => ?_
  obtain ⟨placed, -, rfl⟩ := ubfOccurrence_eq_ok.1 found
  refine .bind (bvoccur_touching N cname) fun _ => .bind (.throwIf _ _) fun _ => ?_
  exact writeEach_touching cname placed each values 0

/-- **A field's write** touches its region only. -/
theorem writeField_touching (type : FieldTy) : ∀ (value : Value) (occ : Int),
    Touching (region cname occ type) (writeField N cname type value occ) := by
  have elements : ∀ {type : FieldTy}, (∀ value occ, Touching (region cname occ type) (writeField N cname type value occ)) →
      ∀ {result}, requireSingle (single type) = .ok result →
      ∀ value occ, Touching (element cname occ.toNat) (writeField N cname type value occ) := by
    intro type ih result wide value occ
    have one : single type = true := by
      unfold requireSingle at wide
      split at wide
      · assumption
      · cases wide
    exact region_single one cname occ ▸ ih value occ
  induction type with
  | scalar type =>
      intro value occ
      cases value with
      | scalar value => exact writeScalar_touching N cname occ type value
      | _ => exact .throw _
  | option type ih =>
      intro value occ
      refine .checked fun _ wide => ?_
      cases value with
      | some value =>
          refine .bind (elements ih wide value occ) fun _ => ?_
          exact .bind (bvnull_touching N cname occ) fun _ => .throwIf _ _
      | none => exact bvsetnull_touching N cname occ
      | _ => exact .throw _
  | vec type ih =>
      intro value occ
      cases value with
      | list values => exact .checked fun _ wide => writeVec_touching N cname values occ (elements ih wide)
      | _ => exact .throw _
  | array size type ih =>
      intro value occ
      cases value with
      | list values =>
          refine .guarded fun sized => ?_
          obtain rfl := not_not.1 sized
          exact .checked fun _ wide => writeArray_touching N cname values occ (elements ih wide)
      | _ => exact .throw _

end Fields

/-! ## Structs -/

/-- The region of a member; of a flattened struct, that of the struct. -/
def memberRegion (child : StructId → Region) : ViewMember → Region
  | .skip => fun _ _ => False
  | .field cname occ type => region cname occ type
  | .flatten id => child id

/-- The elements that a struct's members are mapped to. -/
def structRegion (D : ViewDecls) : Nat → StructId → Region
  | 0, _ => fun _ _ => False
  | fuel + 1, id => fun cname i =>
      ∃ decl, D[id]? = some decl ∧ ∃ member ∈ decl.members, memberRegion (structRegion D fuel) member.2 cname i

section Structs

variable (N : Native) (D : ViewDecls)

theorem labelled_touching {α : Type} {R : Region} {m : Viewing α} (name member : String)
    (touching : Touching R m) : Touching R (labelled name member m) := by
  refine .outcome touching fun result => ?_
  cases result with
  | ok a => exact .pure a
  | error e => exact .throw _

/-- A member of a struct writes its own field, or the region of what is nested in it. -/
theorem writeMember_touching {child : StructId → Value → Viewing PUnit} {regions : StructId → Region}
    (inner : ∀ id value, Touching (regions id) (child id value)) (value : Value) (member : ViewMember) :
    Touching (memberRegion regions member) (writeMember N child value member) := by
  cases member with
  | skip => exact .pure _
  | field cname occ type => exact writeField_touching N cname type value occ
  | flatten id => exact inner id value

/-- **The loop over the members**: by induction on those left. -/
theorem writeMembers_touching {child : StructId → Value → Viewing PUnit} {regions : StructId → Region}
    (inner : ∀ id value, Touching (regions id) (child id value)) (name : String) :
    ∀ (members : List (String × ViewMember)) (values : List Value),
      Touching (fun c i => ∃ member ∈ members, memberRegion regions member.2 c i)
        (writeMembers N child name members values)
  | [], [] => .pure _
  | [], _ :: _ => .throw _
  | _ :: _, [] => .throw _
  | (label, member) :: members, value :: values => by
      refine .bind ((labelled_touching name label (writeMember_touching N inner value member)).mono ?_) fun _ => ?_
      · exact fun c i here => ⟨_, List.mem_cons_self, here⟩
      · refine (writeMembers_touching inner name members values).mono ?_
        rintro c i ⟨other, there, here⟩
        exact ⟨other, List.mem_cons_of_mem _ there, here⟩

/-- **A struct stays in its region**: by induction on how deep it is. -/
theorem serialize_touching : ∀ (fuel : Nat) (id : StructId) (value : Value),
    Touching (structRegion D fuel id) (serialize N D fuel id value)
  | 0, _, _ => .throw _
  | fuel + 1, id, value => by
      unfold serialize
      split
      · rename_i decl values found
        refine .read fun t => .bind (.check _) fun _ => ?_
        refine (writeMembers_touching N (serialize_touching fuel) decl.name decl.members values).mono ?_
        exact fun c i here => ⟨decl, found, here⟩
      · exact .throw _

/-- **Frame.**  However `view_write` ends, and whatever native call fails on the way, it has changed no
element outside those its members are mapped to, no count indicator of a member of the VIEW that none of
them is mapped to, and not the VIEW's name. -/
theorem view_write_frame (fuel : Nat) (id : StructId) (value : Value) (t : Target) :
    Touched (structRegion D fuel id) t.view ((viewWrite N D fuel id value).run.run t).2.view := by
  have touching : Touching (structRegion D fuel id) (viewWrite N D fuel id value) := by
    unfold viewWrite
    split
    · exact .throw _
    · exact .read fun t => .bind (.check _) fun _ => serialize_touching N D fuel id value
  exact touching t.view t (.refl _ t.view)

end Structs

end Endurox.View
