/-
# View.RoundTrip -- what was written is read

A successful write stores in its elements what `cellOf` says, and the count indicator it
needs; a read asks the layout the same questions again and finds it there.  Members name
different fields of the VIEW, so that the frame of each later write leaves the earlier ones
as they are.  `ComesBack` is what that takes of the value: that native code makes of each
scalar's element the scalar it came from.
-/
import Endurox.View.Acceptance

namespace Endurox.View

open Endurox.Theory
open Endurox.Typed (UbfError UbfCode)
open Endurox.Ubf (Scalar ScalarTy FieldTy Value StructId ubfOccurrence requireSingle about i32Max resetAll
  ubfOccurrence_eq_ok requireSingle_eq_ok)

set_option autoImplicit false

/-! ## Values that come back -/

/-- An element of a fresh VIEW, read as its own type and written back, is what it was. -/
def Native.Lawful (N : Native) : Prop :=
  ∀ field occ cell, resetCell N field occ = .ok cell → cell = field.fresh occ

/-- Each scalar comes back from the element it is stored in. -/
def FieldReads (N : Native) (view cname : String) : FieldTy → Value → Prop
  | .scalar type, .scalar value => ∀ field cell, N.field view cname = .ok field →
      scalarCell N field type value = some cell → decode N field type cell = .ok value
  | .option type, .some value => FieldReads N view cname type value
  | .vec type, .list values => ∀ value ∈ values, FieldReads N view cname type value
  | .array _ type, .list values => ∀ value ∈ values, FieldReads N view cname type value
  | _, _ => True

/-- A `[T; 0]` stores nothing and leaves the count indicator as it was: with one it starts at the front. -/
def Reaches (N : Native) (view cname : String) (occ : Int) : FieldTy → Prop
  | .array 0 _ => ∀ field, N.field view cname = .ok field → field.counted = true → occ = 0
  | _ => True

section Fields

variable {N : Native} {v : TypedView} {cname : String} {field : LayoutField} {occ : Int}

theorem Lands.element (lands : Lands N v.view cname occ field) : field.element occ = .ok occ.toNat :=
  element_eq_ok.2 ⟨lands.placed, lands.inside, rfl⟩

theorem readNull_of_lands (lands : Lands N v.view cname occ field) :
    readNull N v cname occ = .ok (field.isNull (v.cells cname occ.toNat)) := by
  have named : cNames (fun _ => nulInName) v.view cname = .ok () := cNames_eq_ok.2 lands.named
  simp only [readNull, named, bind, Except.bind, lands.found, lands.element]

theorem readScalar_of_lands (lands : Lands N v.view cname occ field) (type : ScalarTy) :
    readScalar N v cname occ type = decode N field type (v.cells cname occ.toNat) := by
  have named : cNames nulAt v.view cname = .ok () := cNames_eq_ok.2 lands.named
  simp only [readScalar, cbvget, named, bind, Except.bind, lands.found, lands.element]

theorem readCount_of_found (named : Named v.view cname) (found : N.field v.view cname = .ok field) :
    readCount N v cname = .ok (v.active cname field) := by
  have names : cNames nulAt v.view cname = .ok () := cNames_eq_ok.2 named
  simp only [readCount, names, bind, Except.bind, found]

/-- **One element** is read as the value it was written as. -/
theorem single_reads (lawful : N.Lawful) {type : FieldTy} (one : single type = true)
    (lands : Lands N v.view cname occ field) : ∀ {value : Value},
    cellOf N field occ.toNat type value = some (v.cells cname occ.toNat) → FieldReads N v.view cname type value →
      readField N v cname type occ = .ok value := by
  induction type with
  | scalar type =>
      intro value written reads
      cases value with
      | scalar value =>
          have decoded := reads field _ lands.found written
          simp only [readField, readScalar_of_lands lands, decoded]
          rfl
      | _ => cases written
  | option type ih =>
      intro value written reads
      have wide : ∀ inner : single type = true, requireSingle (single type) = .ok () :=
        fun inner => requireSingle_eq_ok.2 inner
      cases value with
      | some value =>
          obtain ⟨inner, stored, present⟩ := cellOf_some.1 written
          simp only [readField, wide inner, readNull_of_lands lands, present, ih inner stored reads]
          rfl
      | none =>
          obtain ⟨⟨inner, null, -⟩, copied⟩ := cellOf_none.1 written
          have sentinel : field.isNull (v.cells cname occ.toNat) = true := by
            rw [lawful field _ _ copied]
            exact null
          simp only [readField, wide inner, readNull_of_lands lands, sentinel]
          rfl
      | _ => cases written
  | vec type ih => cases one
  | array size type ih => cases one

/-- Elements one after another are read in order. -/
theorem readEach_reads (lawful : N.Lawful) {type : FieldTy} (one : single type = true) (named : Named v.view cname)
    (found : N.field v.view cname = .ok field) : ∀ {values : List Value} {occ : Int} {cells : List (List UInt8)},
    0 ≤ occ → occ.toNat + values.length ≤ field.max → cellsOf N field type occ.toNat values = some cells →
    (∀ i, i < cells.length → v.cells cname (occ.toNat + i) = (cells[i]?).getD []) →
    (∀ value ∈ values, FieldReads N v.view cname type value) →
      readEach (readField N v cname type) occ values.length = .ok values
  | [], _, _, _, _, _, _, _ => rfl
  | value :: values, occ, cells, placed, room, written, there, reads => by
      obtain ⟨cell, rest, first, later, rfl⟩ := cellsOf_cons.1 written
      rw [List.length_cons] at room
      have lands : Lands N v.view cname occ field := ⟨named, found, placed, by omega⟩
      have here : v.cells cname occ.toNat = cell := there 0 (Nat.succ_pos _)
      have next : (occ + 1).toNat = occ.toNat + 1 := by omega
      have head := single_reads lawful one lands (here.symm ▸ first) (reads value List.mem_cons_self)
      have tail : readEach (readField N v cname type) (occ + 1) values.length = .ok values := by
        refine readEach_reads lawful one named found (by omega) (by omega) (next.symm ▸ later) ?_
          fun value member => reads value (List.mem_cons_of_mem _ member)
        intro i before
        have shifted := there (i + 1) (by rw [List.length_cons]; omega)
        rw [next, show occ.toNat + 1 + i = occ.toNat + (i + 1) by omega, shifted]
        rfl
      simp only [List.length_cons, readEach, head, tail]
      rfl

end Fields

/-! ## Fields -/

theorem vecImage_view (cname : String) (field : LayoutField) (v : TypedView) (occ : Nat)
    (cells resets : List (List UInt8)) : (vecImage cname field v occ cells resets).view = v.view := by
  show (storeAll cname field _ _ resets).view = v.view
  rw [storeAll_view, storeAll_view]
  rfl

theorem vecImage_active (cname : String) (field : LayoutField) (v : TypedView) (occ : Nat)
    (cells resets : List (List UInt8)) :
    (vecImage cname field v occ cells resets).active cname field =
      if field.counted then occ + cells.length else field.max :=
  setCount_active _ cname field _

/-- The elements after a `Vec`: its own, reset ones, and those before its start. -/
theorem vecImage_cells (cname : String) (field : LayoutField) (v : TypedView) (occ : Nat)
    (cells resets : List (List UInt8)) (i : Nat) :
    (vecImage cname field v occ cells resets).cells cname i =
      if occ + cells.length ≤ i ∧ i < occ + cells.length + resets.length then
        (resets[i - (occ + cells.length)]?).getD []
      else if occ ≤ i ∧ i < occ + cells.length then (cells[i - occ]?).getD [] else v.cells cname i := by
  show (storeAll cname field _ _ resets).cells cname i = _
  rw [storeAll_cells, storeAll_cells]
  simp only [true_and]
  rfl

section Written

variable {N : Native} {cname : String} {occ : Int} {t t' : Target} {u : PUnit}

/-- What an element is written as has no skipped members. -/
theorem cellOf_reset {field : LayoutField} {i : Nat} : ∀ {type : FieldTy} {value : Value} {cell : List UInt8},
    cellOf N field i type value = some cell → value.reset = value
  | .scalar _, .scalar _, _, _ => rfl
  | .option _, .none, _, _ => rfl
  | .option type, .some value, cell, written => by
      rw [Value.reset, cellOf_reset (cellOf_some.1 written).2.1]

theorem cellsOf_reset {field : LayoutField} {type : FieldTy} : ∀ {values : List Value} {start : Nat}
    {cells : List (List UInt8)}, cellsOf N field type start values = some cells → resetAll values = values
  | [], _, _, _ => rfl
  | value :: values, start, cells, written => by
      obtain ⟨cell, rest, first, later, rfl⟩ := cellsOf_cons.1 written
      rw [resetAll, cellOf_reset first, cellsOf_reset later]

/-- **A `Vec` reads back**, with the count it was given. -/
theorem writeVec_reads (lawful : N.Lawful) {type : FieldTy} {values : List Value} (one : single type = true)
    (ran : Succeeds (writeVec N cname (writeField N cname type) values occ) t u t')
    (reads : ∀ value ∈ values, FieldReads N t.view.view cname type value) :
    readField N t'.view cname (.vec type) occ = .ok (.list values) ∧ resetAll values = values := by
  obtain ⟨field, cells, resets, named, found, ⟨placed, short, room, stored⟩, ⟨counter, -, reset⟩, image⟩ :=
    writeVec_writes one ran
  have total := cellsOf_length stored
  have view : t'.view.view = t.view.view := by rw [image, vecImage_view]
  have count : readCount N t'.view cname = .ok (occ.toNat + values.length) := by
    rw [readCount_of_found (view ▸ named) (view ▸ found), image, vecImage_active, total]
    rcases counter with counted | full
    · rw [if_pos counted]
    · split
      · rfl
      · rw [full]
  have each : readEach (readField N t'.view cname type) occ values.length = .ok values := by
    refine readEach_reads lawful one (view ▸ named) (view ▸ found) placed room stored ?_ (view ▸ reads)
    intro i before
    rw [image, vecImage_cells, if_neg (by omega), if_pos (by omega), show occ.toNat + i - occ.toNat = i by omega]
  have inside : ubfOccurrence occ 0 = .ok (occ + (0 : Nat)) := ubfOccurrence_eq_ok.2 ⟨placed, by omega, rfl⟩
  have wide : requireSingle (single type) = .ok () := requireSingle_eq_ok.2 one
  refine ⟨?_, cellsOf_reset stored⟩
  simp only [readField, wide, inside, count, bind, Except.bind,
    show occ.toNat + values.length - occ.toNat = values.length by omega, each]
  rfl

/-- An array reads back. -/
theorem writeArray_reads (lawful : N.Lawful) {type : FieldTy} {values : List Value} (one : single type = true)
    (ran : Succeeds (writeArray N cname (writeField N cname type) values occ) t u t')
    (reaches : Reaches N t.view.view cname occ (.array values.length type))
    (reads : ∀ value ∈ values, FieldReads N t.view.view cname type value) :
    readField N t'.view cname (.array values.length type) occ = .ok (.list values) ∧ resetAll values = values := by
  obtain ⟨field, cells, named, found, ⟨placed, short, room, stored⟩, image⟩ := writeArray_writes one ran
  have total := cellsOf_length stored
  have view : t'.view.view = t.view.view := by rw [image, storeAll_view]
  have count : readCount N t'.view cname = .ok (t'.view.active cname field) :=
    readCount_of_found (view ▸ named) (view ▸ found)
  have enough : ¬ (t'.view.active cname field : Int) < occ + values.length := by
    unfold TypedView.active
    split
    · rename_i counted
      by_cases written : cells = []
      · have empty : values.length = 0 := by rw [← total, written]; rfl
        rw [empty] at reaches ⊢
        have front : occ = 0 := reaches field found counted
        omega
      · rw [image, storeAll_counts, if_pos ⟨rfl, counted, written⟩]
        have above := Nat.le_max_right (t.view.counts cname) (occ.toNat + cells.length)
        have above : occ.toNat + cells.length ≤ Nat.max (t.view.counts cname) (occ.toNat + cells.length) := above
        omega
    · omega
  have each : readEach (readField N t'.view cname type) occ values.length = .ok values := by
    refine readEach_reads lawful one (view ▸ named) (view ▸ found) placed room stored ?_ (view ▸ reads)
    intro i before
    rw [image, storeAll_cells, if_pos (by refine ⟨rfl, ?_⟩; omega), show occ.toNat + i - occ.toNat = i by omega]
  have inside : ubfOccurrence occ values.length = .ok (occ + values.length) :=
    ubfOccurrence_eq_ok.2 ⟨placed, short, rfl⟩
  have wide : requireSingle (single type) = .ok () := requireSingle_eq_ok.2 one
  refine ⟨?_, cellsOf_reset stored⟩
  simp only [readField, wide, inside, count, bind, Except.bind, if_neg enough, each]
  rfl

/-- **A field** is read as the value it was written as. -/
theorem writeField_reads (lawful : N.Lawful) : ∀ {type : FieldTy} {value : Value},
    Succeeds (writeField N cname type value occ) t u t' → Reaches N t.view.view cname occ type →
      FieldReads N t.view.view cname type value →
        readField N t'.view cname type occ = .ok value ∧ value.reset = value := by
  have one : ∀ {type : FieldTy} {value : Value}, single type = true →
      Succeeds (writeField N cname type value occ) t u t' → FieldReads N t.view.view cname type value →
      readField N t'.view cname type occ = .ok value ∧ value.reset = value := by
    intro type value single ran reads
    obtain ⟨field, cell, lands, written, stored⟩ := single_writes single ran
    have view : t'.view.view = t.view.view := by rw [stored]; rfl
    have here : t'.view.cells cname occ.toNat = cell := by rw [stored]; exact if_pos ⟨rfl, rfl⟩
    exact ⟨single_reads lawful single (view ▸ lands) (here.symm ▸ written) (view ▸ reads), cellOf_reset written⟩
  intro type value ran reaches reads
  cases type with
  | scalar type => exact one rfl ran reads
  | option type => exact one rfl ran reads
  | vec type =>
      cases value with
      | list values =>
          obtain ⟨_, t₁, checked, rest⟩ := succeeds_bind.1 ran
          obtain ⟨wide, rfl⟩ := succeeds_ofExcept.1 checked
          obtain ⟨found, kept⟩ := writeVec_reads lawful (requireSingle_eq_ok.1 wide) rest reads
          exact ⟨found, by rw [Value.reset, kept]⟩
      | _ => exact absurd ran succeeds_throw
  | array size type =>
      cases value with
      | list values =>
          obtain ⟨_, t₁, passed, rest⟩ := succeeds_bind.1 ran
          obtain ⟨sized, rfl⟩ := succeeds_throwIf.1 passed
          obtain ⟨_, t₂, checked, rest⟩ := succeeds_bind.1 rest
          obtain ⟨wide, rfl⟩ := succeeds_ofExcept.1 checked
          obtain rfl := not_not.1 sized
          obtain ⟨found, kept⟩ := writeArray_reads lawful (requireSingle_eq_ok.1 wide) rest reaches reads
          exact ⟨found, by rw [Value.reset, kept]⟩
      | _ => exact absurd ran succeeds_throw

end Written

/-! ## Structs -/

/-- Both VIEWs hold the same in these members. -/
structure Agree (names : List String) (v v' : TypedView) : Prop where
  view : v'.view = v.view
  cells : ∀ cname ∈ names, ∀ i, v'.cells cname i = v.cells cname i
  counts : ∀ cname ∈ names, v'.counts cname = v.counts cname

/-- The C names of a member's fields. -/
def memberNames (child : StructId → List String) : ViewMember → List String
  | .skip => []
  | .field cname _ _ => [cname]
  | .flatten id => child id

/-- The C names that a struct's members are mapped to. -/
def structNames (D : ViewDecls) : Nat → StructId → List String
  | 0, _ => []
  | fuel + 1, id =>
      match D[id]? with
      | none => []
      | some decl => decl.members.flatMap fun member => memberNames (structNames D fuel) member.2

/-- No member of the VIEW is mapped twice. -/
def Distinct (D : ViewDecls) : Prop := ∀ fuel id, (structNames D fuel id).Nodup

theorem region_named {cname c : String} {occ : Int} {type : FieldTy} {i : Nat} (inside : region cname occ type c i) :
    c = cname := by
  cases type <;> exact inside.1

/-- What a member writes are fields it names. -/
theorem memberRegion_named {regions : StructId → Region} (names : StructId → List String)
    (inner : ∀ id c i, regions id c i → c ∈ names id) {member : ViewMember} {c : String} {i : Nat}
    (inside : memberRegion regions member c i) : c ∈ memberNames names member := by
  cases member with
  | skip => exact absurd inside not_false
  | field cname occ type => exact List.mem_singleton.2 (region_named inside)
  | flatten id => exact inner id c i inside

/-- What a struct writes are fields it names. -/
theorem structRegion_named {D : ViewDecls} : ∀ {fuel : Nat} {id : StructId} {c : String} {i : Nat},
    structRegion D fuel id c i → c ∈ structNames D fuel id
  | 0, _, _, _, inside => absurd inside not_false
  | fuel + 1, id, c, i, inside => by
      obtain ⟨decl, found, member, listed, here⟩ := inside
      rw [structNames, found]
      exact List.mem_flatMap.2 ⟨member, listed, memberRegion_named (structNames D fuel) (fun _ _ _ => structRegion_named) here⟩

/-- What touches none of the members leaves them as they are. -/
theorem Touched.agree {R : Region} {names : List String} {v v' : TypedView} (touched : Touched R v v')
    (apart : ∀ cname ∈ names, ∀ i, ¬ R cname i) : Agree names v v' where
  view := touched.named
  cells := fun cname member i => touched.cells cname i (apart cname member i)
  counts := fun cname member => touched.counts cname (apart cname member)

section Agree

variable {N : Native} {D : ViewDecls} {v v' : TypedView}

theorem Agree.mono {names fewer : List String} (agree : Agree names v v') (among : ∀ cname ∈ fewer, cname ∈ names) :
    Agree fewer v v' where
  view := agree.view
  cells := fun cname member => agree.cells cname (among cname member)
  counts := fun cname member => agree.counts cname (among cname member)

theorem Agree.trans {v'' : TypedView} {names : List String} (first : Agree names v v') (second : Agree names v' v'') :
    Agree names v v'' where
  view := second.view.trans first.view
  cells := fun cname member i => (second.cells cname member i).trans (first.cells cname member i)
  counts := fun cname member => (second.counts cname member).trans (first.counts cname member)

theorem Agree.active {cname : String} {names : List String} (agree : Agree names v v') (member : cname ∈ names)
    (field : LayoutField) : v'.active cname field = v.active cname field := by
  unfold TypedView.active
  rw [agree.counts cname member]

theorem readCount_agree {cname : String} {names : List String} (agree : Agree names v v') (member : cname ∈ names) :
    readCount N v' cname = readCount N v cname := by
  unfold readCount
  simp only [agree.view, agree.active member]

theorem readNull_agree {cname : String} {names : List String} (agree : Agree names v v') (member : cname ∈ names)
    (occ : Int) : readNull N v' cname occ = readNull N v cname occ := by
  unfold readNull
  simp only [agree.view, agree.cells cname member]

theorem readScalar_agree {cname : String} {names : List String} (agree : Agree names v v') (member : cname ∈ names)
    (occ : Int) (type : ScalarTy) : readScalar N v' cname occ type = readScalar N v cname occ type := by
  unfold readScalar cbvget
  simp only [agree.view, agree.cells cname member]

theorem readEach_congr {read read' : Int → Except UbfError Value} (same : ∀ occ, read' occ = read occ) :
    ∀ (count : Nat) (occ : Int), readEach read' occ count = readEach read occ count
  | 0, _ => rfl
  | count + 1, occ => by
      simp only [readEach, same occ, readEach_congr same count (occ + 1)]

/-- A field reads the same where two VIEWs agree on it. -/
theorem readField_agree {cname : String} {names : List String} (agree : Agree names v v') (member : cname ∈ names)
    (type : FieldTy) : ∀ occ, readField N v' cname type occ = readField N v cname type occ := by
  induction type with
  | scalar type => exact fun occ => by simp only [readField, readScalar_agree agree member]
  | option type ih => exact fun occ => by simp only [readField, readNull_agree agree member, ih]
  | vec type ih => exact fun occ => by simp only [readField, readCount_agree agree member, readEach_congr ih]
  | array size type ih => exact fun occ => by simp only [readField, readCount_agree agree member, readEach_congr ih]

/-- A member that is read the same way is found the same way. -/
theorem readMember_agree {child child' : StructId → Except UbfError Value} {inner : StructId → List String}
    {member : ViewMember} (agree : Agree (memberNames inner member) v v')
    (nested : ∀ id, Agree (inner id) v v' → child' id = child id) :
    readMember N v' child' member = readMember N v child member := by
  cases member with
  | skip => rfl
  | field cname occ type => exact readField_agree agree (List.mem_singleton.2 rfl) type occ
  | flatten id => exact nested id agree

/-- So do the members of a struct. -/
theorem readMembers_agree {child child' : StructId → Except UbfError Value} {inner : StructId → List String}
    (nested : ∀ id, Agree (inner id) v v' → child' id = child id) (name : String) :
    ∀ (members : List (String × ViewMember)),
      Agree (members.flatMap fun member => memberNames inner member.2) v v' →
      readMembers N v' child' name members = readMembers N v child name members
  | [], _ => rfl
  | (label, member) :: members, agree => by
      have head : Agree (memberNames inner member) v v' := agree.mono fun _ here => List.mem_append_left _ here
      have tail : Agree (members.flatMap fun member => memberNames inner member.2) v v' :=
        agree.mono fun _ here => List.mem_append_right _ here
      simp only [readMembers, readMember_agree head nested, readMembers_agree nested name members tail]

/-- **A read depends on the fields the struct names**, and on nothing else. -/
theorem deserialize_agree : ∀ (fuel : Nat) (id : StructId), Agree (structNames D fuel id) v v' →
    deserialize N D v' fuel id = deserialize N D v fuel id
  | 0, _, _ => rfl
  | fuel + 1, id, agree => by
      unfold deserialize
      cases found : D[id]? with
      | none => rfl
      | some decl =>
          rw [structNames, found] at agree
          simp only [agree.view, readMembers_agree (deserialize_agree fuel) decl.name decl.members agree]

end Agree

/-! ## The round trip -/

def MemberReads (N : Native) (view : String) (child : StructId → Value → Prop) (value : Value) : ViewMember → Prop
  | .skip => ∃ held, value = .skipped held
  | .field cname occ type => Reaches N view cname occ type ∧ FieldReads N view cname type value
  | .flatten id => child id value

def MembersRead (N : Native) (view : String) (child : StructId → Value → Prop) :
    List (String × ViewMember) → List Value → Prop
  | (_, member) :: members, value :: values => MemberReads N view child value member ∧ MembersRead N view child members values
  | _, _ => True

/-- Each scalar of the value comes back from the element it is stored in, and the count indicator that a
`[T; 0]` leaves as it was does not fall short of its start. -/
def ComesBack (N : Native) (D : ViewDecls) (view : String) : Nat → StructId → Value → Prop
  | 0, _, _ => True
  | fuel + 1, id, value => ∀ decl values, D[id]? = some decl → value = .struct values →
      MembersRead N view (ComesBack N D view fuel) decl.members values

section RoundTrip

variable {N : Native} {D : ViewDecls}

/-- A member leaves the members as they are that it does not name. -/
theorem writeMember_apart {fuel : Nat} {value : Value} {member : ViewMember} {names : List String} {t t' : Target}
    {u : PUnit} (ran : Succeeds (writeMember N (serialize N D fuel) value member) t u t')
    (apart : ∀ cname ∈ names, cname ∉ memberNames (structNames D fuel) member) : Agree names t.view t'.view := by
  have touching := writeMember_touching N (serialize_touching N D fuel) value member
  have touched := ran.keeps (touching t.view) (.refl _ t.view)
  exact touched.agree fun cname here i inside => apart cname here (memberRegion_named (structNames D fuel) (fun _ _ _ => structRegion_named) inside)

/-- So do the members after it. -/
theorem writeMembers_apart {fuel : Nat} {name : String} {members : List (String × ViewMember)} {values : List Value}
    {names : List String} {t t' : Target} {u : PUnit}
    (ran : Succeeds (writeMembers N (serialize N D fuel) name members values) t u t')
    (apart : ∀ cname ∈ names, cname ∉ members.flatMap fun member => memberNames (structNames D fuel) member.2) :
    Agree names t.view t'.view := by
  have touching := writeMembers_touching N (serialize_touching N D fuel) name members values
  have touched := ran.keeps (touching t.view) (.refl _ t.view)
  refine touched.agree fun cname here i => ?_
  rintro ⟨member, listed, inside⟩
  exact apart cname here (List.mem_flatMap.2 ⟨member, listed, memberRegion_named (structNames D fuel) (fun _ _ _ => structRegion_named) inside⟩)

/-- A struct that is written is read back from a VIEW that agrees on its members. -/
def Restores (N : Native) (D : ViewDecls) (fuel : Nat) : Prop :=
  ∀ {id value t t' u}, Succeeds (serialize N D fuel id value) t u t' → (structNames D fuel id).Nodup →
    ComesBack N D t.view.view fuel id value → deserialize N D t'.view fuel id = .ok value.reset

/-- Each member reads what it wrote, for the members after it write elsewhere. -/
theorem readMembers_reads (lawful : N.Lawful) {fuel : Nat} (restores : Restores N D fuel) (name : String)
    {view : String} : ∀ (members : List (String × ViewMember)) (values : List Value) {t t' : Target} {u : PUnit},
    t.view.view = view → Succeeds (writeMembers N (serialize N D fuel) name members values) t u t' →
    (members.flatMap fun member => memberNames (structNames D fuel) member.2).Nodup →
    MembersRead N view (ComesBack N D view fuel) members values →
      readMembers N t'.view (deserialize N D t'.view fuel) name members = .ok (resetAll values)
  | [], [], _, _, _, _, _, _, _ => rfl
  | [], _ :: _, _, _, _, _, ran, _, _ => absurd ran succeeds_throw
  | _ :: _, [], _, _, _, _, ran, _, _ => absurd ran succeeds_throw
  | (label, member) :: members, value :: values, t, t', u, same, ran, distinct, reads => by
      obtain ⟨_, t₁, first, rest⟩ := succeeds_bind.1 ran
      rw [succeeds_labelled] at first
      obtain ⟨mine, others, apart⟩ := List.nodup_append.1 (List.flatMap_cons ▸ distinct)
      have touching := writeMember_touching N (serialize_touching N D fuel) value member
      have named : t₁.view.view = view := (touching.view first).trans same
      have tail := readMembers_reads lawful restores name members values named rest others reads.2
      -- the later members leave this one as it is
      have agree : Agree (memberNames (structNames D fuel) member) t₁.view t'.view :=
        writeMembers_apart rest fun cname here there => apart cname here cname there rfl
      have head : readMember N t'.view (deserialize N D t'.view fuel) member = .ok value.reset := by
        rw [readMember_agree agree fun id => deserialize_agree fuel id]
        cases member with
        | skip =>
            obtain ⟨held, rfl⟩ := reads.1
            rfl
        | field cname occ type =>
            obtain ⟨found, kept⟩ := writeField_reads lawful first (same.symm ▸ reads.1.1) (same.symm ▸ reads.1.2)
            exact found.trans (by rw [kept])
        | flatten id => exact restores first mine (same.symm ▸ reads.1)
      simp only [readMembers, head, tail, resetAll]
      rfl

/-- **What a struct wrote it reads**: by induction on how deep it is. -/
theorem restores (lawful : N.Lawful) : ∀ fuel, Restores N D fuel
  | 0 => fun ran _ _ => absurd ran succeeds_throw
  | fuel + 1 => by
      intro ran distinct reads
      rename_i id value t t' u
      have view := (serialize_touching N D (fuel + 1) id value).view ran
      unfold serialize at ran
      split at ran
      · rename_i decl values found
        obtain ⟨_, t₁, got, rest⟩ := succeeds_bind.1 ran
        obtain ⟨rfl, rfl⟩ := succeeds_get.1 got
        obtain ⟨_, t₂, checked, rest⟩ := succeeds_bind.1 rest
        obtain ⟨named, rfl⟩ := succeeds_ofExcept.1 checked
        rw [structNames, found] at distinct
        have members := readMembers_reads lawful (restores lawful fuel) decl.name decl.members values rfl rest distinct
          (reads decl values found rfl)
        have checked : checkView t'.view.view decl.viewName = .ok () :=
          checkView_eq_ok.2 (view.trans (checkView_eq_ok.1 named))
        unfold deserialize
        simp only [found, checked, members, bind, Except.bind, Value.reset]
        rfl
      · exact absurd ran succeeds_throw

/-- `view_read` gives back what `view_write` wrote of one struct. -/
theorem viewWrite_restores (lawful : N.Lawful) {fuel : Nat} {id : StructId} {value : Value} {t t' : Target} {u : PUnit}
    (wrote : Succeeds (viewWrite N D fuel id value) t u t') (distinct : (structNames D fuel id).Nodup)
    (reads : ComesBack N D t.view.view fuel id value) : viewRead N D t'.view fuel id = .ok value.reset := by
  unfold viewWrite at wrote
  unfold viewRead
  cases found : D[id]? with
  | none =>
      rw [found] at wrote
      exact absurd wrote succeeds_throw
  | some decl =>
      rw [found] at wrote
      obtain ⟨_, t₁, got, rest⟩ := succeeds_bind.1 wrote
      obtain ⟨rfl, rfl⟩ := succeeds_get.1 got
      obtain ⟨_, t₂, checked, rest⟩ := succeeds_bind.1 rest
      obtain ⟨named, rfl⟩ := succeeds_ofExcept.1 checked
      have view := (serialize_touching N D fuel id value).view rest
      have same : checkView t'.view.view decl.viewName = .ok () :=
        checkView_eq_ok.2 (view.trans (checkView_eq_ok.1 named))
      simp only [same, bind, Except.bind]
      exact restores lawful fuel rest distinct reads

/-- **Round trip.**  A value that `view_write` has accepted, over whatever the VIEW held, `view_read` gives
back: its scalars, `None` and `Some`, vectors at their exact length, arrays and flattened structs, with
skipped members at their defaults.  For this no member of the VIEW is mapped twice, native code gives back
each scalar it has stored and an element of a fresh VIEW as it was, and a `[T; 0]` of a counted member starts
at its front. -/
theorem view_round_trip (N : Native) (lawful : N.Lawful) (D : ViewDecls) (distinct : Distinct D) (fuel : Nat)
    (id : StructId) (value : Value) (t t' : Target) (reads : ComesBack N D t.view.view fuel id value)
    (ran : (viewWrite N D fuel id value).run.run t = (.ok ⟨⟩, t')) :
    viewRead N D t'.view fuel id = .ok value.reset :=
  viewWrite_restores lawful ran (distinct fuel id) reads

end RoundTrip

/-! ## An example -/

/-- A `long` member; its NULL sentinel is zero. -/
def longField (max : Nat) (counted : Bool) : LayoutField :=
  ⟨.Long, max, 8, counted, fun _ => Ubf.longBytes 0, fun cell => cell = Ubf.longBytes 0⟩

/-- A `string` member; its NULL sentinel is empty. -/
def stringField (dim : Nat) : LayoutField := ⟨.String, 1, dim, false, fun _ => [], fun cell => cell = []⟩

/-- The VIEW `POSITION`, with a counted array, on a 64-bit little-endian machine. -/
def positionView : Native where
  layout view :=
    if view = "POSITION" then
      some fun cname =>
        if cname = "id" then some (longField 1 false)
        else if cname = "samples" then some (longField 8 true)
        else if cname = "note" then some (stringField 64)
        else none
    else none
  convert
    | { type := .Long, .. }, .Long value => .ok (Ubf.longBytes value)
    | { type := .String, .. }, .String text => .ok text.toUTF8.toList
    | _, _ => .error ⟨.BTYPERR, ""⟩
  toLong _ cell := .ok (Ubf.bytesLong cell)
  toFloat _ _ := .error ⟨.BTYPERR, ""⟩
  toDouble _ _ := .error ⟨.BTYPERR, ""⟩
  toText _ cell := .ok (String.ofList (cell.map fun byte => Char.ofNat byte.toNat))
  toBytes _ cell := .ok cell
  toOwn _ cell := .ok cell
  ofOwn _ cell := .ok cell

theorem positionView_lawful : positionView.Lawful := fun _ _ _ reset => (Except.ok.inj reset).symm

def i64 : ScalarTy := .int Ubf.longMin Ubf.longMax

/-- Its samples start at the second element. -/
def position : ViewDecls :=
  [⟨"Position", "POSITION",
    [("id", .field "id" 0 (.scalar i64)), ("samples", .field "samples" 1 (.vec (.scalar i64))),
      ("note", .field "note" 0 (.option (.scalar .string))), ("cached", .skip)]⟩]

theorem position_distinct : Distinct position := by
  intro fuel id
  cases fuel with
  | zero => exact List.nodup_nil
  | succ fuel =>
      cases id with
      | zero => exact (by decide : ["id", "samples", "note"].Nodup)
      | succ id => exact List.nodup_nil

/-- A VIEW that was used before. -/
def stale : TypedView := ⟨"POSITION", fun _ _ => Ubf.longBytes 9, fun _ => 6⟩

def positionAt (samples : List Int) (note : Value) : Value :=
  .struct [.scalar (.int 7), .list (samples.map fun sample => .scalar (.int sample)), note, .skipped (some (.int 3))]

theorem long_reads (max : Nat) (counted : Bool) (value : Int) (back : Ubf.bytesLong (Ubf.longBytes value) = value)
    {cell : List UInt8} (written : scalarCell positionView (longField max counted) i64 (.int value) = some cell) :
    decode positionView (longField max counted) i64 cell = .ok (.int value) := by
  obtain ⟨given, handed, -, converted⟩ := scalarCell_eq_some.1 written
  obtain ⟨⟨typed, -, -⟩, rfl⟩ := viewValue_int.1 handed
  obtain rfl := Except.ok.inj converted
  have read : positionView.toLong (longField max counted) (Ubf.longBytes value) = .ok value := congrArg Except.ok back
  simp only [i64, decode, read, bind, Except.bind, if_pos typed]

theorem position_comesBack : ComesBack positionView position "POSITION" 1 0 (positionAt [5, 6] .none) := by
  intro decl values found same
  obtain rfl := Option.some.inj found
  cases same
  refine ⟨⟨trivial, ?_⟩, ⟨trivial, ?_⟩, ⟨trivial, trivial⟩, ⟨_, rfl⟩, trivial⟩
  · intro field cell known written
    obtain rfl := Except.ok.inj known
    exact long_reads 1 false 7 (by decide +kernel) written
  · intro value member
    simp only [List.map_cons, List.map_nil, List.mem_cons, List.not_mem_nil, or_false] at member
    rcases member with rfl | rfl
    · intro field cell known written
      obtain rfl := Except.ok.inj known
      exact long_reads 8 true 5 (by decide +kernel) written
    · intro field cell known written
      obtain rfl := Except.ok.inj known
      exact long_reads 8 true 6 (by decide +kernel) written

/-- A run that succeeds, with the state it leaves. -/
theorem run_succeeds {m : Viewing PUnit} {t : Target} (ok : (m.run.run t).1 = .ok ⟨⟩) :
    m.run.run t = (.ok ⟨⟩, (m.run.run t).2) := Prod.ext ok rfl

theorem position_round_trip :
    viewRead positionView position
      ((viewWrite positionView position 1 0 (positionAt [5, 6] .none)).run.run ⟨stale, []⟩).2.view 1 0 =
      .ok (positionAt [5, 6] .none).reset :=
  view_round_trip positionView positionView_lawful position position_distinct 1 0 (positionAt [5, 6] .none)
    ⟨stale, []⟩ _ position_comesBack (run_succeeds (by decide +kernel))

end Endurox.View
