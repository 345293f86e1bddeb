/-
# Ubf.Replacement -- a mapped write replaces its own part, and nothing else

Column by column, a write is one strip for each mapped field (`structStrips`); of a group
the rows come together, each member's in its own column (`onAll_rows`).  So when no field
is mapped twice, what a write leaves in a column is what its one strip makes of it: in
what the strip covers the value alone decides, and the rest is as it was.
-/
import Endurox.Ubf.Strips

namespace Endurox.Ubf

open Endurox.Theory
open Endurox.Typed (BFLDID UbfFieldType UbfError UbfCode)

set_option autoImplicit false

/-! ## The fields of a type -/

/-- The columns of a group. -/
def placedFields : List (String × Placed) → List BFLDID
  | [] => []
  | (_, placed) :: members => (placed.field?.map Prod.fst).toList ++ placedFields members

def Decls.memberFields (D : Decls) (flat : StructId → List BFLDID) : Member → List BFLDID
  | .placed placed => (placed.field?.map Prod.fst).toList
  | .flatten id => flat id
  | .group _ type =>
      match D.groups[type.id]? with
      | some g => placedFields g.members
      | none => []

/-- The fields a struct's members map, the columns of groups and of flattened structs included. -/
def Decls.fields (D : Decls) : Nat → StructId → List BFLDID
  | 0, _ => []
  | fuel + 1, id =>
      match D.structs[id]? with
      | some decl => decl.members.flatMap fun member => D.memberFields (D.fields fuel) member.2
      | none => []

/-! ## Rows, column by column -/

section Columns

variable (N : Native) (image : StructId → Value → Buffer)

/-- The columns of a group's rows. -/
def groupStrips (base : Nat) (cut : Bool) : List (String × Placed) → List (List Value) → Script
  | [], _ => []
  | (_, placed) :: members, rows =>
      placedStrips N image base placed (rows.map (·.headD .none)) cut ++
        groupStrips base cut members (rows.map List.tail)

def columnScript (g : GroupDecl) (base : Nat) : GroupTy → Value → Script
  | .one _, row => groupStrips N image base false g.members [rowValues row]
  | .vec _, .list rows => groupStrips N image base true g.members (rows.map rowValues)
  | .array _ _, .list rows => groupStrips N image base false g.members (rows.map rowValues)
  | _, _ => []

variable {N image}

theorem placedStrips_keys (base : Nat) (placed : Placed) (values : List Value) (cut : Bool) :
    (placedStrips N image base placed values cut).map (·.key) = (placed.field?.map Prod.fst).toList := by
  unfold placedStrips
  cases placed.field? with
  | none => rfl
  | some place => rfl

theorem rowScript_keys (base : Nat) : ∀ (members : List (String × Placed)) (values : List Value),
    members.length = values.length → (rowScript N image base members values).map (·.key) = placedFields members
  | [], _, _ => rfl
  | (_, placed) :: members, value :: values, length => by
      rw [rowScript, List.map_append, placedStrips_keys, rowScript_keys base members values (Nat.succ.inj length),
        placedFields]
  | _ :: _, [], length => nomatch length

theorem groupStrips_keys (base : Nat) (cut : Bool) : ∀ (members : List (String × Placed)) (rows : List (List Value)),
    (groupStrips N image base cut members rows).map (·.key) = placedFields members
  | [], _ => rfl
  | (_, placed) :: members, rows => by
      rw [groupStrips, List.map_append, placedStrips_keys, groupStrips_keys base cut members, placedFields]

/-- Where there are no rows, a column is cut or left alone. -/
theorem groupStrips_nil_cut (base : Nat) : ∀ members : List (String × Placed),
    groupStrips N image base true members [] = clearScript N image base members
  | [] => rfl
  | (_, placed) :: members => by
      rw [groupStrips, clearScript, List.map_nil, List.map_nil, groupStrips_nil_cut base members]

theorem onAll_groupStrips_nil (base : Nat) (k : BFLDID) : ∀ (members : List (String × Placed)) (xs : List Datum),
    Strip.onAll padding k (groupStrips N image base false members []) xs = xs
  | [], _ => rfl
  | (_, placed) :: members, xs => by
      rw [groupStrips, Strip.onAll_append, List.map_nil, List.map_nil, onAll_groupStrips_nil base k members,
        placedStrips]
      cases placed.field? with
      | none => rfl
      | some place =>
          show (if place.1 = k then xs else xs) = xs
          exact ite_self xs

/-- **The first row, and then the others**: in each column its occurrence comes first. -/
theorem onAll_groupStrips_cons (cut : Bool) (k : BFLDID) : ∀ (members : List (String × Placed)) (base : Nat)
    (row : List Value) (rows : List (List Value)) (xs : List Datum), (placedFields members).Nodup →
    members.length = row.length →
    Strip.onAll padding k (groupStrips N image base cut members (row :: rows)) xs =
      Strip.onAll padding k (groupStrips N image (base + 1) cut members rows)
        (Strip.onAll padding k (rowScript N image base members row) xs)
  | [], _, _, _, _, _, _ => rfl
  | _ :: _, _, [], _, _, _, length => nomatch length
  | (_, placed) :: members, base, value :: row, rows, xs, distinct, length => by
      rw [placedFields] at distinct
      have ih := fun xs => onAll_groupStrips_cons cut k members base row (rows.map List.tail) xs
        (List.nodup_append.1 distinct).2.1 (Nat.succ.inj length)
      simp only [groupStrips, rowScript, placedStrips, List.map_cons, List.headD_cons, List.tail_cons]
      cases slot : placed.field? with
      | none => exact ih xs
      | some place =>
          obtain ⟨f, occ⟩ := place
          rw [slot, Option.map_some, Option.toList_some, List.singleton_append, List.nodup_cons] at distinct
          simp only [List.singleton_append, Strip.onAll_cons]
          by_cases here : f = k
          · subst here
            have absent : ∀ (base : Nat) (rows : List (List Value)),
                f ∉ (groupStrips N image base cut members rows).map (·.key) := fun base rows => by
              rw [groupStrips_keys]
              exact distinct.1
            have absent_row : f ∉ (rowScript N image base members row).map (·.key) := by
              rw [rowScript_keys base members row (Nat.succ.inj length)]
              exact distinct.1
            rw [if_pos rfl, if_pos rfl, if_pos rfl, Strip.onAll_absent padding _ _ (absent _ _),
              Strip.onAll_absent padding _ _ (absent _ _), Strip.onAll_absent padding _ _ absent_row,
              Strip.on_cons, show base + 1 + occ.toNat = base + occ.toNat + 1 by omega]
            rfl
          · rw [if_neg here, if_neg here, if_neg here]
            exact ih xs

/-- **Rows are columns**: written row by row, and cut or not behind, they leave in each column what
its strip does. -/
theorem onAll_rows (N : Native) (image : StructId → Value → Buffer) (cut : Bool) (k : BFLDID) {members : List (String × Placed)}
    (distinct : (placedFields members).Nodup) : ∀ (rows : List Value) (base : Nat) (xs : List Datum),
    (∀ row ∈ rows, members.length = (rowValues row).length) →
    Strip.onAll padding k (rowsScript N image members base rows ++
        groupStrips N image (base + rows.length) cut members []) xs =
      Strip.onAll padding k (groupStrips N image base cut members (rows.map rowValues)) xs
  | [], _, _, _ => rfl
  | row :: rows, base, xs, lengths => by
      obtain ⟨length, later⟩ := List.forall_mem_cons.1 lengths
      rw [List.map_cons, onAll_groupStrips_cons cut k members base (rowValues row) _ xs distinct length, rowsScript,
        List.append_assoc, Strip.onAll_append, ← onAll_rows N image cut k distinct rows (base + 1) _ later, List.length_cons,
        show base + 1 + rows.length = base + (rows.length + 1) by omega]

end Columns

/-! ## One strip to a field -/

/-- From one buffer to the other, these columns have been written, by these strips. -/
structure Lays (strips : Script) (ids : List BFLDID) (t t' : Target) : Prop where
  keys : strips.map (·.key) = ids
  columns : ∀ k, column k t'.fields = Strip.onAll padding k strips (column k t.fields)

theorem Lays.nil (t : Target) : Lays [] [] t t := ⟨rfl, fun _ => rfl⟩

theorem Lays.append {first later : Script} {ids more : List BFLDID} {t t₁ t' : Target} (one : Lays first ids t t₁)
    (other : Lays later more t₁ t') : Lays (first ++ later) (ids ++ more) t t' :=
  ⟨by rw [List.map_append, one.keys, other.keys],
    fun k => by rw [other.columns, one.columns, Strip.onAll_append]⟩

/-- A script laid in its order lays its columns. -/
theorem Lays.ofScript (script : Script) {strips : Script} {ids : List BFLDID} {t t' : Target}
    (laid : t'.fields = script.onto t.fields) (keys : strips.map (·.key) = ids)
    (same : ∀ k xs, Strip.onAll padding k script xs = Strip.onAll padding k strips xs) : Lays strips ids t t' :=
  ⟨keys, fun k => by rw [laid, Script.onto, Strip.column_applyAll, same]⟩

theorem Lays.one {s : Strip BFLDID Datum} {t t' : Target} (laid : t'.fields = s.apply padding t.fields) :
    Lays [s] [s.key] t t' :=
  .ofScript [s] laid rfl fun _ _ => rfl

theorem Lays.absent {strips : Script} {ids : List BFLDID} {t t' : Target} (lays : Lays strips ids t t')
    {k : BFLDID} (absent : k ∉ ids) : column k t'.fields = column k t.fields := by
  rw [lays.columns, Strip.onAll_absent padding _ _ (by rw [lays.keys]; exact absent)]

theorem Lays.only {strips : Script} {ids : List BFLDID} {t t' : Target} (lays : Lays strips ids t t')
    (distinct : ids.Nodup) {s : Strip BFLDID Datum} (member : s ∈ strips) :
    column s.key t'.fields = s.on (padding s.key) (column s.key t.fields) := by
  rw [lays.columns, Strip.onAll_only padding _ member (by rw [lays.keys]; exact distinct)]

section Struct

variable {N : Native} {D : Decls} {t t' : Target} {u : PUnit} {child : StructId → Value → Writing PUnit}
  {image : StructId → Value → Buffer}

theorem fieldStrip_key (f : BFLDID) (type : FieldTy) (value : Value) (start : Nat) :
    (fieldStrip N f type value start).key = f := by
  unfold fieldStrip
  split <;> rfl

theorem mappedStrip_key (m : Mapping) (f : BFLDID) (type : MappedTy) (value : Value) (start : Nat) :
    (mappedStrip N image m f type value start).key = f := by
  unfold mappedStrip
  split <;> rfl

theorem writeGroup_lays {g : GroupDecl} {base : Int} {type : GroupTy} {value : Value} (makes : Makes child image)
    (known : D.groups[type.id]? = some g) (distinct : (placedFields g.members).Nodup)
    (ran : Ran (writeGroup N child D.groups base type value) t u t') :
    Lays (columnScript N image g base.toNat type value) (placedFields g.members) t t' := by
  obtain ⟨lengths, laid⟩ := writeGroup_ran makes known ran
  cases type with
  | one id =>
      refine .ofScript _ laid (groupStrips_keys _ _ _ _) fun k xs => ?_
      have rows := onAll_rows N image false k distinct [value] base.toNat xs lengths
      rw [Strip.onAll_append, onAll_groupStrips_nil] at rows
      rw [rowsScript, rowsScript, List.append_nil] at rows
      exact rows
  | vec id =>
      cases value with
      | list rows =>
          refine .ofScript _ laid (groupStrips_keys _ _ _ _) fun k xs => ?_
          rw [groupScript, ← groupStrips_nil_cut, onAll_rows N image true k distinct rows base.toNat xs lengths]
          rfl
      | _ =>
          unfold writeGroup at ran
          rw [known] at ran
          exact absurd ran ran_throw
  | array size id =>
      cases value with
      | list rows =>
          refine .ofScript _ laid (groupStrips_keys _ _ _ _) fun k xs => ?_
          have columns := onAll_rows N image false k distinct rows base.toNat xs lengths
          rw [Strip.onAll_append, onAll_groupStrips_nil] at columns
          exact columns
      | _ =>
          unfold writeGroup at ran
          rw [known] at ran
          exact absurd ran ran_throw

variable {strips : StructId → Value → Script} {ids : StructId → List BFLDID}

theorem writeMember_lays {value : Value} {member : Member} (makes : Makes child image)
    (flat : ∀ id value (t t' : Target), Ran (child id value) t ⟨⟩ t' → (ids id).Nodup →
      Lays (strips id value) (ids id) t t')
    (places : ∀ f occ type default, member = .placed (.field f occ type default) → N.Places occ)
    (distinct : (D.memberFields ids member).Nodup) (ran : Ran (writeMember N D child value member) t u t') :
    Lays (memberScript N D image strips (columnScript N image) value member) (D.memberFields ids member) t t' := by
  cases member with
  | placed placed =>
      cases placed with
      | skip =>
          obtain ⟨-, rfl⟩ := ran_pure.1 ran
          exact .nil t
      | field f occ type default =>
          have lays := Lays.one (writeField_ran (places f occ type default rfl) ran).2
          rw [fieldStrip_key] at lays
          exact lays
      | mapped m f occ type default =>
          have lays := Lays.one (writeMapped_ran makes ran).2
          rw [mappedStrip_key] at lays
          exact lays
  | flatten id => exact flat id value t t' ran distinct
  | group occ type =>
      obtain ⟨g, known⟩ := writeGroup_known ran
      simp only [Decls.memberFields, known] at distinct ⊢
      simp only [memberScript, known]
      exact writeGroup_lays makes known distinct ran

theorem writeMembers_lays {name : String} (makes : Makes child image)
    (flat : ∀ id value (t t' : Target), Ran (child id value) t ⟨⟩ t' → (ids id).Nodup →
      Lays (strips id value) (ids id) t t') :
    ∀ (members : List (String × Member)) (values : List Value) {t t' : Target} {u : PUnit},
      (∀ label f occ type default, (label, Member.placed (.field f occ type default)) ∈ members → N.Places occ) →
      (members.flatMap fun member => D.memberFields ids member.2).Nodup →
      Ran (writeMembers N D child name members values) t u t' →
      Lays (membersScript N D image strips (columnScript N image) members values)
        (members.flatMap fun member => D.memberFields ids member.2) t t'
  | [], [], t, _, _, _, _, ran => by
      obtain ⟨-, rfl⟩ := ran_pure.1 ran
      exact .nil t
  | (label, member) :: members, value :: values, t, t', u, places, distinct, ran => by
      obtain ⟨_, t₁, first, rest⟩ := ran_bind.1 ran
      rw [List.flatMap_cons] at distinct ⊢
      obtain ⟨here, later, -⟩ := List.nodup_append.1 distinct
      have one := writeMember_lays makes flat
        (fun f occ type default same => places label f occ type default (same ▸ List.mem_cons_self)) here
        ((ran_labelled name label).1 first)
      exact one.append (writeMembers_lays makes flat members values
        (fun label f occ type default there => places label f occ type default (List.mem_cons_of_mem _ there))
        later rest)
  | [], _ :: _, _, _, _, _, _, ran => absurd ran ran_throw
  | _ :: _, [], _, _, _, _, _, ran => absurd ran ran_throw

end Struct

section Struct

variable (N : Native) (D : Decls)

/-- **The strips of a value**: one for each field its type maps.  A `Vec` and a `None` cut off what
lies behind. -/
def structStrips : Nat → StructId → Value → Script
  | 0, _, _ => []
  | fuel + 1, id, value =>
      match D.structs[id]?, value with
      | some decl, .struct values =>
          membersScript N D (structImage N D fuel) (structStrips fuel) (columnScript N (structImage N D fuel))
            decl.members values
      | _, _ => []

variable {N D}

theorem structStrips_struct {fuel : Nat} {id : StructId} {decl : Decl} (found : D.structs[id]? = some decl)
    (values : List Value) :
    structStrips N D (fuel + 1) id (.struct values) =
      membersScript N D (structImage N D fuel) (structStrips N D fuel) (columnScript N (structImage N D fuel))
        decl.members values := by
  unfold structStrips
  simp only [found]

theorem fields_struct {fuel : Nat} {id : StructId} {decl : Decl} (found : D.structs[id]? = some decl) :
    D.fields (fuel + 1) id = decl.members.flatMap fun member => D.memberFields (D.fields fuel) member.2 := by
  rw [Decls.fields, found]

/-- **A write that succeeds has laid one strip for each field**, if no field is mapped twice. -/
theorem serialize_lays (zeroBased : D.ZeroBased N) : ∀ (fuel : Nat) (id : StructId) (value : Value) (t t' : Target),
    Ran (serialize N D fuel id value) t ⟨⟩ t' → (D.fields fuel id).Nodup →
    Lays (structStrips N D fuel id value) (D.fields fuel id) t t'
  | 0, _, _, _, _, ran, _ => absurd ran ran_throw
  | fuel + 1, id, value, t, t', ran, distinct => by
      obtain ⟨decl, values, found, rfl, wrote⟩ := serialize_struct_ran ran
      rw [fields_struct found] at distinct ⊢
      rw [structStrips_struct found]
      exact writeMembers_lays (serialize_makes zeroBased fuel) (serialize_lays zeroBased fuel) decl.members values
        (zeroBased decl (List.mem_of_getElem? found)) distinct wrote

end Struct

/-! ## The result -/

/-- **A mapped write replaces.**  When starts are zero-based, or native code refuses others, and no
field is mapped twice, a write that succeeds leaves every field that is not mapped as it was; of a
mapped one, what its strip covers is the value's, whatever was there, and behind a cut nothing; the
occurrences below the strip stay, and those behind it where it does not cut. -/
theorem mapped_write_replaces (N : Native) (D : Decls) (zeroBased : D.ZeroBased N) (fuel : Nat) (id : StructId)
    (value : Value) (distinct : (D.fields fuel id).Nodup) (t t' : Target)
    (wrote : Ran (serialize N D fuel id value) t ⟨⟩ t') :
    (∀ f ∉ D.fields fuel id, column f t'.fields = column f t.fields) ∧
      (structStrips N D fuel id value).map (·.key) = D.fields fuel id ∧
      ∀ s ∈ structStrips N D fuel id value,
        (∀ i, s.Covers i → (column s.key t'.fields)[i]? = s.data[i - s.start]?) ∧
        (s.cut = true → (column s.key t'.fields).length ≤ s.start + s.data.length) ∧
        (∀ i < s.start, i < (column s.key t.fields).length →
          (column s.key t'.fields)[i]? = (column s.key t.fields)[i]?) ∧
        (s.cut = false → ∀ i, s.start + s.data.length ≤ i →
          (column s.key t'.fields)[i]? = (column s.key t.fields)[i]?) := by
  have lays := serialize_lays zeroBased fuel id value t t' wrote distinct
  refine ⟨fun f absent => lays.absent absent, lays.keys, fun s member => ?_⟩
  rw [lays.only distinct member]
  refine ⟨fun i covers => ?_, fun cut => ?_, fun i below there => ?_, fun kept i behind => ?_⟩
  · exact Strip.on_covered covers _ _
  · rw [s.on_length_cut _ _ cut]
    split
    · omega
    · exact Nat.le_refl _
  · exact s.on_below _ _ below there
  · exact Strip.on_behind kept _ _ behind

/-- A struct of a list, from the second occurrence on, and an optional note. -/
def listTypes : Decls where
  structs :=
    [{ name := "Listed"
       members :=
        [("items", .placed (.field ⟨3, .Carray⟩ 1 (.vec (.scalar .carray)) false)),
         ("note", .placed (.field ⟨4, .Carray⟩ 0 (.option (.scalar .carray)) false))] }]

theorem listTypes_zeroBased : listTypes.ZeroBased littleEndian := by
  intro decl known label f occ type default member
  obtain rfl := List.mem_singleton.1 known
  simp only [List.mem_cons, Prod.mk.injEq, Member.placed.injEq, Placed.field.injEq, List.not_mem_nil,
    or_false] at member
  rcases member with ⟨-, -, rfl, -⟩ | ⟨-, -, rfl, -⟩
  · exact .inl (by decide)
  · exact .inl (by decide)

/-- A buffer with more items than are to come, a note and something else. -/
def listedBefore : Buffer :=
  [(⟨3, .Carray⟩, .plain [1]), (⟨3, .Carray⟩, .plain [2]), (⟨3, .Carray⟩, .plain [3]),
   (⟨4, .Carray⟩, .plain [4]), (⟨5, .Carray⟩, .plain [5])]

/-- One item and no note. -/
def listedValue : Value := .struct [.list [.scalar (.carray [7])], .none]

/-- Written over the longer list, the shorter one stands alone behind the first occurrence, and the
note is gone. -/
theorem shorter_list_replaces :
    (∀ f ∉ listTypes.fields 1 0, column f [(⟨3, .Carray⟩, .plain [1]), (⟨3, .Carray⟩, .plain [7]),
        (⟨5, .Carray⟩, .plain [5])] = column f listedBefore) ∧
      (structStrips littleEndian listTypes 1 0 listedValue).map (·.key) = listTypes.fields 1 0 :=
  have replaced := mapped_write_replaces littleEndian listTypes listTypes_zeroBased 1 0 listedValue (by decide) ⟨listedBefore, []⟩
    ⟨[(⟨3, .Carray⟩, .plain [1]), (⟨3, .Carray⟩, .plain [7]), (⟨5, .Carray⟩, .plain [5])], []⟩ rfl
  ⟨replaced.1, replaced.2.1⟩

end Endurox.Ubf
