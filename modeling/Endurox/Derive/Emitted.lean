/-
# Derive.Emitted -- what is emitted

The loop of `expand` in closed form: what each member adds to the code, given what its
attributes mean.  With it, what a derive accepts as a whole, that attributes may come in any
order, and that the derives of a struct fit together: writing and reading address the same
members at the same places, and only an empty group is writable and not readable.
-/
import Endurox.Derive.Acceptance

namespace Endurox.Derive

open Endurox.Theory
open Endurox.Ubf (Mapping)

set_option autoImplicit false

/-! ## The container -/

section Container

variable {pathOf : PathParser}

/-- What the attributes of a container are accepted as: each known and well-formed, no key twice, and a VIEW
has a name. -/
def ContainerReads (pathOf : PathParser) (isView : Bool) (attrs : List Attribute) (container : Container) : Prop :=
  (∃ items changes, itemsOf isView attrs = some items ∧
    List.Forall₂ (Means containerKeyOf (containerChangeOf pathOf)) (items.map (containerNamed isView)) changes ∧
    (changes.map Prod.fst).Nodup ∧ container = changed changes {}) ∧
  (isView = true → container.viewName ≠ none)

theorem containerMeta_foldlM (pathOf : PathParser) (isView : Bool) (items : List Meta)
    (state : Container × List ContainerKey) :
    items.foldlM (containerMeta pathOf isView) state =
      readOptions containerKeyOf (containerChangeOf pathOf) "duplicate container attribute"
        (items.map (containerNamed isView)) state := by
  unfold readOptions
  rw [List.foldlM_map]
  rfl

theorem containerAttr_parsed {isView : Bool} {attrs : List Attribute} {container : Container} :
    containerAttr pathOf isView attrs = .ok container ↔
      (∃ items seen, itemsOf isView attrs = some items ∧
        readOptions containerKeyOf (containerChangeOf pathOf) "duplicate container attribute"
          (items.map (containerNamed isView)) ({}, []) = .ok (container, seen)) ∧
      (isView = true → container.viewName ≠ none) := by
  unfold containerAttr
  cases parsed : parseAttrs isView (containerMeta pathOf isView) attrs ({}, []) with
  | error e =>
      constructor
      · intro ok
        cases ok
      · rintro ⟨⟨items, seen, given, ran⟩, -⟩
        rw [← containerMeta_foldlM] at ran
        cases parsed.symm.trans (parseAttrs_eq_ok.2 ⟨items, given, ran⟩)
  | ok result =>
      obtain ⟨read, seen⟩ := result
      obtain ⟨items, given, ran⟩ := parseAttrs_eq_ok.1 parsed
      rw [containerMeta_foldlM] at ran
      simp only [bind, Except.bind]
      constructor
      · intro ok
        split at ok
        · cases ok
        · rename_i hasName
          cases ok
          exact ⟨⟨items, seen, given, ran⟩, fun view nameless => hasName ⟨view, nameless⟩⟩
      · rintro ⟨⟨items', seen', given', ran'⟩, hasName⟩
        cases given.symm.trans given'
        cases ran.symm.trans ran'
        exact if_neg fun nameless => hasName nameless.1 nameless.2

theorem containerAttr_eq_ok {isView : Bool} {attrs : List Attribute} {container : Container} :
    containerAttr pathOf isView attrs = .ok container ↔ ContainerReads pathOf isView attrs container := by
  rw [containerAttr_parsed]
  unfold ContainerReads
  constructor
  · rintro ⟨⟨items, seen, given, ran⟩, hasName⟩
    obtain ⟨changes, each, once, -, result⟩ := readOptions_eq_ok.1 ran
    exact ⟨⟨items, changes, given, each, once, congrArg Prod.fst result⟩, hasName⟩
  · rintro ⟨⟨items, changes, given, each, once, rfl⟩, hasName⟩
    exact ⟨⟨items, _, given, readOptions_eq_ok.2 ⟨changes, each, once, fun _ none => absurd none List.not_mem_nil,
      rfl⟩⟩, hasName⟩

theorem except_map_eq_ok {α β : Type} {result : Except Message α} {f : α → β} {b : β} :
    result.map f = .ok b ↔ ∃ a, result = .ok a ∧ f a = b := by
  cases result <;> simp [Except.map]

theorem containerChange_cases {item : Except Message (ContainerKey × Option Expr)}
    {change : ContainerKey × (Container → Container)}
    (meant : Means containerKeyOf (containerChangeOf pathOf) item change) :
    (∃ krate, change = (.krate, fun container => { container with krate })) ∨
      (∃ name, change = (.name, fun container => { container with viewName := some name })) ∨
      ∃ flag, change = (.group, fun container => { container with group := flag }) := by
  obtain ⟨k, change⟩ := change
  obtain ⟨keyed, changed⟩ := meant
  cases item with
  | error e => cases keyed
  | ok given =>
      obtain ⟨key, argument⟩ := given
      cases keyed
      simp only [containerChangeOf, bind, Except.bind] at changed
      cases k with
      | krate =>
          obtain ⟨krate, -, rfl⟩ := except_map_eq_ok.1 changed
          exact .inl ⟨krate, rfl⟩
      | name =>
          obtain ⟨name, -, rfl⟩ := except_map_eq_ok.1 changed
          exact .inr (.inl ⟨name, rfl⟩)
      | group =>
          obtain ⟨flag, -, rfl⟩ := except_map_eq_ok.1 changed
          exact .inr (.inr ⟨flag, rfl⟩)

theorem containerChanges_commute {i j : Except Message (ContainerKey × Option Expr)}
    {c d : ContainerKey × (Container → Container)} (first : Means containerKeyOf (containerChangeOf pathOf) i c)
    (second : Means containerKeyOf (containerChangeOf pathOf) j d) (apart : c.1 ≠ d.1) (container : Container) :
    d.2 (c.2 container) = c.2 (d.2 container) := by
  obtain ⟨_, rfl⟩ | ⟨_, rfl⟩ | ⟨_, rfl⟩ := containerChange_cases first <;>
    obtain ⟨_, rfl⟩ | ⟨_, rfl⟩ | ⟨_, rfl⟩ := containerChange_cases second <;>
    first
      | rfl
      | exact absurd rfl apart

theorem containerAttr_perm {isView : Bool} {attrs attrs' : List Attribute} {container : Container}
    (same : SameItems isView (containerNamed isView) attrs attrs')
    (ok : containerAttr pathOf isView attrs = .ok container) :
    containerAttr pathOf isView attrs' = .ok container := by
  obtain ⟨items, items', given, given', perm⟩ := same
  obtain ⟨⟨items₀, seen, given₀, ran⟩, hasName⟩ := containerAttr_parsed.1 ok
  cases given.symm.trans given₀
  obtain ⟨seen', ran', -⟩ := readOptions_perm perm (fun _ _ _ _ => containerChanges_commute) ran
  exact containerAttr_parsed.2 ⟨⟨items', seen', given', ran'⟩, hasName⟩

end Container

/-! ## A member's part -/

section Emitted

variable {Ty : Type} {isView serialize group : Bool}

/-- The field of a member: a VIEW's is its name unless it is given. -/
def idOf (isView : Bool) (ident : String) : Option Expr → Option Expr
  | some id => some id
  | none => if isView then some (.text ident) else none

/-- Where a member is placed: its field and its occurrence. -/
def Placement.slot (isView : Bool) (ident : String) : Placement → Option (Expr × Option Expr)
  | .field id occ _ => (idOf isView ident id).map fun id => (id, occ)
  | .ubf _ id occ _ _ => (idOf isView ident id).map fun id => (id, occ)
  | .view _ id occ _ => (idOf isView ident id).map fun id => (id, occ)
  | _ => none

/-- What is called for a member. -/
def Placement.call (isView : Bool) (ident : String) : Placement → Option Call
  | .skip => none
  | .flatten => some .flatten
  | .group occ => some (.group occ)
  | .field id occ _ => (idOf isView ident id).map fun id => .field id occ
  | .ubf pointer id occ size _ => (idOf isView ident id).map fun id =>
      .mapped (if pointer then .PointerUbf else .EmbeddedUbf) id occ size
  | .view pointer id occ _ => (idOf isView ident id).map fun id =>
      .mapped (if pointer then .PointerView else .EmbeddedView) id occ none

/-- A read of it may take the default. -/
def Placement.default : Placement → Bool
  | .field _ _ default => default
  | .ubf _ _ _ _ default => default
  | .view _ _ _ default => default
  | _ => false

/-- The place has a field, and in a group is one that rows can have. -/
def Placement.Fits (isView group : Bool) : Placement → Prop
  | .skip => True
  | .flatten => group = false
  | .group _ => group = false
  | .field id _ _ => isView = true ∨ id ≠ none
  | .ubf _ id _ _ _ => isView = true ∨ id ≠ none
  | .view _ id _ _ => isView = true ∨ id ≠ none

/-- What a member means. -/
def Field.place (field : Field Ty) : Placement := field.attr.placement

/-- The statements about a member. -/
def statementsOf (isView serialize : Bool) (field : Field Ty) : List (Statement Ty) :=
  match field.place.call isView field.ident with
  | some call => [if serialize then .write field.ident field.type call
      else if field.place.default then .readOrDefault field.ident field.type call
      else .read field.ident field.type call]
  | none => if serialize then [] else [.default field.ident field.type]

def checkOf (isView : Bool) (field : Field Ty) : Option (Check Ty) := do
  let call ← field.place.call isView field.ident
  let (_, occ) ← field.place.slot isView field.ident
  some { ident := field.ident, type := field.type, call, occ }

def clearOf (isView : Bool) (field : Field Ty) : Option Clear := do
  let (id, occ) ← field.place.slot isView field.ident
  some { ident := field.ident, id, occ }

/-- The place of the first member that has one. -/
def anchorOf (isView : Bool) (mapped : List (Field Ty)) : Option (Expr × Option Expr) :=
  mapped.findSome? fun field => field.place.slot isView field.ident

/-- The code collected, with what the members add. -/
def Code.with (isView serialize group : Bool) (code : Code Ty) (mapped : List (Field Ty)) : Code Ty where
  statements := code.statements ++ mapped.flatMap (statementsOf isView serialize)
  groupStatements := code.groupStatements ++ if group then mapped.flatMap (statementsOf isView serialize) else []
  groupChecks := code.groupChecks ++ if group then mapped.filterMap (checkOf isView) else []
  clearStatements := code.clearStatements ++ if group ∧ serialize then mapped.filterMap (clearOf isView) else []
  anchor := code.anchor.or (if group then anchorOf isView mapped else none)

@[simp] theorem Code.with_nil (code : Code Ty) : code.with isView serialize group [] = code := by
  simp [Code.with, anchorOf]

theorem filterMap_cons_toList {α β : Type} (f : α → Option β) (a : α) (l : List α) :
    (a :: l).filterMap f = (f a).toList ++ l.filterMap f := by
  cases found : f a <;> simp [found]

theorem Code.with_cons (code : Code Ty) (field : Field Ty) (mapped : List (Field Ty)) :
    code.with isView serialize group (field :: mapped) =
      (code.with isView serialize group [field]).with isView serialize group mapped := by
  have first : anchorOf isView (field :: mapped) =
      (field.place.slot isView field.ident).or (anchorOf isView mapped) := by
    unfold anchorOf
    cases found : field.place.slot isView field.ident <;> simp [found]
  have only : anchorOf isView [field] = field.place.slot isView field.ident := by
    unfold anchorOf
    cases found : field.place.slot isView field.ident <;> simp [found]
  unfold Code.with
  rw [first, only]
  cases group with
  | false => simp
  | true =>
      simp only [filterMap_cons_toList, List.flatMap_cons, List.flatMap_nil, List.filterMap_nil, List.append_nil,
        if_true, true_and, List.append_assoc, Option.or_assoc]
      cases serialize <;> simp

theorem idOf_isSome {ident : String} {id : Option Expr} :
    (idOf isView ident id).isSome = true ↔ isView = true ∨ id ≠ none := by
  unfold idOf
  cases id with
  | some _ => simp
  | none => cases isView <;> simp

/-- A member placed at a field adds the call and the place it means. -/
theorem placed_eq (code : Code Ty) {field : Field Ty} {id : Expr}
    (called : field.place.call isView field.ident = some (storageCall field.attr id))
    (slot : field.place.slot isView field.ident = some (id, field.attr.occ))
    (optional : field.place.default = field.attr.default) :
    placed serialize group field id code = code.with isView serialize group [field] := by
  unfold placed Code.with
  cases group <;> cases serialize <;>
    simp [statementsOf, checkOf, clearOf, anchorOf, statement, reading, called, slot, optional]

/-- A member with a field of its own. -/
theorem member_field {field : Field Ty} (code : Code Ty) (kept : field.attr.skip = false)
    (own : field.attr.group = false) (whole : field.attr.flatten = false)
    (fits : field.place.Fits isView group ↔ isView = true ∨ field.attr.field ≠ none)
    (placed_ : ∀ id, idOf isView field.ident field.attr.field = some id →
      placed serialize group field id code = code.with isView serialize group [field]) :
    (field.place.Fits isView group → member isView serialize group code field =
      .ok (code.with isView serialize group [field])) ∧
    (¬ field.place.Fits isView group → ∃ e, member isView serialize group code field = .error e) := by
  have ran : member isView serialize group code field =
      (fieldId isView field).bind fun id => .ok (placed serialize group field id code) := by
    simp [member, kept, own, whole, bind]
  rw [ran, fits, ← show (idOf isView field.ident field.attr.field).isSome = true ↔ _ from idOf_isSome]
  unfold fieldId
  cases given : field.attr.field with
  | some id =>
      rw [given] at placed_
      simp [idOf, Except.bind, placed_ id rfl]
  | none =>
      rw [given] at placed_
      cases isView with
      | true => simp [idOf, Except.bind, placed_ _ rfl]
      | false => simp [idOf, Except.bind]

variable (isView serialize group) in
/-- A member that means `place`. -/
theorem member_placed (ident : String) (type : Ty) (place : Placement) (code : Code Ty) :
    (place.Fits isView group → member isView serialize group code ⟨ident, type, place.attr⟩ =
      .ok (code.with isView serialize group [⟨ident, type, place.attr⟩])) ∧
    (¬ place.Fits isView group → ∃ e, member isView serialize group code ⟨ident, type, place.attr⟩ = .error e) := by
  have meant : (Field.mk ident type place.attr).place = place := place.placement_attr
  rw [show place.Fits isView group ↔ (Field.mk ident type place.attr).place.Fits isView group by rw [meant]]
  cases place with
  | skip =>
      unfold Code.with
      cases serialize <;> cases group <;>
        simp [member, Placement.attr, Placement.Fits, statementsOf, checkOf, clearOf, anchorOf, Placement.call,
          Placement.slot, Field.place, FieldAttr.placement]
  | flatten =>
      unfold Code.with
      cases group <;>
        simp [member, Placement.attr, Placement.Fits, statementsOf, Placement.call, Placement.default, statement,
          reading, Field.place, FieldAttr.placement]
  | group occ =>
      unfold Code.with
      cases group <;>
        simp [member, Placement.attr, Placement.Fits, statementsOf, Placement.call, Placement.default, statement,
          reading, Field.place, FieldAttr.placement]
  | field id occ default =>
      refine member_field code rfl rfl rfl (by rw [meant]; rfl) fun id' found => placed_eq code ?_ ?_ (by rw [meant]; rfl)
      · rw [meant]
        simp only [Placement.call, show idOf isView ident id = some id' from found]
        rfl
      · rw [meant]
        simp only [Placement.slot, show idOf isView ident id = some id' from found]
        rfl
  | ubf pointer id occ size default =>
      refine member_field code rfl rfl rfl (by rw [meant]; rfl) fun id' found => placed_eq code ?_ ?_ (by rw [meant]; rfl)
      · rw [meant]
        simp only [Placement.call, show idOf isView ident id = some id' from found]
        cases pointer <;> rfl
      · rw [meant]
        simp only [Placement.slot, show idOf isView ident id = some id' from found]
        rfl
  | view pointer id occ default =>
      refine member_field code rfl rfl rfl (by rw [meant]; rfl) fun id' found => placed_eq code ?_ ?_ (by rw [meant]; rfl)
      · rw [meant]
        simp only [Placement.call, show idOf isView ident id = some id' from found]
        cases pointer <;> rfl
      · rw [meant]
        simp only [Placement.slot, show idOf isView ident id = some id' from found]
        rfl

/-- **One member**: it is accepted when it fits, and adds what its place says. -/
theorem member_eq_ok {field : Field Ty} (meaningful : field.attr.Meaningful) {code code' : Code Ty} :
    member isView serialize group code field = .ok code' ↔
      field.place.Fits isView group ∧ code' = code.with isView serialize group [field] := by
  have both := member_placed isView serialize group field.ident field.type field.place code
  rw [show (⟨field.ident, field.type, field.place.attr⟩ : Field Ty) = field by
    rw [show field.place.attr = field.attr from meaningful]] at both
  by_cases fits : field.place.Fits isView group
  · rw [both.1 fits]
    exact ⟨fun same => ⟨fits, (Except.ok.inj same).symm⟩, fun added => by rw [added.2]⟩
  · obtain ⟨e, refused⟩ := both.2 fits
    rw [refused]
    exact ⟨fun impossible => (by cases impossible), fun added => absurd added.1 fits⟩

/-- **The loop** accepts members that fit, and collects what their places say. -/
theorem members_eq_ok : ∀ {mapped : List (Field Ty)} {code code' : Code Ty},
    (∀ field ∈ mapped, field.attr.Meaningful) →
      (mapped.foldlM (member isView serialize group) code = .ok code' ↔
        (∀ field ∈ mapped, field.place.Fits isView group) ∧ code' = code.with isView serialize group mapped)
  | [], code, code', _ => by
      simp [pure, Except.pure, eq_comm]
  | field :: mapped, code, code', meaningful => by
      have first : ∀ code', member isView serialize group code field = .ok code' ↔ _ := fun code' =>
        member_eq_ok (meaningful field List.mem_cons_self)
      have rest : ∀ code, mapped.foldlM (member isView serialize group) code = .ok code' ↔ _ := fun code =>
        members_eq_ok fun field later => meaningful field (List.mem_cons_of_mem _ later)
      rw [List.foldlM_cons]
      constructor
      · intro ok
        cases ran : member isView serialize group code field with
        | error e =>
            rw [ran] at ok
            cases ok
        | ok between =>
            rw [ran] at ok
            obtain ⟨fits, rfl⟩ := (first between).1 ran
            obtain ⟨all, rfl⟩ := (rest _).1 ok
            exact ⟨List.forall_mem_cons.2 ⟨fits, all⟩, (code.with_cons field mapped).symm⟩
      · rintro ⟨all, rfl⟩
        obtain ⟨fits, later⟩ := List.forall_mem_cons.1 all
        rw [(first _).2 ⟨fits, rfl⟩]
        exact (rest _).2 ⟨later, code.with_cons field mapped⟩

/-! ## A struct -/

/-- The attributes of a member are accepted. -/
def FieldReads (isView : Bool) (field : FieldDef Ty) (read : Field Ty) : Prop :=
  read.ident = field.ident ∧ read.type = field.type ∧ fieldAttr isView field.attrs = .ok read.attr

theorem fields_eq_ok {data : Shape Ty} {mapped : List (Field Ty)} :
    fields isView data = .ok mapped ↔
      ∃ defs, data = .named defs ∧ List.Forall₂ (FieldReads isView) defs mapped := by
  have one : ∀ {field : FieldDef Ty} {read : Field Ty},
      (do
        let attr ← fieldAttr isView field.attrs
        .ok { ident := field.ident, type := field.type, attr } : Except Message (Field Ty)) = .ok read ↔
          FieldReads isView field read := by
    intro field read
    unfold FieldReads
    cases fieldAttr isView field.attrs with
    | error e => simp [bind, Except.bind]
    | ok attr =>
        obtain ⟨ident, type, attr'⟩ := read
        simp [bind, Except.bind, eq_comm]
  cases data with
  | named defs =>
      unfold fields
      rw [mapM_eq_ok]
      simp only [one, Shape.named.injEq, exists_eq_left']
  | unnamed => simp [fields]
  | other => simp [fields]

/-- The code of a group; a reader needs an anchor. -/
def groupOf (isView serialize : Bool) (mapped : List (Field Ty)) : Option (GroupImpl Ty) :=
  let checks := mapped.filterMap (checkOf isView)
  let rows := mapped.flatMap (statementsOf isView serialize)
  if serialize then some (.write checks rows (mapped.filterMap (clearOf isView)))
  else (anchorOf isView mapped).map fun anchor => .read checks rows anchor

def implOf (isView serialize : Bool) (name : String) (container : Container) (mapped : List (Field Ty)) : Impl Ty where
  krate := container.krate
  name := name
  viewName := container.viewName
  body := mapped.flatMap (statementsOf isView serialize)
  group := if container.group ∧ ¬ isView then groupOf isView serialize mapped else none

theorem meaningful_of_reads {defs : List (FieldDef Ty)} {mapped : List (Field Ty)}
    (each : List.Forall₂ (FieldReads isView) defs mapped) : ∀ field ∈ mapped, field.attr.Meaningful := by
  induction each with
  | nil => exact fun field none => absurd none List.not_mem_nil
  | cons first _ ih =>
      obtain ⟨changes, -, -, -, meaningful, -⟩ := fieldAttr_eq_ok.1 first.2.2
      exact List.forall_mem_cons.2 ⟨meaningful, ih⟩

theorem groupImpl_eq_ok {mapped : List (Field Ty)} {emitted : Option (GroupImpl Ty)} :
    groupImpl isView serialize group (Code.with isView serialize group {} mapped) = .ok emitted ↔
      (group = true → isView = false → serialize = false → anchorOf isView mapped ≠ none) ∧
        emitted = if group ∧ ¬ isView then groupOf isView serialize mapped else none := by
  unfold groupImpl groupOf Code.with
  cases group with
  | false => simp [eq_comm]
  | true =>
      cases isView with
      | true => simp [eq_comm]
      | false =>
          cases serialize with
          | true => simp [eq_comm]
          | false => cases anchorOf false mapped <;> simp [eq_comm]

/-- **`expand` in closed form.** -/
theorem expand_eq_ok {pathOf : PathParser} {input : DeriveInput Ty} {impl : Impl Ty} :
    expand pathOf isView serialize input = .ok impl ↔
      ∃ container mapped, containerAttr pathOf isView input.attrs = .ok container ∧
        fields isView input.data = .ok mapped ∧
        (∀ field ∈ mapped, field.place.Fits isView container.group) ∧
        (container.group = true → isView = false → serialize = false → anchorOf isView mapped ≠ none) ∧
        impl = implOf isView serialize input.name container mapped := by
  constructor
  · intro ok
    unfold expand at ok
    cases contained : containerAttr pathOf isView input.attrs with
    | error e =>
        rw [contained] at ok
        cases ok
    | ok container =>
        cases read : fields isView input.data with
        | error e =>
            rw [contained, read] at ok
            cases ok
        | ok mapped =>
            obtain ⟨defs, -, each⟩ := fields_eq_ok.1 read
            cases collected : mapped.foldlM (member isView serialize container.group) {} with
            | error e =>
                simp only [contained, read, collected, bind, Except.bind] at ok
                cases ok
            | ok code =>
                obtain ⟨fits, rfl⟩ := (members_eq_ok (meaningful_of_reads each)).1 collected
                simp only [contained, read, collected, bind, Except.bind] at ok
                split at ok
                · cases ok
                · rename_i emitted grouped
                  cases ok
                  obtain ⟨anchored, rfl⟩ := groupImpl_eq_ok.1 grouped
                  exact ⟨container, mapped, rfl, rfl, fits, anchored, by simp [implOf, Code.with]⟩
  · rintro ⟨container, mapped, contained, read, fits, anchored, rfl⟩
    obtain ⟨defs, -, each⟩ := fields_eq_ok.1 read
    have collected : mapped.foldlM (member isView serialize container.group) {} = .ok _ :=
      (members_eq_ok (meaningful_of_reads each)).2 ⟨fits, rfl⟩
    have grouped : groupImpl isView serialize container.group _ = .ok _ := groupImpl_eq_ok.2 ⟨anchored, rfl⟩
    unfold expand
    simp only [contained, read, collected, grouped, bind, Except.bind]
    simp [implOf, Code.with]

/-! ## What is accepted -/

/-- What the attributes of a member are accepted as: each known and well-formed, no key twice, together those
of a placement; `skip` stands alone. -/
def MemberReads (isView : Bool) (field : FieldDef Ty) (read : Field Ty) : Prop :=
  read.ident = field.ident ∧ read.type = field.type ∧
    ∃ changes, Changes isView field.attrs changes ∧ (changes.map Prod.fst).Nodup ∧ read.attr = changed changes {} ∧
      read.attr.Meaningful ∧ (read.attr.skip = true → changes.length ≤ 1)

theorem fieldReads_iff {field : FieldDef Ty} {read : Field Ty} :
    FieldReads isView field read ↔ MemberReads isView field read := by
  unfold FieldReads MemberReads
  rw [fieldAttr_eq_ok]

/-- **What a derive accepts.**  A struct with named fields, whose attributes are each known, well-formed (its
`crate` a path) and given once, and that has a name when it is a VIEW; of every member together they mean
something, and give a UBF field where one is needed; a group has no members that would be groups themselves,
and one that is read has a member to anchor it. -/
theorem derive_accepts_iff (pathOf : PathParser) (isView serialize : Bool) (input : DeriveInput Ty) :
    (∃ impl, expand pathOf isView serialize input = .ok impl) ↔
      ∃ container defs mapped, ContainerReads pathOf isView input.attrs container ∧ input.data = .named defs ∧
        List.Forall₂ (MemberReads isView) defs mapped ∧
        (∀ field ∈ mapped, field.place.Fits isView container.group) ∧
        (container.group = true → isView = false → serialize = false →
          ∃ field ∈ mapped, field.place.slot isView field.ident ≠ none) := by
  have anchors : ∀ mapped : List (Field Ty), anchorOf isView mapped ≠ none ↔
      ∃ field ∈ mapped, field.place.slot isView field.ident ≠ none := by
    intro mapped
    unfold anchorOf
    rw [Ne, List.findSome?_eq_none_iff]
    simp
  constructor
  · rintro ⟨impl, ok⟩
    obtain ⟨container, mapped, contained, read, fits, anchored, -⟩ := expand_eq_ok.1 ok
    obtain ⟨defs, shaped, each⟩ := fields_eq_ok.1 read
    refine ⟨container, defs, mapped, containerAttr_eq_ok.1 contained, shaped, ?_, fits, ?_⟩
    · exact each.imp fun _ _ => fieldReads_iff.1
    · intro grouped plain reads
      exact (anchors mapped).1 (anchored grouped plain reads)
  · rintro ⟨container, defs, mapped, contained, shaped, each, fits, anchored⟩
    refine ⟨_, expand_eq_ok.2 ⟨container, mapped, containerAttr_eq_ok.2 contained, ?_, fits, ?_, rfl⟩⟩
    · exact fields_eq_ok.2 ⟨defs, shaped, each.imp fun _ _ => fieldReads_iff.2⟩
    · intro grouped plain reads
      exact (anchors mapped).2 (anchored grouped plain reads)

example : (expand .ok false true ⟨"Bad", [], .named [⟨"child", (), [⟨"ubf", .list [⟨some "field", some (.other "1")⟩,
    ⟨some "nested", none⟩, ⟨some "ptr", none⟩]⟩]⟩]⟩ : Except Message (Impl Unit)) =
    .error "nested selects BFLD_UBF and cannot be combined with ptr or view" := by
  decide +kernel

example : (expand .ok false true ⟨"Bad", [], .named [⟨"n", (), [⟨"ubf", .list [⟨some "field", some (.other "1")⟩,
    ⟨some "occ", some (.other "0")⟩, ⟨some "occurrence", some (.other "1")⟩]⟩]⟩]⟩ : Except Message (Impl Unit)) =
    .error "duplicate mapping attribute" := by
  decide +kernel

/-! ## The order of attributes -/

/-- A member whose attributes say the same. -/
def SameMember (isView : Bool) (field field' : FieldDef Ty) : Prop :=
  field'.ident = field.ident ∧ field'.type = field.type ∧ SameItems isView (named isView) field.attrs field'.attrs

/-- A struct whose attributes say the same, on it and on its members. -/
inductive SameShape (isView : Bool) : Shape Ty → Shape Ty → Prop
  | named {defs defs' : List (FieldDef Ty)} (members : List.Forall₂ (SameMember isView) defs defs') :
      SameShape isView (.named defs) (.named defs')
  | unnamed : SameShape isView .unnamed .unnamed
  | other : SameShape isView .other .other

/-- An input whose attributes say the same. -/
structure SameInput (isView : Bool) (input input' : DeriveInput Ty) : Prop where
  name : input'.name = input.name
  container : SameItems isView (containerNamed isView) input.attrs input'.attrs
  data : SameShape isView input.data input'.data

theorem fieldsReads_same {defs defs' : List (FieldDef Ty)} (members : List.Forall₂ (SameMember isView) defs defs') :
    ∀ {mapped : List (Field Ty)}, List.Forall₂ (FieldReads isView) defs mapped →
      List.Forall₂ (FieldReads isView) defs' mapped := by
  induction members with
  | nil => exact fun each => each
  | cons same _ ih =>
      intro mapped each
      cases each with
      | cons read rest =>
          obtain ⟨ident, type, ok⟩ := read
          exact .cons ⟨ident.trans same.1.symm, type.trans same.2.1.symm, fieldAttr_perm same.2.2 ok⟩ (ih rest)

/-- **Attributes come in any order.**  However the attributes of a struct and of its members are ordered, spread
over brackets or, for the occurrence, spelled, a derive that accepts them emits the same code. -/
theorem attributes_in_any_order (pathOf : PathParser) (isView serialize : Bool) (input input' : DeriveInput Ty)
    (same : SameInput isView input input') (impl : Impl Ty) (ok : expand pathOf isView serialize input = .ok impl) :
    expand pathOf isView serialize input' = .ok impl := by
  obtain ⟨container, mapped, contained, read, fits, anchored, rfl⟩ := expand_eq_ok.1 ok
  obtain ⟨defs, shaped, each⟩ := fields_eq_ok.1 read
  refine expand_eq_ok.2 ⟨container, mapped, containerAttr_perm same.container contained, ?_, fits, anchored, ?_⟩
  · have data := same.data
    rw [shaped] at data
    generalize input'.data = data' at data
    cases data with
    | named members => exact fields_eq_ok.2 ⟨_, rfl, fieldsReads_same members each⟩
  · rw [same.name]

/-- A member's attributes in one bracket. -/
def joined : DeriveInput Unit where
  name := "Row"
  attrs := []
  data := .named [{ ident := "n", type := (), attrs := [⟨"ubf", .list [⟨some "field", some (.other "T_LONG_FLD")⟩,
    ⟨some "occ", some (.other "2")⟩, ⟨some "default", none⟩]⟩] }]

/-- The same in two, among those of another derive. -/
def spread : DeriveInput Unit where
  name := "Row"
  attrs := []
  data := .named [{ ident := "n", type := (), attrs := [⟨"ubf", .list [⟨some "default", none⟩]⟩, ⟨"serde", .path⟩,
    ⟨"ubf", .list [⟨some "occurrence", some (.other "2")⟩, ⟨some "field", some (.other "T_LONG_FLD")⟩]⟩] }]

theorem joined_spread :
    ∃ impl, expand .ok false false joined = .ok impl ∧ expand .ok false false spread = .ok impl := by
  have same : SameInput false joined spread := by
    refine ⟨rfl, ⟨[], [], rfl, rfl, .nil⟩, .named (.cons ⟨rfl, rfl, _, _, rfl, rfl, ?_⟩ .nil)⟩
    decide +kernel
  exact ⟨_, rfl, attributes_in_any_order .ok false false joined spread same _ rfl⟩

/-! ## Writing and reading -/

/-- The call of a statement, with the member it is about. -/
def Statement.called : Statement Ty → Option (String × Ty × Call)
  | .write ident type call => some (ident, type, call)
  | .read ident type call => some (ident, type, call)
  | .readOrDefault ident type call => some (ident, type, call)
  | .default _ _ => none

/-- The groups of a struct that is written and read: the same checks, the same members in the rows, the tail
cleared at the members checked, and the anchor at the first of them. -/
inductive GroupsMirror : Option (GroupImpl Ty) → Option (GroupImpl Ty) → Prop
  | none : GroupsMirror none none
  | some {checks : List (Check Ty)} {rows rows' : List (Statement Ty)} {clears : List Clear}
      {anchor : Expr × Option Expr} (calls : rows'.filterMap Statement.called = rows.filterMap Statement.called)
      (cleared : clears.map (fun clear => (clear.ident, clear.occ)) = checks.map fun check => (check.ident, check.occ))
      (first : clears.head?.map (fun clear => (clear.id, clear.occ)) = some anchor) :
      GroupsMirror (some (.write checks rows clears)) (some (.read checks rows' anchor))

/-- The code that writes a struct and the code that reads it address the same members at the same places. -/
structure Mirrors (writer reader : Impl Ty) : Prop where
  krate : reader.krate = writer.krate
  name : reader.name = writer.name
  viewName : reader.viewName = writer.viewName
  calls : reader.body.filterMap Statement.called = writer.body.filterMap Statement.called
  group : GroupsMirror writer.group reader.group

theorem statementsOf_called (serialize : Bool) (field : Field Ty) :
    (statementsOf isView serialize field).filterMap Statement.called =
      ((field.place.call isView field.ident).map fun call => (field.ident, field.type, call)).toList := by
  unfold statementsOf
  cases field.place.call isView field.ident with
  | none => cases serialize <;> simp [Statement.called]
  | some call =>
      cases serialize with
      | true => simp [Statement.called]
      | false => cases field.place.default <;> simp [Statement.called]

theorem body_called (serialize : Bool) (mapped : List (Field Ty)) :
    (mapped.flatMap (statementsOf isView serialize)).filterMap Statement.called =
      mapped.flatMap fun field =>
        ((field.place.call isView field.ident).map fun call => (field.ident, field.type, call)).toList := by
  rw [List.filterMap_flatMap]
  simp only [statementsOf_called]

theorem call_of_slot {place : Placement} {ident : String} {slot : Expr × Option Expr}
    (found : place.slot isView ident = some slot) : ∃ call, place.call isView ident = some call := by
  cases place with
  | field id _ _ =>
      obtain ⟨id, resolved, -⟩ := Option.map_eq_some_iff.1 found
      exact ⟨_, Option.map_eq_some_iff.2 ⟨id, resolved, rfl⟩⟩
  | ubf _ id _ _ _ =>
      obtain ⟨id, resolved, -⟩ := Option.map_eq_some_iff.1 found
      exact ⟨_, Option.map_eq_some_iff.2 ⟨id, resolved, rfl⟩⟩
  | view _ id _ _ =>
      obtain ⟨id, resolved, -⟩ := Option.map_eq_some_iff.1 found
      exact ⟨_, Option.map_eq_some_iff.2 ⟨id, resolved, rfl⟩⟩
  | _ => cases found

theorem clears_at_checks (mapped : List (Field Ty)) :
    (mapped.filterMap (clearOf isView)).map (fun clear => (clear.ident, clear.occ)) =
      (mapped.filterMap (checkOf isView)).map fun check => (check.ident, check.occ) := by
  rw [List.map_filterMap, List.map_filterMap]
  refine List.filterMap_congr fun field _ => ?_
  unfold clearOf checkOf
  cases found : field.place.slot isView field.ident with
  | none => cases field.place.call isView field.ident <;> rfl
  | some slot =>
      obtain ⟨call, called⟩ := call_of_slot found
      rw [called]
      rfl

theorem clears_head (mapped : List (Field Ty)) :
    (mapped.filterMap (clearOf isView)).head?.map (fun clear => (clear.id, clear.occ)) = anchorOf isView mapped := by
  unfold anchorOf
  rw [List.head?_filterMap, List.map_findSome?]
  congr 1
  funext field
  simp only [Function.comp_apply]
  unfold clearOf
  cases field.place.slot isView field.ident <;> rfl

theorem mirrors_of (name : String) (container : Container) {mapped : List (Field Ty)}
    (anchored : container.group = true → isView = false → anchorOf isView mapped ≠ none) :
    Mirrors (implOf isView true name container mapped) (implOf isView false name container mapped) where
  krate := rfl
  name := rfl
  viewName := rfl
  calls := (body_called false mapped).trans (body_called true mapped).symm
  group := by
    unfold implOf
    simp only
    split
    · rename_i grouped
      unfold groupOf
      cases first : anchorOf isView mapped with
      | none => exact absurd first (anchored grouped.1 (by simpa using grouped.2))
      | some anchor =>
          refine .some ?_ (clears_at_checks mapped) ((clears_head mapped).trans first)
          exact (body_called false mapped).trans (body_called true mapped).symm
    · exact .none

/-- **The derives fit together.**  A struct that can be read can be written, at the same places: the same
fields, occurrences and storage of the same members, and the same group.  One that can be written can be read,
but for a group without a member that has a field. -/
theorem derives_agree (pathOf : PathParser) (isView : Bool) (input : DeriveInput Ty) :
    (∀ reader, expand pathOf isView false input = .ok reader →
      ∃ writer, expand pathOf isView true input = .ok writer ∧ Mirrors writer reader) ∧
    (∀ writer, expand pathOf isView true input = .ok writer →
      (∃ reader, expand pathOf isView false input = .ok reader ∧ Mirrors writer reader) ∨
        ∃ rows, writer.group = some (.write [] rows [])) := by
  constructor
  · intro reader ok
    obtain ⟨container, mapped, contained, read, fits, anchored, rfl⟩ := expand_eq_ok.1 ok
    refine ⟨_, expand_eq_ok.2 ⟨container, mapped, contained, read, fits, fun _ _ impossible => (by cases impossible),
      rfl⟩, mirrors_of input.name container fun grouped plain => anchored grouped plain rfl⟩
  · intro writer ok
    obtain ⟨container, mapped, contained, read, fits, -, rfl⟩ := expand_eq_ok.1 ok
    by_cases anchored : container.group = true → isView = false → anchorOf isView mapped ≠ none
    · refine .inl ⟨_, expand_eq_ok.2 ⟨container, mapped, contained, read, fits, fun grouped plain _ =>
        anchored grouped plain, rfl⟩, mirrors_of input.name container anchored⟩
    · simp only [not_forall, not_not] at anchored
      obtain ⟨grouped, plain, nowhere⟩ := anchored
      have slots : ∀ field ∈ mapped, field.place.slot isView field.ident = none :=
        List.findSome?_eq_none_iff.1 nowhere
      have clears : mapped.filterMap (clearOf isView) = [] := by
        refine List.filterMap_eq_nil_iff.2 fun field among => ?_
        unfold clearOf
        rw [slots field among]
        rfl
      have checks : mapped.filterMap (checkOf isView) = [] := by
        have none : (mapped.filterMap (checkOf isView)).map (fun check => (check.ident, check.occ)) = [] := by
          rw [← clears_at_checks, clears]
          rfl
        exact List.map_eq_nil_iff.1 none
      subst plain
      refine .inr ⟨mapped.flatMap (statementsOf false true), ?_⟩
      unfold implOf groupOf
      rw [checks, clears]
      simp [grouped]

end Emitted

end Endurox.Derive
