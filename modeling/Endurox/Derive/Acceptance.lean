/-
# Derive.Acceptance -- what the derives accept

The flags of a `FieldAttr` can be set in ways that mean nothing; a `Placement` is what they
may mean, and has no others.  `fieldAttr_eq_ok`: the attributes of a member are accepted when
each is known and well-formed, none comes twice, and together they are those of a placement.
From this, what a derive accepts as a whole, and that the order attributes come in, and how
they are spread over brackets, changes nothing.
-/
import Endurox.Derive.Expand

namespace Endurox.Derive

open Endurox.Theory
open Endurox.Ubf (Mapping)

set_option autoImplicit false

/-! ## Placements -/

/-- What the attributes of a member may say. -/
inductive Placement
  | skip
  | flatten
  | group (occ : Option Expr)
  | field (id occ : Option Expr) (default : Bool)
  | ubf (pointer : Bool) (id occ size : Option Expr) (default : Bool)
  | view (pointer : Bool) (id occ : Option Expr) (default : Bool)
  deriving DecidableEq, Repr

/-- The flags that say it. -/
def Placement.attr : Placement → FieldAttr
  | .skip => { skip := true }
  | .flatten => { flatten := true }
  | .group occ => { group := true, occ }
  | .field id occ default => { field := id, occ, default }
  | .ubf pointer id occ size default => { field := id, occ, size, nested := !pointer, ptr := pointer, default }
  | .view pointer id occ default => { field := id, occ, view := true, ptr := pointer, default }

/-- What flags say, when they say anything. -/
def FieldAttr.placement (attr : FieldAttr) : Placement :=
  if attr.skip then .skip
  else if attr.group then .group attr.occ
  else if attr.flatten then .flatten
  else if attr.view then .view attr.ptr attr.field attr.occ attr.default
  else if attr.ptr ∨ attr.nested then .ubf attr.ptr attr.field attr.occ attr.size attr.default
  else .field attr.field attr.occ attr.default

/-- The flags mean something. -/
def FieldAttr.Meaningful (attr : FieldAttr) : Prop := attr.placement.attr = attr

instance (attr : FieldAttr) : Decidable attr.Meaningful := inferInstanceAs (Decidable (_ = _))

@[simp] theorem Placement.placement_attr (place : Placement) : place.attr.placement = place := by
  cases place with
  | ubf pointer _ _ _ _ => cases pointer <;> rfl
  | _ => rfl

theorem Placement.meaningful (place : Placement) : place.attr.Meaningful := by
  unfold FieldAttr.Meaningful
  rw [placement_attr]

/-! ## Combinations -/

/-- What `field_attr` asks of the flags of a member that is not skipped. -/
structure FieldAttr.Compatible (attr : FieldAttr) : Prop where
  nested : attr.nested = true → attr.ptr = false ∧ attr.view = false
  group : attr.group = true → attr.nested = false ∧ attr.ptr = false ∧ attr.view = false ∧ attr.flatten = false ∧
    attr.field = none ∧ attr.size = none ∧ attr.default = false
  size : attr.size.isSome = true → (attr.nested = true ∨ attr.ptr = true) ∧ attr.view = false
  flatten : attr.flatten = true → attr.field = none ∧ attr.occ = none ∧ attr.size = none ∧ attr.nested = false ∧
    attr.ptr = false ∧ attr.view = false ∧ attr.default = false

theorem checkAttr_eq_ok {attr attr' : FieldAttr} {seen : Nat} :
    checkAttr attr seen = .ok attr' ↔
      attr' = attr ∧ attr.Compatible ∧ (attr.skip = true → seen ≤ 1) := by
  unfold checkAttr
  constructor
  · intro ok
    split at ok
    · cases ok
    · rename_i nested
      split at ok
      · cases ok
      · rename_i group
        split at ok
        · cases ok
        · rename_i size
          split at ok
          · cases ok
          · rename_i skip
            split at ok
            · cases ok
            · rename_i flatten
              cases ok
              refine ⟨rfl, ⟨?_, ?_, ?_, ?_⟩, fun skipped => ?_⟩
              · simpa using nested
              · simpa using group
              · intro sized
                simp only [sized, true_and, not_or, not_and, Bool.not_eq_true] at size
                exact ⟨by cases nested : attr.nested <;> simp_all, size.2⟩
              · simpa using flatten
              · exact Nat.le_of_not_lt fun more => skip ⟨skipped, more⟩
  · rintro ⟨rfl, ⟨nested, group, size, flatten⟩, skip⟩
    rw [if_neg, if_neg, if_neg, if_neg, if_neg]
    · rintro ⟨flat, given⟩
      simp [flatten flat] at given
    · rintro ⟨skipped, more⟩
      exact absurd (skip skipped) (Nat.not_le_of_lt more)
    · rintro ⟨sized, unfit⟩
      obtain ⟨stored, plain⟩ := size sized
      rcases stored with nested | ptr <;> simp_all
    · rintro ⟨grouped, given⟩
      simp [group grouped] at given
    · rintro ⟨within, given⟩
      simp [nested within] at given

/-- **The combinations that are accepted** are those that mean something. -/
theorem compatible_iff {attr : FieldAttr} (kept : attr.skip = false) : attr.Compatible ↔ attr.Meaningful := by
  constructor
  · rintro ⟨nested, group, size, flatten⟩
    obtain ⟨id, occ, bytes, inside, ptr, view, flat, grouped, default, skip⟩ := attr
    simp only at nested group size flatten kept
    unfold FieldAttr.Meaningful FieldAttr.placement
    subst kept
    cases grouped with
    | true =>
        obtain ⟨rfl, rfl, rfl, rfl, rfl, rfl, rfl⟩ := group rfl
        rfl
    | false =>
        cases flat with
        | true =>
            obtain ⟨rfl, rfl, rfl, rfl, rfl, rfl, rfl⟩ := flatten rfl
            rfl
        | false =>
            cases view with
            | true =>
                have unsized : bytes = none := by
                  cases bytes with
                  | none => rfl
                  | some _ => cases (size rfl).2
                have shallow : inside = false := by
                  cases inside with
                  | false => rfl
                  | true => cases (nested rfl).2
                subst unsized shallow
                rfl
            | false =>
                cases ptr with
                | true =>
                    have shallow : inside = false := by
                      cases inside with
                      | false => rfl
                      | true => cases (nested rfl).1
                    subst shallow
                    rfl
                | false =>
                    cases inside with
                    | true => rfl
                    | false =>
                        have unsized : bytes = none := by
                          cases bytes with
                          | none => rfl
                          | some _ => rcases (size rfl).1 with impossible | impossible <;> cases impossible
                        subst unsized
                        rfl
  · intro meaningful
    rw [← meaningful]
    cases attr.placement with
    | ubf pointer _ _ _ _ =>
        constructor <;> cases pointer <;> simp [Placement.attr]
    | _ => constructor <;> simp [Placement.attr]

/-! ## Attributes in brackets -/

/-- The items of the attributes in the namespace, in order; there are none without parentheses. -/
def itemsOf (isView : Bool) : List Attribute → Option (List Meta)
  | [] => some []
  | attr :: attrs =>
      if attr.path = namespaceOf isView then do
        let items ← (itemsIn attr).toOption
        let rest ← itemsOf isView attrs
        some (items ++ rest)
      else itemsOf isView attrs

theorem parseAttrs_eq_ok {σ : Type} {isView : Bool} {item : σ → Meta → Except Message σ} {s : σ} :
    ∀ {attrs : List Attribute} {state : σ},
      parseAttrs isView item attrs state = .ok s ↔
        ∃ items, itemsOf isView attrs = some items ∧ items.foldlM item state = .ok s
  | [], state => by
      simp [parseAttrs, itemsOf, pure, Except.pure]
  | attr :: attrs, state => by
      unfold parseAttrs itemsOf
      split
      · cases given : itemsIn attr with
        | error e => simp [bind, Except.bind, Except.toOption]
        | ok items =>
            simp only [bind, Except.bind, Except.toOption, Option.bind]
            constructor
            · intro ok
              cases first : items.foldlM item state with
              | error e =>
                  rw [first] at ok
                  cases ok
              | ok between =>
                  rw [first] at ok
                  obtain ⟨rest, found, ran⟩ := parseAttrs_eq_ok.1 ok
                  refine ⟨items ++ rest, by rw [found], ?_⟩
                  rw [List.foldlM_append, first]
                  exact ran
            · rintro ⟨all, found, ran⟩
              cases later : itemsOf isView attrs with
              | none =>
                  rw [later] at found
                  cases found
              | some rest =>
                  rw [later] at found
                  cases found
                  rw [List.foldlM_append] at ran
                  cases first : items.foldlM item state with
                  | error e =>
                      rw [first] at ran
                      cases ran
                  | ok between =>
                      rw [first] at ran
                      exact parseAttrs_eq_ok.2 ⟨rest, later, ran⟩
      · exact parseAttrs_eq_ok

/-- The attributes say the same, in whatever order, however bracketed, and by whatever synonym. -/
def SameItems {α : Type} (isView : Bool) (read : Meta → α) (attrs attrs' : List Attribute) : Prop :=
  ∃ items items', itemsOf isView attrs = some items ∧ itemsOf isView attrs' = some items' ∧
    (items.map read).Perm (items'.map read)

/-! ## A member -/

/-- What an item says, with its key. -/
abbrev Change := Key × (FieldAttr → FieldAttr)

/-- The changes the attributes of a member make. -/
def Changes (isView : Bool) (attrs : List Attribute) (changes : List Change) : Prop :=
  ∃ items, itemsOf isView attrs = some items ∧
    List.Forall₂ (Means keyOf changeOf) (items.map (named isView)) changes

theorem fieldMeta_foldlM (isView : Bool) (items : List Meta) (state : FieldAttr × List Key) :
    items.foldlM (fieldMeta isView) state =
      readOptions keyOf changeOf "duplicate mapping attribute" (items.map (named isView)) state := by
  unfold readOptions
  rw [List.foldlM_map]
  rfl

/-- The change an item makes is its key's. -/
theorem assign_of_means {item : Except Message (Key × Option Expr)} {change : Change}
    (meant : Means keyOf changeOf item change) : ∃ argument, assign argument change.1 = .ok change.2 := by
  obtain ⟨key, change⟩ := change
  obtain ⟨keyed, changed⟩ := meant
  cases item with
  | error e => cases keyed
  | ok given =>
      cases keyed
      exact ⟨given.2, changed⟩

/-- A change sets what its key names. -/
theorem assign_cases {argument : Option Expr} {key : Key} {change : FieldAttr → FieldAttr}
    (assigned : assign argument key = .ok change) :
    (∃ slot e, key = .slot slot ∧ change = fun attr => attr.setSlot e slot) ∨
      ∃ flag value, key = .flag flag ∧ change = fun attr => attr.setFlag value flag := by
  cases key with
  | slot slot =>
      simp only [assign, Except.map] at assigned
      split at assigned
      · cases assigned
      · rename_i e _
        cases assigned
        exact .inl ⟨slot, e, rfl, rfl⟩
  | flag flag =>
      simp only [assign, Except.map] at assigned
      split at assigned
      · cases assigned
      · rename_i value _
        cases assigned
        exact .inr ⟨flag, value, rfl, rfl⟩

theorem changes_commute {i j : Except Message (Key × Option Expr)} {c d : Change}
    (first : Means keyOf changeOf i c) (second : Means keyOf changeOf j d) (apart : c.1 ≠ d.1) (attr : FieldAttr) :
    d.2 (c.2 attr) = c.2 (d.2 attr) := by
  obtain ⟨k, change⟩ := c
  obtain ⟨l, change'⟩ := d
  obtain ⟨argument, assigned⟩ := assign_of_means first
  obtain ⟨argument', assigned'⟩ := assign_of_means second
  rcases assign_cases assigned with ⟨slot, e, rfl, rfl⟩ | ⟨flag, value, rfl, rfl⟩ <;>
    rcases assign_cases assigned' with ⟨slot', e', rfl, rfl⟩ | ⟨flag', value', rfl, rfl⟩
  · cases slot <;> cases slot' <;> first | rfl | exact absurd rfl apart
  · cases slot <;> cases flag' <;> rfl
  · cases flag <;> cases slot' <;> rfl
  · cases flag <;> cases flag' <;> first | rfl | exact absurd rfl apart

/-- A member skipped by its only attribute. -/
theorem skipped_alone {isView : Bool} {attrs : List Attribute} {changes : List Change}
    (made : Changes isView attrs changes) (skipped : (changed changes {}).skip = true) (few : changes.length ≤ 1) :
    changed changes {} = Placement.skip.attr := by
  obtain ⟨items, -, each⟩ := made
  generalize items.map (named isView) = read at each
  cases each with
  | nil => cases skipped
  | cons meant rest =>
      cases rest with
      | cons _ _ => exact absurd few (by simp)
      | nil =>
          rename_i item change
          obtain ⟨k, change⟩ := change
          obtain ⟨argument, assigned⟩ := assign_of_means meant
          simp only [changed, List.foldl_cons, List.foldl_nil] at skipped ⊢
          rcases assign_cases assigned with ⟨slot, e, _, rfl⟩ | ⟨flag, value, _, rfl⟩
          · cases slot <;> cases skipped
          · cases flag with
            | skip =>
                cases value with
                | true => rfl
                | false => cases skipped
            | _ => cases skipped

/-- **What is accepted of a member's attributes.**  Each is known and well-formed, no key comes twice, and
together they mean something; `skip` stands alone. -/
theorem fieldAttr_eq_ok {isView : Bool} {attrs : List Attribute} {attr : FieldAttr} :
    fieldAttr isView attrs = .ok attr ↔
      ∃ changes, Changes isView attrs changes ∧ (changes.map Prod.fst).Nodup ∧ attr = changed changes {} ∧
        attr.Meaningful ∧ (attr.skip = true → changes.length ≤ 1) := by
  unfold fieldAttr
  constructor
  · intro ok
    cases parsed : parseAttrs isView (fieldMeta isView) attrs ({}, []) with
    | error e =>
        rw [parsed] at ok
        cases ok
    | ok result =>
        rw [parsed] at ok
        obtain ⟨items, given, ran⟩ := parseAttrs_eq_ok.1 parsed
        rw [fieldMeta_foldlM] at ran
        obtain ⟨changes, each, once, -, rfl⟩ := readOptions_eq_ok.1 ran
        obtain ⟨rfl, compatible, few⟩ := checkAttr_eq_ok.1 ok
        have made : Changes isView attrs changes := ⟨items, given, each⟩
        simp only [List.length_append, List.length_reverse, List.length_map, List.length_nil, Nat.add_zero] at few
        refine ⟨changes, made, once, rfl, ?_, few⟩
        cases skipped : (changed changes {}).skip with
        | true =>
            rw [skipped_alone made skipped (few skipped)]
            exact Placement.meaningful _
        | false => exact (compatible_iff skipped).1 compatible
  · rintro ⟨changes, ⟨items, given, each⟩, once, rfl, meaningful, few⟩
    have ran : parseAttrs isView (fieldMeta isView) attrs ({}, []) =
        .ok (changed changes {}, (changes.map Prod.fst).reverse ++ []) := by
      refine parseAttrs_eq_ok.2 ⟨items, given, ?_⟩
      rw [fieldMeta_foldlM]
      exact readOptions_eq_ok.2 ⟨changes, each, once, fun _ none => absurd none List.not_mem_nil, rfl⟩
    rw [ran]
    refine checkAttr_eq_ok.2 ⟨rfl, ?_, by simpa using few⟩
    cases skipped : (changed changes {}).skip with
    | true =>
        rw [skipped_alone ⟨items, given, each⟩ skipped (few skipped)]
        constructor <;> simp [Placement.attr]
    | false => exact (compatible_iff skipped).2 meaningful

/-- The order of a member's attributes does not matter. -/
theorem fieldAttr_perm {isView : Bool} {attrs attrs' : List Attribute} {attr : FieldAttr}
    (same : SameItems isView (named isView) attrs attrs') (ok : fieldAttr isView attrs = .ok attr) :
    fieldAttr isView attrs' = .ok attr := by
  obtain ⟨items, items', given, given', perm⟩ := same
  unfold fieldAttr at ok ⊢
  cases parsed : parseAttrs isView (fieldMeta isView) attrs ({}, []) with
  | error e =>
      rw [parsed] at ok
      cases ok
  | ok result =>
      rw [parsed] at ok
      obtain ⟨items₀, given₀, ran⟩ := parseAttrs_eq_ok.1 parsed
      cases given.symm.trans given₀
      rw [fieldMeta_foldlM] at ran
      obtain ⟨attr₀, seen⟩ := result
      obtain ⟨seen', ran', keys⟩ := readOptions_perm perm (fun _ _ _ _ => changes_commute) ran
      have parsed' : parseAttrs isView (fieldMeta isView) attrs' ({}, []) = .ok (attr₀, seen') := by
        refine parseAttrs_eq_ok.2 ⟨items', given', ?_⟩
        rw [fieldMeta_foldlM]
        exact ran'
      rw [parsed']
      show checkAttr attr₀ seen'.length = .ok attr
      rw [← keys.length_eq]
      exact ok

end Endurox.Derive
