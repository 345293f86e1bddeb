/-
# View.Overwriting -- the last write wins

A VIEW is a fixed layout, and written again and again.  Of a value that was written before,
another of the same type leaves nothing: every element it is mapped to is stored again or
reset, and every count indicator it moves is moved to the same place.

What a write does to a VIEW is a `Patch`, whatever the VIEW holds; two patches are `Alike`
when they store in the same elements and move the same counts, and then the second absorbs
the first.  The writes of two values of one type are patches that are alike, member by
member and so for a whole struct, even where members share elements.
-/
import Endurox.View.RoundTrip

namespace Endurox.View

open Endurox.Theory
open Endurox.Typed (UbfError UbfCode)
open Endurox.Ubf (Scalar ScalarTy FieldTy Value StructId requireSingle requireSingle_eq_ok)

set_option autoImplicit false

/-! ## Vectors -/

section Vectors

variable {N : Native} {cname : String} {occ : Int} {t t' : Target} {u : PUnit}

/-- A reset element is as in a fresh VIEW. -/
theorem resetCells_get (lawful : N.Lawful) {field : LayoutField} : ∀ {count start : Nat} {cells : List (List UInt8)},
    resetCells N field start count = some cells → ∀ i, i < count → (cells[i]?).getD [] = field.fresh (start + i)
  | 0, _, _, _, i, before => absurd before (Nat.not_lt_zero i)
  | count + 1, start, cells, reset, i, before => by
      obtain ⟨cell, rest, first, later, rfl⟩ := resetCells_succ.1 reset
      cases i with
      | zero => exact lawful field start cell first
      | succ i =>
          have found := resetCells_get lawful later i (by omega)
          rw [show start + 1 + i = start + (i + 1) by omega] at found
          exact found

/-- What a vector of so many elements leaves of its member. -/
structure VecLeft (N : Native) (v v' : TypedView) (cname : String) (start length : Nat) : Prop where
  count : ∀ field, N.field v.view cname = .ok field → v'.active cname field = start + length
  kept : ∀ i, i < start → v'.cells cname i = v.cells cname i
  rest : ∀ field, N.field v.view cname = .ok field → ∀ i, start + length ≤ i → i < field.max →
    v'.cells cname i = field.fresh i

theorem writeField_leaves (lawful : N.Lawful) {type : FieldTy} {values : List Value}
    (ran : Succeeds (writeField N cname (.vec type) (.list values) occ) t u t') :
    VecLeft N t.view t'.view cname occ.toNat values.length := by
  obtain ⟨_, t₁, checked, rest⟩ := succeeds_bind.1 ran
  obtain ⟨wide, rfl⟩ := succeeds_ofExcept.1 checked
  obtain ⟨field, cells, resets, -, found, ⟨placed, -, room, stored⟩, ⟨counter, -, reset⟩, image⟩ :=
    writeVec_writes (requireSingle_eq_ok.1 wide) rest
  have only : ∀ field', N.field t.view.view cname = .ok field' → field = field' := fun field' same =>
    Except.ok.inj (found.symm.trans same)
  have total := cellsOf_length stored
  have several := resetCells_length reset
  refine ⟨fun field' same => ?_, fun i below => ?_, fun field' same i above inside => ?_⟩
  · obtain rfl := only field' same
    rw [image, vecImage_active, total]
    rcases counter with counted | full
    · rw [if_pos counted]
    · split
      · rfl
      · exact full.symm
  · rw [image, vecImage_cells, if_neg (by omega), if_neg (by omega)]
  · obtain rfl := only field' same
    rw [image, vecImage_cells, if_pos (by omega), resetCells_get lawful reset _ (by omega)]
    exact congrArg field.fresh (by omega)

/-- **A vector replaces the vector there was.**  When it is written, its member's count is its start plus
its length, the rest of the array is as in a fresh VIEW, and the elements below its start are as they were. -/
theorem vec_replaces (lawful : N.Lawful) (type : FieldTy) (values : List Value) (field : LayoutField)
    (found : N.field t.view.view cname = .ok field)
    (ran : Succeeds (writeField N cname (.vec type) (.list values) occ) t u t') :
    t'.view.active cname field = occ.toNat + values.length ∧
      (∀ i, i < occ.toNat → t'.view.cells cname i = t.view.cells cname i) ∧
      (∀ i, occ.toNat + values.length ≤ i → i < field.max → t'.view.cells cname i = field.fresh i) := by
  have left := writeField_leaves lawful ran
  exact ⟨left.count field found, left.kept, left.rest field found⟩

end Vectors

/-- Two samples over six. -/
theorem samples_replaced :
    (((writeField positionView "samples" (.vec (.scalar i64)) (.list [.scalar (.int 5), .scalar (.int 6)]) 1).run.run
        ⟨stale, []⟩).2.view.active "samples" (longField 8 true) = 3 ∧
      (∀ i, i < 1 → ((writeField positionView "samples" (.vec (.scalar i64))
          (.list [.scalar (.int 5), .scalar (.int 6)]) 1).run.run ⟨stale, []⟩).2.view.cells "samples" i =
        stale.cells "samples" i) ∧
      (∀ i, 3 ≤ i → i < 8 → ((writeField positionView "samples" (.vec (.scalar i64))
          (.list [.scalar (.int 5), .scalar (.int 6)]) 1).run.run ⟨stale, []⟩).2.view.cells "samples" i =
        Ubf.longBytes 0)) :=
  vec_replaces (t := ⟨stale, []⟩) positionView_lawful (.scalar i64) [.scalar (.int 5), .scalar (.int 6)] (longField 8 true) rfl
    (run_succeeds (by decide +kernel))

/-! ## Patches -/

/-- What a write does to a count indicator. -/
inductive CountChange
  | raise (least : Nat)
  | set (count : Nat)

namespace CountChange

def apply : CountChange → Nat → Nat
  | .raise least, count => Nat.max count least
  | .set count, _ => count

/-- One change after another. -/
def andThen : CountChange → CountChange → CountChange
  | .raise least, .raise least' => .raise (Nat.max least least')
  | .set count, .raise least => .set (Nat.max count least)
  | _, .set count => .set count

/-- The second leaves nothing of the first. -/
def Alike : CountChange → CountChange → Prop
  | .raise least, .raise least' => least = least'
  | .set _, .set _ => True
  | _, _ => False

theorem apply_andThen (change change' : CountChange) (count : Nat) :
    (change.andThen change').apply count = change'.apply (change.apply count) := by
  cases change <;> cases change' <;> first | rfl | exact (Nat.max_assoc _ _ _).symm

theorem Alike.absorbs {change change' : CountChange} (alike : change.Alike change') (count : Nat) :
    change'.apply (change.apply count) = change'.apply count := by
  cases change with
  | raise least =>
      cases change' with
      | raise least' =>
          obtain rfl : least = least' := alike
          exact (Nat.max_assoc _ _ _).trans (by rw [Nat.max_self]; rfl)
      | set count' => cases alike
  | set count =>
      cases change' with
      | raise least' => cases alike
      | set count' => rfl

theorem Alike.andThen {change change' next next' : CountChange} (first : change.Alike change')
    (second : next.Alike next') : (change.andThen next).Alike (change'.andThen next') := by
  cases change <;> cases change' <;> cases next <;> cases next' <;> simp_all [Alike, CountChange.andThen]

end CountChange

/-- What a write does to a VIEW, whatever it holds. -/
structure Patch where
  cells : String → Nat → Option (List UInt8)
  counts : String → CountChange

namespace Patch

def apply (p : Patch) (v : TypedView) : TypedView where
  view := v.view
  cells := fun cname i => (p.cells cname i).getD (v.cells cname i)
  counts := fun cname => (p.counts cname).apply (v.counts cname)

/-- The patch of a write that does nothing. -/
def none : Patch where
  cells := fun _ _ => .none
  counts := fun _ => .raise 0

def andThen (p q : Patch) : Patch where
  cells := fun cname i => (q.cells cname i).or (p.cells cname i)
  counts := fun cname => (p.counts cname).andThen (q.counts cname)

/-- They store in the same elements, and move the same counts. -/
structure Alike (p q : Patch) : Prop where
  cells : ∀ cname i, (p.cells cname i).isSome = (q.cells cname i).isSome
  counts : ∀ cname, (p.counts cname).Alike (q.counts cname)

theorem apply_none (v : TypedView) : none.apply v = v := by
  have counts : (fun cname => Nat.max (v.counts cname) 0) = v.counts := funext fun _ => Nat.max_zero _
  show ({ view := v.view, cells := v.cells, counts := fun cname => Nat.max (v.counts cname) 0 } : TypedView) = v
  rw [counts]

theorem apply_andThen (p q : Patch) (v : TypedView) : (p.andThen q).apply v = q.apply (p.apply v) := by
  simp only [apply, andThen, CountChange.apply_andThen, TypedView.mk.injEq, true_and, and_true]
  funext cname i
  cases q.cells cname i <;> rfl

theorem Alike.none : none.Alike none := ⟨fun _ _ => rfl, fun _ => rfl⟩

theorem Alike.andThen {p p' q q' : Patch} (first : p.Alike p') (second : q.Alike q') :
    (p.andThen q).Alike (p'.andThen q') where
  cells := fun cname i => by
    simp only [Patch.andThen, Option.isSome_or, first.cells cname i, second.cells cname i]
  counts := fun cname => (first.counts cname).andThen (second.counts cname)

/-- **A patch absorbs one that is alike.** -/
theorem Alike.absorbs {p q : Patch} (alike : p.Alike q) (v : TypedView) : q.apply (p.apply v) = q.apply v := by
  simp only [apply, (alike.counts _).absorbs, TypedView.mk.injEq, true_and, and_true]
  funext cname i
  have same := alike.cells cname i
  cases stored : q.cells cname i with
  | some cell => rfl
  | none =>
      rw [stored, Option.isSome_none, Option.isSome_eq_false_iff, Option.isNone_iff_eq_none] at same
      rw [same]
      rfl

end Patch

/-! ## The patch of a member -/

/-- `cells` stored in a row, and what becomes of the count indicator. -/
def storePatch (cname : String) (field : LayoutField) (occ : Nat) (cells : List (List UInt8))
    (change : CountChange) : Patch where
  cells := fun c i =>
    if c = cname ∧ occ ≤ i ∧ i < occ + cells.length then some ((cells[i - occ]?).getD []) else none
  counts := fun c => if c = cname ∧ field.counted = true then change else .raise 0

theorem storePatch_alike {cname : String} {field : LayoutField} {occ : Nat} {cells cells' : List (List UInt8)}
    {change change' : CountChange} (sized : cells.length = cells'.length) (alike : change.Alike change') :
    (storePatch cname field occ cells change).Alike (storePatch cname field occ cells' change') where
  cells := fun c i => by
    simp only [storePatch, sized]
    split <;> rfl
  counts := fun c => by
    simp only [storePatch]
    split
    · exact alike
    · rfl

/-- Elements written one after another raise the count. -/
theorem storeAll_patch (cname : String) (field : LayoutField) (v : TypedView) (occ : Nat)
    (cells : List (List UInt8)) :
    storeAll cname field v occ cells =
      (storePatch cname field occ cells (.raise (if cells = [] then 0 else occ + cells.length))).apply v := by
  refine TypedView.ext ?_ ?_ ?_
  · exact storeAll_view cells v occ
  · funext c i
    rw [storeAll_cells]
    simp only [Patch.apply, storePatch]
    split <;> rfl
  · funext c
    rw [storeAll_counts]
    simp only [Patch.apply, storePatch]
    by_cases here : c = cname ∧ field.counted = true
    · by_cases empty : cells = []
      · simp [here, empty, CountChange.apply]
      · simp [here, empty, CountChange.apply]
    · rw [if_neg here, if_neg fun moved => here ⟨moved.1, moved.2.1⟩]
      exact (Nat.max_zero _).symm

/-- A vector sets it. -/
theorem vecImage_patch (cname : String) (field : LayoutField) (v : TypedView) (occ : Nat)
    (cells resets : List (List UInt8)) :
    vecImage cname field v occ cells resets =
      (storePatch cname field occ (cells ++ resets) (.set (occ + cells.length))).apply v := by
  refine TypedView.ext ?_ ?_ ?_
  · exact vecImage_view cname field v occ cells resets
  · funext c i
    show (storeAll cname field _ _ resets).cells c i = _
    rw [storeAll_cells, storeAll_cells]
    simp only [Patch.apply, storePatch, List.length_append]
    by_cases here : c = cname
    · by_cases past : occ + cells.length ≤ i ∧ i < occ + cells.length + resets.length
      · rw [if_pos ⟨here, past⟩, if_pos ⟨here, by omega, by omega⟩, List.getElem?_append_right (by omega),
          show i - occ - cells.length = i - (occ + cells.length) by omega]
        rfl
      · by_cases inside : occ ≤ i ∧ i < occ + cells.length
        · rw [if_neg fun there => past there.2, if_pos ⟨here, inside⟩, if_pos ⟨here, by omega, by omega⟩,
            List.getElem?_append_left (by omega)]
          rfl
        · rw [if_neg fun there => past there.2, if_neg fun there => inside there.2, if_neg (by omega)]
          rfl
    · rw [if_neg fun there => here there.1, if_neg fun there => here there.1, if_neg fun there => here there.1]
      rfl
  · funext c
    simp only [vecImage, TypedView.setCount, storeAll_counts, Patch.apply, storePatch]
    by_cases here : c = cname ∧ field.counted = true
    · rw [if_pos here, if_pos here]
      rfl
    · rw [if_neg here, if_neg fun moved => here ⟨moved.1, moved.2.1⟩,
        if_neg fun moved => here ⟨moved.1, moved.2.1⟩, if_neg here, if_neg here]
      exact (Nat.max_zero _).symm

/-! ## Writing again -/

/-- The writes of two values are patches that are alike: `first` from `t` to `t₁`, and `second`, the same one,
from `s` to `s'` and from `r` to `r'`, all in VIEWs of one layout. -/
def Overwrites (first second : Viewing PUnit) : Prop :=
  ∀ ⦃t t₁ s s' r r' : Target⦄ ⦃u : PUnit⦄, s.view.view = t.view.view → r.view.view = t.view.view →
    Succeeds first t u t₁ → Succeeds second s u s' → Succeeds second r u r' →
      ∃ p q : Patch, p.Alike q ∧ t₁.view = p.apply t.view ∧ s'.view = q.apply s.view ∧ r'.view = q.apply r.view

section Fields

variable {N : Native} {cname : String} {occ : Int}

theorem single_overwrites {type : FieldTy} (one : single type = true) (value value' : Value) :
    Overwrites (writeField N cname type value occ) (writeField N cname type value' occ) := by
  intro t t₁ s s' r r' u view view' first second third
  obtain ⟨field, cell, lands, -, stored⟩ := single_writes one first
  obtain ⟨field', cell', lands', written, stored'⟩ := single_writes one second
  obtain ⟨field'', cell'', lands'', written', stored''⟩ := single_writes one third
  obtain rfl : field = field' := Except.ok.inj (lands.found.symm.trans (view ▸ lands'.found))
  obtain rfl : field = field'' := Except.ok.inj (lands.found.symm.trans (view' ▸ lands''.found))
  obtain rfl : cell' = cell'' := Option.some.inj (written.symm.trans written')
  have patched : ∀ (v : TypedView) (cell : List UInt8), v.store cname field occ.toNat cell =
      (storePatch cname field occ.toNat [cell] (.raise (occ.toNat + 1))).apply v :=
    fun v cell => storeAll_patch cname field v occ.toNat [cell]
  exact ⟨storePatch cname field occ.toNat [cell] (.raise (occ.toNat + 1)),
    storePatch cname field occ.toNat [cell'] (.raise (occ.toNat + 1)), storePatch_alike rfl rfl,
    stored.trans (patched _ _), stored'.trans (patched _ _), stored''.trans (patched _ _)⟩

theorem vec_overwrites {type : FieldTy} (one : single type = true) (values values' : List Value) :
    Overwrites (writeVec N cname (writeField N cname type) values occ)
      (writeVec N cname (writeField N cname type) values' occ) := by
  intro t t₁ s s' r r' u view view' first second third
  obtain ⟨field, cells, resets, -, known, fits, rest, image⟩ := writeVec_writes one first
  obtain ⟨field', cells', resets', -, known', fits', rest', image'⟩ := writeVec_writes one second
  obtain ⟨field'', cells'', resets'', -, known'', fits'', rest'', image''⟩ := writeVec_writes one third
  obtain rfl : field = field' := Except.ok.inj (known.symm.trans (view ▸ known'))
  obtain rfl : field = field'' := Except.ok.inj (known.symm.trans (view' ▸ known''))
  obtain rfl : cells' = cells'' := Option.some.inj (fits'.stored.symm.trans fits''.stored)
  obtain rfl : resets' = resets'' := Option.some.inj (rest'.reset.symm.trans rest''.reset)
  -- a vector and the rest of its array fill the array from `occ` on, however long the vector is
  have sized : (cells ++ resets).length = (cells' ++ resets').length := by
    have total := cellsOf_length fits.stored
    have total' := cellsOf_length fits'.stored
    have several := resetCells_length rest.reset
    have several' := resetCells_length rest'.reset
    have room := fits.room
    have room' := fits'.room
    simp only [List.length_append]
    omega
  have ends : (CountChange.set (occ.toNat + cells.length)).Alike (.set (occ.toNat + cells'.length)) := trivial
  exact ⟨_, _, storePatch_alike sized ends, image.trans (vecImage_patch ..), image'.trans (vecImage_patch ..),
    image''.trans (vecImage_patch ..)⟩

theorem array_overwrites {type : FieldTy} (one : single type = true) {values values' : List Value}
    (sized : values.length = values'.length) :
    Overwrites (writeArray N cname (writeField N cname type) values occ)
      (writeArray N cname (writeField N cname type) values' occ) := by
  intro t t₁ s s' r r' u view view' first second third
  obtain ⟨field, cells, -, known, fits, image⟩ := writeArray_writes one first
  obtain ⟨field', cells', -, known', fits', image'⟩ := writeArray_writes one second
  obtain ⟨field'', cells'', -, known'', fits'', image''⟩ := writeArray_writes one third
  obtain rfl : field = field' := Except.ok.inj (known.symm.trans (view ▸ known'))
  obtain rfl : field = field'' := Except.ok.inj (known.symm.trans (view' ▸ known''))
  obtain rfl : cells' = cells'' := Option.some.inj (fits'.stored.symm.trans fits''.stored)
  have total : cells.length = cells'.length := by
    rw [cellsOf_length fits.stored, cellsOf_length fits'.stored, sized]
  have raised : (CountChange.raise (if cells = [] then 0 else occ.toNat + cells.length)).Alike
      (.raise (if cells' = [] then 0 else occ.toNat + cells'.length)) := by
    simp only [CountChange.Alike, ← List.length_eq_zero_iff, total]
  exact ⟨_, _, storePatch_alike total raised, image.trans (storeAll_patch ..), image'.trans (storeAll_patch ..),
    image''.trans (storeAll_patch ..)⟩

theorem field_overwrites (type : FieldTy) (value value' : Value) :
    Overwrites (writeField N cname type value occ) (writeField N cname type value' occ) := by
  cases type with
  | scalar type => exact single_overwrites rfl value value'
  | option type => exact single_overwrites rfl value value'
  | vec type =>
      intro t t₁ s s' r r' u view view' first second third
      cases value with
      | list values =>
          cases value' with
          | list values' =>
              obtain ⟨_, _, checked, first⟩ := succeeds_bind.1 first
              obtain ⟨wide, rfl⟩ := succeeds_ofExcept.1 checked
              obtain ⟨_, _, checked, second⟩ := succeeds_bind.1 second
              obtain ⟨-, rfl⟩ := succeeds_ofExcept.1 checked
              obtain ⟨_, _, checked, third⟩ := succeeds_bind.1 third
              obtain ⟨-, rfl⟩ := succeeds_ofExcept.1 checked
              exact vec_overwrites (requireSingle_eq_ok.1 wide) values values' view view' first second third
          | _ => exact absurd second succeeds_throw
      | _ => exact absurd first succeeds_throw
  | array size type =>
      intro t t₁ s s' r r' u view view' first second third
      cases value with
      | list values =>
          cases value' with
          | list values' =>
              obtain ⟨_, _, passed, first⟩ := succeeds_bind.1 first
              obtain ⟨sized, rfl⟩ := succeeds_throwIf.1 passed
              obtain ⟨_, _, checked, first⟩ := succeeds_bind.1 first
              obtain ⟨wide, rfl⟩ := succeeds_ofExcept.1 checked
              obtain ⟨_, _, passed, second⟩ := succeeds_bind.1 second
              obtain ⟨sized', rfl⟩ := succeeds_throwIf.1 passed
              obtain ⟨_, _, checked, second⟩ := succeeds_bind.1 second
              obtain ⟨-, rfl⟩ := succeeds_ofExcept.1 checked
              obtain ⟨_, _, passed, third⟩ := succeeds_bind.1 third
              obtain ⟨-, rfl⟩ := succeeds_throwIf.1 passed
              obtain ⟨_, _, checked, third⟩ := succeeds_bind.1 third
              obtain ⟨-, rfl⟩ := succeeds_ofExcept.1 checked
              have same := (not_not.1 sized).trans (not_not.1 sized').symm
              exact array_overwrites (requireSingle_eq_ok.1 wide) same view view' first second third
          | _ => exact absurd second succeeds_throw
      | _ => exact absurd first succeeds_throw

end Fields

/-! ## Structs -/

section Structs

variable {N : Native} {D : ViewDecls}

theorem nothing_overwrites : Overwrites (pure ⟨⟩) (pure ⟨⟩) := by
  intro t t₁ s s' r r' u _ _ first second third
  obtain ⟨-, rfl⟩ := succeeds_pure.1 first
  obtain ⟨-, rfl⟩ := succeeds_pure.1 second
  obtain ⟨-, rfl⟩ := succeeds_pure.1 third
  exact ⟨.none, .none, .none, (Patch.apply_none _).symm, (Patch.apply_none _).symm, (Patch.apply_none _).symm⟩

/-- One write after another. -/
theorem Overwrites.andThen {m m' n n' : Viewing PUnit} (head : Overwrites m m') (tail : Overwrites n n') :
    Overwrites (m >>= fun _ => n) (m' >>= fun _ => n') := by
  intro t t₁ s s' r r' u view view' first second third
  obtain ⟨_, t₂, first, rest⟩ := succeeds_bind.1 first
  obtain ⟨_, s₂, second, rest'⟩ := succeeds_bind.1 second
  obtain ⟨_, r₂, third, rest''⟩ := succeeds_bind.1 third
  obtain ⟨p, q, alike, here, here', here''⟩ := head view view' first second third
  have named : s₂.view.view = t₂.view.view := by rw [here, here']; exact view
  have named' : r₂.view.view = t₂.view.view := by rw [here, here'']; exact view'
  obtain ⟨p', q', alike', there, there', there''⟩ := tail named named' rest rest' rest''
  refine ⟨p.andThen p', q.andThen q', alike.andThen alike', ?_, ?_, ?_⟩
  · rw [there, here, Patch.apply_andThen]
  · rw [there', here', Patch.apply_andThen]
  · rw [there'', here'', Patch.apply_andThen]

theorem throws_overwrites (e : UbfError) (m : Viewing PUnit) : Overwrites (throw e) m :=
  fun _ _ _ _ _ _ _ _ _ first => absurd first succeeds_throw

theorem overwrites_throws (m : Viewing PUnit) (e : UbfError) : Overwrites m (throw e) :=
  fun _ _ _ _ _ _ _ _ _ _ second => absurd second succeeds_throw

theorem members_overwrite {child : StructId → Value → Viewing PUnit} (name : String)
    (inner : ∀ id value value', Overwrites (child id value) (child id value')) :
    ∀ (members : List (String × ViewMember)) (values values' : List Value),
      Overwrites (writeMembers N child name members values) (writeMembers N child name members values')
  | [], [], [] => nothing_overwrites
  | [], _ :: _, _ => throws_overwrites _ _
  | _ :: _, [], _ => throws_overwrites _ _
  | [], [], _ :: _ => overwrites_throws _ _
  | _ :: _, _ :: _, [] => overwrites_throws _ _
  | (label, member) :: members, value :: values, value' :: values' => by
      have own : Overwrites (labelled name label (writeMember N child value member))
          (labelled name label (writeMember N child value' member)) := by
        intro t t₁ s s' r r' u view view' first second third
        rw [succeeds_labelled] at first second third
        cases member with
        | skip => exact nothing_overwrites view view' first second third
        | field cname occ type => exact field_overwrites type value value' view view' first second third
        | flatten id => exact inner id value value' view view' first second third
      exact own.andThen (members_overwrite name inner members values values')

theorem serialize_overwrites : ∀ (fuel : Nat) (id : StructId) (value value' : Value),
    Overwrites (serialize N D fuel id value) (serialize N D fuel id value')
  | 0, _, _, _ => throws_overwrites _ _
  | fuel + 1, id, value, value' => by
      intro t t₁ s s' r r' u view view' first second third
      unfold serialize at first second third
      cases found : D[id]? with
      | none =>
          rw [found] at first
          exact absurd first succeeds_throw
      | some decl =>
          rw [found] at first second third
          cases value with
          | struct values =>
              cases value' with
              | struct values' =>
                  obtain ⟨_, _, got, first⟩ := succeeds_bind.1 first
                  obtain ⟨rfl, rfl⟩ := succeeds_get.1 got
                  obtain ⟨_, _, checked, first⟩ := succeeds_bind.1 first
                  obtain ⟨-, rfl⟩ := succeeds_ofExcept.1 checked
                  obtain ⟨_, _, got, second⟩ := succeeds_bind.1 second
                  obtain ⟨rfl, rfl⟩ := succeeds_get.1 got
                  obtain ⟨_, _, checked, second⟩ := succeeds_bind.1 second
                  obtain ⟨-, rfl⟩ := succeeds_ofExcept.1 checked
                  obtain ⟨_, _, got, third⟩ := succeeds_bind.1 third
                  obtain ⟨rfl, rfl⟩ := succeeds_get.1 got
                  obtain ⟨_, _, checked, third⟩ := succeeds_bind.1 third
                  obtain ⟨-, rfl⟩ := succeeds_ofExcept.1 checked
                  exact members_overwrite decl.name (serialize_overwrites fuel) decl.members values values' view view'
                    first second third
              | _ => exact absurd second succeeds_throw
          | _ => exact absurd first succeeds_throw

theorem viewWrite_serializes {fuel : Nat} {id : StructId} {value : Value} {t t' : Target} {u : PUnit}
    (ran : Succeeds (viewWrite N D fuel id value) t u t') : Succeeds (serialize N D fuel id value) t u t' := by
  unfold viewWrite at ran
  split at ran
  · exact absurd ran succeeds_throw
  · obtain ⟨_, _, got, rest⟩ := succeeds_bind.1 ran
    obtain ⟨rfl, rfl⟩ := succeeds_get.1 got
    obtain ⟨_, _, checked, wrote⟩ := succeeds_bind.1 rest
    obtain ⟨-, rfl⟩ := succeeds_ofExcept.1 checked
    exact wrote

/-- **The last write wins.**  A VIEW to which one value of a type was written and then another is, element
for element and count for count, the VIEW to which only the second was written; also when members of the
type share elements. -/
theorem last_write_wins (N : Native) (D : ViewDecls) (fuel : Nat) (id : StructId) (value value' : Value)
    (t t₁ t₂ t₃ : Target) (first : (viewWrite N D fuel id value).run.run t = (.ok ⟨⟩, t₁))
    (second : (viewWrite N D fuel id value').run.run t₁ = (.ok ⟨⟩, t₂))
    (alone : (viewWrite N D fuel id value').run.run t = (.ok ⟨⟩, t₃)) : t₂.view = t₃.view := by
  have named : t₁.view.view = t.view.view := by
    have kept := view_write_frame N D fuel id value t
    rw [first] at kept
    exact kept.named
  obtain ⟨p, q, alike, wrote, again, once⟩ := serialize_overwrites fuel id value value' named rfl
    (viewWrite_serializes first) (viewWrite_serializes second) (viewWrite_serializes alone)
  rw [again, once, wrote, alike.absorbs]

end Structs

theorem position_rewritten :
    ((viewWrite positionView position 1 0 (positionAt [8] (.some (.scalar (.string "b"))))).run.run
        ((viewWrite positionView position 1 0 (positionAt [5, 6] .none)).run.run ⟨stale, []⟩).2).2.view =
      ((viewWrite positionView position 1 0 (positionAt [8] (.some (.scalar (.string "b"))))).run.run
        ⟨stale, []⟩).2.view :=
  last_write_wins positionView position 1 0 (positionAt [5, 6] .none)
    (positionAt [8] (.some (.scalar (.string "b")))) ⟨stale, []⟩ _ _ _ (run_succeeds (by decide +kernel))
    (run_succeeds (by decide +kernel)) (run_succeeds (by decide +kernel))

end Endurox.View
