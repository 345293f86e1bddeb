/-
# View.Outcome -- what a mapped struct leaves in its VIEW

The fields of a struct, at every depth of flattening, name different members of the VIEW, and
so each member is at the end as the write of its own field left it.  A vector leaves its
count, the elements before its start and a fresh rest of the array; an option leaves its
sentinel or a value that is not it.  What was written is read, unless native code makes
another value of a stored scalar: text in a `char` member keeps its first character.
-/
import Endurox.View.Overwriting

namespace Endurox.View

open Endurox.Theory
open Endurox.Typed (UbfError UbfCode)
open Endurox.Ubf (Scalar ScalarTy FieldTy Value StructId requireSingle requireSingle_eq_ok)

set_option autoImplicit false

/-! ## The vectors of a struct -/

def MemberLeft (N : Native) (v v' : TypedView) (child : StructId → Value → Prop) : ViewMember → Value → Prop
  | .field cname occ (.vec _), .list values => VecLeft N v v' cname occ.toNat values.length
  | .flatten id, value => child id value
  | _, _ => True

def MembersLeft (N : Native) (v v' : TypedView) (child : StructId → Value → Prop) :
    List (String × ViewMember) → List Value → Prop
  | (_, member) :: members, value :: values =>
      MemberLeft N v v' child member value ∧ MembersLeft N v v' child members values
  | _, _ => True

/-- Each vector of the value, also in its flattened structs, has left its member so. -/
def VecsLeft (N : Native) (D : ViewDecls) (v v' : TypedView) : Nat → StructId → Value → Prop
  | 0, _, _ => True
  | fuel + 1, id, value => ∀ decl values, D[id]? = some decl → value = .struct values →
      MembersLeft N v v' (VecsLeft N D v v' fuel) decl.members values

section Outcome

variable {N : Native} {D : ViewDecls} {v v' : TypedView}

/-- Only the vector's own member counts. -/
theorem VecLeft.agree {w w' : TypedView} {cname : String} {start length : Nat}
    (left : VecLeft N w w' cname start length) (before : Agree [cname] v w) (after : Agree [cname] w' v') :
    VecLeft N v v' cname start length := by
  have own : cname ∈ [cname] := List.mem_singleton.2 rfl
  refine ⟨fun field found => ?_, fun i below => ?_, fun field found i above inside => ?_⟩
  · exact (after.active own field).trans (left.count field (before.view ▸ found))
  · exact (after.cells cname own i).trans ((left.kept i below).trans (before.cells cname own i))
  · exact (after.cells cname own i).trans (left.rest field (before.view ▸ found) i above inside)

/-- A struct whose members are, before it is written, those of one VIEW and afterwards those of another. -/
def Leaves (N : Native) (D : ViewDecls) (v v' : TypedView) (fuel : Nat) : Prop :=
  ∀ {id value t t' u}, Succeeds (serialize N D fuel id value) t u t' → (structNames D fuel id).Nodup →
    Agree (structNames D fuel id) v t.view → Agree (structNames D fuel id) t'.view v' →
      VecsLeft N D v v' fuel id value

/-- Each member is left as its own write leaves it, for the others write elsewhere. -/
theorem writeMembers_leave (lawful : N.Lawful) {fuel : Nat} (leaves : Leaves N D v v' fuel) (name : String) :
    ∀ (members : List (String × ViewMember)) (values : List Value) {t t' : Target} {u : PUnit},
    Succeeds (writeMembers N (serialize N D fuel) name members values) t u t' →
    (members.flatMap fun member => memberNames (structNames D fuel) member.2).Nodup →
    Agree (members.flatMap fun member => memberNames (structNames D fuel) member.2) v t.view →
    Agree (members.flatMap fun member => memberNames (structNames D fuel) member.2) t'.view v' →
      MembersLeft N v v' (VecsLeft N D v v' fuel) members values
  | [], _, _, _, _, _, _, _, _ => trivial
  | _ :: _, [], _, _, _, _, _, _, _ => trivial
  | (label, member) :: members, value :: values, t, t', u, ran, distinct, before, after => by
      obtain ⟨_, t₁, first, rest⟩ := succeeds_bind.1 ran
      rw [succeeds_labelled] at first
      obtain ⟨mine, others, apart⟩ := List.nodup_append.1 (List.flatMap_cons ▸ distinct)
      have here : Agree (memberNames (structNames D fuel) member) v t.view :=
        before.mono fun _ own => List.mem_append_left _ own
      have there : Agree (memberNames (structNames D fuel) member) t₁.view v' :=
        (writeMembers_apart rest fun cname own other => apart cname own cname other rfl).trans
          (after.mono fun _ own => List.mem_append_left _ own)
      refine ⟨?_, writeMembers_leave lawful leaves name members values rest others ?_ ?_⟩
      · cases member with
        | skip => trivial
        | field cname occ type =>
            cases type with
            | vec type =>
                cases value with
                | list values => exact (writeField_leaves lawful first).agree here there
                | _ => trivial
            | _ => trivial
        | flatten id => exact leaves first mine here there
      · exact (before.mono fun _ other => List.mem_append_right _ other).trans
          (writeMember_apart first fun cname other own => apart cname own cname other rfl)
      · exact after.mono fun _ other => List.mem_append_right _ other

/-- **Every vector of a struct** leaves its member so: by induction on how deep the struct is. -/
theorem serialize_leaves (lawful : N.Lawful) : ∀ fuel, Leaves N D v v' fuel
  | 0 => fun _ _ _ _ => trivial
  | fuel + 1 => by
      intro ran distinct before after decl values found same
      rw [structNames, found] at distinct before after
      unfold serialize at ran
      rw [found, same] at ran
      obtain ⟨_, _, got, rest⟩ := succeeds_bind.1 ran
      obtain ⟨rfl, rfl⟩ := succeeds_get.1 got
      obtain ⟨_, _, checked, rest⟩ := succeeds_bind.1 rest
      obtain ⟨-, rfl⟩ := succeeds_ofExcept.1 checked
      exact writeMembers_leave lawful (serialize_leaves lawful fuel) decl.name decl.members values rest distinct before after

/-! ## Options -/

/-- `Some` of a value that is itself accepted is accepted if its element is not the sentinel. -/
theorem some_accepted_iff {cname : String} {occ : Int} {type : FieldTy} {value : Value} {t t₁ : Target} {u : PUnit}
    (one : single type = true) (calm : t.Calm) (wrote : Succeeds (writeField N cname type value occ) t u t₁) :
    ((writeField N cname (.option type) (.some value) occ).run.run t).1 = .ok ⟨⟩ ↔
      ∀ field, N.field t.view.view cname = .ok field → field.isNull (t₁.view.cells cname occ.toNat) = false := by
  obtain ⟨field, cell, lands, written, stored⟩ := single_writes one wrote
  have here : t₁.view.cells cname occ.toNat = cell := by rw [stored]; exact if_pos ⟨rfl, rfl⟩
  rw [here]
  constructor
  · intro accepted other found
    obtain rfl : field = other := Except.ok.inj (lands.found.symm.trans found)
    have ran : Succeeds (writeField N cname (.option type) (.some value) occ) t ⟨⟩ _ := run_succeeds accepted
    obtain ⟨field', cell', lands', written', -⟩ := single_writes rfl ran
    obtain rfl : field = field' := Except.ok.inj (lands.found.symm.trans lands'.found)
    obtain ⟨-, inner, present⟩ := cellOf_some.1 written'
    obtain rfl : cell = cell' := Option.some.inj (written.symm.trans inner)
    exact present
  · intro present
    have fits := cellOf_some.2 ⟨one, written, present field lands.found⟩
    have ran : Succeeds (writeField N cname (.option type) (.some value) occ) t ⟨⟩ _ := single_calm rfl calm lands fits
    exact congrArg Prod.fst ran

/-! ## Whole structs -/

/-- **What is written comes back.**  Where the fields of a struct name different members of the VIEW, a value
that `view_write` accepts leaves each vector at its length, between the elements before its start and a fresh
rest of the array; and if native code makes of each stored scalar the scalar it was, `view_read` gives the value
back.  `Some` of a value that is accepted by itself is refused just when it is stored as the NULL sentinel. -/
theorem view_exchanges (N : Native) (lawful : N.Lawful) (D : ViewDecls) (fuel : Nat) (id : StructId)
    (distinct : (structNames D fuel id).Nodup) :
    (∀ value t t', (viewWrite N D fuel id value).run.run t = (.ok ⟨⟩, t') →
      VecsLeft N D t.view t'.view fuel id value ∧
      (ComesBack N D t.view.view fuel id value → viewRead N D t'.view fuel id = .ok value.reset)) ∧
    ∀ cname occ type value t t₁, single type = true → t.Calm →
      (writeField N cname type value occ).run.run t = (.ok ⟨⟩, t₁) →
      (((writeField N cname (.option type) (.some value) occ).run.run t).1 = .ok ⟨⟩ ↔
        ∀ field, N.field t.view.view cname = .ok field → field.isNull (t₁.view.cells cname occ.toNat) = false) := by
  refine ⟨fun value t t' ran => ⟨?_, fun reads => viewWrite_restores lawful ran distinct reads⟩, ?_⟩
  · have same : ∀ w : TypedView, Agree (structNames D fuel id) w w := fun _ => ⟨rfl, fun _ _ _ => rfl, fun _ _ => rfl⟩
    exact serialize_leaves lawful fuel (viewWrite_serializes ran) distinct (same t.view) (same t'.view)
  · exact fun cname occ type value t t₁ one calm wrote => some_accepted_iff one calm wrote

end Outcome

/-- A position over one that was there; and the note, whose sentinel is the empty text. -/
theorem position_exchanged :
    (VecsLeft positionView position stale
        ((viewWrite positionView position 1 0 (positionAt [5, 6] .none)).run.run ⟨stale, []⟩).2.view 1 0
        (positionAt [5, 6] .none) ∧
      viewRead positionView position
        ((viewWrite positionView position 1 0 (positionAt [5, 6] .none)).run.run ⟨stale, []⟩).2.view 1 0 =
        .ok (positionAt [5, 6] .none).reset) ∧
    (((writeField positionView "note" (.option (.scalar .string)) (.some (.scalar (.string "b"))) 0).run.run
        ⟨stale, []⟩).1 = .ok ⟨⟩ ↔
      ∀ field, positionView.field "POSITION" "note" = .ok field →
        field.isNull (((writeField positionView "note" (.scalar .string) (.scalar (.string "b")) 0).run.run
          ⟨stale, []⟩).2.view.cells "note" 0) = false) := by
  have exchanged := view_exchanges positionView positionView_lawful position 1 0 (position_distinct 1 0)
  have ran := run_succeeds (t := ⟨stale, []⟩)
    (by decide +kernel : ((viewWrite positionView position 1 0 (positionAt [5, 6] .none)).run.run ⟨stale, []⟩).1 = .ok ⟨⟩)
  obtain ⟨left, back⟩ := exchanged.1 _ _ _ ran
  refine ⟨⟨left, back position_comesBack⟩, ?_⟩
  exact exchanged.2 "note" 0 (.scalar .string) (.scalar (.string "b")) ⟨stale, []⟩ _ rfl rfl
    (run_succeeds (by decide +kernel))

/-! ## What does not come back -/

/-- The VIEW `LETTER`, with a `char` member and a counted array. -/
def letterView : Native :=
  { positionView with
    layout := fun view =>
      if view = "LETTER" then
        some fun cname =>
          if cname = "grade" then some ⟨.Char, 1, 1, false, fun _ => [0], fun cell => cell = [0]⟩
          else if cname = "marks" then some (longField 4 true)
          else none
      else none
    -- text in a `char` keeps its first character
    convert := fun field value =>
      match field.type, value with
      | .Char, .String text => .ok [text.toUTF8.toList.headD 0]
      | _, _ => positionView.convert field value }

/-- Text in the `char`, and an array without elements behind the front of its member. -/
def letter : ViewDecls :=
  [⟨"Letter", "LETTER", [("grade", .field "grade" 0 (.scalar .string))]⟩,
    ⟨"Marks", "LETTER", [("marks", .field "marks" 1 (.array 0 (.scalar i64)))]⟩]

def freshLetter : TypedView := ⟨"LETTER", fun _ _ => [0], fun _ => 0⟩

/-- The text of a struct of one. -/
def textRead : Except UbfError Value → Option Scalar
  | .ok (.struct [.scalar value]) => some value
  | _ => none

/-- Both are accepted.  Of the text one character is read, and the array is not. -/
theorem letter_lost :
    letterView.Lawful ∧ ((structNames letter 1 0).Nodup ∧ (structNames letter 1 1).Nodup) ∧
    (((viewWrite letterView letter 1 0 (.struct [.scalar (.string "AB")])).run.run ⟨freshLetter, []⟩).1 = .ok ⟨⟩ ∧
      textRead (viewRead letterView letter
        ((viewWrite letterView letter 1 0 (.struct [.scalar (.string "AB")])).run.run ⟨freshLetter, []⟩).2.view 1 0) =
          some (.string "A")) ∧
    (((viewWrite letterView letter 1 1 (.struct [.list []])).run.run ⟨freshLetter, []⟩).1 = .ok ⟨⟩ ∧
      (viewRead letterView letter
        ((viewWrite letterView letter 1 1 (.struct [.list []])).run.run ⟨freshLetter, []⟩).2.view 1 1).isOk = false) :=
  ⟨fun _ _ _ reset => (Except.ok.inj reset).symm, by decide +kernel⟩

end Endurox.View
