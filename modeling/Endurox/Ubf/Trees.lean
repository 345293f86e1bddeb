/-
# Ubf.Trees -- reading a buffer that owns what it points to

`trees` finds in a buffer what native code finds: each pointer leads to the buffer it
owns, so a place is known by the way to it and no way down meets itself.  `Reads` is a
read that succeeds and leaves the path as it was; its rules follow the do-blocks.
-/
import Endurox.Ubf.Scopes
import Mathlib.Data.List.Forall2

namespace Endurox.Ubf

open Endurox.Theory
open Endurox.Typed (BFLDID UbfFieldType UbfError UbfCode)

set_option autoImplicit false

/-! ## Trees of buffers -/

/-- The way to a buffer, the last step first. -/
abbrev Way := List (BFLDID × Int)

/-- A buffer in a tree. -/
structure Branch where
  fields : Buffer
  way : Way

/-- `Bfind`. -/
def Branch.find (pos : Branch) (f : BFLDID) (occ : Int) : Option Datum :=
  if 0 ≤ occ then (column f pos.fields)[occ.toNat]? else none

/-- The plain bytes of an occurrence. -/
def Datum.bytes? : Datum → Option (List UInt8)
  | .plain bytes => some bytes
  | _ => none

/-- `null_complex` of an occurrence that is there. -/
def Datum.isNull : Datum → Bool
  | .null => true
  | .view name _ => name = ""
  | _ => false

def notUbf (typeName : String) : UbfError :=
  ⟨.BTYPERR, s!"BFLD_PTR target is a {typeName} buffer, not UBF; use bget_ptr instead"⟩

/-- `check_view`. -/
def checkView (name expected : String) : Except UbfError Unit :=
  if name = expected then .ok () else .error ⟨.BTYPERR, s!"expected VIEW {expected}, got {name}"⟩

def viewMismatch : UbfError := ⟨.BTYPERR, "pointer target does not match the mapped VIEW"⟩

/-- `bget_view` and `view_read`. -/
def viewAt (N : Native) (id : StructId) : Option Datum → Except UbfError Value
  | some (.view name data) =>
      if name = "" then .error ⟨.BNOTPRES, "empty VIEW occurrence"⟩
      else do
        checkView name (N.viewName id)
        N.viewRead id data
  | _ => .error notPresent

/-- The same of a VIEW that is pointed to. -/
def viewTargetAt (N : Native) (id : StructId) : Option Datum → Except UbfError Value
  | some (.ptrView name data) => if name = N.viewName id then N.viewRead id data else .error viewMismatch
  | some (.ptrUbf _) => .error viewMismatch
  | some (.ptrOther _ _) => .error viewMismatch
  | some .null => .error Typed.nullPointer
  | _ => .error notPresent

/-- Buffers as reads find them. -/
def trees (N : Native) : Source Way where
  Pos := Branch
  address pos := pos.way
  count pos f := .ok (column f pos.fields).length
  present pos f occ := (pos.find f occ).isSome
  isNull pos f occ := .ok ((pos.find f occ).elim true Datum.isNull)
  scalar pos f occ type := (readScalar N f occ type ((pos.find f occ).bind Datum.bytes?)).mapError .error
  embedded pos f occ := match pos.find f occ with
    | some (.ubf fields) => .ok ⟨fields, (f, occ) :: pos.way⟩
    | _ => .error notPresent
  target pos f occ := match pos.find f occ with
    | some (.ptrUbf fields) => .ok ⟨fields, (f, occ) :: pos.way⟩
    | some (.ptrView _ _) => .error (notUbf "VIEW")
    | some (.ptrOther typeName _) => .error (notUbf typeName)
    | some .null => .error Typed.nullPointer
    | _ => .error notPresent
  view pos f occ id := (viewAt N id (pos.find f occ)).mapError .error
  viewTarget pos f occ id := (viewTargetAt N id (pos.find f occ)).mapError .error

/-! ## Reads that succeed -/

section Reads

variable {Addr : Type} {α β : Type} {path : List Addr}

/-- The read gives this value, and leaves the path as it was. -/
def Reads (path : List Addr) (read : Reading Addr α) (a : α) : Prop := read.run.run path = some (.ok a, path)

theorem Reads.pure (a : α) : Reads path (pure a : Reading Addr α) a := rfl

theorem Reads.ofExcept {result : Except Exit α} {a : α} (found : result = .ok a) :
    Reads path (MonadExcept.ofExcept result : Reading Addr α) a := by
  subst found
  rfl

theorem Reads.ask {result : Except UbfError α} {a : α} (answered : result = .ok a) :
    Reads path (ask result : Reading Addr α) a := by
  subst answered
  rfl

theorem Reads.bind {read : Reading Addr α} {next : α → Reading Addr β} {a : α} {b : β} (first : Reads path read a)
    (rest : Reads path (next a) b) : Reads path (read >>= next) b := by
  unfold Reads at *
  simp only [ExceptT.run_bind, StateT.run_bind, first, Option.bind_eq_bind, Option.bind_some]
  exact rest

theorem Reads.labelled {read : Reading Addr α} {a : α} (name member : String) (reads : Reads path read a) :
    Reads path (readLabelled name member read) a := by
  unfold Reads readLabelled at *
  simp only [ExceptT.run_bind, ExceptT.run_lift, StateT.run_bind, StateT.run_map, reads, Option.bind_eq_bind,
    Option.map_eq_map, Option.map_some, Option.bind_some]
  rfl

/-- A scope with room that is new on the path is entered and left. -/
theorem Reads.withScope [DecidableEq Addr] {address : Addr} {read : Reading Addr α} {a : α}
    (room : path.length < 128) (new : address ∉ path) (inside : Reads (address :: path) read a) :
    Reads path (withScope address read) a := by
  have entered : ¬ (128 ≤ path.length ∨ address ∈ path) := not_or.2 ⟨Nat.not_le.2 room, new⟩
  unfold Reads Ubf.withScope at *
  simp only [ExceptT.run_bind, ExceptT.run_lift, StateT.run_bind, StateT.run_map, enter_run, if_neg entered,
    Option.bind_eq_bind, Option.bind_some, Option.map_eq_map, inside, Option.map_some]
  rfl

theorem Reads.all {ι : Type} {read : ι → Reading Addr Value} {is : List ι} {values : List Value}
    (each : List.Forall₂ (fun i value => Reads path (read i) value) is values) :
    Reads path (readAll read is) values := by
  induction each with
  | nil => exact .pure []
  | cons first later ih => exact first.bind (ih.bind (.pure _))

theorem occurrencesFrom_eq (occ : Int) (total : Nat) :
    occurrencesFrom occ total = (List.range (total - occ.toNat)).map fun i : Nat => occ + (i : Int) := by
  simp only [occurrencesFrom, List.bind_eq_flatMap, List.map_flatMap, List.pure_def, List.map_cons, List.map_nil]
  exact List.map_eq_flatMap.symm

/-- The occurrences from one on, each to its value. -/
theorem Reads.occurrences {read : Int → Reading Addr Value} {occ : Int} {total : Nat} {values : List Value}
    (length : total - occ.toNat = values.length)
    (each : ∀ (i : Nat) (value : Value), values[i]? = some value → Reads path (read (occ + i)) value.reset) :
    Reads path (readAll read (occurrencesFrom occ total)) (resetAll values) := by
  rw [resetAll_eq_map, occurrencesFrom_eq, length]
  refine Reads.all (List.forall₂_map_right_iff.2 (List.forall₂_map_left_iff.2 ?_))
  refine List.forall₂_iff_get.2 ⟨List.length_range, fun i _ there => ?_⟩
  rw [List.get_eq_getElem, List.get_eq_getElem, List.getElem_range]
  exact each i _ (List.getElem?_eq_getElem there)

/-- So many elements, each to its value. -/
theorem Reads.elements {read : Nat → Reading Addr Value} {values : List Value}
    (each : ∀ (i : Nat) (value : Value), values[i]? = some value → Reads path (read i) value.reset) :
    Reads path (readAll read (List.range values.length)) (resetAll values) := by
  rw [resetAll_eq_map]
  refine Reads.all (List.forall₂_map_right_iff.2 ?_)
  refine List.forall₂_iff_get.2 ⟨List.length_range, fun i _ there => ?_⟩
  rw [List.get_eq_getElem, List.get_eq_getElem, List.getElem_range]
  exact each i _ (List.getElem?_eq_getElem there)

end Reads

end Endurox.Ubf
