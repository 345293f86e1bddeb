/-
# Typed.Clones -- what a deep clone contains

`Copied o s source held used` relates the fields of a UBF in `o` to those of its
clone in `s`: the same fields and values in the same order, each pointer replaced by
one to a copy of its target; `used` are the allocations the copies are in, each once.
The specifications of `clone_ubf` and what it calls are read along `Since`: whatever
happens, nothing that was there is touched, so what one call built is still there
after the next.
-/
import Endurox.Theory.Walks
import Endurox.Typed.Freed

namespace Endurox.Typed

open Endurox.Theory State

set_option autoImplicit false

/-! ## What a clone is -/

namespace State

/-- No question whether an occurrence is there fails. -/
def Truthful (s : State) : Prop := ∀ failure ∈ s.answers.present, failure = none

/-- No native call fails, and the size of a UBF is one `tpalloc` takes. -/
structure Quiet (s : State) : Prop where
  allocs : ∀ answer ∈ s.answers.allocs, (∃ more, answer.result = .ok more) ∧ answer.types = none
  types : ∀ failure ∈ s.answers.types, failure = none
  writes : ∀ failure ∈ s.answers.writes, failure = none
  displaced : ∀ failure ∈ s.answers.displaced, failure = none
  shell : ∀ failure ∈ s.answers.shell, failure = none
  calls : ∀ failure ∈ s.answers.calls, failure = none
  truthful : s.Truthful
  used : max s.answers.used 256 ≤ longMax

/-- Emptying the shell of an embedded copy never fails. -/
def Firm (s : State) : Prop := ∀ failure ∈ s.answers.shell, failure = none

/-- How much of a buffer that is not a UBF is copied. -/
def payload (info : TpTypeInfo) (s : State) : Except UbfError Nat :=
  if info.typeName = "VIEW" then s.answers.viewSize info.subtype else .ok info.size

end State

/-- The clone of a UBF's fields. -/
inductive Copied (o s : State) : Fields → Fields → List Addr → Prop
  | nil : Copied o s [] [] []
  | plain {id : Int} {type : UbfFieldType} {inline : type ≠ .Ptr ∧ type ≠ .Ubf} {bytes : List UInt8}
      {rest copies : Fields} {used : List Addr} (others : Copied o s rest copies used) :
      Copied o s ((id, .plain type inline bytes) :: rest) ((id, .plain type inline bytes) :: copies) used
  | null {id : Int} {rest copies : Fields} {used : List Addr} (others : Copied o s rest copies used) :
      Copied o s ((id, .ptr 0) :: rest) ((id, .ptr 0) :: copies) used
  /-- A failing question whether the occurrence is there reads as its absence. -/
  | missed {id : Int} {target : Addr} {rest copies : Fields} {used : List Addr} (failed : ¬ o.Truthful)
      (others : Copied o s rest copies used) :
      Copied o s ((id, .ptr target) :: rest) ((id, .ptr 0) :: copies) used
  | embedded {id : Int} {inside copy rest copies : Fields} {within used : List Addr}
      (inner : Copied o s inside copy within) (others : Copied o s rest copies used) :
      Copied o s ((id, .ubf inside) :: rest) ((id, .ubf copy) :: copies) (within ++ used)
  | ubf {id : Int} {target ptr : Addr} {a b : Allocation} {rest copies : Fields} {within used : List Addr}
      (named : target ≠ 0) (source : o.heap.get target = some a) (live : a.live = true)
      (type : a.typeName = "UBF") (made : s.heap.get ptr = some b) (lives : b.live = true)
      (types : b.typeName = "UBF") (inner : Copied o s a.fields b.fields within)
      (others : Copied o s rest copies used) :
      Copied o s ((id, .ptr target) :: rest) ((id, .ptr ptr) :: copies) (ptr :: within ++ used)
  | other {id : Int} {target ptr : Addr} {a b : Allocation} {size : Nat} {rest copies : Fields} {used : List Addr}
      (named : target ≠ 0) (source : o.heap.get target = some a) (live : a.live = true)
      (type : a.typeName ≠ "UBF") (measured : o.payload a.info = .ok size) (made : s.heap.get ptr = some b)
      (lives : b.live = true) (types : b.typeName = bufferType a.typeName) (subtypes : b.subtype = a.subtype)
      (bytes : b.bytes.take size = a.bytes.take size) (fits : size ≤ a.bytes.length)
      (holds : size ≤ b.bytes.length) (others : Copied o s rest copies used) :
      Copied o s ((id, .ptr target) :: rest) ((id, .ptr ptr) :: copies) (ptr :: used)

namespace Copied

variable {o s s' : State} {source held more moreHeld : Fields} {used moreUsed : List Addr}

theorem append (first : Copied o s source held used) (second : Copied o s more moreHeld moreUsed) :
    Copied o s (source ++ more) (held ++ moreHeld) (used ++ moreUsed) := by
  induction first with
  | nil => exact second
  | plain _ ih => exact .plain ih
  | null _ ih => exact .null ih
  | missed failed _ ih => exact .missed failed ih
  | embedded inner _ _ ih =>
      rw [List.append_assoc]
      exact .embedded inner ih
  | ubf named source live type made lives types inner _ _ ih =>
      simp only [List.cons_append, List.append_assoc]
      exact .ubf named source live type made lives types inner ih
  | other named source live type measured made lives types subtypes bytes fits holds _ ih =>
      exact .other named source live type measured made lives types subtypes bytes fits holds ih

/-- Only the allocations the copies are in matter. -/
theorem frame (copied : Copied o s source held used) (same : ∀ a ∈ used, s'.heap.get a = s.heap.get a) :
    Copied o s' source held used := by
  induction copied with
  | nil => exact .nil
  | plain _ ih => exact .plain (ih same)
  | null _ ih => exact .null (ih same)
  | missed failed _ ih => exact .missed failed (ih same)
  | embedded _ _ ihInner ih =>
      exact .embedded (ihInner fun a member => same a (List.mem_append_left _ member))
        (ih fun a member => same a (List.mem_append_right _ member))
  | ubf named source live type made lives types _ _ ihInner ih =>
      refine .ubf named source live type ((same _ ?_).trans made) lives types (ihInner fun a member => same a ?_)
        (ih fun a member => same a ?_) <;> simp_all
  | other named source live type measured made lives types subtypes bytes fits holds _ ih =>
      exact .other named source live type measured ((same _ List.mem_cons_self).trans made) lives types subtypes bytes
        fits holds (ih fun a member => same a (List.mem_cons_of_mem _ member))

/-- The clone of each occurrence has its field and its type. -/
theorem boccur_eq (copied : Copied o s source held used) (f : BFLDID) : boccur f held = boccur f source := by
  have same {id : Int} {x y : FieldValue} {rest rest' : Fields} (type : x.type = y.type)
      (others : boccur f rest = boccur f rest') : boccur f ((id, x) :: rest) = boccur f ((id, y) :: rest') := by
    show boccur f ([(id, x)] ++ rest) = boccur f ([(id, y)] ++ rest')
    rw [boccur_append, boccur_append, others, boccur_single, boccur_single]
    simp [isAt, type]
  induction copied with
  | nil => rfl
  | plain _ ih | null _ ih | missed _ _ ih | embedded _ _ _ ih | ubf _ _ _ _ _ _ _ _ _ _ ih
  | other _ _ _ _ _ _ _ _ _ _ _ _ _ ih => exact same rfl ih

/-- The copies point only to where they are. -/
theorem targets (copied : Copied o s source held used) : ∀ p ∈ targetsIn held, p ∈ used := by
  induction copied with
  | nil => simp
  | plain _ ih => simpa using ih
  | null _ ih | missed _ _ ih => simpa using ih
  | embedded _ _ ihInner ih =>
      intro p member
      simp only [targetsIn_cons, targets_ubf, List.mem_append] at member ⊢
      exact member.imp (ihInner p) (ih p)
  | ubf _ _ _ _ _ _ _ _ _ _ ih | other _ _ _ _ _ _ _ _ _ _ _ _ _ ih =>
      intro p member
      simp only [targetsIn_cons, targets_ptr, List.mem_append] at member
      rcases member with here | later
      · split at here
        · cases here
        · simp_all
      · simp [ih p later]

/-- **What frees a clone** frees all that its copies are in. -/
theorem felled {u : State} (null : s.heap.get 0 = none) (copied : Copied o s source held used) (felled : s.Felled u)
    (gone : ∀ p ∈ targetsIn held, u.Dead p) : ∀ a ∈ used, u.Dead a := by
  have dead {id : Int} {ptr : Addr} {b : Allocation} {copies : Fields} (made : s.heap.get ptr = some b)
      (gone : ∀ p ∈ targetsIn ((id, .ptr ptr) :: copies), u.Dead p) : u.Dead ptr := by
    refine gone ptr ?_
    have named : ptr ≠ 0 := by
      rintro rfl
      rw [null] at made
      cases made
    simp [named]
  have behind {ptr : Addr} {b : Allocation} (made : s.heap.get ptr = some b) (lives : b.live = true)
      (dead : u.Dead ptr) : ∀ p ∈ targetsIn b.fields, u.Dead p := by
    have alive : ¬ s.Dead ptr := fun dead => by
      rw [dead b made] at lives
      cases lives
    have fells := felled.fells ptr alive dead
    unfold State.fieldsAt at fells
    rwa [made] at fells
  induction copied with
  | nil => exact fun _ none => absurd none List.not_mem_nil
  | plain _ ih | null _ ih | missed _ _ ih => exact ih fun p member => gone p (by simp [member])
  | embedded _ _ ihInner ih =>
      refine List.forall_mem_append.2 ⟨ihInner fun p member => gone p ?_, ih fun p member => gone p ?_⟩ <;> simp [member]
  | ubf _ _ _ _ made lives _ _ _ ihInner ih =>
      have here := dead made gone
      refine List.forall_mem_cons.2 ⟨here, List.forall_mem_append.2 ⟨ihInner (behind made lives here), ih ?_⟩⟩
      exact fun p member => gone p (by simp [member])
  | other _ _ _ _ _ made _ _ _ _ _ _ _ ih =>
      exact List.forall_mem_cons.2 ⟨dead made gone, ih fun p member => gone p (by simp [member])⟩

end Copied

/-! ## What can be cloned -/

/-- Where a clone has got to: the UBFs on the way, and the fields it copies. -/
abbrev Visit := List Addr × Fields

/-- One level on: into an embedded UBF, or through a pointer to another. -/
inductive State.Onward (o : State) : Visit → Visit → Prop
  | embedded {path : List Addr} {fields inside : Fields} {id : Int} (member : (id, .ubf inside) ∈ fields) :
      o.Onward (path, fields) (path, inside)
  | pointed {path : List Addr} {fields : Fields} {id : Int} {target : Addr} {a : Allocation}
      (member : (id, .ptr target) ∈ fields) (named : target ≠ 0) (found : o.heap.get target = some a)
      (live : a.live = true) (type : a.typeName = "UBF") : o.Onward (path, fields) (target :: path, a.fields)

/-- A request `tpalloc` takes. -/
def Requestable (info : TpTypeInfo) (size : Nat) : Prop :=
  containsNul info.typeName = false ∧ containsNul info.subtype = false ∧ size ≤ longMax

/-- The target is live; a UBF is not on the way already, anything else is as long as what is copied of it. -/
def State.CanCopy (o : State) (path : List Addr) (target : Addr) : Prop :=
  ∃ info, o.typesOf target = some info ∧
    if info.typeName = "UBF" then target ∉ path
    else ∃ size, o.payload info = .ok size ∧ size ≤ info.size ∧ Requestable info size

def State.Sound (o : State) (visit : Visit) : Prop :=
  ∀ id target, (id, FieldValue.ptr target) ∈ visit.2 → target ≠ 0 → o.CanCopy visit.1 target

/-- A target can be copied with what it points to, at this depth. -/
def State.Reachable (o : State) (fuel : Nat) (path : List Addr) (target : Addr) : Prop :=
  o.CanCopy path target ∧ ∀ a, o.heap.get target = some a → a.live = true → a.typeName = "UBF" →
    Within o.Onward o.Sound fuel (target :: path, a.fields)

/-- What copying one occurrence takes. -/
def Each (nested : Fields → Prop) (target : Addr → Prop) (item : Int × FieldValue) : Prop :=
  match item.2 with
  | .ubf inside => nested inside
  | .ptr ptr => ptr ≠ 0 → target ptr
  | .plain .. => True

theorem within_succ (o : State) (fuel : Nat) (path : List Addr) (fields : Fields) :
    Within o.Onward o.Sound (fuel + 1) (path, fields) ↔
      ∀ item ∈ fields, Each (fun inside => Within o.Onward o.Sound fuel (path, inside)) (o.Reachable fuel path) item := by
  constructor
  · rintro ⟨sound, deeper⟩ ⟨id, value⟩ member
    cases value with
    | plain type inline bytes => trivial
    | ubf inside => exact deeper _ (.embedded member)
    | ptr target =>
        exact fun named => ⟨sound id target member named, fun a found live type =>
          deeper _ (.pointed member named found live type)⟩
  · intro each
    refine ⟨fun id target member named => (each _ member named).1, fun next onward => ?_⟩
    cases onward with
    | embedded member => exact each _ member
    | pointed member named found live type => exact (each _ member named).2 _ found live type

end Endurox.Typed
