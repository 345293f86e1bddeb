/-
# Typed.Fields -- what a UBF holds

The native reads and writes of a UBF's occurrences: `Bchg` past the end of a field
pads it with placeholders, `Bdel` moves the later occurrences down.  For each, what
it does to the pointers held.
-/
import Endurox.Typed.Heap

namespace Endurox.Typed

open Endurox.Theory

set_option autoImplicit false

/-! ## Occurrences -/

/-- An occurrence of this field. -/
def isAt (f : BFLDID) (item : Int × FieldValue) : Bool := item.1 = f.id ∧ item.2.type = f.type

def occurrences (f : BFLDID) (fields : Fields) : List FieldValue :=
  (fields.filter (isAt f)).map Prod.snd

def boccur (f : BFLDID) (fields : Fields) : Nat := (occurrences f fields).length

def bfind (f : BFLDID) (occ : Nat) (fields : Fields) : Option FieldValue := (occurrences f fields)[occ]?

/-- What `Bchg` fills a gap with. -/
def placeholder (type : UbfFieldType) : FieldValue :=
  if pointer : type = .Ptr then .ptr 0
  else if embedded : type = .Ubf then .ubf []
  else .plain type ⟨pointer, embedded⟩ []

/-- A converted value of a field that holds neither a pointer nor a UBF. -/
def plainValue (type : UbfFieldType) (bytes : List UInt8) : Option FieldValue :=
  if inline : type ≠ .Ptr ∧ type ≠ .Ubf then some (.plain type inline bytes) else none

/-- Overwrite an occurrence that is there. -/
def put (f : BFLDID) (value : FieldValue) : Nat → Fields → Fields
  | _, [] => []
  | occ, item :: fields =>
      if isAt f item then
        match occ with
        | 0 => (f.id, value) :: fields
        | occ + 1 => item :: put f value occ fields
      else item :: put f value occ fields

def bdel (f : BFLDID) : Nat → Fields → Fields
  | _, [] => []
  | occ, item :: fields =>
      if isAt f item then
        match occ with
        | 0 => fields
        | occ + 1 => item :: bdel f occ fields
      else item :: bdel f occ fields

def badd (f : BFLDID) (value : FieldValue) (fields : Fields) : Fields := fields ++ [(f.id, value)]

def bchg (f : BFLDID) (occ : Nat) (value : FieldValue) (fields : Fields) : Fields :=
  if occ < boccur f fields then put f value occ fields
  else badd f value
    (fields ++ List.replicate (occ - boccur f fields) (f.id, placeholder f.type))

mutual

/-- `Bhasptr` of an occurrence. -/
def FieldValue.hasPtr : FieldValue → Bool
  | .plain .. => false
  | .ptr _ => true
  | .ubf fields => bhasptr fields

def bhasptr : List (Int × FieldValue) → Bool
  | [] => false
  | (_, value) :: fields => value.hasPtr || bhasptr fields

end

/-! ## The pointers they hold -/

@[simp] theorem targetsIn_nil : targetsIn [] = [] := rfl

@[simp] theorem targetsIn_cons (id : Int) (value : FieldValue) (fields : Fields) :
    targetsIn ((id, value) :: fields) = value.targets ++ targetsIn fields := rfl

@[simp] theorem targetsIn_append (fields more : Fields) :
    targetsIn (fields ++ more) = targetsIn fields ++ targetsIn more := by
  induction fields with
  | nil => rfl
  | cons item fields ih =>
      obtain ⟨id, value⟩ := item
      simp [ih]

@[simp] theorem targets_plain {type : UbfFieldType} {inline : type ≠ .Ptr ∧ type ≠ .Ubf}
    {bytes : List UInt8} : (FieldValue.plain type inline bytes).targets = [] := rfl

@[simp] theorem targets_ptr {target : Addr} :
    (FieldValue.ptr target).targets = if target = 0 then [] else [target] := rfl

@[simp] theorem targets_ubf {fields : Fields} : (FieldValue.ubf fields).targets = targetsIn fields := rfl

@[simp] theorem placeholder_targets (type : UbfFieldType) : (placeholder type).targets = [] := by
  unfold placeholder
  split
  · rfl
  · split <;> rfl

@[simp] theorem targetsIn_placeholders (n : Nat) (id : Int) (type : UbfFieldType) :
    targetsIn (List.replicate n (id, placeholder type)) = [] := by
  induction n with
  | zero => rfl
  | succ n ih => simp [List.replicate_succ, ih]

theorem plainValue_targets {type : UbfFieldType} {bytes : List UInt8} {value : FieldValue}
    (plain : plainValue type bytes = some value) : value.targets = [] := by
  unfold plainValue at plain
  split at plain
  · cases plain; rfl
  · cases plain

theorem bfind_cons (f : BFLDID) (occ : Nat) (item : Int × FieldValue) (fields : Fields) :
    bfind f occ (item :: fields) =
      if isAt f item then (if occ = 0 then some item.2 else bfind f (occ - 1) fields)
      else bfind f occ fields := by
  unfold bfind occurrences
  rw [List.filter_cons]
  split
  · cases occ with
    | zero => simp
    | succ occ => simp
  · rfl

theorem bfind_type {f : BFLDID} {occ : Nat} {fields : Fields} {value : FieldValue}
    (found : bfind f occ fields = some value) : value.type = f.type := by
  obtain ⟨item, member, rfl⟩ := List.mem_map.1 (List.mem_of_getElem? found)
  have here : isAt f item = true := (List.mem_filter.1 member).2
  simp only [isAt, Bool.decide_and, Bool.and_eq_true, decide_eq_true_eq] at here
  exact here.2

/-- Only pointers and embedded UBFs point anywhere. -/
theorem targets_of_type {value : FieldValue} (pointer : value.type ≠ .Ptr) (embedded : value.type ≠ .Ubf) :
    value.targets = [] := by
  cases value with
  | plain type inline bytes => rfl
  | ptr target => exact absurd rfl pointer
  | ubf fields => exact absurd rfl embedded

/-- An occurrence written over: its pointers go, the new one's come. -/
theorem put_targets {f : BFLDID} (value : FieldValue) {old : FieldValue} (p : Addr) :
    ∀ {occ : Nat} {fields : Fields}, bfind f occ fields = some old →
      (targetsIn (put f value occ fields)).count p + old.targets.count p =
        (targetsIn fields).count p + value.targets.count p
  | _, [], found => by simp [bfind, occurrences] at found
  | occ, (id, other) :: fields, found => by
      rw [bfind_cons] at found
      unfold put
      split at found
      · rename_i here
        rw [if_pos here]
        cases occ with
        | zero =>
            cases found
            simp [List.count_append]
            omega
        | succ occ =>
            have := put_targets value p found
            simp only [Nat.add_sub_cancel] at this
            simp [List.count_append] at this ⊢
            omega
      · rename_i here
        rw [if_neg here]
        have := put_targets value p found
        simp [List.count_append] at this ⊢
        omega

theorem bdel_targets {f : BFLDID} {old : FieldValue} (p : Addr) :
    ∀ {occ : Nat} {fields : Fields}, bfind f occ fields = some old →
      (targetsIn (bdel f occ fields)).count p + old.targets.count p = (targetsIn fields).count p
  | _, [], found => by simp [bfind, occurrences] at found
  | occ, (id, other) :: fields, found => by
      rw [bfind_cons] at found
      unfold bdel
      split at found
      · rename_i here
        rw [if_pos here]
        cases occ with
        | zero =>
            cases found
            simp [List.count_append]
            omega
        | succ occ =>
            have := bdel_targets p found
            simp only [Nat.add_sub_cancel] at this
            simp [List.count_append] at this ⊢
            omega
      · rename_i here
        rw [if_neg here]
        have := bdel_targets p found
        simp [List.count_append] at this ⊢
        omega

theorem bdel_perm {f : BFLDID} {occ : Nat} {fields : Fields} {old : FieldValue}
    (found : bfind f occ fields = some old) :
    (targetsIn fields).Perm (old.targets ++ targetsIn (bdel f occ fields)) :=
  List.perm_iff_count.2 fun p => by rw [List.count_append, ← bdel_targets p found, Nat.add_comm]

theorem bfind_none_iff {f : BFLDID} {occ : Nat} {fields : Fields} :
    bfind f occ fields = none ↔ boccur f fields ≤ occ := List.getElem?_eq_none_iff

/-- **What `Bchg` does to the pointers held**, whatever was there. -/
theorem bchg_targets (f : BFLDID) (occ : Nat) (value : FieldValue) (fields : Fields) (p : Addr) :
    (targetsIn (bchg f occ value fields)).count p +
        ((bfind f occ fields).elim [] FieldValue.targets).count p =
      (targetsIn fields).count p + value.targets.count p := by
  unfold bchg
  cases found : bfind f occ fields with
  | none =>
      have past := bfind_none_iff.1 found
      rw [if_neg (by omega)]
      simp [badd, List.count_append]
  | some old =>
      have there : ¬ boccur f fields ≤ occ := fun past => by simp [bfind_none_iff.2 past] at found
      rw [if_pos (by omega)]
      exact put_targets value p found

/-- A write past the last occurrence adds one. -/
theorem bchg_end (f : BFLDID) (value : FieldValue) (fields : Fields) :
    bchg f (boccur f fields) value fields = fields ++ [(f.id, value)] := by
  simp [bchg, badd]

theorem boccur_append (f : BFLDID) (fields more : Fields) :
    boccur f (fields ++ more) = boccur f fields + boccur f more := by
  simp [boccur, occurrences]

theorem boccur_single (f : BFLDID) (item : Int × FieldValue) : boccur f [item] = if isAt f item then 1 else 0 := by
  unfold boccur occurrences
  rw [List.filter_singleton]
  cases isAt f item <;> rfl

mutual

/-- What `Bhasptr` misses holds no pointer. -/
theorem FieldValue.targets_of_not_hasPtr :
    ∀ value : FieldValue, value.hasPtr = false → value.targets = []
  | .plain .., _ => rfl
  | .ptr _, lacks => by simp [FieldValue.hasPtr] at lacks
  | .ubf fields, lacks => targetsIn_of_not_bhasptr fields lacks

theorem targetsIn_of_not_bhasptr : ∀ fields : Fields, bhasptr fields = false → targetsIn fields = []
  | [], _ => rfl
  | (_, value) :: fields, lacks => by
      simp only [bhasptr, Bool.or_eq_false_iff] at lacks
      rw [targetsIn_cons, value.targets_of_not_hasPtr lacks.1, targetsIn_of_not_bhasptr fields lacks.2]
      rfl

end

mutual

theorem FieldValue.targets_named : ∀ (value : FieldValue) (p : Addr), p ∈ value.targets → p ≠ 0
  | .plain .., _, member => nomatch member
  | .ptr target, p, member => by
      rw [targets_ptr] at member
      split at member
      · cases member
      · rename_i named
        exact List.mem_singleton.1 member ▸ named
  | .ubf fields, p, member => targetsIn_named fields p member

theorem targetsIn_named : ∀ (fields : Fields) (p : Addr), p ∈ targetsIn fields → p ≠ 0
  | [], _, member => nomatch member
  | (_, value) :: fields, p, member => by
      rw [targetsIn_cons, List.mem_append] at member
      exact member.elim (FieldValue.targets_named value p) (targetsIn_named fields p)

end

end Endurox.Typed
