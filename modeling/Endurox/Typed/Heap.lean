/-
# Typed.Heap -- native allocations and the values that own them

What the typed-buffer code works on: the allocations the native layer made, each
with its type, its bytes and, for a UBF, its fields; and the Rust values that own
one each, the program's variables and a function's own alike.  A byte nobody has
written since it was allocated is `none`.  Addresses are allocation identities:
none is handed out twice, so what was freed keeps its entry, marked dead.

What native calls answer is queued per kind of call in `Answers`; a call whose
queue has run out succeeds.  `freed`, after `-- observation`, is written and never
read by the code.
-/
import Endurox.Theory.Action
import Endurox.Theory.Run
import Endurox.Theory.Table
import Mathlib.Algebra.Group.Int.Defs
import Mathlib.Algebra.Group.Nat.Defs

namespace Endurox.Typed

open Endurox.Theory

set_option autoImplicit false

/-! ## Errors -/

inductive AtmiCode
  | TPEINVAL
  | other (code : Int)
  deriving DecidableEq, Repr

/-- The code as a number: `TPEINVAL` is XATMI's 4. -/
def AtmiCode.number : AtmiCode → Int
  | .TPEINVAL => 4
  | .other code => code

structure AtmiError where
  code : AtmiCode
  message : String
  deriving DecidableEq, Repr

/-- How an error prints. -/
def AtmiError.display (e : AtmiError) : String := s!"[code {e.code.number}] {e.message}"

inductive UbfCode
  | BMALLOC | BNOSPACE | BEINVAL | BTYPERR | BNOTPRES | BBADVIEW
  | other (code : Int)
  deriving DecidableEq, Repr

structure UbfError where
  code : UbfCode
  message : String
  deriving DecidableEq, Repr

/-! ## Fields -/

/-- An allocation; `0` is the null pointer. -/
abbrev Addr := Nat

inductive UbfFieldType
  | Short | Long | Char | Float | Double | String | Carray | Ptr | Ubf | View
  deriving DecidableEq, Repr

/-- A field identifier, and the type it encodes. -/
structure BFLDID where
  id : Int
  type : UbfFieldType
  deriving DecidableEq, Repr

/-- One occurrence.  An embedded UBF is a copy; a pointer is an address. -/
inductive FieldValue
  | plain (type : UbfFieldType) (inline : type ≠ .Ptr ∧ type ≠ .Ubf) (bytes : List UInt8)
  | ptr (target : Addr)
  | ubf (fields : List (Int × FieldValue))

/-- Every occurrence under the identifier of its field; those of one field in order. -/
abbrev Fields := List (Int × FieldValue)

def FieldValue.type : FieldValue → UbfFieldType
  | .plain type _ _ => type
  | .ptr _ => .Ptr
  | .ubf _ => .Ubf

mutual

/-- The pointers an occurrence holds, at any depth of embedding. -/
def FieldValue.targets : FieldValue → List Addr
  | .plain .. => []
  | .ptr target => if target = 0 then [] else [target]
  | .ubf fields => targetsIn fields

def targetsIn : List (Int × FieldValue) → List Addr
  | [] => []
  | (_, value) :: fields => value.targets ++ targetsIn fields

end

mutual

/-- The occurrence with its pointers moved up by `base`. -/
def FieldValue.relocate (base : Addr) : FieldValue → FieldValue
  | .plain type inline bytes => .plain type inline bytes
  | .ptr target => .ptr (if target = 0 then 0 else base + target)
  | .ubf fields => .ubf (relocateIn base fields)

def relocateIn (base : Addr) : List (Int × FieldValue) → List (Int × FieldValue)
  | [] => []
  | (id, value) :: fields => (id, value.relocate base) :: relocateIn base fields

end

/-! ## Memory -/

/-- A byte of an allocation; `none` until it is written. -/
abbrev Byte := Option UInt8

/-- A copy to the start of an allocation. -/
def copied (source memory : List Byte) : List Byte :=
  (source ++ memory.drop source.length).take memory.length

/-- `write_bytes(ptr.add(start), 0, size - start)`. -/
def cleared (start : Nat) (memory : List Byte) : List Byte :=
  memory.take start ++ List.replicate (memory.length - start) (some 0)

@[simp] theorem length_cleared (start : Nat) (memory : List Byte) :
    (cleared start memory).length = memory.length := by
  simp [cleared]
  omega

/-- What native reallocation leaves. -/
def resized (size : Nat) (memory : List Byte) : List Byte :=
  memory.take size ++ List.replicate (size - memory.length) none

structure Allocation where
  typeName : String
  subtype : String := ""
  bytes : List Byte
  fields : Fields := []
  live : Bool := true

def Allocation.resize (size : Nat) (allocation : Allocation) : Allocation :=
  { allocation with bytes := resized size allocation.bytes }

structure TpTypeInfo where
  size : Nat
  typeName : String
  subtype : String
  deriving DecidableEq, Repr

def Allocation.info (allocation : Allocation) : TpTypeInfo :=
  ⟨allocation.bytes.length, allocation.typeName, allocation.subtype⟩

/-- `X_OCTET` is an alias of `CARRAY`. -/
def bufferType (type_ : String) : String := if type_ = "X_OCTET" then "CARRAY" else type_

/-! ## What the native layer answers -/

/-- `tpalloc`: an error, or by how much the allocation exceeds the request; then whether
`tptypes` of it fails. -/
structure AllocAnswer where
  result : Except AtmiError Nat := .ok 0
  types : Option AtmiError := none

/-- `tprealloc`, likewise, and whether the allocation moves; `tptypes` is asked before and after. -/
structure ReallocAnswer where
  before : Option AtmiError := none
  result : Except AtmiError (Nat × Bool) := .ok (0, true)
  after : Option AtmiError := none

structure Answers where
  allocs : List AllocAnswer := []
  reallocs : List ReallocAnswer := []
  /-- `tptypes`, elsewhere. -/
  types : List (Option AtmiError) := []
  /-- `Bchg`, `Badd` and `Baddfast`. -/
  writes : List (Option UbfError) := []
  /-- Questions about an occurrence that is to be replaced or deleted. -/
  displaced : List (Option UbfError) := []
  /-- Whether an occurrence is there at all, asked in passing. -/
  present : List (Option UbfError) := []
  /-- The size of an embedded buffer that gave its pointers away, and its emptying. -/
  shell : List (Option UbfError) := []
  /-- Every other UBF call. -/
  calls : List (Option UbfError) := []
  /-- `Bvsizeof`. -/
  viewSize : String → Except UbfError Nat := fun _ => .ok 0
  /-- `Bused`. -/
  used : Nat := 0

/-- The answers to one kind of call, and what a call without one gets. -/
structure Queue (α : Type) where
  read : Answers → List α
  write : List α → Answers → Answers
  otherwise : α

namespace Queue

def allocs : Queue AllocAnswer := ⟨Answers.allocs, fun later answers => { answers with allocs := later }, {}⟩

def reallocs : Queue ReallocAnswer :=
  ⟨Answers.reallocs, fun later answers => { answers with reallocs := later }, {}⟩

def types : Queue (Option AtmiError) :=
  ⟨Answers.types, fun later answers => { answers with types := later }, none⟩

def writes : Queue (Option UbfError) :=
  ⟨Answers.writes, fun later answers => { answers with writes := later }, none⟩

def displaced : Queue (Option UbfError) :=
  ⟨Answers.displaced, fun later answers => { answers with displaced := later }, none⟩

def present : Queue (Option UbfError) :=
  ⟨Answers.present, fun later answers => { answers with present := later }, none⟩

def shell : Queue (Option UbfError) :=
  ⟨Answers.shell, fun later answers => { answers with shell := later }, none⟩

def calls : Queue (Option UbfError) :=
  ⟨Answers.calls, fun later answers => { answers with calls := later }, none⟩

end Queue

/-! ## The state -/

/-- A program's buffer variable, or a function's. -/
abbrev BufId := Nat

/-- An owned buffer and the length it tracks. -/
structure TypedBuffer where
  ptr : Addr
  len : Nat := 0
  deriving DecidableEq, Repr

/-- Whether the value is a `TypedBuffer` or a `TypedUbf` around one. -/
inductive Wrapper
  | typed | ubf
  deriving DecidableEq, Repr

structure Place where
  buffer : TypedBuffer
  wrapper : Wrapper
  deriving DecidableEq, Repr

structure State where
  heap : Table Addr Allocation := .empty
  next : Addr := 1
  bufs : Table BufId Place := .empty
  nextBuf : BufId := 0
  /-- What the program has written out, binary or as text. -/
  dumps : List Fields := []
  answers : Answers := {}
  -- observation
  freed : List Addr := []

/-- The next answer of a queue. -/
def next {α : Type} (queue : Queue α) : StateM State α :=
  modifyGet fun s => match queue.read s.answers with
    | [] => (queue.otherwise, s)
    | answer :: later => (answer, { s with answers := queue.write later s.answers })

def nextAlloc : StateM State AllocAnswer := next .allocs

def nextRealloc : StateM State ReallocAnswer := next .reallocs

def nextTypes : StateM State (Option AtmiError) := next .types

def nextWrite : StateM State (Option UbfError) := next .writes

def nextDisplaced : StateM State (Option UbfError) := next .displaced

def nextPresent : StateM State (Option UbfError) := next .present

def nextShell : StateM State (Option UbfError) := next .shell

def nextCall : StateM State (Option UbfError) := next .calls

abbrev AtmiM := Fallible AtmiError State

abbrev UbfM := Fallible UbfError State

namespace State

/-- What `tptypes` reports of a live allocation. -/
def typesOf (ptr : Addr) (s : State) : Option TpTypeInfo :=
  match s.heap.get ptr with
  | some allocation => if allocation.live then some allocation.info else none
  | none => none

/-- The fields of the UBF at an address. -/
def fieldsAt (ptr : Addr) (s : State) : Fields :=
  match s.heap.get ptr with
  | some allocation => allocation.fields
  | none => []

/-- The pointers stored in live allocations. -/
def stored (s : State) : List Addr :=
  s.heap.gather fun _ allocation => if allocation.live then targetsIn allocation.fields else []

def allocate (allocation : Allocation) (s : State) : Addr × State :=
  (s.next, { s with heap := s.heap.set s.next allocation, next := s.next + 1 })

/-- Rewrite an allocation where it is. -/
def rewrite (ptr : Addr) (change : Allocation → Allocation) (s : State) : State :=
  match s.heap.get ptr with
  | some allocation => { s with heap := s.heap.set ptr (change allocation) }
  | none => s

/-- An allocation marked dead, and the pointers it held while it lived. -/
def bury (ptr : Addr) (s : State) : List Addr × State :=
  match s.heap.get ptr with
  | some allocation =>
      (if allocation.live then targetsIn allocation.fields else [],
        { s with heap := s.heap.set ptr { allocation with live := false }, freed := ptr :: s.freed })
  | none => ([], { s with freed := ptr :: s.freed })

/-- Free a list of allocations and, of a UBF, what it points to. -/
def release : Nat → List Addr → State → State
  | 0, _, s => s
  | _, [], s => s
  | fuel + 1, ptr :: rest, s => release fuel ((s.bury ptr).1 ++ rest) (s.bury ptr).2

/-- `tpfree`.  Each round frees one pointer of the list, and what it adds to the list is no
longer stored, so the fuel lasts. -/
def tpfree (ptr : Addr) (s : State) : State :=
  if ptr = 0 then s else s.release (s.stored.length + 1) [ptr]

/-- A new value that owns a buffer. -/
def own (place : Place) (s : State) : BufId × State :=
  (s.nextBuf, { s with bufs := s.bufs.set s.nextBuf place, nextBuf := s.nextBuf + 1 })

/-- The buffer of a value; no value has a null one. -/
def buffer (id : BufId) (s : State) : TypedBuffer :=
  match s.bufs.get id with
  | some place => place.buffer
  | none => ⟨0, 0⟩

def setBuffer (id : BufId) (buffer : TypedBuffer) (s : State) : State :=
  match s.bufs.get id with
  | some place => { s with bufs := s.bufs.set id { place with buffer } }
  | none => s

/-- `forget`, `into_raw`. -/
def forget (id : BufId) (s : State) : State := { s with bufs := s.bufs.del id }

/-- `Drop for TypedBuffer`. -/
def drop (id : BufId) (s : State) : State := (s.forget id).tpfree (s.buffer id).ptr

/-! ## What the operations do to the heap -/

theorem get_rewrite (ptr addr : Addr) (change : Allocation → Allocation) (s : State) :
    (s.rewrite ptr change).heap.get addr =
      if addr = ptr then (s.heap.get ptr).map change else s.heap.get addr := by
  unfold rewrite
  cases found : s.heap.get ptr with
  | none =>
      by_cases same : addr = ptr
      · simp [same, found]
      · simp [same]
  | some allocation => simp

@[simp] theorem rewrite_rest (ptr : Addr) (change : Allocation → Allocation) (s : State) :
    (s.rewrite ptr change).next = s.next ∧ (s.rewrite ptr change).bufs = s.bufs ∧
      (s.rewrite ptr change).nextBuf = s.nextBuf ∧ (s.rewrite ptr change).answers = s.answers ∧
      (s.rewrite ptr change).freed = s.freed := by
  unfold rewrite
  split <;> exact ⟨rfl, rfl, rfl, rfl, rfl⟩

theorem get_bury (ptr addr : Addr) (s : State) :
    (s.bury ptr).2.heap.get addr =
      if addr = ptr then (s.heap.get ptr).map fun a => { a with live := false } else s.heap.get addr := by
  unfold bury
  cases found : s.heap.get ptr with
  | none =>
      by_cases same : addr = ptr
      · simp [same, found]
      · simp [same]
  | some allocation => simp

@[simp] theorem bury_rest (ptr : Addr) (s : State) :
    (s.bury ptr).2.next = s.next ∧ (s.bury ptr).2.bufs = s.bufs ∧
      (s.bury ptr).2.nextBuf = s.nextBuf ∧ (s.bury ptr).2.answers = s.answers := by
  unfold bury
  split <;> exact ⟨rfl, rfl, rfl, rfl⟩

theorem release_rest : ∀ (fuel : Nat) (work : List Addr) (s : State),
    (s.release fuel work).next = s.next ∧ (s.release fuel work).bufs = s.bufs ∧
      (s.release fuel work).nextBuf = s.nextBuf ∧ (s.release fuel work).answers = s.answers
  | 0, _, _ => ⟨rfl, rfl, rfl, rfl⟩
  | _ + 1, [], _ => ⟨rfl, rfl, rfl, rfl⟩
  | fuel + 1, ptr :: rest, s => by
      have later := release_rest fuel ((s.bury ptr).1 ++ rest) (s.bury ptr).2
      have here := bury_rest ptr s
      exact ⟨later.1.trans here.1, later.2.1.trans here.2.1, later.2.2.1.trans here.2.2.1,
        later.2.2.2.trans here.2.2.2⟩

theorem tpfree_rest (ptr : Addr) (s : State) :
    (s.tpfree ptr).next = s.next ∧ (s.tpfree ptr).bufs = s.bufs ∧
      (s.tpfree ptr).nextBuf = s.nextBuf ∧ (s.tpfree ptr).answers = s.answers := by
  unfold tpfree
  split
  · exact ⟨rfl, rfl, rfl, rfl⟩
  · exact release_rest _ _ _

/-- Of every allocation ever made. -/
def All (P : Allocation → Prop) (s : State) : Prop := ∀ ptr allocation, s.heap.get ptr = some allocation → P allocation

section All

variable {P : Allocation → Prop} {s : State}

theorem All.rewrite (all : s.All P) (ptr : Addr) {change : Allocation → Allocation}
    (kept : ∀ a, P a → P (change a)) : (s.rewrite ptr change).All P := by
  intro addr allocation found
  rw [get_rewrite] at found
  split at found
  · obtain ⟨before, there, rfl⟩ := Option.map_eq_some_iff.1 found
    exact kept before (all ptr before there)
  · exact all addr allocation found

theorem All.allocate (all : s.All P) {allocation : Allocation} (made : P allocation) :
    (s.allocate allocation).2.All P := by
  intro addr a found
  simp only [State.allocate, Table.get_set] at found
  split at found
  · exact Option.some.inj found ▸ made
  · exact all addr a found

theorem All.release (buried : ∀ a : Allocation, P a → P { a with live := false }) :
    ∀ (fuel : Nat) (work : List Addr) {s : State}, s.All P → (s.release fuel work).All P
  | 0, _, _, all => all
  | _ + 1, [], _, all => all
  | fuel + 1, ptr :: rest, s, all => by
      refine All.release buried fuel _ fun addr a found => ?_
      rw [get_bury] at found
      split at found
      · obtain ⟨before, there, rfl⟩ := Option.map_eq_some_iff.1 found
        exact buried before (all ptr before there)
      · exact all addr a found

theorem All.tpfree (buried : ∀ a : Allocation, P a → P { a with live := false }) (all : s.All P)
    (ptr : Addr) : (s.tpfree ptr).All P := by
  unfold State.tpfree
  split
  · exact all
  · exact All.release buried _ _ all

end All

/-- An allocation of this type was made there. -/
def HasType (ptr : Addr) (typeName : String) (s : State) : Prop :=
  ∃ allocation, s.heap.get ptr = some allocation ∧ allocation.typeName = typeName

section HasType

variable {ptr : Addr} {typeName : String} {s : State}

theorem HasType.rewrite (known : s.HasType ptr typeName) (addr : Addr) {change : Allocation → Allocation}
    (kept : ∀ a, (change a).typeName = a.typeName) : (s.rewrite addr change).HasType ptr typeName := by
  obtain ⟨a, found, same⟩ := known
  by_cases here : ptr = addr
  · subst here
    exact ⟨change a, by simp [get_rewrite, found], (kept a).trans same⟩
  · exact ⟨a, by rw [get_rewrite, if_neg here, found], same⟩

theorem HasType.bury (known : s.HasType ptr typeName) (addr : Addr) : (s.bury addr).2.HasType ptr typeName := by
  obtain ⟨a, found, same⟩ := known
  by_cases here : ptr = addr
  · subst here
    exact ⟨{ a with live := false }, by simp [get_bury, found], same⟩
  · exact ⟨a, by rw [get_bury, if_neg here, found], same⟩

theorem HasType.release : ∀ (fuel : Nat) (work : List Addr) {s : State}, s.HasType ptr typeName →
    (s.release fuel work).HasType ptr typeName
  | 0, _, _, known => known
  | _ + 1, [], _, known => known
  | fuel + 1, addr :: _, _, known => HasType.release fuel _ (known.bury addr)

theorem HasType.tpfree (known : s.HasType ptr typeName) (addr : Addr) :
    (s.tpfree addr).HasType ptr typeName := by
  unfold State.tpfree
  split
  · exact known
  · exact HasType.release _ _ known

theorem hasType_allocate (allocation : Allocation) (s : State) :
    (s.allocate allocation).2.HasType s.next allocation.typeName :=
  ⟨allocation, by simp [State.allocate], rfl⟩

theorem HasType.allocate (known : s.HasType ptr typeName) {allocation : Allocation}
    (apart : ptr = s.next → allocation.typeName = typeName) :
    (s.allocate allocation).2.HasType ptr typeName := by
  by_cases here : ptr = s.next
  · exact ⟨allocation, by simp [State.allocate, here], apart here⟩
  · obtain ⟨a, found, same⟩ := known
    exact ⟨a, by simp [State.allocate, here, found], same⟩

end HasType

end State

end Endurox.Typed
