/-
# Script.Buffers -- `TpScrBuffers`, operation by operation

The three mutable slots of a script call, as `script_buffers.rs` keeps them: what
each refers to, which Rust slots stand for one native pointer slot, and who frees
what.  Around the collection stand the owned buffers of the program, the native
slots of a callback's arguments and the native allocator.  What a closure, the
script VM or `tptypes` does is an argument.

Fields after `-- observation` are written and never read by the code: what was
freed, and what was freed while a slot or a variable still named it.
-/
import Endurox.Theory.Run
import Endurox.Theory.Table
import Mathlib.Algebra.Group.Int.Defs
import Mathlib.Algebra.Group.Nat.Defs

namespace Endurox.Script

open Endurox.Theory

set_option autoImplicit false

/-! ## Slots and buffers -/

/-- An allocation; `0` is the null pointer. -/
abbrev Ptr := Nat

/-- The address of a native pointer or length slot; `0` is null. -/
abbrev Addr := Nat

/-- What `ptr::eq` compares of a context. -/
abbrev CtxId := Nat

/-- A program's `TypedBuffer` variable. -/
abbrev BufId := Nat

inductive TpScrSlot
  | Param | Input | Output
  deriving DecidableEq, Repr

/-- `0..3`. -/
def TpScrSlot.all : List TpScrSlot := [.Param, .Input, .Output]

/-- `..i`. -/
def TpScrSlot.before : TpScrSlot → List TpScrSlot
  | .Param => []
  | .Input => [.Param]
  | .Output => [.Param, .Input]

/-- The index of a slot, its link when it has no other. -/
def TpScrSlot.index : TpScrSlot → Nat
  | .Param => 0
  | .Input => 1
  | .Output => 2

inductive TpScrError
  | invalid (message : String)
  | native (atmiCode : Nat) (scriptCode : Int) (message : String)
  deriving DecidableEq, Repr

abbrev TpScrResult (α : Type) := Except TpScrError α

/-- An owned buffer of a context. -/
structure TypedBuffer where
  ctx : CtxId
  ptr : Ptr
  len : Nat
  deriving DecidableEq, Repr

/-- The allocation a buffer frees when it is dropped. -/
def TypedBuffer.owned (buffer : TypedBuffer) : List Ptr := if buffer.ptr = 0 then [] else [buffer.ptr]

/-- A callback's pointer and length slots; null where an argument was not supplied. -/
structure NativeSlots where
  pointers : TpScrSlot → Addr
  lengths : TpScrSlot → Addr

structure TpScrBuffers where
  ctx : CtxId
  pointers : TpScrSlot → Ptr := fun _ => 0
  lengths : TpScrSlot → Int := fun _ => 0
  links : TpScrSlot → Nat := TpScrSlot.index
  enabled : TpScrSlot → Bool := fun _ => true
  owned : Bool := true
  nativeSlots : Option NativeSlots := none

/-- `TpScrBuffers::new`. -/
def TpScrBuffers.new (ctx : CtxId) : TpScrBuffers := { ctx }

/-- Each non-null pointer once, at its first slot. -/
def slotPtrs (pointers : TpScrSlot → Ptr) : List Ptr :=
  (TpScrSlot.all.filter fun i =>
    pointers i ≠ 0 ∧ ∀ j ∈ i.before, pointers j ≠ pointers i).map pointers

/-! ## What closures, scripts and the native layer do -/

/-- What the native layer says of a buffer: its type and capacity, or the error of
`tptypes`, and for a text the length up to its terminator. -/
structure Answer where
  types : TpScrResult (String × Nat) := .ok ("CARRAY", 1024)
  text : Nat := 0

/-- The bytes a view of a buffer of this type exposes. -/
def initializedLength (typeName : String) (length text : Nat) : Nat :=
  if typeName = "CARRAY" then length
  else if typeName = "STRING" ∨ typeName = "JSON" then text + 1
  else 0

/-- What a closure does with the buffer it edits, and with the program's own buffers. -/
inductive EditAct
  /-- The allocation grows and moves. -/
  | tprealloc (len : Nat)
  | setLen (len : Nat)
  /-- `mem::swap` with a variable. -/
  | swap (id : BufId)
  /-- A native call takes the allocation away. -/
  | gone
  | tpalloc (id : BufId) (ctx : CtxId) (len : Nat)
  | drop (id : BufId)

/-- How a closure ends. -/
inductive Outcome
  | returned (result : TpScrResult Unit)
  | panicked
  deriving DecidableEq, Repr

/-- The answers `edit_ubf` reads before its closure runs. -/
structure UbfAnswer where
  get : Answer := { types := .ok ("UBF", 1024) }
  kind : TpScrResult String := .ok "UBF"
  take : Answer := { types := .ok ("UBF", 1024) }
  /-- `TypedUbf::from_typed`. -/
  typed : TpScrResult Unit := .ok ()

/-- Where a slot points after a script: nowhere, to what some slot had, or to an allocation
the script made. -/
inductive VmPtr
  | null
  | slot (i : TpScrSlot)
  | fresh (k : Nat)
  deriving DecidableEq, Repr

/-- What a script does with the slots, and what `tpscrexec` returns. -/
structure VmScript where
  fresh : Nat := 0
  pointers : TpScrSlot → VmPtr := .slot
  lengths : TpScrSlot → Int := fun _ => 0
  result : TpScrResult Unit := .ok ()

/-! ## The program around a collection -/

structure State where
  slots : TpScrBuffers
  /-- The collection has not been dropped. -/
  alive : Bool := true
  bufs : Table BufId TypedBuffer := .empty
  /-- What the native pointer and length slots hold. -/
  ptrAt : Addr → Ptr := fun _ => 0
  lenAt : Addr → Int := fun _ => 0
  live : Table Ptr CtxId := .empty
  nextPtr : Ptr := 1
  -- observation
  freed : List Ptr := []
  early : List Ptr := []

namespace State

def inSlots (s : State) : List Ptr := if s.alive then slotPtrs s.slots.pointers else []

def inBufs (s : State) : List Ptr := s.bufs.gather fun _ buffer => buffer.owned

/-- Dropping an owner: `tpfree`, for a pointer that is not null. -/
def tpfree (ptr : Ptr) (s : State) : State :=
  if ptr = 0 then s
  else
    { s with
      live := s.live.del ptr
      freed := ptr :: s.freed
      early := if ptr ∈ s.inSlots ++ s.inBufs then ptr :: s.early else s.early }

/-- `tpalloc`. -/
def tpalloc (ctx : CtxId) (s : State) : Ptr × State :=
  (s.nextPtr, { s with live := s.live.set s.nextPtr ctx, nextPtr := s.nextPtr + 1 })

/-- One round of `sync_native`. -/
def writeNative (native : NativeSlots) (s : State) (i : TpScrSlot) : State :=
  if native.pointers i = 0 then s
  else
    { s with
      ptrAt := fun a => if a = native.pointers i then s.slots.pointers i else s.ptrAt a
      lenAt := fun a => if a = native.lengths i then s.slots.lengths i else s.lenAt a }

def syncNative (s : State) : State :=
  match s.slots.nativeSlots with
  | some native => TpScrSlot.all.foldl (writeNative native) s
  | none => s

/-! ## Replacing a slot -/

def replace (index : TpScrSlot) (next : Ptr) (length : Int) (s : State) : State :=
  let old := s.slots.pointers index
  let linked := fun i => s.slots.links i = s.slots.links index
  let s := syncNative { s with slots :=
    { s.slots with
      pointers := fun i => if linked i then next else s.slots.pointers i
      lengths := fun i => if linked i then length else s.slots.lengths i } }
  if old ≠ 0 ∧ ∀ i ∈ TpScrSlot.all, s.slots.pointers i ≠ old then s.tpfree old else s

def notSupplied : TpScrError := .invalid "this callback buffer slot was not supplied"

/-- `c_long::MAX`. -/
def longMax : Nat := 2 ^ 63 - 1

/-- `set`; a buffer it does not store is dropped. -/
def set (slot : TpScrSlot) (buffer : Option TypedBuffer) (s : State) : TpScrResult Unit × State :=
  if s.slots.enabled slot = false then
    (.error notSupplied, (buffer.map TypedBuffer.ptr).elim s s.tpfree)
  else
    match buffer with
    | some buffer =>
        if buffer.ctx ≠ s.slots.ctx then
          (.error (.invalid "script buffer belongs to a different context"), s.tpfree buffer.ptr)
        else if longMax < buffer.len then
          (.error (.invalid "buffer length exceeds native long"), s.tpfree buffer.ptr)
        else (.ok (), s.replace slot buffer.ptr buffer.len)
    | none => (.ok (), s.replace slot 0 0)

def aliasSlot (destination source : TpScrSlot) (s : State) : TpScrResult Unit × State :=
  if s.slots.enabled destination = false then (.error notSupplied, s)
  else
    (.ok (), s.replace destination (s.slots.pointers source) (s.slots.lengths source))

/-! ## Taking and editing -/

def get (slot : TpScrSlot) (answer : Answer) (s : State) : TpScrResult (Option TypedBuffer) :=
  if s.slots.pointers slot = 0 then .ok none
  else if s.slots.lengths slot < 0 then
    .error (.invalid "negative native script buffer length")
  else
    match answer.types with
    | .error e => .error e
    | .ok (typeName, size) =>
        let length := (s.slots.lengths slot).toNat
        if size < length then
          .error (.invalid "native script buffer length exceeds its allocation")
        else
          .ok (some ⟨s.slots.ctx, s.slots.pointers slot, initializedLength typeName length answer.text⟩)

/-- Every slot that refers to `pointer` emptied. -/
def clear (pointer : Ptr) (s : State) : State :=
  syncNative { s with slots :=
    { s.slots with
      pointers := fun i => if s.slots.pointers i = pointer then 0 else s.slots.pointers i
      lengths := fun i => if s.slots.pointers i = pointer then 0 else s.slots.lengths i } }

def take (slot : TpScrSlot) (answer : Answer) (s : State) : TpScrResult (Option TypedBuffer) × State :=
  match s.get slot answer with
  | .ok (some buffer) => (.ok (some buffer), s.clear buffer.ptr)
  | other => (other, s)

/-- The slots that refer to the allocation of this one. -/
def aliases (slot : TpScrSlot) (s : State) : TpScrSlot → Bool :=
  fun i => s.slots.pointers slot ≠ 0 ∧ s.slots.pointers i = s.slots.pointers slot

/-- A new variable with a new allocation. -/
def allocBuf (id : BufId) (ctx : CtxId) (len : Nat) (s : State) : State :=
  match s.bufs.get id with
  | some _ => s
  | none =>
      let allocated := s.tpalloc ctx
      { allocated.2 with bufs := s.bufs.set id ⟨ctx, allocated.1, len⟩ }

/-- A variable dropped. -/
def dropBuf (id : BufId) (s : State) : State :=
  match s.bufs.get id with
  | some buffer => tpfree buffer.ptr { s with bufs := s.bufs.del id }
  | none => s

def editAct (buffer : TypedBuffer) (s : State) : EditAct → TypedBuffer × State
  | .tprealloc len =>
      let allocated := (s.tpfree buffer.ptr).tpalloc buffer.ctx
      (⟨buffer.ctx, allocated.1, len⟩, allocated.2)
  | .setLen len => ({ buffer with len }, s)
  | .swap id =>
      match s.bufs.get id with
      | some other => (other, { s with bufs := s.bufs.set id buffer })
      | none => (buffer, s)
  | .gone => ({ buffer with ptr := 0 }, s.tpfree buffer.ptr)
  | .tpalloc id ctx len => (buffer, s.allocBuf id ctx len)
  | .drop id => (buffer, s.dropBuf id)

def runEdit : List EditAct → TypedBuffer → State → TypedBuffer × State
  | [], buffer, s => (buffer, s)
  | act :: acts, buffer, s => runEdit acts (s.editAct buffer act).1 (s.editAct buffer act).2

/-- `Drop for BufferWriteback`; the length is cast to `c_long`. -/
def writeback (aliases : TpScrSlot → Bool) (buffer : TypedBuffer) (s : State) : State :=
  syncNative { s with slots :=
    { s.slots with
      pointers := fun i => if aliases i then buffer.ptr else s.slots.pointers i
      lengths := fun i => if aliases i then Int.bmod buffer.len (2 ^ 64) else s.slots.lengths i } }

def slotEmpty : TpScrError := .invalid "script buffer slot is empty"

def edit (slot : TpScrSlot) (answer : Answer) (acts : List EditAct) (outcome : Outcome) (s : State) :
    Outcome × State :=
  match s.take slot answer with
  | (.error e, s) => (.returned (.error e), s)
  | (.ok none, s) => (.returned (.error slotEmpty), s)
  | (.ok (some buffer), taken) =>
      let edited := runEdit acts buffer taken
      (outcome, edited.2.writeback (s.aliases slot) edited.1)

def editUbf (slot : TpScrSlot) (answer : UbfAnswer) (acts : List EditAct) (outcome : Outcome)
    (s : State) : Outcome × State :=
  match s.get slot answer.get with
  | .error e => (.returned (.error e), s)
  | .ok none => (.returned (.error slotEmpty), s)
  | .ok (some _) =>
      match answer.kind with
      | .error e => (.returned (.error e), s)
      | .ok kind =>
          if kind ≠ "UBF" then (.returned (.error (.invalid "script buffer is not UBF")), s)
          else
            match s.take slot answer.take with
            | (.error e, s) => (.returned (.error e), s)
            | (.ok none, s) => (.panicked, s)
            | (.ok (some buffer), taken) =>
                match answer.typed with
                | .error e => (.returned (.error e), taken.tpfree buffer.ptr)
                | .ok () =>
                    let edited := runEdit acts buffer taken
                    (outcome, edited.2.writeback (s.aliases slot) edited.1)

/-! ## The script VM -/

/-- The allocations a script makes, in the order of their numbers. -/
def allocFresh : Nat → State → State
  | 0, s => s
  | n + 1, s => allocFresh n (s.tpalloc s.slots.ctx).2

/-- What a slot of the script points to, as an address. -/
def resolve (script : VmScript) (s : State) : VmPtr → Ptr
  | .null => 0
  | .slot i => s.slots.pointers i
  | .fresh k => if k < script.fresh then s.nextPtr + k else 0

/-- The allocations that were in a slot or made by the script. -/
def candidates (script : VmScript) (s : State) : List Ptr :=
  slotPtrs s.slots.pointers ++ (List.range script.fresh).map (s.nextPtr + ·)

/-- The script's own work: it rewrites the slots and frees each allocation it drops. -/
def runVm (script : VmScript) (s : State) : State :=
  let pointers := fun i => s.resolve script (script.pointers i)
  let dropped := (s.candidates script).filter fun p => ∀ i ∈ TpScrSlot.all, pointers i ≠ p
  let s := s.allocFresh script.fresh
  dropped.foldl (fun s p => s.tpfree p)
    { s with slots := { s.slots with pointers, lengths := script.lengths } }

/-- `execute_value`; every flags value is a `c_long` here. -/
def executeValue (ctx : CtxId) (name : String) (script : VmScript) (s : State) :
    TpScrResult Unit × State :=
  if ctx ≠ s.slots.ctx then
    (.error (.invalid "script buffers belong to a different context"), s)
  else if Char.ofNat 0 ∈ name.toList then (.error (.invalid "script name contains NUL"), s)
  else (script.result, (s.runVm script).syncNative)

/-! ## The end of a collection -/

/-- `Drop for TpScrBuffers`. -/
def dropSlots (s : State) : State :=
  if s.slots.owned = false then { s with alive := false }
  else
    let pointers := s.slots.pointers
    let s := syncNative { s with slots := { s.slots with pointers := fun _ => 0, lengths := fun _ => 0 } }
    (slotPtrs pointers).foldl (fun s p => s.tpfree p) { s with alive := false }

/-! ## Callbacks -/

/-- `TpScrBuffers::callback`: slots with one native pointer slot are linked to the first. -/
def callback (ctx : CtxId) (native : NativeSlots) (ptrAt : Addr → Ptr) (lenAt : Addr → Int) :
    TpScrResult TpScrBuffers :=
  if ∃ i ∈ TpScrSlot.all, ¬ (native.pointers i = 0 ↔ native.lengths i = 0) then
    .error (.invalid "callback pointer and length slots must be paired")
  else
    .ok
      { ctx
        pointers := fun i => if native.pointers i = 0 then 0 else ptrAt (native.pointers i)
        lengths := fun i => if native.pointers i = 0 then 0 else lenAt (native.lengths i)
        links := fun i =>
          if native.pointers i = 0 then i.index
          else ((i.before.find? fun j => native.pointers j = native.pointers i).getD i).index
        enabled := fun i => native.pointers i ≠ 0
        nativeSlots := some native }

def conflictingAliases : TpScrError :=
  .invalid "callback returned conflicting aliases for one native slot"

/-- The checks of `return_to_native`, slot by slot. -/
def returnCheck (native : NativeSlots) (slots : TpScrBuffers) : List TpScrSlot → TpScrResult Unit
  | [] => .ok ()
  | i :: rest =>
      if native.pointers i = 0 ∧ slots.pointers i ≠ 0 then
        .error (.invalid "callback returned an unavailable buffer slot")
      else if ∃ j ∈ i.before, native.pointers i ≠ 0 ∧ native.pointers i = native.pointers j ∧
          (slots.pointers i ≠ slots.pointers j ∨ slots.lengths i ≠ slots.lengths j) then
        .error conflictingAliases
      else returnCheck native slots rest

def returnToNative (ctx : CtxId) (native : NativeSlots) (s : State) : TpScrResult Unit × State :=
  if ctx ≠ s.slots.ctx then
    (.error (.invalid "callback returned buffers from another context"), s)
  else
    match returnCheck native s.slots TpScrSlot.all with
    | .error e => (.error e, s)
    | .ok () =>
        let s := TpScrSlot.all.foldl (writeNative native) s
        (.ok (), { s with slots := { s.slots with owned := false } })

end State

/-! ## The machine -/

/-- What a program does with one collection and its own buffers. -/
inductive Label
  | tpalloc (id : BufId) (ctx : CtxId) (len : Nat)
  | drop (id : BufId)
  | set (slot : TpScrSlot) (id : Option BufId)
  | aliasSlot (destination source : TpScrSlot)
  | get (slot : TpScrSlot) (answer : Answer)
  | take (slot : TpScrSlot) (answer : Answer) (id : BufId)
  | edit (slot : TpScrSlot) (answer : Answer) (acts : List EditAct) (outcome : Outcome)
  | editUbf (slot : TpScrSlot) (answer : UbfAnswer) (acts : List EditAct) (outcome : Outcome)
  | tpscrexec (ctx : CtxId) (name : String) (script : VmScript)
  | dropSlots

namespace State

/-- `take` into a new variable. -/
def takeInto (slot : TpScrSlot) (answer : Answer) (id : BufId) (s : State) : State :=
  if (s.bufs.get id).isSome then s
  else
    match s.take slot answer with
    | (.ok (some buffer), s) => { s with bufs := s.bufs.set id buffer }
    | (_, s) => s

/-- `set` from a variable, which is moved. -/
def setFrom (slot : TpScrSlot) (id : Option BufId) (s : State) : State :=
  match id with
  | none => (s.set slot none).2
  | some id =>
      match s.bufs.get id with
      | some buffer => (set slot (some buffer) { s with bufs := s.bufs.del id }).2
      | none => s

def stepSlots (s : State) : Label → State
  | .tpalloc id ctx len => s.allocBuf id ctx len
  | .drop id => s.dropBuf id
  | .set slot id => s.setFrom slot id
  | .aliasSlot destination source => (s.aliasSlot destination source).2
  | .get _ _ => s
  | .take slot answer id => s.takeInto slot answer id
  | .edit slot answer acts outcome => (s.edit slot answer acts outcome).2
  | .editUbf slot answer acts outcome => (s.editUbf slot answer acts outcome).2
  | .tpscrexec ctx name script => (s.executeValue ctx name script).2
  | .dropSlots => s.dropSlots

/-- A dropped collection is gone; the program's own buffers are not. -/
def step (s : State) (label : Label) : State :=
  if s.alive then s.stepSlots label
  else
    match label with
    | .tpalloc id ctx len => s.allocBuf id ctx len
    | .drop id => s.dropBuf id
    | _ => s

end State

/-- Every run of a program on a collection as it stands in `start`. -/
def machine (start : State) : Machine State Label where
  init := start
  step := State.step

end Endurox.Script
