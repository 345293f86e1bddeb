/-
# Typed.Buffers -- `TypedBuffer`, and the calls that allocate, fill and replace one

`typed_buf.rs` operation by operation, with the allocating and receiving calls of
`atmictx.rs` and `atmictx_xatmi.rs` and the conversions of `typed_ubf.rs`.  A
native call that receives a message may leave the buffer it was given alone, write
into it, or free it and hand back another; which, with what contents, is an
argument of the call.
-/
import Endurox.Typed.Heap

namespace Endurox.Typed

open Endurox.Theory

set_option autoImplicit false

/-! ## Native calls -/

/-- A native `TPEINVAL`; its text is not the program's. -/
def notABuffer : AtmiError := ⟨.TPEINVAL, ""⟩

/-- `tptypes`, when its call ends in `failure` or not. -/
def tptypesOf (failure : Option AtmiError) (ptr : Addr) : AtmiM TpTypeInfo := do
  let s ← get
  match failure, s.typesOf ptr with
  | some e, _ => throw e
  | none, some info => pure info
  | none, none => throw notABuffer

def tptypes (ptr : Addr) : AtmiM TpTypeInfo := do
  let failure ← nextTypes
  tptypesOf failure ptr

namespace State

/-- Native `tprealloc`, of a live allocation: what it holds is kept as far as it fits. -/
def reallocate (ptr : Addr) (size : Nat) (moves : Bool) (s : State) : Option Addr × State :=
  match s.heap.get ptr with
  | some allocation =>
      if allocation.live then
        if moves then
          let moved := (s.bury ptr).2.allocate (allocation.resize size)
          (some moved.1, moved.2)
        else (some ptr, { s with heap := s.heap.set ptr (allocation.resize size) })
      else (none, s)
  | none => (none, s)

end State

theorem State.reallocate_none {s : State} {ptr : Addr} {size : Nat} {moves : Bool}
    (failed : (s.reallocate ptr size moves).1 = none) : (s.reallocate ptr size moves).2 = s := by
  unfold State.reallocate at failed ⊢
  split
  · rename_i a found
    simp only [found] at failed
    split
    · rename_i live
      cases moves <;> simp [live] at failed
    · rfl
  · rfl

def containsNul (text : String) : Bool := text.toList.any fun c => c.toNat == 0

/-- `c_long::MAX`. -/
def longMax : Nat := 2 ^ 63 - 1

def sizeError (size : Nat) : AtmiError :=
  ⟨.TPEINVAL, s!"size {size} exceeds the largest XATMI buffer length"⟩

/-! ## Bytes of a CARRAY -/

def requireCarray (op : String) (id : BufId) : AtmiM TpTypeInfo := do
  let s ← get
  let info ← tptypes (s.buffer id).ptr
  throwIf (info.typeName ≠ "CARRAY")
    ⟨.TPEINVAL, s!"{op} is only valid on a CARRAY buffer, this one is {info.typeName}"⟩
  pure info

def setLen (id : BufId) (len : Nat) : AtmiM Unit := do
  let info ← requireCarray "set_len" id
  throwIf (info.size < len) ⟨.TPEINVAL, s!"length {len} exceeds the {info.size} byte buffer allocation"⟩
  modify fun s => s.setBuffer id { s.buffer id with len }

/-- `capacity`. -/
def capacity (ptr : Addr) : StateM State Nat := do
  match ← (tptypes ptr).run with
  | .ok info => pure info.size
  | .error _ => pure 0

def asBytes (id : BufId) : StateM State (List Byte) := do
  let s ← get
  let size ← capacity (s.buffer id).ptr
  pure (match s.heap.get (s.buffer id).ptr with
    | some allocation => allocation.bytes.take (min (s.buffer id).len size)
    | none => [])

/-- `as_bytes_mut`, and what the program writes through the slice. -/
def asBytesMut (id : BufId) (write : Nat → Option UInt8) : AtmiM Unit := do
  let s ← get
  let info ← requireCarray "as_bytes_mut" id
  let len := min (s.buffer id).len info.size
  modify fun s => s.rewrite (s.buffer id).ptr fun allocation =>
    { allocation with
      bytes := allocation.bytes.mapIdx fun i byte => if i < len then (write i <|> byte) else byte }

/-- A VIEW stays as large as its layout, if that and the buffer's type are known. -/
def refuseShrink (newSize : Nat) (viewSize : String → Except UbfError Nat) :
    Except AtmiError TpTypeInfo → AtmiM Unit
  | .ok info =>
      match viewSize info.subtype with
      | .ok required =>
          throwIf (info.typeName = "VIEW" ∧ newSize < required) ⟨.TPEINVAL,
            s!"cannot shrink view {info.subtype} to {newSize} bytes, its layout needs {required}"⟩
      | .error _ => pure ()
  | .error _ => pure ()

/-- Growth exposes bytes nobody has written; they are cleared, if both types are known. -/
def clearGrowth (ptr : Addr) : Except AtmiError TpTypeInfo → Except AtmiError TpTypeInfo → AtmiM Unit
  | .ok info, .ok grown =>
      runIf (info.typeName = "CARRAY" ∧ info.size < grown.size)
        (modify fun s => s.rewrite ptr fun allocation =>
          { allocation with bytes := cleared info.size allocation.bytes })
  | _, _ => pure ()

def tprealloc (id : BufId) (newSize : Nat) : AtmiM Unit := do
  let s ← get
  let ptr := (s.buffer id).ptr
  let answer ← nextRealloc
  let before ← outcomeOf (tptypesOf answer.before ptr)
  throwIf (longMax < newSize) (sizeError newSize)
  refuseShrink newSize s.answers.viewSize before
  match answer.result with
  | .error e => throw e
  | .ok (more, moves) => do
      match ← (modifyGet (State.reallocate ptr (newSize + more) moves) : AtmiM (Option Addr)) with
      | none => throw notABuffer
      | some ptr => do
          let grown ← outcomeOf (tptypesOf answer.after ptr)
          clearGrowth ptr before grown
          modify fun s => s.setBuffer id ⟨ptr, min (s.buffer id).len newSize⟩

/-- `copy_nonoverlapping` of a program's bytes to the start of an allocation. -/
def copyIn (id : BufId) (bytes : List UInt8) : StateM State Unit :=
  modify fun s => s.rewrite (s.buffer id).ptr fun allocation =>
    { allocation with bytes := copied (bytes.map some) allocation.bytes }

def setBytes (id : BufId) (bytes : List UInt8) : AtmiM Unit := do
  let info ← requireCarray "set_bytes" id
  runIf (info.size < bytes.length) (tprealloc id bytes.length)
  copyIn id bytes
  modify fun s => s.setBuffer id { s.buffer id with len := bytes.length }

/-! ## Allocation -/

/-- Native `tpalloc`. -/
def allocNative (type_ subtype : String) (size : Nat) (answer : AllocAnswer) : AtmiM Addr :=
  match answer.result with
  | .error e => throw e
  | .ok more =>
      modifyGet (State.allocate
        { typeName := bufferType type_, subtype, bytes := List.replicate (size + more) none })

/-- A new CARRAY is cleared, if its type is known. -/
def clearAll (ptr : Addr) : Except AtmiError TpTypeInfo → AtmiM Unit
  | .ok info =>
      runIf (info.typeName = "CARRAY" ∧ 0 < info.size)
        (modify fun s => s.rewrite ptr fun allocation =>
          { allocation with bytes := cleared 0 allocation.bytes })
  | .error _ => pure ()

def tpalloc (type_ subtype : String) (size : Nat) : AtmiM BufId := do
  throwIf (containsNul type_) ⟨.TPEINVAL, "type_ contains NUL byte"⟩
  throwIf (containsNul subtype) ⟨.TPEINVAL, "subtype contains NUL byte"⟩
  throwIf (longMax < size) (sizeError size)
  let answer ← nextAlloc
  let ptr ← allocNative type_ subtype size answer
  let types ← outcomeOf (tptypesOf answer.types ptr)
  clearAll ptr types
  modifyGet (State.own ⟨⟨ptr, 0⟩, .typed⟩)

def tpallocCarray (bytes : List UInt8) : AtmiM BufId := do
  let id ← tpalloc "CARRAY" "" (max bytes.length 1)
  copyIn id bytes
  modify fun s => s.setBuffer id { s.buffer id with len := bytes.length }
  pure id

def tpallocUbf (size : Nat) : AtmiM BufId := do
  throwIf (longMax < size) (sizeError size)
  let answer ← nextAlloc
  let ptr ← allocNative "UBF" "" size answer
  modifyGet (State.own ⟨⟨ptr, 0⟩, .ubf⟩)

/-! ## Receiving -/

/-- One allocation of a message: what was received into it, and how much more there is of it. -/
structure Part where
  typeName : String
  subtype : String := ""
  payload : List UInt8 := []
  spare : Nat := 0
  fields : Fields := []

/-- A received buffer, and the buffers its pointers name: `k` is the `k`th of them, in order. -/
structure Message where
  root : Part
  parts : List Part := []

/-- A native receive writes what it reports and no more. -/
def Part.allocation (base : Addr) (part : Part) : Allocation where
  typeName := bufferType part.typeName
  subtype := part.subtype
  bytes := part.payload.map some ++ List.replicate part.spare none
  fields := relocateIn base part.fields

/-- What a native receive does with the buffer it is given. -/
inductive Install
  /-- It is left alone, whatever length is reported. -/
  | untouched (olen : Int)
  /-- A message of its own type is written into it, growing it when it is too short. -/
  | inPlace (message : Message) (moves : Bool)
  /-- It is freed and another takes its place. -/
  | replaced (message : Message)
  /-- It is freed; the message carried none. -/
  | null

/-- The length reported. -/
def Install.olen : Install → Int
  | .untouched olen => olen
  | .inPlace message _ => message.root.payload.length
  | .replaced message => message.root.payload.length
  | .null => 0

namespace State

/-- The buffers a message's pointers name. -/
def allocateParts (base : Addr) (parts : List Part) (s : State) : State :=
  parts.foldl (fun s part => (s.allocate (part.allocation base)).2) s

/-- A message in allocations of its own; its pointers count from the address of the first. -/
def allocateMessage (message : Message) (s : State) : Addr × State :=
  let (ptr, s') := s.allocate (message.root.allocation s.next)
  (ptr, s'.allocateParts s.next message.parts)

/-- A message written into an allocation, over what was there. -/
def overwrite (ptr : Addr) (message : Message) (s : State) : State :=
  let s' := s.rewrite ptr fun allocation =>
    { allocation with
      bytes := copied (message.root.payload.map some)
        (allocation.bytes ++ List.replicate
          (message.root.payload.length + message.root.spare - allocation.bytes.length) none)
      fields := relocateIn (s.next - 1) message.root.fields }
  s'.allocateParts (s.next - 1) message.parts

def install (ptr : Addr) (s : State) : Install → Addr × State
  | .untouched _ => (ptr, s)
  | .inPlace message moves =>
      match s.typesOf ptr with
      | some info =>
          let moved := s.reallocate ptr info.size moves
          (moved.1.getD ptr, moved.2.overwrite (moved.1.getD ptr) message)
      | none => (ptr, s)
  | .replaced message => (s.tpfree ptr).allocateMessage message
  | .null => (0, s.tpfree ptr)

end State

/-- How a native receiving call ends; `lastError` is what `atmi_last_error` reports then. -/
structure Reply where
  ok : Bool
  install : Install
  lastError : AtmiError := notABuffer

/-- The pointer and the length are adopted, whatever the call returned. -/
def adopt (id : BufId) (install : Install) : StateM State Unit :=
  modify fun s =>
    let (ptr, s') := s.install (s.buffer id).ptr install
    s'.setBuffer id ⟨ptr, (max install.olen 0).toNat⟩

def tpcall (svc : String) (odata : BufId) (reply : Reply) : AtmiM Unit := do
  throwIf (containsNul svc) reply.lastError
  adopt odata reply.install
  throwIf (reply.ok = false) reply.lastError

/-- `tpgetrply`; the descriptor is the one the reply names. -/
def tpgetrply (data : BufId) (cd : Int) (reply : Reply) : StateM State (Int × Except AtmiError Unit) := do
  adopt data reply.install
  pure (cd, if reply.ok then .ok () else .error reply.lastError)

/-- `tpimport`, `tpdequeue`: a message received into a new buffer. -/
def tpimport (received : Except AtmiError Message) : AtmiM BufId :=
  match received with
  | .error e => throw e
  | .ok message =>
      modifyGet fun s =>
        let (ptr, s') := s.allocateMessage message
        s'.own ⟨⟨ptr, message.root.payload.length⟩, .typed⟩

/-! ## Typed wrapping -/

namespace State

def setWrapper (id : BufId) (wrapper : Wrapper) (s : State) : State :=
  match s.bufs.get id with
  | some place => { s with bufs := s.bufs.set id { place with wrapper } }
  | none => s

end State

def fromTyped (id : BufId) : UbfM Unit := do
  let s ← get
  match ← (tptypes (s.buffer id).ptr).run with
  | .ok info =>
      if info.typeName = "UBF" then modify (State.setWrapper id .ubf)
      else
        modify (State.drop id)
        throw ⟨.BTYPERR, s!"cannot view a {info.typeName} buffer as UBF; every UBF operation would " ++
          "address it through a header it does not have"⟩
  | .error err =>
      modify (State.drop id)
      throw ⟨.BTYPERR, s!"buffer is not a live ATMI allocation: {err.display}"⟩

def intoInner (id : BufId) : StateM State Unit := modify (State.setWrapper id .typed)

/-- The beginning of an `edit_ubf`: its closure is given a `TypedUbf` or is not run. -/
def editUbf (id : BufId) : StateM State Unit := do
  let s ← get
  match ← (tptypes (s.buffer id).ptr).run with
  | .ok info =>
      if info.typeName = "UBF" then
        let _ ← (fromTyped id).run
  | .error _ => pure ()

/-- `*dst = src`, both borrowed as `TypedBuffer`s. -/
def assign (dst src : BufId) : StateM State Unit :=
  modify fun s =>
    let value := s.buffer src
    ((s.forget src).tpfree (s.buffer dst).ptr).setBuffer dst value

/-- `mem::swap` of two buffers. -/
def swapBuffers (a b : BufId) : StateM State Unit :=
  modify fun s => (s.setBuffer a (s.buffer b)).setBuffer b (s.buffer a)

end Endurox.Typed
