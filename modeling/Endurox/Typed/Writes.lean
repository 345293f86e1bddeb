/-
# Typed.Writes -- values written, pointers taken back, trees cloned

`write_value` and its fast-add variant, `bextract_ptr` and `deep_clone`.  A pointer
written changes hands only when the native write succeeds; the pointer it replaces
is freed then.  A clone copies every target of a UBF into an allocation of its own,
and frees the part it has made when it fails.
-/
import Endurox.Typed.Complex

namespace Endurox.Typed

open Endurox.Theory

set_option autoImplicit false

/-! ## Values -/

/-- `UbfValue`: a scalar as the native bytes it is written from, if it can be; or an owned
buffer. -/
inductive UbfValue
  | plain (prepared : Except UbfError (List UInt8))
  | ptr (child : BufId)
  | ubf (child : BufId)
  | view (child : BufId)

/-- Run `m`, which owns a value. -/
def owningValue (v : UbfValue) (m : UbfM Unit) : UbfM Unit :=
  match v with
  | .plain _ => m
  | .ptr child | .ubf child | .view child => orDrop child m

def checkPointerFieldWrite (f : BFLDID) (v : UbfValue) : UbfM Unit := do
  call
  let valueIsPtr := match v with
    | .ptr _ => true
    | _ => false
  throwIf (f.type = .Ptr ∧ valueIsPtr = false)
    ⟨.BTYPERR, s!"field id {f.id} is BFLD_PTR and only accepts an owned buffer; " ++
      "the parent frees whatever address is stored here"⟩
  throwIf (valueIsPtr ∧ f.type ≠ .Ptr)
    ⟨.BTYPERR, s!"field id {f.id} is not BFLD_PTR, so it cannot hold a buffer"⟩

/-- A native refusal to convert. -/
def noConversion : UbfError := ⟨.BTYPERR, ""⟩

/-- `CBchg` or `CBadd`; without an occurrence it appends. -/
def chgOrAdd (f : BFLDID) (occ : Option Nat) (value : FieldValue) (fields : Fields) : Fields :=
  match occ with
  | some occ => bchg f occ value fields
  | none => badd f value fields

def writePlain (id : BufId) (f : BFLDID) (occ : Option Nat) (prepared : Except UbfError (List UInt8))
    (realloc : Bool) : UbfM Unit := do
  let bytes ← MonadExcept.ofExcept prepared
  match plainValue f.type bytes with
  | none => throw noConversion
  | some value =>
      writing id realloc (pure ()) fun _ => modify (State.changeFields id (chgOrAdd f occ value))

/-- The pointer a write replaces; `read_ptr_field(..).ok()`. -/
def replacedPtr (id : BufId) (f : BFLDID) (occ : Option Nat) : UbfM (Option Addr) := do
  let s ← get
  match occ.bind fun occ => bfind f occ (s.fieldsOf id) with
  | some (.ptr target) =>
      if target = 0 then pure none
      else
        match ← nextDisplaced with
        | some _ => pure none
        | none => do
            ensureOwnedTree id
            pure (some target)
  | _ => pure none

/-- A pointer written: the one replaced is freed, and the value is the field's. -/
def storePtr (id : BufId) (f : BFLDID) (occ : Option Nat) (child : BufId) (replaced : Option Addr)
    (s : State) : State :=
  let s' := s.changeFields id (chgOrAdd f occ (.ptr (s.buffer child).ptr))
  (match replaced with
    | some previous => s'.tpfree previous
    | none => s').forget child

def writePtr (id : BufId) (f : BFLDID) (occ : Option Nat) (child : BufId) (realloc : Bool) : UbfM Unit :=
  writing id realloc (replacedPtr id f occ) fun replaced => modify (storePtr id f occ child replaced)

/-- What a VIEW occurrence copies. -/
def viewValue (id : BufId) (s : State) : FieldValue :=
  match s.heap.get (s.buffer id).ptr with
  | some allocation => .plain .View (by decide) (allocation.bytes.map fun byte => byte.getD 0)
  | none => .plain .View (by decide) []

def tooManyOccurrences : UbfError := ⟨.BEINVAL, "too many occurrences"⟩

/-- Where a complex value goes: to `occ`, or past the last. -/
def complexOcc (id : BufId) (f : BFLDID) (occ : Option Nat) : UbfM Nat :=
  match occ with
  | some occ => pure occ
  | none => do
      call
      let s ← get
      throwIf (2 ^ 31 ≤ boccur f (s.fieldsOf id)) tooManyOccurrences
      pure (boccur f (s.fieldsOf id))

/-- `write_value`: `bchg` at an occurrence, `badd` without one. -/
def writeValue (id : BufId) (f : BFLDID) (occ : Option Nat) (v : UbfValue) (realloc : Bool) : UbfM Unit :=
  owningValue v do
    checkPointerFieldWrite f v
    let there ← complexOcc id f occ
    match v with
    | .ubf child => putEmbeddedUbf id f there child realloc
    | .view child => do
        requireFieldType f .View "VIEW write"
        let s ← get
        putNative id f there (viewValue child s) realloc
        modify (State.drop child)
    | .plain prepared => writePlain id f occ prepared realloc
    | .ptr child => writePtr id f occ child realloc

def fastAddComplex : UbfError := ⟨.BEINVAL, "fast-add embedded UBF/VIEW fields is not supported"⟩

def writeValueFast (id : BufId) (f : BFLDID) (v : UbfValue) (realloc : Bool) : UbfM Unit :=
  owningValue v do
    checkPointerFieldWrite f v
    match v with
    | .ubf _ | .view _ => throw fastAddComplex
    | .plain prepared => writePlain id f none prepared realloc
    | .ptr child => writePtr id f none child realloc

/-! ## Taking a pointer back -/

def bextractPtr (id : BufId) (f : BFLDID) (occ : Nat) : UbfM BufId := do
  let s ← get
  let target ← readPtrField f occ (s.fieldsOf id)
  ensureOwnedTree id
  call
  modify (State.changeFields id (bdel f occ))
  modifyGet (State.own ⟨⟨target, 0⟩, .typed⟩)

/-! ## Cloning -/

def cloneDepth : UbfError := ⟨.BEINVAL, "cyclic or excessively deep UBF pointer graph"⟩

def shortView : UbfError := ⟨.BBADVIEW, "VIEW allocation is shorter than its layout"⟩

def shortClone : UbfError := ⟨.BNOSPACE, "cloned allocation is shorter than the source payload"⟩

/-- The native copy of `size` bytes from one allocation to another. -/
def copyMemory (source copy : Addr) (size : Nat) (s : State) : State :=
  match s.heap.get source with
  | some from_ => s.rewrite copy fun allocation =>
      { allocation with bytes := copied (from_.bytes.take size) allocation.bytes }
  | none => s

/-- What of an allocation is copied. -/
def cloneSize (info : TpTypeInfo) : UbfM Nat := do
  if info.typeName = "VIEW" then
    let s ← get
    MonadExcept.ofExcept (s.answers.viewSize info.subtype)
  else pure info.size

/-- The part of `clone_buffer` for what is not a UBF. -/
def clonePlain (source : Addr) (info : TpTypeInfo) : UbfM BufId := do
  let size ← cloneSize info
  throwIf (info.size < size) shortView
  let copy ← allocating (tpalloc info.typeName info.subtype size)
  orDrop copy do
    let s ← get
    let made ← allocating (tptypes (s.buffer copy).ptr)
    throwIf (made.size < size) shortClone
    modify (copyMemory source (s.buffer copy).ptr size)
  pure copy

/-- `clone_buffer`; `clone` is `clone_ubf` one level down. -/
def cloneBuffer (clone : List Addr → Fields → UbfM BufId) (path : List Addr) (source : Addr) :
    UbfM BufId := do
  let info ← allocating (tptypes source)
  if info.typeName = "UBF" then do
    let s ← get
    throwIf (source ∈ path) cloneDepth
    let copy ← clone (source :: path) (s.fieldsAt source)
    modify (State.setWrapper copy .typed)
    pure copy
  else clonePlain source info

/-- The loop of `clone_ubf`; `done` are the fields already copied. -/
def cloneFields (nested : Fields → UbfM BufId) (target : Addr → UbfM BufId) (copy : BufId) :
    Fields → Fields → UbfM Unit
  | _, [] => call
  | done, item :: rest => do
      call
      let f : BFLDID := ⟨item.1, item.2.type⟩
      match item.2 with
      | .ubf fields => do
          call
          let child ← nested fields
          putOwnedUbf copy f (boccur f done) child true
      | .ptr ptr => do
          match ← ptrRoots .scanned ptr with
          | [] => putNative copy f (boccur f done) (.ptr 0) true
          | root :: _ => do
              call
              let child ← target root
              writeValue copy f (some (boccur f done)) (.ptr child) true
      | value => do
          call
          putNative copy f (boccur f done) value true
      cloneFields nested target copy (done ++ [item]) rest

/-- `clone_ubf`; `fuel` counts down from 128, as the active path grows. -/
def cloneUbf : Nat → List Addr → Fields → UbfM BufId
  | 0, _, _ => throw cloneDepth
  | fuel + 1, path, fields => do
      call
      let s ← get
      let copy ← allocating (tpallocUbf (max s.answers.used 256))
      orDrop copy (cloneFields (cloneUbf fuel path) (cloneBuffer (cloneUbf fuel) path) copy [] fields)
      pure copy

def deepClone (id : BufId) : UbfM BufId := do
  let s ← get
  cloneUbf 128 [(s.buffer id).ptr] (s.fieldsOf id)

/-- `ubf_write_field` of a `UbfAdhoc`: a copy of it is embedded, with what it points to. -/
def writeAdhoc (id : BufId) (f : BFLDID) (occ : Nat) (src : BufId) (realloc : Bool) : UbfM Unit := do
  let copy ← deepClone src
  putOwnedUbf id f occ copy realloc

end Endurox.Typed
