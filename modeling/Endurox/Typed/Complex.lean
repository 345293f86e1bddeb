/-
# Typed.Complex -- UBF fields that own buffers

The part of `typed_ubf.rs` and `ubf_complex.rs` that moves owned buffers into and
out of `BFLD_PTR` and `BFLD_UBF` occurrences.  A function that takes a value drops
it on every way out that does not give it away; the drops Rust inserts are written
out (`orDrop`).  A freed pointer takes along what it points to, as native code does.
-/
import Endurox.Typed.Buffers
import Endurox.Typed.Fields

namespace Endurox.Typed

open Endurox.Theory

set_option autoImplicit false

/-! ## Native calls -/

/-- Native calls that may fail and change nothing, one answer for a run of them. -/
def call : UbfM Unit := do
  match ← nextCall with
  | some e => throw e
  | none => pure ()

def allocationError (e : AtmiError) : UbfError := ⟨.BMALLOC, e.message⟩

/-- An XATMI call, its error turned into a UBF one. -/
def allocating {α : Type} (m : AtmiM α) : UbfM α := do
  match ← m.run with
  | .ok a => pure a
  | .error e => throw (allocationError e)

/-- Run `m`, which owns `id`; on an error the value is dropped. -/
def orDrop {α : Type} (id : BufId) (m : UbfM α) : UbfM α := do
  match ← outcomeOf m with
  | .ok a => pure a
  | .error e => do
      modify (State.drop id)
      throw e

/-! ## Type checks -/

def fieldTypeName : UbfFieldType → String
  | .Short => "Short"
  | .Long => "Long"
  | .Char => "Char"
  | .Float => "Float"
  | .Double => "Double"
  | .String => "String"
  | .Carray => "Carray"
  | .Ptr => "Ptr"
  | .Ubf => "Ubf"
  | .View => "View"

def requireFieldType (f : BFLDID) (want : UbfFieldType) (what : String) : UbfM Unit := do
  call
  throwIf (f.type ≠ want) ⟨.BTYPERR,
    s!"{what} requires a {fieldTypeName want} field; field id {f.id} is {fieldTypeName f.type}"⟩

def nullPointer : UbfError := ⟨.BNOTPRES, "BFLD_PTR field holds a NULL buffer pointer"⟩

/-- The native `BNOTPRES`. -/
def notPresent : UbfError := ⟨.BNOTPRES, ""⟩

def readPtrField (f : BFLDID) (occ : Nat) (fields : Fields) : UbfM Addr := do
  requireFieldType f .Ptr "BFLD_PTR access"
  call
  match bfind f occ fields with
  | some (.ptr target) => if target = 0 then throw nullPointer else pure target
  | _ => throw notPresent

/-! ## Who owns what a field points to -/

/-- Whether a question is about an occurrence that is to go, or asked in passing. -/
inductive Asked
  | displaced | scanned
  deriving DecidableEq, Repr

def Asked.next : Asked → StateM State (Option UbfError)
  | .displaced => nextDisplaced
  | .scanned => nextPresent

/-- `owned_field_roots` of a pointer; a failing `Bpres` reads as an absent occurrence. -/
def ptrRoots (asked : Asked) (target : Addr) : UbfM (List Addr) := do
  match ← asked.next with
  | some _ => pure []
  | none => do
      call
      pure (if target = 0 then [] else [target])

def embeddedDepth : UbfError := ⟨.BEINVAL, "embedded UBF nesting exceeds 128 levels"⟩

/-- `collect_roots`; `fuel` counts down from 129, as the depth counts up from 0. -/
def collectRoots (asked : Asked) : Nat → Fields → UbfM (List Addr)
  | 0, _ => throw embeddedDepth
  | fuel + 1, fields =>
      fields.foldlM (fun roots item => do
        call
        match item.2 with
        | .ptr target => do
            let more ← ptrRoots asked target
            pure (roots ++ more)
        | .ubf nested => do
            call
            let more ← collectRoots asked fuel nested
            pure (roots ++ more)
        | .plain .. => pure roots) []

/-- One round of `collect_roots`. -/
def addRoots (asked : Asked) (fuel : Nat) (roots : List Addr) (item : Int × FieldValue) :
    UbfM (List Addr) := do
  call
  match item.2 with
  | .ptr target => do
      let more ← ptrRoots asked target
      pure (roots ++ more)
  | .ubf nested => do
      call
      let more ← collectRoots asked fuel nested
      pure (roots ++ more)
  | .plain .. => pure roots

theorem collectRoots_succ (asked : Asked) (fuel : Nat) (fields : Fields) :
    collectRoots asked (fuel + 1) fields = fields.foldlM (addRoots asked fuel) [] := rfl

def ownedFieldRoots (asked : Asked) (f : BFLDID) (occ : Nat) (fields : Fields) : UbfM (List Addr) :=
  match bfind f occ fields with
  | none => pure []
  | some (.ptr target) => ptrRoots asked target
  | some (.ubf nested) => do
      match ← asked.next with
      | some _ => pure []
      | none => do
          call
          collectRoots asked 129 nested
  | some (.plain ..) => do
      match ← asked.next with
      | some _ => pure []
      | none => do
          call
          pure []

def sharedPointer : UbfError :=
  ⟨.BEINVAL, "shared/cyclic pointer graph: deep-clone before modifying owned targets"⟩

def ownershipDepth : UbfError := ⟨.BEINVAL, "UBF ownership nesting exceeds 128 levels"⟩

/-- `unique_targets`; `fuel` counts down from 128, as the depth counts up from 0. -/
def uniqueTargets : Nat → Fields → List Addr → UbfM (List Addr)
  | 0, _, _ => throw ownershipDepth
  | fuel + 1, fields, seen =>
      fields.foldlM (fun seen item => do
        call
        match item.2 with
        | .ptr target => do
            let roots ← ptrRoots .scanned target
            roots.foldlM (fun seen target => do
              throwIf (target ∈ seen) sharedPointer
              let info ← allocating (tptypes target)
              if info.typeName = "UBF" then do
                let s ← get
                uniqueTargets fuel (s.fieldsAt target) (target :: seen)
              else pure (target :: seen)) seen
        | .ubf nested => do
            call
            uniqueTargets fuel nested seen
        | .plain .. => pure seen) seen

namespace State

/-- The fields of the UBF a value owns. -/
def fieldsOf (id : BufId) (s : State) : Fields := s.fieldsAt (s.buffer id).ptr

/-- Rewrite them. -/
def changeFields (id : BufId) (change : Fields → Fields) (s : State) : State :=
  s.rewrite (s.buffer id).ptr fun allocation => { allocation with fields := change allocation.fields }

/-- `free_roots`: each root once. -/
def freeRoots (roots : List Addr) (s : State) : State :=
  (roots.eraseDups).foldl (fun s root => s.tpfree root) s

end State

def ensureOwnedTree (id : BufId) : UbfM Unit := do
  let s ← get
  let _ ← uniqueTargets 128 (s.fieldsOf id) [(s.buffer id).ptr]

/-- The roots of an occurrence that is to go; the tree must be one. -/
def displacedRoots (id : BufId) (f : BFLDID) (occ : Nat) : UbfM (List Addr) := do
  let s ← get
  let roots ← ownedFieldRoots .displaced f occ (s.fieldsOf id)
  runIf (roots ≠ []) (ensureOwnedTree id)
  pure roots

/-! ## Native writes -/

def growBuffer (id : BufId) : UbfM Unit := do
  call
  let s ← get
  let size := match s.typesOf (s.buffer id).ptr with
    | some info => info.size
    | none => 0
  allocating (tprealloc id (size * 2))

/-- A write tried again in a larger buffer while it does not fit.  Every try but the last takes
an answer, so the fuel lasts. -/
def untilFits {α : Type} (id : BufId) (realloc : Bool) (look : UbfM α) (store : α → UbfM Unit) :
    Nat → UbfM Unit
  | 0 => throw ⟨.BNOSPACE, ""⟩
  | fuel + 1 => do
      let found ← look
      match ← nextWrite with
      | none => store found
      | some e =>
          if e.code = .BNOSPACE ∧ realloc then do
            growBuffer id
            untilFits id realloc look store fuel
          else throw e

def writing {α : Type} (id : BufId) (realloc : Bool) (look : UbfM α) (store : α → UbfM Unit) :
    UbfM Unit := do
  let s ← get
  untilFits id realloc look store (s.answers.writes.length + 1)

def putNative (id : BufId) (f : BFLDID) (occ : Nat) (value : FieldValue) (realloc : Bool) : UbfM Unit :=
  writing id realloc (pure ()) fun _ => modify (State.changeFields id (bchg f occ value))

def bdelOwned (id : BufId) (f : BFLDID) (occ : Nat) : UbfM Unit := do
  let roots ← displacedRoots id f occ
  call
  let s ← get
  throwIf ((bfind f occ (s.fieldsOf id)).isNone) notPresent
  modify (State.changeFields id (bdel f occ))
  modify (State.freeRoots roots)

def putNullComplex (id : BufId) (f : BFLDID) (occ : Nat) (realloc : Bool) : UbfM Unit := do
  let roots ← displacedRoots id f occ
  call
  throwIf (f.type ≠ .Ptr ∧ f.type ≠ .View) ⟨.BTYPERR, "this field type has no NULL complex occurrence"⟩
  putNative id f occ (placeholder f.type) realloc
  modify (State.freeRoots roots)

/-! ## Embedding -/

def embedsPointers : UbfError :=
  ⟨.BEINVAL, "cannot inline-embed a UBF containing BFLD_PTR fields; store it behind a BFLD_PTR (ptr) " ++
    "mapping instead"⟩

/-- `Binit` of a buffer whose pointers were given away: it is emptied, or else never freed. -/
def clearShell (child : BufId) (previous : List Addr) : UbfM Unit := do
  match ← nextShell with
  | some e => throw e
  | none => do
      match ← nextShell with
      | none => modify (State.changeFields child fun _ => [])
      | some _ => do
          modify (State.forget child)
          modify (State.freeRoots previous)
          throw ⟨.BEINVAL, "failed to clear transferred UBF shell"⟩

def embedUbf (id : BufId) (f : BFLDID) (occ : Nat) (child : BufId) (realloc transferPointers : Bool) :
    UbfM Unit := orDrop child do
  requireFieldType f .Ubf "embedded UBF write"
  call
  let s ← get
  let ownsPointers := bhasptr (s.fieldsOf child)
  throwIf (ownsPointers ∧ transferPointers = false) embedsPointers
  let previous ← displacedRoots id f occ
  putNative id f occ (.ubf (s.fieldsOf child)) realloc
  runIf ownsPointers (clearShell child previous)
  modify (State.drop child)
  modify (State.freeRoots previous)

/-- `put_embedded_ubf`. -/
def putEmbeddedUbf (id : BufId) (f : BFLDID) (occ : Nat) (child : BufId) (realloc : Bool) : UbfM Unit :=
  embedUbf id f occ child realloc false

/-- `put_owned_ubf`. -/
def putOwnedUbf (id : BufId) (f : BFLDID) (occ : Nat) (child : BufId) (realloc : Bool) : UbfM Unit :=
  embedUbf id f occ child realloc true

end Endurox.Typed
