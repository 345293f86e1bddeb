/-
# Typed.Copies -- fields copied between buffers, directly or through a dump

The copying calls of `atmictx_ubf.rs` and the writing and reading of a whole UBF,
binary (`bwrite`, `bread`) or as text (`bsprint`, `bextread`).  A dump holds the
pointers as addresses, and reading it installs them.
-/
import Endurox.Typed.Writes

namespace Endurox.Typed

open Endurox.Theory

set_option autoImplicit false

/-! ## Copies -/

inductive Copying
  | bcpy | bconcat | bjoin | bojoin | bupdate
  | bprojcpy (fldlist : List Int)

def Copying.name : Copying → String
  | .bcpy => "Bcpy"
  | .bconcat => "Bconcat"
  | .bjoin => "Bjoin"
  | .bojoin => "Bojoin"
  | .bupdate => "Bupdate"
  | .bprojcpy _ => "Bprojcpy"

/-- The field an occurrence belongs to. -/
def fieldOf (item : Int × FieldValue) : BFLDID := ⟨item.1, item.2.type⟩

/-- Occurrences that `src` has too take its values; the others stay if `keeps`.  `done` are
those already passed. -/
def joined (keeps : Bool) (src : Fields) : Fields → Fields → Fields
  | _, [] => []
  | done, item :: rest =>
      match bfind (fieldOf item) (boccur (fieldOf item) done) src with
      | some value => (item.1, value) :: joined keeps src (done ++ [item]) rest
      | none =>
          if keeps then item :: joined keeps src (done ++ [item]) rest
          else joined keeps src (done ++ [item]) rest

/-- Every occurrence of `src` written over that of `dst`, or added to it. -/
def updated : Fields → Fields → Fields → Fields
  | _, [], dst => dst
  | done, item :: rest, dst =>
      updated (done ++ [item]) rest (bchg (fieldOf item) (boccur (fieldOf item) done) item.2 dst)

/-- What a copy leaves in `dst`. -/
def Copying.result (dst src : Fields) : Copying → Fields
  | .bcpy => src
  | .bconcat => dst ++ src
  | .bjoin => joined false src [] dst
  | .bojoin => joined true src [] dst
  | .bupdate => updated [] src dst
  | .bprojcpy fldlist => src.filter fun item => fldlist.contains item.1

def rejectPointerCopy (src : BufId) (what : String) : UbfM Unit := do
  call
  let s ← get
  throwIf (bhasptr (s.fieldsOf src))
    ⟨.BEINVAL, s!"{what} on a buffer containing BFLD_PTR fields would copy the pointers without " ++
      "their targets, leaving both buffers owning the same allocations"⟩

def copyFields (copying : Copying) (dst src : BufId) : UbfM Unit := do
  rejectPointerCopy src copying.name
  call
  let s ← get
  modify (State.changeFields dst fun fields => copying.result fields (s.fieldsOf src))

/-! ## Dumps -/

/-- `bwrite` and `bsprint`. -/
def writeDump (id : BufId) : UbfM Unit := do
  call
  modify fun s => { s with dumps := s.dumps ++ [s.fieldsOf id] }

/-- `bread` of the `k`th dump: it takes the place of what was there. -/
def bread (id : BufId) (k : Nat) : UbfM Unit := do
  call
  let s ← get
  modify (State.changeFields id fun _ => s.dumps.getD k [])

/-- `bextread` of the `k`th dump: its occurrences are added.  A call that fails may have added
the first `part` of them. -/
def bextread (id : BufId) (k part : Nat) : UbfM Unit := do
  let s ← get
  match ← nextCall with
  | none => modify (State.changeFields id fun fields => fields ++ s.dumps.getD k [])
  | some e => do
      modify (State.changeFields id fun fields => fields ++ (s.dumps.getD k []).take part)
      throw e

end Endurox.Typed
