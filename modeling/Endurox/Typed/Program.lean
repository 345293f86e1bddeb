/-
# Typed.Program -- any safe program over typed buffers

One operation after another, each on whatever values the program has, with whatever
the native layer answers.  What Rust refuses to compile is no step: an operation
needs its values, a UBF operation a `TypedUbf`, a value given away is another than
the one it goes into.
-/
import Endurox.Typed.Copies

namespace Endurox.Typed

open Endurox.Theory

set_option autoImplicit false

inductive Op
  | tpalloc (type_ subtype : String) (size : Nat)
  | tpallocCarray (bytes : List UInt8)
  | tpallocUbf (size : Nat)
  | tpimport (received : Except AtmiError Message)
  | tprealloc (id : BufId) (newSize : Nat)
  | setLen (id : BufId) (len : Nat)
  | setBytes (id : BufId) (bytes : List UInt8)
  | asBytesMut (id : BufId) (write : Nat → Option UInt8)
  | tpcall (svc : String) (odata : BufId) (reply : Reply)
  | tpgetrply (data : BufId) (cd : Int) (reply : Reply)
  | fromTyped (id : BufId)
  | intoInner (id : BufId)
  | editUbf (id : BufId)
  | assign (dst src : BufId)
  | swap (a b : BufId)
  | drop (id : BufId)
  | bchg (id : BufId) (f : BFLDID) (occ : Nat) (v : UbfValue) (realloc : Bool)
  | badd (id : BufId) (f : BFLDID) (v : UbfValue) (realloc : Bool)
  | fastAdd (id : BufId) (f : BFLDID) (v : UbfValue) (realloc : Bool)
  | bextractPtr (id : BufId) (f : BFLDID) (occ : Nat)
  | bdelOwned (id : BufId) (f : BFLDID) (occ : Nat)
  | putNullComplex (id : BufId) (f : BFLDID) (occ : Nat) (realloc : Bool)
  | deepClone (id : BufId)
  | writeAdhoc (id : BufId) (f : BFLDID) (occ : Nat) (src : BufId) (realloc : Bool)
  | copyFields (copying : Copying) (dst src : BufId)
  | writeDump (id : BufId)
  | bread (id : BufId) (k : Nat)
  | bextread (id : BufId) (k part : Nat)

/-- An operation, and what the native layer answers in it. -/
structure Label where
  op : Op
  answers : Answers := {}

namespace State

/-- The value exists. -/
def has (id : BufId) (s : State) : Bool := (s.bufs.get id).isSome

/-- The value exists and is a `TypedUbf`. -/
def hasUbf (id : BufId) (s : State) : Bool :=
  match s.bufs.get id with
  | some place => place.wrapper = .ubf
  | none => false

/-- A value written into `id` is another than `id`. -/
def hasValue (id : BufId) (v : UbfValue) (s : State) : Bool :=
  match v with
  | .plain _ => true
  | .ptr child | .view child => child ≠ id && s.has child
  | .ubf child => child ≠ id && s.hasUbf child

/-- Rust accepts the operation. -/
def accepts (s : State) : Op → Bool
  | .tpalloc .. | .tpallocCarray _ | .tpallocUbf _ | .tpimport _ => true
  | .tprealloc id _ | .setLen id _ | .setBytes id _ | .asBytesMut id _ => s.has id
  | .tpcall _ id _ | .tpgetrply id _ _ | .fromTyped id | .editUbf id | .drop id => s.has id
  | .intoInner id => s.hasUbf id
  | .assign a b | .swap a b => a ≠ b && s.has a && s.has b
  | .bchg id _ _ v _ | .badd id _ v _ | .fastAdd id _ v _ => s.hasUbf id && s.hasValue id v
  | .bextractPtr id _ _ | .bdelOwned id _ _ | .putNullComplex id _ _ _ | .deepClone id => s.hasUbf id
  | .writeAdhoc dst _ _ src _ | .copyFields _ dst src => dst ≠ src && s.hasUbf dst && s.hasUbf src
  | .writeDump id | .bread id _ | .bextread id _ _ => s.hasUbf id

/-- An operation that may fail, its result dropped. -/
def after {ε α : Type} (m : Fallible ε State α) (s : State) : State := (m.run.run s).2

def run (s : State) : Op → State
  | .tpalloc type_ subtype size => s.after (Typed.tpalloc type_ subtype size)
  | .tpallocCarray bytes => s.after (Typed.tpallocCarray bytes)
  | .tpallocUbf size => s.after (Typed.tpallocUbf size)
  | .tpimport received => s.after (Typed.tpimport received)
  | .tprealloc id newSize => s.after (Typed.tprealloc id newSize)
  | .setLen id len => s.after (Typed.setLen id len)
  | .setBytes id bytes => s.after (Typed.setBytes id bytes)
  | .asBytesMut id write => s.after (Typed.asBytesMut id write)
  | .tpcall svc odata reply => s.after (Typed.tpcall svc odata reply)
  | .tpgetrply data cd reply => ((Typed.tpgetrply data cd reply).run s).2
  | .fromTyped id => s.after (Typed.fromTyped id)
  | .intoInner id => ((Typed.intoInner id).run s).2
  | .editUbf id => ((Typed.editUbf id).run s).2
  | .assign dst src => ((Typed.assign dst src).run s).2
  | .swap a b => ((Typed.swapBuffers a b).run s).2
  | .drop id => s.drop id
  | .bchg id f occ v realloc => s.after (writeValue id f (some occ) v realloc)
  | .badd id f v realloc => s.after (writeValue id f none v realloc)
  | .fastAdd id f v realloc => s.after (writeValueFast id f v realloc)
  | .bextractPtr id f occ => s.after (Typed.bextractPtr id f occ)
  | .bdelOwned id f occ => s.after (Typed.bdelOwned id f occ)
  | .putNullComplex id f occ realloc => s.after (Typed.putNullComplex id f occ realloc)
  | .deepClone id => s.after (Typed.deepClone id)
  | .writeAdhoc id f occ src realloc => s.after (Typed.writeAdhoc id f occ src realloc)
  | .copyFields copying dst src => s.after (Typed.copyFields copying dst src)
  | .writeDump id => s.after (Typed.writeDump id)
  | .bread id k => s.after (Typed.bread id k)
  | .bextread id k part => s.after (Typed.bextread id k part)

def step (s : State) (label : Label) : State :=
  if s.accepts label.op then run { s with answers := label.answers } label.op else s

end State

def program : Machine State Label where
  init := {}
  step := State.step

end Endurox.Typed
