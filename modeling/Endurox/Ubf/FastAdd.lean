/-
# Ubf.FastAdd -- a `FastAdder` adds as `badd` does

The native fast add is handed a cursor: a position inside the allocation it last wrote
to.  Growth moves the allocation and leaves the cursor behind, so `write_value_fast`
records which address its cursor is for and restarts it when that is not the buffer's,
and after every growth.  The address alone does not tell: an allocator may hand out the
old one again.

What native code does is `Native`, and `Contract` what is relied on: with a zeroed
cursor, or one valid for the allocation it is used on, the fast add is `Badd` and leaves
a valid cursor.  `Placed` is the invariant of an adder: its cursor is one of these
whenever it claims the buffer's address.
-/
import Endurox.Typed.Heap
import Mathlib.Data.List.TakeWhile

namespace Endurox.Ubf.FastAdd

open Endurox.Typed (UbfFieldType UbfError UbfCode AtmiError Addr)

set_option autoImplicit false

/-! ## Values -/

/-- `UbfValue`, the scalars and the owned buffers; floating-point values by their bits. -/
inductive UbfValue
  | Short (value : Int)
  | Long (value : Int)
  | Char (value : Int)
  | Float (bits : UInt32)
  | Double (bits : UInt64)
  | String (text : String)
  | Carray (bytes : List UInt8)
  | Ptr (target : Addr)
  deriving DecidableEq, Repr

/-- What the native call is handed: the bytes its pointer points to, a length and a type. -/
structure Argument where
  pointee : List UInt8
  len : Int
  ftype : UbfFieldType
  deriving DecidableEq, Repr

/-- The memory of a machine integer, or of an address. -/
def memory (width : Nat) (value : Int) : List UInt8 :=
  (List.range width).map fun i => UInt8.ofNat ((value % 256 ^ width).toNat / 256 ^ i % 256)

def BEUNIX : UbfCode := .other 8

/-- `CString::new` of a text with a NUL. -/
def nulError (bytes : List UInt8) : UbfError :=
  ⟨BEUNIX, s!"nul byte found in provided data at position: {bytes.findIdx (· = 0)}"⟩

/-- The pointer, length and type of a value; `v.len() as BFLDLEN` is a cast to `int`. -/
def prepare : UbfValue → Except UbfError Argument
  | .Short value => .ok ⟨memory 2 value, 0, .Short⟩
  | .Long value =>
      if -2 ^ 63 ≤ value ∧ value < 2 ^ 63 then .ok ⟨memory 8 value, 0, .Long⟩
      else .error ⟨.BEINVAL, "value exceeds native long"⟩
  | .Char value => .ok ⟨memory 1 value, 0, .Char⟩
  | .Float bits => .ok ⟨memory 4 bits.toNat, 0, .Float⟩
  | .Double bits => .ok ⟨memory 8 bits.toNat, 0, .Double⟩
  | .String text =>
      let bytes := text.toUTF8.toList
      if 0 ∈ bytes then .error (nulError bytes) else .ok ⟨bytes ++ [0], 0, .String⟩
  | .Carray bytes =>
      .ok ⟨if bytes = [] then [0] else bytes, Int.bmod bytes.length (2 ^ 32), .Carray⟩
  | .Ptr target => .ok ⟨memory 8 target, 8, .Ptr⟩

def UbfValue.isPtr : UbfValue → Bool
  | .Ptr _ => true
  | _ => false

/-! ## Native code -/

/-- The native functions.  An `Image` is an allocation's memory, a `World` the allocator's. -/
structure Native where
  World : Type
  Image : Type
  Cursor : Type
  zeroed : Cursor
  bfldtype : Int → Except UbfError UbfFieldType
  boccur : Image → Int → Except UbfError Nat
  badd : Image → Int → Argument → Except UbfError Image
  baddfast : Addr → Image → Int → Argument → Cursor → Except UbfError Image × Cursor
  bsizeof : Image → Except UbfError Nat
  tprealloc : World → Addr → Image → Nat → World × Except AtmiError (Addr × Image)
  tpfree : World → Addr → World

/-- What is relied on of native code. -/
structure Native.Contract (native : Native) where
  /-- The cursor is positioned in this allocation. -/
  Valid : Addr → native.Image → native.Cursor → Prop
  fast : ∀ {addr image cursor}, cursor = native.zeroed ∨ Valid addr image cursor → ∀ f arg,
    (native.baddfast addr image f arg cursor).1 = native.badd image f arg
  /-- A fast add leaves its cursor positioned in what it leaves. -/
  valid : ∀ {addr image cursor}, cursor = native.zeroed ∨ Valid addr image cursor → ∀ f arg,
    match native.baddfast addr image f arg cursor with
    | (.ok image', cursor') => Valid addr image' cursor'
    | (.error _, cursor') => Valid addr image cursor'
  /-- `Boccur` returns an `int`. -/
  count : ∀ {image f n}, native.boccur image f = .ok n → n < 2 ^ 31
  /-- What `Boccur` refuses (a bad field or buffer) `Badd` refuses, and not for want of space. -/
  refused : ∀ {image f e}, native.boccur image f = .error e → ∀ arg,
    ∃ e', native.badd image f arg = .error e' ∧ e'.code ≠ .BNOSPACE

/-! ## The buffer -/

/-- A UBF buffer in its world. -/
structure State (native : Native) where
  world : native.World
  addr : Addr
  image : native.Image
  /-- The targets dropped with their value. -/
  freed : List Addr := []

/-- `BFldLocInfo`. -/
structure BFldLocInfo (native : Native) where
  inner : native.Cursor
  owner : Addr

namespace BFldLocInfo

variable {native : Native}

/-- `Default for BFldLocInfo`. -/
def default (native : Native) : BFldLocInfo native := ⟨native.zeroed, 0⟩

def rebase (buffer : Addr) : BFldLocInfo native := ⟨native.zeroed, buffer⟩

def belongsTo (buffer : Addr) (loc : BFldLocInfo native) : Bool := loc.owner ≠ 0 ∧ loc.owner = buffer

end BFldLocInfo

namespace State

variable {native : Native}

def checkPointerFieldWrite (native : Native) (f : Int) (v : UbfValue) : Except UbfError Unit := do
  let fieldIsPtr := (← native.bfldtype f) = .Ptr
  if fieldIsPtr ∧ v.isPtr = false then
    .error ⟨.BTYPERR, s!"field id {f} is BFLD_PTR and only accepts an owned buffer; " ++
      "the parent frees whatever address is stored here"⟩
  else if v.isPtr ∧ ¬ fieldIsPtr then
    .error ⟨.BTYPERR, s!"field id {f} is not BFLD_PTR, so it cannot hold a buffer"⟩
  else .ok ()

def growBuffer (s : State native) : Except UbfError Unit × State native :=
  match native.bsizeof s.image with
  | .error e => (.error e, s)
  | .ok size =>
      if 2 ^ 63 ≤ size * 2 then
        (.error ⟨.BMALLOC, s!"size {size * 2} exceeds the largest XATMI buffer length"⟩, s)
      else
        match native.tprealloc s.world s.addr s.image (size * 2) with
        | (world, .error e) => (.error ⟨.BMALLOC, e.message⟩, { s with world })
        | (world, .ok (addr, image)) => (.ok (), { s with world, addr, image })

/-- The value at the end of a write: the buffer's own when it was accepted, else dropped. -/
def settle (v : UbfValue) : Except UbfError Unit × State native → Except UbfError Unit × State native
  | (.ok (), s) => (.ok (), s)
  | (.error e, s) =>
      match v with
      | .Ptr target =>
          (.error e, { s with world := native.tpfree s.world target, freed := target :: s.freed })
      | _ => (.error e, s)

/-- The loop of `write_value` for an append; `fuel` bounds the growths. -/
def addLoop (f : Int) (v : UbfValue) (realloc : Bool) :
    Nat → State native → Option (Except UbfError Unit × State native)
  | fuel, s =>
      match prepare v with
      | .error e => some (.error e, s)
      | .ok arg =>
          match native.badd s.image f arg with
          | .ok image => some (.ok (), { s with image })
          | .error e =>
              if e.code = .BNOSPACE ∧ realloc then
                match s.growBuffer with
                | (.error e, s) => some (.error e, s)
                | (.ok (), s) =>
                    match fuel with
                    | 0 => none
                    | fuel + 1 => addLoop f v realloc fuel s
              else some (.error e, s)

def tooManyOccurrences : UbfError := ⟨.BEINVAL, "too many occurrences"⟩

/-- `write_value` for an append. -/
def writeValue (fuel : Nat) (f : Int) (v : UbfValue) (realloc : Bool) (s : State native) :
    Option (Except UbfError Unit × State native) :=
  match checkPointerFieldWrite native f v with
  | .error e => some (settle v (.error e, s))
  | .ok () =>
      match native.boccur s.image f with
      | .error e => some (settle v (.error e, s))
      | .ok n =>
          if 2 ^ 31 ≤ n then some (settle v (.error tooManyOccurrences, s))
          else (addLoop f v realloc fuel s).map (settle v)

/-- `badd`. -/
def badd (fuel : Nat) (f : Int) (v : UbfValue) (realloc : Bool) (s : State native) :
    Option (Except UbfError Unit × State native) :=
  writeValue fuel f v realloc s

/-! ## The fast path -/

/-- The cursor a write starts with, from `sync_fast_cursor`. -/
def syncFastCursor (loc : BFldLocInfo native) (s : State native) : BFldLocInfo native :=
  if loc.belongsTo s.addr then loc else .rebase s.addr

/-- What a fast write ends in, and the adder's cursor then. -/
abbrev FastResult (native : Native) := Except UbfError Unit × State native × BFldLocInfo native

/-- The loop of `write_value_fast`. -/
def fastLoop (f : Int) (v : UbfValue) (realloc : Bool) :
    Nat → State native → BFldLocInfo native → Option (FastResult native)
  | fuel, s, loc =>
      match prepare v with
      | .error e => some (.error e, s, loc)
      | .ok arg =>
          match native.baddfast s.addr s.image f arg loc.inner with
          | (.ok image, inner) => some (.ok (), { s with image }, { loc with inner })
          | (.error e, inner) =>
              if e.code = .BNOSPACE ∧ realloc then
                match s.growBuffer with
                | (.error e, s) => some (.error e, s, { loc with inner })
                | (.ok (), s) =>
                    match fuel with
                    | 0 => none
                    | fuel + 1 => fastLoop f v realloc fuel s (.rebase s.addr)
              else some (.error e, s, { loc with inner })

/-- The value at the end of a fast write. -/
def settleFast (v : UbfValue) : FastResult native → FastResult native
  | (result, s, loc) => ((settle v (result, s)).1, (settle v (result, s)).2, loc)

def writeValueFast (fuel : Nat) (f : Int) (v : UbfValue) (realloc : Bool) (s : State native)
    (loc : BFldLocInfo native) : Option (FastResult native) :=
  match checkPointerFieldWrite native f v with
  | .error e => some (settleFast v (.error e, s, loc))
  | .ok () => (fastLoop f v realloc fuel s (s.syncFastCursor loc)).map (settleFast v)

end State

/-! ## Sequences of additions -/

/-- One addition: the field, the value and whether the buffer may grow. -/
structure Addition where
  bfldid : Int
  value : UbfValue
  realloc : Bool

section Sequences

variable {native : Native}

/-- `badd` for each in order: whether each was accepted, and what they leave. -/
def addAll (fuel : Nat) : List Addition → State native → Option (List Bool × State native)
  | [], s => some ([], s)
  | a :: rest, s => do
      let (result, s) ← s.badd fuel a.bfldid a.value a.realloc
      let (accepted, s) ← addAll fuel rest s
      pure (result.isOk :: accepted, s)

/-- The additions through one `FastAdder`, whose cursor stands at `loc`. -/
def fastAddAll (fuel : Nat) : List Addition → State native → BFldLocInfo native →
    Option (List Bool × State native)
  | [], s, _ => some ([], s)
  | a :: rest, s, loc => do
      let (result, s, loc) ← s.writeValueFast fuel a.bfldid a.value a.realloc loc
      let (accepted, s) ← fastAddAll fuel rest s loc
      pure (result.isOk :: accepted, s)

/-- `fast_adder`, and the additions made through it. -/
def fastAdder (fuel : Nat) (additions : List Addition) (s : State native) :
    Option (List Bool × State native) :=
  fastAddAll fuel additions s (.default native)

end Sequences

/-! ## The cursor -/

namespace State

variable {native : Native} (contract : native.Contract)

/-- A native fast add may be handed this cursor. -/
def Usable (s : State native) (loc : BFldLocInfo native) : Prop :=
  loc.inner = native.zeroed ∨ contract.Valid s.addr s.image loc.inner

/-- A cursor that claims the buffer's address is good for what is there. -/
def Placed (s : State native) (loc : BFldLocInfo native) : Prop :=
  loc.belongsTo s.addr = true → Usable contract s loc

theorem placed_default (s : State native) : Placed contract s (.default native) := by
  intro belongs
  simp [BFldLocInfo.belongsTo, BFldLocInfo.default] at belongs

/-- What a write starts with is good, whatever the allocator did. -/
theorem usable_sync {s : State native} {loc : BFldLocInfo native} (placed : Placed contract s loc) :
    Usable contract s (s.syncFastCursor loc) := by
  unfold syncFastCursor
  split
  · rename_i belongs
    exact placed belongs
  · exact .inl rfl

/-- A native fast add is a native add, and leaves a good cursor. -/
theorem baddfast_cases {s : State native} {loc : BFldLocInfo native} (usable : Usable contract s loc)
    (f : Int) (arg : Argument) :
    (∃ image inner, native.baddfast s.addr s.image f arg loc.inner = (.ok image, inner) ∧
      native.badd s.image f arg = .ok image ∧ contract.Valid s.addr image inner) ∨
    ∃ e inner, native.baddfast s.addr s.image f arg loc.inner = (.error e, inner) ∧
      native.badd s.image f arg = .error e ∧ contract.Valid s.addr s.image inner := by
  have fast := contract.fast usable f arg
  have valid := contract.valid usable f arg
  rcases added : native.baddfast s.addr s.image f arg loc.inner with ⟨e | image, inner⟩
  · rw [added] at fast valid
    exact .inr ⟨e, inner, rfl, fast.symm, valid⟩
  · rw [added] at fast valid
    exact .inl ⟨image, inner, rfl, fast.symm, valid⟩

/-- A growth that fails leaves the buffer where it is. -/
theorem growBuffer_error {s s' : State native} {e : UbfError} (failed : s.growBuffer = (.error e, s')) :
    s'.addr = s.addr ∧ s'.image = s.image := by
  unfold growBuffer at failed
  split at failed
  · cases failed
    exact ⟨rfl, rfl⟩
  · split at failed
    · cases failed
      exact ⟨rfl, rfl⟩
    · split at failed
      · cases failed
        exact ⟨rfl, rfl⟩
      · cases failed

/-! ## One addition -/

/-- The fast loop ends as the plain one does, with a good cursor. -/
def Agrees (fast : Option (FastResult native)) (plain : Option (Except UbfError Unit × State native)) :
    Prop :=
  match fast with
  | none => plain = none
  | some (result, s', loc') => plain = some (result, s') ∧ Usable contract s' loc'

/-- One try of the fast loop is one of the plain loop, and a growth restarts the cursor. -/
theorem fastLoop_round (f : Int) (v : UbfValue) (realloc : Bool) (fuel : Nat)
    (later : ∀ fuel', fuel = fuel' + 1 → ∀ {s : State native} {loc : BFldLocInfo native},
      Usable contract s loc →
        Agrees contract (fastLoop f v realloc fuel' s loc) (addLoop f v realloc fuel' s))
    {s : State native} {loc : BFldLocInfo native} (usable : Usable contract s loc) :
    Agrees contract (fastLoop f v realloc fuel s loc) (addLoop f v realloc fuel s) := by
  unfold fastLoop addLoop
  cases prepare v with
  | error e => exact ⟨rfl, usable⟩
  | ok arg =>
      simp only
      rcases baddfast_cases contract usable f arg with
        ⟨image, inner, fast, plain, valid⟩ | ⟨e, inner, fast, plain, valid⟩
      · rw [fast, plain]
        exact ⟨rfl, .inr valid⟩
      · rw [fast, plain]
        simp only
        split
        · rcases grown : s.growBuffer with ⟨e | _, s'⟩
          · obtain ⟨addr, image⟩ := growBuffer_error grown
            exact ⟨rfl, .inr (by rw [addr, image]; exact valid)⟩
          · cases fuel with
            | zero => rfl
            | succ fuel => exact later fuel rfl (.inl rfl)
        · exact ⟨rfl, .inr valid⟩

/-- **The loops agree**, however often the buffer grows. -/
theorem fastLoop_agrees (f : Int) (v : UbfValue) (realloc : Bool) (fuel : Nat) {s : State native}
    {loc : BFldLocInfo native} (usable : Usable contract s loc) :
    Agrees contract (fastLoop f v realloc fuel s loc) (addLoop f v realloc fuel s) := by
  induction fuel generalizing s loc with
  | zero => exact fastLoop_round contract f v realloc 0 nofun usable
  | succ fuel ih =>
      refine fastLoop_round contract f v realloc (fuel + 1) (fun fuel' same => ?_) usable
      cases same
      exact ih

include contract in
/-- What `Boccur` refuses, the loop refuses. -/
theorem addLoop_refused {s : State native} {f : Int} {e : UbfError}
    (refused : native.boccur s.image f = .error e) (v : UbfValue) (realloc : Bool) (fuel : Nat) :
    ∃ e', addLoop f v realloc fuel s = some (.error e', s) := by
  unfold addLoop
  cases prepare v with
  | error e' => exact ⟨e', rfl⟩
  | ok arg =>
      obtain ⟨e', failed, space⟩ := contract.refused refused arg
      exact ⟨e', by simp [failed, space]⟩

/-- Dropping a value leaves the buffer where it is. -/
theorem settle_frame (v : UbfValue) (result : Except UbfError Unit) (s : State native) :
    (settle v (result, s)).1 = result ∧ (settle v (result, s)).2.addr = s.addr ∧
      (settle v (result, s)).2.image = s.image := by
  unfold settle
  split
  · rename_i same
    cases same
    exact ⟨rfl, rfl, rfl⟩
  · rename_i same
    cases same
    split <;> exact ⟨rfl, rfl, rfl⟩

theorem placed_settle {s : State native} {loc : BFldLocInfo native} (placed : Placed contract s loc)
    (v : UbfValue) (result : Except UbfError Unit) : Placed contract (settle v (result, s)).2 loc := by
  obtain ⟨-, addr, image⟩ := settle_frame v result s
  unfold Placed Usable
  rw [addr, image]
  exact placed

/-- A dropped value is dropped whatever the error. -/
theorem settle_error (v : UbfValue) (e e' : UbfError) (s : State native) :
    (settle v (.error e, s)).2 = (settle v (.error e', s)).2 := by
  cases v <;> rfl

/-- An addition through the adder ends as `badd` does. -/
def AddsAs (fast : Option (FastResult native)) (plain : Option (Except UbfError Unit × State native)) :
    Prop :=
  match fast with
  | none => plain = none
  | some (result, s', loc') =>
      (∃ other, plain = some (other, s') ∧ other.isOk = result.isOk) ∧ Placed contract s' loc'

/-- **One addition** through the adder is `badd`. -/
theorem writeValueFast_adds (fuel : Nat) (f : Int) (v : UbfValue) (realloc : Bool) {s : State native}
    {loc : BFldLocInfo native} (placed : Placed contract s loc) :
    AddsAs contract (s.writeValueFast fuel f v realloc loc) (s.badd fuel f v realloc) := by
  unfold badd writeValue writeValueFast
  cases checkPointerFieldWrite native f v with
  | error e => exact ⟨⟨_, rfl, rfl⟩, placed_settle contract placed v _⟩
  | ok _ =>
      have agrees := fastLoop_agrees contract f v realloc fuel (usable_sync contract placed)
      simp only
      cases counted : native.boccur s.image f with
      | error e =>
          -- `badd` stops at the count; the loop refuses the same value without changing anything
          obtain ⟨e', refused⟩ := addLoop_refused contract counted v realloc fuel
          rw [refused] at agrees
          rcases fast : fastLoop f v realloc fuel s (s.syncFastCursor loc) with _ | ⟨result, s', loc'⟩
          · rw [fast] at agrees
            exact nomatch agrees
          · rw [fast] at agrees
            obtain ⟨same, usable⟩ := agrees
            cases same
            refine ⟨⟨.error e, ?_, ?_⟩, placed_settle contract (fun _ => usable) v _⟩
            · exact congrArg some (Prod.ext (settle_frame v _ s).1 (settle_error v e e' s))
            · rw [(settle_frame v _ s).1]
              rfl
      | ok n =>
          simp only
          rw [if_neg (Nat.not_le.2 (contract.count counted))]
          rcases fast : fastLoop f v realloc fuel s (s.syncFastCursor loc) with _ | ⟨result, s', loc'⟩
          · rw [fast] at agrees
            exact congrArg (Option.map (settle v)) agrees
          · rw [fast] at agrees
            obtain ⟨same, usable⟩ := agrees
            refine ⟨⟨_, congrArg (Option.map (settle v)) same, rfl⟩, ?_⟩
            exact placed_settle contract (fun _ => usable) v _

/-! ## Sequences -/

/-- The additions through an adder are `badd` for each in order. -/
theorem fastAddAll_eq (fuel : Nat) : ∀ (additions : List Addition) {s : State native}
    {loc : BFldLocInfo native}, Placed contract s loc →
      fastAddAll fuel additions s loc = addAll fuel additions s
  | [], _, _, _ => rfl
  | a :: rest, s, loc, placed => by
      have adds := writeValueFast_adds contract fuel a.bfldid a.value a.realloc placed
      unfold fastAddAll addAll
      rcases fast : s.writeValueFast fuel a.bfldid a.value a.realloc loc with _ | ⟨result, s', loc'⟩
      · rw [fast] at adds
        have plain : s.badd fuel a.bfldid a.value a.realloc = none := adds
        rw [plain]
        rfl
      · rw [fast] at adds
        obtain ⟨⟨other, plain, accepted⟩, placed'⟩ := adds
        rw [plain]
        simp only [Option.bind_eq_bind, Option.bind_some, accepted, fastAddAll_eq fuel rest placed']

end State

/-- **A `FastAdder` is `badd`**: whatever is added, and wherever growth puts the buffer, the same
additions are accepted, and the buffer, the allocator and the targets freed end the same. -/
theorem fast_adder_is_badd {native : Native} (contract : native.Contract) (fuel : Nat)
    (additions : List Addition) (s : State native) :
    fastAdder fuel additions s = addAll fuel additions s :=
  State.fastAddAll_eq contract fuel additions (State.placed_default contract s)

/-! ## Sorted fields -/

/-- A buffer with its fields sorted, and room for so many. -/
structure Sorted where
  room : Nat
  entries : List (Int × Argument)
  deriving DecidableEq, Repr

/-- The entry behind those of its field. -/
def inserted (f : Int) (arg : Argument) (entries : List (Int × Argument)) : List (Int × Argument) :=
  entries.takeWhile (·.1 ≤ f) ++ (f, arg) :: entries.dropWhile (·.1 ≤ f)

/-- Entries known to come before may be left out of the search. -/
theorem inserted_append {f : Int} (arg : Argument) {front : List (Int × Argument)}
    (before : ∀ e ∈ front, e.1 ≤ f) (back : List (Int × Argument)) :
    inserted f arg (front ++ back) = front ++ inserted f arg back := by
  have all : ∀ e ∈ front, decide (e.1 ≤ f) = true := fun e member => decide_eq_true (before e member)
  unfold inserted
  rw [List.takeWhile_append_of_pos all, List.dropWhile_append_of_pos all, List.append_assoc]

/-- Where a search starts, from the position and the field of the last addition. -/
def searchFrom (f : Int) : Option (Nat × Int) → Nat
  | some (position, last) => if last ≤ f then position else 0
  | none => 0

def BNOSPACE : UbfError := ⟨.BNOSPACE, ""⟩

/-- Sorted fields; an allocation grows into the next address, and the old one is used again. -/
def sorted : Native where
  World := Addr
  Image := Sorted
  Cursor := Option (Nat × Int)
  zeroed := none
  bfldtype f :=
    match f / 2 ^ 25 with
    | 0 => .ok .Short
    | 1 => .ok .Long
    | 5 => .ok .String
    | 9 => .ok .Ptr
    | _ => .error ⟨.other 6, ""⟩
  boccur image f := .ok ((image.entries.filter (·.1 = f)).length % 2 ^ 31)
  badd image f arg :=
    if image.room ≤ image.entries.length then .error BNOSPACE
    else .ok { image with entries := inserted f arg image.entries }
  baddfast _ image f arg cursor :=
    let start := searchFrom f cursor
    let back := image.entries.drop start
    if image.room ≤ image.entries.length then (.error BNOSPACE, cursor)
    else (.ok { image with entries := image.entries.take start ++ inserted f arg back },
      some ((image.entries.take start ++ back.takeWhile (·.1 ≤ f)).length + 1, f))
  bsizeof image := .ok image.room
  tprealloc spare addr image room := (addr, .ok (spare, { image with room }))
  tpfree world _ := world

/-- Nothing in front of the position is past the field of the last addition. -/
def Positioned (image : Sorted) (cursor : Option (Nat × Int)) : Prop :=
  ∀ position last, cursor = some (position, last) → ∀ e ∈ image.entries.take position, e.1 ≤ last

theorem searchFrom_before {image : Sorted} {cursor : Option (Nat × Int)} (positioned : Positioned image cursor)
    (f : Int) : ∀ e ∈ image.entries.take (searchFrom f cursor), e.1 ≤ f := by
  intro e member
  rcases cursor with _ | ⟨position, last⟩
  · simp [searchFrom] at member
  · simp only [searchFrom] at member
    split at member
    · rename_i ordered
      exact Int.le_trans (positioned position last rfl e member) ordered
    · simp at member

theorem positioned_of {image : Sorted} {cursor : Option (Nat × Int)}
    (usable : cursor = none ∨ Positioned image cursor) : Positioned image cursor := by
  rcases usable with zeroed | positioned
  · subst zeroed
    exact nofun
  · exact positioned

/-- The position behind a new entry. -/
theorem positioned_inserted {room : Nat} {f : Int} (arg : Argument) {front back : List (Int × Argument)}
    (before : ∀ e ∈ front, e.1 ≤ f) :
    Positioned ⟨room, front ++ inserted f arg back⟩
      (some ((front ++ back.takeWhile (·.1 ≤ f)).length + 1, f)) := by
  intro position last same e member
  cases same
  have split : front ++ inserted f arg back =
      (front ++ back.takeWhile (·.1 ≤ f) ++ [(f, arg)]) ++ back.dropWhile (·.1 ≤ f) := by
    simp [inserted]
  have length : (front ++ back.takeWhile (·.1 ≤ f) ++ [(f, arg)]).length =
      (front ++ back.takeWhile (·.1 ≤ f)).length + 1 := List.length_append
  rw [split, List.take_left' length] at member
  rcases List.mem_append.1 member with earlier | here
  · rcases List.mem_append.1 earlier with first | passed
    · exact before e first
    · simpa using List.mem_takeWhile_imp passed
  · cases List.mem_singleton.1 here
    exact Int.le_refl f

/-- Sorted fields with a remembered position meet the contract. -/
def sortedContract : sorted.Contract where
  Valid _ image cursor := Positioned image cursor
  fast := by
    intro addr image cursor usable f arg
    have before := searchFrom_before (positioned_of usable) f
    simp only [sorted]
    split
    · rfl
    · refine congrArg (fun entries => Except.ok { image with entries }) ?_
      rw [← inserted_append arg before, List.take_append_drop]
  valid := by
    intro addr image cursor usable f arg
    have before := searchFrom_before (positioned_of usable) f
    simp only [sorted]
    split
    · rename_i added
      split at added
      · exact nomatch added
      · cases added
        exact positioned_inserted arg before
    · rename_i refused
      split at refused
      · cases refused
        exact positioned_of usable
      · exact nomatch refused
  count := by
    intro image f n counted
    cases counted
    exact Nat.mod_lt _ (by decide)
  refused := nofun

/-- Out of order, with two growths that lead back to the first address, and a pointer. -/
def mixed : List Addition :=
  [⟨5 * 2 ^ 25 + 1, .String "b", true⟩, ⟨2 ^ 25 + 7, .Long 7, true⟩, ⟨2 ^ 25 + 7, .Long 8, true⟩,
   ⟨9 * 2 ^ 25 + 3, .Ptr 40, true⟩, ⟨1, .Short 1, true⟩, ⟨9 * 2 ^ 25 + 3, .Long 2, true⟩]

/-- An empty buffer with room for one entry; `2` is the next address. -/
def oneEntry : State sorted where
  world := (2 : Addr)
  addr := 1
  image := (⟨1, []⟩ : Sorted)

theorem mixed_added : fastAdder 3 mixed oneEntry = addAll 3 mixed oneEntry ∧
    (fastAdder 3 mixed oneEntry).map Prod.fst = some [true, true, true, true, true, false] :=
  ⟨fast_adder_is_badd sortedContract 3 mixed oneEntry, by decide +kernel⟩

end Endurox.Ubf.FastAdd
