/-
# Ubf.Limits -- what a mapped write leaves, and who then refuses it

A mapped write goes as deep as its value and stores texts and byte arrays of any size.  A
read takes 128 levels of scopes and gets texts and byte arrays into a buffer of fixed size;
`deep_clone` and `ensure_owned_tree` take 127 levels below the root.  So what was written is
refused by none of them where it has fewer than 128 levels and each text and each byte array
fits that buffer, and what is deeper or larger is refused by one (`written_accepted`).
-/
import Endurox.Ubf.Heaps
import Endurox.Ubf.RoundTrip

namespace Endurox.Ubf

open Endurox.Theory Endurox.Typed

set_option autoImplicit false

/-! ## Refusals -/

/-- A read refused for depth, under whatever names, or for size. -/
def Refused (e : UbfError) : Prop :=
  e.code = .BNOSPACE ∨ e.code = .BEINVAL ∧ tooDeep.message.toList <:+ e.message.toList

/-- An exit that is no such refusal. -/
def Granted (exit : Exit) : Prop := ∀ e, exit = .error e → ¬ Refused e

theorem granted_error {e : UbfError} (other : ¬ Refused e) : Granted (.error e) :=
  fun _ same => Exit.error.inj same ▸ other

theorem not_refused_of_code {code : UbfCode} {message : String} (space : code ≠ .BNOSPACE)
    (invalid : code ≠ .BEINVAL) : ¬ Refused ⟨code, message⟩ :=
  fun refused => refused.elim space fun depth => invalid depth.1

/-- A message that ends otherwise is another one. -/
theorem not_refused_of_last {message : String} {last : Char} (ends : message.toList.getLast? = some last)
    (other : last ≠ 'g') : ¬ Refused ⟨.BEINVAL, message⟩ := by
  rintro (impossible | ⟨-, before, same⟩)
  · cases impossible
  · have depth : tooDeep.message.toList.getLast? = some 'g' := rfl
    have same : before ++ tooDeep.message.toList = message.toList := same
    rw [← same, List.getLast?_append, depth] at ends
    exact other (Option.some.inj ends).symm

theorem about_message (name member : String) (e : UbfError) :
    (about name member e).message.toList = (name ++ "." ++ member).toList ++ ':' :: ' ' :: e.message.toList := by
  simp only [about, String.toList_append, List.append_assoc]
  rfl

/-- What ends in a text without a colon does so after the last name. -/
theorem suffix_about {name member : String} {e : UbfError} :
    tooDeep.message.toList <:+ (about name member e).message.toList ↔ tooDeep.message.toList <:+ e.message.toList := by
  rw [about_message]
  constructor
  · intro suffix
    have colon : ':' ∉ tooDeep.message.toList := by decide
    have blank : tooDeep.message.toList.head? = some 'c' := rfl
    rcases List.suffix_or_suffix_of_suffix suffix (List.suffix_append _ _) with within | around
    · rcases List.suffix_cons_iff.1 within with same | within
      · exact absurd (same ▸ List.mem_cons_self) colon
      · rcases List.suffix_cons_iff.1 within with same | within
        · rw [same] at blank
          exact absurd (Option.some.inj blank) (by decide)
        · exact within
    · exact absurd (around.subset List.mem_cons_self) colon
  · exact fun suffix => suffix.trans ((List.suffix_append [':', ' '] _).trans (List.suffix_append _ _))

/-- Another name in front changes nothing about what is refused. -/
theorem refused_about {name member : String} {e : UbfError} : Refused (about name member e) ↔ Refused e :=
  or_congr Iff.rfl (and_congr Iff.rfl suffix_about)

theorem ubfOccurrence_granted {first : Int} {index : Nat} {e : UbfError}
    (refused : ubfOccurrence first index = .error e) : Granted (.error e) := by
  unfold ubfOccurrence at refused
  split at refused
  · cases refused
    exact granted_error (not_refused_of_last rfl (show 'e' ≠ 'g' by decide))
  · split at refused
    · cases refused
    · cases refused
      exact granted_error (not_refused_of_last rfl (show 'w' ≠ 'g' by decide))

theorem requireSingle_granted {single : Bool} {e : UbfError} (refused : requireSingle single = .error e) :
    Granted (.error e) := by
  unfold requireSingle at refused
  split at refused
  · cases refused
  · cases refused
    refine granted_error (not_refused_of_last ?_ (show 't' ≠ 'g' by decide))
    rw [String.toList_append, List.getLast?_append]
    rfl

theorem bind_error {α β : Type} {result : Except UbfError α} {next : α → Except UbfError β} {e : UbfError}
    (failed : (result >>= next) = .error e) : result = .error e ∨ ∃ a, result = .ok a ∧ next a = .error e := by
  cases result with
  | error other =>
      cases failed
      exact .inl rfl
  | ok a => exact .inr ⟨a, rfl, failed⟩

theorem ubfGroupFieldCheck_granted {single : Bool} {base offset : Int} {e : UbfError}
    (refused : ubfGroupFieldCheck single base offset = .error e) : Granted (.error e) := by
  rcases bind_error refused with wide | ⟨-, -, refused⟩
  · exact requireSingle_granted wide
  · rcases bind_error refused with first | ⟨-, -, refused⟩
    · exact ubfOccurrence_granted first
    · exact ubfOccurrence_granted refused

theorem granted_about {name member : String} {exit : Exit} (granted : Granted exit) :
    Granted (exit.about name member) := by
  cases exit with
  | panic => exact fun e impossible => by cases impossible
  | error e => exact granted_error fun refused => granted e rfl (refused_about.1 refused)

theorem groupChecks_granted {name : String} {base : Int} : ∀ {members : List (String × Placed)} {e : UbfError},
    groupChecks name base members = .error e → Granted (.error e)
  | [], e, refused => by cases refused
  | (member, placed) :: members, e, refused => by
      unfold groupChecks at refused
      cases slot : placed.slot with
      | none =>
          rw [slot] at refused
          exact groupChecks_granted refused
      | some held =>
          obtain ⟨single, occ⟩ := held
          rw [slot] at refused
          rcases bind_error refused with named | ⟨-, -, later⟩
          · cases checked : ubfGroupFieldCheck single base occ with
            | ok there =>
                rw [checked] at named
                cases named
            | error inner =>
                rw [checked] at named
                cases named
                exact granted_about (ubfGroupFieldCheck_granted checked)
          · exact groupChecks_granted later

/-- The reader's own objections are other ones. -/
theorem objections_granted : Objections Granted where
  about _ _ _ := granted_about
  occurrence := ubfOccurrence_granted
  single := requireSingle_granted
  mapped refused := by
    rcases bind_error refused with first | ⟨-, -, typed⟩
    · exact ubfOccurrence_granted first
    · unfold requireFieldType at typed
      split at typed
      · cases typed
      · cases typed
        exact granted_error (not_refused_of_code (by decide) (by decide))
  slot := ubfGroupFieldCheck_granted
  group refused := by
    rcases bind_error refused with first | ⟨-, -, members⟩
    · exact ubfOccurrence_granted first
    · exact groupChecks_granted members
  unknown := granted_error (not_refused_of_code (by decide) (by decide))

/-! ## Getters of fixed size -/

/-- A native get into too small a buffer. -/
def noSpace : UbfError := ⟨.BNOSPACE, ""⟩

/-- The getters as `bget_string` and `bget_bytes` call them, with a buffer of `NDRX_ATMI_MSG_MAX_SIZE` bytes;
`length` is how long native code makes a text, its zero included. -/
def Native.buffered (N : Native) (length : UbfFieldType → List UInt8 → Nat) (size : Nat) : Native :=
  { N with
    toText := fun type bytes => do
      let text ← N.toText type bytes
      if length type bytes ≤ size then .ok text else .error noSpace
    toBytes := fun type bytes => do
      let given ← N.toBytes type bytes
      if given.length ≤ size then .ok given else .error noSpace }

/-- Native conversions and VIEW layouts make no such refusals of their own. -/
structure Native.Foreign (N : Native) : Prop where
  long : ∀ {type bytes e}, N.toLong type bytes = .error e → ¬ Refused e
  float : ∀ {type bytes e}, N.toFloat type bytes = .error e → ¬ Refused e
  double : ∀ {type bytes e}, N.toDouble type bytes = .error e → ¬ Refused e
  text : ∀ {type bytes e}, N.toText type bytes = .error e → ¬ Refused e
  bytes : ∀ {type bytes e}, N.toBytes type bytes = .error e → ¬ Refused e
  view : ∀ {id data e}, N.viewRead id data = .error e → ¬ Refused e

/-- The buffers of a tree, the root among them. -/
inductive Under (tree : Buffer) : Branch → Prop
  | root : Under tree ⟨tree, []⟩
  | embedded {pos : Branch} {f : BFLDID} {occ : Int} {fields : Buffer} (above : Under tree pos)
      (found : pos.find f occ = some (.ubf fields)) : Under tree ⟨fields, (f, occ) :: pos.way⟩
  | pointed {pos : Branch} {f : BFLDID} {occ : Int} {fields : Buffer} (above : Under tree pos)
      (found : pos.find f occ = some (.ptrUbf fields)) : Under tree ⟨fields, (f, occ) :: pos.way⟩

/-- What native code makes of an occurrence fits the getters' buffer. -/
structure Native.Room (N : Native) (length : UbfFieldType → List UInt8 → Nat) (size : Nat) (type : UbfFieldType)
    (bytes : List UInt8) : Prop where
  text : ∀ text, N.toText type bytes = .ok text → length type bytes ≤ size
  bytes : ∀ given, N.toBytes type bytes = .ok given → given.length ≤ size

/-- Every occurrence of the tree that a text or a byte array is read from fits. -/
def Roomy (N : Native) (length : UbfFieldType → List UInt8 → Nat) (size : Nat) (tree : Buffer) : Prop :=
  ∀ pos, Under tree pos → ∀ f occ bytes, pos.find f occ = some (.plain bytes) → f.type ≠ .Ptr →
    N.Room length size f.type bytes

/-- No read, of any mapped type, of the buffer or of one below it, is refused. -/
def Readable (M : Native) (tree : Buffer) : Prop :=
  ∀ pos, Under tree pos → ∀ (D : Decls) (fuel : Nat) (id : StructId) (e : UbfError) (path : List Way),
    (deserialize (trees M) D fuel id pos).run.run [] = some (.error (.error e), path) → ¬ Refused e

/-! ## Reads that are not refused -/

section Reads

variable {N : Native} {length : UbfFieldType → List UInt8 → Nat} {size : Nat} {tree : Buffer} {pos below : Branch}
  {f : BFLDID} {occ : Int}

theorem decode_granted (foreign : N.Foreign) {type : ScalarTy} {bytes : List UInt8}
    (room : N.Room length size f.type bytes) {e : UbfError}
    (failed : decode (N.buffered length size) f type bytes = .error e) : Granted (.error e) := by
  have mapped {α β : Type} {make : α → β} {result : Except UbfError α}
      (own : ∀ e, result = .error e → ¬ Refused e) {e : UbfError} (failed : make <$> result = .error e) :
      Granted (.error e) := by
    cases result with
    | ok a => cases failed
    | error other =>
        cases failed
        exact granted_error (own _ rfl)
  cases type with
  | int min max =>
      rcases bind_error failed with long | ⟨value, -, range⟩
      · exact granted_error (foreign.long long)
      · split at range
        · cases range
        · cases range
          exact granted_error (not_refused_of_code (by decide) (by decide))
  | bool =>
      rcases bind_error failed with long | ⟨value, -, range⟩
      · exact granted_error (foreign.long long)
      · split at range
        · cases range
        · split at range
          · cases range
          · cases range
            exact granted_error (not_refused_of_code (by decide) (by decide))
  | float => exact mapped (fun _ => foreign.float) failed
  | double => exact mapped (fun _ => foreign.double) failed
  | string =>
      refine mapped (fun e refused => ?_) failed
      rcases bind_error refused with text | ⟨text, made, long⟩
      · exact foreign.text text
      · rw [if_pos (room.text text made)] at long
        cases long
  | carray =>
      refine mapped (fun e refused => ?_) failed
      rcases bind_error refused with bytes | ⟨given, made, long⟩
      · exact foreign.bytes bytes
      · rw [if_pos (room.bytes given made)] at long
        cases long

theorem mapError_error {α : Type} {result : Except UbfError α} {exit : Exit}
    (failed : result.mapError Exit.error = .error exit) : ∃ e, result = .error e ∧ exit = .error e := by
  cases result with
  | ok a => cases failed
  | error e =>
      cases failed
      exact ⟨e, rfl, rfl⟩

/-- A getter's answer, once the occurrence may be one. -/
theorem getter_granted (foreign : N.Foreign) {type : ScalarTy} {op : String} {found : Option (List UInt8)}
    (room : ∀ bytes, found = some bytes → f.type ≠ .Ptr → N.Room length size f.type bytes) {e : UbfError}
    (failed : (rejectPtrConversion f op >>= fun _ =>
      found.elim (.error Ubf.notPresent) (decode (N.buffered length size) f type)) = .error e) : Granted (.error e) := by
  rcases bind_error failed with pointer | ⟨_, direct, failed⟩
  · unfold rejectPtrConversion at pointer
    split at pointer
    · cases pointer
      exact granted_error (not_refused_of_code (by decide) (by decide))
    · cases pointer
  · have plain : f.type ≠ .Ptr := fun pointer => by
      unfold rejectPtrConversion at direct
      rw [if_pos pointer] at direct
      cases direct
    cases found with
    | none =>
        cases failed
        exact granted_error (not_refused_of_code (by decide) (by decide))
    | some bytes => exact decode_granted foreign (room bytes rfl plain) failed

theorem readScalar_granted (foreign : N.Foreign) {type : ScalarTy} {found : Option (List UInt8)}
    (room : ∀ bytes, found = some bytes → f.type ≠ .Ptr → N.Room length size f.type bytes) {e : UbfError}
    (failed : readScalar (N.buffered length size) f occ type found = .error e) : Granted (.error e) := by
  have getter (read : (rejectPtrConversion f type.getter >>= fun _ =>
      found.elim (.error Ubf.notPresent) (decode (N.buffered length size) f type)) = .error e) : Granted (.error e) :=
    getter_granted foreign room read
  unfold readScalar at failed
  cases type with
  | int min max =>
      dsimp only at failed
      rcases bind_error failed with occurrence | ⟨-, -, failed⟩
      · exact ubfOccurrence_granted occurrence
      · cases found <;> exact getter failed
  | _ => cases found <;> exact getter failed

theorem viewAt_granted (foreign : N.Foreign) {id : StructId} {found : Option Datum} {e : UbfError}
    (failed : viewAt (N.buffered length size) id found = .error e) : Granted (.error e) := by
  unfold viewAt at failed
  split at failed
  · split at failed
    · cases failed
      exact granted_error (not_refused_of_code (by decide) (by decide))
    · rcases bind_error failed with other | ⟨-, -, failed⟩
      · unfold checkView at other
        split at other
        · cases other
        · cases other
          exact granted_error (not_refused_of_code (by decide) (by decide))
      · exact granted_error (foreign.view failed)
  · cases failed
    exact granted_error (not_refused_of_code (by decide) (by decide))

theorem viewTargetAt_granted (foreign : N.Foreign) {id : StructId} {found : Option Datum} {e : UbfError}
    (failed : viewTargetAt (N.buffered length size) id found = .error e) : Granted (.error e) := by
  unfold viewTargetAt at failed
  split at failed
  · split at failed
    · exact granted_error (foreign.view failed)
    · cases failed
      exact granted_error (not_refused_of_code (by decide) (by decide))
  all_goals
    cases failed
    exact granted_error (not_refused_of_code (by decide) (by decide))

/-- What a buffer of the tree answers is no refusal. -/
theorem responses_granted (foreign : N.Foreign) (roomy : Roomy N length size tree) (under : Under tree pos) :
    (trees (N.buffered length size)).Responses Granted pos where
  count failed := by cases failed
  isNull failed := by cases failed
  scalar failed := by
    obtain ⟨e, read, rfl⟩ := mapError_error failed
    refine readScalar_granted foreign (fun bytes found plain => ?_) read
    obtain ⟨datum, there, same⟩ := Option.bind_eq_some_iff.1 found
    cases datum with
    | plain held =>
        cases same
        exact roomy pos under _ _ _ there plain
    | _ => cases same
  embedded failed := by
    simp only [trees] at failed
    split at failed
    · cases failed
    · cases failed
      exact granted_error (not_refused_of_code (by decide) (by decide))
  target failed := by
    simp only [trees] at failed
    split at failed
    · cases failed
    all_goals
      cases failed
      exact granted_error (not_refused_of_code (by decide) (by decide))
  view failed := by
    obtain ⟨e, read, rfl⟩ := mapError_error failed
    exact viewAt_granted foreign read
  viewTarget failed := by
    obtain ⟨e, read, rfl⟩ := mapError_error failed
    exact viewTargetAt_granted foreign read

theorem find_mem {datum : Datum} (found : pos.find f occ = some datum) :
    (f, datum) ∈ pos.fields := by
  unfold Branch.find at found
  split at found
  · obtain ⟨item, member, rfl⟩ := List.mem_map.1 (List.mem_of_getElem? found)
    obtain ⟨there, same⟩ := List.mem_filter.1 member
    rwa [← of_decide_eq_true same]
  · cases found

theorem find_levels {datum : Datum} (found : pos.find f occ = some datum) : datum.levels ≤ levels pos.fields := by
  unfold Branch.find at found
  split at found
  · exact levels_column (List.mem_of_getElem? found)
  · cases found

/-- A buffer found below is of the tree, one step further down and less deep. -/
theorem below_found (under : Under tree pos)
    (found : (trees (N.buffered length size)).embedded pos f occ = .ok below ∨
      (trees (N.buffered length size)).target pos f occ = .ok below) :
    Under tree below ∧ below.way = (f, occ) :: pos.way ∧ levels below.fields < levels pos.fields := by
  rcases found with found | found
  · simp only [trees] at found
    split at found
    · rename_i there
      cases found
      exact ⟨.embedded under there, rfl, find_levels there⟩
    · cases found
  · simp only [trees] at found
    split at found
    · rename_i there
      cases found
      exact ⟨.pointed under there, rfl, find_levels there⟩
    all_goals cases found

/-- **No read of a tree is refused** where there is room on the path for its levels, and in the getters' buffer for
its texts and byte arrays. -/
theorem deserialize_granted (foreign : N.Foreign) (roomy : Roomy N length size tree) (D : Decls) :
    ∀ (fuel : Nat) (id : StructId) (pos : Branch) (path : List Way), Under tree pos →
      path.length + levels pos.fields ≤ 128 → (∀ way ∈ path, way.length ≤ pos.way.length) →
      Closes True Granted path (deserialize (trees (N.buffered length size)) D fuel id pos)
  | 0, _, _, _, _, _, _ => ⟨fun _ => trivial, fun _ _ impossible => by cases impossible⟩
  | fuel + 1, id, pos, path, under, deep, above => by
      refine deserialize_closes objections_granted fun decl _ => ?_
      refine readMembers_closes objections_granted (responses_granted foreign roomy under) ?_ decl.name decl.members
        fun label inner _ => deserialize_granted foreign roomy D fuel inner pos path under deep above
      intro f occ below found inner
      obtain ⟨under, way, less⟩ := below_found under found
      have address : (trees (N.buffered length size)).address below = (f, occ) :: pos.way := way
      rw [address]
      refine .withScope (fun shut => ?_) fun _ => ?_
      · rcases shut with full | there
        · omega
        · have := above _ there
          rw [List.length_cons] at this
          omega
      · refine deserialize_granted foreign roomy D fuel inner below _ under (by rw [List.length_cons]; omega) ?_
        rw [way]
        exact List.forall_mem_cons.2 ⟨Nat.le_refl _, fun way there => Nat.le_succ_of_le (above way there)⟩

/-- A struct with one member, a scalar. -/
def getterType (f : BFLDID) (occ : Int) (type : ScalarTy) : Decls :=
  ⟨[⟨"Getter", [("value", .placed (.field f occ (.scalar type) false))], .struct []⟩], [], []⟩

theorem getter_fails {Addr : Type} [DecidableEq Addr] {S : Source Addr} {pos : S.Pos} {type : ScalarTy} {e : UbfError}
    (failed : S.scalar pos f occ type = .error (.error e)) (path : List Addr) :
    (deserialize S (getterType f occ type) 1 0 pos).run.run path =
      some (.error (.error (about "Getter" "value" e)), path) := by
  have scalar : readField S pos f (.scalar type) occ = throw (.error e) := by
    unfold readField
    rw [failed]
    rfl
  have member : readMember S (getterType f occ type) pos (deserialize S (getterType f occ type) 0)
      (.placed (.field f occ (.scalar type) false)) = throw (.error e) := scalar
  rw [deserialize_struct S pos 0 rfl]
  show StateT.run (ExceptT.run (readMembers S (getterType f occ type) pos _ "Getter"
    [("value", .placed (.field f occ (.scalar type) false))] >>= _)) path = _
  unfold readMembers
  rw [member]
  rfl

theorem readScalar_failed {M : Native} {type : ScalarTy} {bytes : List UInt8} {e : UbfError}
    (wide : ∀ min max, type ≠ .int min max) (plain : f.type ≠ .Ptr) (failed : decode M f type bytes = .error e) :
    readScalar M f occ type (some bytes) = .error e := by
  have direct : rejectPtrConversion f type.getter = .ok () := if_neg plain
  unfold readScalar
  rw [direct]
  cases type with
  | int min max => exact absurd rfl (wide min max)
  | _ => exact failed

/-- Where a text or a byte array has no room, a read that asks for it is refused. -/
theorem roomy_of_readable (readable : Readable (N.buffered length size) tree) : Roomy N length size tree := by
  intro pos under f occ bytes found plain
  have refused {type : ScalarTy} (wide : ∀ min max, type ≠ .int min max)
      (failed : decode (N.buffered length size) f type bytes = .error noSpace) : False := by
    have scalar : (trees (N.buffered length size)).scalar pos f occ type = .error (.error noSpace) := by
      show (readScalar _ f occ type ((pos.find f occ).bind Datum.bytes?)).mapError Exit.error = _
      rw [found]
      exact congrArg (Except.mapError Exit.error) (readScalar_failed wide plain failed)
    exact readable pos under _ 1 0 _ [] (getter_fails scalar []) (refused_about.2 (.inl rfl))
  constructor
  · intro text made
    by_contra long
    refine refused (show ∀ min max, ScalarTy.string ≠ .int min max from nofun) ?_
    simp only [decode, Native.buffered, made, bind, Except.bind, if_neg long]
    rfl
  · intro given made
    by_contra long
    refine refused (show ∀ min max, ScalarTy.carray ≠ .int min max from nofun) ?_
    simp only [decode, Native.buffered, made, bind, Except.bind, if_neg long]
    rfl

end Reads

theorem Under.levels {tree : Buffer} {pos : Branch} (under : Under tree pos) : levels pos.fields ≤ Ubf.levels tree := by
  induction under with
  | root => exact Nat.le_refl _
  | embedded _ found ih | pointed _ found ih =>
      exact Nat.le_trans (Nat.le_of_lt (find_levels found)) ih

/-- **A read takes 128 levels.** -/
theorem readable_of_roomy {N : Native} (foreign : N.Foreign) {length : UbfFieldType → List UInt8 → Nat} {size : Nat}
    {tree : Buffer} (roomy : Roomy N length size tree) (shallow : levels tree ≤ 128) :
    Readable (N.buffered length size) tree := by
  intro pos under D fuel id e path ended
  have deep : ([] : List Way).length + levels pos.fields ≤ 128 := by
    rw [List.length_nil, Nat.zero_add]
    exact Nat.le_trans under.levels shallow
  have closes := deserialize_granted foreign roomy D fuel id pos [] under deep fun _ none => absurd none List.not_mem_nil
  exact (closes.2 _ _ ended).2 _ rfl e rfl

/-! ## The result -/

/-- A deep clone succeeds, and so do the ownership scan and what edits ask of it before they replace or delete an
occurrence. -/
structure Ownable (s : State) (buf : BufId) : Prop where
  cloned : ∃ copy s', (deepClone buf).run.run s = (.ok copy, s')
  scanned : ((ensureOwnedTree buf).run.run s).1 = .ok ⟨⟩
  displaced : ∀ f occ, ∃ roots, ((displacedRoots buf f occ).run.run s).1 = .ok roots

/-- **Who refuses what was written.**  A mapped write goes as deep as its value and stores occurrences of any size.
What it leaves is read where it has at most 128 levels below its root and its texts and byte arrays fit what they
are read into, and cloned and edited where it has fewer than 128; what is deeper or larger is refused. -/
theorem written_accepted (N : Native) (foreign : N.Foreign) (length : UbfFieldType → List UInt8 → Nat) (size : Nat)
    (D : Decls) (fuel : Nat) (id : StructId) (value : Value) (t : Target) (s : State) (buf : BufId)
    (settled : s.Settled) (quiet : s.Quiet)
    (holds : Holds s buf ((serialize N D fuel id value).run.run t).2.fields) :
    let tree := ((serialize N D fuel id value).run.run t).2.fields
    (levels tree ≤ 128 → Roomy N length size tree → Readable (N.buffered length size) tree) ∧
      (levels tree < 128 → Ownable s buf) ∧
      (Readable (N.buffered length size) tree → Ownable s buf → levels tree ≤ 128 ∧ Roomy N length size tree) := by
  refine ⟨fun shallow roomy => readable_of_roomy foreign roomy shallow, fun shallow => ?_, fun readable ownable => ?_⟩
  · exact
      { cloned := (holds.cloned_iff settled quiet).2 shallow
        scanned := (holds.owned_iff ⟨⟨quiet.calls, quiet.truthful, quiet.types⟩, s.answers, rfl⟩).2 shallow
        displaced := holds.displaced quiet shallow }
  · exact ⟨Nat.le_of_lt ((holds.cloned_iff settled quiet).1 ownable.cloned), roomy_of_readable readable⟩

/-! ### A list of nodes -/

def labelField : BFLDID := ⟨3, .Carray⟩

/-- Nodes with a label, linked by pointers: `label: Vec<u8>` and `next: Option<Box<Node>>`. -/
def linkedTypes : Decls :=
  ⟨[⟨"Node", [("label", .placed (.field labelField 0 (.scalar .carray) false)),
    ("next", .placed (.mapped .PointerUbf linkField 0 (.option (.base 0)) false))], .struct []⟩], [], []⟩

/-- A list with so many nodes behind the first. -/
def linkedValue : Nat → Value
  | 0 => .struct [.scalar (.carray [7]), .none]
  | n + 1 => .struct [.scalar (.carray [7]), .some (linkedValue n)]

def linked : Nat → Buffer
  | 0 => [(labelField, .plain [7])]
  | n + 1 => [(labelField, .plain [7]), (linkField, .ptrUbf (linked n))]

theorem levels_linked : ∀ n, levels (linked n) = n
  | 0 => rfl
  | n + 1 => by
      show max 0 (max (levels (linked n) + 1) 0) = n + 1
      rw [levels_linked n, Nat.max_zero, Nat.zero_max]

theorem nested_empty {write : Writing PUnit} {before fields : Buffer} (ran : Ran write ⟨[], []⟩ ⟨⟩ ⟨fields, []⟩) :
    Ran (nested write) ⟨before, []⟩ fields ⟨before, []⟩ := by
  unfold nested
  exact ran_bind.2 ⟨⟨⟩, _, rfl, ran_bind.2 ⟨_, _, ran_get.2 ⟨rfl, rfl⟩, ran_bind.2 ⟨⟨⟩, _, ran_set.2 rfl,
    ran_bind.2 ⟨.ok ⟨⟩, _, ran_outcomeOf.2 ran, rfl⟩⟩⟩⟩

/-- It is written, however long it is. -/
theorem linked_written : ∀ n,
    Ran (serialize littleEndian linkedTypes (n + 1) 0 (linkedValue n)) ⟨[], []⟩ ⟨⟩ ⟨linked n, []⟩
  | 0 => rfl
  | n + 1 => by
      have next : Ran (writeMapped littleEndian (serialize littleEndian linkedTypes (n + 1)) .PointerUbf linkField
          (.option (.base 0)) (.some (linkedValue n)) 0) ⟨linked 0, []⟩ ⟨⟩ ⟨linked (n + 1), []⟩ :=
        ran_bind.2 ⟨⟨⟩, _, ran_check.2 ⟨rfl, rfl⟩, ran_bind.2 ⟨⟨⟩, _, ran_check.2 ⟨rfl, rfl⟩,
          ran_bind.2 ⟨⟨⟩, _, ran_check.2 ⟨rfl, rfl⟩, ran_bind.2 ⟨_, _, nested_empty (linked_written n), rfl⟩⟩⟩⟩
      exact ran_bind.2 ⟨⟨⟩, ⟨linked 0, []⟩, (ran_labelled "Node" "label").2 rfl,
        ran_bind.2 ⟨⟨⟩, _, (ran_labelled "Node" "next").2 next, rfl⟩⟩

/-- A node's occurrences. -/
theorem linked_mem {n : Nat} {f : BFLDID} {datum : Datum} (member : (f, datum) ∈ linked n) :
    datum = .plain [7] ∨ ∃ m, datum = .ptrUbf (linked m) := by
  cases n with
  | zero =>
      cases List.mem_singleton.1 member
      exact .inl rfl
  | succ n =>
      rcases List.mem_cons.1 member with label | next
      · cases label
        exact .inl rfl
      · cases List.mem_singleton.1 next
        exact .inr ⟨n, rfl⟩

theorem linked_under {n : Nat} {pos : Branch} (under : Under (linked n) pos) : ∃ m, pos.fields = linked m := by
  induction under with
  | root => exact ⟨n, rfl⟩
  | embedded _ found ih =>
      obtain ⟨m, here⟩ := ih
      rcases linked_mem (here ▸ find_mem found) with other | ⟨_, other⟩ <;> cases other
  | pointed _ found ih =>
      obtain ⟨m, here⟩ := ih
      rcases linked_mem (here ▸ find_mem found) with other | ⟨m', same⟩
      · cases other
      · cases same
        exact ⟨m', rfl⟩

/-- Its labels have room wherever a byte has. -/
theorem linked_roomy {size : Nat} (enough : 1 ≤ size) (n : Nat) :
    Roomy littleEndian (fun _ bytes => bytes.length) size (linked n) := by
  intro pos under f occ bytes found _
  obtain ⟨m, here⟩ := linked_under under
  rcases linked_mem (here ▸ find_mem found) with label | ⟨_, other⟩
  · cases label
    refine ⟨fun _ _ => enough, fun given made => ?_⟩
    cases made
    exact enough
  · cases other

theorem littleEndian_foreign : littleEndian.Foreign where
  long failed := by cases failed
  float failed := by
    cases failed
    exact not_refused_of_code (by decide) (by decide)
  double failed := by
    cases failed
    exact not_refused_of_code (by decide) (by decide)
  text failed := by cases failed
  bytes failed := by cases failed
  view failed := by
    cases failed
    exact not_refused_of_code (by decide) (by decide)

/-- A node with so many behind it, the next one at the address of its number. -/
def link (n : Nat) : Allocation where
  typeName := "UBF"
  bytes := []
  fields := (3, .plain .Carray (by decide) [7]) :: if n = 0 then [] else [(5, .ptr n)]

/-- The nodes in memory, the last one first. -/
def links : Nat → Table Addr Allocation
  | 0 => Table.empty.set 1 (link 0)
  | n + 1 => (links n).set (n + 2) (link (n + 1))

def linkedState (n : Nat) : State where
  heap := links n
  next := n + 2
  bufs := Table.empty.set 0 ⟨⟨n + 1, 0⟩, .ubf⟩
  nextBuf := 1

theorem links_get : ∀ n a : Nat, (links n).get a = if 1 ≤ a ∧ a ≤ n + 1 then some (link (a - 1)) else none
  | 0, a => by
      rw [links, Table.get_set, Table.get_empty]
      by_cases first : a = 1
      · subst first
        rfl
      · rw [if_neg first, if_neg (by omega)]
  | n + 1, a => by
      rw [links, Table.get_set, links_get n a]
      by_cases last : a = n + 2
      · subst last
        rw [if_pos rfl, if_pos (by omega)]
        rfl
      · rw [if_neg last]
        by_cases there : 1 ≤ a ∧ a ≤ n + 1
        · rw [if_pos there, if_pos (by omega)]
        · rw [if_neg there, if_neg (by omega)]

/-- The addresses of the nodes behind. -/
def behind : Nat → List Addr
  | 0 => []
  | n + 1 => (n + 1) :: behind n

theorem behind_below : ∀ n, ∀ p ∈ behind n, p ≤ n
  | 0, _, member => absurd member List.not_mem_nil
  | n + 1, p, member => by
      rcases List.mem_cons.1 member with rfl | later
      · exact Nat.le_refl _
      · exact Nat.le_succ_of_le (behind_below n p later)

theorem behind_once : ∀ n, (behind n).Nodup
  | 0 => List.nodup_nil
  | n + 1 => List.nodup_cons.2 ⟨fun again => Nat.not_succ_le_self n (behind_below n _ again), behind_once n⟩

theorem linked_held {s : State} : ∀ n, (∀ k ≤ n, s.heap.get (k + 1) = some (link k)) →
    Held s (link n).fields (linked n) (behind n)
  | 0, _ => .plain (f := labelField) rfl .nil
  | n + 1, there => by
      have inner := linked_held n fun k before => there k (Nat.le_succ_of_le before)
      have held : Held s ((5, .ptr (n + 1)) :: []) ((linkField, .ptrUbf (linked n)) :: []) ((n + 1) :: behind n ++ []) :=
        .pointed (f := linkField) rfl (Nat.succ_ne_zero n) (there n (Nat.le_succ n)) rfl rfl inner .nil
      rw [List.append_nil] at held
      exact .plain (f := labelField) rfl held

theorem linkedState_holds (n : Nat) : Holds (linkedState n) 0 (linked n) where
  root := by
    have there (k : Nat) (before : k ≤ n) : (linkedState n).heap.get (k + 1) = some (link k) := by
      show (links n).get (k + 1) = _
      rw [links_get, if_pos ⟨Nat.le_add_left 1 k, Nat.succ_le_succ before⟩]
      rfl
    have new : n + 1 ∉ behind n := fun again => Nat.not_succ_le_self n (behind_below n _ again)
    exact ⟨link n, behind n, there n (Nat.le_refl n), rfl, linked_held n there,
      List.nodup_cons.2 ⟨new, behind_once n⟩⟩

theorem linkedState_settled (n : Nat) : (linkedState n).Settled where
  null := links_get n 0
  positive := Nat.succ_pos _
  inside a allocation found := by
    rw [show (linkedState n).heap.get a = _ from links_get n a] at found
    split at found
    · rename_i inside
      cases found
      refine ⟨Nat.lt_succ_of_le inside.2, fun p member => ?_⟩
      simp only [link, targetsIn_cons, targets_plain, List.nil_append] at member
      split at member
      · cases member
      · simp only [targetsIn_cons, targets_ptr] at member
        split at member
        · cases member
        · rename_i positive _
          simp only [targetsIn, List.append_nil, List.mem_singleton] at member
          subst member
          exact Nat.lt_of_le_of_lt (Nat.sub_le a 1) (Nat.lt_succ_of_le inside.2)
    · cases found
  fresh id later := by
    have other : id ≠ 0 := Nat.ne_of_gt later
    simp [linkedState, other]

theorem linkedState_quiet (n : Nat) : (linkedState n).Quiet where
  allocs _ none := absurd none List.not_mem_nil
  types _ none := absurd none List.not_mem_nil
  writes _ none := absurd none List.not_mem_nil
  displaced _ none := absurd none List.not_mem_nil
  shell _ none := absurd none List.not_mem_nil
  calls _ none := absurd none List.not_mem_nil
  truthful _ none := absurd none List.not_mem_nil
  used := show max 0 256 ≤ Typed.longMax by decide

/-- Two nodes are read, cloned and edited. -/
theorem two_nodes_accepted :
    Readable (littleEndian.buffered (fun _ bytes => bytes.length) 65536) (linked 1) ∧ Ownable (linkedState 1) 0 := by
  have accepted := written_accepted littleEndian littleEndian_foreign (fun _ bytes => bytes.length) 65536 linkedTypes 2 0
    (linkedValue 1) ⟨[], []⟩ (linkedState 1) 0 (linkedState_settled 1) (linkedState_quiet 1) (linkedState_holds 1)
  have shallow : levels (linked 1) < 128 := by
    rw [levels_linked]
    decide
  exact ⟨accepted.1 (Nat.le_of_lt shallow) (linked_roomy (by decide) 1), accepted.2.1 shallow⟩

/-! ### Reads that are refused -/

section Refuses

variable {Addr : Type} {α β : Type} {path : List Addr}

/-- The read is refused. -/
def Refuses (path : List Addr) (read : Reading Addr α) : Prop :=
  ∃ e, read.run.run path = some (.error (.error e), path) ∧ Refused e

theorem Refuses.bind {read : Reading Addr α} {next : α → Reading Addr β} (refuses : Refuses path read) :
    Refuses path (read >>= next) := by
  obtain ⟨e, ran, refused⟩ := refuses
  refine ⟨e, ?_, refused⟩
  simp only [ExceptT.run_bind, StateT.run_bind, ran, Option.bind_eq_bind, Option.bind_some]
  rfl

theorem Refuses.after {read : Reading Addr α} {next : α → Reading Addr β} {a : α} (first : Reads path read a)
    (refuses : Refuses path (next a)) : Refuses path (read >>= next) := by
  obtain ⟨e, ran, refused⟩ := refuses
  refine ⟨e, ?_, refused⟩
  unfold Reads at first
  simp only [ExceptT.run_bind, StateT.run_bind, first, Option.bind_eq_bind, Option.bind_some]
  exact ran

theorem Refuses.labelled {read : Reading Addr α} (name member : String) (refuses : Refuses path read) :
    Refuses path (readLabelled name member read) := by
  obtain ⟨e, ran, refused⟩ := refuses
  refine ⟨about name member e, ?_, refused_about.2 refused⟩
  unfold readLabelled
  simp only [ExceptT.run_bind, ExceptT.run_lift, StateT.run_bind, StateT.run_map, ran, Option.bind_eq_bind,
    Option.map_eq_map, Option.map_some, Option.bind_some]
  rfl

/-- A scope is refused, or what is read in it. -/
theorem Refuses.withScope [DecidableEq Addr] {address : Addr} {read : Reading Addr α}
    (inside : path.length < 128 → Refuses (address :: path) read) : Refuses path (withScope address read) := by
  unfold Ubf.withScope
  by_cases shut : 128 ≤ path.length ∨ address ∈ path
  · refine ⟨tooDeep, ?_, .inr ⟨rfl, List.suffix_refl _⟩⟩
    simp only [ExceptT.run_bind, StateT.run_bind, enter_run, if_pos shut]
    rfl
  · obtain ⟨e, ran, refused⟩ := inside (by omega)
    refine ⟨e, ?_, refused⟩
    simp only [ExceptT.run_bind, ExceptT.run_lift, StateT.run_bind, StateT.run_map, enter_run, if_neg shut,
      Option.bind_eq_bind, Option.bind_some, Option.map_eq_map, ran, Option.map_some]
    rfl

end Refuses

/-- A list longer than the path has room for is refused. -/
theorem linked_refused : ∀ (n fuel : Nat) (way : Way) (path : List Way), n < fuel → path.length ≤ 128 →
    128 < path.length + n →
      Refuses path (deserialize (trees (littleEndian.buffered (fun _ bytes => bytes.length) 65536)) linkedTypes fuel 0
        ⟨linked n, way⟩)
  | 0, _, _, path, _, room, deep => absurd deep (Nat.not_lt_of_le room)
  | n + 1, 0, _, _, enough, _, _ => absurd enough (Nat.not_lt_zero _)
  | n + 1, fuel + 1, way, path, enough, room, deep => by
      let S := trees (littleEndian.buffered (fun _ bytes => bytes.length) 65536)
      let pos : Branch := ⟨linked (n + 1), way⟩
      let child := deserialize S linkedTypes fuel
      have stored : S.scalar pos labelField 0 .carray = .ok (.carray [7]) := rfl
      have label : Reads path (readMember S linkedTypes pos child
          (.placed (.field labelField 0 (.scalar .carray) false))) (.scalar (.carray [7])) :=
        (Reads.ofExcept stored).bind (.pure _)
      have behind : Refuses path (readBase S pos linkField child .PointerUbf 0 0) := by
        refine .after (Reads.ask (show mappedField .PointerUbf linkField 0 = .ok () from rfl)) ?_
        refine .after (Reads.ask (show S.target pos linkField 0 = .ok ⟨linked n, (linkField, 0) :: way⟩ from rfl)) ?_
        refine .withScope fun shallow => linked_refused n fuel _ _ (Nat.lt_of_succ_lt_succ enough) ?_ ?_
        · exact shallow
        · rw [List.length_cons]
          omega
      have next : Refuses path (readMember S linkedTypes pos child
          (.placed (.mapped .PointerUbf linkField 0 (.option (.base 0)) false))) := by
        refine .after (Reads.ask (show mappedField .PointerUbf linkField 0 = .ok () from rfl)) ?_
        refine .after (Reads.ask (show requireSingle _ = .ok () from rfl)) ?_
        have there : S.present pos linkField 0 = true := rfl
        have full : S.isNull pos linkField 0 = .ok false := rfl
        rw [there]
        exact .after (Reads.ask full) (.bind behind)
      rw [deserialize_struct S pos fuel rfl]
      exact .bind (.after (label.labelled "Node" "label") (.bind (.bind (next.labelled "Node" "next"))))

/-- A list of 130 nodes is written; a read refuses it, and so do a deep clone and the ownership scan. -/
theorem long_list_refused :
    Ran (serialize littleEndian linkedTypes 130 0 (linkedValue 129)) ⟨[], []⟩ ⟨⟩ ⟨linked 129, []⟩ ∧
    Holds (linkedState 129) 0 (linked 129) ∧
    (∃ e, (deserialize (trees (littleEndian.buffered (fun _ bytes => bytes.length) 65536)) linkedTypes 130 0
      ⟨linked 129, []⟩).run.run [] = some (.error (.error e), []) ∧ Refused e) ∧
    (¬ ∃ copy s', (deepClone 0).run.run (linkedState 129) = (.ok copy, s')) ∧
    ((ensureOwnedTree 0).run.run (linkedState 129)).1 ≠ .ok ⟨⟩ := by
  have holds := linkedState_holds 129
  have quiet := linkedState_quiet 129
  refine ⟨linked_written 129, holds, linked_refused 129 130 [] [] (by decide) (by decide) (by decide), fun cloned => ?_,
    fun accepted => ?_⟩
  · have shallow := (holds.cloned_iff (linkedState_settled 129) quiet).1 cloned
    rw [levels_linked] at shallow
    exact absurd shallow (by decide)
  · have shallow := (holds.owned_iff ⟨⟨quiet.calls, quiet.truthful, quiet.types⟩, _, rfl⟩).1 accepted
    rw [levels_linked] at shallow
    exact absurd shallow (by decide)

end Endurox.Ubf
