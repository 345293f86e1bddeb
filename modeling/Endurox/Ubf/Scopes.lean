/-
# Ubf.Scopes -- every read ends, and leaves the path as it was

A `ReadScope` is entered for every nested buffer and dropped on every way out, so
whatever buffers hold, cycles among them, a read descends at most 128 of them and
`READ_PATH` is afterwards what it was (`reads_end_where_they_began`).  Only flattened
members are read without a scope: a struct that flattens itself, which no value has for
its type, is read for ever.
-/
import Endurox.Ubf.Reading

namespace Endurox.Ubf

open Endurox.Theory
open Endurox.Typed (BFLDID UbfFieldType UbfError UbfCode)

set_option autoImplicit false

/-! ## Reads that close what they open -/

section Closes

variable {Addr : Type} {α β : Type} {path : List Addr} {stops : Prop} {fine : Exit → Prop}

/-- From this path the read ends with a value or on a `fine` exit, and the path is this one again; its
fuel runs out only where it `stops`. -/
def Closes (stops : Prop) (fine : Exit → Prop) (path : List Addr) (read : Reading Addr α) : Prop :=
  (read.run.run path = none → stops) ∧ ∀ outcome after, read.run.run path = some (outcome, after) →
    after = path ∧ ∀ exit, outcome = .error exit → fine exit

theorem Closes.of {read : Reading Addr α} {outcome : Except Exit α} (ran : read.run.run path = some (outcome, path))
    (ends : ∀ exit, outcome = .error exit → fine exit) : Closes stops fine path read := by
  refine ⟨fun empty => ?_, fun outcome' after other => ?_⟩
  · rw [ran] at empty
    cases empty
  · rw [ran] at other
    cases other
    exact ⟨rfl, ends⟩

/-- Fuel that does not run out is enough. -/
theorem Closes.returns {read : Reading Addr α} (closes : Closes False fine path read) :
    ∃ outcome, read.run.run path = some (outcome, path) := by
  cases ran : read.run.run path with
  | none => exact (closes.1 ran).elim
  | some ended =>
      obtain ⟨rfl, -⟩ := closes.2 ended.1 ended.2 ran
      exact ⟨ended.1, rfl⟩

theorem Closes.pure (a : α) : Closes stops fine path (pure a : Reading Addr α) := .of rfl nofun

theorem Closes.throw {exit : Exit} (ends : fine exit) : Closes stops fine path (throw exit : Reading Addr α) :=
  .of rfl fun _ same => Except.error.inj same ▸ ends

theorem Closes.ofExcept {result : Except Exit α} (ends : ∀ exit, result = .error exit → fine exit) :
    Closes stops fine path (MonadExcept.ofExcept result : Reading Addr α) := by
  cases result with
  | ok a => exact .pure a
  | error exit => exact .throw (ends exit rfl)

theorem Closes.bind {read : Reading Addr α} {next : α → Reading Addr β} (first : Closes stops fine path read)
    (rest : ∀ a, Closes stops fine path (next a)) : Closes stops fine path (read >>= next) := by
  have run : (read >>= next).run.run path = (read.run.run path).bind fun ended =>
      (ExceptT.bindCont (fun a => next a) ended.1).run ended.2 := by
    simp only [ExceptT.run_bind, StateT.run_bind, Option.bind_eq_bind]
    rfl
  cases ran : read.run.run path with
  | none =>
      rw [ran] at run
      refine ⟨fun _ => first.1 ran, fun outcome after ended => ?_⟩
      rw [run] at ended
      cases ended
  | some ended =>
      obtain ⟨outcome, after⟩ := ended
      obtain ⟨rfl, ends⟩ := first.2 outcome after ran
      rw [ran] at run
      cases outcome with
      | error exit => exact .of run fun _ same => ends _ (congrArg Except.error (Except.error.inj same))
      | ok a =>
          have rest := rest a
          unfold Closes at rest ⊢
          rw [run]
          exact rest

/-- What is asked may refuse; where it answers, the read goes on. -/
theorem Closes.asked {result : Except UbfError α} {next : α → Reading Addr β}
    (ends : ∀ e, result = .error e → fine (.error e))
    (rest : ∀ a, result = .ok a → Closes stops fine path (next a)) : Closes stops fine path (ask result >>= next) := by
  cases result with
  | ok a => exact rest a rfl
  | error e => exact .throw (ends e rfl)

theorem Closes.ite {c : Prop} [Decidable c] {read other : Reading Addr α} (here : Closes stops fine path read)
    (there : Closes stops fine path other) : Closes stops fine path (if c then read else other) := by
  split
  · exact here
  · exact there

/-- An error passes under another name. -/
theorem Closes.labelled {read : Reading Addr α} {name member : String}
    (about : ∀ exit, fine exit → fine (exit.about name member)) (closes : Closes stops fine path read) :
    Closes stops fine path (readLabelled name member read) := by
  have run : (readLabelled name member read).run.run path = (read.run.run path).map fun ended =>
      (ended.1.mapError (Exit.about name member), ended.2) := by
    unfold readLabelled
    simp only [ExceptT.run_bind, ExceptT.run_lift, StateT.run_bind, StateT.run_map, Option.bind_eq_bind,
      Option.map_eq_map]
    cases read.run.run path with
    | none => rfl
    | some ended =>
        obtain ⟨outcome, after⟩ := ended
        cases outcome <;> rfl
  unfold Closes
  rw [run]
  refine ⟨fun empty => closes.1 (Option.map_eq_none_iff.1 empty), fun outcome after ended => ?_⟩
  obtain ⟨inner, ran, same⟩ := Option.map_eq_some_iff.1 ended
  obtain ⟨rfl, rfl⟩ := Prod.mk.inj same
  obtain ⟨rfl, ends⟩ := closes.2 inner.1 inner.2 ran
  refine ⟨rfl, fun exit failed => ?_⟩
  cases result : inner.1 with
  | ok a =>
      rw [result] at failed
      cases failed
  | error exit' =>
      rw [result] at failed
      cases failed
      exact about exit' (ends exit' result)

theorem enter_run [DecidableEq Addr] (address : Addr) (path : List Addr) :
    (enter address).run.run path =
      if 128 ≤ path.length ∨ address ∈ path then some (.error (.error tooDeep), path)
      else some (.ok ⟨⟩, address :: path) := by
  unfold enter
  simp only [ExceptT.run_bind, StateT.run_bind]
  show (StateT.run (ExceptT.run (if _ then _ else _)) path) = _
  split
  · rfl
  · rfl

/-- **A scope is dropped on every way out**, and not entered past the limit. -/
theorem Closes.withScope [DecidableEq Addr] {address : Addr} {read : Reading Addr α}
    (refused : 128 ≤ path.length ∨ address ∈ path → fine (.error tooDeep))
    (inside : path.length < 128 → Closes stops fine (address :: path) read) :
    Closes stops fine path (withScope address read) := by
  unfold Ubf.withScope
  by_cases shut : 128 ≤ path.length ∨ address ∈ path
  · refine .of (?_ : _ = some (.error (.error tooDeep), path)) fun _ same => Except.error.inj same ▸ refused shut
    simp only [ExceptT.run_bind, StateT.run_bind, enter_run, if_pos shut]
    rfl
  · have closes := inside (by omega)
    cases ran : read.run.run (address :: path) with
    | none =>
        refine ⟨fun _ => closes.1 ran, fun outcome after ended => ?_⟩
        simp only [ExceptT.run_bind, ExceptT.run_lift, StateT.run_bind, StateT.run_map, enter_run, if_neg shut,
          Option.bind_eq_bind, Option.bind_some, Option.map_eq_map, ran, Option.map_none, Option.bind_none] at ended
        cases ended
    | some ended =>
        obtain ⟨outcome, after⟩ := ended
        obtain ⟨rfl, ends⟩ := closes.2 outcome after ran
        refine .of ?_ ends
        simp only [ExceptT.run_bind, ExceptT.run_lift, StateT.run_bind, StateT.run_map, enter_run, if_neg shut,
          Option.bind_eq_bind, Option.bind_some, Option.map_eq_map, ran, Option.map_some]
        cases outcome with
        | ok a => rfl
        | error exit => rfl

theorem Closes.all {ι : Type} {read : ι → Reading Addr Value} (each : ∀ i, Closes stops fine path (read i)) :
    ∀ is : List ι, Closes stops fine path (readAll read is)
  | [] => .pure _
  | i :: is => (each i).bind fun _ => (Closes.all each is).bind fun _ => .pure _

end Closes

/-! ## What the derives emit -/

/-- The exits the reader's own checks make, under whatever names. -/
structure Objections (fine : Exit → Prop) : Prop where
  about : ∀ name member exit, fine exit → fine (exit.about name member)
  occurrence : ∀ {first index e}, ubfOccurrence first index = .error e → fine (.error e)
  single : ∀ {single e}, requireSingle single = .error e → fine (.error e)
  mapped : ∀ {m f occ e}, mappedField m f occ = .error e → fine (.error e)
  slot : ∀ {single base offset e}, ubfGroupFieldCheck single base offset = .error e → fine (.error e)
  group : ∀ {g base e}, validateGroup g base = .error e → fine (.error e)
  unknown : fine (.error illTyped)

/-- The exits the buffer at a position makes. -/
structure Source.Responses {Addr : Type} (S : Source Addr) (fine : Exit → Prop) (pos : S.Pos) : Prop where
  count : ∀ {f e}, S.count pos f = .error e → fine (.error e)
  isNull : ∀ {f occ e}, S.isNull pos f occ = .error e → fine (.error e)
  scalar : ∀ {f occ type exit}, S.scalar pos f occ type = .error exit → fine exit
  embedded : ∀ {f occ e}, S.embedded pos f occ = .error e → fine (.error e)
  target : ∀ {f occ e}, S.target pos f occ = .error e → fine (.error e)
  view : ∀ {f occ id exit}, S.view pos f occ id = .error exit → fine exit
  viewTarget : ∀ {f occ id exit}, S.viewTarget pos f occ id = .error exit → fine exit

section Members

variable {Addr : Type} [DecidableEq Addr] {S : Source Addr} {D : Decls} {path : List Addr} {stops : Prop}
  {fine : Exit → Prop} {pos : S.Pos} {child : StructId → S.Pos → Reading Addr Value}

/-- A struct in a buffer below this one is read in a scope of its own. -/
def Inner (stops : Prop) (fine : Exit → Prop) (pos : S.Pos) (child : StructId → S.Pos → Reading Addr Value)
    (path : List Addr) : Prop :=
  ∀ f occ below, S.embedded pos f occ = .ok below ∨ S.target pos f occ = .ok below →
    ∀ id, Closes stops fine path (withScope (S.address below) (child id below))

omit [DecidableEq Addr] in
theorem mappingPresent_closes (objections : Objections fine) (responses : S.Responses fine pos) (f : BFLDID)
    (occ : Int) : Closes stops fine path (mappingPresent S pos f occ) :=
  .asked (fun _ => objections.occurrence) fun _ _ => .asked (fun _ => responses.count) fun _ _ => .pure _

omit [DecidableEq Addr] in
theorem readField_closes (objections : Objections fine) (responses : S.Responses fine pos) (f : BFLDID) :
    ∀ (type : FieldTy) (occ : Int), Closes stops fine path (readField S pos f type occ)
  | .scalar _, _ => (Closes.ofExcept fun _ => responses.scalar).bind fun _ => .pure _
  | .option type, occ =>
      .asked (fun _ => objections.single) fun _ _ => (mappingPresent_closes objections responses f occ).bind fun _ =>
        .ite ((readField_closes objections responses f type occ).bind fun _ => .pure _) (.pure _)
  | .vec type, _ =>
      .asked (fun _ => objections.single) fun _ _ => .asked (fun _ => objections.occurrence) fun _ _ =>
        .asked (fun _ => responses.count) fun _ _ =>
          (Closes.all (readField_closes objections responses f type) _).bind fun _ => .pure _
  | .array _ type, _ =>
      .asked (fun _ => objections.single) fun _ _ => .asked (fun _ => objections.occurrence) fun _ _ =>
        (Closes.all (fun _ => .asked (fun _ => objections.occurrence) fun _ _ =>
          readField_closes objections responses f type _) _).bind fun _ => .pure _

theorem readBase_closes (objections : Objections fine) (responses : S.Responses fine pos)
    (inner : Inner stops fine pos child path) (f : BFLDID) (m : Mapping) (id : StructId) (occ : Int) :
    Closes stops fine path (readBase S pos f child m id occ) := by
  refine .asked (fun _ => objections.mapped) fun _ _ => ?_
  cases m with
  | EmbeddedUbf => exact .asked (fun _ => responses.embedded) fun below found => inner f occ below (.inl found) id
  | PointerUbf => exact .asked (fun _ => responses.target) fun below found => inner f occ below (.inr found) id
  | EmbeddedView => exact .ofExcept fun _ => responses.view
  | PointerView => exact .ofExcept fun _ => responses.viewTarget

theorem readMapped_closes (objections : Objections fine) (responses : S.Responses fine pos)
    (inner : Inner stops fine pos child path) (f : BFLDID) (m : Mapping) :
    ∀ (type : MappedTy) (occ : Int), Closes stops fine path (readMapped S pos f child m type occ)
  | .base id, occ => readBase_closes objections responses inner f m id occ
  | .option type, occ =>
      .asked (fun _ => objections.mapped) fun _ _ => .asked (fun _ => objections.single) fun _ _ => .ite (.pure _)
        (.asked (fun _ => responses.isNull) fun _ _ =>
          .ite (.pure _) ((readMapped_closes objections responses inner f m type occ).bind fun _ => .pure _))
  | .vec type, _ =>
      .asked (fun _ => objections.mapped) fun _ _ => .asked (fun _ => objections.single) fun _ _ =>
        .asked (fun _ => responses.count) fun _ _ =>
          (Closes.all (readMapped_closes objections responses inner f m type) _).bind fun _ => .pure _
  | .array _ type, _ =>
      .asked (fun _ => objections.mapped) fun _ _ => .asked (fun _ => objections.single) fun _ _ =>
        .asked (fun _ => objections.occurrence) fun _ _ =>
          (Closes.all (fun _ => .asked (fun _ => objections.occurrence) fun _ _ =>
            readMapped_closes objections responses inner f m type _) _).bind fun _ => .pure _

omit [DecidableEq Addr] in
theorem orDefault_closes (objections : Objections fine) (responses : S.Responses fine pos) (f : BFLDID)
    (default : Bool) (value : Value) (occ : Int) {read : Reading Addr Value} (closes : Closes stops fine path read) :
    Closes stops fine path (orDefault S pos f default value occ read) :=
  .ite ((mappingPresent_closes objections responses f occ).bind fun _ => .ite closes (.pure _)) closes

theorem readPlacedAt_closes (objections : Objections fine) (responses : S.Responses fine pos)
    (inner : Inner stops fine pos child path) (base : Int) :
    ∀ placed : Placed, Closes stops fine path (readPlacedAt S D pos child base placed)
  | .skip => .pure _
  | .field f _ type default =>
      .asked (fun _ => objections.slot) fun _ _ =>
        orDefault_closes objections responses f default _ _ (readField_closes objections responses f type _)
  | .mapped m f _ type default =>
      .asked (fun _ => objections.slot) fun _ _ =>
        orDefault_closes objections responses f default _ _ (readMapped_closes objections responses inner f m type _)

theorem readRow_closes (objections : Objections fine) (responses : S.Responses fine pos)
    (inner : Inner stops fine pos child path) (name : String) (base : Int) :
    ∀ members : List (String × Placed), Closes stops fine path (readRow S D pos child name base members)
  | [] => .pure _
  | (member, placed) :: members =>
      (Closes.labelled (objections.about name member)
        (readPlacedAt_closes objections responses inner base placed)).bind fun _ =>
          (readRow_closes objections responses inner name base members).bind fun _ => .pure _

theorem readAt_closes (objections : Objections fine) (responses : S.Responses fine pos)
    (inner : Inner stops fine pos child path) (g : GroupDecl) (base : Int) :
    Closes stops fine path (readAt S D pos child g base) :=
  .asked (fun _ => objections.group) fun _ _ =>
    (readRow_closes objections responses inner g.name base g.members).bind fun _ => .pure _

theorem readGroup_closes (objections : Objections fine) (responses : S.Responses fine pos)
    (inner : Inner stops fine pos child path) (base : Int) (type : GroupTy) :
    Closes stops fine path (readGroup S D pos child base type) := by
  unfold readGroup
  split
  · exact .throw objections.unknown
  · rename_i g _
    cases type with
    | one id => exact readAt_closes objections responses inner g base
    | vec id =>
        refine .asked (fun _ => objections.group) fun _ _ => .asked (fun _ => objections.slot) fun _ _ =>
          .asked (fun _ => responses.count) fun _ _ => .asked (fun e refused => ?_) fun _ _ =>
            (Closes.all (readAt_closes objections responses inner g) _).bind fun _ => .pure _
        split at refused
        · exact objections.group refused
        · cases refused
    | array size id =>
        exact .asked (fun _ => objections.group) fun _ _ => .asked (fun _ => objections.occurrence) fun _ _ =>
          .asked (fun _ => objections.group) fun _ _ =>
            (Closes.all (fun _ => .asked (fun _ => objections.occurrence) fun _ _ =>
              readAt_closes objections responses inner g _) _).bind fun _ => .pure _

theorem readMember_closes (objections : Objections fine) (responses : S.Responses fine pos)
    (inner : Inner stops fine pos child path) (member : Member)
    (flat : ∀ id, member = .flatten id → Closes stops fine path (child id pos)) :
    Closes stops fine path (readMember S D pos child member) := by
  cases member with
  | placed placed =>
      cases placed with
      | skip => exact .pure _
      | field f occ type default =>
          exact orDefault_closes objections responses f default _ _ (readField_closes objections responses f type occ)
      | mapped m f occ type default =>
          exact orDefault_closes objections responses f default _ _
            (readMapped_closes objections responses inner f m type occ)
  | flatten id => exact flat id rfl
  | group occ type => exact readGroup_closes objections responses inner occ type

/-- **A struct's members close** where what they nest and flatten does. -/
theorem readMembers_closes (objections : Objections fine) (responses : S.Responses fine pos)
    (inner : Inner stops fine pos child path) (name : String) :
    ∀ members : List (String × Member),
      (∀ label id, (label, .flatten id) ∈ members → Closes stops fine path (child id pos)) →
      Closes stops fine path (readMembers S D pos child name members)
  | [], _ => .pure _
  | (label, member) :: members, flat =>
      (Closes.labelled (objections.about name label) (readMember_closes objections responses inner member
        fun id here => flat label id (here ▸ List.mem_cons_self))).bind fun _ =>
          (readMembers_closes objections responses inner name members fun label id there =>
            flat label id (List.mem_cons_of_mem _ there)).bind fun _ => .pure _

/-- A struct closes where its members do. -/
theorem deserialize_closes {fuel : Nat} {id : StructId} (objections : Objections fine)
    (members : ∀ decl, D.structs[id]? = some decl →
      Closes stops fine path (readMembers S D pos (deserialize S D fuel) decl.name decl.members)) :
    Closes stops fine path (deserialize S D (fuel + 1) id pos) := by
  unfold deserialize
  cases found : D.structs[id]? with
  | none => exact .throw objections.unknown
  | some decl => exact (members decl found).bind fun _ => .pure _

end Members

/-! ## Types without a bottom -/

/-- No struct flattens itself, directly or through others: what it flattens ranks below it. -/
def Decls.Grounded (D : Decls) : Prop :=
  ∃ rank : StructId → Nat, ∀ (id : StructId) (decl : Decl), D.structs[id]? = some decl →
    ∀ label inner, (label, Member.flatten inner) ∈ decl.members → rank inner < rank id

/-- The ranks of a program's structs have a bound. -/
theorem rank_bounded (rank : StructId → Nat) : ∀ count : Nat, ∃ bound, ∀ id < count, rank id ≤ bound
  | 0 => ⟨0, fun _ below => absurd below (Nat.not_lt_zero _)⟩
  | count + 1 => by
      obtain ⟨bound, bounded⟩ := rank_bounded rank count
      refine ⟨max bound (rank count), fun id below => ?_⟩
      rcases Nat.lt_succ_iff_lt_or_eq.1 below with earlier | rfl
      · exact Nat.le_trans (bounded id earlier) (Nat.le_max_left _ _)
      · exact Nat.le_max_right _ _

section Ends

variable {Addr : Type} [DecidableEq Addr] {S : Source Addr} {D : Decls} {rank : StructId → Nat} {bound : Nat}

/-- Any exit will do. -/
def anyExit : Exit → Prop := fun _ => True

theorem objections_any : Objections anyExit :=
  ⟨fun _ _ _ _ => trivial, fun _ => trivial, fun _ => trivial, fun _ => trivial, fun _ => trivial, fun _ => trivial,
    trivial⟩

omit [DecidableEq Addr] in
theorem responses_any (pos : S.Pos) : S.Responses anyExit pos :=
  ⟨fun _ => trivial, fun _ => trivial, fun _ => trivial, fun _ => trivial, fun _ => trivial, fun _ => trivial,
    fun _ => trivial⟩

/-- **A read with this much fuel ends.**  A scope leaves room for fewer scopes, and starts
at any struct; a flattened member is of a lower rank. -/
theorem deserialize_returns
    (grounded : ∀ (id : StructId) (decl : Decl), D.structs[id]? = some decl →
      ∀ label inner, (label, Member.flatten inner) ∈ decl.members → rank inner < rank id)
    (bounded : ∀ id < D.structs.length, rank id ≤ bound) :
    ∀ (fuel room : Nat) (id : StructId) (pos : S.Pos) (path : List Addr), 128 ≤ path.length + room →
      0 < fuel → (id < D.structs.length → room * (bound + 1) + rank id < fuel) →
      Closes False anyExit path (deserialize S D fuel id pos)
  | 0, _, _, _, _, _, fuelled, _ => absurd fuelled (Nat.lt_irrefl 0)
  | fuel + 1, room, id, pos, path, deep, _, enough => by
      refine deserialize_closes objections_any fun decl found => ?_
      have known : id < D.structs.length := (List.getElem?_eq_some_iff.1 found).1
      have fuelled := enough known
      refine readMembers_closes objections_any (responses_any pos) ?_ decl.name decl.members ?_
      · refine fun _ _ at_ _ inner => .withScope (fun _ => trivial) fun shallow => ?_
        obtain ⟨less, rfl⟩ : ∃ less, room = less + 1 := ⟨room - 1, by omega⟩
        have split : (less + 1) * (bound + 1) = less * (bound + 1) + (bound + 1) := Nat.succ_mul _ _
        refine deserialize_returns grounded bounded fuel less inner at_ _ ?_ (by omega) fun there => ?_
        · rw [List.length_cons]
          omega
        · have := bounded inner there
          omega
      · intro label inner flat
        have below := grounded id decl found label inner flat
        exact deserialize_returns grounded bounded fuel room inner pos path deep (by omega) fun _ => by omega

end Ends

/-! ## Buffers that point at one another -/

/-- A buffer in memory: its fields, and its address, an allocation and the way down to
what is embedded in it. -/
structure Site where
  fields : Typed.Fields
  address : Typed.Addr × List (Int × Int)

/-- The plain bytes of an occurrence. -/
def plainAt (f : BFLDID) (occ : Int) (fields : Typed.Fields) : Option (List UInt8) :=
  match Typed.bfind f occ.toNat fields with
  | some (.plain _ _ bytes) => if 0 ≤ occ then some bytes else none
  | _ => none

/-- Buffers in memory as reads find them, pointers followed from allocation to allocation. -/
def memory (N : Native) (s : Typed.State) : Source (Typed.Addr × List (Int × Int)) where
  Pos := Site
  address pos := pos.address
  count pos f := .ok (Typed.boccur f pos.fields)
  present pos f occ := 0 ≤ occ ∧ occ < Typed.boccur f pos.fields
  isNull pos f occ := match Typed.bfind f occ.toNat pos.fields with
    | some (.ptr target) => .ok (target = 0)
    | _ => .ok false
  scalar pos f occ type := (readScalar N f occ type (plainAt f occ pos.fields)).mapError .error
  embedded pos f occ := match Typed.bfind f occ.toNat pos.fields with
    | some (.ubf fields) => .ok ⟨fields, pos.address.1, (f.id, occ) :: pos.address.2⟩
    | _ => .error notPresent
  target pos f occ := match Typed.bfind f occ.toNat pos.fields with
    | some (.ptr target) =>
        if target = 0 then .error Typed.nullPointer
        else match s.typesOf target with
          | some info =>
              if info.typeName = "UBF" then .ok ⟨s.fieldsAt target, target, []⟩
              else .error ⟨.BTYPERR,
                s!"BFLD_PTR target is a {info.typeName} buffer, not UBF; use bget_ptr instead"⟩
          | none => .error ⟨.BTYPERR,
              s!"BFLD_PTR target is not a live ATMI buffer: {Typed.notABuffer.display}"⟩
    | _ => .error notPresent
  view pos f occ id := match plainAt f occ pos.fields with
    | some data => (N.viewRead id data).mapError .error
    | none => .error (.error notPresent)
  viewTarget pos f occ id := match Typed.bfind f occ.toNat pos.fields with
    | some (.ptr target) => match s.heap.get target with
        | some allocation =>
            if allocation.typeName = "VIEW" ∧ allocation.subtype = N.viewName id then
              (N.viewRead id (allocation.bytes.map (·.getD 0))).mapError .error
            else .error (.error ⟨.BTYPERR, "pointer target does not match the mapped VIEW"⟩)
        | none => .error (.error Typed.nullPointer)
    | _ => .error (.error notPresent)

/-! ## The result -/

/-- **Every read ends, and the path is what it was.**  Whatever buffers hold and however they
are linked, a read of any type in which no struct flattens itself ends in a value, an
error or a panic, on any path, which it leaves as it found it. -/
theorem reads_end_where_they_began {Addr : Type} [DecidableEq Addr] (S : Source Addr) (D : Decls)
    (grounded : D.Grounded) :
    ∃ enough, ∀ fuel, enough ≤ fuel → ∀ (id : StructId) (pos : S.Pos) (path : List Addr),
      ∃ outcome, (deserialize S D fuel id pos).run.run path = some (outcome, path) := by
  obtain ⟨rank, below⟩ := grounded
  obtain ⟨bound, bounded⟩ := rank_bounded rank D.structs.length
  refine ⟨128 * (bound + 1) + bound + 1, fun fuel enough id pos path => ?_⟩
  refine (deserialize_returns below bounded fuel 128 id pos path (by omega) (by omega) fun known => ?_).returns
  have := bounded id known
  omega

/-- A node of a list linked by pointers: `next: Option<Box<Node>>` in a pointer field. -/
def linkField : BFLDID := ⟨5, .Ptr⟩

def nodeTypes : Decls :=
  ⟨[⟨"Node", [("next", .placed (.mapped .PointerUbf linkField 0 (.option (.base 0)) false))], .struct []⟩], [], []⟩

theorem nodeTypes_grounded : nodeTypes.Grounded := by
  refine ⟨fun _ => 0, fun id decl found label inner flat => ?_⟩
  rcases id with _ | id
  · obtain rfl := Option.some.inj found
    simp at flat
  · simp [nodeTypes] at found

/-- A buffer that points at itself. -/
def ring : Typed.State :=
  { heap := Table.empty.set 1 { typeName := "UBF", bytes := [], fields := [(5, .ptr 1)] }, next := 2 }

/-- Read as a list, the ring ends, and the path is again what it was. -/
theorem ring_read_ends :
    ∃ enough, ∀ fuel, enough ≤ fuel → ∀ (id : StructId) (pos : Site) (path : List (Typed.Addr × List (Int × Int))),
      ∃ outcome, (deserialize (memory littleEndian ring) nodeTypes fuel id pos).run.run path =
        some (outcome, path) :=
  reads_end_where_they_began (memory littleEndian ring) nodeTypes nodeTypes_grounded

/-- A struct that flattens itself through a `Box`. -/
def loopTypes : Decls := ⟨[⟨"Loop", [("inner", .flatten 0)], .struct []⟩], [], []⟩

/-- It is read for ever. -/
theorem loop_never_read {Addr : Type} [DecidableEq Addr] (S : Source Addr) :
    ∀ (fuel : Nat) (pos : S.Pos) (path : List Addr), (deserialize S loopTypes fuel 0 pos).run.run path = none
  | 0, _, _ => rfl
  | fuel + 1, pos, path => by
      have inner := loop_never_read S fuel pos path
      unfold deserialize
      show StateT.run (ExceptT.run (readMembers S loopTypes pos (deserialize S loopTypes fuel) "Loop"
        [("inner", .flatten 0)] >>= _)) path = none
      unfold readMembers readLabelled readMember
      simp only [ExceptT.run_bind, ExceptT.run_lift, StateT.run_bind, StateT.run_map, inner,
        Option.bind_eq_bind, Option.map_eq_map, Option.map_none, Option.bind_none]

/-- So not every mapped type is read to an end. -/
theorem some_read_never_ends :
    ¬ ∀ (D : Decls) (s : Typed.State) (id : StructId) (pos : Site)
        (path : List (Typed.Addr × List (Int × Int))),
      ∃ fuel outcome, (deserialize (memory littleEndian s) D fuel id pos).run.run path =
        some (outcome, path) := by
  intro ends
  obtain ⟨fuel, outcome, ended⟩ := ends loopTypes ring 0 ⟨[], 1, []⟩ []
  exact nomatch (loop_never_read (memory littleEndian ring) fuel _ []).symm.trans ended

end Endurox.Ubf
