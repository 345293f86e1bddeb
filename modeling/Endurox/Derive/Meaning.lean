/-
# Derive.Meaning -- what the emitted code does

Emitted code run: a statement is a call of the mapping layer on the member of its name, its
error under the member's name.  What the attributes declare is a struct of the mapping layer
(`Rust.Declares`); `derived_code_means_declaration` says that the code which the derives emit
for it does what the mapping layer does for the struct, step by step and error by error.

`Rust` is what the compiler knows and the derives do not: the values of constant expressions,
and which impl a type has.
-/
import Endurox.Derive.Emitted
import Endurox.Ubf.Reading

namespace Endurox.Derive

open Endurox.Theory
open Endurox.Typed (BFLDID UbfError)
open Endurox.Ubf (Mapping StructId FieldTy MappedTy GroupTy Value Placed Member Decl Decls Native Writing Reading Source
  Exit labelled readLabelled illTyped ask writeField writeMapped writeGroup writeMember writeMembers readField readMapped
  readGroup readMember readMembers mappingPresent orDefault about)

set_option autoImplicit false

/-- What the compiler knows of a program. -/
structure Rust (Ty : Type) where
  /-- A constant that is a field identifier. -/
  field : Expr → BFLDID
  /-- A constant that is a number. -/
  int : Expr → Int
  /-- `impl UbfFieldSerialize`. -/
  fieldTy : Ty → Option FieldTy
  /-- `impl UbfMappedSerialize` with a strategy. -/
  mappedTy : Mapping → Ty → Option MappedTy
  /-- `impl UbfSerialize`. -/
  structTy : Ty → Option StructId
  /-- `impl UbfGroupFieldSerialize`. -/
  groupTy : Ty → Option GroupTy

section Meaning

variable {Ty : Type} (R : Rust Ty)

/-- An occurrence, the literal `0` unless it is given. -/
def Rust.occ (occ : Option Expr) : Int := (occ.map R.int).getD 0

/-! ## What is declared -/

/-- A member with a field of its own, as the mapping layer has it. -/
def Rust.placed (type : Ty) : Placement → Option Placed
  | .skip => some .skip
  | .field (some id) occ default =>
      (R.fieldTy type).map fun t => .field (R.field id) (R.occ occ) t default
  | .ubf pointer (some id) occ _ default =>
      let m : Mapping := if pointer then .PointerUbf else .EmbeddedUbf
      (R.mappedTy m type).map fun t => .mapped m (R.field id) (R.occ occ) t default
  | .view pointer (some id) occ default =>
      let m : Mapping := if pointer then .PointerView else .EmbeddedView
      (R.mappedTy m type).map fun t => .mapped m (R.field id) (R.occ occ) t default
  | _ => none

def Rust.member (type : Ty) : Placement → Option Member
  | .flatten => (R.structTy type).map .flatten
  | .group occ => (R.groupTy type).map (.group (R.occ occ))
  | place => (R.placed type place).map .placed

/-- The members as they are declared. -/
def Rust.Members (mapped : List (Field Ty)) (members : List (String × Member)) : Prop :=
  List.Forall₂ (fun field member => member.1 = field.ident ∧ R.member field.type field.place = some member.2)
    mapped members

/-- The struct of the mapping layer that an input declares. -/
def Rust.Declares (input : DeriveInput Ty) (decl : Decl) : Prop :=
  ∃ mapped, fields false input.data = .ok mapped ∧ decl.name = input.name ∧ R.Members mapped decl.members

/-! ## Emitted code that writes -/

section Writes

variable (N : Native) (D : Decls) (child : StructId → Value → Writing PUnit)

/-- A call, on the member's value. -/
def runCall (value : Value) (type : Ty) : Call → Writing PUnit
  | .field id occ =>
      (R.fieldTy type).elim (throw illTyped) fun t => writeField N (R.field id) t value (R.occ occ)
  | .mapped m id occ _ =>
      (R.mappedTy m type).elim (throw illTyped) fun t => writeMapped N child m (R.field id) t value (R.occ occ)
  | .flatten => (R.structTy type).elim (throw illTyped) fun id => child id value
  | .group occ =>
      (R.groupTy type).elim (throw illTyped) fun t => writeGroup N child D.groups (R.occ occ) t value

/-- `&self.ident`, which the compiler has found to be there. -/
def memberNamed (self : List (String × Value)) (ident : String) : Value :=
  (self.lookup ident).getD (.skipped none)

/-- The body of `ubf_serialize`. -/
def runWrites (name : String) (self : List (String × Value)) : List (Statement Ty) → Writing PUnit
  | [] => pure ⟨⟩
  | .write ident type call :: rest => do
      labelled name ident (runCall R N D child (memberNamed self ident) type call)
      runWrites name self rest
  | _ :: _ => throw illTyped

end Writes

/-! ## Emitted code that reads -/

section Reads

variable {Addr : Type} [DecidableEq Addr] (S : Source Addr) (D : Decls) (pos : S.Pos)
  (child : StructId → S.Pos → Reading Addr Value)

def readCall (type : Ty) : Call → Reading Addr Value
  | .field id occ =>
      (R.fieldTy type).elim (throw (.error illTyped)) fun t => readField S pos (R.field id) t (R.occ occ)
  | .mapped m id occ _ =>
      (R.mappedTy m type).elim (throw (.error illTyped)) fun t =>
        readMapped S pos (R.field id) child m t (R.occ occ)
  | .flatten => (R.structTy type).elim (throw (.error illTyped)) fun id => child id pos
  | .group occ => (R.groupTy type).elim (throw (.error illTyped)) fun t => readGroup S D pos child (R.occ occ) t

/-- `ubf_mapping_present` of the call's field and occurrence. -/
def presentCall : Call → Reading Addr Bool
  | .field id occ => mappingPresent S pos (R.field id) (R.occ occ)
  | .mapped _ id occ _ => mappingPresent S pos (R.field id) (R.occ occ)
  | _ => throw (.error illTyped)

/-- `Default::default()` of the member's type. -/
def defaultOf (type : Ty) : Call → Value
  | .field _ _ => ((R.fieldTy type).map FieldTy.default).getD (.skipped none)
  | .mapped m _ _ _ => ((R.mappedTy m type).map (MappedTy.default D m)).getD (.skipped none)
  | _ => .skipped none

def runRead (name : String) : Statement Ty → Reading Addr Value
  | .read ident type call => readLabelled name ident (readCall R S D pos child type call)
  | .readOrDefault ident type call => do
      let present ← readLabelled name ident (presentCall R S pos call)
      if present then readLabelled name ident (readCall R S D pos child type call)
      else pure (defaultOf R D type call)
  | .default _ _ => pure (.skipped none)
  | .write _ _ _ => throw (.error illTyped)

/-- The body of `ubf_deserialize`: the members of the struct literal, in order. -/
def runReads (name : String) : List (Statement Ty) → Reading Addr (List Value)
  | [] => pure []
  | statement :: rest => do
      let value ← runRead R S D pos child name statement
      let values ← runReads name rest
      pure (value :: values)

end Reads

end Meaning

/-! ## Errors under a name -/

section Labels

variable {M : Type → Type} [Monad M] [LawfulMonad M] {ε α β : Type}

/-- Errors renamed, as both mapping layers do it. -/
def relabelled (rename : ε → ε) (m : ExceptT ε M α) : ExceptT ε M α := do
  match ← ExceptT.lift m.run with
  | .ok a => pure a
  | .error e => throw (rename e)

theorem relabelled_run (rename : ε → ε) (m : ExceptT ε M α) :
    (relabelled rename m).run = m.run >>= fun result => pure (result.mapError rename) := by
  unfold relabelled
  rw [ExceptT.run_bind, ExceptT.run_lift, map_eq_pure_bind, bind_assoc]
  congr 1
  funext result
  cases result <;> simp [Except.mapError]

/-- A sequence is relabelled step by step. -/
theorem relabelled_bind (rename : ε → ε) (m : ExceptT ε M α) (next : α → ExceptT ε M β) :
    relabelled rename (m >>= next) = relabelled rename m >>= fun a => relabelled rename (next a) := by
  refine ExceptT.ext ?_
  simp only [relabelled_run, ExceptT.run_bind, bind_assoc, pure_bind]
  congr 1
  funext result
  cases result with
  | ok a => simp [Except.mapError]
  | error e => simp [Except.mapError]

theorem relabelled_pure (rename : ε → ε) (a : α) : relabelled rename (pure a : ExceptT ε M α) = pure a := by
  refine ExceptT.ext ?_
  simp [relabelled_run, Except.mapError]

end Labels

theorem labelled_eq {α : Type} (name member : String) (m : Writing α) :
    labelled name member m = relabelled (about name member) m := by
  unfold labelled relabelled
  congr 1
  funext result
  cases result <;> rfl

theorem readLabelled_eq {Addr α : Type} (name member : String) (m : Reading Addr α) :
    readLabelled name member m = relabelled (Exit.about name member) m := by
  unfold readLabelled relabelled
  congr 1
  funext result
  cases result <;> rfl

/-! ## A member -/

section Members

variable {Ty : Type} {R : Rust Ty} {type : Ty}

/-- The emitted code of a member does, in both directions, what the mapping layer does for it. -/
structure Carries (R : Rust Ty) (type : Ty) (call : Call) (default : Bool) (member : Member) : Prop where
  writes : ∀ N D child value, runCall R N D child value type call = writeMember N D child value member
  reads : ∀ {Addr : Type} [DecidableEq Addr] (S : Source Addr) D pos child name ident,
    runRead R S D pos child name (if default then .readOrDefault ident type call else .read ident type call) =
      readLabelled name ident (readMember S D pos child member)

/-- A default is taken where nothing is present. -/
theorem orDefault_labelled {Addr : Type} [DecidableEq Addr] (S : Source Addr) (pos : S.Pos) (f : BFLDID) (default : Bool)
    (value : Value) (occ : Int) (read : Reading Addr Value) (name ident : String) :
    readLabelled name ident (orDefault S pos f default value occ read) =
      if default then do
        let present ← readLabelled name ident (mappingPresent S pos f occ)
        if present then readLabelled name ident read else pure value
      else readLabelled name ident read := by
  unfold orDefault
  cases default with
  | false => rfl
  | true =>
      simp only [readLabelled_eq, if_true, relabelled_bind]
      congr 1
      funext present
      cases present with
      | true => rfl
      | false => exact relabelled_pure _ value

theorem carries_field {id : Expr} {occ : Option Expr} {t : FieldTy} (typed : R.fieldTy type = some t) (default : Bool) :
    Carries R type (.field id occ) default (.placed (.field (R.field id) (R.occ occ) t default)) where
  writes N D child value := by
    unfold runCall
    rw [typed]
    rfl
  reads S D pos child name ident := by
    unfold readMember
    rw [orDefault_labelled]
    cases default <;> simp [runRead, readCall, presentCall, defaultOf, typed]

theorem carries_mapped {m : Mapping} {id : Expr} {occ size : Option Expr} {t : MappedTy}
    (typed : R.mappedTy m type = some t) (default : Bool) :
    Carries R type (.mapped m id occ size) default (.placed (.mapped m (R.field id) (R.occ occ) t default)) where
  writes N D child value := by
    simp only [runCall, typed]
    rfl
  reads S D pos child name ident := by
    unfold readMember
    rw [orDefault_labelled]
    cases default <;> simp [runRead, readCall, presentCall, defaultOf, typed]

theorem carries_member (ident : String) {place : Placement} {member : Member} (declared : R.member type place = some member) :
    (place = .skip ∧ member = .placed .skip) ∨
      ∃ call, place.call false ident = some call ∧ Carries R type call place.default member := by
  cases place with
  | skip =>
      cases declared
      exact .inl ⟨rfl, rfl⟩
  | flatten =>
      obtain ⟨id, typed, rfl⟩ := Option.map_eq_some_iff.1 declared
      refine .inr ⟨_, rfl, ⟨fun N D child value => ?_, fun S D pos child name ident => ?_⟩⟩
      · unfold runCall
        rw [typed]
        rfl
      · simp [runRead, readCall, Placement.default, typed, readMember]
  | group occ =>
      obtain ⟨t, typed, rfl⟩ := Option.map_eq_some_iff.1 declared
      refine .inr ⟨_, rfl, ⟨fun N D child value => ?_, fun S D pos child name ident => ?_⟩⟩
      · unfold runCall
        rw [typed]
        rfl
      · simp [runRead, readCall, Placement.default, typed, readMember]
  | field id occ default =>
      cases id with
      | none => cases declared
      | some id =>
          obtain ⟨placed, given, rfl⟩ := Option.map_eq_some_iff.1 declared
          obtain ⟨t, typed, rfl⟩ := Option.map_eq_some_iff.1 given
          exact .inr ⟨_, rfl, carries_field typed default⟩
  | ubf pointer id occ size default =>
      cases id with
      | none => cases declared
      | some id =>
          obtain ⟨placed, given, rfl⟩ := Option.map_eq_some_iff.1 declared
          obtain ⟨t, typed, rfl⟩ := Option.map_eq_some_iff.1 given
          exact .inr ⟨_, rfl, carries_mapped typed default⟩
  | view pointer id occ default =>
      cases id with
      | none => cases declared
      | some id =>
          obtain ⟨placed, given, rfl⟩ := Option.map_eq_some_iff.1 declared
          obtain ⟨t, typed, rfl⟩ := Option.map_eq_some_iff.1 given
          exact .inr ⟨_, rfl, carries_mapped typed default⟩

end Members

/-! ## A struct -/

section Struct

variable {Ty : Type} {R : Rust Ty}

/-- The members of a value by name. -/
def selfOf {α : Type} (members : List (String × α)) (values : List Value) : List (String × Value) :=
  (members.map Prod.fst).zip values

/-- Statements about a list of members write them one by one. -/
theorem runWrites_members (N : Native) (D : Decls) (child : StructId → Value → Writing PUnit) (name : String)
    (self : List (String × Value)) {mapped : List (Field Ty)} {members : List (String × Member)}
    (declared : R.Members mapped members) : ∀ {values : List Value},
      List.Forall₂ (fun member value => memberNamed self member.1 = value) members values →
        runWrites R N D child name self (mapped.flatMap (statementsOf false true)) =
          writeMembers N D child name members values := by
  induction declared with
  | nil =>
      intro values each
      cases each
      rfl
  | cons first _ ih =>
      rename_i field member mapped members _
      intro values each
      obtain ⟨label, member⟩ := member
      obtain ⟨rfl, meant⟩ := first
      cases each with
      | cons here rest =>
          rename_i value values
          unfold writeMembers
          rw [← ih rest, List.flatMap_cons]
          rcases carries_member field.ident meant with ⟨skipped, rfl⟩ | ⟨call, called, carries⟩
          · simp only [statementsOf, skipped, Placement.call, if_true, List.nil_append, writeMember]
            rw [labelled_eq, relabelled_pure]
            rfl
          · simp only [statementsOf, called, if_true, List.cons_append, List.nil_append, runWrites]
            rw [carries.writes, here]

/-- Statements about a list of members read them one by one. -/
theorem runReads_members {Addr : Type} [DecidableEq Addr] (S : Source Addr) (D : Decls) (pos : S.Pos)
    (child : StructId → S.Pos → Reading Addr Value) (name : String) {mapped : List (Field Ty)}
    {members : List (String × Member)} (declared : R.Members mapped members) :
    runReads R S D pos child name (mapped.flatMap (statementsOf false false)) =
      readMembers S D pos child name members := by
  induction declared with
  | nil => rfl
  | cons first _ ih =>
      rename_i field member mapped members _
      obtain ⟨label, member⟩ := member
      obtain ⟨rfl, meant⟩ := first
      unfold readMembers
      rw [← ih, List.flatMap_cons]
      rcases carries_member field.ident meant with ⟨skipped, rfl⟩ | ⟨call, called, carries⟩
      · simp only [statementsOf, skipped, Placement.call, Bool.false_eq_true, if_false, List.cons_append,
          List.nil_append, runReads, runRead, readMember]
        rw [readLabelled_eq, relabelled_pure]
      · simp only [statementsOf, called, Bool.false_eq_true, if_false, List.cons_append, List.nil_append, runReads]
        rw [carries.reads]

/-- Members of different names are found under them. -/
theorem named_after {α : Type} : ∀ {members : List (String × α)} {values : List Value} (before : List (String × Value)),
    (∀ member ∈ members, member.1 ∉ before.map Prod.fst) → (members.map Prod.fst).Nodup →
      values.length = members.length →
        List.Forall₂ (fun member value => memberNamed (before ++ selfOf members values) member.1 = value) members values
  | [], [], _, _, _, _ => .nil
  | [], _ :: _, _, _, _, whole => by cases whole
  | _ :: _, [], _, _, _, whole => by cases whole
  | (label, member) :: members, value :: values, before, fresh, distinct, whole => by
      obtain ⟨alone, distinct⟩ := List.nodup_cons.1 distinct
      have missed : before.lookup label = none := by
        refine List.lookup_eq_none_iff.2 fun entry among => bne_iff_ne.2 ?_
        rintro rfl
        exact fresh _ List.mem_cons_self (List.mem_map_of_mem among)
      have later : ∀ other ∈ members, other.1 ∉ (before ++ [(label, value)]).map Prod.fst := by
        intro other among
        rw [List.map_append, List.mem_append, not_or]
        refine ⟨fresh other (List.mem_cons_of_mem _ among), fun same => ?_⟩
        rw [List.map_singleton, List.mem_singleton] at same
        exact alone (same ▸ List.mem_map_of_mem among)
      have rest := named_after (before ++ [(label, value)]) later distinct (Nat.succ.inj whole)
      refine .cons ?_ ?_
      · simp [memberNamed, selfOf, List.lookup_append, missed]
      · simpa [selfOf] using rest

/-- **The derived code means what is declared.**  For whatever struct the attributes of an accepted input
declare, with whatever a buffer holds: the emitted `ubf_serialize`, on a value of it, makes the calls of the
mapping layer in its order and fails as it does, and the emitted `ubf_deserialize` reads as it does. -/
theorem derived_code_means_declaration (pathOf : PathParser) (R : Rust Ty) (input : DeriveInput Ty) (decl : Decl)
    (declared : R.Declares input decl) (distinct : (decl.members.map Prod.fst).Nodup) :
    (∀ writer, expand pathOf false true input = .ok writer → ∀ N D child values, values.length = decl.members.length →
      runWrites R N D child writer.name (selfOf decl.members values) writer.body =
        writeMembers N D child decl.name decl.members values) ∧
    (∀ reader, expand pathOf false false input = .ok reader →
      ∀ {Addr : Type} [DecidableEq Addr] (S : Source Addr) D pos child,
        runReads R S D pos child reader.name reader.body = readMembers S D pos child decl.name decl.members) := by
  obtain ⟨mapped, read, named, members⟩ := declared
  constructor
  · intro writer ok N D child values whole
    obtain ⟨container, mapped', -, read', -, -, rfl⟩ := expand_eq_ok.1 ok
    cases read.symm.trans read'
    have found := named_after [] (fun _ _ => List.not_mem_nil) distinct whole
    rw [named]
    exact runWrites_members N D child input.name _ members found
  · intro reader ok Addr _ S D pos child
    obtain ⟨container, mapped', -, read', -, -, rfl⟩ := expand_eq_ok.1 ok
    cases read.symm.trans read'
    rw [named]
    exact runReads_members S D pos child input.name members

/-- A program with two long fields, where every member is a 64-bit integer. -/
def longs : Rust Unit where
  field id := if id = .other "T_LONG_2_FLD" then ⟨33554434, .Long⟩ else ⟨33554433, .Long⟩
  int value := if value = .other "2" then 2 else 0
  fieldTy _ := some (.scalar (.int Ubf.longMin Ubf.longMax))
  mappedTy _ _ := none
  structTy _ := none
  groupTy _ := none

/-- What `joined` declares. -/
def row : Decl where
  name := "Row"
  members := [("n", .placed (.field ⟨33554433, .Long⟩ 2 (.scalar (.int Ubf.longMin Ubf.longMax)) true))]

theorem joined_row : ∃ writer, expand .ok false true joined = .ok writer ∧
    runWrites longs Ubf.littleEndian ⟨[row], [], []⟩ (fun _ _ => pure ⟨⟩) writer.name [("n", .scalar (.int 7))]
      writer.body =
        writeMembers Ubf.littleEndian ⟨[row], [], []⟩ (fun _ _ => pure ⟨⟩) "Row" row.members [.scalar (.int 7)] := by
  have declared : longs.Declares joined row := ⟨_, rfl, rfl, .cons ⟨rfl, rfl⟩ .nil⟩
  exact ⟨_, rfl, (derived_code_means_declaration .ok longs joined row declared (by decide)).1 _ rfl _ _ _
    [.scalar (.int 7)] rfl⟩

end Struct

end Endurox.Derive
