/-
# Typed.Endings -- how a deep clone ends

A native call that fails ends the clone: `Grants m` says that whenever `m` succeeds,
every answer it took was a success, but for a write that asked for more room and was
tried again.  With what `clone_ubf` makes and what it gives back this says what a
deep clone leaves, however it ends.
-/
import Endurox.Theory.Success
import Endurox.Typed.DeepClone

namespace Endurox.Typed

open Endurox.Theory State

set_option autoImplicit false

/-! ## Answers taken -/

/-- Those before the ones to come were taken, and each is good. -/
def Taken {α : Type} (good : α → Prop) (before later : List α) : Prop :=
  ∃ taken, before = taken ++ later ∧ ∀ answer ∈ taken, good answer

section Taken

variable {α : Type} {good : α → Prop} {before between later : List α}

theorem Taken.refl (answers : List α) : Taken good answers answers :=
  ⟨[], rfl, fun _ none => absurd none List.not_mem_nil⟩

theorem Taken.trans (first : Taken good before between) (second : Taken good between later) :
    Taken good before later := by
  obtain ⟨taken, rfl, fine⟩ := first
  obtain ⟨more, rfl, fine'⟩ := second
  exact ⟨taken ++ more, (List.append_assoc _ _ _).symm, List.forall_mem_append.2 ⟨fine, fine'⟩⟩

theorem Taken.one {answer : α} (here : before = answer :: later) (fine : good answer) : Taken good before later :=
  ⟨[answer], here, List.forall_mem_singleton.2 fine⟩

end Taken

/-- Every call answered between was a success, but for a write that asked for more room. -/
structure Answers.Granted (before later : Answers) : Prop where
  allocs : Taken (fun answer => ∃ more, answer.result = .ok more) before.allocs later.allocs
  reallocs : Taken (fun answer => ∃ grown, answer.result = .ok grown) before.reallocs later.reallocs
  types : Taken (· = none) before.types later.types
  writes : Taken (fun failure => ∀ e, failure = some e → e.code = .BNOSPACE) before.writes later.writes
  shell : Taken (· = none) before.shell later.shell
  calls : Taken (· = none) before.calls later.calls

namespace Answers.Granted

variable {before between later : Answers}

theorem refl (answers : Answers) : answers.Granted answers :=
  ⟨.refl _, .refl _, .refl _, .refl _, .refl _, .refl _⟩

theorem trans (first : before.Granted between) (second : between.Granted later) : before.Granted later where
  allocs := first.allocs.trans second.allocs
  reallocs := first.reallocs.trans second.reallocs
  types := first.types.trans second.types
  writes := first.writes.trans second.writes
  shell := first.shell.trans second.shell
  calls := first.calls.trans second.calls

end Answers.Granted

/-- Taking a good answer of the queue is a call granted. -/
def Queue.Grants {α : Type} (queue : Queue α) (good : α → Prop) : Prop :=
  ∀ (answers : Answers) (answer : α) (later : List α), queue.read answers = answer :: later → good answer →
    answers.Granted (queue.write later answers)

namespace Queue

theorem allocs_grants : allocs.Grants fun answer => ∃ more, answer.result = .ok more := fun answers _ _ here fine =>
  { Answers.Granted.refl answers with allocs := .one here fine }

theorem reallocs_grants : reallocs.Grants fun answer => ∃ grown, answer.result = .ok grown :=
  fun answers _ _ here fine =>
    { Answers.Granted.refl answers with reallocs := .one here fine }

theorem types_grants : types.Grants (· = none) := fun answers _ _ here fine =>
  { Answers.Granted.refl answers with types := .one here fine }

theorem writes_grants : writes.Grants fun failure => ∀ e, failure = some e → e.code = .BNOSPACE :=
  fun answers _ _ here fine =>
    { Answers.Granted.refl answers with writes := .one here fine }

theorem shell_grants : shell.Grants (· = none) := fun answers _ _ here fine =>
  { Answers.Granted.refl answers with shell := .one here fine }

theorem calls_grants : calls.Grants (· = none) := fun answers _ _ here fine =>
  { Answers.Granted.refl answers with calls := .one here fine }

theorem displaced_grants : displaced.Grants fun _ => True := fun _ _ _ _ _ =>
  ⟨.refl _, .refl _, .refl _, .refl _, .refl _, .refl _⟩

theorem present_grants : present.Grants fun _ => True := fun _ _ _ _ _ =>
  ⟨.refl _, .refl _, .refl _, .refl _, .refl _, .refl _⟩

end Queue

/-! ## Code whose success was granted -/

/-- Whenever it succeeds, every native call it made was granted. -/
def Grants {ε α : Type} (m : Fallible ε State α) : Prop :=
  ∀ s a s', Succeeds m s a s' → s.answers.Granted s'.answers

namespace Grants

variable {ε α β γ : Type}

theorem pure {a : α} : Grants (Pure.pure a : Fallible ε State α) := fun _ _ _ ran =>
  (succeeds_pure.1 ran).2 ▸ .refl _

theorem throw {e : ε} : Grants (throw e : Fallible ε State α) := fun _ _ _ ran => absurd ran succeeds_throw

theorem bind {m : Fallible ε State α} {f : α → Fallible ε State β} (first : Grants m) (rest : ∀ a, Grants (f a)) :
    Grants (m >>= f) := fun _ _ _ ran => by
  obtain ⟨a, between, before, after⟩ := succeeds_bind.1 ran
  exact (first _ _ _ before).trans (rest a _ _ _ after)

theorem get : Grants (get : Fallible ε State State) := fun _ _ _ ran => (succeeds_get.1 ran).2 ▸ .refl _

theorem ofExcept {result : Except ε α} : Grants (MonadExcept.ofExcept result : Fallible ε State α) := fun _ _ _ ran =>
  (succeeds_ofExcept.1 ran).2 ▸ .refl _

theorem throwIf {c : Prop} [Decidable c] {e : ε} : Grants (throwIf c e : Fallible ε State PUnit) := fun _ _ _ ran =>
  (succeeds_throwIf.1 ran).2 ▸ .refl _

theorem runIf {c : Prop} [Decidable c] {m : Fallible ε State PUnit} (grants : Grants m) : Grants (runIf c m) :=
  fun _ _ _ ran => by
    rcases succeeds_runIf.1 ran with ⟨-, ran⟩ | ⟨-, rfl⟩
    · exact grants _ _ _ ran
    · exact .refl _

/-- A change of anything but the answers to come. -/
theorem modify {change : State → State} (same : ∀ s, (change s).answers = s.answers) :
    Grants (modify change : Fallible ε State PUnit) := fun s _ _ ran => by
  rw [← succeeds_modify.1 ran, same]
  exact .refl _

theorem modifyGet {change : State → α × State} (same : ∀ s, (change s).2.answers = s.answers) :
    Grants (modifyGet change : Fallible ε State α) := fun s _ _ ran => by
  cases ran
  show s.answers.Granted (change s).2.answers
  rw [same]
  exact .refl _

/-- What only looks takes no answer. -/
theorem outcome {m : Fallible ε State α} (looks : ∀ s, (m.run.run s).2 = s) : Grants (outcomeOf m) :=
  fun s _ _ ran => by
    have ended := congrArg Prod.snd (succeeds_outcomeOf.1 ran)
    rw [looks] at ended
    rw [show s = _ from ended]
    exact .refl _

/-- The next answer of a queue, and what follows: what follows a bad one does not succeed. -/
theorem next {queue : Queue β} {good : β → Prop} {f : β → Fallible ε State α} (granted : queue.Grants good)
    (rest : ∀ answer, Grants (f answer)) (refused : ∀ answer s a s', ¬ good answer → ¬ Succeeds (f answer) s a s') :
    Grants (liftM (Typed.next queue) >>= f) := fun s _ _ ran => by
  obtain ⟨answer, between, taken, after⟩ := succeeds_bind.1 ran
  refine .trans ?_ (rest answer _ _ _ after)
  have fine : good answer := Classical.byContradiction fun bad => refused answer _ _ _ bad after
  rcases next_cases queue s with ⟨-, none⟩ | ⟨answer', later, here, some⟩
  · cases none.symm.trans (succeeds_lift.1 taken)
    exact .refl _
  · cases some.symm.trans (succeeds_lift.1 taken)
    exact granted _ _ _ here fine

theorem foldlM {f : β → γ → Fallible ε State β} (step : ∀ b c, Grants (f b c)) :
    ∀ (items : List γ) (b : β), Grants (items.foldlM f b)
  | [], _ => pure
  | item :: rest, b => by
      rw [List.foldlM_cons]
      exact bind (step b item) fun b => foldlM step rest b

end Grants

/-! ### Questions -/

section Questions

variable {α : Type}

theorem call_grants : Grants call := by
  unfold call
  refine .next Queue.calls_grants (fun failure => ?_) fun failure s a s' bad ran => ?_
  · cases failure with
    | none => exact .pure
    | some e => exact .throw
  · cases failure with
    | none => exact bad rfl
    | some e => exact succeeds_throw ran

theorem requireFieldType_grants (f : BFLDID) (want : UbfFieldType) (what : String) :
    Grants (requireFieldType f want what) := .bind call_grants fun _ => .throwIf

/-- Looking at the type of an allocation takes no answer. -/
theorem tptypesOf_looks (failure : Option AtmiError) (ptr : Addr) (s : State) :
    ((tptypesOf failure ptr).run.run s).2 = s := (tptypesOf_ends (P := (· = s)) failure ptr s rfl).1

theorem tptypes_grants (ptr : Addr) : Grants (tptypes ptr) := by
  unfold tptypes
  refine .next Queue.types_grants (fun failure s a s' ran => ?_) fun failure s a s' bad ran => ?_
  · have ended := congrArg Prod.snd ran
    rw [tptypesOf_looks] at ended
    exact ended ▸ .refl _
  · cases failure with
    | none => exact bad rfl
    | some e => cases ran

theorem allocating_grants {m : AtmiM α} (grants : Grants m) : Grants (allocating m) := by
  intro s a s' ran
  unfold allocating at ran
  obtain ⟨result, between, first, after⟩ := succeeds_bind.1 ran
  cases result with
  | error e => exact absurd after succeeds_throw
  | ok b =>
      obtain ⟨-, rfl⟩ := succeeds_pure.1 after
      exact grants s b between (succeeds_lift.1 first)

/-- What owns a value succeeds as it does without. -/
theorem orDrop_grants {id : BufId} {m : UbfM α} (grants : Grants m) : Grants (orDrop id m) := by
  intro s a s' ran
  unfold orDrop at ran
  obtain ⟨result, between, first, after⟩ := succeeds_bind.1 ran
  cases result with
  | ok b =>
      obtain ⟨-, rfl⟩ := succeeds_pure.1 after
      exact grants s b between (succeeds_outcomeOf.1 first)
  | error e =>
      obtain ⟨_, _, -, thrown⟩ := succeeds_bind.1 after
      exact absurd thrown succeeds_throw

end Questions

/-! ### Roots and trees -/

theorem Asked.next_grants {α : Type} (asked : Asked) {f : Option UbfError → UbfM α} (rest : ∀ answer, Grants (f answer)) :
    Grants (liftM asked.next >>= f) := by
  cases asked with
  | displaced => exact .next Queue.displaced_grants rest fun _ _ _ _ bad => absurd trivial bad
  | scanned => exact .next Queue.present_grants rest fun _ _ _ _ bad => absurd trivial bad

theorem ptrRoots_grants (asked : Asked) (target : Addr) : Grants (ptrRoots asked target) := by
  unfold ptrRoots
  refine asked.next_grants fun failure => ?_
  cases failure with
  | some e => exact .pure
  | none => exact .bind call_grants fun _ => .pure

theorem collectRoots_grants (asked : Asked) : ∀ (fuel : Nat) (fields : Fields), Grants (collectRoots asked fuel fields)
  | 0, _ => .throw
  | fuel + 1, fields => by
      unfold collectRoots
      refine .foldlM (fun roots item => .bind call_grants fun _ => ?_) fields []
      cases item.2 with
      | plain type inline bytes => exact .pure
      | ptr target => exact .bind (ptrRoots_grants asked target) fun _ => .pure
      | ubf nested => exact .bind call_grants fun _ => .bind (collectRoots_grants asked fuel nested) fun _ => .pure

theorem ownedFieldRoots_grants (asked : Asked) (f : BFLDID) (occ : Nat) (fields : Fields) :
    Grants (ownedFieldRoots asked f occ fields) := by
  unfold ownedFieldRoots
  split
  · exact .pure
  · exact ptrRoots_grants asked _
  · refine asked.next_grants fun failure => ?_
    cases failure with
    | some e => exact .pure
    | none => exact .bind call_grants fun _ => collectRoots_grants asked 129 _
  · refine asked.next_grants fun failure => ?_
    cases failure with
    | some e => exact .pure
    | none => exact .bind call_grants fun _ => .pure

theorem uniqueTargets_grants : ∀ (fuel : Nat) (fields : Fields) (seen : List Addr), Grants (uniqueTargets fuel fields seen)
  | 0, _, _ => .throw
  | fuel + 1, fields, seen => by
      unfold uniqueTargets
      refine .foldlM (fun seen item => .bind call_grants fun _ => ?_) fields seen
      cases item.2 with
      | plain type inline bytes => exact .pure
      | ubf nested => exact .bind call_grants fun _ => uniqueTargets_grants fuel nested seen
      | ptr target =>
          refine .bind (ptrRoots_grants .scanned target) fun roots => .foldlM (fun seen target => ?_) roots seen
          refine .bind .throwIf fun _ => .bind (allocating_grants (tptypes_grants target)) fun info => ?_
          split
          · exact .bind .get fun s => uniqueTargets_grants fuel (s.fieldsAt target) (target :: seen)
          · exact .pure

theorem ensureOwnedTree_grants (id : BufId) : Grants (ensureOwnedTree id) :=
  .bind .get fun _ => .bind (uniqueTargets_grants 128 _ _) fun _ => .pure

theorem displacedRoots_grants (id : BufId) (f : BFLDID) (occ : Nat) : Grants (displacedRoots id f occ) :=
  .bind .get fun _ => .bind (ownedFieldRoots_grants .displaced f occ _) fun _ =>
    .bind (.runIf (ensureOwnedTree_grants id)) fun _ => .pure

/-! ### Writes -/

theorem setBuffer_answers (id : BufId) (buffer : TypedBuffer) (s : State) :
    (s.setBuffer id buffer).answers = s.answers := (setBuffer_rest id buffer s).2.2.2.2

theorem changeFields_answers (id : BufId) (change : Fields → Fields) (s : State) :
    (s.changeFields id change).answers = s.answers := by simp [State.changeFields]

theorem refuseShrink_grants (newSize : Nat) (viewSize : String → Except UbfError Nat) (types : Except AtmiError TpTypeInfo) :
    Grants (refuseShrink newSize viewSize types) := by
  unfold refuseShrink
  split
  · split
    · exact .throwIf
    · exact .pure
  · exact .pure

theorem clearGrowth_grants (ptr : Addr) (before grown : Except AtmiError TpTypeInfo) :
    Grants (clearGrowth ptr before grown) := by
  unfold clearGrowth
  split
  · exact .runIf (.modify fun s => (rewrite_rest ptr _ s).2.2.2.1)
  · exact .pure

theorem reallocate_answers (ptr : Addr) (size : Nat) (moves : Bool) (s : State) :
    (s.reallocate ptr size moves).2.answers = s.answers := by
  unfold State.reallocate
  split
  · split
    · split
      · exact (bury_rest ptr s).2.2.2
      · rfl
    · rfl
  · rfl

theorem tprealloc_grants (id : BufId) (newSize : Nat) : Grants (tprealloc id newSize) := by
  unfold tprealloc
  refine .bind .get fun s => .next Queue.reallocs_grants (fun answer => ?_) fun answer s a s' bad ran => ?_
  · refine .bind (.outcome fun _ => tptypesOf_looks _ _ _) fun before => .bind .throwIf fun _ =>
      .bind (refuseShrink_grants newSize _ before) fun _ => ?_
    cases answer.result with
    | error e => exact .throw
    | ok grown =>
        refine .bind (.modifyGet fun s => reallocate_answers _ _ _ s) fun moved => ?_
        cases moved with
        | none => exact .throw
        | some ptr =>
            exact .bind (.outcome fun _ => tptypesOf_looks _ _ _) fun after => .bind (clearGrowth_grants ptr before after)
              fun _ => .modify fun s => setBuffer_answers id _ s
  · obtain ⟨_, _, -, ran⟩ := succeeds_bind.1 ran
    obtain ⟨_, _, -, ran⟩ := succeeds_bind.1 ran
    obtain ⟨_, _, -, ran⟩ := succeeds_bind.1 ran
    cases result : answer.result with
    | ok grown => exact bad ⟨grown, result⟩
    | error e =>
        rw [result] at ran
        exact succeeds_throw ran

theorem growBuffer_grants (id : BufId) : Grants (growBuffer id) :=
  .bind call_grants fun _ => .bind .get fun _ => allocating_grants (tprealloc_grants id _)

/-- A write refused for want of room is tried again; refused for another reason it is given up. -/
theorem untilFits_grants {α : Type} {id : BufId} {realloc : Bool} {look : UbfM α} {store : α → UbfM Unit}
    (looks : Grants look) (stores : ∀ found, Grants (store found)) : ∀ fuel, Grants (untilFits id realloc look store fuel)
  | 0 => .throw
  | fuel + 1 => by
      unfold untilFits
      refine .bind looks fun found => .next Queue.writes_grants (fun failure => ?_) fun failure s a s' bad ran => ?_
      · cases failure with
        | none => exact stores found
        | some e =>
            show Grants (if e.code = .BNOSPACE ∧ realloc then _ else _)
            split
            · exact .bind (growBuffer_grants id) fun _ => untilFits_grants looks stores fuel
            · exact .throw
      · cases failure with
        | none => exact bad fun e impossible => by cases impossible
        | some e =>
            have other : e.code ≠ .BNOSPACE := fun same => bad fun e' here => Option.some.inj here ▸ same
            replace ran : Succeeds (if e.code = .BNOSPACE ∧ realloc then _ else _) s a s' := ran
            rw [if_neg fun both => other both.1] at ran
            exact succeeds_throw ran

theorem writing_grants {α : Type} {id : BufId} {realloc : Bool} {look : UbfM α} {store : α → UbfM Unit}
    (looks : Grants look) (stores : ∀ found, Grants (store found)) : Grants (writing id realloc look store) :=
  .bind .get fun _ => untilFits_grants looks stores _

theorem putNative_grants (id : BufId) (f : BFLDID) (occ : Nat) (value : FieldValue) (realloc : Bool) :
    Grants (putNative id f occ value realloc) :=
  writing_grants .pure fun _ => .modify fun s => changeFields_answers id _ s

theorem clearShell_grants (child : BufId) (previous : List Addr) : Grants (clearShell child previous) := by
  have given_up (s : State) (a : Unit) (s' : State) : ¬ Succeeds (do
      modify (State.forget child)
      modify (State.freeRoots previous)
      throw ⟨.BEINVAL, "failed to clear transferred UBF shell"⟩ : UbfM Unit) s a s' := fun ran => by
    obtain ⟨_, _, -, ran⟩ := succeeds_bind.1 ran
    obtain ⟨_, _, -, ran⟩ := succeeds_bind.1 ran
    exact succeeds_throw ran
  unfold clearShell
  refine .next Queue.shell_grants (fun sized => ?_) fun sized s a s' bad ran => ?_
  · cases sized with
    | some e => exact .throw
    | none =>
        refine .next Queue.shell_grants (fun emptied => ?_) fun emptied s a s' bad ran => ?_
        · cases emptied with
          | none => exact .modify fun s => changeFields_answers child _ s
          | some e => exact fun s a s' ran => absurd ran (given_up s a s')
        · cases emptied with
          | none => exact bad rfl
          | some e => exact given_up s a s' ran
  · cases sized with
    | none => exact bad rfl
    | some e => exact succeeds_throw ran

theorem drop_answers (id : BufId) (s : State) : (s.drop id).answers = s.answers := (tpfree_rest _ _).2.2.2

theorem putOwnedUbf_grants (id : BufId) (f : BFLDID) (occ : Nat) (child : BufId) (realloc : Bool) :
    Grants (putOwnedUbf id f occ child realloc) :=
  orDrop_grants (.bind (requireFieldType_grants f .Ubf _) fun _ => .bind call_grants fun _ => .bind .get fun _ =>
    .bind .throwIf fun _ => .bind (displacedRoots_grants id f occ) fun previous =>
      .bind (putNative_grants id f occ _ realloc) fun _ => .bind (.runIf (clearShell_grants child previous)) fun _ =>
        .bind (.modify fun s => drop_answers child s) fun _ => .modify fun s => (freeRoots_rest previous s).2.2)

theorem replacedPtr_grants (id : BufId) (f : BFLDID) (occ : Option Nat) : Grants (replacedPtr id f occ) := by
  unfold replacedPtr
  refine .bind .get fun s => ?_
  split
  · split
    · exact .pure
    · refine .next Queue.displaced_grants (fun failure => ?_) fun _ _ _ _ bad => absurd trivial bad
      cases failure with
      | some e => exact .pure
      | none => exact .bind (ensureOwnedTree_grants id) fun _ => .pure
  · exact .pure

theorem storePtr_answers (id : BufId) (f : BFLDID) (occ : Option Nat) (child : BufId) (replaced : Option Addr) (s : State) :
    (storePtr id f occ child replaced s).answers = s.answers := by
  unfold storePtr
  cases replaced with
  | none => exact changeFields_answers id _ s
  | some previous => exact (tpfree_rest previous _).2.2.2.trans (changeFields_answers id _ s)

theorem writePointer_grants (id : BufId) (f : BFLDID) (occ : Nat) (child : BufId) (realloc : Bool) :
    Grants (writeValue id f (some occ) (.ptr child) realloc) :=
  orDrop_grants (.bind (.bind call_grants fun _ => .bind .throwIf fun _ => .throwIf) fun _ => .bind .pure fun _ =>
    writing_grants (replacedPtr_grants id f (some occ)) fun replaced => .modify fun s =>
      storePtr_answers id f (some occ) child replaced s)

/-! ### Allocation -/

theorem allocNative_grants (type_ subtype : String) (size : Nat) (answer : AllocAnswer) :
    Grants (allocNative type_ subtype size answer) := by
  unfold allocNative
  split
  · exact .throw
  · exact .modifyGet fun _ => rfl

/-- What has to have an allocation does not succeed without. -/
theorem allocNative_refused {α : Type} {type_ subtype : String} {size : Nat} {answer : AllocAnswer} {f : Addr → AtmiM α}
    (bad : ¬ ∃ more, answer.result = .ok more) (s : State) (a : α) (s' : State) :
    ¬ Succeeds (allocNative type_ subtype size answer >>= f) s a s' := fun ran => by
  obtain ⟨ptr, between, made, -⟩ := succeeds_bind.1 ran
  unfold allocNative at made
  cases result : answer.result with
  | ok more => exact bad ⟨more, result⟩
  | error e =>
      rw [result] at made
      exact succeeds_throw made

theorem tpallocUbf_grants (size : Nat) : Grants (tpallocUbf size) :=
  .bind .throwIf fun _ => .next Queue.allocs_grants (fun answer => .bind (allocNative_grants "UBF" "" size answer) fun _ =>
    .modifyGet fun _ => rfl) fun _ s a s' bad => allocNative_refused bad s a s'

theorem clearAll_grants (ptr : Addr) (types : Except AtmiError TpTypeInfo) : Grants (clearAll ptr types) := by
  unfold clearAll
  split
  · exact .runIf (.modify fun s => (rewrite_rest ptr _ s).2.2.2.1)
  · exact .pure

theorem tpalloc_grants (type_ subtype : String) (size : Nat) : Grants (tpalloc type_ subtype size) :=
  .bind .throwIf fun _ => .bind .throwIf fun _ => .bind .throwIf fun _ => .next Queue.allocs_grants
    (fun answer => .bind (allocNative_grants type_ subtype size answer) fun ptr =>
      .bind (.outcome fun _ => tptypesOf_looks _ _ _) fun types => .bind (clearAll_grants ptr types) fun _ =>
        .modifyGet fun _ => rfl) fun _ s a s' bad => allocNative_refused bad s a s'

/-! ### Cloning -/

theorem cloneSize_grants (info : TpTypeInfo) : Grants (cloneSize info) := by
  unfold cloneSize
  split
  · exact .bind .get fun _ => .ofExcept
  · exact .pure

theorem copyMemory_answers (source copy : Addr) (size : Nat) (s : State) :
    (copyMemory source copy size s).answers = s.answers := by
  unfold copyMemory
  split
  · exact (rewrite_rest copy _ s).2.2.2.1
  · rfl

theorem clonePlain_grants (source : Addr) (info : TpTypeInfo) : Grants (clonePlain source info) :=
  .bind (cloneSize_grants info) fun size => .bind .throwIf fun _ =>
    .bind (allocating_grants (tpalloc_grants info.typeName info.subtype size)) fun _ =>
      .bind (orDrop_grants (.bind .get fun _ => .bind (allocating_grants (tptypes_grants _)) fun _ =>
        .bind .throwIf fun _ => .modify fun s => copyMemory_answers source _ size s)) fun _ => .pure

theorem setWrapper_answers (id : BufId) (wrapper : Wrapper) (s : State) : (s.setWrapper id wrapper).answers = s.answers := by
  unfold State.setWrapper
  split <;> rfl

theorem cloneBuffer_grants {clone : List Addr → Fields → UbfM BufId} (clones : ∀ path fields, Grants (clone path fields))
    (path : List Addr) (source : Addr) : Grants (cloneBuffer clone path source) := by
  unfold cloneBuffer
  refine .bind (allocating_grants (tptypes_grants source)) fun info => ?_
  split
  · exact .bind .get fun s => .bind .throwIf fun _ => .bind (clones _ _) fun copy =>
      .bind (.modify fun s => setWrapper_answers copy .typed s) fun _ => .pure
  · exact clonePlain_grants source info

theorem cloneFields_grants {nested : Fields → UbfM BufId} {target : Addr → UbfM BufId} (copy : BufId)
    (nests : ∀ fields, Grants (nested fields)) (targets : ∀ ptr, Grants (target ptr)) :
    ∀ (rest done : Fields), Grants (cloneFields nested target copy done rest)
  | [], _ => call_grants
  | (id, value) :: rest, done => by
      have more := cloneFields_grants copy nests targets rest (done ++ [(id, value)])
      unfold cloneFields
      refine .bind call_grants fun _ => ?_
      cases value with
      | plain type inline bytes =>
          exact .bind call_grants fun _ => .bind (putNative_grants copy _ _ _ true) fun _ => more
      | ubf inside =>
          exact .bind call_grants fun _ => .bind (nests inside) fun child =>
            .bind (putOwnedUbf_grants copy _ _ child true) fun _ => more
      | ptr source =>
          refine .bind (ptrRoots_grants .scanned source) fun roots => ?_
          cases roots with
          | nil => exact .bind (putNative_grants copy _ _ _ true) fun _ => more
          | cons root _ =>
              exact .bind call_grants fun _ => .bind (targets root) fun child =>
                .bind (writePointer_grants copy _ _ child true) fun _ => more

theorem cloneUbf_grants : ∀ (fuel : Nat) (path : List Addr) (fields : Fields), Grants (cloneUbf fuel path fields)
  | 0, _, _ => .throw
  | fuel + 1, path, fields =>
      .bind call_grants fun _ => .bind .get fun _ => .bind (allocating_grants (tpallocUbf_grants _)) fun copy =>
        .bind (orDrop_grants (cloneFields_grants copy (cloneUbf_grants fuel path)
          (cloneBuffer_grants (cloneUbf_grants fuel) path) fields [])) fun _ => .pure

/-- **A failing native call ends a deep clone**: one that succeeds was granted every call. -/
theorem deepClone_grants (id : BufId) : Grants (deepClone id) := .bind .get fun _ => cloneUbf_grants 128 _ _

/-! ## Endings -/

namespace State

/-- Every descent is shorter than 128 levels and meets only targets that can be copied: live, no UBF within itself,
anything else as long as what is copied of it. -/
def Clonable (id : BufId) (s : State) : Prop :=
  ∀ depth visit, Walk s.Onward depth ([(s.buffer id).ptr], s.fieldsOf id) visit → depth < 128 ∧ s.Sound visit

end State

section Endings

variable {s s' : State} {id : BufId}

/-- **How a deep clone ends**.  Where no native call fails it succeeds on exactly the graphs that can be cloned.
Whatever fails, what was there is as it was.  A clone is independent, was granted every call, and unless a question
whether an occurrence is there failed was of a graph that can be cloned.  A failed one has given back all it
allocated, but for one shell that could not be emptied. -/
theorem deepClone_all_or_nothing (settled : s.Settled) (id : BufId) :
    let ended := (deepClone id).run.run s
    (s.Quiet → ((∃ copy, ended.1 = .ok copy) ↔ s.Clonable id)) ∧ s.Kept ended.2 ∧
      (∀ copy, ended.1 = .ok copy → Independent s id copy ended.2 ∧ s.answers.Granted ended.2.answers ∧
        ended.2.answers.displaced = s.answers.displaced ∧ (s.Truthful → s.Clonable id)) ∧
      ∀ e, ended.1 = .error e → ∃ leaked, Leak s leaked ended.2 ∧ ∀ a, s.Made ended.2 a → a ∈ leaked := by
  have ends := deepClone_cloned settled id s rfl
  have granted := deepClone_grants id s
  have within : Within s.Onward s.Sound 128 ([(s.buffer id).ptr], s.fieldsOf id) ↔ s.Clonable id := within_iff
  rw [within] at ends
  unfold Succeeds at granted
  generalize (deepClone id).run.run s = ended at ends granted
  obtain ⟨result, s'⟩ := ended
  cases result with
  | ok copy =>
      obtain ⟨since, independent⟩ := Cloned.independent settled ends
      obtain ⟨-, -, clonable⟩ := ends
      refine ⟨fun quiet => iff_of_true ⟨copy, rfl⟩ (clonable quiet.truthful), since.kept settled, ?_, ?_⟩
      · rintro _ ⟨⟩
        exact ⟨independent, granted copy s' rfl, since.answers.displaced, clonable⟩
      · rintro _ ⟨⟩
  | error e =>
      obtain ⟨since, refused, leaked, leak, accounted⟩ := ends
      refine ⟨fun quiet => iff_of_false (fun ⟨_, impossible⟩ => ?_) (refused quiet), since.kept settled, ?_, ?_⟩
      · cases impossible
      · rintro _ ⟨⟩
      · rintro _ ⟨⟩
        exact ⟨leaked, leak, fun a made => accounted.made since made⟩

/-- The two pointers to one CARRAY have become two to a copy each. -/
theorem sharedGraph_independent : Independent sharedGraph 0 1 ((deepClone 0).run.run sharedGraph).2 :=
  ((deepClone_all_or_nothing sharedGraph_settled 0).2.2.1 1 (congrArg Prod.fst sharedGraph_cloned)).1

/-- The same, where the first write asks for more room. -/
def crampedGraph : State := { sharedGraph with answers := { writes := [some ⟨.BNOSPACE, ""⟩] } }

/-- An embedded UBF with a pointer, where the shell of its copy cannot be emptied. -/
def leakingGraph : State where
  heap := (Table.empty.set 1 { typeName := "UBF", bytes := [], fields := [(9, .ubf [(7, .ptr 2)])] }).set 2
    { typeName := "CARRAY", bytes := [some 5] }
  next := 3
  bufs := Table.empty.set 0 ⟨⟨1, 0⟩, .ubf⟩
  nextBuf := 1
  answers := { shell := [none, some ⟨.BEINVAL, ""⟩] }

/-- A deep clone succeeds although a write failed; one that fails leaves a shell behind. -/
theorem shell_left_behind :
    (((deepClone 0).run.run crampedGraph).1.toOption = some 1 ∧
      crampedGraph.answers.writes = [some ⟨.BNOSPACE, ""⟩] ∧
      ((deepClone 0).run.run crampedGraph).2.answers.writes = []) ∧
    ((deepClone 0).run.run leakingGraph).1.toOption = none ∧ leakingGraph.heap.get 4 = none ∧
      (((deepClone 0).run.run leakingGraph).2.heap.get 4).map (·.live) = some true := by
  refine ⟨⟨?_, rfl, ?_⟩, ?_, ?_, ?_⟩ <;> decide +kernel

end Endings

end Endurox.Typed
