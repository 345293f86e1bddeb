/-
# Typed.DeepClone -- `clone_ubf` and `clone_buffer`, and what a deep clone is good for

The functions of a clone, each from any state: what they made on success, and on an
error that nothing there was is touched, that what was made is freed and, where the
native layer answers everything, that there was no cloning it.  The recursion is on how deep `clone_ubf`
may still go, the loop on the fields still to copy.  From these: the contents of a
deep clone, when there is one, and that what is shared in the source is not shared
in the clone, so that the owned edits accept it.
-/
import Endurox.Typed.Cloning

namespace Endurox.Typed

open Endurox.Theory State

set_option autoImplicit false

/-! ## Allocation -/

section Allocation

variable {o t : State} {C : Prop}

/-- Nothing has been touched, and nothing is left of what has been allocated. -/
structure Blank (t s : State) : Prop where
  since : t.Since s
  accounts : Accounted [] t s

theorem Blank.failing {s : State} (blank : Blank t s) (refused : o.Quiet → ¬ C) : Failing o t C s :=
  ⟨blank.since, refused, [], Leak.nothing o s, blank.accounts⟩

theorem blank_attends (origin : o.Since t) : Attends o (Blank t) (Failing o t C) where
  closed left blank := ⟨blank.since.answered left, blank.accounts.onHeap rfl⟩
  left _ blank := blank.since.answers.trans origin.answers
  fails _ blank loud := blank.failing fun quiet => absurd quiet loud

theorem blank_start (origin : o.Since t) {s : State} (same : s = t) : Blank t s := by
  subst same
  exact ⟨origin.settled.since, origin.settled.accounted⟩

theorem get_allocate (allocation : Allocation) (s : State) :
    (s.allocate allocation).2.heap.get (s.allocate allocation).1 = some allocation := by simp [State.allocate]

/-- A new UBF is a clone of no fields. -/
theorem tpallocUbf_begins (origin : o.Since t) {size : Nat} (fits : o.Quiet → size ≤ longMax) :
    Yields (Blank t) (allocating (tpallocUbf size))
      (fun copy s => (∃ ptr, Partial o t copy ptr [] [] [] s ∧ Accounted [ptr] t s) ∧ t.nextBuf ≤ copy)
      (Failing o t C) := by
  refine allocating_yields ?_
  have attends : Attends o (Blank t) (Failing o t C) := blank_attends origin
  unfold tpallocUbf
  refine Yields.bind (Q := fun _ => Blank t) (Yields.throwIf (fun s large blank => ?_) fun _ _ blank => blank) fun _ => ?_
  · exact blank.failing fun quiet => absurd (fits quiet) (Nat.not_le_of_lt large)
  refine Yields.bind (Yields.lift (attends.next_ends Queue.allocs_spends
    (G := fun answer => o.Quiet → (∃ more, answer.result = .ok more) ∧ answer.types = none)
    (fun _ => ⟨⟨0, rfl⟩, rfl⟩) fun s blank answer member quiet =>
      quiet.allocs answer ((attends.left s blank).allocs member))) fun answer => Ends.ofFact fun answered => ?_
  unfold allocNative
  cases result : answer.result with
  | error e =>
      refine Yields.bind (Q := fun _ _ => False) (Yields.throw fun s blank => attends.fails s blank fun quiet => ?_)
        fun _ => fun _ impossible => impossible.elim
      obtain ⟨⟨more, ok⟩, -⟩ := answered quiet
      rw [result] at ok
      cases ok
  | ok more =>
      refine Yields.bind (Q := fun ptr s => t.Since s ∧ Accounted [ptr] t s ∧ t.next ≤ ptr ∧ ptr < s.next ∧
        ∃ a, s.heap.get ptr = some a ∧ a.live = true ∧ a.typeName = "UBF" ∧ a.fields = [])
        (Yields.modifyGet fun s blank => ?_) fun ptr => Yields.modifyGet fun s holds => ?_
      · exact ⟨blank.since.allocate fun _ none => absurd none List.not_mem_nil, blank.accounts.allocate _,
          blank.since.untouched.next, Nat.lt_succ_self _, _, get_allocate _ s, rfl, rfl, rfl⟩
      · obtain ⟨since, accounts, later, named, made⟩ := holds
        refine ⟨⟨ptr, ?_, accounts.onHeap rfl⟩, since.untouched.nextBuf⟩
        exact
          { since := since.own later
            fresh := since.untouched.nextBuf
            owned := ⟨0, by simp [State.own]⟩
            holds := made
            once := List.nodup_singleton ptr
            new := by simpa [State.own] using ⟨later, named⟩
            copied := .nil }

/-- A new value whose buffer is as long as asked for, and holds nothing yet. -/
structure Raw (t : State) (copy : BufId) (ptr : Addr) (info : TpTypeInfo) (size : Nat) (s : State) : Prop where
  since : t.Since s
  fresh : t.nextBuf ≤ copy
  owned : ∃ place, s.bufs.get copy = some place ∧ place.buffer.ptr = ptr
  new : t.next ≤ ptr
  made : ∃ b, s.heap.get ptr = some b ∧ b.live = true ∧ b.typeName = bufferType info.typeName ∧
    b.subtype = info.subtype ∧ size ≤ b.bytes.length ∧ b.fields = []
  accounts : Accounted [ptr] t s

/-- Given up, it leaves nothing. -/
theorem Raw.giveUp {copy : BufId} {ptr : Addr} {info : TpTypeInfo} {size : Nat} {s : State}
    (raw : Raw t copy ptr info size s) (refused : o.Quiet → ¬ C) : Failing o t C (s.drop copy) where
  since := raw.since.drop raw.fresh
  refused := refused
  givenBack := by
    obtain ⟨place, owned, here⟩ := raw.owned
    have same : (s.buffer copy).ptr = ptr := by rw [buffer_of owned, here]
    have dead : (s.drop copy).Dead (s.buffer copy).ptr := drop_dead (same.symm ▸ named_of_later raw.since raw.new)
    rw [same] at dead
    exact ⟨[], Leak.nothing o _, raw.accounts.step (drop_felled copy s).dead fun a member =>
      .inr (List.mem_singleton.1 member ▸ dead)⟩

theorem clearAll_done {P : State → Prop} {ptr : Addr}
    (cleared : ∀ s start, P s → P (s.rewrite ptr fun a => { a with bytes := Typed.cleared start a.bytes }))
    (types : Except AtmiError TpTypeInfo) {E : State → Prop} : Yields P (clearAll ptr types) (fun _ => P) E := by
  unfold clearAll
  split
  · exact Yields.runIf (fun _ => Yields.modify fun s holds => cleared s 0 holds) fun _ _ holds => holds
  · exact Yields.pure fun _ holds => holds

theorem tpalloc_raw (origin : o.Since t) {info : TpTypeInfo} {size : Nat} :
    Yields (Blank t) (allocating (tpalloc info.typeName info.subtype size))
      (fun copy s => (∃ ptr, Raw t copy ptr info size s) ∧ t.nextBuf ≤ copy ∧ Requestable info size)
      (Failing o t (Requestable info size)) := by
  refine allocating_yields ?_
  have attends : Attends o (Blank t) (Failing o t (Requestable info size)) := blank_attends origin
  unfold tpalloc
  refine Yields.bind (Q := fun _ s => Blank t s ∧ containsNul info.typeName = false)
    (Yields.throwIf (fun s refused blank => blank.failing fun _ requestable => ?_)
      fun _ passed blank => ⟨blank, Bool.eq_false_iff.2 passed⟩) fun _ => Ends.ofFact fun named => ?_
  · rw [requestable.1] at refused
    cases refused
  refine Yields.bind (Q := fun _ s => Blank t s ∧ containsNul info.subtype = false)
    (Yields.throwIf (fun s refused blank => blank.failing fun _ requestable => ?_)
      fun _ passed blank => ⟨blank, Bool.eq_false_iff.2 passed⟩) fun _ => Ends.ofFact fun subtyped => ?_
  · rw [requestable.2.1] at refused
    cases refused
  refine Yields.bind (Q := fun _ s => Blank t s ∧ size ≤ longMax)
    (Yields.throwIf
      (fun s large blank => blank.failing fun _ requestable => absurd requestable.2.2 (Nat.not_le_of_lt large))
      fun _ passed blank => ⟨blank, Nat.le_of_not_lt passed⟩) fun _ => Ends.ofFact fun sized => ?_
  have requestable : Requestable info size := ⟨named, subtyped, sized⟩
  refine Yields.bind (Yields.lift (attends.next_ends Queue.allocs_spends
    (G := fun answer => o.Quiet → (∃ more, answer.result = .ok more) ∧ answer.types = none)
    (fun _ => ⟨⟨0, rfl⟩, rfl⟩) fun s blank answer member quiet =>
      quiet.allocs answer ((attends.left s blank).allocs member))) fun answer => Ends.ofFact fun answered => ?_
  unfold allocNative
  cases result : answer.result with
  | error e =>
      refine Yields.bind (Q := fun _ _ => False) (Yields.throw fun s blank => attends.fails s blank fun quiet => ?_)
        fun _ => fun _ impossible => impossible.elim
      obtain ⟨⟨more, ok⟩, -⟩ := answered quiet
      rw [result] at ok
      cases ok
  | ok more =>
      let M : Addr → State → Prop := fun ptr s => t.Since s ∧ Accounted [ptr] t s ∧ t.next ≤ ptr ∧
        ∃ b, s.heap.get ptr = some b ∧ b.live = true ∧ b.typeName = bufferType info.typeName ∧
          b.subtype = info.subtype ∧ size ≤ b.bytes.length ∧ b.fields = []
      refine Yields.bind (Q := M) (Yields.modifyGet fun s blank => ?_) fun ptr => ?_
      · refine ⟨blank.since.allocate fun _ none => absurd none List.not_mem_nil, blank.accounts.allocate _,
          blank.since.untouched.next, _, get_allocate _ s, rfl, rfl, rfl, ?_, rfl⟩
        simp
      refine Yields.bind (Q := fun _ => M ptr) (Yields.outcome ((tptypesOf_ends answer.types ptr).mono
        (fun _ holds => holds) fun _ _ holds => holds.1)) fun types => ?_
      refine Yields.bind (clearAll_done (P := M ptr) (fun s start holds => ?_) types) fun _ => ?_
      · obtain ⟨since, accounts, later, b, found, live, type, subtype, long, empty⟩ := holds
        refine ⟨since.rewrite (.inr later) fun _ _ member => .inl member, accounts.rewrite ptr fun _ => rfl, later,
          { b with bytes := cleared start b.bytes }, ?_, live, type, subtype, ?_, empty⟩
        · rw [get_rewrite, if_pos rfl, found]
          rfl
        · rw [length_cleared]
          exact long
      · refine Yields.modifyGet fun s holds => ?_
        obtain ⟨since, accounts, later, made⟩ := holds
        have raw : Raw t s.nextBuf ptr info size (s.own ⟨⟨ptr, 0⟩, .typed⟩).2 :=
          { since := since.own later
            fresh := since.untouched.nextBuf
            owned := ⟨⟨⟨ptr, 0⟩, .typed⟩, by simp [State.own], rfl⟩
            new := later
            made
            accounts := accounts.onHeap rfl }
        exact ⟨⟨ptr, raw⟩, since.untouched.nextBuf, requestable⟩

end Allocation

/-! ## Buffers -/

section Buffers

variable {o t s : State}

theorem setWrapper_heap (id : BufId) (wrapper : Wrapper) (s : State) : (s.setWrapper id wrapper).heap = s.heap := by
  unfold State.setWrapper
  split <;> rfl

/-- What is there now was there at first, and is as it was. -/
theorem State.Since.origin (since : o.Since s) {target : Addr} (old : target < o.next) :
    s.heap.get target = o.heap.get target := since.untouched.heap target old List.not_mem_nil

theorem typesOf_origin (since : o.Since s) {target : Addr} (old : target < o.next) :
    s.typesOf target = o.typesOf target := by
  unfold State.typesOf
  rw [since.origin old]

theorem cloneSize_yields (origin : o.Since t) (info : TpTypeInfo) :
    Yields (Blank t) (cloneSize info) (fun size s => Blank t s ∧ o.payload info = .ok size)
      (fun s => Blank t s ∧ ∀ size, o.payload info ≠ .ok size) := by
  unfold cloneSize State.payload
  split
  · refine Yields.read fun now blank => ?_
    rw [(blank.since.answers.trans origin.answers).viewSize]
    cases o.answers.viewSize info.subtype with
    | ok size => exact fun s same => ⟨same ▸ blank, rfl⟩
    | error e => exact fun s same => ⟨same ▸ blank, fun size impossible => by cases impossible⟩
  · exact Yields.pure fun s blank => ⟨blank, rfl⟩

theorem copied_take {source memory : List Byte} {size : Nat} (fits : size ≤ source.length)
    (holds : size ≤ memory.length) :
    (Typed.copied (source.take size) memory).take size = source.take size ∧
      size ≤ (Typed.copied (source.take size) memory).length := by
  have length : (source.take size).length = size := by rw [List.length_take, Nat.min_eq_left fits]
  unfold Typed.copied
  constructor
  · rw [List.take_take, Nat.min_eq_left holds, List.take_append_of_le_length (Nat.le_of_eq length.symm),
      List.take_of_length_le (Nat.le_of_eq length)]
  · rw [List.length_take, List.length_append, List.length_drop, length]
    omega

/-- The bytes copied into a new buffer. -/
theorem Raw.copy {copy : BufId} {source ptr : Addr} {a : Allocation} {size : Nat} (origin : o.Since t)
    (raw : Raw t copy ptr a.info size s) (named : source ≠ 0) (found : o.heap.get source = some a)
    (live : a.live = true) (type : a.typeName ≠ "UBF") (measured : o.payload a.info = .ok size)
    (fits : size ≤ a.info.size) (old : source < o.next) :
    Target o t copy source ptr [ptr] (copyMemory source ptr size s) ∧
      Accounted [ptr] t (copyMemory source ptr size s) := by
  obtain ⟨b, made, lives, types, subtypes, long, empty⟩ := raw.made
  have here : s.heap.get source = some a := ((origin.trans raw.since).origin old).trans found
  have written : copyMemory source ptr size s = s.rewrite ptr fun allocation =>
      { allocation with bytes := Typed.copied (a.bytes.take size) allocation.bytes } := by
    unfold copyMemory
    rw [here]
  obtain ⟨taken, length⟩ := copied_take fits long
  rw [written]
  obtain ⟨next, bufs, -⟩ := rewrite_rest ptr (fun allocation =>
    { allocation with bytes := Typed.copied (a.bytes.take size) allocation.bytes }) s
  refine ⟨?_, raw.accounts.rewrite ptr fun _ => rfl⟩
  exact
    { since := raw.since.rewrite (.inr raw.new) fun _ _ member => .inl member
      fresh := raw.fresh
      owned := bufs ▸ raw.owned
      once := List.nodup_singleton ptr
      new := by
        rw [next]
        simpa using ⟨raw.new, (raw.since.settled.inside ptr b made).1⟩
      copied := fun id => by
        have now : (s.rewrite ptr fun allocation => { allocation with
            bytes := Typed.copied (a.bytes.take size) allocation.bytes }).heap.get ptr =
              some { b with bytes := Typed.copied (a.bytes.take size) b.bytes } := by
          rw [get_rewrite, if_pos rfl, made]
          rfl
        exact .other named found live type measured now lives types subtypes taken fits length .nil }

theorem clonePlain_yields (origin : o.Since t) {path : List Addr} {source : Addr} {a : Allocation} (named : source ≠ 0)
    (found : o.heap.get source = some a) (live : a.live = true) (type : a.typeName ≠ "UBF") (old : source < o.next) :
    Yields (Blank t) (clonePlain source a.info)
      (fun copy s => (∃ ptr, Target o t copy source ptr [ptr] s ∧ Accounted [ptr] t s) ∧ t.nextBuf ≤ copy ∧
        o.CanCopy path source)
      (Failing o t (o.CanCopy path source)) := by
  have known : o.typesOf source = some a.info := by
    unfold State.typesOf
    rw [found]
    exact if_pos live
  have other : a.info.typeName ≠ "UBF" := type
  have inverted : o.CanCopy path source ↔ ∃ size, o.payload a.info = .ok size ∧ size ≤ a.info.size ∧
      Requestable a.info size := by
    unfold State.CanCopy
    constructor
    · rintro ⟨info, same, rest⟩
      rw [known] at same
      cases same
      rwa [if_neg other] at rest
    · exact fun rest => ⟨a.info, known, by rwa [if_neg other]⟩
  unfold clonePlain
  refine Yields.bind ((cloneSize_yields origin a.info).mono (fun _ blank => blank) (fun _ _ holds => holds)
    fun s holds => holds.1.failing fun _ can => ?_) fun size => Ends.ofFact fun measured => ?_
  · obtain ⟨size, measured, -⟩ := inverted.1 can
    exact holds.2 size measured
  have exact_ : o.CanCopy path source ↔ size ≤ a.info.size ∧ Requestable a.info size := by
    rw [inverted]
    constructor
    · rintro ⟨size', same, rest⟩
      rw [measured] at same
      cases same
      exact rest
    · exact fun rest => ⟨size, measured, rest⟩
  refine Yields.bind (Q := fun _ s => Blank t s ∧ size ≤ a.info.size)
    (Yields.throwIf (fun s short blank => blank.failing fun _ can => absurd (exact_.1 can).1 (Nat.not_le_of_lt short))
      fun _ passed blank => ⟨blank, Nat.le_of_not_lt passed⟩) fun _ => Ends.ofFact fun fits => ?_
  refine Yields.bind ((tpalloc_raw origin).mono (fun _ blank => blank) (fun _ _ holds => holds)
    fun s failing => failing.mono fun can => (exact_.1 can).2) fun copy => Ends.ofFact fun given => ?_
  obtain ⟨fresh, requestable⟩ := given
  have can : o.CanCopy path source := exact_.2 ⟨fits, requestable⟩
  refine Yields.bind (Q := fun _ s => ∃ ptr, Target o t copy source ptr [ptr] s ∧ Accounted [ptr] t s) (orDrop_yields
    (B := fun s => Failing o t (o.CanCopy path source) (s.drop copy)) ?_ fun s failing => failing) fun _ =>
      Yields.pure fun _ made => ⟨made, fresh, can⟩
  refine Ends.ofExists fun ptr => Yields.read fun now raw => ?_
  obtain ⟨place, owned, here⟩ := raw.owned
  rw [show (now.buffer copy).ptr = ptr by rw [buffer_of owned, here]]
  have raws : Attends o (Raw t copy ptr a.info size) fun s => Failing o t (o.CanCopy path source) (s.drop copy) :=
    { closed := fun left raw => { raw with
        since := raw.since.answered left
        accounts := raw.accounts.onHeap rfl }
      left := fun _ raw => raw.since.answers.trans origin.answers
      fails := fun _ raw loud => raw.giveUp fun quiet => absurd quiet loud }
  have typed {s : State} (raw : Raw t copy ptr a.info size s) :
      ∃ made, s.typesOf ptr = some made ∧ size ≤ made.size := by
    obtain ⟨b, made, lives, -, -, long, -⟩ := raw.made
    refine ⟨b.info, ?_, long⟩
    unfold State.typesOf
    rw [made]
    exact if_pos lives
  refine Yields.bind ((raws.tptypes ptr).mono (fun _ same => same ▸ raw) (fun _ _ holds => holds)
    fun s holds => raws.fails s holds.1 fun quiet => ?_) fun info => ?_
  · obtain ⟨_, typed, -⟩ := typed holds.1
    rw [holds.2 quiet] at typed
    cases typed
  refine Yields.bind (Q := fun _ => Raw t copy ptr a.info size) (Yields.throwIf (fun s short holds => ?_)
    fun _ _ holds => holds.1) fun _ => Yields.modify fun s raw => ⟨ptr, raw.copy origin named found live type measured fits old⟩
  obtain ⟨_, typed, long⟩ := typed holds.1
  rw [holds.2] at typed
  cases typed
  exact absurd long (Nat.not_le_of_lt short)

end Buffers

/-! ## Cloning -/

section Cloning

variable {o t : State}

/-- A clone of these fields, of its own. -/
def Cloned (o t : State) (fields : Fields) (N : Prop) (copy : BufId) (s : State) : Prop :=
  (∃ ptr held used, Partial o t copy ptr fields held used s ∧ Accounted (ptr :: used) t s) ∧ t.nextBuf ≤ copy ∧
    (o.Truthful → N)

/-- The specification of `clone_ubf` at one depth. -/
def Clones (o : State) (clone : Fields → UbfM BufId) (N : Fields → Prop) : Prop :=
  ∀ (fields : Fields) (t : State), o.Since t → (∀ p ∈ targetsIn fields, p < o.next) →
    Yields (· = t) (clone fields) (Cloned o t fields (N fields)) (Failing o t (N fields))

/-- A copy of this target, of its own. -/
def ClonedTarget (o t : State) (source : Addr) (T : Prop) (copy : BufId) (s : State) : Prop :=
  (∃ ptr used, Target o t copy source ptr used s ∧ Accounted used t s) ∧ t.nextBuf ≤ copy ∧ (o.Truthful → T)

/-- The specification of `clone_buffer`. -/
def ClonesTarget (o : State) (clone : Addr → UbfM BufId) (T : Addr → Prop) : Prop :=
  ∀ (source : Addr) (t : State), o.Since t → source ≠ 0 → source < o.next →
    Yields (· = t) (clone source) (ClonedTarget o t source (T source)) (Failing o t (T source))

/-- The clone of a UBF, behind a pointer to it. -/
theorem Partial.target {copy : BufId} {source ptr : Addr} {a : Allocation} {held : Fields} {used : List Addr}
    {s : State} (partial_ : Partial o t copy ptr a.fields held used s) (named : source ≠ 0)
    (found : o.heap.get source = some a) (live : a.live = true) (type : a.typeName = "UBF") :
    Target o t copy source ptr (ptr :: used) (s.setWrapper copy .typed) := by
  obtain ⟨b, made, lives, types, rfl⟩ := partial_.holds
  obtain ⟨len, owned⟩ := partial_.owned
  have heap : (s.setWrapper copy .typed).heap = s.heap ∧ (s.setWrapper copy .typed).next = s.next := by
    unfold State.setWrapper
    split <;> exact ⟨rfl, rfl⟩
  exact
    { since := partial_.since.setWrapper partial_.fresh .typed
      fresh := partial_.fresh
      owned := by
        refine ⟨⟨⟨ptr, len⟩, .typed⟩, ?_, rfl⟩
        unfold State.setWrapper
        rw [owned]
        simp
      once := partial_.once
      new := heap.2 ▸ partial_.new
      copied := fun id => by
        have behind : Copied o s [(id, .ptr source)] [(id, .ptr ptr)] (ptr :: used ++ []) :=
          .ubf named found live type made lives types partial_.copied .nil
        rw [List.append_nil] at behind
        exact behind.frame fun _ _ => by rw [heap.1] }

theorem cloneBuffer_clones (settled : o.Settled) {fuel : Nat} {path : List Addr} {clone : List Addr → Fields → UbfM BufId}
    (clones : ∀ path, Clones o (clone path) fun fields => Within o.Onward o.Sound fuel (path, fields)) :
    ClonesTarget o (cloneBuffer clone path) (o.Reachable fuel path) := by
  intro source t origin named old
  have attends : Attends o (Blank t) (Failing o t (o.Reachable fuel path source)) := blank_attends origin
  have start : Yields (· = t) (allocating (tptypes source)) (fun info s => Blank t s ∧ s.typesOf source = some info)
      (Failing o t (o.Reachable fuel path source)) := by
    refine (attends.tptypes source).mono (fun _ same => blank_start origin same) (fun _ _ holds => holds)
      fun s holds => holds.1.failing fun quiet can => ?_
    obtain ⟨⟨info, known, -⟩, -⟩ := can
    rw [typesOf_origin (origin.trans holds.1.since) old] at holds
    rw [holds.2 quiet] at known
    cases known
  unfold cloneBuffer
  refine Yields.bind start fun info => ?_
  intro now holds
  obtain ⟨blank, known⟩ := holds
  have since := blank.since
  have still := origin.trans since
  rw [typesOf_origin still old] at known
  obtain ⟨a, found, live, rfl⟩ := State.typesOf_some known
  by_cases type : a.typeName = "UBF"
  · rw [if_pos (show a.info.typeName = "UBF" from type)]
    have can : o.CanCopy path source ↔ source ∉ path := by
      have ubf : a.info.typeName = "UBF" := type
      constructor
      · rintro ⟨info, same, rest⟩
        rw [known] at same
        cases same
        rwa [if_pos ubf] at rest
      · exact fun apart => ⟨a.info, known, by rwa [if_pos ubf]⟩
    have cloned : Yields (· = now) (do
        let s ← get
        throwIf (source ∈ path) cloneDepth
        let copy ← clone (source :: path) (s.fieldsAt source)
        modify (State.setWrapper copy .typed)
        pure copy)
        (ClonedTarget o t source (o.Reachable fuel path source)) (Failing o t (o.Reachable fuel path source)) := by
      refine Yields.read fun s same => ?_
      subst same
      have fields : s.fieldsAt source = a.fields := by
        unfold State.fieldsAt
        rw [still.origin old, found]
      rw [fields]
      refine Yields.bind (Q := fun _ u => u = s ∧ source ∉ path) (Yields.throwIf (fun u cyclic same => ?_)
        fun u apart same => ⟨same, apart⟩) fun _ => Ends.ofFact fun apart => ?_
      · exact same ▸ blank.failing fun _ reachable => can.1 reachable.1 cyclic
      have whole : o.Reachable fuel path source ↔ Within o.Onward o.Sound fuel (source :: path, a.fields) := by
        constructor
        · exact fun reachable => reachable.2 a found live type
        · refine fun within => ⟨can.2 apart, fun b same _ _ => ?_⟩
          rw [found] at same
          cases same
          exact within
      refine Yields.bind ((clones (source :: path) a.fields s still (settled.inside source a found).2).mono
        (fun _ same => same) (fun _ _ holds => holds) fun u failing => ?_) fun copy => ?_
      · exact (failing.mono whole.1).earlier since blank.accounts
      · refine Ends.ofFact fun rest => Ends.ofExists fun ptr => Ends.ofExists fun held => Ends.ofExists fun used => ?_
        refine Yields.bind (Q := fun _ u => Target o t copy source ptr (ptr :: used) u ∧ Accounted (ptr :: used) t u)
          (Yields.modify fun u made => ⟨(made.1.earlier since).target named found live type,
            (blank.accounts.later made.1.since made.2).onHeap (setWrapper_heap copy .typed u)⟩) fun _ => ?_
        exact Yields.pure fun u made => ⟨⟨ptr, _, made⟩, Nat.le_trans since.untouched.nextBuf rest.1,
          fun truthful => whole.2 (rest.2 truthful)⟩
    exact cloned now rfl
  · rw [if_neg (show a.info.typeName ≠ "UBF" from type)]
    have cloned : Yields (Blank t) (clonePlain source a.info)
        (ClonedTarget o t source (o.Reachable fuel path source)) (Failing o t (o.Reachable fuel path source)) := by
      refine (clonePlain_yields origin named found live type old).mono (fun _ blank => blank) (fun copy s holds => ?_)
        fun s failing => failing.mono fun reachable => reachable.1
      obtain ⟨⟨ptr, made⟩, fresh, can⟩ := holds
      refine ⟨⟨ptr, _, made⟩, fresh, fun _ => ⟨can, fun b same _ ubf => ?_⟩⟩
      rw [found] at same
      cases same
      exact absurd ubf type
    exact cloned now blank

/-- A clone that has got this far, and nothing else that was allocated. -/
def Progress (o t : State) (copy : BufId) (done : Fields) (s : State) : Prop :=
  ∃ ptr held used, Partial o t copy ptr done held used s ∧ Accounted (ptr :: used) t s

theorem progress_attends (origin : o.Since t) (copy : BufId) (done : Fields) {C : Prop} :
    Attends o (Progress o t copy done) fun s => Failing o t C (s.drop copy) where
  closed left progress := by
    obtain ⟨ptr, held, used, partial_, accounts⟩ := progress
    exact ⟨ptr, held, used, partial_.answered left, accounts.onHeap rfl⟩
  left _ progress := by
    obtain ⟨_, _, _, partial_, -⟩ := progress
    exact partial_.since.answers.trans origin.answers
  fails _ progress loud := by
    obtain ⟨_, _, _, partial_, accounts⟩ := progress
    exact partial_.discard accounts fun quiet => absurd quiet loud

section Fields

variable {copy : BufId} {done : Fields} {nested : Fields → UbfM BufId} {target : Addr → UbfM BufId}
  {N : Fields → Prop} {T : Addr → Prop} {C : Prop}

/-- An occurrence whose copy names no allocation. -/
theorem putNative_progress (origin : o.Since t) {item : Int × FieldValue} {value : FieldValue}
    (copied : ∀ s, Copied o s [item] [(item.1, value)] []) :
    Yields (Progress o t copy done)
      (putNative copy (fieldOf item) (boccur (fieldOf item) done) value true)
      (fun _ => Progress o t copy (done ++ [item])) (fun s => Failing o t C (s.drop copy)) := by
  intro now progress
  obtain ⟨ptr, held, used, outer, accounts⟩ := progress
  have written : Yields (Moved o t copy now ptr done held used)
      (putNative copy (fieldOf item) (boccur (fieldOf item) done) value true)
      (fun _ => Progress o t copy (done ++ [item])) (fun s => Failing o t C (s.drop copy)) := by
    refine (putNative_grown origin fun s grown loud => ?_).mono (fun _ moved => moved) (fun _ u holds => ?_)
      fun _ failing => failing
    · obtain ⟨at_, outer, -, -, kept⟩ := grown
      exact outer.discard (kept used accounts) fun quiet => absurd quiet loud
    · obtain ⟨s, ⟨at_, outer, -, -, kept⟩, rfl⟩ := holds
      refine ⟨at_, _, _, outer.put (copied s) (by simpa using outer.once) fun a none => absurd none List.not_mem_nil, ?_⟩
      rw [List.append_nil]
      exact (kept used accounts).changeFields copy _
  exact written now outer.grown

/-- An embedded UBF: its clone is made, then embedded. -/
theorem embedded_progress (origin : o.Since t) (clones : Clones o nested N) {id : Int} {inside : Fields}
    (named : ∀ p ∈ targetsIn inside, p < o.next) :
    Yields (Progress o t copy done) (do
        let child ← nested inside
        putOwnedUbf copy ⟨id, .Ubf⟩ (boccur ⟨id, .Ubf⟩ done) child true)
      (fun _ s => Progress o t copy (done ++ [(id, .ubf inside)]) s ∧ (o.Truthful → N inside))
      (fun s => Failing o t (N inside) (s.drop copy)) := by
  intro now progress
  obtain ⟨ptr, held, used, outer, accounts⟩ := progress
  have since := outer.since
  have both : Yields (· = now) (do
        let child ← nested inside
        putOwnedUbf copy ⟨id, .Ubf⟩ (boccur ⟨id, .Ubf⟩ done) child true)
      (fun _ s => Progress o t copy (done ++ [(id, .ubf inside)]) s ∧ (o.Truthful → N inside))
      (fun s => Failing o t (N inside) (s.drop copy)) := by
    refine Yields.bind ((clones inside now (origin.trans since) named).mono (fun _ same => same) (fun _ _ holds => holds)
      fun u failing => outer.inherit accounts failing fun reached => reached) fun child => ?_
    refine Ends.ofFact fun rest => Ends.ofExists fun ptr' => Ends.ofExists fun held' => Ends.ofExists fun used' => ?_
    refine (putOwnedUbf_pair origin _).mono (fun u made => outer.pair accounts made.1 made.2) (fun _ u holds => ?_)
      fun _ failing => failing
    obtain ⟨at_, partial_⟩ := holds
    exact ⟨⟨at_, _, _, partial_⟩, rest.2⟩
  exact both now rfl

/-- A pointer: its target is copied, and the copy stored. -/
theorem pointed_progress (origin : o.Since t) (clones : ClonesTarget o target T) {id : Int} {source : Addr}
    (named : source ≠ 0) (old : source < o.next) :
    Yields (Progress o t copy done) (do
        let child ← target source
        writeValue copy ⟨id, .Ptr⟩ (some (boccur ⟨id, .Ptr⟩ done)) (.ptr child) true)
      (fun _ s => Progress o t copy (done ++ [(id, .ptr source)]) s ∧ (o.Truthful → T source))
      (fun s => Failing o t (T source) (s.drop copy)) := by
  intro now progress
  obtain ⟨ptr, held, used, outer, accounts⟩ := progress
  have since := outer.since
  have both : Yields (· = now) (do
        let child ← target source
        writeValue copy ⟨id, .Ptr⟩ (some (boccur ⟨id, .Ptr⟩ done)) (.ptr child) true)
      (fun _ s => Progress o t copy (done ++ [(id, .ptr source)]) s ∧ (o.Truthful → T source))
      (fun s => Failing o t (T source) (s.drop copy)) := by
    refine Yields.bind ((clones source now (origin.trans since) named old).mono (fun _ same => same)
      (fun _ _ holds => holds) fun u failing => outer.inherit accounts failing fun reached => reached) fun child => ?_
    refine Ends.ofFact fun rest => Ends.ofExists fun ptr' => Ends.ofExists fun used' => ?_
    refine (writeValue_linked origin _).mono (fun u made => outer.linked accounts made.1 made.2) (fun _ u holds => ?_)
      fun _ failing => failing
    obtain ⟨at_, partial_⟩ := holds
    exact ⟨⟨at_, _, _, partial_⟩, rest.2⟩
  exact both now rfl

/-- **The loop of `clone_ubf`**: by induction on the fields still to copy. -/
theorem cloneFields_progress (origin : o.Since t) (clones : Clones o nested N) (targets : ClonesTarget o target T) :
    ∀ (rest done : Fields), (∀ p ∈ targetsIn rest, p < o.next) →
      Yields (Progress o t copy done) (cloneFields nested target copy done rest)
        (fun _ s => Progress o t copy (done ++ rest) s ∧ (o.Truthful → ∀ item ∈ rest, Each N T item))
        (fun s => Failing o t (∀ item ∈ rest, Each N T item) (s.drop copy))
  | [], done, _ => by
      unfold cloneFields
      refine (progress_attends origin copy done).called.mono (fun _ progress => progress) (fun _ s progress => ?_)
        fun _ failing => failing
      rw [List.append_nil]
      exact ⟨progress, fun _ item none => absurd none List.not_mem_nil⟩
  | (id, value) :: rest, done, named => by
      have attends : Attends o (Progress o t copy done)
          fun s => Failing o t (∀ item ∈ (id, value) :: rest, Each N T item) (s.drop copy) :=
        progress_attends origin copy done
      have later : ∀ p ∈ targetsIn rest, p < o.next := fun p member =>
        named p (by simp [member])
      have here : ∀ p ∈ value.targets, p < o.next := fun p member => named p (by simp [member])
      -- what is left to do once the occurrence is copied
      have more (each : o.Truthful → Each N T (id, value)) :
          Yields (Progress o t copy (done ++ [(id, value)])) (cloneFields nested target copy (done ++ [(id, value)]) rest)
            (fun _ s => Progress o t copy (done ++ (id, value) :: rest) s ∧
              (o.Truthful → ∀ item ∈ (id, value) :: rest, Each N T item))
            (fun s => Failing o t (∀ item ∈ (id, value) :: rest, Each N T item) (s.drop copy)) := by
        refine (cloneFields_progress origin clones targets rest (done ++ [(id, value)]) later).mono
          (fun _ progress => progress) (fun _ s holds => ?_)
          fun s failing => failing.mono fun all item member => all item (List.mem_cons_of_mem _ member)
        obtain ⟨progress, others⟩ := holds
        rw [List.append_assoc] at progress
        exact ⟨progress, fun truthful => List.forall_mem_cons.2 ⟨each truthful, others truthful⟩⟩
      have first {s : State} (failing : Failing o t (Each N T (id, value)) s) :
          Failing o t (∀ item ∈ (id, value) :: rest, Each N T item) s :=
        failing.mono fun all => all _ List.mem_cons_self
      unfold cloneFields
      refine Yields.bind attends.called fun _ => ?_
      cases value with
      | plain type inline bytes =>
          refine Yields.bind attends.called fun _ => ?_
          refine Yields.bind (putNative_progress origin fun s => .plain .nil) fun _ => more fun _ => trivial
      | ubf inside =>
          refine Yields.bind attends.called fun _ => ?_
          rw [← bind_assoc]
          refine Yields.bind ((embedded_progress origin clones here).mono (fun _ progress => progress)
            (fun _ _ holds => holds) fun _ failing => first failing) fun _ => Ends.ofFact fun each => more each
      | ptr source =>
          refine Yields.bind (attends.ptrRoots source) fun roots => Ends.ofFact fun found => ?_
          rcases found with ⟨rfl, absent⟩ | ⟨rfl, present⟩
          · refine Yields.bind (putNative_progress origin fun s => ?_) fun _ => more fun truthful named =>
              absurd (absent truthful) named
            by_cases truthful : o.Truthful
            · rw [absent truthful]
              exact .null .nil
            · exact .missed truthful .nil
          · refine Yields.bind attends.called fun _ => ?_
            rw [← bind_assoc]
            refine Yields.bind ((pointed_progress origin targets present (here source (by simp [present]))).mono
              (fun _ progress => progress) (fun _ _ holds => holds) fun s failing => first
                (failing.mono fun each => each present)) fun _ => Ends.ofFact fun each => more fun truthful _ => each truthful

end Fields

/-- **`clone_ubf`**, by induction on how deep it may still go. -/
theorem cloneUbf_clones (settled : o.Settled) : ∀ (fuel : Nat) (path : List Addr),
    Clones o (cloneUbf fuel path) fun fields => Within o.Onward o.Sound fuel (path, fields)
  | 0, path => by
      intro fields t origin named
      unfold cloneUbf
      exact Yields.throw fun s same => (blank_start origin same).failing fun _ within => within
  | fuel + 1, path => by
      intro fields t origin named
      have attends : Attends o (Blank t) (Failing o t (Within o.Onward o.Sound (fuel + 1) (path, fields))) :=
        blank_attends origin
      have whole := within_succ o fuel path fields
      unfold cloneUbf
      refine Yields.bind (attends.called.mono (fun _ same => blank_start origin same) (fun _ _ holds => holds)
        fun _ failing => failing) fun _ => Yields.read fun now blank => ?_
      have size : o.Quiet → max now.answers.used 256 ≤ longMax := fun quiet => by
        rw [(blank.since.answers.trans origin.answers).used]
        exact quiet.used
      refine Yields.bind ((tpallocUbf_begins origin size).mono (fun _ same => same ▸ blank) (fun _ _ holds => holds)
        fun _ failing => failing) fun copy => Ends.ofFact fun fresh => ?_
      refine Yields.bind (orDrop_yields
        (B := fun s => Failing o t (Within o.Onward o.Sound (fuel + 1) (path, fields)) (s.drop copy))
        ((cloneFields_progress origin (cloneUbf_clones settled fuel path)
          (cloneBuffer_clones settled fun path => cloneUbf_clones settled fuel path) fields [] named).mono
            (fun s made => ?_) (fun _ _ holds => holds) fun s failing => failing.mono whole.1)
              fun s failing => failing) fun _ => ?_
      · obtain ⟨ptr, partial_, accounts⟩ := made
        exact ⟨ptr, [], [], partial_, accounts⟩
      · refine Yields.pure fun s holds => ?_
        obtain ⟨progress, each⟩ := holds
        exact ⟨progress, fresh, fun truthful => whole.2 (each truthful)⟩

end Cloning

/-! ## Deep clones -/

namespace State

/-- What was there is as it was. -/
def Kept (s s' : State) : Prop :=
  (∀ a allocation, s.heap.get a = some allocation → s'.heap.get a = some allocation) ∧
    ∀ id place, s.bufs.get id = some place → s'.bufs.get id = some place

/-- Allocated meanwhile, and live. -/
def Made (s s' : State) (a : Addr) : Prop :=
  s.heap.get a = none ∧ ∃ allocation, s'.heap.get a = some allocation ∧ allocation.live = true

end State

/-- A UBF with the fields of another, each pointer to a copy of what it pointed to.  The allocations it is in are new,
no two of them the same, and all that was made. -/
def Independent (s : State) (id copy : BufId) (s' : State) : Prop :=
  ∃ ptr len held used, s.bufs.get copy = none ∧ s'.bufs.get copy = some ⟨⟨ptr, len⟩, .ubf⟩ ∧
    (∃ a, s'.heap.get ptr = some a ∧ a.live = true ∧ a.typeName = "UBF" ∧ a.fields = held) ∧
    Copied s s' (s.fieldsOf id) held used ∧ (ptr :: used).Nodup ∧ (∀ a ∈ ptr :: used, s.heap.get a = none) ∧
    ∀ a, s.Made s' a → a ∈ ptr :: used

section DeepClone

variable {s s' : State} {id : BufId}

theorem State.Since.kept (since : s.Since s') (settled : s.Settled) : s.Kept s' := by
  refine ⟨fun a allocation found => ?_, fun other place owned => ?_⟩
  · rw [since.untouched.heap a (settled.inside a allocation found).1 List.not_mem_nil, found]
  · rw [since.untouched.bufs other (settled.since.handed owned) List.not_mem_nil, owned]

theorem State.Accounted.made {list : List Addr} (accounted : Accounted list s s') (since : s.Since s') {a : Addr}
    (made : s.Made s' a) : a ∈ list := by
  obtain ⟨absent, allocation, found, live⟩ := made
  refine accounted a (Nat.le_of_not_lt fun old => ?_) fun dead => ?_
  · rw [since.untouched.heap a old List.not_mem_nil, absent] at found
    cases found
  · rw [dead allocation found] at live
    cases live

theorem Cloned.independent {N : Prop} {copy : BufId} (settled : s.Settled) (cloned : Cloned s s (s.fieldsOf id) N copy s') :
    s.Since s' ∧ Independent s id copy s' := by
  obtain ⟨⟨ptr, held, used, partial_, accounts⟩, -⟩ := cloned
  obtain ⟨len, owned⟩ := partial_.owned
  refine ⟨partial_.since, ptr, len, held, used, settled.fresh copy partial_.fresh, owned, partial_.holds, partial_.copied,
    partial_.once, fun a member => ?_, fun a made => accounts.made partial_.since made⟩
  cases found : s.heap.get a with
  | none => rfl
  | some allocation => exact absurd (settled.inside a allocation found).1 (Nat.not_lt_of_le (partial_.new a member).1)

/-- From a settled state, a deep clone is a clone of the value's fields. -/
theorem deepClone_cloned (settled : s.Settled) (id : BufId) :
    Yields (· = s) (deepClone id)
      (Cloned s s (s.fieldsOf id) (Within s.Onward s.Sound 128 ([(s.buffer id).ptr], s.fieldsOf id)))
      (Failing s s (Within s.Onward s.Sound 128 ([(s.buffer id).ptr], s.fieldsOf id))) := by
  have named : ∀ p ∈ targetsIn (s.fieldsOf id), p < s.next := by
    unfold State.fieldsOf State.fieldsAt
    cases found : s.heap.get (s.buffer id).ptr with
    | none => exact fun p none => absurd none List.not_mem_nil
    | some a => exact (settled.inside _ a found).2
  refine Yields.read fun now same => ?_
  subst same
  exact cloneUbf_clones settled 128 [(now.buffer id).ptr] (now.fieldsOf id) now settled.since named

/-- **A deep clone touches nothing that was there**, whatever fails on the way. -/
theorem deepClone_touches_nothing (settled : s.Settled) (id : BufId) :
    let s' := ((deepClone id).run.run s).2
    (∀ a allocation, s.heap.get a = some allocation → s'.heap.get a = some allocation) ∧
      ∀ other place, s.bufs.get other = some place → s'.bufs.get other = some place := by
  have ran := deepClone_cloned settled id s rfl
  have since : s.Since ((deepClone id).run.run s).2 := by
    cases result : ((deepClone id).run.run s).1 with
    | ok copy =>
        rw [result] at ran
        exact (Cloned.independent settled ran).1
    | error e =>
        rw [result] at ran
        exact ran.since
  exact since.kept settled

/-- **A deep clone has the contents of what it copies**, in allocations of its own that share nothing. -/
theorem deepClone_copies (settled : s.Settled) (id : BufId) {copy : BufId} {s' : State}
    (ran : (deepClone id).run.run s = (.ok copy, s')) :
    ∃ ptr len held used, s.bufs.get copy = none ∧ s'.bufs.get copy = some ⟨⟨ptr, len⟩, .ubf⟩ ∧
      (∃ a, s'.heap.get ptr = some a ∧ a.live = true ∧ a.typeName = "UBF" ∧ a.fields = held) ∧
      Copied s s' (s.fieldsOf id) held used ∧ (ptr :: used).Nodup ∧ ∀ a ∈ ptr :: used, s.heap.get a = none := by
  have made := deepClone_cloned settled id s rfl
  rw [ran] at made
  obtain ⟨-, ptr, len, held, used, fresh, owned, holds, copied, once, new, -⟩ := Cloned.independent settled made
  exact ⟨ptr, len, held, used, fresh, owned, holds, copied, once, new⟩

/-- Where no native call fails, a deep clone succeeds where its check does. -/
theorem deepClone_runs_iff (settled : s.Settled) (quiet : s.Quiet) (id : BufId) :
    (∃ copy s', (deepClone id).run.run s = (.ok copy, s')) ↔
      Within s.Onward s.Sound 128 ([(s.buffer id).ptr], s.fieldsOf id) := by
  have made := deepClone_cloned settled id s rfl
  constructor
  · rintro ⟨copy, s', ran⟩
    rw [ran] at made
    exact made.2.2 quiet.truthful
  · intro within
    cases result : ((deepClone id).run.run s).1 with
    | ok copy => exact ⟨copy, _, Prod.ext result rfl⟩
    | error e =>
        rw [result] at made
        exact absurd within (made.refused quiet)

/-- **When a deep clone succeeds**: where no native call fails, exactly on a graph whose every descent is
shorter than 128 levels and meets only targets that can be copied, no UBF within itself. -/
theorem deepClone_succeeds_iff (settled : s.Settled) (quiet : s.Quiet) (id : BufId) :
    (∃ copy s', (deepClone id).run.run s = (.ok copy, s')) ↔
      ∀ depth visit, Walk s.Onward depth ([(s.buffer id).ptr], s.fieldsOf id) visit → depth < 128 ∧ s.Sound visit := by
  rw [← within_iff]
  exact deepClone_runs_iff settled quiet id

/-- A UBF with two pointers to one CARRAY. -/
def sharedGraph : State where
  heap := (Table.empty.set 1 { typeName := "UBF", bytes := [], fields := [(7, .ptr 2), (7, .ptr 2)] }).set 2
    { typeName := "CARRAY", bytes := [some 5] }
  next := 3
  bufs := Table.empty.set 0 ⟨⟨1, 0⟩, .ubf⟩
  nextBuf := 1

theorem sharedGraph_settled : sharedGraph.Settled where
  null := by decide
  positive := by decide
  inside a allocation found := by
    simp only [sharedGraph, Table.get_set, Table.get_empty] at found
    split at found
    · rename_i here
      cases found
      subst here
      simp [sharedGraph]
    · split at found
      · rename_i here
        cases found
        subst here
        simp [sharedGraph]
      · cases found
  fresh id later := by
    have other : id ≠ 0 := Nat.ne_of_gt later
    simp [sharedGraph, other]

theorem run_ends {m : UbfM BufId} {s : State} {result : Except UbfError BufId} (ends : (m.run.run s).1 = result) :
    m.run.run s = (result, (m.run.run s).2) := Prod.ext ends rfl

theorem sharedGraph_cloned :
    (deepClone 0).run.run sharedGraph = (.ok 1, ((deepClone 0).run.run sharedGraph).2) := by
  have made : ((deepClone 0).run.run sharedGraph).1.toOption = some 1 := by decide +kernel
  cases result : ((deepClone 0).run.run sharedGraph).1 with
  | error e =>
      rw [result] at made
      cases made
  | ok copy =>
      rw [result] at made
      cases made
      exact run_ends result

theorem sharedGraph_kept : (((deepClone 0).run.run sharedGraph).2.heap.get 2).isSome = true :=
  Option.isSome_iff_exists.2 ⟨_, (deepClone_touches_nothing sharedGraph_settled 0).1 2 _ rfl⟩

/-- Each of the two pointers gets a copy of its own. -/
theorem sharedGraph_copies : ∃ s' ptr held used, Copied sharedGraph s' [(7, .ptr 2), (7, .ptr 2)] held used ∧
    (ptr :: used).Nodup := by
  obtain ⟨ptr, _, held, used, -, -, -, copied, once, -⟩ := deepClone_copies sharedGraph_settled 0 sharedGraph_cloned
  exact ⟨_, ptr, held, used, copied, once⟩

/-- It is cloned, so it is sound, and no descent in it is 128 levels long. -/
theorem sharedGraph_shallow : sharedGraph.Sound ([1], [(7, .ptr 2), (7, .ptr 2)]) ∧
    ¬ ∃ visit, Walk sharedGraph.Onward 128 ([1], [(7, .ptr 2), (7, .ptr 2)]) visit := by
  have quiet : sharedGraph.Quiet :=
    { allocs := fun _ none => absurd none List.not_mem_nil
      types := fun _ none => absurd none List.not_mem_nil
      writes := fun _ none => absurd none List.not_mem_nil
      displaced := fun _ none => absurd none List.not_mem_nil
      shell := fun _ none => absurd none List.not_mem_nil
      calls := fun _ none => absurd none List.not_mem_nil
      truthful := fun _ none => absurd none List.not_mem_nil
      used := by decide }
  have shallow := (deepClone_succeeds_iff sharedGraph_settled quiet 0).1 ⟨1, _, sharedGraph_cloned⟩
  refine ⟨(shallow 0 _ (.here _)).2, ?_⟩
  rintro ⟨visit, walk⟩
  exact absurd (shallow 128 visit walk).1 (Nat.lt_irrefl 128)

end DeepClone

/-! ## Clones of shared graphs -/

section Owned

variable {o s : State} {source held : Fields} {used : List Addr}

theorem bufferType_ubf {type_ : String} (other : type_ ≠ "UBF") : bufferType type_ ≠ "UBF" := by
  unfold bufferType
  split
  · decide
  · exact other

theorem isUbf_made {ptr : Addr} {b : Allocation} (made : s.heap.get ptr = some b) (live : b.live = true) :
    (s.typesOf ptr).isSome ∧ s.isUbf ptr = decide (b.typeName = "UBF") := by
  have known : s.typesOf ptr = some b.info := by
    unfold State.typesOf
    rw [made]
    exact if_pos live
  unfold State.isUbf
  rw [known]
  exact ⟨rfl, rfl⟩

theorem within_cons {fuel : Nat} {path : List Addr} {item : Int × FieldValue} {rest : Fields}
    (within : Within o.Onward o.Sound (fuel + 1) (path, item :: rest)) :
    Each (fun inside => Within o.Onward o.Sound fuel (path, inside)) (o.Reachable fuel path) item ∧
      Within o.Onward o.Sound (fuel + 1) (path, rest) := by
  obtain ⟨first, others⟩ := List.forall_mem_cons.1 ((within_succ o fuel path _).1 within)
  exact ⟨first, (within_succ o fuel path rest).2 others⟩

/-- What the ownership scan makes of a clone: it is as deep as its source, and meets every copy once, live. -/
structure Scanned (fuel : Nat) (held : Fields) (used : List Addr) (s : State) : Prop where
  deep : s.within fuel held
  walk : s.walk fuel held = used
  live : ∀ p ∈ used, (s.typesOf p).isSome

theorem Scanned.null {fuel : Nat} {id : Int} (others : Scanned (fuel + 1) held used s) :
    Scanned (fuel + 1) ((id, .ptr 0) :: held) used s where
  deep := List.forall_mem_cons.2 ⟨fun named => absurd rfl named, others.deep⟩
  walk := others.walk
  live := others.live

theorem Copied.scanned (null : s.heap.get 0 = none) (copied : Copied o s source held used) : ∀ (fuel : Nat) (path : List Addr),
    Within o.Onward o.Sound fuel (path, source) → Scanned fuel held used s := by
  induction copied with
  | nil =>
      intro fuel path within
      cases fuel with
      | zero => exact within.elim
      | succ fuel => exact ⟨fun _ none => absurd none List.not_mem_nil, rfl, fun _ none => absurd none List.not_mem_nil⟩
  | plain _ ih =>
      intro fuel path within
      cases fuel with
      | zero => exact within.elim
      | succ fuel =>
          have others := ih (fuel + 1) path (within_cons within).2
          exact ⟨List.forall_mem_cons.2 ⟨trivial, others.deep⟩, others.walk, others.live⟩
  | null _ ih | missed _ _ ih =>
      intro fuel path within
      cases fuel with
      | zero => exact within.elim
      | succ fuel => exact (ih (fuel + 1) path (within_cons within).2).null
  | embedded _ _ inner ih =>
      intro fuel path within
      cases fuel with
      | zero => exact within.elim
      | succ fuel =>
          obtain ⟨first, rest⟩ := within_cons within
          have inside := inner fuel path first
          have others := ih (fuel + 1) path rest
          refine ⟨List.forall_mem_cons.2 ⟨inside.deep, others.deep⟩, ?_, List.forall_mem_append.2 ⟨inside.live, others.live⟩⟩
          rw [← inside.walk, ← others.walk]
          rfl
  | @ubf id target ptr a b rest copies below used named source live type made lives types _ _ inner ih =>
      intro fuel path within
      cases fuel with
      | zero => exact within.elim
      | succ fuel =>
          obtain ⟨first, rest⟩ := within_cons within
          have behind := inner fuel (target :: path) ((first named).2 _ source live type)
          have others := ih (fuel + 1) path rest
          have fields : s.fieldsAt ptr = b.fields := by
            unfold State.fieldsAt
            rw [made]
          obtain ⟨alive, ubf⟩ := isUbf_made made lives
          refine ⟨List.forall_mem_cons.2 ⟨fun _ _ => fields ▸ behind.deep, others.deep⟩, ?_, ?_⟩
          · have named : ptr ≠ 0 := by
              rintro rfl
              rw [null] at made
              cases made
            show (if ptr = 0 then [] else ptr :: (if s.isUbf ptr then s.walk fuel (s.fieldsAt ptr) else [])) ++
              s.walk (fuel + 1) copies = _
            rw [if_neg named, ubf, if_pos (by simpa using types), fields, behind.walk, others.walk]
          · exact List.forall_mem_cons.2 ⟨alive, List.forall_mem_append.2 ⟨behind.live, others.live⟩⟩
  | @other id target ptr a b size rest copies used _ _ _ type _ made lives types _ _ _ _ _ ih =>
      intro fuel path within
      cases fuel with
      | zero => exact within.elim
      | succ fuel =>
          have others := ih (fuel + 1) path (within_cons within).2
          have named : ptr ≠ 0 := by
            rintro rfl
            rw [null] at made
            cases made
          obtain ⟨alive, ubf⟩ := isUbf_made made lives
          have leaf : s.isUbf ptr = false := by
            rw [ubf, types]
            exact decide_eq_false (bufferType_ubf type)
          refine ⟨List.forall_mem_cons.2 ⟨fun _ impossible => ?_, others.deep⟩, ?_,
            List.forall_mem_cons.2 ⟨alive, others.live⟩⟩
          · rw [leaf] at impossible
            cases impossible
          · show (if ptr = 0 then [] else ptr :: (if s.isUbf ptr then s.walk fuel (s.fieldsAt ptr) else [])) ++
              s.walk (fuel + 1) copies = _
            rw [if_neg named, leaf, others.walk]
            rfl

/-- Where each target is met once, the owned edits accept it. -/
theorem Scanned.accepted {id : BufId} (scanned : Scanned 128 held used s) (answering : s.Answering)
    (fields : s.fieldsOf id = held) (once : ((s.buffer id).ptr :: used).Nodup) :
    ((ensureOwnedTree id).run.run s).1 = .ok ⟨⟩ := by
  rw [ensureOwnedTree_ok ⟨answering, s.answers, rfl⟩, fields, scanned.walk]
  exact ⟨⟨scanned.deep, scanned.live⟩, (List.perm_append_singleton _ used).nodup_iff.2 once⟩

/-- **What a deep clone is good for**: whatever the source shares, where no question whether an occurrence is there failed
the owned edits accept the clone. -/
theorem deepClone_owned_tree (settled : o.Settled) (truthful : o.Truthful) (id : BufId) {copy : BufId}
    (ran : (deepClone id).run.run o = (.ok copy, s)) {u : State} (heap : u.heap = s.heap) (bufs : u.bufs = s.bufs)
    (answering : u.Answering) : ((ensureOwnedTree copy).run.run u).1 = .ok ⟨⟩ := by
  have made := deepClone_cloned settled id o rfl
  rw [ran] at made
  obtain ⟨⟨ptr, held, used, partial_, -⟩, -, within⟩ := made
  have place : (u.buffer copy).ptr = ptr := by
    unfold State.buffer
    rw [bufs]
    exact partial_.buffer
  have fields : u.fieldsOf copy = held := by
    have same := partial_.fieldsOf
    unfold State.fieldsOf State.fieldsAt at same ⊢
    rw [place, heap]
    rwa [partial_.buffer] at same
  have null : u.heap.get 0 = none := heap ▸ partial_.since.settled.null
  have kept : Copied o u (o.fieldsOf id) held used := partial_.copied.frame fun _ _ => by rw [heap]
  have scanned := kept.scanned null 128 _ (within truthful)
  exact scanned.accepted answering fields (place ▸ partial_.once)

/-- A UBF with two pointers to one CARRAY is refused by the owned edits; its clone is not. -/
theorem sharedGraph_repaired : ((ensureOwnedTree 0).run.run sharedGraph).1 = .error sharedPointer ∧
    ((ensureOwnedTree 1).run.run ((deepClone 0).run.run sharedGraph).2).1 = .ok ⟨⟩ := by
  have calls : ((deepClone 0).run.run sharedGraph).2.answers.calls = [] := by decide +kernel
  have present : ((deepClone 0).run.run sharedGraph).2.answers.present = [] := by decide +kernel
  have types : ((deepClone 0).run.run sharedGraph).2.answers.types = [] := by decide +kernel
  refine ⟨by rfl, deepClone_owned_tree sharedGraph_settled (fun _ none => absurd none List.not_mem_nil) 0
    sharedGraph_cloned rfl rfl ⟨?_, ?_, ?_⟩⟩
  · rw [calls]
    exact fun _ none => absurd none List.not_mem_nil
  · rw [present]
    exact fun _ none => absurd none List.not_mem_nil
  · rw [types]
    exact fun _ none => absurd none List.not_mem_nil

end Owned

end Endurox.Typed
