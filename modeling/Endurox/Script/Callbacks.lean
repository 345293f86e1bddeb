/-
# Script.Callbacks -- what a script VM may call back

`tpscript.rs` gives the native VM the address of a boxed `CallbackEntry` for each
registered name, and a trampoline that reads the entry behind the address.  The native
VM is not seen: once it was given an address it may pass it back during any later call,
whatever that call or the registration returned, until it is destroyed.  `known` is the
list of those addresses.  A closure has a number of its own for each registration.
-/
import Endurox.Script.Buffers

namespace Endurox.Callbacks

open Endurox.Theory Endurox.Script

set_option autoImplicit false

abbrev ThreadId := Nat

abbrev ClosureId := Nat

structure CallbackEntry where
  owner : ThreadId
  callback : Option ClosureId
  deriving DecidableEq, Repr

/-- `TpScrError::new`. -/
def scriptError (scriptCode : Int) (message : String) : TpScrError := .native 0 scriptCode message

def EXSUCCEED : Int := 0

def EXFAIL : Int := -1

/-- A call of the trampoline, and what the closure it reaches does with it. -/
structure Invocation where
  vm : Nat
  name : Option String
  user : Ptr
  thread : ThreadId
  /-- What `borrow_current_context` finds. -/
  ctx : Option CtxId
  native : NativeSlots
  ptrAt : Addr → Ptr
  lenAt : Addr → Int
  behaviour : ClosureId → Outcome
  /-- What `return_to_native` answers. -/
  returned : TpScrResult Unit

/-- A native call: the invocations it makes, and its error. -/
structure NativeCall where
  calls : List Invocation := []
  error : Option TpScrError := none

structure State where
  /-- The native VM; 0 once it was shut down. -/
  pointer : Nat := 1
  callbacks : Table String Ptr := .empty
  /-- The boxes that have not been freed. -/
  entries : Table Ptr CallbackEntry := .empty
  nextPtr : Ptr := 1
  nextClosure : ClosureId := 0
  /-- The addresses the native VM may still pass. -/
  known : List Ptr := []
  -- observation
  reached : List ClosureId := []
  dangling : Bool := false

namespace State

/-- The closure an invocation with this address reaches. -/
def closureAt (s : State) (user : Ptr) : Option ClosureId := (s.entries.get user).bind (·.callback)

/-! ## The trampoline -/

def noLongerRegistered : TpScrError := scriptError EXFAIL "Rust callback is no longer registered"

def panicked : TpScrError := scriptError EXFAIL "Rust scripting callback panicked"

/-- `callback_value`: its status, and the error it leaves for the engine. -/
def callbackValue (inv : Invocation) (s : State) : (Int × Option TpScrError) × State :=
  if inv.user = 0 ∨ inv.vm = 0 ∨ inv.name = none then ((EXFAIL, none), s)
  else
    match s.entries.get inv.user with
    | none => ((EXFAIL, none), { s with dangling := true })
    | some entry =>
        if entry.owner ≠ inv.thread then ((EXFAIL, none), s)
        else
          match inv.ctx with
          | none => ((EXFAIL, none), s)
          | some ctx =>
              match Script.State.callback ctx inv.native inv.ptrAt inv.lenAt with
              | .error e => ((EXFAIL, some e), s)
              | .ok _ =>
                  let result := match entry.callback with
                    | some closure =>
                        match inv.behaviour closure with
                        | .returned result => result
                        | .panicked => .error panicked
                    | none => .error noLongerRegistered
                  let s := { s with reached := entry.callback.toList ++ s.reached }
                  match inv.returned with
                  | .error e => ((EXFAIL, some e), s)
                  | .ok () =>
                      match result with
                      | .error e => ((EXFAIL, some e), s)
                      | .ok () => ((EXSUCCEED, none), s)

/-- The native VM passes only addresses it was given. -/
def invoke (s : State) (inv : Invocation) : State :=
  if inv.user ∈ s.known then (s.callbackValue inv).2 else s

def nativeCall (call : NativeCall) (s : State) : State := call.calls.foldl invoke s

/-! ## Registration -/

/-- The entry of a name, made when there is none. -/
def entryFor (thread : ThreadId) (name : String) (s : State) : Ptr × State :=
  match s.callbacks.get name with
  | some user => (user, s)
  | none =>
      (s.nextPtr,
        { s with
          callbacks := s.callbacks.set name s.nextPtr
          entries := s.entries.set s.nextPtr ⟨thread, none⟩
          nextPtr := s.nextPtr + 1 })

def setCallback (user : Ptr) (callback : Option ClosureId) (s : State) : State :=
  match s.entries.get user with
  | some entry => { s with entries := s.entries.set user { entry with callback } }
  | none => s

def nameContainsNul : TpScrError := .invalid "script name contains NUL"

def tpscrregcb (thread : ThreadId) (name : String) (call : NativeCall) (s : State) :
    TpScrResult Unit × State :=
  if Char.ofNat 0 ∈ name.toList then (.error nameContainsNul, s)
  else
    let closure := s.nextClosure
    let made := entryFor thread name { s with nextClosure := s.nextClosure + 1 }
    let s := nativeCall call { made.2 with known := made.1 :: made.2.known }
    match call.error with
    | some e => (.error e, s)
    | none => (.ok (), s.setCallback made.1 (some closure))

def tpscrunregcb (name : String) (call : NativeCall) (s : State) : TpScrResult Unit × State :=
  if Char.ofNat 0 ∈ name.toList then (.error nameContainsNul, s)
  else
    let s := nativeCall call s
    match call.error with
    | some e => (.error e, s)
    | none =>
        match s.callbacks.get name with
        | some user => (.ok (), s.setCallback user none)
        | none => (.ok (), s)

/-! ## The end of a VM -/

/-- `shutdown`: after a failure the registry is forgotten, not dropped. -/
def shutdown (call : NativeCall) (s : State) : TpScrResult Unit × State :=
  if s.pointer = 0 then (.ok (), s)
  else
    let s := { nativeCall call s with pointer := 0 }
    match call.error with
    | some e => (.error e, { s with callbacks := .empty })
    | none => (.ok (), { s with known := [] })

/-- The registry dropped, with its boxes. -/
def dropCallbacks (s : State) : State :=
  { s with entries := s.callbacks.vals.foldl Table.del s.entries, callbacks := .empty }

/-- `tpscruninit`, and the drop of the VM it has taken. -/
def tpscruninit (call : NativeCall) (s : State) : TpScrResult Unit × State :=
  let ended := s.shutdown call
  (ended.1, (ended.2.shutdown {}).2.dropCallbacks)

/-- `Drop for TpScrVm`. -/
def drop (call : NativeCall) (s : State) : State := (s.shutdown call).2.dropCallbacks

end State

/-! ## The machine -/

inductive Label
  | tpscrregcb (name : String) (call : NativeCall)
  | tpscrunregcb (name : String) (call : NativeCall)
  | tpscrexec (call : NativeCall)
  | tpscruninit (call : NativeCall)
  | drop (call : NativeCall)
  /-- A VM that could not be destroyed calls on. -/
  | invoke (inv : Invocation)

/-- A VM that was shut down is called no more; it may still call. -/
def State.step (thread : ThreadId) (s : State) : Label → State
  | .invoke inv => s.invoke inv
  | .tpscrregcb name call => if s.pointer = 0 then s else (s.tpscrregcb thread name call).2
  | .tpscrunregcb name call => if s.pointer = 0 then s else (s.tpscrunregcb name call).2
  | .tpscrexec call => if s.pointer = 0 then s else s.nativeCall call
  | .tpscruninit call => if s.pointer = 0 then s else (s.tpscruninit call).2
  | .drop call => if s.pointer = 0 then s else s.drop call

/-- Every run of a VM made on a thread. -/
def vm (thread : ThreadId) : Machine State Label where
  init := {}
  step := State.step thread

namespace State

/-! ## What each part does -/

/-- An invocation changes nothing but what is observed. -/
structure Called (s s' : State) : Prop where
  pointer : s'.pointer = s.pointer
  callbacks : s'.callbacks = s.callbacks
  entries : s'.entries = s.entries
  nextPtr : s'.nextPtr = s.nextPtr
  nextClosure : s'.nextClosure = s.nextClosure
  known : s'.known = s.known

theorem Called.refl (s : State) : Called s s := ⟨rfl, rfl, rfl, rfl, rfl, rfl⟩

theorem Called.trans {s s' s'' : State} (first : Called s s') (second : Called s' s'') : Called s s'' :=
  ⟨second.pointer.trans first.pointer, second.callbacks.trans first.callbacks,
    second.entries.trans first.entries, second.nextPtr.trans first.nextPtr,
    second.nextClosure.trans first.nextClosure, second.known.trans first.known⟩

theorem Called.closureAt {s s' : State} (called : Called s s') (user : Ptr) :
    s'.closureAt user = s.closureAt user := by
  unfold State.closureAt
  rw [called.entries]

/-- What the trampoline reads and reaches. -/
theorem callbackValue_cases (inv : Invocation) (s : State) :
    Called s (s.callbackValue inv).2 ∧
      ((s.callbackValue inv).2.dangling = true → s.dangling = true ∨ s.entries.get inv.user = none) ∧
      ((s.callbackValue inv).2.reached = s.reached ∨
        (s.callbackValue inv).2.reached = (s.closureAt inv.user).toList ++ s.reached) := by
  unfold callbackValue
  split
  · exact ⟨.refl s, .inl, .inl rfl⟩
  · split
    · rename_i missing
      exact ⟨⟨rfl, rfl, rfl, rfl, rfl, rfl⟩, fun _ => .inr missing, .inl rfl⟩
    · rename_i entry found
      have closure : s.closureAt inv.user = entry.callback := by simp [State.closureAt, found]
      split
      · exact ⟨.refl s, .inl, .inl rfl⟩
      · split
        · exact ⟨.refl s, .inl, .inl rfl⟩
        · split
          · exact ⟨.refl s, .inl, .inl rfl⟩
          · rw [closure]
            simp only
            split
            · exact ⟨⟨rfl, rfl, rfl, rfl, rfl, rfl⟩, .inl, .inr rfl⟩
            · split
              · exact ⟨⟨rfl, rfl, rfl, rfl, rfl, rfl⟩, .inl, .inr rfl⟩
              · exact ⟨⟨rfl, rfl, rfl, rfl, rfl, rfl⟩, .inl, .inr rfl⟩

theorem called_invoke (s : State) (inv : Invocation) : Called s (s.invoke inv) := by
  unfold invoke
  split
  · exact (callbackValue_cases inv s).1
  · exact .refl s

theorem called_nativeCall (call : NativeCall) (s : State) : Called s (s.nativeCall call) := by
  unfold nativeCall
  induction call.calls generalizing s with
  | nil => exact .refl s
  | cons inv calls ih => exact (called_invoke s inv).trans (ih (s.invoke inv))

theorem closureAt_setCallback (user : Ptr) (callback : Option ClosureId) (s : State) (user' : Ptr) :
    (s.setCallback user callback).closureAt user' =
      if user' = user ∧ (s.entries.get user).isSome then callback else s.closureAt user' := by
  unfold setCallback State.closureAt
  cases found : s.entries.get user with
  | none => simp
  | some entry =>
      simp only [Table.get_set, Option.isSome_some, and_true]
      split
      · rfl
      · rfl

theorem setCallback_live (user : Ptr) (callback : Option ClosureId) (s : State) (user' : Ptr) :
    ((s.setCallback user callback).entries.get user').isSome = (s.entries.get user').isSome := by
  unfold setCallback
  cases found : s.entries.get user with
  | none => rfl
  | some entry =>
      simp only [Table.get_set]
      split
      · rename_i same
        rw [same, found]
        rfl
      · rfl

/-! ## The invariant -/

/-- What the native VM may pass is a live entry, the registry's own while the VM is open; and each
registration's closure is in one entry at most. -/
structure Sound (s : State) : Prop where
  safe : s.dangling = false
  live : ∀ a ∈ s.known, (s.entries.get a).isSome
  named : s.pointer ≠ 0 → ∀ a ∈ s.known, ∃ name, s.callbacks.get name = some a
  boxed : ∀ name a, s.callbacks.get name = some a → (s.entries.get a).isSome
  below : ∀ a, (s.entries.get a).isSome → a < s.nextPtr
  fresh : ∀ a c, s.closureAt a = some c → c < s.nextClosure
  one : ∀ a a' c, s.closureAt a = some c → s.closureAt a' = some c → a = a'

section Steps

variable {s s' : State}

theorem Sound.called (sound : Sound s) (called : Called s s') (safe : s'.dangling = false) : Sound s' where
  safe := safe
  live a known := by
    rw [called.entries]
    exact sound.live a (called.known ▸ known)
  named opened a known := by
    rw [called.callbacks]
    exact sound.named (called.pointer ▸ opened) a (called.known ▸ known)
  boxed name a found := by
    rw [called.entries]
    exact sound.boxed name a (called.callbacks ▸ found)
  below a live := by
    rw [called.nextPtr]
    exact sound.below a (called.entries ▸ live)
  fresh a c found := by
    rw [called.nextClosure]
    exact sound.fresh a c (called.closureAt a ▸ found)
  one a a' c found found' := sound.one a a' c (called.closureAt a ▸ found) (called.closureAt a' ▸ found')

theorem sound_invoke (inv : Invocation) (sound : Sound s) : Sound (s.invoke inv) := by
  refine sound.called (called_invoke s inv) ?_
  unfold invoke
  split
  · rename_i known
    by_contra bad
    rcases (callbackValue_cases inv s).2.1 (by simpa using bad) with before | missing
    · exact nomatch before.symm.trans sound.safe
    · have live := sound.live inv.user known
      rw [missing] at live
      exact nomatch live
  · exact sound.safe

theorem sound_nativeCall (call : NativeCall) (sound : Sound s) : Sound (s.nativeCall call) := by
  unfold nativeCall
  induction call.calls generalizing s with
  | nil => exact sound
  | cons inv calls ih => exact ih (sound_invoke inv sound)

/-- A name's entry is there afterwards, and a new one has no closure. -/
theorem sound_entryFor (thread : ThreadId) (name : String) (sound : Sound s) :
    Sound (s.entryFor thread name).2 ∧
      (s.entryFor thread name).2.callbacks.get name = some (s.entryFor thread name).1 ∧
      ∀ a, (s.entryFor thread name).2.closureAt a = s.closureAt a := by
  unfold entryFor
  cases found : s.callbacks.get name with
  | some user => exact ⟨sound, found, fun _ => rfl⟩
  | none =>
      have unused : s.entries.get s.nextPtr = none := by
        by_contra taken
        exact Nat.lt_irrefl _ (sound.below _ (Option.isSome_iff_ne_none.2 taken))
      have same : ∀ a, ({ s with
          callbacks := s.callbacks.set name s.nextPtr
          entries := s.entries.set s.nextPtr ⟨thread, none⟩
          nextPtr := s.nextPtr + 1 } : State).closureAt a = s.closureAt a := by
        intro a
        unfold State.closureAt
        rw [Table.get_set]
        split
        · rename_i new
          rw [new, unused]
          rfl
        · rfl
      have more : ∀ a, (s.entries.get a).isSome → ((s.entries.set s.nextPtr ⟨thread, none⟩).get a).isSome := by
        intro a live
        rw [Table.get_set]
        split
        · rfl
        · exact live
      refine ⟨⟨sound.safe, fun a known => more a (sound.live a known), fun opened a known => ?_,
        fun name' a named => ?_, fun a live => ?_, fun a c at' => sound.fresh a c (same a ▸ at'),
        fun a a' c at' at'' => sound.one a a' c (same a ▸ at') (same a' ▸ at'')⟩, ?_, same⟩
      · obtain ⟨name', named⟩ := sound.named opened a known
        have other : name' ≠ name := by
          rintro rfl
          cases named.symm.trans found
        exact ⟨name', by rw [Table.get_set, if_neg other]; exact named⟩
      · rw [Table.get_set] at named
        split at named
        · obtain rfl := Option.some.inj named
          simp
        · exact more a (sound.boxed name' a named)
      · simp only [Table.get_set] at live
        split at live
        · rename_i new
          exact new ▸ Nat.lt_succ_self _
        · exact Nat.lt_succ_of_lt (sound.below a live)
      · rw [Table.get_set, if_pos rfl]

/-- An entry gets a closure nobody has, or none. -/
theorem sound_setCallback {callback : Option ClosureId} (user : Ptr) (sound : Sound s)
    (new : ∀ c, callback = some c → c < s.nextClosure ∧ ∀ a, s.closureAt a ≠ some c) :
    Sound (s.setCallback user callback) := by
  have frame : (s.setCallback user callback).dangling = s.dangling ∧
      (s.setCallback user callback).known = s.known ∧ (s.setCallback user callback).pointer = s.pointer ∧
      (s.setCallback user callback).callbacks = s.callbacks ∧
      (s.setCallback user callback).nextPtr = s.nextPtr ∧
      (s.setCallback user callback).nextClosure = s.nextClosure := by
    unfold setCallback
    split <;> exact ⟨rfl, rfl, rfl, rfl, rfl, rfl⟩
  obtain ⟨dangling, known, pointer, callbacks, nextPtr, nextClosure⟩ := frame
  have live := setCallback_live user callback s
  refine ⟨dangling.trans sound.safe, ?_, ?_, ?_, ?_, ?_, ?_⟩
  · intro a
    rw [known, live]
    exact sound.live a
  · rw [pointer, known, callbacks]
    exact sound.named
  · intro name a
    rw [callbacks, live]
    exact sound.boxed name a
  · intro a
    rw [live, nextPtr]
    exact sound.below a
  · intro a c
    rw [closureAt_setCallback, nextClosure]
    split
    · exact fun same => (new c same).1
    · exact sound.fresh a c
  · intro a a' c
    rw [closureAt_setCallback, closureAt_setCallback]
    split <;> split
    · rename_i one two
      exact fun _ _ => one.1.trans two.1.symm
    · exact fun same other => absurd other ((new c same).2 a')
    · exact fun other same => absurd other ((new c same).2 a)
    · exact sound.one a a' c

/-- A registration as its native call returns: the entry is there, and every closure where it was. -/
structure Midway (s mid : State) : Prop where
  sound : Sound mid
  closureAt : ∀ a, mid.closureAt a = s.closureAt a
  callbacks : ∀ name a, s.callbacks.get name = some a → mid.callbacks.get name = some a
  nextClosure : mid.nextClosure = s.nextClosure + 1

theorem midway (thread : ThreadId) (name : String) (call : NativeCall) (sound : Sound s) :
    let made := entryFor thread name { s with nextClosure := s.nextClosure + 1 }
    Midway s (nativeCall call { made.2 with known := made.1 :: made.2.known }) := by
  intro made
  have counted : Sound { s with nextClosure := s.nextClosure + 1 } :=
    ⟨sound.safe, sound.live, sound.named, sound.boxed, sound.below,
      fun a c found => Nat.lt_succ_of_lt (sound.fresh a c found), sound.one⟩
  obtain ⟨after, found, same⟩ := sound_entryFor thread name counted
  have given : Sound { made.2 with known := made.1 :: made.2.known } := by
    refine ⟨after.safe, fun a known => ?_, fun opened a known => ?_, after.boxed, after.below, after.fresh,
      after.one⟩
    · rcases List.mem_cons.1 known with rfl | known
      · exact after.boxed name _ found
      · exact after.live a known
    · rcases List.mem_cons.1 known with rfl | known
      · exact ⟨name, found⟩
      · exact after.named opened a known
  have called := called_nativeCall call { made.2 with known := made.1 :: made.2.known }
  have kept : ∀ name' a, s.callbacks.get name' = some a → made.2.callbacks.get name' = some a := by
    intro name' a named
    simp only [made, entryFor]
    split
    · exact named
    · rename_i absent
      have other : name' ≠ name := by
        rintro rfl
        cases named.symm.trans absent
      rw [Table.get_set, if_neg other]
      exact named
  have number : made.2.nextClosure = s.nextClosure + 1 := by
    simp only [made, entryFor]
    split <;> rfl
  exact ⟨sound_nativeCall call given, fun a => (called.closureAt a).trans (same a),
    fun name' a named => by rw [called.callbacks]; exact kept name' a named, called.nextClosure.trans number⟩

theorem sound_tpscrregcb (thread : ThreadId) (name : String) (call : NativeCall) (sound : Sound s) :
    Sound (s.tpscrregcb thread name call).2 := by
  have mid := midway thread name call sound
  unfold tpscrregcb
  split
  · exact sound
  · cases call.error with
    | some e => exact mid.sound
    | none =>
        refine sound_setCallback _ mid.sound fun c new => ?_
        obtain rfl := Option.some.inj new
        refine ⟨by rw [mid.nextClosure]; exact Nat.lt_succ_self _, fun a found => ?_⟩
        exact Nat.lt_irrefl _ (sound.fresh a _ ((mid.closureAt a).symm.trans found))

theorem sound_tpscrunregcb (name : String) (call : NativeCall) (sound : Sound s) :
    Sound (s.tpscrunregcb name call).2 := by
  have called := sound_nativeCall call sound
  unfold tpscrunregcb
  split
  · exact sound
  · cases call.error with
    | some e => exact called
    | none =>
        simp only
        split
        · exact sound_setCallback _ called (by simp)
        · exact called

theorem get_dels (ps : List Ptr) (t : Table Ptr CallbackEntry) (a : Ptr) :
    (ps.foldl Table.del t).get a = if a ∈ ps then none else t.get a := by
  induction ps generalizing t with
  | nil => simp
  | cons p ps ih =>
      rw [List.foldl_cons, ih, Table.get_del]
      by_cases later : a ∈ ps <;> by_cases now : a = p <;> simp [later, now]

/-- Dropped boxes are boxes the native VM no longer knows. -/
theorem sound_dropCallbacks (sound : Sound s) (forgotten : s.known = [] ∨ s.callbacks = .empty) :
    Sound s.dropCallbacks := by
  have fewer : ∀ a, (s.dropCallbacks.entries.get a).isSome → (s.entries.get a).isSome := by
    intro a live
    simp only [dropCallbacks, get_dels] at live
    split at live
    · cases live
    · exact live
  have closure : ∀ a c, s.dropCallbacks.closureAt a = some c → s.closureAt a = some c := by
    intro a c found
    simp only [State.closureAt, dropCallbacks, get_dels] at found ⊢
    split at found
    · cases found
    · exact found
  refine ⟨sound.safe, fun a known => ?_, fun opened a known => ?_,
    fun _ _ named => (by cases named), fun a live => sound.below a (fewer a live), fun a c found => sound.fresh a c (closure a c found),
    fun a a' c found found' => sound.one a a' c (closure a c found) (closure a' c found')⟩
  · rcases forgotten with none | empty
    · exact absurd (none ▸ known) List.not_mem_nil
    · have live := sound.live a known
      simpa [dropCallbacks, empty] using live
  · rcases forgotten with none | empty
    · exact absurd (none ▸ known) List.not_mem_nil
    · obtain ⟨name, found⟩ := sound.named opened a known
      rw [empty] at found
      cases found

theorem shutdown_forgets (call : NativeCall) (sound : Sound s) (opened : s.pointer ≠ 0) :
    Sound (s.shutdown call).2 ∧ (s.shutdown call).2.pointer = 0 ∧
      ((s.shutdown call).2.known = [] ∨ (s.shutdown call).2.callbacks = .empty) := by
  have called := sound_nativeCall call sound
  unfold shutdown
  rw [if_neg opened]
  cases call.error with
  | some e =>
      exact ⟨⟨called.safe, called.live, fun opened => absurd rfl opened, nofun, called.below, called.fresh,
        called.one⟩, rfl, .inr rfl⟩
  | none =>
      exact ⟨⟨called.safe, nofun, fun opened => absurd rfl opened, called.boxed, called.below, called.fresh,
        called.one⟩, rfl, .inl rfl⟩

theorem sound_drop (call : NativeCall) (sound : Sound s) (opened : s.pointer ≠ 0) : Sound (s.drop call) := by
  obtain ⟨after, _, forgotten⟩ := shutdown_forgets call sound opened
  exact sound_dropCallbacks after forgotten

/-- The drop after `tpscruninit` finds nothing to shut down. -/
theorem tpscruninit_drops (call : NativeCall) (s : State) : (s.tpscruninit call).2 = s.drop call := by
  have ended : (s.shutdown call).2.pointer = 0 := by
    unfold shutdown
    split
    · assumption
    · cases call.error <;> rfl
  simp only [tpscruninit, drop]
  rw [shutdown, if_pos ended]

/-- **One step** keeps the invariant. -/
theorem sound_step (thread : ThreadId) (label : Label) (sound : Sound s) : Sound (s.step thread label) := by
  by_cases opened : s.pointer = 0
  · cases label with
    | invoke inv => exact sound_invoke inv sound
    | _ => simpa only [step, opened, if_true] using sound
  · cases label with
    | invoke inv => exact sound_invoke inv sound
    | tpscrregcb name call => simpa only [step, opened, if_false] using sound_tpscrregcb thread name call sound
    | tpscrunregcb name call => simpa only [step, opened, if_false] using sound_tpscrunregcb name call sound
    | tpscrexec call => simpa only [step, opened, if_false] using sound_nativeCall call sound
    | tpscruninit call =>
        simpa only [step, opened, if_false, tpscruninit_drops] using sound_drop call sound opened
    | drop call => simpa only [step, opened, if_false] using sound_drop call sound opened

/-! ## A closure that was removed -/

/-- The closure is in no entry, and will not be given again. -/
structure Gone (closure : ClosureId) (s : State) : Prop where
  used : closure < s.nextClosure
  nowhere : ∀ a, s.closureAt a ≠ some closure

/-- From `s` to `s'` the closure was not reached. -/
def Unreached (closure : ClosureId) (s s' : State) : Prop :=
  ∃ since, s'.reached = since ++ s.reached ∧ closure ∉ since

variable {closure : ClosureId}

theorem Unreached.of_eq (same : s'.reached = s.reached) : Unreached closure s s' := ⟨[], same, nofun⟩

theorem Unreached.trans {s'' : State} (first : Unreached closure s s') (second : Unreached closure s' s'') :
    Unreached closure s s'' := by
  obtain ⟨since, reached, out⟩ := first
  obtain ⟨since', reached', out'⟩ := second
  refine ⟨since' ++ since, by rw [reached', reached, List.append_assoc], ?_⟩
  rw [List.mem_append, not_or]
  exact ⟨out', out⟩

theorem unreached_invoke (inv : Invocation) (nowhere : ∀ a, s.closureAt a ≠ some closure) :
    Unreached closure s (s.invoke inv) := by
  unfold invoke
  split
  · rcases (callbackValue_cases inv s).2.2 with same | reached
    · exact .of_eq same
    · refine ⟨_, reached, fun member => nowhere inv.user ?_⟩
      simpa using member
  · exact .of_eq rfl

theorem unreached_nativeCall (call : NativeCall) (nowhere : ∀ a, s.closureAt a ≠ some closure) :
    Unreached closure s (s.nativeCall call) := by
  unfold nativeCall
  induction call.calls generalizing s with
  | nil => exact .of_eq rfl
  | cons inv calls ih =>
      have same := (called_invoke s inv).closureAt
      exact (unreached_invoke inv nowhere).trans (ih fun a => by rw [same]; exact nowhere a)

theorem setCallback_frame (user : Ptr) (callback : Option ClosureId) (s : State) :
    (s.setCallback user callback).reached = s.reached ∧
      (s.setCallback user callback).nextClosure = s.nextClosure := by
  unfold setCallback
  split <;> exact ⟨rfl, rfl⟩

theorem Gone.called (gone : Gone closure s) (called : Called s s') : Gone closure s' :=
  ⟨by rw [called.nextClosure]; exact gone.used, fun a => by rw [called.closureAt]; exact gone.nowhere a⟩

/-- An entry gets another closure, or none. -/
theorem Gone.setCallback {callback : Option ClosureId} (gone : Gone closure s) (user : Ptr)
    (other : callback ≠ some closure) : Gone closure (s.setCallback user callback) := by
  refine ⟨by rw [(setCallback_frame user callback s).2]; exact gone.used, fun a => ?_⟩
  rw [closureAt_setCallback]
  split
  · exact other
  · exact gone.nowhere a

theorem gone_tpscrregcb (thread : ThreadId) (name : String) (call : NativeCall) (sound : Sound s)
    (gone : Gone closure s) :
    Gone closure (s.tpscrregcb thread name call).2 ∧ Unreached closure s (s.tpscrregcb thread name call).2 := by
  have mid := midway thread name call sound
  have made : (entryFor thread name { s with nextClosure := s.nextClosure + 1 }).2.reached = s.reached := by
    unfold entryFor
    split <;> rfl
  have called : Unreached closure s _ := Unreached.trans (.of_eq made) (unreached_nativeCall call
    (s := { (entryFor thread name { s with nextClosure := s.nextClosure + 1 }).2 with
      known := (entryFor thread name { s with nextClosure := s.nextClosure + 1 }).1 ::
        (entryFor thread name { s with nextClosure := s.nextClosure + 1 }).2.known }) fun a found =>
      gone.nowhere a ((mid.closureAt a).symm.trans (((called_nativeCall call _).closureAt a).trans found)))
  have still : Gone closure (nativeCall call
      { (entryFor thread name { s with nextClosure := s.nextClosure + 1 }).2 with
        known := (entryFor thread name { s with nextClosure := s.nextClosure + 1 }).1 ::
          (entryFor thread name { s with nextClosure := s.nextClosure + 1 }).2.known }) :=
    ⟨by rw [mid.nextClosure]; exact Nat.lt_succ_of_lt gone.used,
      fun a => by rw [mid.closureAt]; exact gone.nowhere a⟩
  unfold tpscrregcb
  split
  · exact ⟨gone, .of_eq rfl⟩
  · cases call.error with
    | some e => exact ⟨still, called⟩
    | none =>
        refine ⟨still.setCallback _ fun same => ?_, called.trans (.of_eq (setCallback_frame _ _ _).1)⟩
        exact Nat.lt_irrefl _ (Option.some.inj same ▸ gone.used)

theorem gone_tpscrunregcb (name : String) (call : NativeCall) (gone : Gone closure s) :
    Gone closure (s.tpscrunregcb name call).2 ∧ Unreached closure s (s.tpscrunregcb name call).2 := by
  have called := unreached_nativeCall call gone.nowhere
  have still := gone.called (called_nativeCall call s)
  unfold tpscrunregcb
  split
  · exact ⟨gone, .of_eq rfl⟩
  · cases call.error with
    | some e => exact ⟨still, called⟩
    | none =>
        simp only
        split
        · exact ⟨still.setCallback _ (by simp), called.trans (.of_eq (setCallback_frame _ _ _).1)⟩
        · exact ⟨still, called⟩

theorem gone_drop (call : NativeCall) (gone : Gone closure s) :
    Gone closure (s.drop call) ∧ Unreached closure s (s.drop call) := by
  have ended : Gone closure (s.shutdown call).2 ∧ Unreached closure s (s.shutdown call).2 := by
    have called := unreached_nativeCall call gone.nowhere
    have still := gone.called (called_nativeCall call s)
    unfold shutdown
    split
    · exact ⟨gone, .of_eq rfl⟩
    · cases call.error <;> exact ⟨⟨still.used, still.nowhere⟩, called.trans (.of_eq rfl)⟩
  refine ⟨⟨ended.1.used, fun a found => ended.1.nowhere a ?_⟩, ended.2.trans (.of_eq rfl)⟩
  simp only [drop, State.closureAt, dropCallbacks, get_dels] at found ⊢
  split at found
  · cases found
  · exact found

/-- A closure that is gone stays gone and is not reached. -/
theorem gone_step (thread : ThreadId) (label : Label) (sound : Sound s) (gone : Gone closure s) :
    Gone closure (s.step thread label) ∧ Unreached closure s (s.step thread label) := by
  by_cases opened : s.pointer = 0
  · cases label with
    | invoke inv => exact ⟨gone.called (called_invoke s inv), unreached_invoke inv gone.nowhere⟩
    | _ => simpa only [step, opened, if_true] using ⟨gone, Unreached.of_eq rfl⟩
  · cases label with
    | invoke inv => exact ⟨gone.called (called_invoke s inv), unreached_invoke inv gone.nowhere⟩
    | tpscrregcb name call =>
        simpa only [step, opened, if_false] using gone_tpscrregcb thread name call sound gone
    | tpscrunregcb name call => simpa only [step, opened, if_false] using gone_tpscrunregcb name call gone
    | tpscrexec call =>
        simpa only [step, opened, if_false] using
          ⟨gone.called (called_nativeCall call s), unreached_nativeCall call gone.nowhere⟩
    | tpscruninit call => simpa only [step, opened, if_false, tpscruninit_drops] using gone_drop call gone
    | drop call => simpa only [step, opened, if_false] using gone_drop call gone

theorem gone_run (thread : ThreadId) (labels : List Label) (sound : Sound s) (gone : Gone closure s) :
    Unreached closure s ((vm thread).runFrom s labels) :=
  (Machine.invariantFrom (M := vm thread)
    (P := fun s' => Sound s' ∧ Gone closure s' ∧ Unreached closure s s')
    (fun _ label ⟨sound, gone, before⟩ =>
      have after := gone_step thread label sound gone
      ⟨sound_step thread label sound, after.1, before.trans after.2⟩)
    labels s ⟨sound, gone, .of_eq rfl⟩).2.2

/-- A registration that fails. -/
theorem failed_tpscrregcb {thread : ThreadId} {name : String} {call : NativeCall} {e : TpScrError}
    (sound : Sound s) (failed : (s.tpscrregcb thread name call).1 = .error e) :
    (∀ a, (s.tpscrregcb thread name call).2.closureAt a = s.closureAt a) ∧
      ∀ name' a, s.callbacks.get name' = some a →
        (s.tpscrregcb thread name call).2.callbacks.get name' = some a := by
  have mid := midway thread name call sound
  unfold tpscrregcb at failed ⊢
  split
  · exact ⟨fun _ => rfl, fun _ _ found => found⟩
  · rename_i text
    rw [if_neg text] at failed
    cases ended : call.error with
    | some e => exact ⟨mid.closureAt, mid.callbacks⟩
    | none =>
        simp only [ended] at failed
        cases failed

/-- An unregistration that succeeds leaves the name's closure nowhere. -/
theorem gone_unregistered {name : String} {call : NativeCall} {a : Ptr} (sound : Sound s)
    (named : s.callbacks.get name = some a) (registered : s.closureAt a = some closure)
    (succeeded : (s.tpscrunregcb name call).1 = .ok ()) : Gone closure (s.tpscrunregcb name call).2 := by
  have called := called_nativeCall call s
  unfold tpscrunregcb at succeeded ⊢
  split
  · rename_i text
    rw [if_pos text] at succeeded
    cases succeeded
  · rename_i text
    rw [if_neg text] at succeeded
    cases ended : call.error with
    | some e =>
        simp only [ended] at succeeded
        cases succeeded
    | none =>
        simp only [called.callbacks, named]
        refine ⟨?_, fun a' found => ?_⟩
        · rw [(setCallback_frame _ _ _).2, called.nextClosure]
          exact sound.fresh a closure registered
        · rw [closureAt_setCallback, called.closureAt, called.entries] at found
          have live := sound.boxed name a named
          split at found
          · cases found
          · rename_i other
            exact other ⟨sound.one a' a closure found registered, live⟩

end Steps

end State

/-! ## Runs -/

theorem sound_run (thread : ThreadId) (labels : List Label) : State.Sound ((vm thread).run labels) :=
  Machine.invariant (M := vm thread) (P := State.Sound)
    ⟨rfl, nofun, fun _ => nofun, nofun, nofun, nofun, nofun⟩
    (fun _ label sound => State.sound_step thread label sound) labels

/-- **The callbacks of a script VM.**  After every run: what the native VM may pass is a live entry,
while the VM is open one of the registry, and nothing dangling was read; a registration that fails
leaves every closure where it was; and after an unregistration that succeeded no run reaches the
closure. -/
theorem callbacks_registered (thread : ThreadId) (labels : List Label) :
    let s := (vm thread).run labels
    (s.dangling = false ∧ ∀ a ∈ s.known, (s.entries.get a).isSome ∧
      (s.pointer ≠ 0 → ∃ name, s.callbacks.get name = some a)) ∧
    (∀ name call e, (s.tpscrregcb thread name call).1 = .error e →
      (∀ a, (s.tpscrregcb thread name call).2.closureAt a = s.closureAt a) ∧
        ∀ name' a, s.callbacks.get name' = some a →
          (s.tpscrregcb thread name call).2.callbacks.get name' = some a) ∧
    (∀ name call a closure later, s.callbacks.get name = some a → s.closureAt a = some closure →
      (s.tpscrunregcb name call).1 = .ok () →
      State.Unreached closure (s.tpscrunregcb name call).2
        ((vm thread).runFrom (s.tpscrunregcb name call).2 later)) := by
  intro s
  have sound : State.Sound s := sound_run thread labels
  refine ⟨⟨sound.safe, fun a known => ⟨sound.live a known, fun opened => sound.named opened a known⟩⟩,
    fun name call e failed => State.failed_tpscrregcb sound failed, ?_⟩
  intro name call a closure later named registered succeeded
  exact State.gone_run thread later (State.sound_tpscrunregcb name call sound)
    (State.gone_unregistered sound named registered succeeded)

end Endurox.Callbacks
