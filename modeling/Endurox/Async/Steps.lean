/-
# Async.Steps -- one step of the machine, under any rules

`poll_ends` lifted to labels.  `Label.Fits` is what a label asks of the state it
starts in; `step_ends` is what the shared state and every future satisfy after
it.  Nothing here looks inside an operation.
-/
import Endurox.Async.Effects

namespace Endurox.Async

open Endurox.Theory AsyncAtmiCtx

set_option autoImplicit false

/-- `PollRules`, and what `P` must survive outside futures. -/
structure StepRules (may mayUndo : Cd → Prop) (P : AsyncAtmiCtx → Prop)
    (Pw J M : Wait → AsyncAtmiCtx → Prop) : Prop extends PollRules may mayUndo P Pw J M where
  allocated : ∀ s id info, P s → P (s.allocData id info)
  freed : ∀ s id, P s → P (s.freeData id)

/-- What a label asks of the state before it, beyond `P`. -/
def Label.Fits (may mayUndo : Cd → Prop) (P : AsyncAtmiCtx → Prop)
    (Pw J : Wait → AsyncAtmiCtx → Prop) (world : World) : Label → Prop
  | .poll f script => Admits may mayUndo script ∧ ∀ fut, world.futures.get f = some fut →
      Fit P Pw J script.clock world.shared fut
  | .drop f _ => ∀ op w, world.futures.get f = some (.waiting op w) → Pw w world.shared ∧
      (∀ cd, w.guard = .pendingCall cd → P (releaseSlot (.dropped w.own) cd world.shared)) ∧
      ∀ guard, w.guard = .claim guard → P (world.shared.dropClaim guard)
  | .tpcancel cd _ => P (releaseSlot .cancelled cd world.shared)
  | .tryTpacall _ _ script => ∀ cd ∈ script.undone, mayUndo cd
  | _ => True

/-- The future a label polls or drops. -/
def Label.fut? : Label → Option Nat
  | .poll f _ | .drop f _ => some f
  | _ => none

/-- Where a future comes from after a step. -/
inductive Stands (P : AsyncAtmiCtx → Prop) (Pw J : Wait → AsyncAtmiCtx → Prop) (world : World)
    (label : Label) (s : AsyncAtmiCtx) (f : Nat) (fut : Fut) : Prop
  | untouched (found : world.futures.get f = some fut) (other : label.fut? ≠ some f)
  | made (op : Op) (same : fut = .created op) (new : f = world.nextFut)
  | polled (script : PollScript) (same : label = .poll f script)
      (left : Left P Pw J script.waker s (.pending fut))

section Steps

variable {may mayUndo : Cd → Prop} {P : AsyncAtmiCtx → Prop} {Pw J M : Wait → AsyncAtmiCtx → Prop}

theorem tryTpacall_keeps {Q : Submission → AsyncAtmiCtx → Prop} (rules : SendRules mayUndo P Q)
    (flags : Flags) (clock : Clock) (script : SendScript)
    (allowed : ∀ cd ∈ script.undone, mayUndo cd) : Keeps P (tryTpacall flags clock script).run := by
  unfold tryTpacall
  refine Keeps.tryBind (checkSupportedFlags_keeps _) fun _ => ?_
  refine Keeps.tryBind (deadlineFor_keeps _ _) fun deadline => ?_
  refine Keeps.tryBind (Keeps.tryModifyGet fun s holds => rules.settings (.changed s _ _) holds)
    fun taken => ?_
  refine Keeps.tryBind (Keeps.tryModify fun s holds => rules.settings (.changed s _ _) holds) fun _ => ?_
  refine Keeps.tryBind ((withSendPriority_ends rules _ _ _ allowed).mono (fun _ holds => holds)
    fun _ _ holds => holds.1) fun cd => ?_
  exact (registerSubmission_ends rules cd deadline false _).mono (fun _ holds => holds)
    fun _ _ holds => holds.1

variable (rules : StepRules may mayUndo P Pw J M)

include rules

theorem left_holds {waker : Waker} {s : AsyncAtmiCtx} {polled : Polled}
    (left : Left P Pw J waker s polled) : P s := by
  cases polled with
  | ready => exact left
  | pending fut =>
      cases fut with
      | created => exact left
      | sending => exact left.1
      | waiting =>
          obtain ⟨w, _, _, held, _⟩ := left
          exact rules.weaken w s held

theorem dropFut_keeps {world : World} {f : Nat} {fut : Fut} (script : CancelScript)
    (fits : Label.Fits may mayUndo P Pw J world (.drop f script))
    (found : world.futures.get f = some fut) (holds : P world.shared) :
    P ((dropFut script fut).run world.shared).2 := by
  cases fut with
  | created | sending => exact holds
  | waiting op w =>
      obtain ⟨fit, released, dropped⟩ := fits op w found
      simp only [dropFut, dropGuard]
      cases guard : w.guard with
      | pendingCall cd =>
          simp only [dropPendingCall, if_true]
          have gone : ∀ s, s = world.shared → P (releaseSlot (.dropped w.own) cd s) := by
            rintro _ rfl
            exact released cd guard
          have cancelled := tpcancel_keeps rules.send.quiet gone script
          exact Ends.bind cancelled (fun _ => Ends.pure (Q := fun _ => P) fun _ kept => kept)
            world.shared rfl
      | claim g => exact dropped g guard
      | anyWaiter id => exact (rules.guard w).deregistered _ id guard fit

/-- **One step**: the shared state keeps `P`, and every future is one no label touched, a new
one, or as its poll left it. -/
theorem step_ends {world : World} (label : Label)
    (fits : label.Fits may mayUndo P Pw J world) (holds : P world.shared) :
    P (world.step label).shared ∧ ∀ f fut, (world.step label).futures.get f = some fut →
      Stands P Pw J world label (world.step label).shared f fut := by
  cases label with
  | allocData id info =>
      exact ⟨rules.allocated _ id info holds, fun f fut found => .untouched found (by simp [Label.fut?])⟩
  | freeData id =>
      simp only [World.step]
      split
      · exact ⟨holds, fun f fut found => .untouched found (by simp [Label.fut?])⟩
      · exact ⟨rules.freed _ id holds, fun f fut found => .untouched found (by simp [Label.fut?])⟩
  | make op =>
      simp only [World.step]
      split
      · refine ⟨holds, fun f fut found => ?_⟩
        rw [Table.get_set] at found
        split at found
        · rename_i new
          cases found
          exact .made op rfl new
        · exact .untouched found (by simp [Label.fut?])
      · exact ⟨holds, fun f fut found => .untouched found (by simp [Label.fut?])⟩
  | poll f script =>
      simp only [World.step]
      cases found : world.futures.get f with
      | none =>
          refine ⟨holds, fun g fut there => .untouched there fun same => ?_⟩
          cases same
          simp [found] at there
      | some fut =>
          have left := poll_ends rules.toPollRules fits.1 fut world.shared (fits.2 fut found)
          simp only [World.pollFut]
          rcases outcome : (poll script fut).run world.shared with ⟨polled, shared⟩
          rw [outcome] at left
          cases polled with
          | pending fut' =>
              refine ⟨left_holds rules left, fun g other there => ?_⟩
              simp only [Table.get_set] at there
              split at there
              · rename_i same
                cases there
                cases same
                exact .polled script rfl left
              · rename_i distinct
                exact .untouched there fun same => distinct (Option.some.inj same).symm
          | ready =>
              refine ⟨left_holds rules left, fun g other there => ?_⟩
              simp only [Table.get_del] at there
              split at there
              · cases there
              · rename_i distinct
                exact .untouched there fun same => distinct (Option.some.inj same).symm
  | drop f script =>
      simp only [World.step]
      cases found : world.futures.get f with
      | none =>
          refine ⟨holds, fun g fut there => .untouched there fun same => ?_⟩
          cases same
          simp [found] at there
      | some fut =>
          refine ⟨dropFut_keeps rules script fits found holds, fun g other there => ?_⟩
          simp only [Table.get_del] at there
          split at there
          · cases there
          · rename_i distinct
            exact .untouched there fun same => distinct (Option.some.inj same).symm
  | tpcancel cd script =>
      have gone : ∀ s, s = world.shared → P (releaseSlot .cancelled cd s) := by
        rintro _ rfl
        exact fits
      have kept := tpcancel_keeps rules.send.quiet gone script world.shared rfl
      exact ⟨kept, fun f fut found => .untouched found (by simp [Label.fut?])⟩
  | tryTpacall flags clock script =>
      exact ⟨tryTpacall_keeps rules.send flags clock script fits _ holds,
        fun f fut found => .untouched found (by simp [Label.fut?])⟩
  | tpsprio value absolute =>
      have kept : Keeps P (modifyGet (AsyncAtmiCtx.tpsprio value absolute)) := by
        intro s holds
        simp only [modifyGet, MonadStateOf.modifyGet, StateT.modifyGet, StateT.run, AsyncAtmiCtx.tpsprio]
        split
        · exact holds
        · exact rules.send.settings (.changed s _ _) holds
      exact ⟨kept _ holds, fun f fut found => .untouched found (by simp [Label.fut?])⟩
  | tpsblktime seconds =>
      exact ⟨rules.send.settings (.changed _ _ _) holds, fun f fut found => .untouched found (by simp [Label.fut?])⟩
  | contextTpsprio value absolute =>
      exact ⟨rules.send.settings (.changed _ _ _) holds, fun f fut found => .untouched found (by simp [Label.fut?])⟩

end Steps

/-! ## Futures, one by one -/

theorem poll_shared {world : World} {f : Nat} {fut : Fut} (script : PollScript)
    (found : world.futures.get f = some fut) :
    (world.step (.poll f script)).shared = ((poll script fut).run world.shared).2 := by
  simp only [World.step, found, World.pollFut]
  rcases (poll script fut).run world.shared with ⟨_ | _, _⟩ <;> rfl

/-- What holds of every future after a step: of those no label touched, of a new one, and of one
that was polled and stayed. -/
theorem step_numbered {F : Nat → AsyncAtmiCtx → Fut → Prop} {world : World} (label : Label)
    (kept : ∀ f fut, world.futures.get f = some fut → F f (world.step label).shared fut)
    (made : ∀ f op, F f (world.step label).shared (.created op))
    (polled : ∀ f script fut fut', label = .poll f script → world.futures.get f = some fut →
      ((poll script fut).run world.shared).1 = .pending fut' → F f (world.step label).shared fut') :
    ∀ f fut, (world.step label).futures.get f = some fut → F f (world.step label).shared fut := by
  intro f fut found
  cases label with
  | make op =>
      have new := made f op
      simp only [World.step] at found kept new ⊢
      split at found
      · rename_i may
        rw [if_pos may] at kept new ⊢
        rw [Table.get_set] at found
        split at found
        · cases found
          exact new
        · exact kept f fut found
      · rename_i may
        rw [if_neg may] at kept ⊢
        exact kept f fut found
  | freeData id =>
      refine kept f fut ?_
      simp only [World.step] at found
      split at found <;> exact found
  | poll g script =>
      cases there : world.futures.get g with
      | none =>
          refine kept f fut ?_
          simpa only [World.step, there] using found
      | some fut₀ =>
          have left := polled g script fut₀
          simp only [World.step, there, World.pollFut] at found kept left ⊢
          rcases ran : (poll script fut₀).run world.shared with ⟨fut' | _, shared⟩ <;>
            rw [ran] at found kept left
          · rw [Table.get_set] at found
            split at found
            · rename_i same
              cases found
              exact same ▸ left _ trivial trivial rfl
            · exact kept f fut found
          · rw [Table.get_del] at found
            split at found
            · cases found
            · exact kept f fut found
  | drop g script =>
      refine kept f fut ?_
      simp only [World.step] at found
      split at found
      · rw [Table.get_del] at found
        split at found
        · cases found
        · exact found
      · exact found
  | _ => exact kept f fut found

/-- The same, for what does not depend on the future's number. -/
theorem step_futures {F : AsyncAtmiCtx → Fut → Prop} {world : World} (label : Label)
    (kept : ∀ f fut, world.futures.get f = some fut → F (world.step label).shared fut)
    (made : ∀ op, F (world.step label).shared (.created op))
    (polled : ∀ f script fut fut', label = .poll f script → world.futures.get f = some fut →
      ((poll script fut).run world.shared).1 = .pending fut' → F (world.step label).shared fut') :
    ∀ f fut, (world.step label).futures.get f = some fut → F (world.step label).shared fut :=
  step_numbered (F := fun _ => F) label kept (fun _ => made) polled

end Endurox.Async
