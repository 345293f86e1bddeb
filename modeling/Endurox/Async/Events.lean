/-
# Async.Events -- judging every recorded event

`Sound good log` says that each event was `good` after the events before it.
Only three kinds of event are ever in question: a collection, a parked waker and
a release.  Given that every other event is good, each operation keeps the log
sound as soon as the one event it may record is.
-/
import Endurox.Async.Reachable

namespace Endurox.Async

open Endurox.Theory AsyncAtmiCtx

set_option autoImplicit false

/-- Every event is good after those before it. -/
def Sound (good : List Event → Event → Prop) : List Event → Prop
  | [] => True
  | e :: log => good log e ∧ Sound good log

/-- Neither a collection, nor a parked waker, nor a release. -/
def Event.IsPlain : Event → Prop
  | .collected .. | .waited .. | .released .. => False
  | _ => True

/-- What is recorded was good when it was recorded, in the log of that moment. -/
theorem Sound.of_mem {good : List Event → Event → Prop} {log : List Event} {e : Event}
    (sound : Sound good log) (member : e ∈ log) :
    ∃ before, before ⊆ log ∧ good before e := by
  induction log with
  | nil => cases member
  | cons head log ih =>
      rcases List.mem_cons.1 member with rfl | member
      · exact ⟨log, List.subset_cons_self _ _, sound.1⟩
      · obtain ⟨before, subset, holds⟩ := ih sound.2 member
        exact ⟨before, fun _ inside => List.mem_cons_of_mem _ (subset inside), holds⟩

theorem settings_sound {good : List Event → Event → Prop} :
    Closed Settings fun s => Sound good s.log := by
  intro s s' moved sound
  cases moved
  exact sound

section Keeping

variable {good : List Event → Event → Prop} (plain : ∀ log e, e.IsPlain → good log e)

include plain

/-- Drains record reports, each as the state was. -/
theorem quiet_sound : Closed (Quiet fun _ => True) fun s => Sound good s.log := by
  refine quiet_drains (P := fun t => Sound good t.log) fun t t' moved sound => ?_
  cases moved with
  | answered | arrived => exact ⟨plain _ _ trivial, sound⟩
  | displaced => exact ⟨plain _ _ trivial, plain _ _ trivial, sound⟩
  | failed => exact sound

/-- A submission is recorded. -/
theorem submitted_sound {s : AsyncAtmiCtx} (cd : Cd) (deadline : Option Instant) (claimed : Bool)
    (sound : Sound good s.log) : Sound good (registered cd deadline claimed s).log :=
  ⟨plain _ _ trivial, sound⟩

theorem claim_sound {s s' : AsyncAtmiCtx} {cd : Cd} {guard : ReplyClaimGuard}
    (claimed : s.claim cd = (.ok guard, s')) (sound : Sound good s.log) : Sound good s'.log := by
  obtain ⟨_, _, rfl⟩ | ⟨_, _, _, _, rfl⟩ := claim_cases claimed <;>
    exact ⟨plain _ _ trivial, sound⟩

omit plain in
/-- A claim that is let go over a parked reply records nothing; over a slot still waiting, that
it was abandoned. -/
theorem dropClaim_sound {s : AsyncAtmiCtx} (guard : ReplyClaimGuard)
    (abandoned : ∀ slot, s.slots.get guard.cd = some slot → slot.isReady = false →
      good s.log (.released .abandoned guard.cd slot))
    (sound : Sound good s.log) : Sound good (s.dropClaim guard).log := by
  unfold dropClaim
  cases found : s.slots.get guard.cd with
  | none => exact sound
  | some slot =>
      simp only
      split
      · cases slot with
        | ready => exact sound
        | waiting generation waker claim =>
            simp only
            split
            · exact ⟨abandoned _ found rfl, sound⟩
            · exact sound
      · exact sound

omit plain in
/-- A release is recorded with the slot it takes, if there is one. -/
theorem release_sound {s : AsyncAtmiCtx} (cause : Cause) (cd : Cd)
    (released : ∀ slot, s.slots.get cd = some slot → good s.log (.released cause cd slot))
    (sound : Sound good s.log) : Sound good (releaseSlot cause cd s).log := by
  have kept : ∀ (buf : ParkedBuf) (s : AsyncAtmiCtx), (s.freeBuf buf).log = s.log :=
    fun buf s => congrArg Tracking.log (freeBuf_tracking buf s)
  unfold releaseSlot deregister
  cases found : s.slots.get cd with
  | none => simpa [forgetDeadline, found, kept] using sound
  | some slot => simpa [forgetDeadline, found, kept, record, Sound] using ⟨released slot found, sound⟩

omit plain in
theorem park_sound {s : AsyncAtmiCtx} {target : Target} {own : Own} (waker : Waker)
    (waited : ∀ cd slot, target = .one cd → s.slots.get cd = some slot →
      good s.log (.waited own cd slot))
    (sound : Sound good s.log) : Sound good (s.parkWaker target own waker).log := by
  obtain ⟨cd, generation, existing, claim, same, found, parked⟩ | ⟨id, entry, same, found, parked⟩ |
    ⟨parked, -, -⟩ := parkWaker_cases target own waker s <;> rw [parked]
  · exact ⟨waited cd _ same found, sound⟩
  · exact sound
  · exact sound

omit plain in
/-- A collection is recorded with the slot it takes. -/
theorem collect_sound {s s' : AsyncAtmiCtx} {target : Target} {own : Own} {id : BufId}
    {flags : Flags} {choice cd : Cd} {result : AtmiResult Unit}
    (collected : ∀ slot refused, s.slots.get cd = some slot → target.takes cd slot.claim →
      good s.log (.collected own cd slot refused))
    (taken : takeReady target own id flags choice s = (some (cd, result), s'))
    (sound : Sound good s.log) : Sound good (s'.forgetDeadline cd).log := by
  obtain ⟨none, _⟩ | ⟨cd', generation, origin, outcome, buf, claim, found, takes, ready⟩ :=
    takeReady_cases target own id flags choice s
  · rw [none] at taken
    cases taken
  · rw [ready] at taken
    cases taken
    simp only [forgetDeadline, handOver_tracking]
    exact ⟨collected _ _ found takes, sound⟩

end Keeping

end Endurox.Async
