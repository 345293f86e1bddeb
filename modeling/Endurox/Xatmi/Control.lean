/-
# Xatmi.Control -- identifiers in a queue control block

`set_msgid`, `msgid`, `set_corrid` and `corrid` of `TpQCtl`, with the conversions to
and from a C array they share.  A setter keeps the last byte of the field free and
fills the rest with zeros; a getter stops at the first zero.  So an identifier comes
back as far as its first zero byte, and one that fills its field cannot be set again.
-/
import Mathlib.Data.List.TakeWhile
import Endurox.Typed.Heap

namespace Endurox.Xatmi

open Endurox.Theory
open Endurox.Typed (AtmiError AtmiCode)

set_option autoImplicit false

/-! ## C arrays -/

/-- A `c_char` array with `room` for a value and one byte more. -/
structure CharArray (room : Nat) where
  chars : List Int8
  size : chars.length = room + 1

namespace CharArray

variable {room : Nat}

/-- `dst.fill(0)`. -/
def fill (dst : CharArray room) : CharArray room where
  chars := dst.chars.map fun _ => 0
  size := by rw [List.length_map, dst.size]

/-- The loop over `dst.iter_mut().zip(value)`: it ends with the shorter of the two. -/
def overlay : List Int8 → List UInt8 → List Int8
  | _ :: outs, byte :: bytes => byte.toInt8 :: overlay outs bytes
  | outs, [] => outs
  | [], _ => []

theorem overlay_length : ∀ (outs : List Int8) (bytes : List UInt8), (overlay outs bytes).length = outs.length
  | [], [] => rfl
  | [], _ :: _ => rfl
  | _ :: _, [] => rfl
  | _ :: outs, _ :: bytes => by simp [overlay, overlay_length outs bytes]

def copy (dst : CharArray room) (value : List UInt8) : CharArray room where
  chars := overlay dst.chars value
  size := by rw [overlay_length, dst.size]

end CharArray

def writeFixedBytes {room : Nat} (value : List UInt8) (field : String) : Fallible AtmiError (CharArray room) PUnit := do
  throwIf (room + 1 ≤ value.length) ⟨.TPEINVAL, s!"{field} too long: max {room} bytes"⟩
  modify CharArray.fill
  modify fun dst => dst.copy value

/-- The bytes before the first zero, or all of them. -/
def fixedBytesUntilNul {room : Nat} (src : CharArray room) : List UInt8 :=
  (src.chars.takeWhile fun b => b ≠ 0).map Int8.toUInt8

/-! ## The control block -/

/-- The two identifiers; the native constants give their sizes. -/
structure TpQCtl (msgidRoom corridRoom : Nat) where
  inner_msgid : CharArray msgidRoom
  inner_corrid : CharArray corridRoom

/-- One field of a control block, under the name its errors give it. -/
structure Slot (σ : Type) (room : Nat) where
  name : String
  read : σ → CharArray room
  write : CharArray room → σ → σ

def Slot.set {σ : Type} {room : Nat} (slot : Slot σ room) (value : List UInt8) : Fallible AtmiError σ PUnit := do
  let ctl ← get
  let (result, field) := (writeFixedBytes value slot.name).run.run (slot.read ctl)
  modify (slot.write field)
  MonadExcept.ofExcept result

namespace TpQCtl

variable {m c : Nat}

def msgidSlot : Slot (TpQCtl m c) m := ⟨"msgid", inner_msgid, fun field ctl => { ctl with inner_msgid := field }⟩

def corridSlot : Slot (TpQCtl m c) c := ⟨"corrid", inner_corrid, fun field ctl => { ctl with inner_corrid := field }⟩

def msgid (ctl : TpQCtl m c) : List UInt8 := fixedBytesUntilNul (msgidSlot.read ctl)

def setMsgid (value : List UInt8) : Fallible AtmiError (TpQCtl m c) PUnit := msgidSlot.set value

def corrid (ctl : TpQCtl m c) : List UInt8 := fixedBytesUntilNul (corridSlot.read ctl)

def setCorrid (value : List UInt8) : Fallible AtmiError (TpQCtl m c) PUnit := corridSlot.set value

end TpQCtl

/-! ## What is read back -/

section Fields

variable {room : Nat}

/-- A value over zeros: the value, and zeros in the rest. -/
theorem overlay_replicate : ∀ (n : Nat) (value : List UInt8), value.length ≤ n →
    CharArray.overlay (List.replicate n 0) value = value.map UInt8.toInt8 ++ List.replicate (n - value.length) 0
  | 0, [], _ => rfl
  | _ + 1, [], _ => rfl
  | 0, _ :: _, fits => absurd fits (Nat.not_succ_le_zero _)
  | n + 1, byte :: value, fits => by
      rw [List.replicate_succ, CharArray.overlay, overlay_replicate n value (Nat.le_of_succ_le_succ fits),
        List.map_cons, List.cons_append, List.length_cons, Nat.add_sub_add_right]

/-- Reading a value and zeros stops in the value or at its end. -/
theorem overlay_zeros : ∀ (n : Nat) (value : List UInt8), value.length < n →
    ((CharArray.overlay (List.replicate n 0) value).takeWhile fun b => b ≠ 0).map Int8.toUInt8 =
      value.takeWhile fun byte => byte ≠ 0
  | 0, _, short => absurd short (Nat.not_lt_zero _)
  | n + 1, [], _ => by simp [CharArray.overlay, List.replicate_succ]
  | n + 1, byte :: value, short => by
      have ih := overlay_zeros n value (Nat.lt_of_succ_lt_succ short)
      have zero : byte.toInt8 = 0 ↔ byte = 0 := by
        constructor
        · intro same
          have back : byte.toInt8.toUInt8 = 0 := congrArg Int8.toUInt8 same
          rwa [UInt8.toUInt8_toInt8] at back
        · rintro rfl
          rfl
      rw [List.replicate_succ, CharArray.overlay, List.takeWhile_cons, List.takeWhile_cons]
      by_cases null : byte = 0
      · simp [null]
      · have some : byte.toInt8 ≠ 0 := fun same => null (zero.1 same)
        simp only [ne_eq, some, null, not_false_eq_true, decide_true, if_true, List.map_cons, UInt8.toUInt8_toInt8]
        rw [← ih]

theorem fill_chars (dst : CharArray room) : dst.fill.chars = List.replicate (room + 1) 0 := by
  show dst.chars.map (fun _ => (0 : Int8)) = _
  rw [List.map_const', dst.size]

/-- **A setter fills its field**: the value, and zeros in the rest. -/
theorem copy_chars (dst : CharArray room) {value : List UInt8} (fits : value.length ≤ room) :
    (dst.fill.copy value).chars = value.map UInt8.toInt8 ++ List.replicate (room + 1 - value.length) 0 := by
  show CharArray.overlay dst.fill.chars value = _
  rw [fill_chars]
  exact overlay_replicate (room + 1) value (Nat.le_succ_of_le fits)

/-- **What is written is read back** as far as its first zero byte. -/
theorem fixedBytesUntilNul_copy (dst : CharArray room) {value : List UInt8} (fits : value.length ≤ room) :
    fixedBytesUntilNul (dst.fill.copy value) = value.takeWhile fun byte => byte ≠ 0 := by
  show ((CharArray.overlay dst.fill.chars value).takeWhile _).map _ = _
  rw [fill_chars]
  exact overlay_zeros (room + 1) value (Nat.lt_succ_of_le fits)

theorem writeFixedBytes_run (dst : CharArray room) (value : List UInt8) (field : String) :
    (writeFixedBytes value field).run.run dst =
      if room + 1 ≤ value.length then (.error ⟨.TPEINVAL, s!"{field} too long: max {room} bytes"⟩, dst)
      else (.ok ⟨⟩, dst.fill.copy value) := by
  unfold writeFixedBytes throwIf
  split <;> rfl

/-- What a getter returns has no zero byte. -/
theorem fixedBytesUntilNul_nonzero (src : CharArray room) {byte : UInt8} (member : byte ∈ fixedBytesUntilNul src) :
    byte ≠ 0 := by
  obtain ⟨b, there, rfl⟩ := List.mem_map.1 member
  have some : b ≠ 0 := by simpa using List.all_eq_true.1 List.all_takeWhile b there
  intro null
  have back : b.toUInt8.toInt8 = 0 := congrArg UInt8.toInt8 null
  exact some (by rwa [Int8.toInt8_toUInt8] at back)

end Fields

/-! ## Identifiers -/

section Identifiers

variable {σ : Type} {room : Nat}

/-- A setter, its getter and the field between them: what is accepted, what the field holds then,
what comes back, and what a refusal leaves. -/
structure Exchanges (room : Nat) (field : σ → CharArray room) (set : List UInt8 → Fallible AtmiError σ PUnit)
    (get : σ → List UInt8) : Prop where
  accepts : ∀ ctl value, ((set value).run.run ctl).1 = .ok ⟨⟩ ↔ value.length ≤ room
  holds : ∀ ctl value, ((set value).run.run ctl).1 = .ok ⟨⟩ →
    (field ((set value).run.run ctl).2).chars =
      value.map UInt8.toInt8 ++ List.replicate (room + 1 - value.length) 0
  returns : ∀ ctl value, ((set value).run.run ctl).1 = .ok ⟨⟩ →
    get ((set value).run.run ctl).2 = value.takeWhile fun byte => byte ≠ 0
  exact : ∀ ctl value, ((set value).run.run ctl).1 = .ok ⟨⟩ → (get ((set value).run.run ctl).2 = value ↔ 0 ∉ value)
  again : ∀ ctl filled, (get filled).length ≤ room →
    ((set (get filled)).run.run ctl).1 = .ok ⟨⟩ ∧ get ((set (get filled)).run.run ctl).2 = get filled
  full : ∀ ctl filled, room < (get filled).length → ∃ e, ((set (get filled)).run.run ctl).1 = .error e
  refused : ∀ ctl value e, ((set value).run.run ctl).1 = .error e → ((set value).run.run ctl).2 = ctl

/-- Reading what was written, and writing what was read. -/
structure Slot.Lawful (slot : Slot σ room) : Prop where
  read_write : ∀ field ctl, slot.read (slot.write field ctl) = field
  write_read : ∀ ctl, slot.write (slot.read ctl) ctl = ctl

theorem Slot.set_run (slot : Slot σ room) (value : List UInt8) (ctl : σ) :
    (slot.set value).run.run ctl =
      if room + 1 ≤ value.length then
        (.error ⟨.TPEINVAL, s!"{slot.name} too long: max {room} bytes"⟩, slot.write (slot.read ctl) ctl)
      else (.ok ⟨⟩, slot.write ((slot.read ctl).fill.copy value) ctl) := by
  have ran : (slot.set value).run.run ctl =
      let written := (writeFixedBytes value slot.name).run.run (slot.read ctl)
      (MonadExcept.ofExcept written.1 : Fallible AtmiError σ PUnit).run.run (slot.write written.2 ctl) := rfl
  rw [ran, writeFixedBytes_run]
  split <;> rfl

theorem Slot.accepts (slot : Slot σ room) (ctl : σ) (value : List UInt8) :
    ((slot.set value).run.run ctl).1 = .ok ⟨⟩ ↔ value.length ≤ room := by
  rw [Slot.set_run]
  split
  · rename_i long
    exact ⟨nofun, fun short => absurd long (Nat.not_le_of_lt (Nat.lt_succ_of_le short))⟩
  · rename_i short
    exact ⟨fun _ => Nat.le_of_lt_succ (Nat.lt_of_not_le short), fun _ => rfl⟩

theorem Slot.Lawful.written {slot : Slot σ room} (lawful : slot.Lawful) (ctl : σ) {value : List UInt8}
    (fits : value.length ≤ room) : slot.read ((slot.set value).run.run ctl).2 = (slot.read ctl).fill.copy value := by
  rw [Slot.set_run, if_neg (Nat.not_le_of_lt (Nat.lt_succ_of_le fits))]
  exact lawful.read_write _ ctl

theorem Slot.Lawful.returns {slot : Slot σ room} (lawful : slot.Lawful) (ctl : σ) {value : List UInt8}
    (fits : value.length ≤ room) :
    fixedBytesUntilNul (slot.read ((slot.set value).run.run ctl).2) = value.takeWhile fun byte => byte ≠ 0 := by
  rw [lawful.written ctl fits]
  exact fixedBytesUntilNul_copy _ fits

theorem takeWhile_nonzero {value : List UInt8} : value.takeWhile (fun byte => byte ≠ 0) = value ↔ 0 ∉ value := by
  rw [List.takeWhile_eq_self_iff]
  constructor
  · intro all zero
    simpa using all 0 zero
  · intro none byte member
    have other : byte ≠ 0 := fun null => none (null ▸ member)
    simpa using other

theorem Slot.Lawful.exchanges {slot : Slot σ room} (lawful : slot.Lawful) :
    Exchanges room slot.read slot.set fun ctl => fixedBytesUntilNul (slot.read ctl) where
  accepts ctl value := slot.accepts ctl value
  holds ctl value accepted := by
    have fits := (slot.accepts ctl value).1 accepted
    rw [lawful.written ctl fits]
    exact copy_chars _ fits
  returns ctl value accepted := lawful.returns ctl ((slot.accepts ctl value).1 accepted)
  exact ctl value accepted := by
    rw [lawful.returns ctl ((slot.accepts ctl value).1 accepted)]
    exact takeWhile_nonzero
  again ctl filled short := by
    refine ⟨(slot.accepts ctl _).2 short, (lawful.returns ctl short).trans (takeWhile_nonzero.2 fun zero => ?_)⟩
    exact fixedBytesUntilNul_nonzero _ zero rfl
  full ctl filled long := by
    rw [Slot.set_run, if_pos (Nat.succ_le_of_lt long)]
    exact ⟨_, rfl⟩
  refused ctl value e failed := by
    rw [Slot.set_run] at failed ⊢
    split
    · exact lawful.write_read ctl
    · rename_i short
      rw [if_neg short] at failed
      cases failed

/-- **Queue identifiers**: an accepted one is stored with zeros behind it and comes back up to its first zero
byte, one that came back short of its field is accepted and comes back the same, and a refusal changes nothing. -/
theorem identifiers_exchange (m c : Nat) :
    Exchanges m (fun ctl : TpQCtl m c => ctl.inner_msgid) TpQCtl.setMsgid TpQCtl.msgid ∧
      Exchanges c (fun ctl : TpQCtl m c => ctl.inner_corrid) TpQCtl.setCorrid TpQCtl.corrid :=
  have msgid : TpQCtl.msgidSlot.Lawful (σ := TpQCtl m c) := ⟨fun _ _ => rfl, fun _ => rfl⟩
  have corrid : TpQCtl.corridSlot.Lawful (σ := TpQCtl m c) := ⟨fun _ _ => rfl, fun _ => rfl⟩
  ⟨msgid.exchanges, corrid.exchanges⟩

/-- A control block whose fields hold two bytes and one more. -/
def control (chars : List Int8) (size : chars.length = 3) : TpQCtl 2 2 := ⟨⟨chars, size⟩, ⟨chars, size⟩⟩

/-- An accepted identifier with a zero byte comes back cut, and one that fills its field is refused. -/
theorem identifiers_cut :
    (((TpQCtl.setMsgid [0, 7]).run.run (control [0, 0, 0] rfl)).1 = .ok ⟨⟩ ∧
      ((TpQCtl.setMsgid [0, 7]).run.run (control [0, 0, 0] rfl)).2.msgid ≠ [0, 7]) ∧
    (control [1, 2, 3] rfl).msgid = [1, 2, 3] ∧
      ((TpQCtl.setMsgid [1, 2, 3]).run.run (control [1, 2, 3] rfl)).1 ≠ .ok ⟨⟩ := by
  refine ⟨⟨by decide +kernel, by decide +kernel⟩, by decide +kernel, fun accepted => ?_⟩
  have fits := (TpQCtl.msgidSlot.accepts (control [1, 2, 3] rfl) [1, 2, 3]).1 accepted
  exact absurd fits (by decide)

end Identifiers

end Endurox.Xatmi
