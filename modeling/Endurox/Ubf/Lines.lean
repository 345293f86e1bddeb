/-
# Ubf.Lines -- the lines `Bextreadcb` is given

`read_callback`, which hands a text to the native parser line by line, and what its
calls deliver: whatever buffer sizes the parser passes, each line once and in order,
whole and terminated, and no line at all while it does not fit.
-/
import Mathlib.Data.List.Basic

namespace Endurox.Ubf

set_option autoImplicit false

/-! ## The callback -/

/-- The text and how much of it was delivered. -/
structure ReadState where
  bytes : List UInt8
  offset : Nat
  within : offset ≤ bytes.length

def newline : UInt8 := 10

/-- What one call returns and writes to the buffer. -/
structure Read where
  rc : Int
  written : List UInt8
  deriving DecidableEq

/-- `EXFAIL`, with nothing written. -/
def Read.failed : Read := ⟨-1, []⟩

/-- A line with its newline, or all there is. -/
def lineLength (remaining : List UInt8) : Nat :=
  match remaining.findIdx? (· == newline) with
  | some last => last + 1
  | none => remaining.length

theorem lineLength_le (remaining : List UInt8) : lineLength remaining ≤ remaining.length := by
  unfold lineLength
  split
  · rename_i last found
    exact Nat.succ_le_of_lt (List.findIdx?_eq_some_iff_getElem.1 found).1
  · exact Nat.le_refl _

def ReadState.remaining (s : ReadState) : List UInt8 := s.bytes.drop s.offset

def ReadState.advance (s : ReadState) (len : Nat) (within : len ≤ s.remaining.length) : ReadState where
  bytes := s.bytes
  offset := s.offset + len
  within := by
    have left := s.within
    unfold ReadState.remaining at within
    rw [List.length_drop] at within
    omega

/-- `read_callback`, on buffers that are not null. -/
def readCallback (bufsz : Int) (s : ReadState) : Read × ReadState :=
  if bufsz ≤ 0 then (.failed, s)
  else if s.remaining = [] then (⟨0, []⟩, s)
  else if bufsz.toNat ≤ lineLength s.remaining then (.failed, s)
  else (⟨lineLength s.remaining + 1, s.remaining.take (lineLength s.remaining) ++ [0]⟩,
    s.advance (lineLength s.remaining) (lineLength_le _))

/-- Before the first call. -/
def ReadState.start (text : List UInt8) : ReadState := ⟨text, 0, Nat.zero_le _⟩

/-- Calls with these buffer sizes: what each returns, and the state after the last. -/
def reads (s : ReadState) : List Int → List Read × ReadState
  | [] => ([], s)
  | bufsz :: sizes =>
      let (read, s') := readCallback bufsz s
      let (later, s'') := reads s' sizes
      (read :: later, s'')

/-- What the successful calls wrote. -/
def delivered (results : List Read) : List (List UInt8) :=
  (results.filter fun read => 0 < read.rc).map (·.written)

/-! ## Lines -/

/-- The lines of a text, each with its newline; the last may have none. -/
def lines : List UInt8 → List (List UInt8)
  | [] => []
  | byte :: rest =>
      if byte = newline then [byte] :: lines rest
      else match lines rest with
        | [] => [[byte]]
        | line :: more => (byte :: line) :: more

theorem lines_flatten : ∀ text : List UInt8, (lines text).flatten = text
  | [] => rfl
  | byte :: rest => by
      have ih := lines_flatten rest
      unfold lines
      split
      · rw [List.flatten_cons, ih]
        rfl
      · cases here : lines rest with
        | nil =>
            rw [here] at ih
            simp only [List.flatten_nil] at ih
            rw [← ih]
            rfl
        | cons line more =>
            rw [here] at ih
            rw [← ih]
            rfl

theorem lineLength_newline (rest : List UInt8) : lineLength (newline :: rest) = 1 := by
  simp [lineLength, List.findIdx?_cons]

theorem lineLength_inside {byte : UInt8} (inside : byte ≠ newline) (rest : List UInt8) :
    lineLength (byte :: rest) = lineLength rest + 1 := by
  have other : (byte == newline) = false := by simpa using inside
  unfold lineLength
  rw [List.findIdx?_cons, other]
  cases rest.findIdx? (· == newline) with
  | none => rfl
  | some last => rfl

/-- A line ends at the first newline, or at the end of the text. -/
theorem lines_cons : ∀ text : List UInt8, text ≠ [] →
    lines text = text.take (lineLength text) :: lines (text.drop (lineLength text))
  | [], nonempty => absurd rfl nonempty
  | byte :: rest, _ => by
      by_cases ends : byte = newline
      · subst ends
        rw [lineLength_newline]
        simp [lines]
      · rw [lineLength_inside ends, List.take_succ_cons, List.drop_succ_cons]
        cases rest with
        | nil => simp [lines, ends]
        | cons next rest =>
            have ih := lines_cons (next :: rest) (List.cons_ne_nil _ _)
            rw [lines, if_neg ends, ih]

theorem lines_nil_iff (text : List UInt8) : lines text = [] ↔ text = [] := by
  constructor
  · intro none
    by_contra nonempty
    rw [lines_cons text nonempty] at none
    exact List.cons_ne_nil _ _ none
  · rintro rfl
    rfl

/-- A whole line: no newline before its last byte. -/
def Whole (line : List UInt8) : Prop := line ≠ [] ∧ newline ∉ line.dropLast

/-- **The lines are whole, and all but the last end in a newline.** -/
theorem lines_whole : ∀ text : List UInt8,
    (∀ line ∈ lines text, Whole line) ∧ ∀ line ∈ (lines text).dropLast, line.getLast? = some newline
  | [] => ⟨fun _ here => (List.not_mem_nil here).elim, fun _ here => (List.not_mem_nil here).elim⟩
  | byte :: rest => by
      obtain ⟨whole, ended⟩ := lines_whole rest
      by_cases ends : byte = newline
      · subst ends
        rw [lines, if_pos rfl]
        constructor
        · intro line here
          rcases List.mem_cons.1 here with rfl | later
          · exact ⟨List.cons_ne_nil _ _, List.not_mem_nil⟩
          · exact whole line later
        · intro line here
          cases more : lines rest with
          | nil => simp [more] at here
          | cons next after =>
              rw [more, List.dropLast_cons_cons] at here
              rcases List.mem_cons.1 here with rfl | later
              · rfl
              · exact ended line (more ▸ later)
      · rw [lines, if_neg ends]
        cases split : lines rest with
        | nil =>
            constructor
            · intro line here
              obtain rfl := List.mem_singleton.1 here
              exact ⟨List.cons_ne_nil _ _, List.not_mem_nil⟩
            · intro line here
              simp at here
        | cons line more =>
            rw [split] at whole ended
            have head := whole line List.mem_cons_self
            obtain ⟨first, others, rfl⟩ := List.exists_cons_of_ne_nil head.1
            constructor
            · intro other here
              rcases List.mem_cons.1 here with rfl | later
              · refine ⟨List.cons_ne_nil _ _, ?_⟩
                rw [List.dropLast_cons_cons]
                intro inside
                rcases List.mem_cons.1 inside with same | later
                · exact ends same.symm
                · exact head.2 later
              · exact whole other (List.mem_cons_of_mem _ later)
            · intro other here
              cases more with
              | nil => simp at here
              | cons next after =>
                  rw [List.dropLast_cons_cons] at here
                  rcases List.mem_cons.1 here with rfl | later
                  · rw [List.getLast?_cons_cons]
                    exact ended _ List.mem_cons_self
                  · exact ended other (List.mem_cons_of_mem _ later)

/-! ## What one call does -/

/-- The lines not yet delivered. -/
def ReadState.left (s : ReadState) : List (List UInt8) := lines s.remaining

theorem ReadState.left_cons (s : ReadState) (nonempty : s.remaining ≠ []) :
    s.left = s.remaining.take (lineLength s.remaining) ::
      (s.advance (lineLength s.remaining) (lineLength_le _)).left := by
  have rest : (s.advance (lineLength s.remaining) (lineLength_le _)).remaining =
      s.remaining.drop (lineLength s.remaining) := by
    unfold ReadState.remaining ReadState.advance
    rw [List.drop_drop]
  unfold ReadState.left
  rw [rest]
  exact lines_cons _ nonempty

/-- A line as it is passed on: with its terminator. -/
def terminated (line : List UInt8) : List UInt8 := line ++ [0]

/-- What a call with this size does, said of the lines left. -/
inductive Call (s : ReadState) (bufsz : Int) : Read → ReadState → Prop
  | refused (narrow : bufsz < (terminated (s.left.headD [])).length) : Call s bufsz .failed s
  | ended (none : s.left = []) (room : 0 < bufsz) : Call s bufsz ⟨0, []⟩ s
  | line (next : List UInt8) (more : List (List UInt8)) (s' : ReadState) (here : s.left = next :: more)
      (rest : s'.left = more) (same : s'.bytes = s.bytes) (moved : s'.offset = s.offset + next.length)
      (fits : (terminated next).length ≤ bufsz) :
      Call s bufsz ⟨(terminated next).length, terminated next⟩ s'

theorem terminated_length (line : List UInt8) : (terminated line).length = line.length + 1 := by
  simp [terminated]

/-- **Each call takes the next line whole, or takes nothing.** -/
theorem readCallback_call (bufsz : Int) (s : ReadState) :
    Call s bufsz (readCallback bufsz s).1 (readCallback bufsz s).2 := by
  unfold readCallback
  split
  · rename_i closed
    refine .refused ?_
    rw [terminated_length]
    omega
  · rename_i opened
    split
    · rename_i past
      exact .ended ((lines_nil_iff _).2 past) (by omega)
    · rename_i more
      have split := s.left_cons more
      have size : (s.remaining.take (lineLength s.remaining)).length = lineLength s.remaining :=
        List.length_take_of_le (lineLength_le _)
      split
      · rename_i narrow
        refine .refused ?_
        rw [split, List.headD_cons, terminated_length, size]
        omega
      · rename_i wide
        have fits : ((terminated (s.remaining.take (lineLength s.remaining))).length : Int) ≤ bufsz := by
          rw [terminated_length, size]
          omega
        have done := @Call.line _ bufsz _ _ _ split rfl rfl (by rw [size]; rfl) fits
        rw [terminated_length, size] at done
        exact_mod_cast done

/-- While a line is left, a call fails exactly when the line does not fit. -/
theorem Call.next {s s' : ReadState} {bufsz : Int} {read : Read} {line : List UInt8}
    (call : Call s bufsz read s') (here : s.left.head? = some line) :
    if (terminated line).length ≤ bufsz then
      read = ⟨(terminated line).length, terminated line⟩ ∧ s'.offset = s.offset + line.length
    else (read, s') = (.failed, s) := by
  cases call with
  | refused narrow =>
      have first : s.left.headD [] = line := by rw [List.headD_eq_head?_getD, here, Option.getD_some]
      rw [first] at narrow
      rw [if_neg (by omega)]
  | ended none room =>
      rw [none] at here
      cases here
  | line next more _ left rest same moved fits =>
      rw [left, List.head?_cons, Option.some.injEq] at here
      subst here
      rw [if_pos fits]
      exact ⟨rfl, moved⟩

/-! ## Runs of calls -/

/-- What was delivered, and the bytes it took, lead from one state to the other. -/
structure Between (s s' : ReadState) (written : List (List UInt8)) : Prop where
  rest : s'.left = s.left.drop written.length
  taken : written = (s.left.take written.length).map terminated
  moved : s'.offset = s.offset + (s.left.take written.length).flatten.length

theorem Between.refl (s : ReadState) : Between s s [] := ⟨rfl, rfl, rfl⟩

theorem Between.next {s s₁ s' : ReadState} {line : List UInt8} {more written : List (List UInt8)}
    (here : s.left = line :: more) (rest : s₁.left = more) (moved : s₁.offset = s.offset + line.length)
    (later : Between s₁ s' written) : Between s s' (terminated line :: written) := by
  obtain ⟨left, taken, offset⟩ := later
  rw [rest] at left taken offset
  refine ⟨?_, ?_, ?_⟩ <;> rw [here, List.length_cons]
  · rw [List.drop_succ_cons, left]
  · rw [List.take_succ_cons, List.map_cons, ← taken]
  · rw [List.take_succ_cons, List.flatten_cons, List.length_append, offset, moved, Nat.add_assoc]

/-- **Every run of calls delivers the next lines, once and in order.** -/
theorem reads_between : ∀ (sizes : List Int) (s : ReadState),
    Between s (reads s sizes).2 (delivered (reads s sizes).1)
  | [], s => Between.refl s
  | bufsz :: sizes, s => by
      have ih := reads_between sizes (readCallback bufsz s).2
      have call := readCallback_call bufsz s
      revert ih call
      show Between _ _ _ → Call s bufsz _ _ →
        Between s (reads (readCallback bufsz s).2 sizes).2
          (delivered ((readCallback bufsz s).1 :: (reads (readCallback bufsz s).2 sizes).1))
      generalize (readCallback bufsz s).1 = read
      generalize (readCallback bufsz s).2 = s₁
      intro ih call
      cases call with
      | refused narrow => exact ih
      | ended none room => exact ih
      | line next more _ here rest same moved fits =>
          have counted : (0 : Int) < ((terminated next).length : Nat) := by
            rw [terminated_length]
            omega
          have split : delivered (⟨(terminated next).length, terminated next⟩ :: (reads s₁ sizes).1) =
              terminated next :: delivered (reads s₁ sizes).1 := by
            unfold delivered
            rw [List.filter_cons_of_pos (by simpa using counted)]
            rfl
          rw [split]
          exact ih.next here rest moved

/-- At the end of the text every call says so, for ever. -/
theorem reads_ended : ∀ (sizes : List Int) (s : ReadState), s.left = [] →
    reads s sizes = (sizes.map fun bufsz => if 0 < bufsz then ⟨0, []⟩ else .failed, s)
  | [], _, _ => rfl
  | bufsz :: sizes, s, past => by
      have empty : s.remaining = [] := (lines_nil_iff _).1 past
      have call : readCallback bufsz s = (if 0 < bufsz then ⟨0, []⟩ else .failed, s) := by
        unfold readCallback
        by_cases room : 0 < bufsz
        · rw [if_neg (by omega), if_pos empty, if_pos room]
        · rw [if_pos (by omega), if_neg room]
      unfold reads
      rw [call]
      show ((_ :: (reads s sizes).1, (reads s sizes).2) : List Read × ReadState) = _
      rw [reads_ended sizes s past]
      rfl

/-- **The lines of a text, each once.** After any calls, what they wrote is the first
lines of the text, terminated; the next call takes the next line when it fits with its
terminator, and fails where it stands when it does not; when no line is left, every
call reports the end. -/
theorem callback_delivers_lines (text : List UInt8) (sizes : List Int) (bufsz : Int) :
    ((lines text).flatten = text ∧ ∀ line ∈ lines text, Whole line) ∧
      let s := (reads (.start text) sizes).2
      let written := delivered (reads (.start text) sizes).1
      let call := readCallback bufsz s
      written = ((lines text).take written.length).map terminated ∧
      s.offset = ((lines text).take written.length).flatten.length ∧
      (∀ next, (lines text)[written.length]? = some next →
        if (terminated next).length ≤ bufsz then
          call.1 = ⟨(terminated next).length, terminated next⟩ ∧ call.2.offset = s.offset + next.length
        else call = (.failed, s)) ∧
      ((lines text)[written.length]? = none → ∀ later : List Int,
        reads s later = (later.map fun size => if 0 < size then ⟨0, []⟩ else .failed, s)) := by
  refine ⟨⟨lines_flatten text, (lines_whole text).1⟩, ?_⟩
  intro s written call
  have between : Between (.start text) s written := reads_between sizes (.start text)
  have start : (ReadState.start text).left = lines text := rfl
  rw [← start]
  refine ⟨between.taken, ?_, ?_, ?_⟩
  · rw [between.moved]
    exact Nat.zero_add _
  · intro next found
    have here : s.left.head? = some next := by rw [between.rest, List.head?_drop, found]
    exact (readCallback_call bufsz s).next here
  · intro none later
    refine reads_ended later s ?_
    rw [between.rest]
    exact List.drop_eq_nil_of_le (List.getElem?_eq_none_iff.1 none)

end Endurox.Ubf
