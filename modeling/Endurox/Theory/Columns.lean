/-
# Theory.Columns -- occurrences under keys

A `Columns` holds, under each key, a list of occurrences; the list that carries it keeps
no order between keys.  An occurrence is written in place, or past the end with what
lies between filled in; a removal moves the later ones down.  Each operation has one
lemma on the column it works on and one on every other.

`write`, `overlay` and `take` say the same of a single column: `overlay` is a run of
writes, and `overlay_get` what it leaves everywhere.  A `Strip` is such a run in one column
and perhaps a cut behind it; a script of strips works column by column
(`column_applyAll`), and with one strip to a column in no particular order.
-/
import Mathlib.Data.List.Basic

namespace Endurox.Theory

set_option autoImplicit false

universe u v

/-- Occurrences, each under its key. -/
abbrev Columns (κ : Type u) (α : Type v) := List (κ × α)

/-! ## One column -/

section Column

variable {α : Type v}

/-- Write an occurrence, filling up to it. -/
def write (pad : α) (occ : Nat) (a : α) (xs : List α) : List α :=
  if occ < xs.length then xs.set occ a else xs ++ List.replicate (occ - xs.length) pad ++ [a]

/-- Write one occurrence after another, from `start` on. -/
def overlay (pad : α) : Nat → List α → List α → List α
  | _, [], xs => xs
  | start, a :: as, xs => overlay pad (start + 1) as (write pad start a xs)

@[simp] theorem write_length (pad : α) (occ : Nat) (a : α) (xs : List α) :
    (write pad occ a xs).length = max xs.length (occ + 1) := by
  unfold write
  split
  · rw [List.length_set]
    omega
  · simp only [List.length_append, List.length_replicate, List.length_singleton]
    omega

theorem write_get (pad : α) (occ : Nat) (a : α) (xs : List α) (i : Nat) :
    (write pad occ a xs)[i]? =
      if i = occ then some a else if i < xs.length then xs[i]? else if i < occ then some pad else none := by
  unfold write
  split
  · rename_i inside
    by_cases same : i = occ
    · subst same
      rw [if_pos rfl, List.getElem?_set_self inside]
    · rw [if_neg same, List.getElem?_set_ne (Ne.symm same)]
      split
      · rfl
      · rw [if_neg (by omega)]
        exact List.getElem?_eq_none (by omega)
  · rename_i past
    by_cases same : i = occ
    · subst same
      rw [if_pos rfl, List.getElem?_append_right (by simp; omega)]
      simp only [List.length_append, List.length_replicate]
      rw [show i - (xs.length + (i - xs.length)) = 0 by omega]
      rfl
    · rw [if_neg same]
      split
      · rename_i inside
        rw [List.append_assoc, List.getElem?_append_left inside]
      · split
        · rw [List.getElem?_append_left (by simp; omega), List.getElem?_append_right (by omega),
            List.getElem?_replicate, if_pos (by omega)]
        · exact List.getElem?_eq_none (by simp; omega)

@[simp] theorem overlay_nil (pad : α) (start : Nat) (xs : List α) : overlay pad start [] xs = xs := rfl

theorem overlay_cons (pad : α) (start : Nat) (a : α) (as xs : List α) :
    overlay pad start (a :: as) xs = overlay pad (start + 1) as (write pad start a xs) := rfl

theorem overlay_length (pad : α) : ∀ (as : List α) (start : Nat) (xs : List α),
    (overlay pad start as xs).length = if as = [] then xs.length else max xs.length (start + as.length)
  | [], _, _ => rfl
  | a :: as, start, xs => by
      rw [overlay_cons, overlay_length pad as, if_neg (List.cons_ne_nil _ _), List.length_cons, write_length]
      split
      · rename_i none
        rw [none, List.length_nil]
      · omega

/-- **What a run of writes leaves**: what it wrote, what was there, and padding between. -/
theorem overlay_get (pad : α) : ∀ (as : List α) (start : Nat) (xs : List α) (i : Nat),
    (overlay pad start as xs)[i]? =
      if start ≤ i ∧ i < start + as.length then as[i - start]?
      else if i < xs.length then xs[i]?
      else if i < start ∧ as ≠ [] then some pad else none
  | [], start, xs, i => by
      rw [overlay_nil, if_neg (by rw [List.length_nil]; omega)]
      split
      · rfl
      · rw [if_neg (by simp)]
        exact List.getElem?_eq_none (by omega)
  | a :: as, start, xs, i => by
      rw [overlay_cons, overlay_get pad as, List.length_cons, write_length]
      by_cases first : i = start
      · subst first
        rw [if_neg (by omega), if_pos (by omega), if_pos (by omega), write_get, if_pos rfl, Nat.sub_self]
        rfl
      · by_cases inside : start ≤ i ∧ i < start + (as.length + 1)
        · rw [if_pos (by omega), if_pos inside, show i - start = i - (start + 1) + 1 by omega]
          rfl
        · rw [if_neg (by omega), if_neg inside]
          by_cases there : i < xs.length
          · rw [if_pos (by omega), if_pos there, write_get, if_neg first, if_pos there]
          · rw [if_neg there]
            by_cases gap : i < start
            · rw [if_pos (by omega), if_pos ⟨gap, List.cons_ne_nil _ _⟩, write_get, if_neg first,
                if_neg there, if_pos gap]
            · rw [if_neg (by omega), if_neg (by omega), if_neg (by omega)]

/-- So do those past it. -/
theorem overlay_past (pad : α) (start : Nat) (as xs : List α) {i : Nat} (past : start + as.length ≤ i) :
    (overlay pad start as xs)[i]? = xs[i]? := by
  rw [overlay_get, if_neg (by omega)]
  split
  · rfl
  · rw [if_neg (by omega)]
    exact (List.getElem?_eq_none (by omega)).symm

end Column

/-! ## Every column -/

section Keys

variable {κ : Type u} {α : Type v} [DecidableEq κ]

/-- The occurrences under a key, in order. -/
def column (k : κ) (cs : Columns κ α) : List α := (cs.filter fun item => item.1 = k).map Prod.snd

/-- Overwrite an occurrence that is there. -/
def overwrite (k : κ) (a : α) : Nat → Columns κ α → Columns κ α
  | _, [] => []
  | occ, item :: cs =>
      if item.1 = k then
        match occ with
        | 0 => (k, a) :: cs
        | occ + 1 => item :: overwrite k a occ cs
      else item :: overwrite k a occ cs

def remove (k : κ) : Nat → Columns κ α → Columns κ α
  | _, [] => []
  | occ, item :: cs =>
      if item.1 = k then
        match occ with
        | 0 => cs
        | occ + 1 => item :: remove k occ cs
      else item :: remove k occ cs

/-- Write an occurrence, in place or past the end. -/
def change (pad : α) (k : κ) (occ : Nat) (a : α) (cs : Columns κ α) : Columns κ α :=
  if occ < (column k cs).length then overwrite k a occ cs
  else cs ++ List.replicate (occ - (column k cs).length) (k, pad) ++ [(k, a)]

@[simp] theorem column_nil (k : κ) : column k ([] : Columns κ α) = [] := rfl

theorem column_cons (k : κ) (item : κ × α) (cs : Columns κ α) :
    column k (item :: cs) = if item.1 = k then item.2 :: column k cs else column k cs := by
  unfold column
  rw [List.filter_cons]
  by_cases here : item.1 = k
  · simp [here]
  · simp [here]

theorem column_append (k : κ) (cs more : Columns κ α) :
    column k (cs ++ more) = column k cs ++ column k more := by
  simp [column]

theorem column_replicate_same (k : κ) (n : Nat) (a : α) :
    column k (List.replicate n (k, a)) = List.replicate n a := by
  simp [column]

theorem column_replicate_other {k k' : κ} (other : k' ≠ k) (n : Nat) (a : α) :
    column k' (List.replicate n (k, a)) = [] := by
  simp [column, Ne.symm other]

theorem column_overwrite_same (k : κ) (a : α) : ∀ (occ : Nat) (cs : Columns κ α),
    column k (overwrite k a occ cs) = (column k cs).set occ a
  | _, [] => rfl
  | occ, item :: cs => by
      unfold overwrite
      by_cases here : item.1 = k
      · rw [if_pos here, column_cons, if_pos here]
        cases occ with
        | zero =>
            rw [column_cons, if_pos rfl]
            rfl
        | succ occ =>
            rw [column_cons, if_pos here, column_overwrite_same k a occ cs]
            rfl
      · rw [if_neg here, column_cons, if_neg here, column_cons, if_neg here, column_overwrite_same k a occ cs]

theorem column_overwrite_other {k k' : κ} (other : k' ≠ k) (a : α) : ∀ (occ : Nat) (cs : Columns κ α),
    column k' (overwrite k a occ cs) = column k' cs
  | _, [] => rfl
  | occ, item :: cs => by
      unfold overwrite
      by_cases here : item.1 = k
      · have away : item.1 ≠ k' := fun same => other (same ▸ here)
        rw [if_pos here, column_cons k' item, if_neg away]
        cases occ with
        | zero => rw [column_cons, if_neg (Ne.symm other)]
        | succ occ => rw [column_cons, if_neg away, column_overwrite_other other a occ cs]
      · rw [if_neg here, column_cons, column_cons, column_overwrite_other other a occ cs]

theorem column_remove_same (k : κ) : ∀ (occ : Nat) (cs : Columns κ α),
    column k (remove k occ cs) = (column k cs).eraseIdx occ
  | _, [] => rfl
  | occ, item :: cs => by
      unfold remove
      by_cases here : item.1 = k
      · rw [if_pos here, column_cons, if_pos here]
        cases occ with
        | zero => rfl
        | succ occ =>
            rw [column_cons, if_pos here, column_remove_same k occ cs]
            rfl
      · rw [if_neg here, column_cons, if_neg here, column_cons, if_neg here, column_remove_same k occ cs]

theorem column_remove_other {k k' : κ} (other : k' ≠ k) : ∀ (occ : Nat) (cs : Columns κ α),
    column k' (remove k occ cs) = column k' cs
  | _, [] => rfl
  | occ, item :: cs => by
      unfold remove
      by_cases here : item.1 = k
      · have away : item.1 ≠ k' := fun same => other (same ▸ here)
        rw [if_pos here, column_cons k' item, if_neg away]
        cases occ with
        | zero => rfl
        | succ occ => rw [column_cons, if_neg away, column_remove_other other occ cs]
      · rw [if_neg here, column_cons, column_cons, column_remove_other other occ cs]

theorem column_change_same (pad : α) (k : κ) (occ : Nat) (a : α) (cs : Columns κ α) :
    column k (change pad k occ a cs) = write pad occ a (column k cs) := by
  unfold change write
  split
  · exact column_overwrite_same k a occ cs
  · rw [column_append, column_append, column_replicate_same, column_cons, if_pos rfl]
    rfl

theorem column_change_other {k k' : κ} (other : k' ≠ k) (pad : α) (occ : Nat) (a : α) (cs : Columns κ α) :
    column k' (change pad k occ a cs) = column k' cs := by
  unfold change
  split
  · exact column_overwrite_other other a occ cs
  · rw [column_append, column_append, column_replicate_other other, column_cons, if_neg (Ne.symm other)]
    simp

/-- Write one occurrence after another, from `start` on. -/
def changeAll (pad : α) (k : κ) : Nat → List α → Columns κ α → Columns κ α
  | _, [], cs => cs
  | start, a :: as, cs => changeAll pad k (start + 1) as (change pad k start a cs)

theorem column_changeAll_same (pad : α) (k : κ) : ∀ (as : List α) (start : Nat) (cs : Columns κ α),
    column k (changeAll pad k start as cs) = overlay pad start as (column k cs)
  | [], _, _ => rfl
  | a :: as, start, cs => by
      rw [changeAll, column_changeAll_same pad k as, column_change_same, overlay_cons]

theorem column_changeAll_other {k k' : κ} (other : k' ≠ k) (pad : α) :
    ∀ (as : List α) (start : Nat) (cs : Columns κ α), column k' (changeAll pad k start as cs) = column k' cs
  | [], _, _ => rfl
  | a :: as, start, cs => by
      rw [changeAll, column_changeAll_other other pad as, column_change_other other]

/-- Remove so many occurrences past `first`, the last one first. -/
def removeLast (k : κ) (first : Nat) : Nat → Columns κ α → Columns κ α
  | 0, cs => cs
  | count + 1, cs => removeLast k first count (remove k (first + count) cs)

/-- Remove every occurrence from `first` on. -/
def truncate (k : κ) (first : Nat) (cs : Columns κ α) : Columns κ α :=
  removeLast k first ((column k cs).length - first) cs

theorem column_removeLast_same (k : κ) (first : Nat) : ∀ (count : Nat) (cs : Columns κ α),
    (column k cs).length = first + count → column k (removeLast k first count cs) = (column k cs).take first
  | 0, cs, length => (List.take_of_length_le (Nat.le_of_eq length)).symm
  | count + 1, cs, length => by
      have last : column k (remove k (first + count) cs) = (column k cs).take (first + count) := by
        rw [column_remove_same, List.eraseIdx_eq_take_drop_succ, List.drop_of_length_le (by omega),
          List.append_nil]
      rw [removeLast, column_removeLast_same k first count _ (by rw [last, List.length_take]; omega), last,
        List.take_take, Nat.min_eq_left (Nat.le_add_right _ _)]

theorem column_truncate_same (k : κ) (first : Nat) (cs : Columns κ α) :
    column k (truncate k first cs) = (column k cs).take first := by
  unfold truncate
  by_cases short : (column k cs).length ≤ first
  · rw [Nat.sub_eq_zero_of_le short, removeLast, List.take_of_length_le short]
  · exact column_removeLast_same k first _ cs (by omega)

theorem column_removeLast_other {k k' : κ} (other : k' ≠ k) (first : Nat) :
    ∀ (count : Nat) (cs : Columns κ α), column k' (removeLast k first count cs) = column k' cs
  | 0, _ => rfl
  | count + 1, cs => by
      rw [removeLast, column_removeLast_other other first count, column_remove_other other]

theorem column_truncate_other {k k' : κ} (other : k' ≠ k) (first : Nat) (cs : Columns κ α) :
    column k' (truncate k first cs) = column k' cs :=
  column_removeLast_other other first _ cs

end Keys

/-! ## Strips -/

/-- A run of writes into one column, and whether what lies behind it is removed. -/
structure Strip (κ : Type u) (α : Type v) where
  key : κ
  start : Nat
  data : List α
  cut : Bool

namespace Strip

variable {κ : Type u} {α : Type v}

/-- What a strip makes of its column. -/
def on (s : Strip κ α) (pad : α) (xs : List α) : List α :=
  if s.cut then (overlay pad s.start s.data xs).take (s.start + s.data.length)
  else overlay pad s.start s.data xs

/-- **What a strip leaves**: in its run what it writes, below it what was there, behind it that or
nothing. -/
theorem on_get (s : Strip κ α) (pad : α) (xs : List α) (i : Nat) :
    (s.on pad xs)[i]? =
      if s.start ≤ i ∧ i < s.start + s.data.length then s.data[i - s.start]?
      else if s.start + s.data.length ≤ i ∧ s.cut = true then none
      else if i < xs.length then xs[i]?
      else if i < s.start ∧ s.data ≠ [] then some pad else none := by
  unfold on
  cases cut : s.cut with
  | false => simp [overlay_get]
  | true =>
      rw [if_pos rfl, List.getElem?_take, overlay_get]
      by_cases behind : s.start + s.data.length ≤ i
      · rw [if_neg (by omega), if_neg (by omega), if_pos ⟨behind, rfl⟩]
      · rw [if_pos (by omega), if_neg (c := _ ∧ _) (fun h => behind h.1)]

theorem on_within (s : Strip κ α) (pad : α) (xs : List α) {i : Nat} (inside : i < s.data.length) :
    (s.on pad xs)[s.start + i]? = s.data[i]? := by
  rw [on_get, if_pos (by omega), Nat.add_sub_cancel_left]

/-- A run that was cut behind ends its column, if anything was written. -/
theorem on_length_cut (s : Strip κ α) (pad : α) (xs : List α) (cut : s.cut = true) :
    (s.on pad xs).length =
      if s.data = [] then min s.start xs.length else s.start + s.data.length := by
  unfold on
  rw [if_pos cut, List.length_take, overlay_length]
  split
  · rename_i none
    rw [none, List.length_nil, Nat.add_zero]
  · omega

/-- The occurrences a strip decides: its run, and where it cuts what lies behind. -/
def Covers (s : Strip κ α) (i : Nat) : Prop := s.start ≤ i ∧ (i < s.start + s.data.length ∨ s.cut = true)

/-- **What a strip decides is its own**, whatever was there. -/
theorem on_covered {s : Strip κ α} {i : Nat} (covers : s.Covers i) (pad : α) (xs : List α) :
    (s.on pad xs)[i]? = s.data[i - s.start]? := by
  obtain ⟨from_, inside | cut⟩ := covers
  · rw [on_get, if_pos ⟨from_, inside⟩]
  · by_cases inside : i < s.start + s.data.length
    · rw [on_get, if_pos ⟨from_, inside⟩]
    · rw [on_get, if_neg (by omega), if_pos ⟨by omega, cut⟩]
      exact (List.getElem?_eq_none (by omega)).symm

theorem on_below (s : Strip κ α) (pad : α) (xs : List α) {i : Nat} (below : i < s.start) (there : i < xs.length) :
    (s.on pad xs)[i]? = xs[i]? := by
  rw [on_get, if_neg (by omega), if_neg (by omega), if_pos there]

theorem on_behind {s : Strip κ α} (kept : s.cut = false) (pad : α) (xs : List α) {i : Nat}
    (behind : s.start + s.data.length ≤ i) : (s.on pad xs)[i]? = xs[i]? := by
  unfold on
  rw [kept]
  exact overlay_past pad s.start s.data xs behind

/-- The first write of a run, and then the others. -/
theorem on_cons (k : κ) (start : Nat) (a : α) (as : List α) (cut : Bool) (pad : α) (xs : List α) :
    (Strip.mk k start (a :: as) cut).on pad xs =
      (Strip.mk k (start + 1) as cut).on pad ((Strip.mk k start [a] false).on pad xs) := by
  unfold on
  simp only [List.length_cons, overlay_cons, overlay_nil, Bool.false_eq_true, if_false, Nat.add_assoc,
    Nat.add_comm 1]

/-- What a reader of a column needs of it: the run is there, and behind a cut nothing. -/
structure Shows (s : Strip κ α) (xs : List α) : Prop where
  within : ∀ i < s.data.length, xs[s.start + i]? = s.data[i]?
  ends : s.cut = true → xs.length ≤ s.start + s.data.length

theorem on_shows (s : Strip κ α) (pad : α) (xs : List α) : s.Shows (s.on pad xs) where
  within _ inside := s.on_within pad xs inside
  ends cut := by
    rw [s.on_length_cut pad xs cut]
    split
    · omega
    · exact Nat.le_refl _

theorem Shows.first {k : κ} {start : Nat} {a : α} {as : List α} {cut : Bool} {xs : List α}
    (shows : (Strip.mk k start (a :: as) cut).Shows xs) : xs[start]? = some a :=
  shows.within 0 (Nat.succ_pos _)

theorem Shows.element {β : Type} {k : κ} {start : Nat} {f : β → α} {bs : List β} {cut : Bool} {xs : List α}
    (shows : (Strip.mk k start (bs.map f) cut).Shows xs) {i : Nat} {b : β} (there : bs[i]? = some b) :
    xs[start + i]? = some (f b) := by
  have inside : i < (bs.map f).length := by
    rw [List.length_map]
    exact (List.getElem?_eq_some_iff.1 there).1
  have found := shows.within i inside
  rw [List.getElem?_map, there] at found
  exact found

/-- A column that shows a run is as long as the run needs. -/
theorem Shows.length_ge {s : Strip κ α} {xs : List α} (shows : s.Shows xs) (some : s.data ≠ []) :
    s.start + s.data.length ≤ xs.length := by
  have last : s.data.length - 1 < s.data.length := Nat.sub_one_lt fun none => some (List.eq_nil_of_length_eq_zero none)
  have there := shows.within _ last
  rw [List.getElem?_eq_getElem last] at there
  have := (List.getElem?_eq_some_iff.1 there).1
  omega

/-- What is left of a column that was cut, from the start of the run on. -/
theorem Shows.length_cut {s : Strip κ α} {xs : List α} (shows : s.Shows xs) (cut : s.cut = true) :
    xs.length - s.start = s.data.length := by
  have below := shows.ends cut
  by_cases none : s.data = []
  · rw [none, List.length_nil] at below ⊢
    omega
  · have := shows.length_ge none
    omega

variable [DecidableEq κ] (pad : κ → α)

/-- A strip laid into all the columns. -/
def apply (s : Strip κ α) (cs : Columns κ α) : Columns κ α :=
  if s.cut then truncate s.key (s.start + s.data.length) (changeAll (pad s.key) s.key s.start s.data cs)
  else changeAll (pad s.key) s.key s.start s.data cs

theorem column_apply_same (s : Strip κ α) (cs : Columns κ α) :
    column s.key (s.apply pad cs) = s.on (pad s.key) (column s.key cs) := by
  unfold apply on
  split
  · rw [column_truncate_same, column_changeAll_same]
  · rw [column_changeAll_same]

theorem column_apply_other {s : Strip κ α} {k : κ} (other : k ≠ s.key) (cs : Columns κ α) :
    column k (s.apply pad cs) = column k cs := by
  unfold apply
  split
  · rw [column_truncate_other other, column_changeAll_other other]
  · rw [column_changeAll_other other]

/-- One strip after another. -/
def applyAll (script : List (Strip κ α)) (cs : Columns κ α) : Columns κ α :=
  script.foldl (fun cs s => s.apply pad cs) cs

theorem applyAll_append (first later : List (Strip κ α)) (cs : Columns κ α) :
    applyAll pad (first ++ later) cs = applyAll pad later (applyAll pad first cs) :=
  List.foldl_append

/-- What a script makes of one column. -/
def onAll (k : κ) (script : List (Strip κ α)) (xs : List α) : List α :=
  script.foldl (fun xs s => if s.key = k then s.on (pad k) xs else xs) xs

theorem onAll_append (k : κ) (first later : List (Strip κ α)) (xs : List α) :
    onAll pad k (first ++ later) xs = onAll pad k later (onAll pad k first xs) :=
  List.foldl_append

theorem onAll_cons (k : κ) (s : Strip κ α) (script : List (Strip κ α)) (xs : List α) :
    onAll pad k (s :: script) xs = onAll pad k script (if s.key = k then s.on (pad k) xs else xs) := rfl

/-- **A script works column by column.** -/
theorem column_applyAll (k : κ) : ∀ (script : List (Strip κ α)) (cs : Columns κ α),
    column k (applyAll pad script cs) = onAll pad k script (column k cs)
  | [], _ => rfl
  | s :: script, cs => by
      show column k (applyAll pad script (s.apply pad cs)) = _
      rw [column_applyAll k script, onAll_cons]
      split
      · rename_i here
        subst here
        rw [column_apply_same]
      · rename_i other
        rw [column_apply_other pad (Ne.symm other)]

/-- A column no strip is for stays. -/
theorem onAll_absent {k : κ} : ∀ (script : List (Strip κ α)) (xs : List α),
    k ∉ script.map (·.key) → onAll pad k script xs = xs
  | [], _, _ => rfl
  | s :: script, xs, absent => by
      simp only [List.map_cons, List.mem_cons, not_or] at absent
      rw [onAll_cons, if_neg (Ne.symm absent.1), onAll_absent script xs absent.2]

/-- With one strip for a column, that is what it is for. -/
theorem onAll_only {s : Strip κ α} : ∀ {script : List (Strip κ α)} (xs : List α),
    s ∈ script → (script.map (·.key)).Nodup → onAll pad s.key script xs = s.on (pad s.key) xs
  | s' :: script, xs, member, distinct => by
      rw [List.map_cons, List.nodup_cons] at distinct
      rw [onAll_cons]
      rcases List.mem_cons.1 member with rfl | later
      · rw [if_pos rfl, onAll_absent pad script _ distinct.1]
      · have other : s'.key ≠ s.key := fun same => distinct.1 (List.mem_map.2 ⟨s, later, same.symm⟩)
        rw [if_neg other, onAll_only xs later distinct.2]

end Strip

end Endurox.Theory
