/-
# Ubf.Rows -- a `Vec` of rows and its columns

A flat group keeps its rows in columns, a member's occurrence offset shifting its own.
After a write of a `Vec` of rows every member of every row is where its row and its offset
put it, no column goes on behind the last row, and the rows are read back as they were
(`rows_round_trip`): the anchor, which every row writes, counts them.
-/
import Endurox.Ubf.RoundTrip

namespace Endurox.Ubf

open Endurox.Theory
open Endurox.Typed (BFLDID UbfFieldType UbfError UbfCode)

set_option autoImplicit false

/-- Among a row's members, each is in its column. -/
theorem rowShown_get {N : Native} {image : StructId → Value → Buffer} {pos : Branch} {base : Nat} {f : BFLDID}
    {occ : Int} {label : String} {placed : Placed} {value : Value} (slot : placed.field? = some (f, occ)) :
    ∀ (members : List (String × Placed)) (values : List Value) (j : Nat),
      RowShown N image pos base members values → members[j]? = some (label, placed) → values[j]? = some value →
      (column f pos.fields)[base + occ.toNat]? = some (placed.datum N image value)
  | [], _, _, _, here, _ => nomatch here
  | _ :: _, [], _, _, _, held => nomatch held
  | (_, first) :: members, value' :: values, j, shown, here, held => by
      cases j with
      | zero =>
          obtain ⟨rfl, rfl⟩ := Prod.mk.inj (Option.some.inj here)
          obtain rfl := Option.some.inj held
          exact shown.1 f occ slot
      | succ j => exact rowShown_get slot members values j shown.2 here held

section Rows

variable {N : Native} {D : Decls} {g : GroupDecl} {id : Nat} {rows : List Value} {base : Int} {fuel : Nat}
  {t t' : Target}

/-- What the written rows have left, column by column. -/
theorem writeRows_shown (zeroBased : D.ZeroBased N) (known : D.groups[id]? = some g) (distinct : (placedFields g.members).Nodup)
    (wrote : Ran (writeGroup N (serialize N D fuel) D.groups base (.vec id) (.list rows)) t ⟨⟩ t') :
    ∀ s ∈ groupStrips N (structImage N D fuel) base.toNat true g.members (rows.map rowValues),
      s.Shows (column s.key t'.fields) := by
  intro s member
  have lays := writeGroup_lays (serialize_makes zeroBased fuel) known distinct wrote
  rw [lays.only distinct member]
  exact s.on_shows _ _

theorem writeGroup_vec_ran (known : D.groups[id]? = some g) {write : StructId → Value → Writing PUnit} {u : PUnit}
    (ran : Ran (writeGroup N write D.groups base (.vec id) (.list rows)) t u t') :
    Ran (writeVecGroup N write g rows base) t u t' := by
  unfold writeGroup at ran
  simp only [GroupTy.id, known] at ran
  exact ran

/-- **Rows are where they belong, and only there; and they are read back.**  For every group whose
columns are distinct, with nested structs of zero-based starts (or native code that refuses others),
every `Vec` of rows, place and buffer: after a write that succeeds the member of row `i` with offset
`d` is at `base + i + d` of its column, every column ends with the last row, the anchor's occurrences
less their start are the rows, and rows that come back on their own are read as they were written. -/
theorem rows_round_trip (N : Native) (D : Decls) (zeroBased : D.ZeroBased N) (g : GroupDecl) (id : Nat)
    (known : D.groups[id]? = some g) (distinct : (placedFields g.members).Nodup) (fuel : Nat) (rows : List Value) (base : Int) (t t' : Target)
    (wrote : Ran (writeGroup N (serialize N D fuel) D.groups base (.vec id) (.list rows)) t ⟨⟩ t') :
    (∀ (i : Nat) (row : Value), rows[i]? = some row →
      (∀ (j : Nat) (label : String) (placed : Placed) (value : Value) (f : BFLDID) (d : Int),
        g.members[j]? = some (label, placed) → (rowValues row)[j]? = some value → placed.field? = some (f, d) →
        (column f t'.fields)[base.toNat + i + d.toNat]? = some (placed.datum N (structImage N D fuel) value))) ∧
      (∀ (label : String) (placed : Placed) (f : BFLDID) (d : Int), (label, placed) ∈ g.members →
        placed.field? = some (f, d) → (column f t'.fields).length ≤ base.toNat + d.toNat + rows.length) ∧
      rowCount g (column g.anchor.1 t'.fields).length - base.toNat = rows.length ∧
      (D.Distinct → D.Fits →
        (∀ row ∈ rows, RowReads N (fun id value => ∃ less, 128 = less + 1 ∧ Faithful N D fuel less id value)
          g.members (rowValues row)) →
        ∀ more, fuel ≤ more →
          (readGroup (trees N) D ⟨t'.fields, []⟩ (deserialize (trees N) D more) base (.vec id)).run.run [] =
            some (.ok (Value.list rows).reset, [])) := by
  let pos : Branch := ⟨t'.fields, []⟩
  have shows : ∀ s ∈ groupStrips N (structImage N D fuel) base.toNat true g.members (rows.map rowValues),
      s.Shows (column s.key pos.fields) := writeRows_shown zeroBased known distinct wrote
  have ran := writeGroup_vec_ran known wrote
  obtain ⟨lengths, -⟩ := writeVecGroup_ran (serialize_makes zeroBased fuel) ran
  refine ⟨fun i row there j label placed value f d here held slot => ?_, fun label placed f d here slot => ?_, ?_,
    fun levels fits faithful more enough => ?_⟩
  · have listed : (rows.map rowValues)[i]? = some (rowValues row) := by
      rw [List.getElem?_map, there]
      rfl
    have shown := groupStrips_row g.members (rows.map rowValues) (rowValues row) shows listed
      (lengths row (List.mem_of_getElem? there))
    exact rowShown_get slot g.members (rowValues row) j shown here held
  · have strip : ∃ data, data.length = (rows.map rowValues).length ∧ Strip.mk f (base.toNat + d.toNat) data true ∈
        groupStrips N (structImage N D fuel) base.toNat true g.members (rows.map rowValues) :=
      member_strip base.toNat true slot g.members (rows.map rowValues) here
    obtain ⟨data, length, member⟩ := strip
    have ends := (shows _ member).ends rfl
    rw [length, List.length_map] at ends
    exact ends
  · exact rowCount_shown shows
  · have inner : Nested (serialize N D fuel) (deserialize (trees N) D more)
        (fun id value => ∃ less, 128 = less + 1 ∧ Faithful N D fuel less id value) pos [] :=
      (deserialize_reads zeroBased levels fits fuel more enough).nested zeroBased levels (Nat.le_refl _) (fun _ there => nomatch there)
    exact readGroup_reads (serialize_makes zeroBased fuel) inner known wrote faithful shows

end Rows

/-- Three rows, the second column shifted by one. -/
def rowsBefore : Target :=
  ⟨[(⟨6, .Carray⟩, .plain [1]), (⟨6, .Carray⟩, .plain [2]), (⟨6, .Carray⟩, .plain [3]),
    (⟨7, .Carray⟩, .plain [4]), (⟨7, .Carray⟩, .plain [5]), (⟨7, .Carray⟩, .plain [6]),
    (⟨7, .Carray⟩, .plain [7])], []⟩

def twoRows : List Value :=
  [.struct [.scalar (.carray [8]), .scalar (.carray [9])], .struct [.scalar (.carray [10]), .scalar (.carray [11])]]

/-- Two rows are written over them; each column ends with its own second row, and two rows are read. -/
theorem two_rows_over_three :
    (column ⟨7, .Carray⟩ ((writeGroup littleEndian (serialize littleEndian chainTypes 1) chainTypes.groups 0 (.vec 0)
        (.list twoRows)).run.run rowsBefore).2.fields).length ≤ 0 + 1 + 2 ∧
      rowCount chainRow (column ⟨6, .Carray⟩ ((writeGroup littleEndian (serialize littleEndian chainTypes 1)
        chainTypes.groups 0 (.vec 0) (.list twoRows)).run.run rowsBefore).2.fields).length - 0 = 2 :=
  have rows := rows_round_trip littleEndian chainTypes chainTypes_zeroBased chainRow 0 rfl (by decide) 1 twoRows 0 rowsBefore _ rfl
  ⟨rows.2.1 "count" _ ⟨7, .Carray⟩ 1 (List.mem_cons_of_mem _ List.mem_cons_self) rfl, rows.2.2.1⟩

end Endurox.Ubf
