/-
# Theory.Table -- finite maps read by key

A `Table` is Mathlib's association list with unique keys behind the operations
a hash map offers: read, write, remove, rewrite every value in place, and find
some entry.  Each operation has one lemma saying what a later read returns and
one saying what it does to the list of items up to order; nothing else about
the list is used, since a hash map promises no order.
-/
import Mathlib.Data.List.AList

namespace Endurox.Theory

set_option autoImplicit false

universe u v w

/-- A finite map from `κ` to `α`. -/
structure Table (κ : Type u) (α : Type v) where
  list : AList (fun _ : κ => α)

namespace Table

variable {κ : Type u} {α : Type v} {β : Type w}

def empty : Table κ α := ⟨∅⟩

def keys (t : Table κ α) : List κ := t.list.keys

def items (t : Table κ α) : List (κ × α) := t.list.entries.map fun e => (e.1, e.2)

def vals (t : Table κ α) : List α := t.items.map Prod.snd

/-- What `f` finds in the items, all together. -/
def gather (f : κ → α → List β) (t : Table κ α) : List β :=
  t.items.flatMap fun item => f item.1 item.2

/-- Rewrite every value, keeping its key. -/
def mapVals (f : α → β) (t : Table κ α) : Table κ β where
  list := { entries := t.list.entries.map (.map id fun _ => f)
            nodupKeys := t.list.nodupKeys.map₂ (fun _ => f) }

@[simp] theorem keys_empty : (empty : Table κ α).keys = [] := rfl

@[simp] theorem items_empty : (empty : Table κ α).items = [] := rfl

@[simp] theorem vals_empty : (empty : Table κ α).vals = [] := rfl

theorem keys_nodup (t : Table κ α) : t.keys.Nodup := t.list.keys_nodup

@[simp] theorem items_mapVals (f : α → β) (t : Table κ α) :
    (t.mapVals f).items = t.items.map fun item => (item.1, f item.2) := by
  simp only [mapVals, items, List.map_map]
  exact List.map_congr_left fun _ _ => rfl

@[simp] theorem vals_mapVals (f : α → β) (t : Table κ α) : (t.mapVals f).vals = t.vals.map f := by
  simp [vals]

@[simp] theorem keys_mapVals (f : α → β) (t : Table κ α) : (t.mapVals f).keys = t.keys :=
  List.map₂_keys (fun _ => f) t.list.entries

variable [DecidableEq κ]

def get (t : Table κ α) (k : κ) : Option α := t.list.lookup k

def set (t : Table κ α) (k : κ) (a : α) : Table κ α := ⟨t.list.insert k a⟩

def del (t : Table κ α) (k : κ) : Table κ α := ⟨t.list.erase k⟩

/-- Some entry meeting `p`: the one at `preferred` if it does, else the first in the
list.  With `preferred` free this is any answer a search in hash order may give. -/
def findKey (p : α → Bool) (preferred : κ) (t : Table κ α) : Option κ :=
  if (t.get preferred).any p then some preferred
  else (t.list.entries.find? fun e => p e.2).map Sigma.fst

@[simp] theorem get_empty (k : κ) : (empty : Table κ α).get k = none := rfl

@[simp] theorem get_set (t : Table κ α) (k k' : κ) (a : α) :
    (t.set k a).get k' = if k' = k then some a else t.get k' := by
  by_cases same : k' = k
  · subst same; simp [get, set]
  · simp [get, set, same, AList.lookup_insert_ne same]

@[simp] theorem get_del (t : Table κ α) (k k' : κ) :
    (t.del k).get k' = if k' = k then none else t.get k' := by
  by_cases same : k' = k
  · subst same; simp [get, del]
  · simp [get, del, same, AList.lookup_erase_ne same]

@[simp] theorem get_mapVals (f : α → β) (t : Table κ α) (k : κ) :
    (t.mapVals f).get k = (t.get k).map f :=
  List.dlookup_map₂ (f := fun _ => f) k

omit [DecidableEq κ] in
theorem mapVals_mapVals {γ : Type*} (f : α → β) (g : β → γ) (t : Table κ α) :
    (t.mapVals f).mapVals g = t.mapVals (g ∘ f) := by
  simp only [mapVals, mk.injEq]
  refine AList.ext ?_
  simp only [List.map_map]
  exact List.map_congr_left fun _ _ => rfl

theorem mapVals_set (f : α → β) (t : Table κ α) (k : κ) (a : α) :
    (t.set k a).mapVals f = (t.mapVals f).set k (f a) := by
  simp only [mapVals, set, mk.injEq]
  refine AList.ext ?_
  simp only [AList.entries_insert, List.map_cons, List.kerase, List.eraseP_map]
  rfl

/-- A search by what the values are rewritten to. -/
theorem findKey_mapVals (f : α → β) (p : β → Bool) (preferred : κ) (t : Table κ α) :
    (t.mapVals f).findKey p preferred = t.findKey (p ∘ f) preferred := by
  have first : ((t.mapVals f).list.entries.find? fun e => p e.2).map Sigma.fst =
      (t.list.entries.find? fun e => (p ∘ f) e.2).map Sigma.fst := by
    simp only [mapVals, List.find?_map, Option.map_map]
    rfl
  simp only [findKey, get_mapVals, Option.any_map, first]
  rfl

theorem mem_keys {t : Table κ α} {k : κ} : k ∈ t.keys ↔ (t.get k).isSome :=
  AList.lookup_isSome.symm

theorem mem_entries {t : Table κ α} {k : κ} {a : α} : ⟨k, a⟩ ∈ t.list.entries ↔ t.get k = some a :=
  AList.mem_lookup_iff.symm

theorem mem_items {t : Table κ α} {k : κ} {a : α} : (k, a) ∈ t.items ↔ t.get k = some a := by
  constructor
  · intro found
    obtain ⟨⟨k', a'⟩, entry, same⟩ := List.mem_map.1 found
    cases same
    exact mem_entries.1 entry
  · exact fun found => List.mem_map.2 ⟨⟨k, a⟩, mem_entries.2 found, rfl⟩

theorem mem_vals {t : Table κ α} {a : α} : a ∈ t.vals ↔ ∃ k, t.get k = some a := by
  simp only [vals, List.mem_map, Prod.exists, mem_items]
  exact ⟨fun ⟨k, _, found, same⟩ => ⟨k, same ▸ found⟩, fun ⟨k, found⟩ => ⟨k, a, found, rfl⟩⟩

theorem entries_del (t : Table κ α) (k : κ) : (t.del k).list.entries = t.list.entries.kerase k := rfl

theorem items_set (t : Table κ α) (k : κ) (a : α) :
    (t.set k a).items = (k, a) :: (t.del k).items := by
  simp [items, set, entries_del, AList.entries_insert]

theorem keys_set (t : Table κ α) (k : κ) (a : α) : (t.set k a).keys = k :: (t.del k).keys := by
  simp [keys, set, del]

theorem del_of_get_none {t : Table κ α} {k : κ} (absent : t.get k = none) : t.del k = t := by
  have outside : k ∉ t.list.entries.keys := AList.lookup_eq_none.1 absent
  rcases t with ⟨⟨entries, nodup⟩⟩
  simp only [del, mk.injEq]
  exact AList.ext (List.kerase_of_notMem_keys outside)

/-- Removing a key just added changes nothing. -/
theorem del_set_of_get_none {t : Table κ α} {k : κ} {a : α} (absent : t.get k = none) :
    (t.set k a).del k = t := by
  have outside : k ∉ t.list.entries.keys := AList.lookup_eq_none.1 absent
  rcases t with ⟨⟨entries, nodup⟩⟩
  simp only [set, del, mk.injEq]
  refine AList.ext ?_
  have removed : (⟨k, a⟩ :: entries.kerase k : List (Sigma fun _ : κ => α)).kerase k = entries.kerase k :=
    List.kerase_cons_eq rfl
  exact removed.trans (List.kerase_of_notMem_keys outside)

/-- Reading a value out of the table and removing its key keeps the rest. -/
theorem items_perm_of_get {t : Table κ α} {k : κ} {a : α} (found : t.get k = some a) :
    t.items.Perm ((k, a) :: (t.del k).items) := by
  obtain ⟨b, before, after, _, split, kept⟩ :=
    List.exists_of_kerase (AList.lookup_isSome.1 (Option.isSome_of_eq_some found))
  have same : b = a := by
    have here : t.get k = some b := mem_entries.1 (by simp [split])
    exact Option.some.inj (here.symm.trans found)
  subst same
  have kerased : (t.del k).items = (before ++ after).map fun e => (e.1, e.2) := by
    simpa [items, entries_del] using congrArg (List.map fun e => (e.1, e.2)) kept
  rw [kerased, items, split]
  simp

theorem keys_perm_of_get {t : Table κ α} {k : κ} {a : α} (found : t.get k = some a) :
    t.keys.Perm (k :: (t.del k).keys) := by
  have member : k ∈ t.keys := mem_keys.2 (Option.isSome_of_eq_some found)
  simpa [keys, del] using List.perm_cons_erase member

omit [DecidableEq κ] in
theorem items_nodup (t : Table κ α) : t.items.Nodup := by
  have keys : t.items.map Prod.fst = t.keys := by simp [items, keys, AList.keys, List.keys, List.map_map]
  exact List.Nodup.of_map Prod.fst (keys ▸ t.keys_nodup)

/-- What a table is read as is what it holds, up to order. -/
theorem items_perm {t t' : Table κ α} (same : ∀ k, t.get k = t'.get k) : t.items.Perm t'.items :=
  (List.perm_ext_iff_of_nodup t.items_nodup t'.items_nodup).2 fun ⟨k, a⟩ => by rw [mem_items, mem_items, same]

section Gather

variable [BEq β] (f : κ → α → List β)

theorem gather_set (t : Table κ α) (k : κ) (a : α) (b : β) :
    ((t.set k a).gather f).count b = (f k a).count b + ((t.del k).gather f).count b := by
  simp [gather, items_set, List.count_append]

theorem gather_of_get {t : Table κ α} {k : κ} {a : α} (found : t.get k = some a) (b : β) :
    (t.gather f).count b = (f k a).count b + ((t.del k).gather f).count b := by
  have perm := (items_perm_of_get found).flatMap_right fun item => f item.1 item.2
  simpa [gather, List.count_append] using perm.count_eq b

omit [BEq β] in
theorem gather_perm {t t' : Table κ α} (same : ∀ k, t.get k = t'.get k) : (t.gather f).Perm (t'.gather f) :=
  (items_perm same).flatMap_right _

omit [DecidableEq κ] [BEq β] in
theorem gather_mapVals {g : α → α} (same : ∀ k a, f k (g a) = f k a) (t : Table κ α) :
    (t.mapVals g).gather f = t.gather f := by
  simp [gather, List.flatMap_map, same]

end Gather

theorem findKey_some {p : α → Bool} {preferred k : κ} {t : Table κ α}
    (found : t.findKey p preferred = some k) : ∃ a, t.get k = some a ∧ p a := by
  unfold findKey at found
  split at found
  · rename_i here
    cases found
    simpa [Option.any_eq_true] using here
  · obtain ⟨⟨k', a⟩, first, rfl⟩ := Option.map_eq_some_iff.1 found
    exact ⟨a, mem_entries.1 (List.mem_of_find?_eq_some first), by simpa using List.find?_some first⟩

theorem findKey_none {p : α → Bool} {preferred : κ} {t : Table κ α}
    (missing : t.findKey p preferred = none) {k : κ} {a : α} (found : t.get k = some a) :
    p a = false := by
  unfold findKey at missing
  split at missing
  · cases missing
  · have none := List.find?_eq_none.1 (Option.map_eq_none_iff.1 missing) ⟨k, a⟩ (mem_entries.2 found)
    simpa using none

end Table

end Endurox.Theory
