/-
# Theory.Options -- lists of keyed options

A parser of options takes them one by one: each has a key, no key may come twice, and what
an option says changes the record that is read.  `readOptions_eq_ok` is what such a parser
accepts and with what result; where the changes under different keys commute, the order the
options come in does not matter (`readOptions_perm`).
-/
import Mathlib.Data.List.Perm.Basic
import Mathlib.Data.List.Nodup

namespace Endurox.Theory

set_option autoImplicit false

/-- A list read item by item. -/
theorem mapM_eq_ok {α β ε : Type} {f : α → Except ε β} : ∀ {items : List α} {results : List β},
    items.mapM f = .ok results ↔ List.Forall₂ (fun item result => f item = .ok result) items results
  | [], results => by
      cases results <;> simp [pure, Except.pure]
  | item :: items, results => by
      rw [List.mapM_cons]
      cases first : f item with
      | error e =>
          constructor
          · intro ok
            cases ok
          · intro each
            cases each with
            | cons read _ => cases first.symm.trans read
      | ok result =>
          cases later : items.mapM f with
          | error e =>
              constructor
              · intro ok
                cases ok
              · intro each
                cases each with
                | cons _ rest => cases later.symm.trans (mapM_eq_ok.2 rest)
          | ok rest =>
              constructor
              · intro ok
                cases ok
                exact .cons first (mapM_eq_ok.1 later)
              · intro each
                cases each with
                | cons read others =>
                    cases first.symm.trans read
                    cases later.symm.trans (mapM_eq_ok.2 others)
                    rfl

section Options

variable {Item Key σ ε : Type} [DecidableEq Key]
variable (key : Item → Except ε Key) (update : Item → Except ε (σ → σ)) (duplicate : ε)

/-- One option, over the record read so far and the keys seen so far. -/
def readOption (state : σ × List Key) (item : Item) : Except ε (σ × List Key) := do
  let k ← key item
  if k ∈ state.2 then .error duplicate
  else do
    let change ← update item
    .ok (change state.1, k :: state.2)

def readOptions (items : List Item) (state : σ × List Key) : Except ε (σ × List Key) :=
  items.foldlM (readOption key update duplicate) state

/-- An option with the key it has and the change it makes. -/
def Means (item : Item) (change : Key × (σ → σ)) : Prop := key item = .ok change.1 ∧ update item = .ok change.2

/-- Changes made one after another. -/
def changed (changes : List (Key × (σ → σ))) (s : σ) : σ := changes.foldl (fun s change => change.2 s) s

variable {key update duplicate}

theorem readOption_eq_ok {state state' : σ × List Key} {item : Item} :
    readOption key update duplicate state item = .ok state' ↔
      ∃ change, Means key update item change ∧ change.1 ∉ state.2 ∧
        state' = (change.2 state.1, change.1 :: state.2) := by
  unfold readOption Means
  cases keyed : key item with
  | error e =>
      constructor
      · intro ok
        cases ok
      · rintro ⟨change, ⟨impossible, -⟩, -⟩
        cases impossible
  | ok k =>
      simp only [bind, Except.bind]
      split
      · rename_i seen
        constructor
        · intro ok
          cases ok
        · rintro ⟨change, ⟨same, -⟩, fresh, -⟩
          cases same
          exact absurd seen fresh
      · rename_i fresh
        cases updated : update item with
        | error e =>
            constructor
            · intro ok
              cases ok
            · rintro ⟨change, ⟨-, impossible⟩, -⟩
              cases impossible
        | ok change =>
            constructor
            · intro ok
              cases ok
              exact ⟨(k, change), ⟨rfl, rfl⟩, fresh, rfl⟩
            · rintro ⟨change', ⟨same, same'⟩, -, rfl⟩
              cases same
              cases same'
              rfl

/-- **What is accepted**: options that are each well-formed, of different keys. -/
theorem readOptions_eq_ok {items : List Item} : ∀ {state state' : σ × List Key},
    readOptions key update duplicate items state = .ok state' ↔
      ∃ changes, List.Forall₂ (Means key update) items changes ∧ (changes.map Prod.fst).Nodup ∧
        (∀ k ∈ state.2, k ∉ changes.map Prod.fst) ∧
        state' = (changed changes state.1, (changes.map Prod.fst).reverse ++ state.2) := by
  induction items with
  | nil =>
      intro state state'
      constructor
      · intro ok
        cases ok
        exact ⟨[], .nil, .nil, fun _ _ => List.not_mem_nil, rfl⟩
      · rintro ⟨changes, none, -, -, rfl⟩
        cases none
        rfl
  | cons item items ih =>
      intro state state'
      have stepped : readOptions key update duplicate (item :: items) state = .ok state' ↔
          ∃ between, readOption key update duplicate state item = .ok between ∧
            readOptions key update duplicate items between = .ok state' := by
        unfold readOptions
        rw [List.foldlM_cons]
        cases readOption key update duplicate state item <;> simp [bind, Except.bind]
      rw [stepped]
      constructor
      · rintro ⟨between, first, rest⟩
        obtain ⟨change, meant, fresh, rfl⟩ := readOption_eq_ok.1 first
        obtain ⟨changes, each, once, apart, rfl⟩ := ih.1 rest
        refine ⟨change :: changes, .cons meant each, List.nodup_cons.2 ⟨apart _ List.mem_cons_self, once⟩, ?_, ?_⟩
        · intro k seen among
          rcases List.mem_cons.1 among with rfl | later
          · exact fresh seen
          · exact apart k (List.mem_cons_of_mem _ seen) later
        · simp [changed]
      · rintro ⟨changes, each, once, apart, rfl⟩
        cases each with
        | cons meant each =>
            rename_i change changes
            obtain ⟨alone, once⟩ := List.nodup_cons.1 once
            refine ⟨_, readOption_eq_ok.2 ⟨change, meant, fun seen => apart _ seen List.mem_cons_self, rfl⟩,
              ih.2 ⟨changes, each, once, ?_, ?_⟩⟩
            · intro k seen among
              rcases List.mem_cons.1 seen with rfl | before
              · exact alone among
              · exact apart k before (List.mem_cons_of_mem _ among)
            · simp [changed]

omit [DecidableEq Key] in
theorem meant_of_mem {items : List Item} {changes : List (Key × (σ → σ))}
    (each : List.Forall₂ (Means key update) items changes) {c : Key × (σ → σ)} (among : c ∈ changes) :
    ∃ i, Means key update i c := by
  induction each with
  | nil => exact absurd among List.not_mem_nil
  | cons meant _ ih =>
      rcases List.mem_cons.1 among with rfl | later
      · exact ⟨_, meant⟩
      · exact ih later

/-- Changes of different keys, in another order. -/
theorem changed_perm {changes changes' : List (Key × (σ → σ))} (perm : changes.Perm changes')
    (commute : ∀ c ∈ changes, ∀ d ∈ changes, c.1 ≠ d.1 → ∀ s, d.2 (c.2 s) = c.2 (d.2 s))
    (once : (changes.map Prod.fst).Nodup) (s : σ) : changed changes s = changed changes' s := by
  refine perm.foldl_eq' (fun c first d second s => ?_) s
  by_cases same : c.1 = d.1
  · rw [List.inj_on_of_nodup_map once first second same]
  · exact commute c first d second same s

/-- **The order of options does not matter** where changes under different keys commute. -/
theorem readOptions_perm {items items' : List Item} (perm : items.Perm items')
    (commute : ∀ i j c d, Means key update i c → Means key update j d → c.1 ≠ d.1 → ∀ s, d.2 (c.2 s) = c.2 (d.2 s))
    {s s' : σ} {seen : List Key} (ran : readOptions key update duplicate items (s, []) = .ok (s', seen)) :
    ∃ seen', readOptions key update duplicate items' (s, []) = .ok (s', seen') ∧ seen.Perm seen' := by
  obtain ⟨changes, each, once, -, result⟩ := readOptions_eq_ok.1 ran
  cases result
  obtain ⟨changes', each', same⟩ := List.perm_comp_forall₂ perm.symm each
  have commutes : ∀ c ∈ changes, ∀ d ∈ changes, c.1 ≠ d.1 → ∀ s, d.2 (c.2 s) = c.2 (d.2 s) := by
    intro c first d second apart
    obtain ⟨i, meant⟩ := meant_of_mem each first
    obtain ⟨j, meant'⟩ := meant_of_mem each second
    exact commute i j c d meant meant' apart
  have keys : (changes'.map Prod.fst).Perm (changes.map Prod.fst) := same.map _
  refine ⟨_, readOptions_eq_ok.2 ⟨changes', each', keys.nodup_iff.2 once, fun _ none => absurd none List.not_mem_nil,
    Prod.ext (changed_perm same.symm commutes once s) rfl⟩, ?_⟩
  simp only [List.append_nil]
  exact (List.reverse_perm _).trans (keys.symm.trans (List.reverse_perm _).symm)

end Options

end Endurox.Theory
