/-
# Theory.Forest -- graphs in which everything is reached once

`children` lists what each node points to, an occurrence at a time.  `Sole` says
of the nodes reached from a list of roots that one occurrence alone leads to each,
and `TreeAt` the same of one root and what lies under it.  A walk that follows
every occurrence (`Walks`) meets no node twice exactly then (`Walks.nodup_iff`);
and the nodes under some of the roots are not under the others (`Sole.apart`).
-/
import Mathlib.Logic.Relation
import Mathlib.Data.List.Nodup
import Mathlib.Data.List.Perm.Basic

namespace Endurox.Theory

set_option autoImplicit false

universe u

section Forest

variable {α : Type u} (children : α → List α)

def Points (a b : α) : Prop := b ∈ children a

/-- Reached from one of the roots. -/
def Reached (roots : List α) (a : α) : Prop :=
  ∃ root ∈ roots, Relation.ReflTransGen (Points children) root a

/-- Every node reached from these roots is reached by one occurrence only. -/
structure Sole (roots : List α) : Prop where
  once : roots.Nodup
  each : ∀ a, Reached children roots a → (children a).Nodup
  fresh : ∀ a, Reached children roots a → ∀ b ∈ children a, b ∉ roots
  parent : ∀ a b, Reached children roots a → Reached children roots b →
    ∀ c ∈ children a, c ∈ children b → a = b

/-- Every node under the root is reached by one occurrence only, and the root by none. -/
structure TreeAt (root : α) : Prop where
  each : ∀ a, Relation.ReflTransGen (Points children) root a → (children a).Nodup
  parent : ∀ a b, Relation.ReflTransGen (Points children) root a →
    Relation.ReflTransGen (Points children) root b → ∀ c ∈ children a, c ∈ children b → a = b
  root : ∀ a, Relation.ReflTransGen (Points children) root a → root ∉ children a

/-- The nodes met by following every occurrence, depth first, in order. -/
inductive Walks : List α → List α → Prop
  | nil : Walks [] []
  | cons {a : α} {below roots after : List α} (under : Walks (children a) below)
      (rest : Walks roots after) : Walks (a :: roots) (a :: (below ++ after))

variable {children}

/-! ## Reaching -/

theorem not_reached_nil (a : α) : ¬ Reached children [] a := by
  rintro ⟨_, member, _⟩
  cases member

theorem reached_child {roots : List α} {a b : α} (reached : Reached children roots a)
    (child : b ∈ children a) : Reached children roots b := by
  obtain ⟨root, member, path⟩ := reached
  exact ⟨root, member, path.tail child⟩

theorem Reached.mono {roots more : List α} {a : α} (subset : roots ⊆ more)
    (reached : Reached children roots a) : Reached children more a := by
  obtain ⟨root, member, path⟩ := reached
  exact ⟨root, subset member, path⟩

theorem reached_under {roots : List α} {a b : α} (reached : Reached children roots a)
    (under : Reached children (children a) b) : Reached children roots b := by
  obtain ⟨root, member, path⟩ := reached
  obtain ⟨child, pointed, below⟩ := under
  exact ⟨root, member, (path.tail pointed).trans below⟩

theorem reached_cons {a b : α} {roots : List α} :
    Reached children (a :: roots) b ↔ b = a ∨ Reached children (children a) b ∨ Reached children roots b := by
  constructor
  · rintro ⟨root, member, path⟩
    rcases List.mem_cons.1 member with rfl | member
    · rcases path.cases_head with same | ⟨child, pointed, below⟩
      · exact .inl same.symm
      · exact .inr (.inl ⟨child, pointed, below⟩)
    · exact .inr (.inr ⟨root, member, path⟩)
  · rintro (rfl | under | reached)
    · exact ⟨b, List.mem_cons_self, .refl⟩
    · exact reached_under ⟨a, List.mem_cons_self, .refl⟩ under
    · exact reached.mono (List.subset_cons_self a roots)

/-- What is reached is a root, or a child of something reached. -/
theorem reached_cases {roots : List α} {a : α} (reached : Reached children roots a) :
    a ∈ roots ∨ ∃ b, Reached children roots b ∧ a ∈ children b := by
  obtain ⟨root, member, path⟩ := reached
  rcases path.cases_tail with rfl | ⟨b, before, child⟩
  · exact .inl member
  · exact .inr ⟨b, ⟨root, member, before⟩, child⟩

/-- Only the children of what is reached matter. -/
theorem reached_congr {children' : α → List α} {roots : List α} {a : α}
    (same : ∀ b, Reached children roots b → children' b = children b) :
    Reached children' roots a ↔ Reached children roots a := by
  constructor
  · rintro ⟨root, member, path⟩
    induction path with
    | refl => exact ⟨root, member, .refl⟩
    | tail before child ih => exact reached_child ih (same _ ih ▸ child)
  · rintro ⟨root, member, path⟩
    refine ⟨root, member, ?_⟩
    induction path with
    | refl => exact .refl
    | tail before child ih =>
        have kept := same _ ⟨root, member, before⟩
        exact ih.tail (show _ ∈ children' _ from kept ▸ child)

theorem Reached.subgraph {children' : α → List α} {roots : List α} {a : α} (reached : Reached children' roots a)
    (subset : ∀ b, children' b ⊆ children b) : Reached children roots a := by
  obtain ⟨root, member, path⟩ := reached
  have kept : Points children' ≤ Points children := fun b _ child => subset b child
  exact ⟨root, member, Relation.ReflTransGen.mono kept _ _ path⟩

/-- A root visited: its children take its place, and nothing is reached through it again. -/
theorem reached_visit [DecidableEq α] {a b : α} {roots : List α} :
    Reached children (a :: roots) b ↔
      b = a ∨ Reached (fun c => if c = a then [] else children c) (children a ++ roots) b := by
  constructor
  · rintro ⟨root, member, path⟩
    induction path with
    | refl =>
        rcases List.mem_cons.1 member with rfl | member
        · exact .inl rfl
        · exact .inr ⟨root, List.mem_append_right _ member, .refl⟩
    | @tail b c before child ih =>
        by_cases here : b = a
        · subst here
          exact .inr ⟨c, List.mem_append_left _ child, .refl⟩
        · have reached := ih.resolve_left here
          exact .inr (reached_child reached (by rw [if_neg here]; exact child))
  · rintro (rfl | ⟨root, member, path⟩)
    · exact ⟨b, List.mem_cons_self, .refl⟩
    · have reached : Reached children (a :: roots) root := by
        rcases List.mem_append.1 member with child | member
        · exact ⟨a, List.mem_cons_self, .single child⟩
        · exact ⟨root, List.mem_cons_of_mem a member, .refl⟩
      obtain ⟨first, listed, above⟩ := reached
      have cut : ∀ c, (if c = a then [] else children c) ⊆ children c := by
        intro c
        split
        · exact List.nil_subset _
        · exact List.Subset.refl _
      have kept : Points (fun c => if c = a then [] else children c) ≤ Points children :=
        fun c _ child => cut c child
      exact ⟨first, listed, above.trans (Relation.ReflTransGen.mono kept _ _ path)⟩

theorem reached_append {roots more : List α} {a : α} :
    Reached children (roots ++ more) a ↔ Reached children roots a ∨ Reached children more a := by
  constructor
  · rintro ⟨root, member, path⟩
    exact (List.mem_append.1 member).imp (fun member => ⟨root, member, path⟩) fun member => ⟨root, member, path⟩
  · rintro (reached | reached)
    · exact reached.mono (List.subset_append_left roots more)
    · exact reached.mono (List.subset_append_right roots more)

/-- What is reached when others' children have been cut off is reached, or was reached from them. -/
theorem Reached.cut {children' : α → List α} {roots more : List α} {a : α} (reached : Reached children more a)
    (same : ∀ b, ¬ Reached children roots b → children' b = children b) :
    Reached children roots a ∨ Reached children' more a := by
  obtain ⟨root, member, path⟩ := reached
  induction path with
  | refl => exact .inr ⟨root, member, .refl⟩
  | @tail b c before child ih =>
      by_cases other : Reached children roots b
      · exact .inl (reached_child other child)
      · exact .inr (reached_child (ih.resolve_left other) (same b other ▸ child))

/-! ## Sole occurrences -/

theorem Sole.perm {roots roots' : List α} (perm : roots.Perm roots') (sole : Sole children roots) :
    Sole children roots' where
  once := perm.nodup_iff.1 sole.once
  each a reached := sole.each a (reached.mono perm.symm.subset)
  fresh a reached b child member := sole.fresh a (reached.mono perm.symm.subset) b child (perm.symm.subset member)
  parent a b reached reached' := sole.parent a b (reached.mono perm.symm.subset) (reached'.mono perm.symm.subset)

theorem Sole.sublist {roots roots' : List α} (sublist : roots'.Sublist roots) (sole : Sole children roots) :
    Sole children roots' where
  once := sole.once.sublist sublist
  each a reached := sole.each a (reached.mono sublist.subset)
  fresh a reached b child member := sole.fresh a (reached.mono sublist.subset) b child (sublist.subset member)
  parent a b reached reached' := sole.parent a b (reached.mono sublist.subset) (reached'.mono sublist.subset)

/-- **Apart**: what lies under some of the roots does not lie under the others. -/
theorem Sole.apart {roots more : List α} {a : α} (sole : Sole children (roots ++ more))
    (reached : Reached children roots a) : ¬ Reached children more a := by
  obtain ⟨root, member, path⟩ := reached
  have here {b : α} (reached : Reached children roots b) : Reached children (roots ++ more) b :=
    reached.mono (List.subset_append_left roots more)
  have there {b : α} (reached : Reached children more b) : Reached children (roots ++ more) b :=
    reached.mono (List.subset_append_right roots more)
  induction path with
  | refl =>
      intro reached
      rcases reached_cases reached with other | ⟨b, under, child⟩
      · exact (List.nodup_append.1 sole.once).2.2 root member root other rfl
      · exact sole.fresh b (there under) root child (List.mem_append_left more member)
  | tail before child ih =>
      intro reached
      rcases reached_cases reached with other | ⟨b, under, child'⟩
      · exact sole.fresh _ (here ⟨root, member, before⟩) _ child (List.mem_append_right roots other)
      · have same := sole.parent _ b (here ⟨root, member, before⟩) (there under) _ child child'
        exact ih (same ▸ under)

/-- Under a root, the same holds of its children; and the root is not among what they reach. -/
theorem Sole.under {a : α} {roots : List α} (sole : Sole children (a :: roots)) :
    Sole children (children a) ∧ ¬ Reached children (children a) a := by
  have reached {b : α} (under : Reached children (children a) b) : Reached children (a :: roots) b :=
    reached_cons.2 (.inr (.inl under))
  have self : Reached children (a :: roots) a := reached_cons.2 (.inl rfl)
  have apart : ¬ Reached children (children a) a := by
    intro again
    rcases reached_cases again with child | ⟨b, under, child⟩
    · exact sole.fresh a self a child List.mem_cons_self
    · exact sole.fresh b (reached under) a child List.mem_cons_self
  refine ⟨⟨sole.each a self, fun b under => sole.each b (reached under), fun b under c child child' => ?_,
    fun b c under under' => sole.parent b c (reached under) (reached under')⟩, apart⟩
  have same := sole.parent b a (reached under) self c child child'
  exact apart (same ▸ under)

theorem treeAt_iff {root : α} :
    TreeAt children root ↔ Sole children (children root) ∧ ¬ Reached children (children root) root := by
  have reached {a : α} : Relation.ReflTransGen (Points children) root a ↔
      a = root ∨ Reached children (children root) a := by
    have single : Reached children [root] a ↔
        a = root ∨ Reached children (children root) a ∨ Reached children [] a := reached_cons
    simpa [Reached, not_reached_nil] using single
  constructor
  · intro tree
    have apart : ¬ Reached children (children root) root := by
      intro again
      rcases reached_cases again with child | ⟨b, under, child⟩
      · exact tree.root root .refl child
      · exact tree.root b (reached.2 (.inr under)) child
    refine ⟨⟨tree.each root .refl, fun a under => tree.each a (reached.2 (.inr under)), fun a under b child child' => ?_,
      fun a b under under' => tree.parent a b (reached.2 (.inr under)) (reached.2 (.inr under'))⟩, apart⟩
    have same := tree.parent a root (reached.2 (.inr under)) .refl b child child'
    exact apart (same ▸ under)
  · rintro ⟨sole, apart⟩
    refine ⟨fun a path => ?_, fun a b path path' c child child' => ?_, fun a path child => ?_⟩
    · rcases reached.1 path with rfl | under
      · exact sole.once
      · exact sole.each a under
    · rcases reached.1 path with rfl | under <;> rcases reached.1 path' with rfl | under'
      · rfl
      · exact absurd child (sole.fresh b under' c child')
      · exact absurd child' (sole.fresh a under c child)
      · exact sole.parent a b under under' c child child'
    · rcases reached.1 path with rfl | under
      · exact apart ⟨a, child, .refl⟩
      · exact apart (reached_child under child)

/-! ## Walks -/

theorem Walks.append {roots more walk walk' : List α} (first : Walks children roots walk)
    (second : Walks children more walk') : Walks children (roots ++ more) (walk ++ walk') := by
  induction first with
  | nil => exact second
  | cons under rest _ ih =>
      rw [List.cons_append, List.cons_append, List.append_assoc]
      exact .cons under ih

theorem Walks.mem_iff {roots walk : List α} (walks : Walks children roots walk) (a : α) :
    a ∈ walk ↔ Reached children roots a := by
  induction walks with
  | nil => simpa using not_reached_nil a
  | cons under rest ihUnder ih => rw [reached_cons, List.mem_cons, List.mem_append, ihUnder, ih]

/-- **A walk meets no node twice** exactly when one occurrence alone leads to each. -/
theorem Walks.nodup_iff {roots walk : List α} (walks : Walks children roots walk) :
    walk.Nodup ↔ Sole children roots := by
  induction walks with
  | nil =>
      have nobody (a : α) : ¬ Reached children [] a := not_reached_nil a
      exact ⟨fun _ => ⟨List.nodup_nil, fun a reached => absurd reached (nobody a),
        fun a reached => absurd reached (nobody a), fun a _ reached => absurd reached (nobody a)⟩,
        fun _ => List.nodup_nil⟩
  | @cons a below roots after under rest ihUnder ih =>
      rw [List.nodup_cons, List.mem_append, under.mem_iff, rest.mem_iff, List.nodup_append, ihUnder, ih]
      constructor
      · rintro ⟨new, soleUnder, soleRest, apart⟩
        have distinct {b : α} (reached : Reached children (children a) b) : ¬ Reached children roots b :=
          fun again => apart b ((under.mem_iff b).2 reached) b ((rest.mem_iff b).2 again) rfl
        refine ⟨List.nodup_cons.2 ⟨fun member => new (.inr ⟨a, member, .refl⟩), soleRest.once⟩, ?_, ?_, ?_⟩
        · intro b reached
          rcases reached_cons.1 reached with rfl | reached | reached
          · exact soleUnder.once
          · exact soleUnder.each b reached
          · exact soleRest.each b reached
        · intro b reached c child member
          rcases reached_cons.1 reached with rfl | inside | beside
          · rcases List.mem_cons.1 member with rfl | member
            · exact new (.inl ⟨c, child, .refl⟩)
            · exact distinct ⟨c, child, .refl⟩ ⟨c, member, .refl⟩
          · rcases List.mem_cons.1 member with rfl | member
            · exact new (.inl (reached_child inside child))
            · exact distinct (reached_child inside child) ⟨c, member, .refl⟩
          · rcases List.mem_cons.1 member with rfl | member
            · exact new (.inr (reached_child beside child))
            · exact soleRest.fresh b beside c child member
        · intro b c reached reached' d child child'
          rcases reached_cons.1 reached with rfl | inside | beside <;>
            rcases reached_cons.1 reached' with rfl | inside' | beside'
          · rfl
          · exact absurd child (soleUnder.fresh c inside' d child')
          · exact absurd (reached_child beside' child') (distinct ⟨d, child, .refl⟩)
          · exact absurd child' (soleUnder.fresh b inside d child)
          · exact soleUnder.parent b c inside inside' d child child'
          · exact absurd (reached_child beside' child') (distinct (reached_child inside child))
          · exact absurd (reached_child beside child) (distinct ⟨d, child', .refl⟩)
          · exact absurd (reached_child beside child) (distinct (reached_child inside' child'))
          · exact soleRest.parent b c beside beside' d child child'
      · intro sole
        have split : Sole children ([a] ++ roots) := sole
        have apart {b : α} (reached : Reached children [a] b) : ¬ Reached children roots b :=
          split.apart reached
        refine ⟨?_, sole.under.1, sole.sublist (List.sublist_cons_self a roots), ?_⟩
        · rintro (again | again)
          · exact sole.under.2 again
          · exact apart ⟨a, List.mem_singleton_self a, .refl⟩ again
        · rintro b below c member rfl
          exact apart (reached_cons.2 (.inr (.inl ((under.mem_iff b).1 below)))) ((rest.mem_iff b).1 member)

end Forest

end Endurox.Theory
