import Accessors.Grammar.Print
import Accessors.Proofs.Token.WellFormed

/-!
# The leaves of a record

A record has the leaves of the forest it was recognised in, and printing it adds nothing to them but
separators and numbers.

* `wellFormed_print`: printing keeps a record's leaves well formed.
-/

namespace Accessors.Grammar

open Accessors.Token

/-! ## Records -/

variable {σ : Type}

theorem wellFormed_of_mem {parts : List (Node σ)} (h : WellFormed (treesOf parts)) {n : Node σ}
    (hn : n ∈ parts) : WellFormed n.trees := by
  induction parts with
  | nil => cases hn
  | cons m rest ih =>
    rw [treesOf_cons, wellFormed_append] at h
    rcases List.mem_cons.1 hn with rfl | hn
    · exact h.1
    · exact ih h.2 hn

/-! ## Printing -/

/-- The trees of a list are those of its elements, and commas. -/
theorem mem_joined {elements : List Listed} {t : Tree} (h : t ∈ joined elements) :
    t = commaTree ∨ ∃ e ∈ elements, t ∈ e.trees := by
  induction elements with
  | nil => cases h
  | cons e rest ih =>
    cases rest with
    | nil =>
      rcases List.mem_append.1 h with h | h
      · exact .inr ⟨e, by simp, h⟩
      · split at h
        · exact .inl (List.mem_singleton.1 h)
        · cases h
    | cons next rest =>
      rcases List.mem_append.1 h with h | h
      · exact .inr ⟨e, by simp, h⟩
      · rcases List.mem_cons.1 h with h | h
        · exact .inl h
        · rcases ih h with h | ⟨e', he', h⟩
          · exact .inl h
          · exact .inr ⟨e', List.mem_cons_of_mem _ he', h⟩

/-- The trees of positions are numbers and dots. -/
theorem mem_positionTrees {parts : List (List Char)} {t : Tree} (h : t ∈ positionTrees parts) :
    t = .leaf (.punct '.' false) ∨ ∃ part, t = .leaf (.literal (positionText part)) := by
  induction parts with
  | nil => cases h
  | cons part rest ih =>
    cases rest with
    | nil =>
      rw [positionTrees] at h
      split at h
      · cases h
      · exact .inr ⟨part, List.mem_singleton.1 h⟩
    | cons next rest =>
      rcases List.mem_cons.1 h with h | h
      · exact .inr ⟨part, h⟩
      · rcases List.mem_cons.1 h with h | h
        · exact .inl h
        · exact ih h

theorem mem_lifetimesFirst {elements : List Listed} {e : Listed} :
    e ∈ lifetimesFirst elements ↔ e ∈ elements := by
  simp only [lifetimesFirst, List.mem_append, List.mem_filter]
  cases e.lifetime <;> simp

/-- The forms that a phrase is printed in. -/
theorem print_phrase (s : Shape) (parts : List (Node Shape)) :
    (Node.phrase s parts).print = [] ∨ (Node.phrase s parts).print = treesOf parts ∨
    (Node.phrase s parts).print = joined (lifetimesFirst (listedOf parts)) ∨
    (Node.phrase s parts).print = positionTrees ((positions? (treesOf parts)).getD []) ∨
    (Node.phrase s parts).print = printOf parts := by
  cases s <;> simp [Node.print]

/-- A property of trees that printing does not break: what it adds has the property, and a group
keeps it if the trees inside do. -/
structure PrintStable (P : Tree → Prop) : Prop where
  comma : P commaTree
  dot : P (.leaf (.punct '.' false))
  position : ∀ part, P (.leaf (.literal (positionText part)))
  group : ∀ {d : Delimiter} {body : Node Shape}, P (.group d body.trees) →
    ((∀ t ∈ body.trees, P t) → ∀ t ∈ body.print, P t) → P (.group d body.print)

variable {P : Tree → Prop}

mutual

/-- **Printing keeps what it does not break.** -/
theorem PrintStable.print (hP : PrintStable P) :
    ∀ {n : Node Shape}, (∀ t ∈ n.trees, P t) → ∀ t ∈ n.print, P t
  | .tree t, h, u, hu => by
    rw [Node.print, List.mem_singleton] at hu
    exact h u (by simp [hu])
  | .group d body, h, u, hu => by
    rw [Node.print, List.mem_singleton] at hu
    subst hu
    exact hP.group (h _ (by simp)) hP.print
  | .phrase s parts, h, u, hu => by
    rw [trees_phrase] at h
    -- Only the lists and the positions are printed with trees of their own.
    rcases print_phrase s parts with he | he | he | he | he <;> rw [he] at hu
    · cases hu
    · exact h u hu
    · rcases mem_joined hu with rfl | ⟨e, hm, hu⟩
      · exact hP.comma
      · exact hP.listedOf h e (mem_lifetimesFirst.1 hm) u hu
    · rcases mem_positionTrees hu with rfl | ⟨part, rfl⟩
      · exact hP.dot
      · exact hP.position part
    · exact hP.printOf h u hu

theorem PrintStable.printOf (hP : PrintStable P) : ∀ {parts : List (Node Shape)},
    (∀ t ∈ treesOf parts, P t) → ∀ t ∈ Grammar.printOf parts, P t
  | [], _, u, hu => by simp [Grammar.printOf] at hu
  | n :: rest, h, u, hu => by
    rw [treesOf_cons, List.forall_mem_append] at h
    rw [Grammar.printOf, List.mem_append] at hu
    rcases hu with hu | hu
    · exact hP.print h.1 u hu
    · exact hP.printOf h.2 u hu

theorem PrintStable.listedOf (hP : PrintStable P) : ∀ {parts : List (Node Shape)},
    (∀ t ∈ treesOf parts, P t) → ∀ e ∈ Grammar.listedOf parts, ∀ t ∈ e.trees, P t
  | [], _, e, he => by simp [Grammar.listedOf] at he
  | [n], h, e, he => by
    rw [Grammar.listedOf, List.mem_singleton] at he
    subst he
    exact hP.print (by simpa using h)
  | n :: m :: rest, h, e, he => by
    simp only [treesOf_cons, List.forall_mem_append] at h
    rw [Grammar.listedOf, List.mem_cons] at he
    rcases he with rfl | he
    · exact hP.print h.1
    · exact hP.listedOf h.2.2 e he

end

/-! ## Well-formed leaves -/

theorem wellFormed_comma : commaTree.WellFormed := by
  rw [commaTree, wellFormed_leaf]
  exact (by decide : ',' ∈ punctuation)

/-- A position in decimal digits is well formed. -/
theorem wellFormed_position (cs : List Char) : (Leaf.literal (positionText cs)).WellFormed := by
  obtain ⟨c, rest, hc⟩ := List.exists_cons_of_ne_nil
    (Nat.toDigits_ne_nil (n := (positionValue? cs).getD 0) (b := 10))
  have hd : c.isDigit = true :=
    Nat.isDigit_of_mem_toDigits (by decide) (by decide) (hc ▸ List.mem_cons_self)
  refine .inr ⟨c, rest, ?_, .inr ?_⟩
  · rw [positionText, Nat.toString_eq_ofList_toDigits, String.toList_ofList, hc]
  · simpa [Char.isDigit, Text.isDigit, Char.le_def] using hd

theorem printStable_wellFormed : PrintStable Tree.WellFormed where
  comma := wellFormed_comma
  dot := wellFormed_leaf.2 (by decide : '.' ∈ punctuation)
  position part := wellFormed_leaf.2 (wellFormed_position part)
  group h hbody := by
    rw [wellFormed_group, wellFormed_iff_forall] at h ⊢
    exact hbody h

/-- **Printing a record keeps its leaves well formed.** -/
theorem wellFormed_print {n : Node Shape} (h : WellFormed n.trees) : WellFormed n.print := by
  rw [wellFormed_iff_forall] at h ⊢
  exact printStable_wellFormed.print h

theorem wellFormed_joined {elements : List Listed} (h : ∀ e ∈ elements, WellFormed e.trees) :
    WellFormed (joined elements) := by
  rw [wellFormed_iff_forall]
  intro t ht
  rcases mem_joined ht with rfl | ⟨e, he, ht⟩
  · exact wellFormed_comma
  · exact wellFormed_iff_forall.1 (h e he) t ht

end Accessors.Grammar
