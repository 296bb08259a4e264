import Accessors.Proofs.Grammar.Leaves
import Accessors.Proofs.Token.Spacing

/-!
# Spacing in records

Two records that differ in spacing only are printed with the same words.

* `Node.unspaced`: a record without the spacing of its trees, outside of groups.
* `wordsOf_print_unspaced`: the words of a printed record do not depend on it.
* `eq_of_unspaced`: the trees of a record and the record without their spacing determine it.
-/

namespace Accessors.Grammar

open Accessors.Token

variable {σ : Type}

mutual

/-- The record without the spacing of its trees. Inside of groups everything stays. -/
def Node.unspaced : Node σ → Node σ
  | .tree t => .tree t.alone
  | .group d body => .group d body
  | .phrase s parts => .phrase s (unspacedOf parts)

/-- A series of records without the spacing of their trees. -/
def unspacedOf : List (Node σ) → List (Node σ)
  | [] => []
  | n :: rest => n.unspaced :: unspacedOf rest

end

@[simp] theorem unspacedOf_nil : unspacedOf ([] : List (Node σ)) = [] := by simp [unspacedOf]

@[simp] theorem unspacedOf_cons (n : Node σ) (rest : List (Node σ)) :
    unspacedOf (n :: rest) = n.unspaced :: unspacedOf rest := by simp [unspacedOf]

@[simp] theorem unspacedOf_append (a b : List (Node σ)) :
    unspacedOf (a ++ b) = unspacedOf a ++ unspacedOf b := by
  induction a with
  | nil => simp
  | cons n rest ih => simp [ih]

mutual

/-- The trees of a record are those of the record without spacing, but for their spacing. -/
theorem alone_trees_unspaced : ∀ n : Node σ,
    n.unspaced.trees.map Tree.alone = n.trees.map Tree.alone
  | .tree t => by simp [Node.unspaced]
  | .group d body => by simp [Node.unspaced]
  | .phrase s parts => by simpa [Node.unspaced] using alone_treesOf_unspacedOf parts

theorem alone_treesOf_unspacedOf : ∀ parts : List (Node σ),
    (treesOf (unspacedOf parts)).map Tree.alone = (treesOf parts).map Tree.alone
  | [] => by simp
  | n :: rest => by simp [alone_trees_unspaced n, alone_treesOf_unspacedOf rest]

end

/-- Records that differ in spacing only have as many trees. -/
theorem length_treesOf_of_unspaced {a b : List (Node σ)} (h : unspacedOf a = unspacedOf b) :
    (treesOf a).length = (treesOf b).length := by
  rw [← List.length_map (f := Tree.alone), ← alone_treesOf_unspacedOf, h, alone_treesOf_unspacedOf,
    List.length_map]

mutual

/-- Records of the same trees that differ in spacing only are the same. -/
theorem eq_of_unspaced : ∀ {m n : Node σ}, m.unspaced = n.unspaced → m.trees = n.trees → m = n
  | .tree t, .tree u, _, h => by simpa [Node.trees] using h
  | .group d body, .group e other, h, _ => by simpa [Node.unspaced] using h
  | .phrase s parts, .phrase s' parts', h, htrees => by
    simp only [Node.unspaced, Node.phrase.injEq] at h
    rw [h.1, eqOf_of_unspaced h.2 (by simpa using htrees)]
  | .tree _, .group _ _, h, _ | .tree _, .phrase _ _, h, _ => by simp [Node.unspaced] at h
  | .group _ _, .tree _, h, _ | .group _ _, .phrase _ _, h, _ => by simp [Node.unspaced] at h
  | .phrase _ _, .tree _, h, _ | .phrase _ _, .group _ _, h, _ => by simp [Node.unspaced] at h

theorem eqOf_of_unspaced : ∀ {a b : List (Node σ)}, unspacedOf a = unspacedOf b →
    treesOf a = treesOf b → a = b
  | [], [], _, _ => rfl
  | m :: a, n :: b, h, htrees => by
    simp only [unspacedOf_cons, List.cons.injEq] at h
    simp only [treesOf] at htrees
    have hlen := length_treesOf_of_unspaced h.2
    obtain ⟨hfirst, hrest⟩ := List.append_inj' htrees hlen
    rw [eq_of_unspaced h.1 hfirst, eqOf_of_unspaced h.2 hrest]
  | [], _ :: _, h, _ | _ :: _, [], h, _ => by simp at h

end

theorem wordsOf_map_alone (ts : List Tree) : wordsOf (ts.map Tree.alone) = wordsOf ts := by
  induction ts with
  | nil => rfl
  | cons t rest ih => simp [ih]

theorem wordsOf_treesOf_unspacedOf (parts : List (Node σ)) :
    wordsOf (treesOf (unspacedOf parts)) = wordsOf (treesOf parts) := by
  rw [← wordsOf_map_alone, alone_treesOf_unspacedOf, wordsOf_map_alone]

/-- Positions are in a literal, which has no spacing. -/
theorem positions_map_alone (ts : List Tree) : positions? (ts.map Tree.alone) = positions? ts := by
  cases ts with
  | nil => rfl
  | cons t rest =>
    cases t with
    | group d body => rfl
    | leaf l => cases l <;> rfl

theorem positions_treesOf_unspacedOf (parts : List (Node σ)) :
    positions? (treesOf (unspacedOf parts)) = positions? (treesOf parts) := by
  rw [← positions_map_alone, alone_treesOf_unspacedOf, positions_map_alone]

theorem isLifetime_unspaced (n : Node Shape) : n.unspaced.isLifetime = n.isLifetime := by
  cases n with
  | tree t => rfl
  | group d body => rfl
  | phrase s parts => cases s <;> rfl

mutual

/-- **A record is printed with the same words without its spacing.** -/
theorem wordsOf_print_unspaced : ∀ n : Node Shape, wordsOf n.unspaced.print = wordsOf n.print
  | .tree t => by simp [Node.unspaced, Node.print]
  | .group d body => by simp [Node.unspaced]
  | .phrase s parts => by
    have hprinted := wordsOf_printOf_unspacedOf parts
    rw [Node.unspaced]
    -- Lists, positions and verbatim trees have forms of their own.
    cases s <;> simp only [Node.print, hprinted]
    case arguments =>
      exact wordsOf_joined (spoken_lifetimesFirst (spoken_listedOf_unspacedOf parts))
    case verbatim => exact wordsOf_treesOf_unspacedOf parts
    case position => rw [positions_treesOf_unspacedOf]

theorem wordsOf_printOf_unspacedOf : ∀ parts : List (Node Shape),
    wordsOf (printOf (unspacedOf parts)) = wordsOf (printOf parts)
  | [] => by simp
  | n :: rest => by
    simp [printOf, wordsOf_print_unspaced n, wordsOf_printOf_unspacedOf rest]

theorem spoken_listedOf_unspacedOf : ∀ parts : List (Node Shape),
    (listedOf (unspacedOf parts)).map Listed.spoken = (listedOf parts).map Listed.spoken
  | [] => by simp
  | [n] => by
    simp [listedOf, Listed.spoken, isLifetime_unspaced, wordsOf_print_unspaced n]
  | n :: m :: rest => by
    simp [listedOf, Listed.spoken, isLifetime_unspaced, wordsOf_print_unspaced n,
      spoken_listedOf_unspacedOf rest]

end

end Accessors.Grammar
