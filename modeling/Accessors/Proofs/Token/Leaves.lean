import Accessors.Token.Tree

/-!
# The leaves of a forest

Delimiters come and go in pairs, leaves stay: a forest has the leaves of the lexemes it was built
from, in order, however they are nested.

* `leavesOf`: the leaves of a forest, from left to right.
* `leavesOf_ofLexemes`: they are the leaves among the lexemes.
-/

namespace Accessors.Token

mutual

/-- The leaves of a tree, from left to right. -/
def Tree.leaves : Tree → List Leaf
  | .leaf l => [l]
  | .group _ body => leavesOf body

/-- The leaves of a forest, from left to right. -/
def leavesOf : List Tree → List Leaf
  | [] => []
  | t :: rest => t.leaves ++ leavesOf rest

end

@[simp] theorem leaves_leaf (l : Leaf) : (Tree.leaf l).leaves = [l] := by simp [Tree.leaves]

@[simp] theorem leaves_group (d : Delimiter) (body : List Tree) :
    (Tree.group d body).leaves = leavesOf body := by simp [Tree.leaves]

@[simp] theorem leavesOf_nil : leavesOf [] = [] := by simp [leavesOf]

@[simp] theorem leavesOf_cons (t : Tree) (rest : List Tree) :
    leavesOf (t :: rest) = t.leaves ++ leavesOf rest := by simp [leavesOf]

@[simp] theorem leavesOf_append (a b : List Tree) :
    leavesOf (a ++ b) = leavesOf a ++ leavesOf b := by
  induction a with
  | nil => rfl
  | cons t rest ih => simp [ih]

theorem mem_leavesOf {l : Leaf} {ts : List Tree} : l ∈ leavesOf ts ↔ ∃ t ∈ ts, l ∈ t.leaves := by
  induction ts with
  | nil => simp
  | cons t rest ih => simp [ih]

/-! ## Building -/

/-- The leaf that a lexeme is, if it is one. -/
def Lexeme.leaf? : Lexeme → Option Leaf
  | .leaf l => some l
  | .opening _ => none
  | .closing _ => none

/-- The leaves in front of the group that is being built. -/
def leavesBefore : List Frame → List Leaf
  | [] => []
  | f :: frames => leavesBefore frames ++ leavesOf f.before.reverse

theorem leavesOf_build {lexemes : List Lexeme} :
    ∀ {trees : List Tree} {frames : List Frame} {ts : List Tree},
      build trees frames lexemes = some ts →
      leavesOf ts =
        leavesBefore frames ++ leavesOf trees.reverse ++ lexemes.filterMap Lexeme.leaf? := by
  induction lexemes with
  | nil =>
    intro trees frames ts h
    cases frames with
    | nil => simp only [build, Option.some.injEq] at h; subst h; simp [leavesBefore]
    | cons f frames => simp [build] at h
  | cons x rest ih =>
    intro trees frames ts h
    cases x with
    | leaf l =>
      rw [ih (by simpa [build] using h)]
      simp [Lexeme.leaf?]
    | opening d =>
      rw [ih (by simpa [build] using h)]
      simp [leavesBefore, List.filterMap_cons, Lexeme.leaf?]
    | closing d =>
      cases frames with
      | nil => simp [build] at h
      | cons f frames =>
        simp only [build] at h
        split at h
        · rw [ih h]
          simp [leavesBefore, List.filterMap_cons, Lexeme.leaf?]
        · cases h

/-- **A forest has the leaves of its lexemes**, in order. -/
theorem leavesOf_ofLexemes {lexemes : List Lexeme} {ts : List Tree}
    (h : Tree.ofLexemes lexemes = some ts) : leavesOf ts = lexemes.filterMap Lexeme.leaf? := by
  rw [leavesOf_build h]
  simp [leavesBefore]

end Accessors.Token
