import Accessors.Token.Listed
import Accessors.Token.Tree

/-!
# Spacing

A punctuation character is joint when another one follows at once. For the last tree of a forest
this depends on what stands behind the forest, which need not be part of it.

* `endAlone`: a forest as it is when no punctuation follows at once.
* `wordsOf_endAlone`: the words do not tell the difference.
* `wordsOf_joined`: the words of a list are those of its elements, with commas.
-/

namespace Accessors.Token

/-- A tree as it is when no punctuation follows at once. -/
def Tree.alone : Tree → Tree
  | .leaf (.punct c _) => .leaf (.punct c false)
  | t => t

@[simp] theorem Tree.alone_alone (t : Tree) : t.alone.alone = t.alone := by
  cases t with
  | leaf l => cases l <;> rfl
  | group d body => rfl

@[simp] theorem Tree.words_alone (t : Tree) : t.alone.words = t.words := by
  cases t with
  | leaf l => cases l <;> simp [Tree.alone, Tree.words, Leaf.text]
  | group d body => rfl

/-- A forest as it is when no punctuation follows at once. -/
def endAlone : List Tree → List Tree
  | [] => []
  | [t] => [t.alone]
  | t :: u :: rest => t :: endAlone (u :: rest)

@[simp] theorem endAlone_nil : endAlone [] = [] := rfl

@[simp] theorem endAlone_singleton (t : Tree) : endAlone [t] = [t.alone] := rfl

@[simp] theorem endAlone_cons_cons (t u : Tree) (rest : List Tree) :
    endAlone (t :: u :: rest) = t :: endAlone (u :: rest) := rfl

/-- Only the spacing of the first tree can change, and only if it is the last one. -/
theorem endAlone_cons (t : Tree) (rest : List Tree) :
    ∃ u, endAlone (t :: rest) = u :: endAlone rest ∧ u.alone = t.alone := by
  cases rest with
  | nil => exact ⟨t.alone, rfl, t.alone_alone⟩
  | cons v rest => exact ⟨t, rfl, rfl⟩

theorem endAlone_group (d : Delimiter) (body rest : List Tree) :
    endAlone (.group d body :: rest) = .group d body :: endAlone rest := by
  cases rest <;> rfl

@[simp] theorem tail_endAlone (ts : List Tree) : (endAlone ts).tail = endAlone ts.tail := by
  cases ts with
  | nil => rfl
  | cons t rest =>
    obtain ⟨u, hu, -⟩ := endAlone_cons t rest
    rw [hu, List.tail_cons, List.tail_cons]

@[simp] theorem drop_endAlone (n : Nat) (ts : List Tree) :
    (endAlone ts).drop n = endAlone (ts.drop n) := by
  induction n generalizing ts with
  | zero => rfl
  | succ n ih => rw [← List.drop_tail, tail_endAlone, ih, List.drop_tail]

@[simp] theorem length_endAlone (ts : List Tree) : (endAlone ts).length = ts.length := by
  induction ts with
  | nil => rfl
  | cons t rest ih =>
    obtain ⟨u, hu, -⟩ := endAlone_cons t rest
    rw [hu, List.length_cons, List.length_cons, ih]

@[simp] theorem wordsOf_endAlone (ts : List Tree) : wordsOf (endAlone ts) = wordsOf ts := by
  induction ts with
  | nil => rfl
  | cons t rest ih =>
    obtain ⟨u, hu, halone⟩ := endAlone_cons t rest
    have hwords : u.words = t.words := by rw [← u.words_alone, halone, t.words_alone]
    rw [hu, wordsOf, wordsOf, hwords, ih]

/-! ## Words -/

@[simp] theorem wordsOf_nil : wordsOf [] = [] := rfl

@[simp] theorem wordsOf_cons (t : Tree) (rest : List Tree) :
    wordsOf (t :: rest) = t.words ++ wordsOf rest := rfl

@[simp] theorem wordsOf_append (a b : List Tree) : wordsOf (a ++ b) = wordsOf a ++ wordsOf b := by
  induction a with
  | nil => rfl
  | cons t rest ih => simp [ih]

/-- What an element of a list says, by its words. -/
def Listed.spoken (e : Listed) : Bool × List String × Bool := (e.lifetime, wordsOf e.trees, e.comma)

/-- The words of a list are determined by what its elements say. -/
theorem wordsOf_joined {l l' : List Listed} (h : l.map Listed.spoken = l'.map Listed.spoken) :
    wordsOf (joined l) = wordsOf (joined l') := by
  induction l generalizing l' with
  | nil =>
    rw [List.map_nil, eq_comm, List.map_eq_nil_iff] at h
    rw [h]
  | cons e rest ih =>
    cases l' with
    | nil => cases h
    | cons e' rest' =>
      simp only [List.map_cons, List.cons.injEq, Listed.spoken, Prod.mk.injEq] at h
      obtain ⟨⟨-, hwords, hcomma⟩, hrest⟩ := h
      have hlater := ih hrest
      cases rest with
      | nil =>
        obtain rfl : rest' = [] := List.map_eq_nil_iff.1 hrest.symm
        simp [joined, hwords, hcomma]
      | cons f rest =>
        cases rest' with
        | nil => cases hrest
        | cons f' rest' => simp only [joined, wordsOf_append, wordsOf_cons, hwords, hlater]

/-- Lifetimes go first whatever their words are. -/
theorem spoken_lifetimesFirst {l l' : List Listed}
    (h : l.map Listed.spoken = l'.map Listed.spoken) :
    (lifetimesFirst l).map Listed.spoken = (lifetimesFirst l').map Listed.spoken := by
  have hfirst (l : List Listed) : (lifetimesFirst l).map Listed.spoken =
      (l.map Listed.spoken).filter (·.1) ++ (l.map Listed.spoken).filter (!·.1) := by
    simp [lifetimesFirst, List.filter_map, Function.comp_def, Listed.spoken]
  rw [hfirst, hfirst, h]

end Accessors.Token
