import Accessors.Proofs.Token.WellFormed
import Accessors.Token.Writing

/-!
# Reading written forests back

A forest is written as a flat list of words. Delimiters are words of their own. No leaf of a text
is written as one, so matching them gives back how the words are nested.

* `Piece`: what is left of a tree when it is written, a word or a group.
* `Piece.ofWords`: the pieces of a list of words, if its delimiters match.
* `Legible`: forests without leaves that are written as delimiters; those of a text are.
* `ofWords_wordsOf`: the words of a legible forest have the pieces of its trees.
-/

namespace Accessors.Token

open Accessors.Text

/-- A word, or what stands between matching delimiters. -/
inductive Piece where
  | word (text : String)
  | group (d : Delimiter) (body : List Piece)
  deriving Repr

mutual

/-- What is left of a tree when it is written. -/
def Tree.piece : Tree → Piece
  | .leaf l => .word l.text
  | .group d body => .group d (piecesOf body)

/-- What is left of a forest when it is written. -/
def piecesOf : List Tree → List Piece
  | [] => []
  | t :: rest => t.piece :: piecesOf rest

end

@[simp] theorem piece_leaf (l : Leaf) : (Tree.leaf l).piece = .word l.text := by simp [Tree.piece]

@[simp] theorem piece_group (d : Delimiter) (body : List Tree) :
    (Tree.group d body).piece = .group d (piecesOf body) := by simp [Tree.piece]

@[simp] theorem piecesOf_nil : piecesOf [] = [] := by simp [piecesOf]

@[simp] theorem piecesOf_cons (t : Tree) (rest : List Tree) :
    piecesOf (t :: rest) = t.piece :: piecesOf rest := by simp [piecesOf]

theorem piecesOf_eq_map (ts : List Tree) : piecesOf ts = ts.map Tree.piece := by
  induction ts with
  | nil => simp
  | cons t rest ih => simp [ih]

@[simp] theorem piecesOf_append (a b : List Tree) :
    piecesOf (a ++ b) = piecesOf a ++ piecesOf b := by
  simp [piecesOf_eq_map]

@[simp] theorem piece_word (name : String) : (word name).piece = .word name := by
  simp [word, Leaf.text, Ident.text]

theorem piecesOf_operator (cs : List Char) :
    piecesOf (operator cs) = cs.map fun c => .word (String.singleton c) := by
  fun_induction operator cs with
  | case1 => simp
  | case2 c => simp [Leaf.text]
  | case3 c rest hne ih => simp [Leaf.text, ih]

/-! ## Matching delimiters -/

/-- The delimiter that a word is, and whether it opens. -/
def bracket? (text : String) : Option (Delimiter × Bool) :=
  match text.toList with
  | [c] => delimiter? c
  | _ => none

/-- Matches delimiters, with the pieces found so far, last first, and the groups that are open,
innermost first: their delimiters and the pieces before them. -/
def Piece.nest : List Piece → List (Delimiter × List Piece) → List String → Option (List Piece)
  | found, [], [] => some found.reverse
  | _, _ :: _, [] => none
  | found, outer, text :: rest =>
    match bracket? text with
    | none => nest (.word text :: found) outer rest
    | some (d, true) => nest [] ((d, found) :: outer) rest
    | some (d, false) =>
      match outer with
      | [] => none
      | (e, before) :: outer =>
        if e = d then nest (.group d found.reverse :: before) outer rest else none

/-- The pieces that words are, if their delimiters match. -/
def Piece.ofWords (words : List String) : Option (List Piece) := nest [] [] words

/-- The characters of delimiters are no punctuation, and neither names nor literals begin with
them. -/
theorem delimiter_eq_none {c : Char}
    (h : isIdentifierStart c = true ∨ BeginsLiteral c ∨ c ∈ punctuation) : delimiter? c = none := by
  by_contra hne
  have hc : c ∈ ['(', ')', '[', ']', '\x7b', '\x7d'] := by
    by_contra hc
    simp only [List.mem_cons, List.not_mem_nil, or_false, not_or] at hc
    exact hne (by simp [delimiter?, hc])
  have hall : ['(', ')', '[', ']', '\x7b', '\x7d'].all (fun c => !(isIdentifierStart c ||
      ['"', '\'', 'b', 'c', 'r'].contains c || isDigit c || punctuation.contains c)) = true := by
    decide +kernel
  have hnot := List.all_eq_true.1 hall c hc
  rcases h with h | (h | h) | h
  · simp [h] at hnot
  · rw [List.contains_iff_mem.2 h] at hnot; simp at hnot
  · simp [h] at hnot
  · rw [List.contains_iff_mem.2 h] at hnot; simp at hnot

/-- **No leaf of a source text is written as a delimiter.** -/
theorem bracket_text {l : Leaf} (h : l.WellFormed) : bracket? l.text = none := by
  unfold bracket?
  split
  · next c hc =>
    refine delimiter_eq_none ?_
    cases l with
    | ident i =>
      obtain ⟨d, rest, hname, hd, -⟩ := h
      cases hraw : i.raw with
      | true => simp [Leaf.text, Ident.text, hraw] at hc
      | false =>
        simp only [Leaf.text, Ident.text, hraw, Bool.false_eq_true, if_false, hname,
          List.cons.injEq] at hc
        exact .inl (hc.1 ▸ hd)
    | lifetime i =>
      obtain ⟨d, rest, hname, -, -⟩ := h
      cases hraw : i.raw <;> simp [Leaf.text, Ident.text, hraw, hname] at hc
    | literal text =>
      rcases h with h | ⟨d, rest, htext, hd⟩
      · have hlen : errorMarker.length = 1 := by rw [← h]; exact congrArg List.length hc
        exact absurd hlen (by decide)
      · simp only [Leaf.text, htext, List.cons.injEq] at hc
        exact .inr (.inl (hc.1 ▸ hd))
    | punct d joint =>
      simp only [Leaf.text, String.toList_singleton, List.cons.injEq, and_true] at hc
      exact .inr (.inr (hc ▸ h))
  · rfl

/-- A word of several characters is no delimiter. -/
theorem bracket_eq_none {text : String} {c d : Char} {rest : List Char}
    (h : text.toList = c :: d :: rest) : bracket? text = none := by
  rw [bracket?, h]

/-! ## Legible forests -/

/-- No leaf of the tree is written as a delimiter. -/
def Tree.Legible (t : Tree) : Prop := ∀ l ∈ t.leaves, bracket? l.text = none

/-- No leaf of the forest is written as a delimiter. -/
def Legible (ts : List Tree) : Prop := ∀ l ∈ leavesOf ts, bracket? l.text = none

@[simp] theorem legible_leaf {l : Leaf} : (Tree.leaf l).Legible ↔ bracket? l.text = none := by
  simp [Tree.Legible]

@[simp] theorem legible_group {d : Delimiter} {body : List Tree} :
    (Tree.group d body).Legible ↔ Legible body := by
  simp [Tree.Legible, Legible]

@[simp] theorem legible_nil : Legible [] := by simp [Legible]

@[simp] theorem legible_cons {t : Tree} {rest : List Tree} :
    Legible (t :: rest) ↔ t.Legible ∧ Legible rest := by
  simp [Legible, Tree.Legible, or_imp, forall_and]

@[simp] theorem legible_append {a b : List Tree} :
    Legible (a ++ b) ↔ Legible a ∧ Legible b := by
  simp [Legible, or_imp, forall_and]

@[simp] theorem legible_word {name : String} : (word name).Legible ↔ bracket? name = none := by
  simp [word, Leaf.text, Ident.text]

/-- A forest cut out of a text is legible. -/
theorem WellFormed.legible {ts : List Tree} (h : WellFormed ts) : Legible ts :=
  fun l hl => bracket_text (h l hl)

/-! ## Reading back -/

theorem bracket_opening (d : Delimiter) : bracket? d.opening = some (d, true) := by
  cases d <;> rfl

theorem bracket_closing (d : Delimiter) : bracket? d.closing = some (d, false) := by
  cases d <;> rfl

mutual

/-- The words of a tree, in front of other words, are matched first. -/
theorem nest_words (t : Tree) (ht : t.Legible) (found : List Piece)
    (outer : List (Delimiter × List Piece)) (rest : List String) :
    Piece.nest found outer (t.words ++ rest) = Piece.nest (t.piece :: found) outer rest := by
  cases t with
  | leaf l =>
    rw [legible_leaf] at ht
    simp [Tree.words, Piece.nest, ht]
  | group d body =>
    rw [legible_group] at ht
    -- The inside is matched with the group open, up to the word that closes it.
    have hbody := nest_wordsOf body ht [] ((d, found) :: outer) (d.closing :: rest)
    simp only [Tree.words, List.cons_append, List.append_assoc, List.nil_append, Piece.nest,
      bracket_opening]
    rw [hbody, List.append_nil]
    simp [Piece.nest, bracket_closing]

/-- The words of a forest, in front of other words, are matched first. -/
theorem nest_wordsOf (ts : List Tree) (hts : Legible ts) (found : List Piece)
    (outer : List (Delimiter × List Piece)) (rest : List String) :
    Piece.nest found outer (wordsOf ts ++ rest) =
      Piece.nest ((piecesOf ts).reverse ++ found) outer rest := by
  cases ts with
  | nil => simp [wordsOf]
  | cons t ts =>
    rw [legible_cons] at hts
    rw [wordsOf, List.append_assoc, nest_words t hts.1, nest_wordsOf ts hts.2]
    simp

end

/-- **Matching delimiters undoes writing**, for every forest without leaves that are written as
delimiters. -/
theorem ofWords_wordsOf {ts : List Tree} (h : Legible ts) :
    Piece.ofWords (wordsOf ts) = some (piecesOf ts) := by
  have := nest_wordsOf ts h [] [] []
  rw [List.append_nil] at this
  rw [Piece.ofWords, this]
  simp [Piece.nest]

end Accessors.Token
