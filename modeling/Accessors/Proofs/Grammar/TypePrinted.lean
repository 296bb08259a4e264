import Accessors.Proofs.Grammar.Printed
import Accessors.Proofs.Grammar.TypeSettled

/-!
# Types are printed as they are written

What is printed for a type says its own trees, brought into order, whatever stands behind them.

* `tidied_type`: a type with its arguments in order is printed brought into order.
* `inForm`: nothing in a forest is to be brought into order.
* `wordsOf_of_inForm`: such a forest is printed word by word.
-/

namespace Accessors.Grammar

open Accessors.Token

/-! ## Order and spacing -/

mutual

/-- Arguments are in order whatever the spacing is. -/
theorem inOrder_unspaced : ∀ n : Node Shape, n.unspaced.InOrder ↔ n.InOrder
  | .tree t => by simp [Node.unspaced, Node.InOrder]
  | .group d body => by simp [Node.unspaced]
  | .phrase s parts => by
    have hparts := inOrderOf_unspacedOf parts
    rw [Node.unspaced]
    -- Only arguments have an order of their own.
    cases s <;> simp only [Node.InOrder, hparts]
    case arguments =>
      have hsame := congrArg (List.map Prod.fst) (spoken_listedOf_unspacedOf parts)
      simp only [List.map_map, Function.comp_def, Listed.spoken] at hsame
      have hmap (l : List Listed) : l.Pairwise (fun a b => b.lifetime → a.lifetime) ↔
          (l.map (·.lifetime)).Pairwise (fun a b : Bool => b → a) := by rw [List.pairwise_map]
      rw [hmap, hmap, hsame]

theorem inOrderOf_unspacedOf : ∀ parts : List (Node Shape),
    InOrderOf (unspacedOf parts) ↔ InOrderOf parts
  | [] => by simp
  | n :: rest => by simp [inOrder_unspaced n, inOrderOf_unspacedOf rest]

end

/-- **A type is printed brought into order**, if its arguments are. Spacing aside, that is what is
printed for its trees alone. -/
theorem tidied_type {unnamed : Bool} {fuel : Nat} {ts : List Tree} {k : Found Shape Shape}
    (hstops : Stops k.rest) (hk : recogniseWithin rule fuel (.fieldType unnamed) ts = some k)
    (hin : (Node.phrase k.result k.parts).InOrder) :
    ∃ printed, wordsOf printed = wordsOf (Node.phrase k.result k.parts).print ∧
      Tidied true .other (endAlone (treesOf k.parts)) printed := by
  obtain ⟨j, hj, hsettled⟩ := type_alone hstops hk
  have hsame : (Node.phrase j.result j.parts).unspaced = (Node.phrase k.result k.parts).unspaced := by
    rw [Node.unspaced, Node.unspaced, hsettled.result, hsettled.parts]
  refine ⟨(Node.phrase j.result j.parts).print, ?_, ?_⟩
  · rw [← wordsOf_print_unspaced, hsame, wordsOf_print_unspaced]
  · have horder : (Node.phrase j.result j.parts).InOrder := by
      rwa [← inOrder_unspaced, hsame, inOrder_unspaced]
    have hend : Tidied true .other j.rest [] := by
      rw [hsettled.rest]
      exact .nil
    have hprinted := (keeping_recogniseWithin true fuel).called (q := .fieldType unnamed) rfl hj
      (fun _ => horder) (.inr rfl) rfl hend
    rwa [List.append_nil] at hprinted

/-! ## Forests in form -/

/-- If the leaf is a position, it is one in decimal. -/
def Leaf.isPlain : Leaf → Bool
  | .literal text =>
    match positions? [.leaf (.literal text)] with
    | some parts => positionTrees parts == [.leaf (.literal text)]
    | none => true
  | _ => true

/-- The leaf ends with a dot. -/
def Leaf.isDotted : Leaf → Bool
  | .punct c _ => c == '.'
  | .literal text => endsWithDot text
  | _ => false

/-- Nothing in the forest, which stands behind a dot or not, is to be brought into order: no empty angle
brackets stand in front of parentheses, and positions behind dots and in front of colons are in
decimal. -/
def inForm : Bool → List Tree → Bool
  | _, [] => true
  | _, .group _ body :: ts => inForm false body && inForm false ts
  | dotted, .leaf l :: ts =>
    !facesReplacedArguments (.leaf l :: ts) && (Leaf.isPlain l || !(dotted || isPunct ":" ts)) &&
      inForm (Leaf.isDotted l) ts

variable {dotted : Bool} {l : Leaf} {ts us : List Tree}

theorem inForm_leaf : inForm dotted (.leaf l :: ts) = true ↔
    facesReplacedArguments (.leaf l :: ts) = false ∧
    (dotted = true ∨ isPunct ":" ts = true → Leaf.isPlain l = true) ∧
      inForm (Leaf.isDotted l) ts = true := by
  cases hplain : Leaf.isPlain l <;> simp [inForm, hplain, and_assoc]

theorem inForm_group {d : Delimiter} {body : List Tree} :
    inForm dotted (.group d body :: ts) = true ↔ inForm false body = true ∧ inForm false ts = true := by
  simp [inForm]

/-- Trees that are left out in front of a call are in no forest in form. -/
theorem not_inForm_of_hidden {left : List Tree} (hleft : Hidden left) (hcall : isParenthesis ts = true)
    (dotted : Bool) : inForm dotted (left ++ ts) = false := by
  have hangles (dotted i j : Bool) :
      inForm dotted (.leaf (.punct '<' i) :: .leaf (.punct '>' j) :: ts) = false := by
    refine Bool.eq_false_iff.2 fun h => ?_
    have hfaces : facesReplacedArguments (.leaf (.punct '<' i) :: .leaf (.punct '>' j) :: ts) = true := by
      simpa [facesReplacedArguments, isPunct, isPunctChars] using hcall
    exact Bool.false_ne_true ((inForm_leaf.1 h).1.symm.trans hfaces)
  cases hleft with
  | angles i j => exact hangles dotted i j
  | separated joint i j =>
    refine Bool.eq_false_iff.2 fun h => ?_
    obtain ⟨-, -, hcolon⟩ := inForm_leaf.1 h
    obtain ⟨-, -, hrest⟩ := inForm_leaf.1 hcolon
    exact Bool.false_ne_true ((hangles _ i j).symm.trans hrest)

theorem isDotted_of_mark {m : Mark} (h : m.after (.leaf l) = .dot) : Leaf.isDotted l = true := by
  rcases l with ⟨i⟩ | ⟨i⟩ | ⟨text⟩ | ⟨c, joint⟩ <;> simp only [Mark.after, Leaf.isDotted] at h ⊢ <;> grind

/-- A literal that is printed as a position is printed as it is. -/
theorem positionTrees_of_isPlain {text : String} {parts : List (List Char)}
    (h : Leaf.isPlain (.literal text) = true) (hparts : positions? [.leaf (.literal text)] = some parts) :
    positionTrees parts = [.leaf (.literal text)] := by
  simpa [Leaf.isPlain, hparts] using h

/-- **What is in form is brought into order word by word.** -/
theorem wordsOf_of_inForm {m : Mark} (h : Tidied true m ts us) (hm : m = .dot → dotted = true)
    (hts : inForm dotted ts = true) : wordsOf us = wordsOf ts := by
  induction h generalizing dotted with
  | nil => rfl
  | leaf l _ ih => rw [wordsOf_cons, wordsOf_cons, ih isDotted_of_mark (inForm_leaf.1 hts).2.2]
  | comma i j _ _ ih =>
    rw [wordsOf_cons, wordsOf_cons, ih nofun (inForm_leaf.1 hts).2.2]
    rfl
  | group d _ _ ihbody ih =>
    obtain ⟨hbody, hrest⟩ := inForm_group.1 hts
    simp only [wordsOf_cons, Tree.words, ihbody nofun hbody, ih nofun hrest]
  | number hpart hcolon _ ih =>
    obtain ⟨-, hplain, hrest⟩ := inForm_leaf.1 hts
    have hsame := positionTrees_of_isPlain (hplain (.inr hcolon)) hpart
    rw [positionTrees_singleton hpart] at hsame
    rw [List.cons.inj hsame |>.1, wordsOf_cons, wordsOf_cons, ih nofun hrest]
  | numbers hparts _ ih =>
    obtain ⟨-, hplain, hrest⟩ := inForm_leaf.1 hts
    rw [positionTrees_of_isPlain (hplain (.inl (hm rfl))) hparts, List.singleton_append, wordsOf_cons,
      wordsOf_cons, ih isDotted_of_mark hrest]
  | arguments _ _ ho => cases ho
  | hidden hleft hcall _ _ =>
    rw [not_inForm_of_hidden hleft hcall dotted] at hts
    cases hts

end Accessors.Grammar
