import Accessors.Grammar.Expression
import Accessors.Token.Listed

/-!
# Printing a record

A record is printed as it was written, with a few forms brought into order: lifetimes go first
among arguments, separators that nothing needs are left out, and positions are written in decimal.

* `Node.print`: the trees of a record in that form.
-/

namespace Accessors.Grammar

open Accessors.Token

/-- The record is a lifetime among arguments. -/
def Node.isLifetime : Node Shape → Bool
  | .phrase .lifetime _ => true
  | _ => false

/-- A position in decimal. -/
def positionText (cs : List Char) : String := toString ((positionValue? cs).getD 0)

/-- Positions with dots between and perhaps behind them. -/
def positionTrees : List (List Char) → List Tree
  | [] => []
  | [part] => if part.isEmpty then [] else [.leaf (.literal (positionText part))]
  | part :: rest =>
    .leaf (.literal (positionText part)) :: .leaf (.punct '.' false) :: positionTrees rest

mutual

/-- The trees of a record in printed form. -/
def Node.print : Node Shape → List Tree
  | .tree t => [t]
  | .group d body => [.group d body.print]
  | .phrase .silent _ => []
  | .phrase .verbatim parts => treesOf parts
  | .phrase .arguments parts => joined (lifetimesFirst (listedOf parts))
  | .phrase .position parts => positionTrees ((positions? (treesOf parts)).getD [])
  | .phrase _ parts => printOf parts

/-- The trees of a series of records in printed form. -/
def printOf : List (Node Shape) → List Tree
  | [] => []
  | n :: rest => n.print ++ printOf rest

/-- The elements of a list whose records alternate with commas. -/
def listedOf : List (Node Shape) → List Listed
  | [] => []
  | [n] => [⟨n.isLifetime, n.print, false⟩]
  | n :: _ :: rest => ⟨n.isLifetime, n.print, true⟩ :: listedOf rest

end

end Accessors.Grammar
