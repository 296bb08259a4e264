import Accessors.Declaration.Basic
import Accessors.Grammar.Rules
import Accessors.Token.Lexeme

/-!
# Reading a declaration

The record of a declaration has one part for each thing that the declaration says.

* `Declaration.ofNode?`: what a record says.
* `Declaration.ofText?`: the declaration that a text is, if it is exactly one.
-/

namespace Accessors.Declaration

open Accessors.Token
open Accessors.Grammar

/-! ## Attributes -/

/-- The attribute that the inside of its brackets says. -/
def Attribute.ofTrees (ts : List Tree) : Attribute :=
  let size := if isWord "unsafe" ts then 1 else modulePathSize ts
  let input := match ts.drop size with
    | [] => AttributeInput.nothing
    | .group d body :: _ => .group d body
    | _ :: value => .value value
  ⟨ts.take size, input⟩

/-- The attributes in a series of records. -/
def attributesOf : List (Node Shape) → List Attribute
  | [] => []
  | .group .bracket body :: rest => Attribute.ofTrees body.trees :: attributesOf rest
  | _ :: rest => attributesOf rest

/-- The attributes of a record. -/
def attributesOfNode : Node Shape → List Attribute
  | .phrase _ parts => attributesOf parts
  | _ => []

/-! ## Lists -/

/-- The records of a list that alternate with commas, each with whether a comma follows it. -/
def commaListed : List (Node Shape) → List (Node Shape × Bool)
  | [] => []
  | [n] => [(n, false)]
  | n :: _ :: rest => (n, true) :: commaListed rest

/-! ## Fields -/

/-- The field that a record says. -/
def Field.ofNode? : Node Shape → Option Field
  | .phrase _ [attributes, _, .tree (.leaf (.ident name)), _, type] =>
    some ⟨attributesOfNode attributes, name, type⟩
  | _ => none

/-! ## Parameters -/

/-- The bounds behind a parameter's name, if the parts say any. -/
def boundsOf : List (Node Shape) → List Tree
  | .tree (.leaf (.punct ':' _)) :: bounds :: _ => bounds.print
  | _ => []

/-- The parameter that a record says. -/
def Parameter.ofNode? : Node Shape × Bool → Option Parameter
  | (.phrase _ (attributes :: .tree (.leaf (.lifetime name)) :: rest), comma) =>
    some ⟨.lifetime, attributes.print, name, boundsOf rest, comma⟩
  | (.phrase _ (attributes :: .tree (.leaf (.ident i)) :: rest), comma) =>
    match i, rest with
    | ⟨"const", false⟩, .tree (.leaf (.ident name)) :: _ :: type :: _ =>
      some ⟨.constant type.print, attributes.print, name, [], comma⟩
    | name, rest => some ⟨.type, attributes.print, name, boundsOf rest, comma⟩
  | _ => none

/-- The parameters between angle brackets. -/
def parametersOf? : Node Shape → Option (List Parameter)
  | .phrase _ [] => some []
  | .phrase _ (_ :: parts) => (commaListed parts.dropLast).mapM Parameter.ofNode?
  | _ => none

/-! ## Conditions and bodies -/

/-- The conditions of a record. A word without conditions says nothing. -/
def conditionsOf : Node Shape → List Tree
  | .phrase _ [] => []
  | .phrase _ [_] => []
  | n => n.print

/-- The conditions and the body of a structure. -/
def recordOf? : Node Shape → Option (List Tree × Body)
  | .phrase _ [conditions, .group .brace (.phrase _ fields)] =>
    ((commaListed fields).mapM fun f => Field.ofNode? f.1).map fun fields =>
      (conditionsOf conditions, .named fields)
  | .phrase _ [_, .group .parenthesis _, conditions, _] => some (conditionsOf conditions, .tuple)
  | .phrase _ [conditions, _] => some (conditionsOf conditions, .unit)
  | _ => none

/-- What the record of a declaration says. -/
def ofNode? : Node Shape → Option Declaration
  | .phrase _ [_, _, .tree (.leaf (.ident kind)), .tree (.leaf (.ident name)), parameters, body] =>
    match parametersOf? parameters with
    | none => none
    | some parameters =>
      match kind.name with
      | "struct" => (recordOf? body).map fun r => ⟨name, parameters, r.1, r.2⟩
      | "enum" => some ⟨name, parameters, [], .cases⟩
      | _ => some ⟨name, parameters, [], .union⟩
  | _ => none

/-- The declaration that a forest is. -/
def ofTrees? (ts : List Tree) : Option Declaration :=
  match recognisePhrase .declaration ts with
  | some (n, []) => ofNode? n
  | _ => none

/-- The declaration that a text is. -/
def ofText? (text : String) : Option Declaration :=
  (Tree.ofText text.toList).bind ofTrees?

end Accessors.Declaration
