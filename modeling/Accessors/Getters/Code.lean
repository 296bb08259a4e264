import Accessors.Declaration.Header
import Accessors.Getters.Plan

/-!
# The code of the getters

The code is two implementations: one holds the getters as methods, the other lists their accessors
as a constant.

* `methods`, `metas`: the methods, and the accessors of the constant.
* `code`: both implementations.
-/

namespace Accessors.Getters

open Accessors.Token
open Accessors.Declaration

/-! ## Members -/

/-- The method of a getter: a truth value is given away, anything else is lent. -/
def Getter.trees (g : Getter) : List Tree :=
  let head := [word "pub", word "fn", word g.method, parens (operator ['&'] ++ [word "self"])] ++
    operator ['-', '>']
  let read := word "self" :: operator ['.'] ++ [.leaf (.ident g.field)]
  if g.truthValue then head ++ [word "bool", braces read]
  else head ++ operator ['&'] ++ g.type ++ [braces (operator ['&'] ++ read)]

/-- The methods of the getters. -/
def methods (getters : List Getter) : List Tree := getters.flatMap Getter.trees

/-- An accessor as the constant lists it. -/
def accessorTrees (a : Property.Accessor) : List Tree :=
  rootPath ["propref", "MethodMeta", "new"] ++
    [parens (stringTree a.owner :: operator [','] ++ [stringTree a.method])]

/-- The accessors of the constant, separated by commas. -/
def metas : List Property.Accessor → List Tree
  | [] => []
  | [a] => accessorTrees a
  | a :: rest => accessorTrees a ++ operator [','] ++ metas rest

/-! ## Implementations -/

/-- The constant that lists the accessors. -/
def constant (accessors : List Property.Accessor) : List Tree :=
  [word "const", word "ACCESSORS"] ++ operator [':', '&'] ++
    [.leaf (.lifetime ⟨"static", false⟩), brackets (rootPath ["propref", "MethodMeta"])] ++
    operator ['=', '&'] ++ [brackets (metas accessors)] ++ operator [';']

/-- The implementation that holds the methods. -/
def inherentImpl (d : Declaration) (getters : List Getter) : List Tree :=
  operator ['#'] ++
    [brackets [word "allow",
      parens (word "non_snake_case" :: operator [','] ++ [word "dead_code"])], word "impl"] ++
    d.implHeader ++ [.leaf (.ident d.name)] ++ d.typeHeader ++ d.conditions ++
    [braces (methods getters)]

/-- The implementation that lists the accessors. -/
def listingImpl (d : Declaration) (accessors : List Property.Accessor) : List Tree :=
  [word "impl"] ++ d.implHeader ++ rootPath ["propref", "Getters"] ++ [word "for"] ++
    [.leaf (.ident d.name)] ++ d.typeHeader ++ d.conditions ++ [braces (constant accessors)]

/-- The code of the getters of a declaration. -/
def code (d : Declaration) (getters : List Getter) : List Tree :=
  inherentImpl d getters ++ listingImpl d (accessorsOf d getters)

end Accessors.Getters
