import Accessors.Token.Tree

/-!
# Lists with lifetimes first

Where lifetimes and other things share a list, the language wants the lifetimes first. Whatever
order such a list was written in, it is put down with its lifetimes in front, each element keeping
its comma, and a comma between any two elements.

* `lifetimesFirst`: the order.
* `joined`: the trees of a list.
-/

namespace Accessors.Token

/-- An element of a list: whether it is a lifetime, its trees, and whether a comma followed it. -/
structure Listed where
  lifetime : Bool
  trees : List Tree
  comma : Bool
  deriving Repr

/-- A comma. -/
def commaTree : Tree := .leaf (.punct ',' false)

/-- The elements, lifetimes in front, otherwise in order. -/
def lifetimesFirst (elements : List Listed) : List Listed :=
  elements.filter (·.lifetime) ++ elements.filter (!·.lifetime)

/-- The trees of a list: a comma behind each element that another one follows, and behind the last
if it had one. -/
def joined : List Listed → List Tree
  | [] => []
  | [e] => e.trees ++ if e.comma then [commaTree] else []
  | e :: rest => e.trees ++ commaTree :: joined rest

end Accessors.Token
