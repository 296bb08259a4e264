import Accessors.Text.Quoted
import Accessors.Token.Tree

/-!
# Writing token trees

* `word`, `operator`, `stringTree`: leaves.
* `parens`, `brackets`, `braces`: groups.
* `rootPath`: a path from the root.
-/

namespace Accessors.Token

open Accessors.Text

/-- A word. -/
def word (name : String) : Tree := .leaf (.ident ⟨name, false⟩)

/-- The characters of an operator, all but the last joint. -/
def operator : List Char → List Tree
  | [] => []
  | [c] => [.leaf (.punct c false)]
  | c :: rest => .leaf (.punct c true) :: operator rest

/-- Trees in parentheses. -/
def parens (body : List Tree) : Tree := .group .parenthesis body

/-- Trees in brackets. -/
def brackets (body : List Tree) : Tree := .group .bracket body

/-- Trees in braces. -/
def braces (body : List Tree) : Tree := .group .brace body

/-- A separator of paths. -/
def pathSeparator : List Tree := operator [':', ':']

/-- A path from the root through the given names. -/
def rootPath : List String → List Tree
  | [] => []
  | name :: rest => pathSeparator ++ word name :: rootPath rest

/-- A string literal. -/
def stringTree (s : String) : Tree :=
  .leaf (.literal (String.ofList (stringLiteral s.toList)))

end Accessors.Token
