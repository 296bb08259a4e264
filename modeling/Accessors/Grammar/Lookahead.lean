import Accessors.Text.Digit
import Accessors.Token.Tree

/-!
# Looking ahead in a forest

Questions about the first trees of a forest, on which a grammar's choices rest. A question about
a later tree is asked of the forest without its first trees.

* `isWord`, `isIdent`, `isAnyIdent`: identifiers, with and without the words of the language.
* `isPunct`: an operator of one or several characters.
* `isLiteral`: a literal, which a minus sign may precede if it is a number.
-/

namespace Accessors.Grammar

open Accessors.Text Accessors.Token

/-- Words that are no identifiers unless they are written raw. -/
def keywords : List String :=
  ["_", "abstract", "as", "async", "await", "become", "box", "break", "const", "continue", "crate",
    "do", "dyn", "else", "enum", "extern", "false", "final", "fn", "for", "if", "impl", "in", "let",
    "loop", "macro", "match", "mod", "move", "mut", "override", "priv", "pub", "ref", "return",
    "Self", "self", "static", "struct", "super", "trait", "true", "try", "type", "typeof", "unsafe",
    "unsized", "use", "virtual", "where", "while", "yield"]

/-- The first tree is a given word, not written raw. -/
def isWord (word : String) : List Tree → Bool
  | .leaf (.ident i) :: _ => !i.raw && i.name == word
  | _ => false

/-- The first tree is one of several words. -/
def isOneOf (words : List String) (ts : List Tree) : Bool := words.any (isWord · ts)

/-- The first tree is an identifier or a word of the language. -/
def isAnyIdent : List Tree → Bool
  | .leaf (.ident _) :: _ => true
  | _ => false

/-- An identifier that can be a name. -/
def Ident.isName (i : Ident) : Bool := i.raw || !keywords.contains i.name

/-- The first tree is an identifier that can be a name. -/
def isIdent : List Tree → Bool
  | .leaf (.ident i) :: _ => Ident.isName i
  | _ => false

/-- The first tree is a lifetime. -/
def isLifetime : List Tree → Bool
  | .leaf (.lifetime _) :: _ => true
  | _ => false

/-- The first trees are the characters of an operator; all but the last are joint. -/
def isPunctChars : List Char → List Tree → Bool
  | [], _ => true
  | [c], .leaf (.punct d _) :: _ => c == d
  | c :: cs, .leaf (.punct d joint) :: ts => c == d && joint && isPunctChars cs ts
  | _, _ => false

/-- The first trees are an operator. -/
def isPunct (operator : String) (ts : List Tree) : Bool := isPunctChars operator.toList ts

/-- The first trees are one of several operators. -/
def isOperatorOf (operators : List String) (ts : List Tree) : Bool := operators.any (isPunct · ts)

/-- The text of a literal that is a number. -/
def isNumber (text : String) : Bool :=
  match text.toList with
  | c :: _ => isDigit c
  | [] => false

/-- The number of trees that the literal in front takes, zero if there is none. The words for
truth values are literals. -/
def literalSize : List Tree → Nat
  | .leaf (.literal _) :: _ => 1
  | .leaf (.punct '-' _) :: .leaf (.literal text) :: _ => if isNumber text then 2 else 0
  | .leaf (.ident i) :: _ => if !i.raw && (i.name == "true" || i.name == "false") then 1 else 0
  | _ => 0

/-- The first trees are a literal. -/
def isLiteral (ts : List Tree) : Bool := 0 < literalSize ts

/-- The first tree is a string literal, raw or not. -/
def isStringLiteral : List Tree → Bool
  | .leaf (.literal text) :: _ =>
    match text.toList with
    | '"' :: _ => true
    | 'r' :: _ => true
    | _ => false
  | _ => false

/-- The first tree is a group between given delimiters. -/
def isGroup (d : Delimiter) : List Tree → Bool
  | .group e _ :: _ => d == e
  | _ => false

/-- The first tree is a group in parentheses. -/
def isParenthesis (ts : List Tree) : Bool := isGroup .parenthesis ts

/-- The first tree is a group in brackets. -/
def isBracket (ts : List Tree) : Bool := isGroup .bracket ts

/-- The first tree is a group in braces. -/
def isBrace (ts : List Tree) : Bool := isGroup .brace ts

/-- The first tree is a group between any delimiters. -/
def isAnyGroup : List Tree → Bool
  | .group _ _ :: _ => true
  | _ => false

/-- The body of the group in front. -/
def groupBody : List Tree → List Tree
  | .group _ body :: _ => body
  | _ => []

/-- A colon that is not half of a path separator. -/
def isColon (ts : List Tree) : Bool := isPunct ":" ts && !isPunct "::" ts

/-- An exclamation mark that is not half of a comparison. -/
def isBang (ts : List Tree) : Bool := isPunct "!" ts && !isPunct "!=" ts

/-- A dot that is not part of a range. -/
def isDot (ts : List Tree) : Bool := isPunct "." ts && !isPunct ".." ts

/-- A bar between alternatives. -/
def isBar (ts : List Tree) : Bool := isPunct "|" ts && !isPunct "||" ts && !isPunct "|=" ts

/-- An equals sign that assigns. -/
def isEquals (ts : List Tree) : Bool := isPunct "=" ts && !isPunct "=>" ts

end Accessors.Grammar
