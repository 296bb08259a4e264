import Accessors.Text.Digit
import Accessors.Text.Printable

/-!
# Quoted text

A text between double quotes for a reader's eye: the quote, the backslash and the four common
controls have an escape of two characters, any other character that does not show as itself is
written by its code point in braces.

* `quoted`: the quoted form of a text.
* `stringLiteral`: the same for source code, where digits may follow an escape.
-/

namespace Accessors.Text

/-- A character as it stands inside quotes. -/
def quotedChar (c : Char) : List Char :=
  match c with
  | '\x00' => ['\\', '0']
  | '\t' => ['\\', 't']
  | '\n' => ['\\', 'n']
  | '\r' => ['\\', 'r']
  | '"' => ['\\', '"']
  | '\\' => ['\\', '\\']
  | c =>
    if isPrintable c then [c]
    else ['\\', 'u', '\x7b'] ++ hexDigits c.toNat ++ ['\x7d']

/-- A text between double quotes. -/
def quoted (s : List Char) : List Char := '"' :: s.flatMap quotedChar ++ ['"']

/-- The text begins with an octal digit. -/
def beginsOctal : List Char → Bool
  | [] => false
  | c :: _ => '0' ≤ c && c ≤ '7'

/-- The inside of a string literal. Zero is escaped by two digits where a digit follows that could
be taken for part of a shorter escape. -/
def literalBody : List Char → List Char
  | [] => []
  | c :: rest =>
    (if c = '\x00' ∧ beginsOctal rest then ['\\', 'x', '0', '0'] else quotedChar c) ++
      literalBody rest

/-- A text as a string literal of source code. -/
def stringLiteral (s : List Char) : List Char := '"' :: literalBody s ++ ['"']

end Accessors.Text
