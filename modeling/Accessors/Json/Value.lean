import Accessors.Json.Number

/-!
# Reading a string from JSON text

* `decode`: the string that a text holds. A value of another kind is recognised by its first
  token, and only that token has to be complete.
-/

namespace Accessors.Json

open Accessors.Text

/-- White space between the tokens of JSON. -/
def isSpace (c : Char) : Bool := c == ' ' || c == '\t' || c == '\n' || c == '\r'

/-- The verdict on a word of which one character has been read. -/
def checkWord : List Char → List Char → Failure
  | [], _ => .otherKind
  | _ :: _, [] => .truncated
  | w :: ws, c :: cs => if w = c then checkWord ws cs else .malformed

/-- The string that a text holds, white space around it allowed. -/
def decode (text : List Char) : Except Failure (List Char) :=
  match text.dropWhile isSpace with
  | [] => .error .truncated
  | '"' :: rest =>
    match decodeBody rest with
    | .error e => .error e
    | .ok (s, after) => if after.all isSpace then .ok s else .error .malformed
  | 'n' :: rest => .error (checkWord ['u', 'l', 'l'] rest)
  | 't' :: rest => .error (checkWord ['r', 'u', 'e'] rest)
  | 'f' :: rest => .error (checkWord ['a', 'l', 's', 'e'] rest)
  | '[' :: _ => .error .otherKind
  | '\x7b' :: _ => .error .otherKind
  | '-' :: rest => .error (checkNumber rest)
  | c :: rest => .error (if isDigit c then checkNumber (c :: rest) else .malformed)

end Accessors.Json
