import Accessors.Text.LetterCase

/-!
# Names of getters

A field `user_name` is read by `getUserName`, or by `isUserName` if it holds a truth value.

* `upperCamelCase`: the words between underscores, each with its first character in upper case.
* `methodName`: the name of a field's getter.
-/

namespace Accessors.Getters

open Accessors.Text

/-- The words between the underscores of a text; some may be empty. -/
def words : List Char → List (List Char)
  | [] => [[]]
  | c :: rest =>
    match words rest with
    | [] => [[c]]
    | first :: others => if c = '_' then [] :: first :: others else (c :: first) :: others

/-- The word with its first character in upper case. -/
def capitalize : List Char → List Char
  | [] => []
  | c :: rest => toUpper c ++ rest

/-- The words of a text, capitalized and joined. -/
def upperCamelCase (s : List Char) : List Char := (words s).flatMap capitalize

/-- The mark of a getter, which tells whether it reads a truth value. -/
def mark (truthValue : Bool) : List Char := if truthValue then ['i', 's'] else ['g', 'e', 't']

/-- The name of the getter of a field. -/
def methodName (truthValue : Bool) (field : List Char) : List Char :=
  mark truthValue ++ upperCamelCase field

end Accessors.Getters
