/-!
# Parts of a text

* `after?`: what follows a given beginning.
* `splitOn`: the parts of a text between separators.
* `byteSize`, `splitBytes`: texts measured and cut by the size of their characters in UTF-8.
-/

namespace Accessors.Text

/-- What follows a beginning, if the text has it. -/
def after? : List Char → List Char → Option (List Char)
  | [], s => some s
  | _ :: _, [] => none
  | p :: ps, c :: cs => if p = c then after? ps cs else none

/-- The text has the beginning. -/
def begins (beginning : List Char) (s : List Char) : Bool := (after? beginning s).isSome

/-- The parts of a text between separators; there is one more of them than of separators. -/
def splitOn (separator : Char) : List Char → List (List Char)
  | [] => [[]]
  | c :: rest =>
    match splitOn separator rest with
    | [] => [[c]]
    | first :: others => if c = separator then [] :: first :: others else (c :: first) :: others

/-- The size of a text in bytes of UTF-8. -/
def byteSize : List Char → Nat
  | [] => 0
  | c :: rest => c.utf8Size + byteSize rest

/-- Splits a text after a number of bytes, or at the next character after that. -/
def splitBytes : Nat → List Char → List Char × List Char
  | 0, s => ([], s)
  | _, [] => ([], [])
  | n + 1, c :: s =>
    let (before, after) := splitBytes (n + 1 - c.utf8Size) s
    (c :: before, after)
termination_by _ s => s.length

end Accessors.Text
