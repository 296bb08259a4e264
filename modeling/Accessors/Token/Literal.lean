import Accessors.Text.Digit
import Accessors.Text.Identifier
import Accessors.Text.Slice

/-!
# Literals of the source language

Each function takes a kind of literal off the beginning of a text and yields what follows it.

* `dropString`, `dropByteString`, `dropCString`: quoted texts, with escapes or raw.
* `dropByte`, `dropChar`: a single unit between quotes.
* `dropFloat`, `dropInt`: numbers.
* `dropLiteral`: the first kind of these that fits.
-/

namespace Accessors.Token

open Accessors.Text

/-- Splits the name at the beginning of a text off. -/
def takeName : List Char → Option (List Char × List Char)
  | [] => none
  | c :: rest =>
    if isIdentifierStart c then
      some (c :: rest.takeWhile isIdentifierContinue, rest.dropWhile isIdentifierContinue)
    else none

/-- What follows a suffix, which any name can be. -/
def dropSuffix (s : List Char) : List Char :=
  match takeName s with
  | some (_, rest) => rest
  | none => s

/-! ## Escapes -/

/-- The value of two hexadecimal digits. -/
def takeHex2 : List Char → Option (Nat × List Char)
  | a :: b :: rest =>
    match hexValue? a, hexValue? b with
    | some x, some y => some (16 * x + y, rest)
    | _, _ => none
  | _ => none

/-- Reads the digits of a code point up to the closing brace: at most six, with underscores
anywhere after the first. -/
def takeCodePoint : Nat → Nat → List Char → Option (Nat × List Char)
  | _, _, [] => none
  | count, value, c :: rest =>
    if c = '_' ∧ 0 < count then takeCodePoint count value rest
    else if c = '\x7d' ∧ 0 < count then
      if value < 0xD800 ∨ (0xE000 ≤ value ∧ value < 0x110000) then some (value, rest) else none
    else
      match hexValue? c with
      | none => none
      | some d => if count = 6 then none else takeCodePoint (count + 1) (16 * value + d) rest

/-- What a quoted text may hold. -/
inductive Content where
  /-- Characters. -/
  | chars
  /-- Bytes, written as ASCII characters. -/
  | bytes
  /-- Characters without zero. -/
  | nonzero
  deriving DecidableEq, Repr

/-- A character that stands for itself in such a text. -/
def Content.allows : Content → Char → Bool
  | chars, _ => true
  | bytes, c => c.toNat < 0x80
  | nonzero, c => c != '\x00'

/-- A byte value that an escape of two digits may write. -/
def Content.allowsByte : Content → Nat → Bool
  | chars, n => n < 0x80
  | bytes, _ => true
  | nonzero, n => n != 0

/-- What follows an escape after its backslash. Line ends are not among these escapes. -/
def dropEscape (content : Content) : List Char → Option (List Char)
  | [] => none
  | c :: rest =>
    if c = 'x' then
      match takeHex2 rest with
      | some (n, rest) => if content.allowsByte n then some rest else none
      | none => none
    else if c = 'u' then
      match content, rest with
      | .bytes, _ => none
      | _, '\x7b' :: rest =>
        match takeCodePoint 0 0 rest with
        | some (n, rest) => if content = .nonzero ∧ n = 0 then none else some rest
        | none => none
      | _, _ => none
    else if c = 'n' ∨ c = 'r' ∨ c = 't' ∨ c = '\\' ∨ c = '\'' ∨ c = '"' then some rest
    else if c = '0' ∧ content ≠ .nonzero then some rest
    else none

/-- White space that a line end behind a backslash swallows. -/
def isLineSpace (c : Char) : Bool := c == ' ' || c == '\t' || c == '\n' || c == '\r'

/-- What follows the white space behind a backslash. A carriage return only counts before a line
feed, and the text must not end here. -/
def dropLineSpace : List Char → Option (List Char)
  | [] => none
  | '\r' :: '\n' :: rest => dropLineSpace rest
  | c :: rest =>
    if c = '\r' then none
    else if isLineSpace c then dropLineSpace rest
    else some (c :: rest)

theorem takeCodePoint_length (s : List Char) : ∀ (count value : Nat) {n : Nat} {rest : List Char},
    takeCodePoint count value s = some (n, rest) → rest.length ≤ s.length := by
  induction s with
  | nil => intro count value n rest h; simp [takeCodePoint] at h
  | cons c cs ih =>
    intro count value n rest h
    unfold takeCodePoint at h
    split at h
    · exact Nat.le_succ_of_le (ih _ _ h)
    · split at h
      · split at h
        · cases h; exact Nat.le_succ _
        · cases h
      · split at h
        · cases h
        · split at h
          · cases h
          · exact Nat.le_succ_of_le (ih _ _ h)

theorem takeHex2_length {s : List Char} {n : Nat} {rest : List Char}
    (h : takeHex2 s = some (n, rest)) : rest.length ≤ s.length := by
  unfold takeHex2 at h
  split at h
  · split at h
    · cases h; simp only [List.length_cons]; omega
    · cases h
  · cases h

theorem dropEscape_length {content : Content} {s rest : List Char}
    (h : dropEscape content s = some rest) : rest.length ≤ s.length := by
  unfold dropEscape at h
  split at h
  · cases h
  · split at h
    · split at h
      · next heq =>
        have := takeHex2_length heq
        split at h
        · cases h; simp only [List.length_cons]; omega
        · cases h
      · cases h
    · split at h
      · split at h
        · cases h
        · split at h
          · next heq =>
            have := takeCodePoint_length _ _ _ heq
            split at h
            · cases h
            · cases h; simp only [List.length_cons]; omega
          · cases h
        · cases h
      · split at h
        · cases h; simp only [List.length_cons]; omega
        · split at h
          · cases h; simp only [List.length_cons]; omega
          · cases h

theorem dropLineSpace_length {s rest : List Char} (h : dropLineSpace s = some rest) :
    rest.length ≤ s.length := by
  fun_induction dropLineSpace s with
  | case1 => cases h
  | case2 r ih => have := ih h; simp only [List.length_cons]; omega
  | case3 => cases h
  | case4 c r _ _ _ ih => have := ih h; simp only [List.length_cons]; omega
  | case5 => cases h; exact Nat.le_refl _

/-! ## Quoted texts -/

/-- What follows a quoted text and its suffix, after the opening quote. A carriage return only
counts before a line feed. -/
def dropQuotedBody (content : Content) (s : List Char) : Option (List Char) :=
  match s with
  | [] => none
  | c :: rest =>
    if c = '"' then some (dropSuffix rest)
    else if c = '\r' then
      match rest with
      | '\n' :: rest => dropQuotedBody content rest
      | _ => none
    else if c = '\\' then
      match rest with
      | [] => none
      | d :: more =>
        if d = '\n' ∨ d = '\r' then
          match h : dropLineSpace (d :: more) with
          | none => none
          | some after =>
            have := dropLineSpace_length h
            dropQuotedBody content after
        else
          match h : dropEscape content (d :: more) with
          | none => none
          | some after =>
            have := dropEscape_length h
            dropQuotedBody content after
    else if content.allows c then dropQuotedBody content rest
    else none
termination_by s.length
decreasing_by all_goals simp_all only [List.length_cons]; omega

/-- What follows a raw text and its suffix, after the opening quote: the text ends at the first
quote with as many hash signs as it began with. -/
def dropRawBody (content : Content) (hashes : List Char) : List Char → Option (List Char)
  | [] => none
  | '\r' :: '\n' :: rest => dropRawBody content hashes rest
  | c :: rest =>
    if c = '\r' then none
    else if c = '"' ∧ begins hashes rest then some (dropSuffix (rest.drop hashes.length))
    else if content.allows c then dropRawBody content hashes rest
    else none

/-- The greatest number of hash signs around a raw text. -/
def maxHashes : Nat := 255

/-- What follows a raw text, from its hash signs on. -/
def dropRaw (content : Content) (s : List Char) : Option (List Char) :=
  let hashes := s.takeWhile (· == '#')
  match s.drop hashes.length with
  | '"' :: rest => if hashes.length ≤ maxHashes then dropRawBody content hashes rest else none
  | _ => none

/-- A text in quotes behind one mark, or a raw text behind another. -/
def dropText (content : Content) (cooked raw : List Char) (s : List Char) : Option (List Char) :=
  match after? cooked s with
  | some ('"' :: rest) => dropQuotedBody content rest
  | _ =>
    match after? raw s with
    | some rest => dropRaw content rest
    | none => none

/-- What follows a string. -/
def dropString (s : List Char) : Option (List Char) := dropText .chars [] ['r'] s

/-- What follows a byte string. -/
def dropByteString (s : List Char) : Option (List Char) := dropText .bytes ['b'] ['b', 'r'] s

/-- What follows a string that ends in a zero of its own. -/
def dropCString (s : List Char) : Option (List Char) := dropText .nonzero ['c'] ['c', 'r'] s

/-- What follows one unit and the closing quote. -/
def dropUnit (content : Content) (s : List Char) : Option (List Char) :=
  let behind := match s with
    | [] => none
    | '\\' :: rest => dropEscape content rest
    | c :: rest => if content.allows c then some rest else none
  match behind with
  | some ('\'' :: rest) => some (dropSuffix rest)
  | _ => none

/-- What follows a byte. -/
def dropByte (s : List Char) : Option (List Char) :=
  match s with
  | 'b' :: '\'' :: rest => dropUnit .bytes rest
  | _ => none

/-- What follows a character. -/
def dropChar (s : List Char) : Option (List Char) :=
  match s with
  | '\'' :: rest => dropUnit .chars rest
  | _ => none

/-! ## Numbers -/

/-- What follows the suffix of a number; a number does not run into a word. -/
def dropNumberSuffix (s : List Char) : Option (List Char) :=
  let rest := dropSuffix s
  match rest with
  | c :: _ => if isIdentifierContinue c then none else some rest
  | [] => some rest

/-- What follows digits and underscores. -/
def dropDigits (s : List Char) : List Char := s.dropWhile fun c => isDigit c || c == '_'

/-- What follows the value of an exponent: underscores and one sign before the first digit, then
digits and underscores. `none` without a digit. -/
def dropExponent : Bool → List Char → Option (List Char)
  | _, [] => none
  | signed, c :: rest =>
    if isDigit c then some (dropDigits rest)
    else if c = '_' then dropExponent signed rest
    else if (c = '+' ∨ c = '-') ∧ !signed then dropExponent true rest
    else none

/-- What follows an exponent from its letter on, if there is one. -/
def dropExponent? (s : List Char) : Option (List Char) :=
  match s with
  | 'e' :: rest => dropExponent false rest
  | 'E' :: rest => dropExponent false rest
  | _ => none

/-- What follows the digits of a number with a point or an exponent. A point in front of another
point or of a name is none of the number's. -/
def dropFloatDigits (s : List Char) : Option (List Char) :=
  match s with
  | [] => none
  | c :: rest =>
    if !isDigit c then none
    else
      match dropDigits rest with
      | '.' :: rest =>
        let pointless := match rest with
          | d :: _ => d == '.' || isIdentifierStart d
          | [] => false
        if pointless then none
        else
          let fraction := dropDigits rest
          some ((dropExponent? fraction).getD fraction)
      | rest => dropExponent? rest

/-- What follows a number with a point or an exponent. -/
def dropFloat (s : List Char) : Option (List Char) :=
  (dropFloatDigits s).bind dropNumberSuffix

/-- What follows the digits of a whole number in a base. A digit too great for the base spoils the
number, a letter ends it; `seen` says whether there was a digit yet. -/
def dropBaseDigits (base : Nat) : Bool → List Char → Option (List Char)
  | seen, [] => if seen then some [] else none
  | seen, c :: rest =>
    if isDigit c then
      if c.toNat - '0'.toNat < base then dropBaseDigits base true rest else none
    else if c = '_' then
      if !seen ∧ base = 10 then none else dropBaseDigits base seen rest
    else
      match hexValue? c with
      | some d =>
        if d < base then dropBaseDigits base true rest
        else if seen then some (c :: rest) else none
      | none => if seen then some (c :: rest) else none

/-- What follows the digits of a whole number, its base told by the two characters in front. -/
def dropIntDigits (s : List Char) : Option (List Char) :=
  match s with
  | '0' :: 'x' :: rest => dropBaseDigits 16 false rest
  | '0' :: 'o' :: rest => dropBaseDigits 8 false rest
  | '0' :: 'b' :: rest => dropBaseDigits 2 false rest
  | _ => dropBaseDigits 10 false s

/-- What follows a whole number. -/
def dropInt (s : List Char) : Option (List Char) :=
  (dropIntDigits s).bind dropNumberSuffix

/-- What follows a literal of any kind. -/
def dropLiteral (s : List Char) : Option (List Char) :=
  ((((((dropString s).or (dropByteString s)).or (dropCString s)).or (dropByte s)).or
    (dropChar s)).or (dropFloat s)).or (dropInt s)

end Accessors.Token
