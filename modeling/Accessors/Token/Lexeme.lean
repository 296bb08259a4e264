import Accessors.Text.Blank
import Accessors.Text.Quoted
import Accessors.Token.Literal
import Accessors.Token.Tree

/-!
# Cutting source text into lexemes

* `dropBlank`: what follows white space and comments.
* `takeLexemes`: the lexemes at the beginning of a text that begins with one; a comment that
  documents something stands for an attribute.
* `Tree.ofText`: the forest of a text.
-/

namespace Accessors.Token

open Accessors.Text

/-! ## Comments -/

/-- Splits a text at the end of its first line. -/
def takeLine : List Char → List Char × List Char
  | [] => ([], [])
  | '\n' :: rest => ([], '\n' :: rest)
  | '\r' :: '\n' :: rest => ([], '\n' :: rest)
  | c :: rest =>
    let (line, after) := takeLine rest
    (c :: line, after)

/-- Splits a text behind the end of a block comment of which `depth` levels are open. -/
def takeBlock : Nat → List Char → Option (List Char × List Char)
  | _, [] => none
  | depth, '/' :: '*' :: rest =>
    (takeBlock (depth + 1) rest).map fun r => ('/' :: '*' :: r.1, r.2)
  | depth, '*' :: '/' :: rest =>
    if depth ≤ 1 then some (['*', '/'], rest)
    else (takeBlock (depth - 1) rest).map fun r => ('*' :: '/' :: r.1, r.2)
  | depth, c :: rest => (takeBlock depth rest).map fun r => (c :: r.1, r.2)

/-- The text begins with a comment that is passed over, up to the end of the line. -/
def beginsLineComment (s : List Char) : Bool :=
  begins ['/', '/'] s && !begins ['/', '/', '!'] s &&
    (!begins ['/', '/', '/'] s || begins ['/', '/', '/', '/'] s)

/-- The text begins with a comment that is passed over, up to its closing mark. -/
def beginsBlockComment (s : List Char) : Bool :=
  begins ['/', '*'] s && !begins ['/', '*', '!'] s &&
    (!begins ['/', '*', '*'] s || begins ['/', '*', '*', '*'] s || begins ['/', '*', '*', '/'] s)

/-- White space of the source language: also the two marks of writing direction. -/
def isSourceSpace (c : Char) : Bool := isSpace c || c == '\u200e' || c == '\u200f'

/-- What follows the first piece of white space or comment, if there is one. -/
def dropBlankPiece? (s : List Char) : Option (List Char) :=
  match s with
  | [] => none
  | c :: rest =>
    if beginsLineComment s then some (takeLine s).2
    else if beginsBlockComment s then (takeBlock 1 (s.drop 2)).map (·.2)
    else if isSourceSpace c then some rest
    else none

/-- What follows white space and comments. A comment that does not end stays. -/
def dropBlank (s : List Char) : List Char :=
  match dropBlankPiece? s with
  | none => s
  | some rest => if rest.length < s.length then dropBlank rest else s
termination_by s.length

/-- A comment that documents: whether it speaks about what encloses it, its text, and what
follows it. -/
def takeDoc (s : List Char) : Option (Bool × List Char × List Char) :=
  let block (inner : Bool) (rest : List Char) :=
    (takeBlock 1 rest).map fun r => (inner, r.1.dropLast.dropLast, r.2)
  match s with
  | '/' :: '/' :: '!' :: rest =>
    let (line, after) := takeLine rest
    some (true, line, after)
  | '/' :: '*' :: '!' :: rest => block true rest
  | '/' :: '/' :: '/' :: rest =>
    let (line, after) := takeLine rest
    if begins ['/'] rest then none else some (false, line, after)
  | '/' :: '*' :: '*' :: rest => if begins ['*'] rest then none else block false rest
  | _ => none

/-- Every carriage return stands before a line feed. -/
def returnsPaired : List Char → Bool
  | [] => true
  | '\r' :: '\n' :: rest => returnsPaired rest
  | c :: rest => c != '\r' && returnsPaired rest

/-- The attribute that a documenting comment stands for. -/
def docLexemes (inner : Bool) (comment : List Char) : List Lexeme :=
  .leaf (.punct '#' false) :: (if inner then [.leaf (.punct '!' false)] else []) ++
    [.opening .bracket, .leaf (.ident ⟨"doc", false⟩), .leaf (.punct '=' false),
      .leaf (.literal (String.ofList (stringLiteral comment))), .closing .bracket]

/-! ## Leaves -/

/-- Characters that are punctuation. -/
def punctuation : List Char := "~!@#$%^&*-=+|;:,<.>/?'".toList

/-- The text begins with punctuation, not with a comment. -/
def beginsPunct (s : List Char) : Bool :=
  match s with
  | [] => false
  | c :: _ => punctuation.contains c && !begins ['/', '/'] s && !begins ['/', '*'] s

/-- Names that a raw identifier cannot have. -/
def neverRaw : List String := ["_", "super", "self", "Self", "crate"]

/-- Splits off an identifier, whatever literal it may be the beginning of. -/
def takeAnyIdent (s : List Char) : Option (Ident × List Char) :=
  match s with
  | 'r' :: '#' :: rest =>
    match takeName rest with
    | some (name, after) =>
      if neverRaw.contains (String.ofList name) then none
      else some (⟨String.ofList name, true⟩, after)
    | none => none
  | _ => (takeName s).map fun r => (⟨String.ofList r.1, false⟩, r.2)

/-- Beginnings of quoted literals, which no identifier has. -/
def quotedBeginnings : List (List Char) :=
  [['r', '"'], ['r', '#', '"'], ['r', '#', '#'], ['b', '"'], ['b', '\''], ['b', 'r', '"'],
    ['b', 'r', '#'], ['c', '"'], ['c', 'r', '"'], ['c', 'r', '#']]

/-- Splits off an identifier. -/
def takeIdent (s : List Char) : Option (Ident × List Char) :=
  if quotedBeginnings.any (begins · s) then none else takeAnyIdent s

/-- Splits off what begins with an apostrophe that begins no character literal: a lifetime. If a
literal begins right behind the apostrophe, the apostrophe is left alone. -/
def takeLifetime (s : List Char) : Option (Leaf × List Char) :=
  match takeAnyIdent s with
  | none => none
  | some (_, after) =>
    if begins ['\''] after || begins ['#'] after && !begins ['r', '#'] s then none
    else if (dropLiteral s).isSome then some (.punct '\'' true, s)
    else (takeIdent s).map fun r => (.lifetime r.1, r.2)

/-- A literal that stands for one that could not be made. -/
def errorMarker : List Char := "(/*ERROR*/)".toList

/-- Splits a leaf off. Literals go before punctuation, and punctuation before identifiers. -/
def takeLeaf (s : List Char) : Option (Leaf × List Char) :=
  match dropLiteral s with
  | some rest => some (.literal (String.ofList (s.take (s.length - rest.length))), rest)
  | none =>
    match s with
    | [] => none
    | '\'' :: rest => takeLifetime rest
    | c :: rest =>
      if beginsPunct s then some (.punct c (beginsPunct rest), rest)
      else
        match takeIdent s with
        | some (i, rest) => some (.ident i, rest)
        | none =>
          (after? errorMarker s).map fun rest => (.literal (String.ofList errorMarker), rest)

/-- The delimiter that a character is, and whether it opens. -/
def delimiter? (c : Char) : Option (Delimiter × Bool) :=
  if c = '(' then some (.parenthesis, true)
  else if c = ')' then some (.parenthesis, false)
  else if c = '[' then some (.bracket, true)
  else if c = ']' then some (.bracket, false)
  else if c = '\x7b' then some (.brace, true)
  else if c = '\x7d' then some (.brace, false)
  else none

/-- The lexemes that the beginning of a text stands for, and what follows it. -/
def takeLexemes (s : List Char) : Option (List Lexeme × List Char) :=
  match takeDoc s with
  | some (inner, comment, rest) =>
    if returnsPaired comment then some (docLexemes inner comment, rest) else none
  | none =>
    match s with
    | [] => none
    | c :: rest =>
      match delimiter? c with
      | some (d, opens) =>
        if begins errorMarker s then (takeLeaf s).map fun r => ([.leaf r.1], r.2)
        else some ([if opens then .opening d else .closing d], rest)
      | none => (takeLeaf s).map fun r => ([.leaf r.1], r.2)

/-- The lexemes of a text, if all of it can be cut into lexemes. -/
def lexemes (s : List Char) : Option (List Lexeme) :=
  match dropBlank s with
  | [] => some []
  | c :: more =>
    match takeLexemes (c :: more) with
    | none => none
    | some (found, rest) =>
      if rest.length < (c :: more).length ∧ (c :: more).length ≤ s.length then
        (lexemes rest).map (found ++ ·)
      else none
termination_by s.length
decreasing_by omega

/-- The forest of a text. A mark of byte order in front is no part of it. -/
def Tree.ofText (text : List Char) : Option (List Tree) :=
  let s := match text with
    | '\ufeff' :: rest => rest
    | s => s
  (lexemes s).bind Tree.ofLexemes

end Accessors.Token
