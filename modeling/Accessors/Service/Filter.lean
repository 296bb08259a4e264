import Accessors.Text.Alphabetic
import Accessors.Text.Blank
import Accessors.Text.Digit
import Accessors.Text.Slice

/-!
# Filters for events

A filter is a list of directives separated by commas. A directive gives a level to every target,
or to the targets that begin with a text.

Two things are taken as given. Directives for spans, which stand in square brackets, are no part of
the filters here: a directive that has an opening bracket where its word ends is malformed, whatever
the brackets hold. And the sign that a directive is cut at is looked for in the trimmed text while
the cut counts bytes of the whole one; where that falls inside of a character, the cut is made behind
the character.

* `Directive.parse`, `parseFilter`: the directives of a text, or why it is none.
* `shows`: whether a list of directives lets an event of a target and a level through.
-/

namespace Accessors.Service

open Accessors.Text

/-- How much is let through: nothing, or events up to a degree of detail. -/
inductive Level where
  | off
  | error
  | warn
  | info
  | debug
  | trace
  deriving DecidableEq, Repr

namespace Level

/-- The rank of a level: more detail, higher rank. -/
def rank : Level → Nat
  | off => 0
  | error => 1
  | warn => 2
  | info => 3
  | debug => 4
  | trace => 5

/-- The level of a rank. -/
def ofRank? : Nat → Option Level
  | 0 => some off
  | 1 => some error
  | 2 => some warn
  | 3 => some info
  | 4 => some debug
  | 5 => some trace
  | _ => none

/-- The name of a level. -/
def name : Level → String
  | off => "off"
  | error => "error"
  | warn => "warn"
  | info => "info"
  | debug => "debug"
  | trace => "trace"

/-- All levels. -/
def all : List Level := [off, error, warn, info, debug, trace]

/-- An ASCII letter in lower case, and any other character as it is. -/
def foldAscii (c : Char) : Char :=
  if 'A' ≤ c ∧ c ≤ 'Z' then Char.ofNat (c.toNat + 32) else c

/-- The number that digits write, after an optional plus sign. -/
def number? (text : List Char) : Option Nat :=
  match text with
  | '+' :: rest => decimal? rest
  | rest => decimal? rest

/-- A level by its rank or by its name in any letter case. -/
def parse? (text : List Char) : Option Level :=
  ((number? text).bind ofRank?).or
    (all.find? fun l => l.name.toList == text.map foldAscii)

/-- A level lets an event through that is no more detailed. -/
def admits (limit event : Level) : Bool := event.rank ≤ limit.rank

end Level

/-- A level for the targets that begin with a text, or for all targets. -/
structure Directive where
  target : Option (List Char)
  level : Level
  deriving DecidableEq, Repr

/-- Why a text is no filter. -/
inductive FilterError where
  /-- A level is expected and something else stands there. -/
  | badLevel
  /-- The directive is nothing but white space, begins with a character that begins none, or has a
  bracket where its word ends. -/
  | malformed
  deriving DecidableEq, Repr

/-- The error in words. -/
def FilterError.message : FilterError → String
  | badLevel =>
    "error parsing level filter: expected one of \"off\", \"error\", \"warn\", \"info\", " ++
      "\"debug\", \"trace\", or a number 0-5"
  | malformed => "invalid filter directive"

/-- A text without the white space at its beginning. -/
def trimLeft (s : List Char) : List Char := s.dropWhile isSpace

/-- A text without the white space at both ends. -/
def trim (s : List Char) : List Char := (trimLeft (trimLeft s).reverse).reverse

namespace Directive

/-- A level, or a target that is shown in full. -/
def ofWord (text : List Char) : Directive :=
  match Level.parse? text with
  | some l => ⟨none, l⟩
  | none => ⟨some text, .trace⟩

/-- The level after the equals sign; nothing there means everything. -/
def levelOf (text : List Char) : Except FilterError Level :=
  if text.isEmpty then .ok .trace
  else
    match Level.parse? text with
    | some l => .ok l
    | none => .error .badLevel

/-- A character that a directive can begin with. -/
def canBegin (c : Char) : Bool := c == '-' || c == ':' || c == '_' || isAlphanumeric c

/-- A level, a target, or both around an equals sign. The sign is looked for in the trimmed text,
and what was trimmed off at the beginning counts in when the text is cut there. Brackets, which
would limit a directive to a span, are no part of a target. -/
def parse (text : List Char) : Except FilterError Directive :=
  let scanned := trim text
  match scanned with
  | [] => .error .malformed
  | c :: _ =>
    let word := scanned.takeWhile fun c => c != '=' && c != '['
    if !canBegin c then .error .malformed
    else
      match scanned.drop word.length with
      | [] => .ok (ofWord text)
      | '=' :: _ =>
        let (target, rest) := splitBytes (byteSize word) text
        (levelOf (rest.drop 1)).map fun l => ⟨some target, l⟩
      | _ :: _ => .error .malformed

/-- The directive speaks about a target. -/
def appliesTo (target : List Char) (d : Directive) : Bool :=
  match d.target with
  | none => true
  | some beginning => beginning.isPrefixOf target

/-- How specific a directive is: the size of its target, and less than any for all targets. -/
def specificity (d : Directive) : Nat :=
  match d.target with
  | none => 0
  | some beginning => byteSize beginning + 1

end Directive

/-- The directives of a text between commas; empty elements do not count. The first element that
is no directive decides the error. -/
def parseFilter (text : List Char) : Except FilterError (List Directive) :=
  ((splitOn ',' text).filter fun e => !e.isEmpty).mapM Directive.parse

/-- The more specific of two directives, the later one if they are equally specific. -/
def prefer (chosen : Option Directive) (d : Directive) : Option Directive :=
  match chosen with
  | none => some d
  | some c => if c.specificity ≤ d.specificity then some d else some c

/-- The directive that decides about a target. -/
def deciding (directives : List Directive) (target : List Char) : Option Directive :=
  (directives.filter (·.appliesTo target)).foldl prefer none

/-- Whether events of a target and a level are shown. Without any directive errors are; with
directives of which none applies nothing is. -/
def shows (directives : List Directive) (target : List Char) (level : Level) : Bool :=
  match directives with
  | [] => Level.error.admits level
  | directives =>
    match deciding directives target with
    | none => false
    | some d => d.level.admits level

end Accessors.Service
