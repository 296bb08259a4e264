import Accessors.Json.Quoted

/-!
# Numbers in JSON

A reader that wants something else still has to see whether a number is one: whether its digits
are complete, and whether its size fits a binary floating point number of 64 bits.

* `checkNumber`: the verdict on a text that begins with a number.
-/

namespace Accessors.Json

open Accessors.Text

/-- The digits at the beginning of a text, and what follows them. -/
def takeDigits : List Char → List Nat × List Char
  | [] => ([], [])
  | c :: rest =>
    match digit? c with
    | none => ([], c :: rest)
    | some d =>
      let (ds, after) := takeDigits rest
      (d :: ds, after)

/-- The greatest integer that is kept digit by digit. -/
def maxWord : Nat := 0xFFFFFFFFFFFFFFFF

/-- Appends digits to a number while it stays within `maxWord`: the number, and how many digits
did not find room. From the first that does not, none does. -/
def appendDigits (n : Nat) : List Nat → Nat × Nat
  | [] => (n, 0)
  | d :: ds => if n * 10 + d ≤ maxWord then appendDigits (n * 10 + d) ds else (n, ds.length + 1)

/-- The nearest number with at most 53 significant bits, ties going to the even one. -/
def roundToDouble (n : Nat) : Nat :=
  let shift := n.log2 + 1 - 53
  let unit := Nat.pow 2 shift
  let low := n / unit
  let twice := 2 * (n % unit)
  if twice < unit ∨ (twice = unit ∧ low % 2 = 0) then low * unit else (low + 1) * unit

/-- The least product that is rounded to infinity. -/
def overflowBound : Nat := Nat.pow 2 1024 - Nat.pow 2 970

/-- The largest power of ten that is a finite number of its own. -/
def maxPower : Nat := 308

/-- Whether `significand * 10 ^ exponent` fits, both factors being rounded first. A number that is
too small counts as zero. -/
def fits (significand : Nat) (exponent : Int) : Bool :=
  if exponent < 0 ∨ significand = 0 then true
  else if exponent ≤ maxPower then
    roundToDouble significand * roundToDouble (Nat.pow 10 exponent.toNat) < overflowBound
  else false

/-- The verdict on a complete number. -/
def sized (significand : Nat) (exponent : Int) : Failure :=
  if fits significand exponent then .otherKind else .malformed

/-- The greatest exponent that is kept. -/
def maxExponent : Nat := 0x7FFFFFFF

/-- The verdict on the exponent part, after its letter. An exponent beyond `maxExponent` is judged
as soon as it is. -/
def checkExponent (significand : Nat) (start : Int) (s : List Char) : Failure :=
  let (positive, s) := match s with
    | '+' :: rest => (true, rest)
    | '-' :: rest => (false, rest)
    | rest => (true, rest)
  match s with
  | [] => .truncated
  | _ =>
    let (digits, _) := takeDigits s
    if digits.isEmpty then .malformed
    else
      let e := digits.foldl (fun n d => n * 10 + d) 0
      if maxExponent < e then
        if significand ≠ 0 ∧ positive then .malformed else .otherKind
      else sized significand (if positive then start + e else start - e)

/-- The verdict on what follows the digits of a number. -/
def checkTail (significand : Nat) (exponent : Int) (s : List Char) : Failure :=
  match s with
  | 'e' :: rest => checkExponent significand exponent rest
  | 'E' :: rest => checkExponent significand exponent rest
  | _ => sized significand exponent

/-- The verdict on the fraction part, after its point. Digits that find no room do not count. -/
def checkFraction (significand : Nat) (exponent : Int) (s : List Char) : Failure :=
  match s with
  | [] => .truncated
  | _ =>
    let (digits, rest) := takeDigits s
    if digits.isEmpty then .malformed
    else
      let (n, dropped) := appendDigits significand digits
      checkTail n (exponent - (digits.length - dropped : Nat)) rest

/-- The verdict on a number after its sign: nothing but a complete number of a size that fits is a
value. A zero is not followed by a digit. -/
def checkNumber (s : List Char) : Failure :=
  match s with
  | [] => .truncated
  | _ =>
    let (digits, rest) := takeDigits s
    match digits with
    | [] => .malformed
    | 0 :: _ :: _ => .malformed
    | digits =>
      let (n, dropped) := appendDigits 0 digits
      match rest with
      | '.' :: rest => checkFraction n dropped rest
      | rest =>
        if dropped = 0 then
          match rest with
          | 'e' :: rest => checkExponent n 0 rest
          | 'E' :: rest => checkExponent n 0 rest
          | _ => .otherKind
        else checkTail n dropped rest

end Accessors.Json
