import Accessors.Text.Quoted

/-!
# Property names

The name of a property as callers see it, a text without further conditions.

* `PropertyName.debug`: the quoted form inside the type's name.
* `sorted`, `distinct`, `greatest?`: an ordered view of a collection of names.
-/

namespace Accessors.Property

open Accessors.Text

/-- The name of a property. -/
structure PropertyName where
  text : String
  deriving DecidableEq, Repr

namespace PropertyName

/-- The name in quotes, marked as a field name. -/
def debug (n : PropertyName) : String :=
  "FieldName(" ++ String.ofList (quoted n.text.toList) ++ ")"

/-- Names are ordered as texts are, by the first code point in which they differ; a proper
beginning of a name comes before it. -/
def order : List Char → List Char → Ordering
  | [], [] => .eq
  | [], _ :: _ => .lt
  | _ :: _, [] => .gt
  | a :: as, b :: bs => (compare a.toNat b.toNat).then (order as bs)

instance : Ord PropertyName where
  compare a b := order a.text.toList b.text.toList

/-- The name does not come after the other one. -/
def le (a b : PropertyName) : Bool := (compare a b).isLE

/-- The size of the name in bytes of UTF-8. -/
def size (n : PropertyName) : Nat := n.text.utf8ByteSize

/-- The name begins with a text. -/
def startsWith (n : PropertyName) (text : String) : Bool :=
  text.toList.isPrefixOf n.text.toList

/-- A list of names in order, repetitions kept. -/
def sorted (names : List PropertyName) : List PropertyName := names.mergeSort le

/-- Drops each name that follows an equal one. -/
def squeeze : List PropertyName → List PropertyName
  | [] => []
  | [n] => [n]
  | n :: m :: rest => if n = m then squeeze (m :: rest) else n :: squeeze (m :: rest)

/-- The different names of a list, in order. -/
def distinct (names : List PropertyName) : List PropertyName := squeeze (sorted names)

/-- The last name in order, if there is any. -/
def greatest? : List PropertyName → Option PropertyName
  | [] => none
  | n :: rest =>
    match greatest? rest with
    | none => some n
    | some m => some (if le n m then m else n)

end PropertyName

end Accessors.Property
