import Accessors.Token.Writing

/-!
# Elements between commas

The elements of a list of trees are separated by commas. A comma in a group belongs to the group, and one
between angle brackets to what stands in them. The brackets are single characters, of which one closes
nothing: the point of an arrow.

* `Level`: how many angle brackets are open, and whether half of an arrow is in front.
* `elements`: what stands between the commas outside of angle brackets.
* `elements_append`: the first element, and the elements behind its comma.
-/

namespace Accessors.Token

/-- Where a forest is read: how many angle brackets are open, and whether a minus sign is in front. -/
structure Level where
  depth : Nat
  minus : Bool
  deriving DecidableEq, Repr

namespace Level

/-- Outside of angle brackets. -/
def outside : Level := ⟨0, false⟩

/-- Behind a punctuation character. A bracket behind a minus sign is the point of an arrow. -/
def char (l : Level) (c : Char) : Level :=
  if c = '<' then ⟨l.depth + 1, false⟩
  else if c = '>' && !l.minus then ⟨l.depth - 1, false⟩
  else ⟨l.depth, c == '-'⟩

/-- Behind a tree. -/
def next (l : Level) : Tree → Level
  | .leaf (.punct c _) => l.char c
  | _ => ⟨l.depth, false⟩

/-- The tree is a comma outside of angle brackets. -/
def ends (l : Level) : Tree → Bool
  | .leaf (.punct c _) => l.depth == 0 && c == ','
  | _ => false

/-- Behind a forest, if no comma in it is outside of angle brackets. -/
def behind? (l : Level) : List Tree → Option Level
  | [] => some l
  | t :: ts => if l.ends t then none else (l.next t).behind? ts

/-- The level behind an operator, if it is no comma outside of angle brackets. -/
def chars? (l : Level) : List Char → Option Level
  | [] => some l
  | c :: cs => if l.depth == 0 && c == ',' then none else (l.char c).chars? cs

end Level

/-- What stands between commas, from some level on. -/
def elementsFrom (l : Level) : List Tree → List (List Tree)
  | [] => []
  | t :: ts =>
    if l.ends t then [] :: elementsFrom .outside ts
    else
      match elementsFrom (l.next t) ts with
      | [] => [[t]]
      | element :: rest => (t :: element) :: rest

/-- What stands between the commas outside of angle brackets; behind the last comma nothing has to
stand. -/
def elements (ts : List Tree) : List (List Tree) := elementsFrom .outside ts

variable {l l' m : Level} {a b : List Tree}

@[simp] theorem Level.behind?_nil : l.behind? [] = some l := rfl

theorem Level.behind?_append : l.behind? (a ++ b) = (l.behind? a).bind (·.behind? b) := by
  induction a generalizing l with
  | nil => rfl
  | cons t a ih =>
    rw [List.cons_append, behind?, behind?]
    split
    · rfl
    · exact ih

/-- A forest that is passed belongs to the first element. -/
theorem elementsFrom_append (h : l.behind? a = some m) (ha : a ≠ []) : elementsFrom l (a ++ b) =
    (a ++ (elementsFrom m b).headD []) :: (elementsFrom m b).tail := by
  induction a generalizing l with
  | nil => exact absurd rfl ha
  | cons t a ih =>
    rw [Level.behind?] at h
    split at h
    · cases h
    · next hends =>
      rw [List.cons_append, elementsFrom, if_neg hends]
      cases a with
      | nil =>
        cases h
        rw [List.nil_append]
        cases elementsFrom (l.next t) b <;> rfl
      | cons u a => rw [ih h (by simp)]; rfl

/-- **The first element**, and the elements behind its comma. -/
theorem elements_append (h : Level.outside.behind? a = some .outside) (ha : a ≠ []) (joint : Bool) :
    elements (a ++ .leaf (.punct ',' joint) :: b) = a :: elements b := by
  rw [elements, elementsFrom_append h ha, elementsFrom]
  simp [Level.ends, Level.outside, elements]

/-- The only element. -/
theorem elements_singleton (h : Level.outside.behind? a = some m) (ha : a ≠ []) :
    elements a = [a] := by
  have hone := elementsFrom_append (b := []) h ha
  simpa [elements, elementsFrom] using hone

/-- A comma in angle brackets, one behind an arrow, and one in a group. -/
example : (elements [word "a", .leaf (.punct '<' false), word "b", .leaf (.punct ',' false), word "c",
    .leaf (.punct '-' true), .leaf (.punct '>' false), word "d", .leaf (.punct '>' true),
    .leaf (.punct ',' false), .group .parenthesis [.leaf (.punct ',' false)],
    .leaf (.punct ',' false)]).map List.length = [9, 1] := by decide

end Accessors.Token
