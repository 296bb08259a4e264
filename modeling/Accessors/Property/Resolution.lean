import Accessors.Property.Accessor
import Accessors.Property.Name
import Accessors.Text.Blank
import Accessors.Text.LetterCase
import Accessors.Text.Slice

/-!
# From accessors to property names

A method `getFoo` or `isFoo` reads the property `foo`: the first of the two marks that fits is
taken off, and the first character of what remains goes to lower case.

* `propertyName`: the rule on a method's name.
* `resolve`, `tryResolve`: the rule on a function, with the events that are traced on the way;
  the first suppresses and reports a failure, the second returns it.
-/

namespace Accessors.Property

open Accessors.Text

/-- Why no property name comes out. -/
inductive ResolveError where
  /-- The function's accessor is not known. -/
  | introspection (message : String)
  /-- The method's name has neither mark. -/
  | unmarked (method : String)
  /-- Nothing but white space follows the mark. -/
  | empty (method : String)
  deriving DecidableEq, Repr

namespace ResolveError

/-- The error in words. -/
def message : ResolveError → String
  | introspection m => "Introspection failed: " ++ m
  | unmarked m => "Method '" ++ m ++ "' is missing a get|is prefix"
  | empty m => "Property name is missing after stripping the prefix of '" ++ m ++ "'"

/-- The kind of error, as reports name it. -/
def kind : ResolveError → String
  | introspection _ => "IntrospectionFailure"
  | unmarked _ => "NamingConventionViolation"
  | empty _ => "EmptyPropertyName"

/-- The text that the error carries. -/
def text : ResolveError → String
  | introspection m => m
  | unmarked m => m
  | empty m => m

/-- What the carried text is called in a labelled form. -/
def label : ResolveError → String
  | introspection _ => "message"
  | unmarked _ => "method"
  | empty _ => "method"

/-- The kind, and the carried text labelled and quoted. -/
def debug (e : ResolveError) : String :=
  e.kind ++ " \x7b " ++ e.label ++ ": " ++ String.ofList (quoted e.text.toList) ++ " \x7d"

/-- The error is about the function, whatever its name. -/
def isIntrospection : ResolveError → Bool
  | introspection _ => true
  | _ => false

/-- The error is a name without a mark. -/
def isUnmarked : ResolveError → Bool
  | unmarked _ => true
  | _ => false

/-- The error is a mark without a name. -/
def isEmpty : ResolveError → Bool
  | empty _ => true
  | _ => false

end ResolveError

/-! ## The rule on texts -/

/-- The mark of a getter. -/
def getMark : List Char := ['g', 'e', 't']

/-- The mark of a getter of a truth value. -/
def isMark : List Char := ['i', 's']

/-- What follows the mark of a method's name; `get` is tried before `is`. -/
def unmark? (method : List Char) : Option (List Char) :=
  (after? getMark method).or (after? isMark method)

/-- The text with its first character in lower case. -/
def decapitalize : List Char → List Char
  | [] => []
  | c :: rest => toLower c ++ rest

/-- The property that a method of this name reads. -/
def propertyName (method : String) : Except ResolveError PropertyName :=
  match unmark? method.toList with
  | none => .error (.unmarked method)
  | some rest =>
    if isBlank rest then .error (.empty method)
    else .ok ⟨String.ofList (decapitalize rest)⟩

/-! ## The rule on functions, traced -/

/-- What is worth reporting about one resolution. -/
inductive Event where
  /-- A property name was found. -/
  | resolved (a : Accessor) (name : PropertyName)
  /-- The function has no known accessor. -/
  | unidentified (e : ResolveError)
  /-- The accessor is known, its name tells no property. -/
  | unresolved (a : Accessor) (e : ResolveError)
  deriving DecidableEq, Repr

namespace Event

/-- Successes are traced, failures are errors. -/
def level : Event → String
  | resolved _ _ => "TRACE"
  | unidentified _ => "ERROR"
  | unresolved _ _ => "ERROR"

/-- The part of the program that reports. -/
def target : String := "propref::resolver"

/-- The named texts of a report. -/
def fields : Event → List (String × String)
  | resolved a n =>
    [("message", "Resolved property name"), ("method", a.display), ("property", n.text)]
  | unidentified e => [("message", "Failed to resolve field name"), ("error", e.message)]
  | unresolved a e =>
    [("message", "Failed to resolve field name"), ("method", a.method),
      ("declaring_type", a.owner), ("error", e.message)]

end Event

/-- A result with the events reported on the way, in order. -/
structure Traced (α : Type) where
  value : α
  events : List Event
  deriving Repr

/-- The accessor behind a function, or the error of not knowing it. -/
def introspect (f : Callable) : Except ResolveError Accessor :=
  match f.identify with
  | .ok a => .ok a
  | .error reason => .error (.introspection reason.message)

/-- The property that an accessor reads; only success is reported. -/
def resolveAccessor (a : Accessor) : Traced (Except ResolveError PropertyName) :=
  match propertyName a.method with
  | .ok n => ⟨.ok n, [.resolved a n]⟩
  | .error e => ⟨.error e, []⟩

/-- The property that a function reads, or why there is none. -/
def tryResolve (f : Callable) : Traced (Except ResolveError PropertyName) :=
  match introspect f with
  | .ok a => resolveAccessor a
  | .error e => ⟨.error e, []⟩

/-- The property that a function reads, if there is one; a failure is reported and dropped. -/
def resolve (f : Callable) : Traced (Option PropertyName) :=
  match introspect f with
  | .error e => ⟨none, [.unidentified e]⟩
  | .ok a =>
    match resolveAccessor a with
    | ⟨.ok n, events⟩ => ⟨some n, events⟩
    | ⟨.error e, events⟩ => ⟨none, events ++ [.unresolved a e]⟩

end Accessors.Property
