import Accessors.Text.Alphabetic
import Accessors.Text.Quoted

/-!
# Accessors and what can stand for one

An accessor is a method of a type that reads one of its properties. It is known by two texts,
the type that declares it and the method's name. A function can be asked which accessor it is;
a bare function pointer cannot tell.

* `isMethodName`: an underscore or a letter, then underscores, letters and numbers.
* `Callable.identify`: the accessor behind a function, through any number of references.
-/

namespace Accessors.Property

open Accessors.Text

/-- A method that reads a property, by the type that declares it and its name. -/
structure Accessor where
  owner : String
  method : String
  deriving DecidableEq, Repr

namespace Accessor

/-- Type and method, separated as in a path. -/
def display (a : Accessor) : String := a.owner ++ "::" ++ a.method

/-- The accessor with its two texts labelled and quoted. -/
def debug (a : Accessor) : String :=
  "MethodMeta \x7b declaring_type: " ++ String.ofList (quoted a.owner.toList) ++
    ", impl_method_name: " ++ String.ofList (quoted a.method.toList) ++ " \x7d"

end Accessor

/-- A typed reference to an accessor. -/
structure Reference where
  accessor : Accessor
  deriving DecidableEq, Repr

namespace Reference

/-- A reference reads as its accessor does. -/
def display (r : Reference) : String := r.accessor.display

/-- The accessor's labelled form, marked as a reference. -/
def debug (r : Reference) : String := "MethodRef(" ++ r.accessor.debug ++ ")"

end Reference

/-- A function that reads something of a value: an accessor or a reference to one, a bare
pointer to a function over a type, or one of these behind a borrow or a dynamic interface. -/
inductive Callable where
  | accessor (a : Accessor)
  | reference (r : Reference)
  | pointer (subject : String)
  | borrowed (inner : Callable)
  | dynamic (inner : Callable)
  deriving DecidableEq, Repr

/-- A name that can be a method's: not empty, first an underscore or a letter, then underscores,
letters and numbers. -/
def isMethodName : List Char → Bool
  | [] => false
  | c :: rest =>
    (c == '_' || isAlphabetic c) && rest.all fun c => c == '_' || isAlphanumeric c

/-- Why a function has no known accessor. -/
inductive Anonymity where
  | notMethodName (a : Accessor)
  | barePointer (subject : String)
  deriving DecidableEq, Repr

/-- The reason in words. -/
def Anonymity.message : Anonymity → String
  | notMethodName a => "'" ++ a.method ++ "' on " ++ a.owner ++ " is not a method name"
  | barePointer subject =>
    "function pointer over " ++ subject ++ " carries no method metadata; use method_ref!"

/-- An accessor knows itself if its method's name is one. -/
def Accessor.identify (a : Accessor) : Except Anonymity Accessor :=
  if isMethodName a.method.toList then .ok a else .error (.notMethodName a)

/-- The accessor that a function is. -/
def Callable.identify : Callable → Except Anonymity Accessor
  | accessor a => a.identify
  | reference r => r.accessor.identify
  | pointer subject => .error (.barePointer subject)
  | borrowed inner => inner.identify
  | dynamic inner => inner.identify

end Accessors.Property
