import Accessors.Getters.Naming
import Accessors.Getters.Skip
import Accessors.Property.Accessor

/-!
# The getters of a declaration

Every field that is not left out gets a getter, in order.

* `gettersOf`: the getters of some fields, or the first fault in their attributes.
* `plan`: the getters of a declaration, or why it can have none.
* `accessorsOf`: the accessors that the getters are.
-/

namespace Accessors.Getters

open Accessors.Token
open Accessors.Grammar
open Accessors.Declaration

/-- Why getters cannot be derived. -/
inductive DeriveError where
  /-- The type is no structure. -/
  | notStructure
  /-- The fields have no names. -/
  | notNamed
  /-- An attribute of a field is at fault. -/
  | fault (e : SkipError)
  deriving DecidableEq, Repr

/-- The error in words. -/
def DeriveError.message : DeriveError → String
  | notStructure => "#[derive(Getters)] can only be applied to structs"
  | notNamed => "#[derive(Getters)] requires structs with named fields"
  | fault e => e.message

/-- A getter to be made: the field it reads, as named and as typed there, whether that is a truth
value, and the getter's own name. -/
structure Getter where
  field : Ident
  type : List Tree
  truthValue : Bool
  method : String
  deriving Repr

/-- The getter of a field. -/
def Getter.ofField (f : Field) : Getter :=
  ⟨f.name, f.type.print, f.isTruthValue,
    String.ofList (methodName f.isTruthValue f.name.name.toList)⟩

/-- The getters of the fields that are not left out. -/
def gettersOf : List Field → Except SkipError (List Getter)
  | [] => .ok []
  | f :: rest => do
    let skipped ← isSkipped f
    let getters ← gettersOf rest
    return if skipped then getters else Getter.ofField f :: getters

/-- The getters of a declaration. -/
def plan (d : Declaration) : Except DeriveError (List Getter) :=
  match d.body with
  | .named fields =>
    match gettersOf fields with
    | .ok getters => .ok getters
    | .error e => .error (.fault e)
  | .tuple => .error .notNamed
  | .unit => .error .notNamed
  | .cases => .error .notStructure
  | .union => .error .notStructure

/-- The accessor that a getter of a type is. -/
def Getter.accessor (owner : String) (g : Getter) : Property.Accessor := ⟨owner, g.method⟩

/-- The accessors of a declaration with given getters. -/
def accessorsOf (d : Declaration) (getters : List Getter) : List Property.Accessor :=
  getters.map (·.accessor d.name.name)

end Accessors.Getters
