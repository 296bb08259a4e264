import Accessors.Declaration.Reading
import Accessors.Getters.Code
import Accessors.Property.Resolution

/-!
# From source text to getters

* `derive`: the accessors and the code that a source text yields, or why it yields none.
* `Derivation.properties`: the property name of each accessor.
-/

namespace Accessors.Getters

open Accessors.Token

/-- What a source text yields: its accessors and its code. -/
structure Derivation where
  accessors : List Property.Accessor
  code : List Tree
  deriving Repr

/-- Why a source text yields no getters. -/
inductive SourceError where
  /-- The text is not one declaration of a type. -/
  | notDeclaration
  | derive (e : DeriveError)
  deriving DecidableEq, Repr

/-- The getters of a source text. -/
def derive (source : String) : Except SourceError Derivation :=
  match Declaration.ofText? source with
  | none => .error .notDeclaration
  | some d =>
    match plan d with
    | .error e => .error (.derive e)
    | .ok getters => .ok ⟨accessorsOf d getters, code d getters⟩

/-- Each accessor with the property that it reads, or why it reads none. -/
def Derivation.properties (r : Derivation) :
    List (Property.Accessor × Except Property.ResolveError Property.PropertyName) :=
  r.accessors.map fun a => (a, (Property.tryResolve (.accessor a)).value)

/-- The code as words separated by single spaces. -/
def Derivation.text (r : Derivation) : String := " ".intercalate (wordsOf r.code)

end Accessors.Getters
