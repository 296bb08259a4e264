import Accessors.Declaration.Basic
import Accessors.Token.Writing

/-!
# Parameters in headers

An implementation repeats the parameters of its type twice: it declares them, with their bounds,
and it hands them to the type, by their names alone.

* `implHeader`, `typeHeader`: the two lists; both are nothing for a type without parameters.
-/

namespace Accessors.Declaration

open Accessors.Token

/-- The parameter's name as an implementation or a type uses it. -/
def Parameter.nameTree (p : Parameter) : Tree :=
  match p.kind with
  | .lifetime => .leaf (.lifetime p.name)
  | _ => .leaf (.ident p.name)

/-- The parameter is a lifetime. -/
def Parameter.isLifetime (p : Parameter) : Bool :=
  match p.kind with
  | .lifetime => true
  | _ => false

/-- The parameter as an implementation declares it. -/
def Parameter.declared (p : Parameter) : List Tree :=
  match p.kind with
  | .constant type =>
    p.attributes ++ word "const" :: p.nameTree :: operator [':'] ++ type
  | _ =>
    p.attributes ++ p.nameTree ::
      if p.bounds.isEmpty then [] else operator [':'] ++ p.bounds

/-- Parameters between angle brackets, lifetimes first; nothing for none. -/
def angled (write : Parameter → List Tree) (parameters : List Parameter) : List Tree :=
  if parameters.isEmpty then []
  else
    let elements := parameters.map fun p => ⟨p.isLifetime, write p, p.comma⟩
    operator ['<'] ++ joined (lifetimesFirst elements) ++ operator ['>']

/-- The parameters as an implementation declares them. -/
def implHeader (d : Accessors.Declaration) : List Tree := angled Parameter.declared d.parameters

/-- The parameters as the type takes them. -/
def typeHeader (d : Accessors.Declaration) : List Tree := angled (fun p => [p.nameTree]) d.parameters

end Accessors.Declaration
