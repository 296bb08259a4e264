import Accessors.Grammar.Print

/-!
# Declarations

What a declaration of a type says: its name, its parameters and the conditions on them, and its
body. Types of fields are kept as records, which tell both how they were written and how they are
printed.

* `Declaration`, `Body`, `Field`, `Parameter`, `Attribute`: the parts.
* `Field.isTruthValue`: the field's type is the type of truth values by its own name.
-/

namespace Accessors.Declaration

open Accessors.Token
open Accessors.Grammar

/-- What an attribute has behind its path. -/
inductive AttributeInput where
  | nothing
  | group (d : Delimiter) (body : List Tree)
  | value (trees : List Tree)
  deriving Repr

/-- An attribute: the trees of its path, and what stands behind it. -/
structure Attribute where
  path : List Tree
  input : AttributeInput
  deriving Repr

/-- The attribute's path is one word. -/
def Attribute.isNamed (name : String) (a : Attribute) : Bool :=
  match a.path with
  | [t] => isWord name [t]
  | _ => false

/-- A named field with its attributes. -/
structure Field where
  attributes : List Attribute
  name : Ident
  type : Node Shape
  deriving Repr

/-- The field's type is the word for truth values and nothing else. -/
def Field.isTruthValue (f : Field) : Bool :=
  match f.type.trees with
  | [t] => isWord "bool" [t]
  | _ => false

/-- What a parameter stands for. -/
inductive ParameterKind where
  | lifetime
  | type
  /-- A constant, with the trees of its type. -/
  | constant (type : List Tree)
  deriving Repr

/-- A parameter of a declaration. Its attributes and bounds are trees in printed form; a default is
not kept. -/
structure Parameter where
  kind : ParameterKind
  attributes : List Tree
  name : Ident
  bounds : List Tree
  /-- A comma followed in the declaration. -/
  comma : Bool
  deriving Repr

/-- What a type consists of. -/
inductive Body where
  /-- Fields by name. -/
  | named (fields : List Field)
  /-- Fields by position. -/
  | tuple
  /-- Nothing. -/
  | unit
  /-- One of several cases. -/
  | cases
  /-- One of several fields at a time. -/
  | union
  deriving Repr

end Accessors.Declaration

namespace Accessors

open Accessors.Token
open Accessors.Declaration

/-- A declaration of a type. -/
structure Declaration where
  name : Ident
  parameters : List Parameter
  /-- The conditions on parameters with their word, in printed form; empty if there are none. -/
  conditions : List Tree
  body : Body
  deriving Repr

end Accessors
