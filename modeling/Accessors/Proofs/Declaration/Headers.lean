import Accessors.Declaration.Header
import Accessors.Proofs.Token.Spacing

/-!
# Headers in words

Parameters are the same if they are written with the same words; spacing does not count. The headers
that repeat them are then written with the same words, too.

* `ParameterWords`: what a parameter says, in words.
* `wordsOf_implHeader`, `wordsOf_typeHeader`: the words of both headers are determined by it.
-/

namespace Accessors.Declaration

open Accessors.Token

/-- What a parameter stands for, in words. -/
inductive KindWords where
  | lifetime
  | type
  | constant (type : List String)
  deriving DecidableEq

/-- What a parameter says, in words. -/
structure ParameterWords where
  kind : KindWords
  attributes : List String
  name : Ident
  bounds : List String
  comma : Bool
  deriving DecidableEq

/-- The words of a kind. -/
def ParameterKind.spoken : ParameterKind → KindWords
  | lifetime => .lifetime
  | type => .type
  | constant trees => .constant (wordsOf trees)

/-- The words of a parameter. -/
def Parameter.spoken (p : Parameter) : ParameterWords :=
  ⟨p.kind.spoken, wordsOf p.attributes, p.name, wordsOf p.bounds, p.comma⟩

namespace ParameterWords

/-- The parameter is a lifetime. -/
def isLifetime (p : ParameterWords) : Bool := p.kind == .lifetime

/-- The words of the parameter's name: one. -/
def nameWords (p : ParameterWords) : List String :=
  [if p.isLifetime then (Leaf.lifetime p.name).text else (Leaf.ident p.name).text]

/-- The words of the parameter as an implementation declares it. -/
def declared (p : ParameterWords) : List String :=
  p.attributes ++
    match p.kind with
    | .constant type => "const" :: p.nameWords ++ ":" :: type
    | _ => p.nameWords ++ if p.bounds.isEmpty then [] else ":" :: p.bounds

end ParameterWords

theorem isLifetime_spoken (p : Parameter) : p.spoken.isLifetime = p.isLifetime := by
  unfold Parameter.isLifetime ParameterWords.isLifetime Parameter.spoken
  cases p.kind <;> rfl

theorem wordsOf_nameTree (p : Parameter) : wordsOf [p.nameTree] = p.spoken.nameWords := by
  unfold Parameter.nameTree ParameterWords.nameWords ParameterWords.isLifetime Parameter.spoken
  cases p.kind <;> rfl

/-- Every tree has a word. -/
theorem isEmpty_wordsOf (ts : List Tree) : (wordsOf ts).isEmpty = ts.isEmpty := by
  cases ts with
  | nil => rfl
  | cons t rest => cases t <;> simp [Tree.words]

theorem wordsOf_declared (p : Parameter) : wordsOf p.declared = p.spoken.declared := by
  have hname : p.nameTree.words = p.spoken.nameWords := by
    rw [← wordsOf_nameTree, wordsOf_cons, wordsOf_nil, List.append_nil]
  have hkind : p.spoken.kind = p.kind.spoken := rfl
  have hbounds : p.spoken.bounds = wordsOf p.bounds := rfl
  have hattributes : p.spoken.attributes = wordsOf p.attributes := rfl
  have hconst : (word "const").words = ["const"] := rfl
  have hcolon : wordsOf (operator [':']) = [":"] := rfl
  unfold Parameter.declared ParameterWords.declared
  rw [hkind, hbounds, hattributes, isEmpty_wordsOf]
  cases p.kind with
  | constant type => simp [ParameterKind.spoken, hname, hconst, hcolon]
  | _ => cases p.bounds.isEmpty <;> simp [ParameterKind.spoken, hname, hcolon]

/-- Parameters between angle brackets, each written by what it says. -/
theorem wordsOf_angled {write : Parameter → List Tree} {say : ParameterWords → List String}
    (hwrite : ∀ p, wordsOf (write p) = say p.spoken) {ps qs : List Parameter}
    (h : ps.map Parameter.spoken = qs.map Parameter.spoken) :
    wordsOf (angled write ps) = wordsOf (angled write qs) := by
  -- The list, and whether it is empty, are read off what the parameters say.
  have hspoken (ps : List Parameter) :
      (ps.map fun p => (⟨p.isLifetime, write p, p.comma⟩ : Listed)).map Listed.spoken =
        (ps.map Parameter.spoken).map fun s => (s.isLifetime, say s, s.comma) := by
    rw [List.map_map, List.map_map]
    refine List.map_congr_left fun p _ => ?_
    have hcomma : p.spoken.comma = p.comma := rfl
    simp [Listed.spoken, hwrite, isLifetime_spoken, hcomma]
  have hempty (ps : List Parameter) : ps.isEmpty = (ps.map Parameter.spoken).isEmpty := by
    rw [List.isEmpty_map]
  have hsame := (hspoken ps).trans (h ▸ (hspoken qs).symm)
  have hjoined := wordsOf_joined (spoken_lifetimesFirst hsame)
  unfold angled
  rw [hempty ps, hempty qs, h]
  split
  · rfl
  · simp only [wordsOf_append, hjoined]

variable {d e : Accessors.Declaration}

/-- **Headers are written with the words of their parameters.** -/
theorem wordsOf_implHeader
    (h : d.parameters.map Parameter.spoken = e.parameters.map Parameter.spoken) :
    wordsOf d.implHeader = wordsOf e.implHeader := wordsOf_angled wordsOf_declared h

theorem wordsOf_typeHeader
    (h : d.parameters.map Parameter.spoken = e.parameters.map Parameter.spoken) :
    wordsOf d.typeHeader = wordsOf e.typeHeader := wordsOf_angled wordsOf_nameTree h

end Accessors.Declaration
