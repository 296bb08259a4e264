import Accessors.Proofs.Declaration.Headers
import Accessors.Proofs.Declaration.Pieces

/-!
# Parameters are found again

A parameter is printed without its default, and is the same parameter when it is read again. Only its comma
depends on where it stands.

* `Parameter.IsWritten`: the trees that a parameter is read from.
* `Parameter.Recurs`: the parameter is found again.
* `parameter_of_generic`: a parameter is written with the trees that it was found in, and is found again.
-/

namespace Accessors.Declaration

open Accessors.Token
open Accessors.Grammar
open Recogniser

/-- The parameter's name, behind the word for a constant. -/
def Parameter.opening (p : Parameter) : List Tree :=
  match p.kind with
  | .constant _ => [word "const", p.nameTree]
  | _ => [p.nameTree]

/-- What is said about the parameter: its bounds, or the type of a constant. -/
def Parameter.said (p : Parameter) : List Tree :=
  match p.kind with
  | .constant type => type
  | _ => p.bounds

theorem Parameter.level_opening (p : Parameter) :
    Level.outside.behind? p.opening = some .outside ∧ p.opening ≠ [] := by
  unfold opening nameTree
  cases p.kind <;> exact ⟨rfl, nofun⟩

/-- An implementation declares a parameter with its attributes, its name and what is said about it. -/
theorem Parameter.exists_declared_eq (p : Parameter) : ∃ clause,
    p.declared = p.attributes ++ p.opening ++ clause ∧ (clause = [] ∨ clause = operator [':'] ++ p.said) := by
  unfold declared opening said
  cases p.kind with
  | constant type => exact ⟨_, by simp, .inr rfl⟩
  | _ => exact ⟨if p.bounds.isEmpty then [] else operator [':'] ++ p.bounds, by simp, by split <;> simp⟩

/-- The phrase that finds what is said. -/
def ParameterKind.phrase : ParameterKind → Phrase
  | lifetime => .lifetimeBounds
  | type => .typeBounds
  | constant _ => .type true

/-- **The parameter is read from these trees**: its attributes, its name, and what is said about it behind a
colon. A default comes last. -/
structure Parameter.IsWritten (p : Parameter) (written : List Tree) : Prop where
  parts : ∃ attributes colon said value,
    written = attributes ++ p.opening ++ colon ++ said ++ value ∧
    PrintedFor (.attributes false) attributes p.attributes ∧ PrintedFor p.kind.phrase said p.said ∧
    (colon = [] ∧ said = [] ∨ ∃ joint, colon = [.leaf (.punct ':' joint)]) ∧
    (value = [] ∨ ∃ joint trees, value = .leaf (.punct '=' joint) :: trees)

/-- The name is one that parameters of the kind have. -/
def Parameter.Named (p : Parameter) : Prop :=
  match p.kind with
  | .lifetime => True
  | .type => isWord "const" [p.nameTree] = false ∧
    if isWord "_" [p.nameTree] then p.bounds = [] else isIdent [p.nameTree] = true
  | .constant _ => isIdent [p.nameTree] = true ∧ p.bounds = []

/-- The parts of the parameter are found again, and so is its name. -/
structure Parameter.Recurs (p : Parameter) : Prop where
  attributes : ∃ written, Piece (.attributes false) (fun us => isPunct "#" us = false) written p.attributes
  said : ∃ written, Piece p.kind.phrase EndsParameter written p.said
  name : p.Named

variable {p : Parameter} {us : List Tree}

/-- What can follow a parameter does not go on with it. -/
theorem EndsParameter.isPunct_eq_false (h : EndsParameter us) {operator : String} {c : Char}
    (hc : operator.toList = [c]) (hcomma : c ≠ ',') (hclose : c ≠ '>') : isPunct operator us = false := by
  rw [isPunct, hc]
  rcases h with rfl | ⟨d, joint, rest, rfl | rfl, rfl⟩ <;> simp [isPunctChars, hcomma, hclose]

/-- What is found behind a lifetime. -/
def lifetimeRest : Program Shape :=
  optional ":" >>= fun colon => if colon then call .lifetimeBounds else pure .plain

/-- What is found behind the name of a constant. -/
def constantRest : Program Shape :=
  expect ":" >>= fun _ => call (.type true) >>= fun _ =>
    optional "=" >>= fun value => if value then call .constArgument else pure .plain

/-- A type in place of one that is not given. -/
def defaultType : Program Shape :=
  optional "=" >>= fun value => if value then call (.type true) >>= fun _ => pure .plain else pure .plain

/-- What is found behind the name of a type. -/
def typeRest : Program Shape :=
  optional ":" >>= fun colon => if colon then call .typeBounds >>= fun _ => defaultType else defaultType

/-- What is found behind a parameter's attributes. -/
def genericRest (ts : List Tree) : Program Shape :=
  if isLifetime ts then take >>= fun _ => lifetimeRest
  else if isWord "const" ts then take >>= fun _ => expectIdent >>= fun _ => constantRest
  else if isWord "_" ts then take >>= fun _ => pure .plain
  else expectIdent >>= fun _ => typeRest

theorem genericProgram_eq :
    genericProgram = call (.attributes false) >>= fun _ => ahead >>= genericRest := rfl

/-- A type is a parameter by its name, unless that is the word for a constant with another name behind. -/
theorem Parameter.ofNode?_type {s : Shape} {a : Node Shape} {name : Ident} {rest : List (Node Shape)}
    (hrest : ∀ i more, rest ≠ .tree (.leaf (.ident i)) :: more) (comma : Bool) :
    Parameter.ofNode? (.phrase s (a :: .tree (.leaf (.ident name)) :: rest), comma) =
      some ⟨.type, a.print, name, boundsOf rest, comma⟩ := by
  unfold Parameter.ofNode?
  dsimp only
  split
  · exact absurd rfl (hrest _ _)
  · rfl

/-- The record is that of the parameter, but for its comma. -/
def Parameter.ReadAs (p : Parameter) (n : Node Shape) : Prop :=
  ∀ comma, Parameter.ofNode? (n, comma) = some { p with comma := comma }

/-- What an implementation declares the parameter with is the parameter again. -/
def Parameter.FoundBefore (p : Parameter) (us : List Tree) : Prop :=
  ∃ f, Phrase.generic.find (p.declared ++ us) = some f ∧ f.rest = us ∧
    p.ReadAs (.phrase f.result f.parts)

/-- Attributes are found in front of what is no attribute. -/
theorem Parameter.foundBefore_of_behind {written : List Tree}
    (hattributes : Piece (.attributes false) (fun us => isPunct "#" us = false) written p.attributes)
    (behind : List Tree) (hdeclared : p.declared = p.attributes ++ behind)
    (hhash : isPunct "#" (behind ++ us) = false) {l : Found Shape Shape}
    (hl : (genericRest (behind ++ us)).run Phrase.find (behind ++ us) = some l) (hrest : l.rest = us)
    (hread : ∀ a : Node Shape, a.print = p.attributes → p.ReadAs (.phrase l.result (a :: l.parts))) :
    p.FoundBefore us := by
  obtain ⟨a, ha, hbehind, hsame⟩ := hattributes.again _ hhash
  rw [← hbehind] at hl
  refine ⟨l.after [.phrase a.result a.parts], ?_, hrest, hread _ hsame⟩
  rw [find_eq_run rfl, hdeclared, List.append_assoc]
  change genericProgram.run Phrase.find _ = _
  rw [genericProgram_eq]
  exact run_call_bind.2 ⟨a, l, ha, hl, rfl⟩

section

variable {attributes bounds type written said : List Tree} {name : Ident} {comma : Bool}
  (hattributes : Piece (.attributes false) (fun us => isPunct "#" us = false) written attributes)

include hattributes

theorem Parameter.foundBefore_lifetime
    (hbounds : Piece .lifetimeBounds EndsParameter said bounds) (hus : EndsParameter us) :
    Parameter.FoundBefore ⟨.lifetime, attributes, name, bounds, comma⟩ us := by
  by_cases hnone : bounds = []
  · subst hnone
    have hcolon : isPunct ":" us = false := hus.isPunct_eq_false (c := ':') rfl (by decide) (by decide)
    refine foundBefore_of_behind hattributes [.leaf (.lifetime name)] rfl rfl
      (l := ⟨.plain, [.tree (.leaf (.lifetime name))], us⟩) ?_ rfl ?_
    · exact run_take_bind.2 ⟨_, us, ⟨.plain, [], us⟩, rfl,
        (run_optional_bind (c := ':') rfl).2 (.inr ⟨hcolon, rfl⟩), rfl⟩
    · rintro a rfl comma
      rfl
  · obtain ⟨f, hf, hbehind, hprint⟩ := hbounds.again us hus
    refine foundBefore_of_behind hattributes
      (.leaf (.lifetime name) :: .leaf (.punct ':' false) :: bounds) ?_ rfl
      (l := ⟨f.result, [.tree (.leaf (.lifetime name)), .tree (.leaf (.punct ':' false)),
        .phrase f.result f.parts], f.rest⟩) ?_ hbehind ?_
    · simp [Parameter.declared, Parameter.nameTree, hnone, operator]
    · exact run_take_bind.2 ⟨_, _, _, rfl, (run_optional_bind (c := ':') rfl).2
        (.inl ⟨false, _, _, rfl, run_call.2 ⟨_, hf, rfl⟩, rfl⟩), rfl⟩
    · subst hprint
      rintro a rfl comma
      rfl

theorem Parameter.foundBefore_type
    (hbounds : Piece .typeBounds EndsParameter said bounds) (hus : EndsParameter us)
    (hname : Parameter.Named ⟨.type, attributes, name, bounds, comma⟩) :
    Parameter.FoundBefore ⟨.type, attributes, name, bounds, comma⟩ us := by
  obtain ⟨hconst, hname⟩ := hname
  change isWord "const" [.leaf (.ident name)] = false at hconst
  change if isWord "_" [.leaf (.ident name)] then bounds = []
    else isIdent [.leaf (.ident name)] = true at hname
  have hdefault : defaultType.run Phrase.find us = some ⟨.plain, [], us⟩ :=
    (run_optional_bind (c := '=') rfl).2
      (.inr ⟨hus.isPunct_eq_false (c := '=') rfl (by decide) (by decide), rfl⟩)
  have hgeneric (rest : List Tree) : genericRest (.leaf (.ident name) :: rest) =
      if isWord "_" [.leaf (.ident name)] then take >>= fun _ => pure .plain
      else expectIdent >>= fun _ => typeRest := by
    rw [genericRest, if_neg nofun, isWord_cons, hconst, if_neg Bool.false_ne_true, isWord_cons]
  by_cases hnone : bounds = []
  · subst hnone
    have hcolon : isPunct ":" us = false := hus.isPunct_eq_false (c := ':') rfl (by decide) (by decide)
    refine foundBefore_of_behind hattributes [.leaf (.ident name)] rfl rfl
      (l := ⟨.plain, [.tree (.leaf (.ident name))], us⟩) ?_ rfl ?_
    · rw [List.cons_append, List.nil_append, hgeneric]
      split
      · rfl
      · next hno =>
        rw [if_neg hno] at hname
        exact run_takeIf_bind.2 ⟨_, us, ⟨.plain, [], us⟩, hname, rfl,
          (run_optional_bind (c := ':') rfl).2 (.inr ⟨hcolon, hdefault⟩), rfl⟩
    · rintro a rfl comma
      exact Parameter.ofNode?_type (by simp) comma
  · -- A name that is left open has no bounds.
    have hno : ¬ isWord "_" [.leaf (.ident name)] = true := fun h => hnone (by rwa [if_pos h] at hname)
    rw [if_neg hno] at hname
    obtain ⟨f, hf, hbehind, hprint⟩ := hbounds.again us hus
    refine foundBefore_of_behind hattributes
      (.leaf (.ident name) :: .leaf (.punct ':' false) :: bounds) ?_ rfl
      (l := ⟨.plain, [.tree (.leaf (.ident name)), .tree (.leaf (.punct ':' false)),
        .phrase f.result f.parts], us⟩) ?_ rfl ?_
    · simp [Parameter.declared, Parameter.nameTree, hnone, operator]
    · rw [List.cons_append, hgeneric, if_neg hno]
      refine run_takeIf_bind.2 ⟨_, _, _, hname, rfl, (run_optional_bind (c := ':') rfl).2
        (.inl ⟨false, _, _, rfl, run_call_bind.2 ⟨_, ⟨.plain, [], us⟩, hf, ?_, rfl⟩, rfl⟩), rfl⟩
      rw [hbehind]
      exact hdefault
    · subst hprint
      rintro a rfl comma
      exact Parameter.ofNode?_type (by simp) comma

theorem Parameter.foundBefore_constant
    (htype : Piece (.type true) EndsParameter said type) (hus : EndsParameter us)
    (hname : isIdent [.leaf (.ident name)] = true) :
    Parameter.FoundBefore ⟨.constant type, attributes, name, [], comma⟩ us := by
  have hequals : isPunct "=" us = false := hus.isPunct_eq_false (c := '=') rfl (by decide) (by decide)
  obtain ⟨f, hf, hbehind, hprint⟩ := htype.again us hus
  refine foundBefore_of_behind hattributes
    (word "const" :: .leaf (.ident name) :: .leaf (.punct ':' false) :: type) ?_ rfl
    (l := ⟨.plain, [.tree (word "const"), .tree (.leaf (.ident name)), .tree (.leaf (.punct ':' false)),
      .phrase f.result f.parts], us⟩) ?_ rfl ?_
  · simp [Parameter.declared, Parameter.nameTree, operator]
  · refine run_take_bind.2 ⟨_, _, _, rfl, run_takeIf_bind.2 ⟨_, _, _, hname, rfl,
      (run_expect_bind (c := ':') rfl).2 ⟨false, _, _, rfl,
        run_call_bind.2 ⟨_, ⟨.plain, [], us⟩, hf, ?_, rfl⟩, rfl⟩, rfl⟩, rfl⟩
    rw [hbehind]
    exact (run_optional_bind (c := '=') rfl).2 (.inr ⟨hequals, rfl⟩)
  · subst hprint
    rintro a rfl comma
    rfl

end

/-- **A parameter is found again** in what an implementation declares it with. -/
theorem Parameter.Recurs.foundBefore (h : p.Recurs) (hus : EndsParameter us) : p.FoundBefore us := by
  obtain ⟨⟨_, hattributes⟩, ⟨_, hsaid⟩, hname⟩ := h
  obtain ⟨kind, attributes, name, bounds, comma⟩ := p
  cases kind with
  | lifetime => exact foundBefore_lifetime hattributes hsaid hus
  | type => exact foundBefore_type hattributes hsaid hus hname
  | constant type =>
    obtain ⟨hname, rfl⟩ : isIdent [.leaf (.ident name)] = true ∧ bounds = [] := hname
    exact foundBefore_constant hattributes hsaid hus hname

/-! ## How parameters are written -/

/-- What comes last in a parameter: nothing, or a default behind an equals sign. -/
structure Default (value : List Tree) : Prop where
  form : value = [] ∨ ∃ joint trees, value = .leaf (.punct '=' joint) :: trees
  level : Level.outside.behind? value = some .outside

/-- What is found behind an equals sign that may be there. -/
theorem default_of_run {fuel : Nat} {ask : Bool → Program Shape} {q : Phrase} {ts : List Tree}
    {l : Found Shape Shape} (hback : ∀ ts, ComesBack q ts .outside)
    (hask : ∀ ts m, (ask true).run (recogniseWithin rule fuel) ts = some m →
      ∃ j, recogniseWithin rule fuel q ts = some j ∧ treesOf m.parts = treesOf j.parts)
    (hnone : ask false = pure .plain)
    (hl : (optional "=" >>= ask).run (recogniseWithin rule fuel) ts = some l) (hends : EndsParameter l.rest) :
    Default (treesOf l.parts) ∧ Closes false ts ∧
      (l.parts = [] ∨ ∃ joint more, l.parts = .tree (.leaf (.punct '=' joint)) :: more) := by
  rcases (run_optional_bind (c := '=') rfl).1 hl with ⟨joint, rest, m, rfl, hm, rfl⟩ | ⟨-, hl⟩
  · obtain ⟨j, hj, htrees⟩ := hask rest m hm
    refine ⟨⟨.inr ⟨joint, treesOf m.parts, rfl⟩, ?_⟩, .inr ⟨'=', joint, rest, rfl, rfl⟩,
      .inr ⟨joint, m.parts, rfl⟩⟩
    have hlevel := behind?_of_recognised (hback rest) hj
    rw [← htrees] at hlevel
    exact hlevel
  · rw [hnone, run_pure] at hl
    subst hl
    exact ⟨⟨.inl rfl, rfl⟩, hends.closes, .inl rfl⟩

/-- The parameter was found in the trees, which are one element of a list, and is found again. -/
structure Parameter.FoundIn (p : Parameter) (written : List Tree) : Prop where
  isWritten : p.IsWritten written
  level : Level.outside.behind? written = some .outside
  nonempty : written ≠ []
  recurs : p.Recurs

theorem Parameter.foundIn_of_parts {attributes colon said value : List Tree}
    (hattributes : Piece (.attributes false) (fun us => isPunct "#" us = false) attributes p.attributes)
    (hsaid : Piece p.kind.phrase EndsParameter said p.said)
    (hcolon : colon = [] ∧ said = [] ∨ ∃ joint, colon = [.leaf (.punct ':' joint)])
    (hvalue : Default value) (hname : p.Named) :
    p.FoundIn (attributes ++ p.opening ++ colon ++ said ++ value) := by
  have hopening := p.level_opening
  refine ⟨⟨attributes, colon, said, value, rfl, hattributes.form, hsaid.form, hcolon, hvalue.form⟩, ?_,
    by simp [hopening.2], ⟨⟨_, hattributes⟩, ⟨_, hsaid⟩, hname⟩⟩
  have hlevel : Level.outside.behind? colon = some .outside := by
    rcases hcolon with ⟨rfl, -⟩ | ⟨joint, rfl⟩ <;> rfl
  simp [Level.behind?_append, hattributes.level, hopening.1, hlevel, hsaid.level, hvalue.level]

section

variable {fuel : Nat} {ts attributes written : List Tree} {l : Found Shape Shape} {name : Ident}
  (comma : Bool)
  (hattributes : Piece (.attributes false) (fun us => isPunct "#" us = false) written attributes)

include hattributes

/-- A lifetime is written with what was found behind it. -/
theorem foundIn_of_lifetimeRest
    (hl : lifetimeRest.run (recogniseWithin rule fuel) ts = some l) :
    Parameter.FoundIn ⟨.lifetime, attributes, name, boundsOf l.parts, comma⟩
      (written ++ .leaf (.lifetime name) :: treesOf l.parts) := by
  have hnovalue : Default [] := ⟨.inl rfl, rfl⟩
  rcases (run_optional_bind (c := ':') rfl).1 hl with ⟨joint, more, b, rfl, hb, rfl⟩ | ⟨-, hl⟩
  · obtain ⟨said, hsaid, rfl⟩ := run_call.1 hb
    have hfound := Parameter.foundIn_of_parts
      (p := ⟨.lifetime, attributes, name, (Node.phrase said.result said.parts).print, comma⟩) hattributes
      (piece_lifetimeBounds hsaid) (.inr ⟨joint, rfl⟩) hnovalue trivial
    simpa [Found.after, Parameter.opening, Parameter.nameTree, boundsOf] using hfound
  · rw [if_neg Bool.false_ne_true, run_pure] at hl
    subst hl
    have hnone : recogniseWithin rule 1 .lifetimeBounds [] = some ⟨.plain, [], []⟩ := rfl
    have hfound := Parameter.foundIn_of_parts (p := ⟨.lifetime, attributes, name, [], comma⟩)
      hattributes (piece_lifetimeBounds hnone) (.inl ⟨rfl, rfl⟩) hnovalue trivial
    simpa [Parameter.opening, Parameter.nameTree, boundsOf] using hfound

/-- A type is written with what was found behind its name. -/
theorem foundIn_of_typeRest
    (hconst : isWord "const" [.leaf (.ident name)] = false)
    (hword : isWord "_" [.leaf (.ident name)] = false) (hname : isIdent [.leaf (.ident name)] = true)
    (hl : typeRest.run (recogniseWithin rule fuel) ts = some l) (hends : EndsParameter l.rest) :
    Parameter.FoundIn ⟨.type, attributes, name, boundsOf l.parts, comma⟩
        (written ++ .leaf (.ident name) :: treesOf l.parts) ∧
      ∀ i more, l.parts ≠ .tree (.leaf (.ident i)) :: more := by
  have hnamed {bounds : List Tree} : Parameter.Named ⟨.type, attributes, name, bounds, comma⟩ := by
    refine ⟨hconst, ?_⟩
    change if isWord "_" [.leaf (.ident name)] then bounds = [] else isIdent [.leaf (.ident name)] = true
    rwa [hword, if_neg Bool.false_ne_true]
  have hdefault {ts : List Tree} {l : Found Shape Shape}
      (hl : defaultType.run (recogniseWithin rule fuel) ts = some l) (hends : EndsParameter l.rest) :
      Default (treesOf l.parts) ∧ Closes false ts ∧
        (l.parts = [] ∨ ∃ joint more, l.parts = .tree (.leaf (.punct '=' joint)) :: more) :=
    default_of_run (q := .type true) (fun _ => ⟨rfl, rfl⟩) (fun ts m hm => by
      obtain ⟨j, k, hj, hk, rfl⟩ := run_call_bind.1 hm
      rw [run_pure] at hk
      subst hk
      exact ⟨j, hj, by simp [Found.after]⟩) rfl hl hends
  rcases (run_optional_bind (c := ':') rfl).1 hl with ⟨joint, more, b, rfl, hb, rfl⟩ | ⟨-, hl⟩
  · obtain ⟨said, value, hsaid, hvalue, rfl⟩ := run_call_bind.1 hb
    obtain ⟨hvalue, hcloses, -⟩ := hdefault hvalue hends
    have hfound := Parameter.foundIn_of_parts
      (p := ⟨.type, attributes, name, (Node.phrase said.result said.parts).print, comma⟩) hattributes
      (piece_typeBounds hsaid hcloses) (.inr ⟨joint, rfl⟩) hvalue hnamed
    exact ⟨by simpa [Found.after, Parameter.opening, Parameter.nameTree, boundsOf] using hfound,
      by simp [Found.after]⟩
  · obtain ⟨hvalue, -, hparts⟩ := hdefault hl hends
    have hbounds : boundsOf l.parts = [] := by
      rcases hparts with hparts | ⟨joint, more, hparts⟩ <;> rw [hparts] <;> rfl
    have hnone : recogniseWithin rule 1 .typeBounds [] = some ⟨.plain, [], []⟩ := rfl
    have hfound := Parameter.foundIn_of_parts (p := ⟨.type, attributes, name, [], comma⟩) hattributes
      (piece_typeBounds hnone (.inl rfl)) (.inl ⟨rfl, rfl⟩) hvalue hnamed
    refine ⟨?_, fun i more h => ?_⟩
    · rw [hbounds]
      simpa [Parameter.opening, Parameter.nameTree] using hfound
    · rcases hparts with hparts | ⟨joint, more, hparts⟩ <;> rw [hparts] at h <;> cases h

/-- A name that is left open is written alone. -/
theorem foundIn_of_placeholder :
    Parameter.FoundIn ⟨.type, attributes, ⟨"_", false⟩, [], comma⟩ (written ++ [word "_"]) := by
  have hnone : recogniseWithin rule 1 .typeBounds [] = some ⟨.plain, [], []⟩ := rfl
  have hfound := Parameter.foundIn_of_parts (p := ⟨.type, attributes, ⟨"_", false⟩, [], comma⟩)
    hattributes (piece_typeBounds hnone (.inl rfl)) (.inl ⟨rfl, rfl⟩) ⟨.inl rfl, rfl⟩ ⟨rfl, rfl⟩
  simpa [Parameter.opening, Parameter.nameTree, word] using hfound

/-- A constant is written with its type, and its value behind that. -/
theorem foundIn_of_constantRest
    (hname : isIdent [.leaf (.ident name)] = true)
    (hl : constantRest.run (recogniseWithin rule fuel) ts = some l) (hends : EndsParameter l.rest) :
    ∃ joint type more, l.parts = .tree (.leaf (.punct ':' joint)) :: type :: more ∧
      Parameter.FoundIn ⟨.constant type.print, attributes, name, [], comma⟩
        (written ++ word "const" :: .leaf (.ident name) :: treesOf l.parts) := by
  obtain ⟨joint, others, b, rfl, hb, rfl⟩ := (run_expect_bind (c := ':') rfl).1 hl
  obtain ⟨said, value, hsaid, hvalue, rfl⟩ := run_call_bind.1 hb
  obtain ⟨hdefault, hcloses, -⟩ := default_of_run (q := .constArgument) (fun _ => ⟨rfl, rfl⟩)
    (fun ts m hm => by
      obtain ⟨j, hj, rfl⟩ := run_call.1 hm
      exact ⟨j, hj, by simp⟩) rfl hvalue hends
  have hfound := Parameter.foundIn_of_parts
    (p := ⟨.constant (Node.phrase said.result said.parts).print, attributes, name, [], comma⟩)
    hattributes (piece_type hsaid hcloses) (.inr ⟨joint, rfl⟩) hdefault ⟨hname, rfl⟩
  exact ⟨joint, _, _, rfl,
    by simpa [Found.after, Parameter.opening, Parameter.nameTree, word] using hfound⟩

end

/-- **A parameter is written with the trees that it was found in**, and is found again. -/
theorem parameter_of_generic {fuel : Nat} {ts : List Tree} {k : Found Shape Shape}
    (hk : recogniseWithin rule fuel .generic ts = some k) (hends : EndsParameter k.rest) {comma : Bool}
    (hp : Parameter.ofNode? (.phrase k.result k.parts, comma) = some p) :
    p.FoundIn (treesOf k.parts) ∧ p.comma = comma := by
  cases fuel with
  | zero => cases hk
  | succ fuel =>
    change genericProgram.run (recogniseWithin rule fuel) ts = some k at hk
    rw [genericProgram_eq] at hk
    obtain ⟨a, l, ha, hl, rfl⟩ := run_call_bind.1 hk
    have hattributes := piece_attributes ha
    rw [run_ahead_bind] at hl
    generalize a.rest = behind at hl
    rw [genericRest] at hl
    split at hl
    · next hlifetime =>
      obtain ⟨name, rest, rfl⟩ := eq_cons_of_isLifetime hlifetime
      obtain ⟨_, _, m, heq, hm, rfl⟩ := run_take_bind.1 hl
      cases heq
      obtain rfl := Option.some.inj hp
      exact ⟨by simpa [Found.after] using foundIn_of_lifetimeRest comma hattributes hm, rfl⟩
    split at hl
    · next hconst =>
      obtain ⟨rest, rfl⟩ := eq_cons_of_isWord hconst
      obtain ⟨_, _, m, heq, hm, rfl⟩ := run_take_bind.1 hl
      cases heq
      obtain ⟨t, more, n, hname, rfl, hn, rfl⟩ := run_takeIf_bind.1 hm
      obtain ⟨name, _, heq⟩ := eq_cons_of_isIdent hname
      cases heq
      obtain ⟨joint, type, after, hparts, hfound⟩ :=
        foundIn_of_constantRest comma hattributes hname hn hends
      obtain ⟨s, parts, others⟩ := n
      subst hparts
      obtain rfl := Option.some.inj hp
      exact ⟨by simpa [Found.after, word] using hfound, rfl⟩
    next hconst =>
    split at hl
    · next hword =>
      obtain ⟨rest, rfl⟩ := eq_cons_of_isWord hword
      obtain ⟨_, _, m, heq, hm, rfl⟩ := run_take_bind.1 hl
      cases heq
      rw [run_pure] at hm
      subst hm
      obtain rfl := Option.some.inj hp
      exact ⟨by simpa [Found.after, word, boundsOf] using foundIn_of_placeholder comma hattributes, rfl⟩
    · next hword =>
      obtain ⟨t, rest, m, hname, rfl, hm, rfl⟩ := run_takeIf_bind.1 hl
      obtain ⟨name, _, heq⟩ := eq_cons_of_isIdent hname
      cases heq
      rw [isWord_cons] at hconst hword
      obtain ⟨hfound, hrest⟩ := foundIn_of_typeRest comma hattributes (Bool.eq_false_iff.2 hconst)
        (Bool.eq_false_iff.2 hword) hname hm hends
      obtain rfl := Option.some.inj ((Parameter.ofNode?_type hrest comma).symm.trans hp)
      exact ⟨by simpa [Found.after] using hfound, rfl⟩

end Accessors.Declaration
