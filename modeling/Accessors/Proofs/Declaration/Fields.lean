import Accessors.Proofs.Declaration.Leaves
import Accessors.Proofs.Declaration.Undecorated
import Accessors.Proofs.Grammar.TypeSettled

/-!
# The types of fields

A declaration takes its fields from the records that its own programs found, so the type of a field
is the record of a type.

* `elements_of_terminated`: the elements of a list are records of the phrase it is a list of.
* `readFrom_of_ofTrees`: the parts of a structure are found one after another.
* `types_of_ofText`: the type of a field is the record of a type, up to the next comma or the end.
* `wordsOf_type_unique`: how it is printed depends on its own trees and on nothing else.
* `pubFree_of_ofText`: the type of a field, as it is printed, does not have the word `pub` outside
  of groups.
-/

namespace Accessors.Declaration

open Accessors.Token
open Accessors.Grammar
open Recogniser

/-- The record was found for a phrase, and this was left. -/
def FoundFor (p : Phrase) (n : Node Shape) (rest : List Tree) : Prop :=
  ∃ fuel ts k, recogniseWithin rule fuel p ts = some k ∧ n = .phrase k.result k.parts ∧
    k.rest = rest

/-- The elements of a list are found for the phrase of an element, up to the next comma or the
end. -/
theorem elements_of_terminated {element : Phrase} (fuel : Nat) :
    ∀ {ts : List Tree} {k : Found Shape Shape},
      recogniseWithin rule fuel (.terminated element) ts = some k →
      ∀ e ∈ commaListed k.parts, ∃ rest, Stops rest ∧ FoundFor element e.1 rest := by
  -- What follows a comma is found for the same phrase, one level deeper.
  induction fuel with
  | zero => intro ts k h; cases h
  | succ fuel ih =>
    intro ts k h e he
    have hcomma : (",").length = 1 := rfl
    simp only [recogniseWithin, rule, terminatedProgram, run_bind, run_ahead] at h
    obtain ⟨_, rfl, k, h, rfl⟩ := h
    split at h
    · rw [run_pure] at h
      subst h
      cases he
    · simp only [run_bind, run_call, run_ahead] at h
      obtain ⟨_, ⟨first, hfirst, rfl⟩, _, ⟨_, rfl, k, h, rfl⟩, rfl⟩ := h
      have hfound : FoundFor element (.phrase first.result first.parts) first.rest :=
        ⟨_, _, _, hfirst, rfl, rfl⟩
      split at h
      · next hend =>
        rw [run_pure] at h
        subst h
        cases List.mem_singleton.1 he
        exact ⟨_, .inl (List.isEmpty_iff.1 hend), hfound⟩
      · simp only [run_bind, run_expect hcomma, run_splice] at h
        obtain ⟨_, ⟨hpunct, comma, rest, hrest, rfl⟩, later, hlater, rfl⟩ := h
        rcases List.mem_cons.1 he with rfl | he
        · rw [hrest] at hpunct
          obtain ⟨joint, rfl⟩ := (isPunctChars_singleton (c := ',')).1 hpunct
          exact ⟨_, .inr ⟨joint, rest, hrest⟩, hfound⟩
        · exact ih hlater e he

/-- The record of a field has its attributes, its visibility, its name, a colon and its type. -/
theorem parts_of_field {n : Node Shape} {rest : List Tree} (hn : FoundFor (.field true) n rest) :
    ∃ shape attributes visibility name joint type behind after,
      n = .phrase shape [attributes, visibility, .tree name, .tree (.leaf (.punct ':' joint)), type] ∧
      FoundFor (.attributes false) attributes behind ∧ FoundFor .visibility visibility after ∧
      FoundFor (.fieldType (isWord "_" [name])) type rest := by
  obtain ⟨fuel, ts, k, h, rfl, rfl⟩ := hn
  cases fuel with
  | zero => cases h
  | succ fuel =>
    have hcolon : (":").length = 1 := rfl
    simp only [recogniseWithin, rule, fieldProgram, run_bind, run_ahead, run_call, run_takeIf,
      run_expect hcolon, if_true, run_pure] at h
    obtain ⟨_, ⟨attributes, hattributes, rfl⟩, _, ⟨_, ⟨visibility, hvisibility, rfl⟩, _, ⟨_, rfl, _, ⟨_,
      ⟨-, name, _, hname, rfl⟩, _, ⟨_, ⟨hpunct, colon, _, hts, rfl⟩, _, ⟨_, ⟨type, htype, rfl⟩, _, rfl,
      rfl⟩, rfl⟩, rfl⟩, rfl⟩, rfl⟩, rfl⟩ := h
    simp only [Bool.true_and] at hname hpunct hts htype
    rw [hname, isWord_cons] at htype
    rw [hts] at hpunct
    obtain ⟨joint, rfl⟩ := (isPunctChars_singleton (c := ':')).1 hpunct
    exact ⟨_, _, _, name, joint, _, _, _, rfl, ⟨_, _, _, hattributes, rfl, rfl⟩,
      ⟨_, _, _, hvisibility, rfl, rfl⟩, ⟨_, _, _, htype, rfl, rfl⟩⟩

/-- What the record of a field says. -/
theorem Field.of_parts {shape : Shape} {attributes visibility type : Node Shape} {name : Tree}
    {joint : Bool} {f : Field} (h : Field.ofNode? (.phrase shape
      [attributes, visibility, .tree name, .tree (.leaf (.punct ':' joint)), type]) = some f) :
    name = .leaf (.ident f.name) ∧ f.type = type := by
  unfold Field.ofNode? at h
  split at h
  · next heq =>
    cases heq
    cases h
    exact ⟨rfl, rfl⟩
  · cases h

/-- The type that the record of a field says is found for the type of a field of its name. -/
theorem type_of_field {n : Node Shape} {rest : List Tree} (hn : FoundFor (.field true) n rest)
    {f : Field} (hf : Field.ofNode? n = some f) :
    FoundFor (.fieldType (isWord "_" [.leaf (.ident f.name)])) f.type rest := by
  obtain ⟨_, _, _, _, _, _, _, _, rfl, -, -, htype⟩ := parts_of_field hn
  obtain ⟨rfl, rfl⟩ := Field.of_parts hf
  exact htype

/-- The fields that a record says are found between its braces. -/
theorem list_of_record {n : Node Shape} {rest : List Tree} (hn : FoundFor .record n rest)
    {conditions : List Tree} {fs : List Field} (h : recordOf? n = some (conditions, .named fs)) :
    ∃ shape first fuel ts k, n = .phrase shape [first, .group .brace (.phrase k.result k.parts)] ∧
      recogniseWithin rule fuel (.terminated (.field true)) ts = some k ∧ k.rest = [] ∧
      (commaListed k.parts).mapM (fun e => Field.ofNode? e.1) = some fs := by
  obtain ⟨fuel, ts, k, hk, rfl, -⟩ := hn
  cases fuel with
  | zero => cases hk
  | succ fuel =>
    have hsemi : (";").length = 1 := rfl
    simp only [recogniseWithin, rule, recordProgram, run_bind, run_ahead, run_call] at hk
    obtain ⟨_, rfl, _, ⟨_, ⟨first, -, rfl⟩, _, ⟨_, rfl, k, hk, rfl⟩, rfl⟩, rfl⟩ := hk
    split at hk
    · -- Fields by position have conditions and a semicolon behind them.
      simp only [run_bind, run_within, run_call, run_expect hsemi, run_pure] at hk
      obtain ⟨_, ⟨delimiter, _, _, _, -, -, -, rfl⟩, _, ⟨_, ⟨_, -, rfl⟩, _, ⟨_, ⟨-, _, _, -, rfl⟩, _,
        rfl, rfl⟩, rfl⟩, rfl⟩ := hk
      cases delimiter <;> simp [recordOf?, Found.after] at h
    · split at hk
      · simp only [run_bind, run_within, run_pure] at hk
        obtain ⟨_, ⟨delimiter, body, rest, list, -, hlist, hend, rfl⟩, _, rfl, rfl⟩ := hk
        cases delimiter
        · simp [recordOf?, Found.after] at h
        · simp [recordOf?, Found.after] at h
        · simp only [recordOf?, Found.after, List.append_nil, List.cons_append, List.nil_append,
            Option.map_eq_some_iff, Prod.mk.injEq, Body.named.injEq] at h
          obtain ⟨fields, hfields, -, rfl⟩ := h
          exact ⟨_, _, _, _, list, rfl, hlist, hend, hfields⟩
      · simp only [run_bind, run_expect hsemi, run_pure] at hk
        obtain ⟨_, ⟨-, _, _, -, rfl⟩, _, rfl, rfl⟩ := hk
        simp [recordOf?, Found.after] at h

/-- **How a structure is read**: its attributes, its visibility, its parameters behind its name, and what
stands behind these are found one after another. -/
structure ReadFrom (again : Phrase → List Tree → Option (Found Shape Shape)) (d : Accessors.Declaration)
    (ts behind : List Tree) (a v g b : Found Shape Shape) : Prop where
  attributes : again (.attributes false) ts = some a
  visibility : again .visibility a.rest = some v
  name : v.rest = word "struct" :: .leaf (.ident d.name) :: behind
  identifier : isIdent [.leaf (.ident d.name)] = true
  generics : again .generics behind = some g
  record : again .record g.rest = some b
  ends : b.rest = []
  parameters : parametersOf? (.phrase g.result g.parts) = some d.parameters
  body : recordOf? (.phrase b.result b.parts) = some (d.conditions, d.body)

theorem ReadFrom.trees {again : Phrase → List Tree → Option (Found Shape Shape)} (hagain : Faithful again)
    {d : Accessors.Declaration} {ts behind : List Tree} {a v g b : Found Shape Shape}
    (h : ReadFrom again d ts behind a v g b) :
    ts = treesOf a.parts ++ treesOf v.parts ++ [word "struct", .leaf (.ident d.name)] ++ treesOf g.parts ++
      g.rest ∧ g.rest = treesOf b.parts := by
  have hrecord := hagain _ _ _ h.record
  rw [h.ends, List.append_nil] at hrecord
  refine ⟨?_, hrecord.symm⟩
  rw [← hagain _ _ _ h.attributes, ← hagain _ _ _ h.visibility, h.name, ← hagain _ _ _ h.generics]
  simp

/-- What the record of a structure says. -/
theorem ofNode?_struct {s : Shape} {a v g b : Node Shape} {name : Ident} {d : Accessors.Declaration} :
    ofNode? (.phrase s [a, v, .tree (word "struct"), .tree (.leaf (.ident name)), g, b]) = some d ↔
      name = d.name ∧ parametersOf? g = some d.parameters ∧ recordOf? b = some (d.conditions, d.body) := by
  obtain ⟨name', ps, conditions, body⟩ := d
  cases hg : parametersOf? g <;> cases hb : recordOf? b <;> simp [ofNode?, word, hg, hb, Prod.ext_iff]

/-- Only the word for structures makes a declaration with named fields. -/
theorem struct_of_ofNode {s : Shape} {a v parameters body : Node Shape} {kind name : Tree}
    {d : Accessors.Declaration}
    (h : ofNode? (.phrase s [a, v, .tree kind, .tree name, parameters, body]) = some d) {fs : List Field}
    (hb : d.body = .named fs) : ∃ raw, kind = .leaf (.ident ⟨"struct", raw⟩) := by
  unfold ofNode? at h
  split at h
  · next word _ _ _ heq =>
    cases heq
    split at h
    · cases h
    · split at h
      · next hword =>
        obtain ⟨text, raw⟩ := word
        obtain rfl : text = "struct" := hword
        exact ⟨raw, rfl⟩
      · cases h; cases hb
      · cases h; cases hb
  · cases h

/-- **A declaration with named fields is read from a structure.** -/
theorem readFrom_of_ofTrees {ts : List Tree} {d : Accessors.Declaration} (h : ofTrees? ts = some d)
    {fs : List Field} (hb : d.body = .named fs) :
    ∃ fuel behind a v g b, ReadFrom (recogniseWithin rule fuel) d ts behind a v g b := by
  unfold ofTrees? at h
  split at h
  · next node hnode =>
    obtain ⟨k, hk, he⟩ := Option.map_eq_some_iff.1 hnode
    obtain ⟨rfl, hend⟩ := Prod.mk.inj he
    cases hfuel : depthFor ts with
    | zero => rw [hfuel] at hk; cases hk
    | succ fuel =>
      rw [hfuel] at hk
      change declarationProgram.run (recogniseWithin rule fuel) ts = some k at hk
      unfold declarationProgram at hk
      obtain ⟨a, l, ha, hl, rfl⟩ := run_call_bind.1 hk
      obtain ⟨v, m, hv, hm, rfl⟩ := run_call_bind.1 hl
      rw [run_ahead_bind] at hm
      obtain ⟨kind, _, n, hword, hrest, hn, rfl⟩ := run_takeIf_bind.1 hm
      obtain ⟨name, behind, j, hname, rfl, hj, rfl⟩ := run_takeIf_bind.1 hn
      obtain ⟨g, i, hg, hi, rfl⟩ := run_call_bind.1 hj
      rw [hrest] at hi hword
      split at hi
      · next hstruct =>
        obtain ⟨b, hrecord, rfl⟩ := run_call.1 hi
        obtain ⟨_, heq⟩ := eq_cons_of_isWord hstruct
        cases heq
        obtain ⟨_, _, heq⟩ := eq_cons_of_isIdent hname
        cases heq
        obtain ⟨rfl, hparameters, hbody⟩ := ofNode?_struct.1 h
        exact ⟨fuel, behind, a, v, g, b, ha, hv, hrest, hname, hg, hrecord, hend, hparameters, hbody⟩
      · next hnot =>
        exfalso
        split at hi <;> obtain ⟨b, -, rfl⟩ := run_call.1 hi
        all_goals
          obtain ⟨raw, rfl⟩ := struct_of_ofNode h hb
          -- A raw word is none of the three that begin a declaration.
          cases raw
          · exact hnot rfl
          · simp [isOneOf, isWord] at hword
  · cases h

/-- The types of a declaration's fields are found for types of fields, up to the next comma or the
end. -/
theorem types_of_ofText {text : String} {d : Accessors.Declaration} (h : ofText? text = some d) :
    ∀ f ∈ d.fields, ∃ rest, Stops rest ∧
      FoundFor (.fieldType (isWord "_" [.leaf (.ident f.name)])) f.type rest := by
  intro f hf
  obtain ⟨ts, -, hd⟩ := Option.bind_eq_some_iff.1 h
  unfold fields at hf
  split at hf
  · next fs hb =>
    obtain ⟨m, _, _, _, _, b, hfrom⟩ := readFrom_of_ofTrees hd hb
    have hr := hfrom.body
    rw [hb] at hr
    obtain ⟨-, -, fuel, us, list, -, hlist, -, hfs⟩ := list_of_record ⟨m, _, b, hfrom.record, rfl, rfl⟩ hr
    obtain ⟨e, he, hef⟩ := exists_of_mem_mapM hfs hf
    obtain ⟨rest, hstops, hfound⟩ := elements_of_terminated fuel hlist e he
    exact ⟨rest, hstops, type_of_field hfound hef⟩
  · cases hf

/-- **What is printed for a type depends on its own trees.** Two fields of one name whose types have
the same trees, from whatever texts, have types that are printed with the same words. -/
theorem wordsOf_type_unique {text other : String} {d e : Accessors.Declaration}
    (hd : ofText? text = some d) (he : ofText? other = some e) {f g : Field} (hf : f ∈ d.fields)
    (hg : g ∈ e.fields) (hname : f.name = g.name)
    (htrees : endAlone f.type.trees = endAlone g.type.trees) :
    wordsOf f.type.print = wordsOf g.type.print := by
  obtain ⟨_, hafter, m, ts, k, hk, hkn, rfl⟩ := types_of_ofText hd f hf
  obtain ⟨_, hbeyond, n, us, l, hl, hln, rfl⟩ := types_of_ofText he g hg
  rw [← hname] at hl
  rw [hkn, hln, trees_phrase, trees_phrase] at htrees
  have hrecord := unspaced_type_unique hafter hbeyond hk hl htrees
  rw [← wordsOf_print_unspaced f.type, ← wordsOf_print_unspaced g.type, hkn, hln, hrecord]

/-! ## The word between members -/

theorem printStable_notPub : PrintStable fun t => isWord "pub" [t] = false where
  comma := rfl
  dot := rfl
  position _ := rfl
  group _ _ := rfl

/-- **The type of a field does not have the word `pub`**, as it is printed and outside of groups. -/
theorem pubFree_of_ofText {text : String} {d : Accessors.Declaration} (h : ofText? text = some d) :
    ∀ f ∈ d.fields, PubFree f.type.print := by
  intro f hf
  obtain ⟨rest, -, fuel, ts, k, hk, hn, -⟩ := types_of_ofText h f hf
  have htrees : PubFree f.type.trees := by
    rw [hn, trees_phrase]
    exact pubFree_of_recognised (.fieldType _ ts) hk
  exact printStable_notPub.print htrees

end Accessors.Declaration
