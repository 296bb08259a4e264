import Mathlib.Data.List.Forall2
import Accessors.Proofs.Declaration.Fields
import Accessors.Proofs.Grammar.TypeLevels

/-!
# How fields are written

The fields of a structure stand between its braces, each up to a comma that is outside of angle brackets
and groups. The type of a field is what stands behind its first colon.

* `behindColon`: what stands behind the first colon.
* `Field.IsWritten`: the trees that a field is read from.
* `fields_of_ofText`: the fields of a declaration are written one by one between the last braces.
-/

namespace Accessors.Declaration

open Accessors.Token
open Accessors.Grammar
open Recogniser

/-- What stands behind the first colon. -/
def behindColon : List Tree → List Tree
  | [] => []
  | t :: ts => if isPunct ":" [t] then ts else behindColon ts

/-- The field is read from these trees: its name and a colon are among them, and its type is what
stands behind the first colon. -/
structure Field.IsWritten (f : Field) (ts : List Tree) : Prop where
  name : ∃ front joint, ts = front ++ .leaf (.ident f.name) :: .leaf (.punct ':' joint) :: f.type.trees
  type : behindColon ts = f.type.trees

/-! ## What stands in front of a name -/

/-- The trees have no comma and no colon, and open no brackets. -/
structure Fronts (front : List Tree) : Prop where
  level : Level.outside.behind? front = some .outside
  colon : ∀ t ∈ front, isPunct ":" [t] = false

theorem Fronts.append {a b : List Tree} (ha : Fronts a) (hb : Fronts b) : Fronts (a ++ b) where
  level := by rw [Level.behind?_append, ha.level]; exact hb.level
  colon t ht := (List.mem_append.1 ht).elim (ha.colon t) (hb.colon t)

theorem Fronts.nil : Fronts [] := ⟨rfl, by simp⟩

theorem behindColon_of_fronts {front : List Tree} (h : ∀ t ∈ front, isPunct ":" [t] = false)
    (ts : List Tree) : behindColon (front ++ ts) = behindColon ts := by
  induction front with
  | nil => rfl
  | cons t front ih =>
    obtain ⟨ht, hfront⟩ := List.forall_mem_cons.1 h
    rw [List.cons_append, behindColon, if_neg (by simp [ht]), ih hfront]

/-- The attributes in front of a forest are hashes and groups. -/
theorem colon_of_behindAttributes (ts : List Tree) :
    ∃ front, ts = front ++ behindAttributes ts ∧ ∀ t ∈ front, isPunct ":" [t] = false := by
  fun_induction behindAttributes ts with
  | case1 joint body rest ih =>
    obtain ⟨front, hfront, hcolon⟩ := ih
    refine ⟨.leaf (.punct '#' joint) :: .group .bracket body :: front, ?_, ?_⟩
    · rw [List.cons_append, List.cons_append, ← hfront]
    · exact List.forall_mem_cons.2 ⟨rfl, List.forall_mem_cons.2 ⟨rfl, hcolon⟩⟩
  | case2 ts => exact ⟨[], rfl, by simp⟩

theorem fronts_attributes {n : Node Shape} {rest : List Tree}
    (h : FoundFor (.attributes false) n rest) : Fronts n.trees := by
  obtain ⟨fuel, ts, k, hk, rfl, rfl⟩ := h
  refine ⟨behind?_of_recognised ⟨rfl, rfl⟩ hk, ?_⟩
  obtain ⟨front, hts, hcolon⟩ := colon_of_behindAttributes ts
  have hall := recogniseWithin_faithful rule fuel _ _ _ hk
  rw [rest_of_attributes fuel hk] at hall
  obtain rfl : treesOf k.parts = front := List.append_cancel_right (hall.trans hts)
  exact hcolon

theorem fronts_of_isWord {word : String} {t : Tree} (h : isWord word [t] = true) : Fronts [t] := by
  unfold isWord at h
  split at h
  · next heq =>
    cases heq
    exact ⟨rfl, by simp [isPunct, isPunctChars]⟩
  · cases h

theorem fronts_group (d : Delimiter) (body : List Tree) : Fronts [.group d body] :=
  ⟨rfl, by simp [isPunct, isPunctChars]⟩

/-- A visibility is a word, perhaps with a group. -/
theorem fronts_visibility {n : Node Shape} {rest : List Tree} (h : FoundFor .visibility n rest) :
    Fronts n.trees := by
  obtain ⟨fuel, ts, k, hk, rfl, -⟩ := h
  cases fuel with
  | zero => cases hk
  | succ fuel =>
    rcases run_optionalWord_bind hk with ⟨t, ts, l, hpub, rfl, hl, rfl⟩ | hnone
    · have hword := fronts_of_isWord ((isWord_cons "pub" t ts).symm.trans hpub)
      have hscope : l.parts = [] ∨ ∃ d body, treesOf l.parts = [.group d body] := by
        rw [if_pos rfl, run_ahead_bind] at hl
        dsimp only at hl
        split at hl
        · next hparenthesis =>
          simp only [Bool.and_eq_true] at hparenthesis
          obtain ⟨body, rest, rfl⟩ := eq_cons_of_isGroup hparenthesis.1.1
          obtain ⟨_, _, _, heq, hl, rfl⟩ := run_take_bind.1 hl
          cases heq
          rw [run_pure] at hl
          subst hl
          exact .inr ⟨_, body, rfl⟩
        · split at hl
          · simp only [run_bind, run_within, run_pure] at hl
            obtain ⟨_, ⟨d, body, rest, j, -, hj, hend, rfl⟩, _, rfl, rfl⟩ := hl
            exact .inr ⟨d, treesOf j.parts, rfl⟩
          · rw [run_pure] at hl
            subst hl
            exact .inl rfl
      rw [trees_phrase, Found.after, treesOf_append]
      refine hword.append ?_
      rcases hscope with hnil | ⟨d, body, hgroup⟩
      · rw [hnil]
        exact .nil
      · rw [hgroup]
        exact fronts_group d body
    · rw [if_neg (by simp), run_pure] at hnone
      subst hnone
      exact .nil

/-! ## Fields -/

/-- The trees of a field are those it is written with, and no comma among them ends it. -/
theorem isWritten_of_field {n : Node Shape} {rest : List Tree} (hn : FoundFor (.field true) n rest)
    {f : Field} (hf : Field.ofNode? n = some f) :
    f.IsWritten n.trees ∧ Level.outside.behind? n.trees = some .outside ∧ n.trees ≠ [] := by
  obtain ⟨shape, attributes, visibility, name, joint, type, _, _, rfl, hattributes, hvisibility,
    fuel, ts, k, hk, rfl, -⟩ := parts_of_field hn
  obtain ⟨rfl, htype⟩ := Field.of_parts hf
  have hfront := (fronts_attributes hattributes).append (fronts_visibility hvisibility)
  have htrees : (Node.phrase shape [attributes, visibility, .tree (.leaf (.ident f.name)),
      .tree (.leaf (.punct ':' joint)), .phrase k.result k.parts]).trees =
      (attributes.trees ++ visibility.trees) ++
        .leaf (.ident f.name) :: .leaf (.punct ':' joint) :: f.type.trees := by
    simp [htype]
  have hend : Level.outside.behind? f.type.trees = some .outside := by
    rw [htype, trees_phrase]
    exact behind?_of_recognised ⟨rfl, rfl⟩ hk
  rw [htrees]
  refine ⟨⟨⟨_, joint, rfl⟩, ?_⟩, ?_, by simp⟩
  · rw [behindColon_of_fronts hfront.colon]
    rfl
  · rw [Level.behind?_append, hfront.level]
    exact hend

/-- The elements of a list of fields are the fields, one by one. -/
theorem isWritten_elements (fuel : Nat) : ∀ {ts : List Tree} {k : Found Shape Shape} {fs : List Field},
    recogniseWithin rule fuel (.terminated (.field true)) ts = some k → k.rest = [] →
    (commaListed k.parts).mapM (fun e => Field.ofNode? e.1) = some fs →
    List.Forall₂ Field.IsWritten fs (elements ts) := by
  -- What follows a comma is recognised as the same list, one level deeper.
  induction fuel with
  | zero => intro ts k fs h; cases h
  | succ fuel ih =>
    intro ts k fs h hrest hfs
    have hprogram : recogniseWithin rule (fuel + 1) (.terminated (.field true)) ts =
      (terminatedProgram (.field true)).run (recogniseWithin rule fuel) ts := rfl
    rw [hprogram, terminatedProgram, run_ahead_bind] at h
    split at h
    · next hempty =>
      rw [run_pure] at h
      subst h
      cases hfs
      rw [List.isEmpty_iff.1 hempty]
      exact .nil
    · obtain ⟨first, l, hfirst, hl, rfl⟩ := run_call_bind.1 h
      have hall := recogniseWithin_faithful rule fuel _ _ _ hfirst
      have hfound : FoundFor (.field true) (.phrase first.result first.parts) first.rest :=
        ⟨_, _, _, hfirst, rfl, rfl⟩
      rw [run_ahead_bind] at hl
      split at hl
      · next hempty =>
        rw [run_pure] at hl
        subst hl
        obtain ⟨f, _, hf, hnil, rfl⟩ := mapM_cons_eq_some.1 hfs
        cases hnil
        obtain ⟨hwritten, hlevel, hne⟩ := isWritten_of_field hfound hf
        rw [List.isEmpty_iff.1 hempty, List.append_nil] at hall
        rw [← hall]
        rw [trees_phrase] at hwritten hlevel hne
        rw [elements_singleton hlevel hne]
        exact .cons hwritten .nil
      · obtain ⟨joint, rest, m, hcomma, hm, rfl⟩ := (run_expect_bind (c := ',') rfl).1 hl
        obtain ⟨f, gs, hf, hgs, rfl⟩ := mapM_cons_eq_some.1 hfs
        obtain ⟨hwritten, hlevel, hne⟩ := isWritten_of_field hfound hf
        rw [← hall, hcomma]
        rw [trees_phrase] at hwritten hlevel hne
        rw [elements_append hlevel hne]
        exact .cons hwritten (ih (run_splice.1 hm) hrest hgs)

/-- **The fields of a structure are written between its last braces**, each up to the comma that ends
it. -/
theorem fields_of_ofText {text : String} {d : Accessors.Declaration} (h : ofText? text = some d)
    {fs : List Field} (hb : d.body = .named fs) :
    ∃ front body, Tree.ofText text.toList = some (front ++ [.group .brace body]) ∧
      List.Forall₂ Field.IsWritten fs (elements body) := by
  obtain ⟨ts, hts, hd⟩ := Option.bind_eq_some_iff.1 h
  obtain ⟨m, _, a, v, g, b, hfrom⟩ := readFrom_of_ofTrees hd hb
  have hr := hfrom.body
  rw [hb] at hr
  obtain ⟨_, restricted, fuel, us, list, hnode, hlist, hend, hfs⟩ :=
    list_of_record ⟨m, _, b, hfrom.record, rfl, rfl⟩ hr
  have hus := recogniseWithin_faithful rule fuel _ _ _ hlist
  rw [hend, List.append_nil] at hus
  obtain ⟨hall, hrest⟩ := hfrom.trees (recogniseWithin_faithful rule m)
  have htrees := congrArg Node.trees hnode
  simp only [trees_phrase, treesOf_cons, treesOf_nil, trees_group, hus, List.append_nil] at htrees
  rw [hrest, htrees, ← List.append_assoc] at hall
  rw [hall] at hts
  exact ⟨_, us, hts, isWritten_elements fuel hlist hend hfs⟩

end Accessors.Declaration
