import Accessors.Declaration.Header
import Accessors.Declaration.Reading
import Accessors.Proofs.Grammar.Leaves

/-!
# The leaves of a declaration

A declaration keeps parts of its record: names, printed types, bounds and conditions. All of them
are well formed, and so are the headers that repeat them.

* `fields`: the fields of a declaration by name.
* `Sound`: what is well formed in a declaration.
* `sound_of_ofText`: a declaration read from a text is sound.
-/

namespace Accessors.Declaration

open Accessors.Token
open Accessors.Grammar

/-- The fields of a declaration by name, if it has such fields. -/
def fields (d : Accessors.Declaration) : List Field :=
  match d.body with
  | .named fs => fs
  | _ => []

/-- The name and the type of a field are well formed. -/
def Field.Sound (f : Field) : Prop := (Leaf.ident f.name).WellFormed ∧ WellFormed f.type.print

/-- All that a declaration says is well formed. -/
structure Sound (d : Accessors.Declaration) : Prop where
  name : (Leaf.ident d.name).WellFormed
  implHeader : WellFormed d.implHeader
  typeHeader : WellFormed d.typeHeader
  conditions : WellFormed d.conditions
  fields : ∀ f ∈ d.fields, f.Sound

/-! ## Lists -/

theorem mapM_cons_eq_some {α β : Type} {f : α → Option β} {x : α} {l : List α} {ys : List β} :
    (x :: l).mapM f = some ys ↔ ∃ y zs, f x = some y ∧ l.mapM f = some zs ∧ ys = y :: zs := by
  rw [List.mapM_cons]
  cases f x <;> cases l.mapM f <;> simp [eq_comm]

theorem exists_of_mem_mapM {α β : Type} {f : α → Option β} {l : List α} {ys : List β}
    (h : l.mapM f = some ys) {y : β} (hy : y ∈ ys) : ∃ x ∈ l, f x = some y := by
  induction l generalizing ys with
  | nil => cases h; cases hy
  | cons x l ih =>
    obtain ⟨z, zs, hz, hzs, rfl⟩ := mapM_cons_eq_some.1 h
    rcases List.mem_cons.1 hy with rfl | hy
    · exact ⟨x, by simp, hz⟩
    · obtain ⟨w, hw, hf⟩ := ih hzs hy
      exact ⟨w, by simp [hw], hf⟩

theorem mem_of_mem_commaListed {parts : List (Node Shape)} {e : Node Shape × Bool}
    (h : e ∈ commaListed parts) : e.1 ∈ parts := by
  fun_induction commaListed parts with
  | case1 => cases h
  | case2 n => cases List.mem_singleton.1 h; simp
  | case3 n m rest ih =>
    rcases List.mem_cons.1 h with rfl | h
    · simp
    · simp [ih h]

/-! ## Headers -/

theorem wellFormed_operator {cs : List Char} (h : cs.all punctuation.contains = true) :
    WellFormed (operator cs) := by
  induction cs with
  | nil => simp [operator]
  | cons c cs ih =>
    rw [List.all_cons, Bool.and_eq_true, List.contains_iff_mem] at h
    cases cs with
    | nil => simpa [operator, Leaf.WellFormed] using h.1
    | cons d cs => simpa [operator] using ⟨h.1, ih h.2⟩

/-- The parameter is well formed in both headers. -/
def Parameter.Sound (p : Parameter) : Prop := WellFormed p.declared ∧ p.nameTree.WellFormed

theorem wellFormed_angled {write : Parameter → List Tree} {parameters : List Parameter}
    (h : ∀ p ∈ parameters, WellFormed (write p)) : WellFormed (angled write parameters) := by
  unfold angled
  split
  · simp
  · simp only [wellFormed_append]
    refine ⟨⟨wellFormed_operator (by decide), wellFormed_joined fun e he => ?_⟩,
      wellFormed_operator (by decide)⟩
    rw [mem_lifetimesFirst, List.mem_map] at he
    obtain ⟨p, hp, rfl⟩ := he
    exact h p hp

theorem wellFormed_boundsOf {parts : List (Node Shape)} (h : WellFormed (treesOf parts)) :
    WellFormed (boundsOf parts) := by
  unfold boundsOf
  split
  · rw [treesOf_cons, treesOf_cons, wellFormed_append, wellFormed_append] at h
    exact wellFormed_print h.2.1
  · simp

theorem isName_const : IsName "const".toList :=
  ⟨'c', ['o', 'n', 's', 't'], by decide, by decide +kernel,
    List.all_eq_true.1 (by decide +kernel)⟩

theorem Parameter.sound_of_parts {p : Parameter} (hattributes : WellFormed p.attributes)
    (hname : p.nameTree.WellFormed) (hbounds : WellFormed p.bounds)
    (htype : ∀ type, p.kind = .constant type → WellFormed type) : p.Sound := by
  have hcolon : WellFormed (operator [':']) := wellFormed_operator (by decide)
  refine ⟨?_, hname⟩
  unfold Parameter.declared
  split
  · next type hk =>
    have hconst : (word "const").WellFormed := by rw [word, wellFormed_leaf]; exact isName_const
    simp [hattributes, hname, hcolon, hconst, htype type hk]
  · simp only [wellFormed_append, wellFormed_cons]
    refine ⟨hattributes, hname, ?_⟩
    split
    · simp
    · simp [hcolon, hbounds]

theorem Parameter.sound_of_ofNode {e : Node Shape × Bool} {p : Parameter}
    (h : Parameter.ofNode? e = some p) (he : WellFormed e.1.trees) : p.Sound := by
  unfold Parameter.ofNode? at h
  split at h
  · next attributes name rest comma =>
    simp only [trees_phrase, treesOf_cons, trees_tree, wellFormed_append, wellFormed_cons] at he
    cases h
    exact sound_of_parts (wellFormed_print he.1) he.2.1.1 (wellFormed_boundsOf he.2.2)
      (by rintro _ ⟨⟩)
  · next attributes i rest comma =>
    simp only [trees_phrase, treesOf_cons, trees_tree, wellFormed_append, wellFormed_cons] at he
    split at h
    · next name colon type more =>
      simp only [treesOf_cons, trees_tree, wellFormed_append, wellFormed_cons] at he
      cases h
      refine sound_of_parts (wellFormed_print he.1) he.2.2.1.1 wellFormed_nil ?_
      intro type' ht
      cases ht
      exact wellFormed_print he.2.2.2.2.1
    · cases h
      exact sound_of_parts (wellFormed_print he.1) he.2.1.1 (wellFormed_boundsOf he.2.2)
        (by rintro _ ⟨⟩)
  · cases h

theorem Parameter.sound_of_parametersOf {n : Node Shape} {ps : List Parameter}
    (h : parametersOf? n = some ps) (hn : WellFormed n.trees) : ∀ p ∈ ps, p.Sound := by
  unfold parametersOf? at h
  split at h
  · cases h; simp
  · next open' parts =>
    intro p hp
    obtain ⟨e, he, hf⟩ := exists_of_mem_mapM h hp
    rw [trees_phrase, treesOf_cons, wellFormed_append] at hn
    exact sound_of_ofNode hf
      (wellFormed_of_mem hn.2 ((List.dropLast_sublist parts).subset (mem_of_mem_commaListed he)))
  · cases h

/-! ## Bodies -/

theorem wellFormed_conditionsOf {n : Node Shape} (h : WellFormed n.trees) :
    WellFormed (conditionsOf n) := by
  unfold conditionsOf
  split
  · simp
  · simp
  · exact wellFormed_print h

theorem Field.sound_of_ofNode {n : Node Shape} {f : Field} (h : Field.ofNode? n = some f)
    (hn : WellFormed n.trees) : f.Sound := by
  unfold Field.ofNode? at h
  split at h
  · simp only [trees_phrase, treesOf_cons, trees_tree, wellFormed_append, wellFormed_cons,
      wellFormed_leaf] at hn
    cases h
    exact ⟨hn.2.2.1.1, wellFormed_print hn.2.2.2.2.1⟩
  · cases h

/-- The conditions and the fields of a structure. -/
theorem sound_of_recordOf {n : Node Shape} {conditions : List Tree} {body : Body}
    (h : recordOf? n = some (conditions, body)) (hn : WellFormed n.trees) :
    WellFormed conditions ∧ ∀ fs, body = .named fs → ∀ f ∈ fs, f.Sound := by
  unfold recordOf? at h
  split at h
  · next shape conditionsNode shape' fieldNodes =>
    obtain ⟨fs, hfs, he⟩ := Option.map_eq_some_iff.1 h
    cases he
    simp only [trees_phrase, treesOf_cons, trees_group, wellFormed_append, wellFormed_cons,
      wellFormed_group] at hn
    refine ⟨wellFormed_conditionsOf hn.1, ?_⟩
    rintro _ ⟨⟩ f hf
    obtain ⟨e, he, hf⟩ := exists_of_mem_mapM hfs hf
    exact Field.sound_of_ofNode hf (wellFormed_of_mem hn.2.1.1 (mem_of_mem_commaListed he))
  · cases h
    simp only [trees_phrase, treesOf_cons, wellFormed_append] at hn
    exact ⟨wellFormed_conditionsOf hn.2.2.1, by rintro _ ⟨⟩⟩
  · cases h
    simp only [trees_phrase, treesOf_cons, wellFormed_append] at hn
    exact ⟨wellFormed_conditionsOf hn.1, by rintro _ ⟨⟩⟩
  · cases h

/-! ## Declarations -/

theorem sound_of_parts {d : Accessors.Declaration} (hname : (Leaf.ident d.name).WellFormed)
    (hparameters : ∀ p ∈ d.parameters, p.Sound) (hconditions : WellFormed d.conditions)
    (hbody : ∀ fs, d.body = .named fs → ∀ f ∈ fs, f.Sound) : Sound d where
  name := hname
  implHeader := wellFormed_angled fun p hp => (hparameters p hp).1
  typeHeader := wellFormed_angled fun p hp => by simpa using (hparameters p hp).2
  conditions := hconditions
  fields := by
    intro f hf
    unfold fields at hf
    split at hf
    · next fs hb => exact hbody fs hb f hf
    · cases hf

theorem sound_of_ofNode {n : Node Shape} {d : Accessors.Declaration} (h : ofNode? n = some d)
    (hn : WellFormed n.trees) : Sound d := by
  unfold ofNode? at h
  split at h
  · next shape attributes visibility kind name parameters body =>
    simp only [trees_phrase, treesOf_cons, trees_tree, wellFormed_append, wellFormed_cons,
      wellFormed_leaf] at hn
    obtain ⟨-, -, -, ⟨hname, -⟩, hparameters, hbody, -⟩ := hn
    split at h
    · cases h
    · next ps hps =>
      have hps := Parameter.sound_of_parametersOf hps hparameters
      split at h
      · obtain ⟨⟨conditions, b⟩, hr, he⟩ := Option.map_eq_some_iff.1 h
        cases he
        obtain ⟨hc, hf⟩ := sound_of_recordOf hr hbody
        exact sound_of_parts hname hps hc hf
      · cases h; exact sound_of_parts hname hps wellFormed_nil (by rintro _ ⟨⟩)
      · cases h; exact sound_of_parts hname hps wellFormed_nil (by rintro _ ⟨⟩)
  · cases h

/-- **A declaration read from a text is sound.** -/
theorem sound_of_ofText {text : String} {d : Accessors.Declaration} (h : ofText? text = some d) :
    Sound d := by
  obtain ⟨ts, hts, hd⟩ := Option.bind_eq_some_iff.1 h
  have hwf := wellFormed_of_ofText hts
  unfold ofTrees? at hd
  split at hd
  · next n hr =>
    have htrees := trees_append_rest hr
    rw [List.append_nil] at htrees
    exact sound_of_ofNode hd (htrees ▸ hwf)
  · cases hd

end Accessors.Declaration
