import Accessors.Proofs.Declaration.Parameters

/-!
# Headers are read back

The headers that repeat the parameters of a type have one element for each of them, lifetimes first. What
an implementation declares is read again as the same parameters in that order, so it is its own normal form.

* `ordered`: the parameters in the order of the headers.
* `elements_implHeader`, `elements_typeHeader`: the elements of both headers.
* `settled`: the parameters as they are read again.
-/

namespace Accessors.Declaration

open Accessors.Token
open Accessors.Grammar
open Recogniser

/-- Lifetimes in front, otherwise in order. -/
def ordered (ps : List Parameter) : List Parameter :=
  ps.filter (·.isLifetime) ++ ps.filter (!·.isLifetime)

/-- A parameter as an element of a list. -/
def Parameter.listed (write : Parameter → List Tree) (p : Parameter) : Listed :=
  ⟨p.isLifetime, write p, p.comma⟩

theorem lifetimesFirst_map (write : Parameter → List Tree) (ps : List Parameter) :
    lifetimesFirst (ps.map (Parameter.listed write)) = (ordered ps).map (Parameter.listed write) := by
  simp only [lifetimesFirst, ordered, List.filter_map, List.map_append]
  rfl

/-- In that order only the last parameter has no comma, or a lifetime that was the last one before. -/
theorem comma_or_lifetime_ordered {ps : List Parameter} (h : ∀ p ∈ ps.dropLast, p.comma = true) :
    ∀ p ∈ (ordered ps).dropLast, p.comma = true ∨ p.isLifetime = true := by
  have hes : ∀ e ∈ (ps.map (Parameter.listed Parameter.declared)).dropLast, e.comma = true := by
    rw [← List.map_dropLast]
    intro e he
    obtain ⟨p, hp, rfl⟩ := List.mem_map.1 he
    exact h p hp
  have hall := comma_or_lifetime hes
  rw [lifetimesFirst_map, ← List.map_dropLast] at hall
  exact fun p hp => hall _ (List.mem_map_of_mem hp)

theorem angled_eq {write : Parameter → List Tree} {ps : List Parameter} (hne : ps ≠ []) :
    angled write ps =
      operator ['<'] ++ joined ((ordered ps).map (Parameter.listed write)) ++ operator ['>'] := by
  rw [angled, if_neg (by simpa using hne)]
  change operator ['<'] ++ joined (lifetimesFirst (ps.map (Parameter.listed write))) ++ operator ['>'] = _
  rw [lifetimesFirst_map]

theorem angled_eq_nil {write : Parameter → List Tree} {ps : List Parameter} :
    angled write ps = [] ↔ ps = [] := by
  constructor
  · intro h
    by_contra hne
    rw [angled_eq hne] at h
    simp [operator] at h
  · rintro rfl
    rfl

theorem perm_ordered (ps : List Parameter) : (ordered ps).Perm ps := List.filter_append_perm _ ps

theorem mem_ordered {p : Parameter} {ps : List Parameter} : p ∈ ordered ps ↔ p ∈ ps :=
  (perm_ordered ps).mem_iff

/-- The elements of a list that is written down are its elements. -/
theorem elements_joined {es : List Listed}
    (h : ∀ e ∈ es, Level.outside.behind? e.trees = some .outside ∧ e.trees ≠ []) :
    elements (joined es) = es.map (·.trees) := by
  induction es with
  | nil => rfl
  | cons e es ih =>
    obtain ⟨⟨hlevel, hne⟩, hes⟩ := List.forall_mem_cons.1 h
    rw [joined_cons]
    split
    · rw [commaTree, elements_append hlevel hne, ih hes, List.map_cons]
    · next hlast =>
      obtain rfl : es = [] := by simp_all
      rw [List.append_nil, elements_singleton hlevel hne]
      rfl

theorem elements_angled {write : Parameter → List Tree} {ps : List Parameter} (hne : ps ≠ [])
    (h : ∀ p ∈ ps, Level.outside.behind? (write p) = some .outside ∧ write p ≠ []) :
    ∃ body, angled write ps = operator ['<'] ++ body ++ operator ['>'] ∧
      elements body = (ordered ps).map write := by
  refine ⟨_, angled_eq hne, ?_⟩
  rw [elements_joined, List.map_map]
  · rfl
  · intro e he
    obtain ⟨p, hp, rfl⟩ := List.mem_map.1 he
    exact h p (mem_ordered.1 hp)

/-- What an implementation declares for a parameter is one element of a list. -/
theorem Parameter.Recurs.level {p : Parameter} (h : p.Recurs) :
    Level.outside.behind? p.declared = some .outside ∧ p.declared ≠ [] := by
  obtain ⟨⟨_, hattributes⟩, ⟨_, hsaid⟩, -⟩ := h
  have hfront := hattributes.level_printed (fun _ => ⟨rfl, rfl⟩) rfl
  have hbehind := hsaid.level_printed (by cases p.kind <;> exact fun _ => ⟨rfl, rfl⟩) (.inl rfl)
  obtain ⟨hopening, hne⟩ := p.level_opening
  obtain ⟨clause, hdeclared, hclause⟩ := p.exists_declared_eq
  have hlevel : Level.outside.behind? clause = some .outside := by
    rcases hclause with rfl | rfl
    · rfl
    · exact hbehind
  rw [hdeclared]
  exact ⟨by simp [Level.behind?_append, hfront, hopening, hlevel], by simp [hne]⟩

/-! ## Lists of parameters -/

/-- What closes a list ends its last parameter. -/
theorem endsParameter_of_isPunct {ts : List Tree} (h : isPunct ">" ts = true) : EndsParameter ts := by
  obtain ⟨joint, rest, rfl⟩ := eq_cons_of_isPunct (c := '>') rfl h
  exact .inr ⟨'>', joint, rest, .inr rfl, rfl⟩

/-- The parameters of a list were found in its elements. Only the last one can have no comma behind it. -/
theorem parameters_of_lists {fuel : Nat} {rest ts : List Tree} {parts : List (Node Shape)}
    (h : Lists (recogniseWithin rule fuel) .generic rest ts parts) {ps : List Parameter}
    (hps : (commaListed parts).mapM Parameter.ofNode? = some ps) :
    List.Forall₂ Parameter.FoundIn ps (elements (treesOf parts)) ∧ ∀ p ∈ ps.dropLast, p.comma = true := by
  induction h generalizing ps with
  | nil hclose =>
    cases hps
    exact ⟨.nil, nofun⟩
  | @last ts k hk hrest hclose =>
    obtain ⟨p, _, hp, hnil, rfl⟩ := mapM_cons_eq_some.1 hps
    cases hnil
    obtain ⟨hfound, -⟩ := parameter_of_generic hk (hrest ▸ endsParameter_of_isPunct hclose) hp
    rw [treesOf_cons, trees_phrase, treesOf_nil, List.append_nil,
      elements_singleton hfound.level hfound.nonempty]
    exact ⟨.cons hfound .nil, nofun⟩
  | @cons ts more k joint parts hk hcomma h ih =>
    obtain ⟨p, ps, hp, hmore, rfl⟩ := mapM_cons_eq_some.1 hps
    obtain ⟨hfound, hpcomma⟩ := parameter_of_generic hk (.inr ⟨',', joint, more, .inl rfl, hcomma⟩) hp
    obtain ⟨hall, hcommas⟩ := ih hmore
    rw [treesOf_cons, trees_phrase, treesOf_cons, trees_tree, List.singleton_append,
      elements_append hfound.level hfound.nonempty]
    refine ⟨.cons hfound hall, fun q hq => ?_⟩
    cases ps with
    | nil => cases hq
    | cons first others =>
      rcases List.mem_cons.1 hq with rfl | hq
      · exact hpcomma
      · exact hcommas q hq

/-- The parameters as they are read again: behind all but the last one there is a comma. -/
def settled : List Parameter → List Parameter
  | [] => []
  | [p] => [p]
  | p :: rest => { p with comma := true } :: settled rest

/-- The declaration with its parameters as an implementation declares them. -/
def settle (d : Accessors.Declaration) : Accessors.Declaration :=
  { d with parameters := settled (ordered d.parameters) }

theorem settled_cons (p : Parameter) (ps : List Parameter) : settled (p :: ps) =
    { p with comma := p.comma || !ps.isEmpty } :: settled ps := by
  cases ps with
  | nil => simp [settled]
  | cons q ps => simp [settled]

theorem joined_settled {write : Parameter → List Tree}
    (hwrite : ∀ p comma, write { p with comma := comma } = write p) (ps : List Parameter) :
    joined ((settled ps).map (Parameter.listed write)) = joined (ps.map (Parameter.listed write)) := by
  induction ps with
  | nil => rfl
  | cons p ps ih =>
    have hnone : ((settled ps).map (Parameter.listed write)).isEmpty = ps.isEmpty := by
      cases ps with
      | nil => rfl
      | cons q ps => simp [settled_cons]
    rw [settled_cons, List.map_cons, List.map_cons, joined_cons, joined_cons, ih, hnone, List.isEmpty_map]
    simp [Parameter.listed, hwrite]

theorem settled_eq_nil {ps : List Parameter} : settled ps = [] ↔ ps = [] := by
  cases ps with
  | nil => exact Iff.rfl
  | cons p ps => simp [settled_cons]

/-- **Parameters that are read again are declared in the same way.** -/
theorem angled_settled {write : Parameter → List Tree}
    (hwrite : ∀ p comma, write { p with comma := comma } = write p) (ps : List Parameter) :
    angled write (settled (ordered ps)) = angled write ps := by
  by_cases hnone : ps = []
  · subst hnone
    rfl
  · have hne : settled (ordered ps) ≠ [] := fun h =>
      hnone (List.nil_perm.1 (settled_eq_nil.1 h ▸ perm_ordered ps))
    -- They have their lifetimes in front already.
    have hlifetimes (ps : List Parameter) : (settled ps).map (·.isLifetime) = ps.map (·.isLifetime) := by
      induction ps with
      | nil => rfl
      | cons p ps ih => rw [settled_cons, List.map_cons, List.map_cons, ih]; rfl
    have hsorted : ((settled (ordered ps)).map (Parameter.listed write)).Pairwise
        fun a b => b.lifetime → a.lifetime := by
      have hbefore := pairwise_lifetimesFirst (ps.map (Parameter.listed write))
      rw [lifetimesFirst_map, List.pairwise_map] at hbefore
      have hmap : ((ordered ps).map (·.isLifetime)).Pairwise fun a b : Bool => b = true → a = true :=
        List.pairwise_map.2 hbefore
      rw [← hlifetimes] at hmap
      exact List.pairwise_map.2 (List.pairwise_map.1 hmap)
    rw [angled_eq hne, angled_eq hnone, ← lifetimesFirst_map, lifetimesFirst_of_pairwise hsorted,
      joined_settled hwrite]

theorem implHeader_settle (d : Accessors.Declaration) : d.settle.implHeader = d.implHeader :=
  angled_settled (fun _ _ => rfl) d.parameters

theorem typeHeader_settle (d : Accessors.Declaration) : d.settle.typeHeader = d.typeHeader :=
  angled_settled (fun _ _ => rfl) d.parameters

theorem mapM_of_alternating {ps : List Parameter} {parts : List (Node Shape)}
    (h : Alternating (·.comma) Parameter.ReadAs ps parts) :
    (commaListed parts).mapM Parameter.ofNode? = some (settled ps) := by
  induction h with
  | nil => rfl
  | @last p n hn hcomma =>
    rw [commaListed, settled]
    exact mapM_cons_eq_some.2 ⟨_, [], hn false, rfl, by rw [← hcomma]⟩
  | @cons p n ps parts hn hmore t h ih =>
    rw [settled_cons, hmore, commaListed]
    exact mapM_cons_eq_some.2 ⟨_, _, hn true, ih, rfl⟩

/-- Attributes are found up to what is no attribute. -/
theorem isPunct_of_attributes {fuel : Nat} : ∀ {present : Bool} {ts : List Tree} {k : Found Shape Shape},
    recogniseWithin rule fuel (.attributes present) ts = some k → isPunct "#" k.rest = false := by
  induction fuel with
  | zero => intro present ts k hk; cases hk
  | succ fuel ih =>
    intro present ts k hk
    change (attributesProgram present).run (recogniseWithin rule fuel) ts = some k at hk
    rw [attributesProgram, run_ahead_bind] at hk
    split at hk
    · obtain ⟨_, _, l, -, hl, rfl⟩ := run_take_bind.1 hk
      obtain ⟨_, -, m, hm, rfl⟩ := run_bind.1 hl
      have hstop := ih (run_splice.1 hm)
      exact hstop
    · next hno =>
      rw [run_pure] at hk
      subst hk
      exact Bool.eq_false_iff.2 hno

/-- No parameter begins with a closing bracket. -/
theorem begins_of_generic {ts : List Tree} {f : Found Shape Shape} (hf : Phrase.generic.find ts = some f) :
    isPunct ">" ts = false := by
  rw [Bool.eq_false_iff]
  intro h
  obtain ⟨joint, rest, rfl⟩ := eq_cons_of_isPunct (c := '>') rfl h
  rw [find_eq_run rfl] at hf
  change genericProgram.run Phrase.find _ = _ at hf
  rw [genericProgram_eq] at hf
  obtain ⟨a, l, ha, hl, -⟩ := run_call_bind.1 hf
  have hrest : a.rest = .leaf (.punct '>' joint) :: rest := rest_of_attributes _ ha
  rw [hrest] at hl
  cases hl

/-- **Parameters are found again** between the brackets that they are declared in. -/
theorem find_generics {ps : List Parameter} {back : List Tree} (hps : ∀ p ∈ ps, p.Recurs)
    (hcommas : ∀ p ∈ ps.dropLast, p.comma = true ∨ p.isLifetime = true) :
    ∃ f, Phrase.generics.find (operator ['<'] ++ joined (ps.map (Parameter.listed Parameter.declared)) ++
        operator ['>'] ++ back) = some f ∧ f.rest = back ∧
      parametersOf? (.phrase f.result f.parts) = some (settled ps) := by
  have hes : ∀ p ∈ ps, ∀ beyond, Precedes (p.listed Parameter.declared) (operator ['>'] ++ back) beyond →
      ∃ f, Phrase.generic.find ((p.listed Parameter.declared).trees ++ beyond) = some f ∧ f.rest = beyond ∧
        p.ReadAs (.phrase f.result f.parts) := by
    intro p hp beyond hbeyond
    refine (hps p hp).foundBefore ?_
    rcases hbeyond with ⟨-, rest, rfl⟩ | ⟨-, rfl⟩
    · exact .inr ⟨',', false, rest, .inl rfl, rfl⟩
    · exact .inr ⟨'>', false, back, .inr rfl, rfl⟩
  obtain ⟨parts, hlist, halternating, -⟩ := find_joined (Parameter.listed Parameter.declared)
    (show rule .genericList = listProgram .plain .generic .genericList from rfl) rfl
    (fun _ _ => begins_of_generic) rfl hes hcommas
  refine ⟨⟨.plain, .tree (.leaf (.punct '<' false)) :: (parts ++ [.tree (.leaf (.punct '>' false))]),
    back⟩, ?_, rfl, ?_⟩
  · rw [find_eq_run rfl]
    change genericsProgram.run Phrase.find _ = _
    rw [genericsProgram, run_ahead_bind, List.append_assoc, List.append_assoc]
    exact run_take_bind.2 ⟨_, _, ⟨.plain, parts ++ [.tree (.leaf (.punct '>' false))], back⟩, rfl,
      run_splice_bind.2 ⟨_, ⟨.plain, [.tree (.leaf (.punct '>' false))], back⟩, hlist,
        (run_expect_bind (c := '>') rfl).2 ⟨false, back, ⟨.plain, [], back⟩, rfl, rfl, rfl⟩, rfl⟩, rfl⟩
  · rw [parametersOf?, List.dropLast_concat]
    exact mapM_of_alternating halternating

/-- **Parameters are written one by one between angle brackets**, or there are none. -/
inductive Written (P : Parameter → List Tree → Prop) : List Parameter → List Tree → Prop
  | none : Written P [] []
  | list {ps : List Parameter} {body : List Tree} (i j : Bool) (h : List.Forall₂ P ps (elements body)) :
    Written P ps (.leaf (.punct '<' i) :: body ++ [.leaf (.punct '>' j)])

theorem Written.exists_of_mem {P : Parameter → List Tree → Prop} {ps : List Parameter} {ts : List Tree}
    (h : Written P ps ts) {p : Parameter} (hp : p ∈ ps) : ∃ written, P p written := by
  cases h with
  | none => cases hp
  | @list _ body i j h =>
    generalize elements body = es at h
    induction h with
    | nil => cases hp
    | cons hfirst _ ih =>
      rcases List.mem_cons.1 hp with rfl | hp
      · exact ⟨_, hfirst⟩
      · exact ih hp

theorem Written.imp {P Q : Parameter → List Tree → Prop} (hPQ : ∀ p ts, P p ts → Q p ts)
    {ps : List Parameter} {ts : List Tree} (h : Written P ps ts) : Written Q ps ts := by
  cases h with
  | none => exact .none
  | list i j h => exact .list i j (h.imp hPQ)

/-- The parameters of a declaration were found in what stands behind its name. -/
theorem written_of_generics {fuel : Nat} {ts : List Tree} {k : Found Shape Shape}
    (hk : recogniseWithin rule fuel .generics ts = some k) {ps : List Parameter}
    (hps : parametersOf? (.phrase k.result k.parts) = some ps) :
    Written Parameter.FoundIn ps (treesOf k.parts) ∧ ∀ p ∈ ps.dropLast, p.comma = true := by
  cases fuel with
  | zero => cases hk
  | succ fuel =>
    change genericsProgram.run (recogniseWithin rule fuel) ts = some k at hk
    rw [genericsProgram, run_ahead_bind] at hk
    split at hk
    · next hopen =>
      obtain ⟨i, rest, rfl⟩ := eq_cons_of_isPunct (c := '<') rfl hopen
      obtain ⟨_, _, l, heq, hl, rfl⟩ := run_take_bind.1 hk
      cases heq
      obtain ⟨list, m, hlist, hm, rfl⟩ := run_splice_bind.1 hl
      obtain ⟨j, behind, n, -, hn, rfl⟩ := (run_expect_bind (c := '>') rfl).1 hm
      rw [run_pure] at hn
      subst hn
      obtain ⟨-, hlists⟩ := lists_of_recogniseWithin
        (show rule .genericList = listProgram .plain .generic .genericList from rfl) (Nat.le_succ fuel) hlist
      have hparts : (commaListed list.parts).mapM Parameter.ofNode? = some ps := by
        simpa [Found.after, parametersOf?, ← List.cons_append, -List.cons_append] using hps
      obtain ⟨hall, hcommas⟩ := parameters_of_lists hlists hparts
      refine ⟨?_, hcommas⟩
      have hwritten : Written Parameter.FoundIn ps _ := .list i j hall
      simpa [Found.after, treesOf_append] using hwritten
    · rw [run_pure] at hk
      subst hk
      cases hps
      exact ⟨.none, by simp⟩

end Accessors.Declaration
