import Accessors.Proofs.Grammar.AgainOdd

/-!
# Finding arguments again

Arguments in angle brackets are printed with the lifetimes first, and empty brackets are left out in front
of arguments in parentheses. A segment looks at two brackets and at what stands behind them, so it has to
be known that these are empty in the one form if they are in the other.

* `find_angleArguments`: what the brackets are found in, and whether they are empty.
* `again_segment`, `again_angleArguments`, `again_capture`: what takes arguments is found again.
-/

namespace Accessors.Grammar

open Accessors.Token
open Recogniser

attribute [local instance] lawfulMonad
attribute [-simp] bind_pure_comp map_pure List.drop_one List.isEmpty_iff

variable {printed : Bool} {again : Phrase → List Tree → Option (Found Shape Shape)} {ts us : List Tree}
  {f : Found Shape Shape}

/-! ## What arguments begin with -/

/-- No type begins with the character. -/
theorem find_type_punct {c : Char} (hc : c = '=' ∨ c = '>') {plus joint : Bool} :
    (Phrase.type plus).find (.leaf (.punct c joint) :: ts) = none := by
  rw [find_eq_run rfl]
  rcases hc with rfl | rfl <;> rfl

/-- Nor with a bracket in front of it. -/
theorem find_type_bracket {plus i j : Bool} :
    (Phrase.type plus).find (.leaf (.punct '<' i) :: .leaf (.punct '=' j) :: ts) = none := by
  rw [Option.eq_none_iff_forall_ne_some]
  intro f hf
  rw [find_eq_run rfl] at hf
  have hnamed : (Phrase.namedType false plus).find (.leaf (.punct '<' i) :: .leaf (.punct '=' j) :: ts) =
    some f := run_splice.1 hf
  rw [find_eq_run rfl] at hnamed
  obtain ⟨k, -, hk, -⟩ := run_splice_bind.1 hnamed
  rw [find_eq_run rfl] at hk
  obtain ⟨_, _, l, heq, hl, -⟩ := (run_take_bind (k := fun _ => _)).1 hk
  cases heq
  obtain ⟨m, -, hm, -⟩ := run_call_bind.1 hl
  rw [find_type_punct (.inl rfl)] at hm
  cases hm

/-- No argument begins with the character, nor with a bracket that goes on as an operator with it. -/
theorem begins_of_argument (hf : Phrase.argument.find ts = some f) :
    isPunct ">" ts = false ∧ isPunct "=" ts = false ∧ isPunct "<=" ts = false := by
  rw [find_eq_run rfl, show rule .argument = argumentProgram from rfl, argumentProgram,
    run_ahead_bind] at hf
  have hnone {c : Char} {joint : Bool} {rest : List Tree} (hts : ts = .leaf (.punct c joint) :: rest)
      (hlifetime : isLifetime ts = false) (hconstant : facesConstant ts = false)
      (hc : (Phrase.type true).find ts = none) : False := by
    rw [hlifetime, hconstant, Bool.false_and, if_neg Bool.false_ne_true, if_neg Bool.false_ne_true] at hf
    obtain ⟨j, _, hj, -⟩ := run_call_bind.1 hf
    rw [hc] at hj
    cases hj
  refine ⟨?_, ?_, ?_⟩
  · rw [Bool.eq_false_iff]
    intro h
    obtain ⟨joint, rest, rfl⟩ := eq_cons_of_isPunct rfl h
    exact hnone rfl rfl rfl (find_type_punct (.inr rfl))
  · rw [Bool.eq_false_iff]
    intro h
    obtain ⟨joint, rest, rfl⟩ := eq_cons_of_isPunct rfl h
    exact hnone rfl rfl rfl (find_type_punct (.inl rfl))
  · rw [Bool.eq_false_iff]
    intro h
    have hchars : isPunctChars ['<', '='] ts = true := h
    obtain ⟨i, rest, rfl, hmore⟩ := eq_cons_of_isPunctChars hchars
    obtain ⟨rfl, hequals⟩ := hmore (by simp)
    obtain ⟨j, rest, rfl, -⟩ := eq_cons_of_isPunctChars hequals
    exact hnone rfl rfl rfl find_type_bracket

/-! ## Arguments in angle brackets -/

/-- A list of arguments begins with an argument, or ends at once. -/
theorem find_argumentList (hf : Phrase.argumentList.find ts = some f) :
    (isPunct ">" ts = true ∧ f.rest = ts) ∨
      (isPunct ">" ts = false ∧ isPunct "=" ts = false ∧ isPunct "<=" ts = false) := by
  rw [find_eq_run rfl, show rule .argumentList = argumentListProgram from rfl, argumentListProgram,
    run_ahead_bind] at hf
  split at hf
  · next hclose =>
    rw [run_pure] at hf
    subst hf
    exact .inl ⟨hclose, rfl⟩
  · obtain ⟨j, _, hj, -⟩ := run_call_bind.1 hf
    exact .inr (begins_of_argument hj)

/-- What arguments in angle brackets are found in. What comes behind the opening bracket closes it, or
is no operator with it; the shape tells which. -/
theorem find_angleArguments (hf : Phrase.angleArguments.find ts = some f) :
    ∃ joint rest, ts = .leaf (.punct '<' joint) :: rest ∧ f.result = .segment true (!isPunct ">" rest) ∧
      (isPunct ">" rest = true → f.rest = rest.drop 1) ∧ isPunct "=" rest = false ∧
      isPunct "<=" rest = false := by
  rw [find_eq_run rfl] at hf
  obtain ⟨joint, rest, k, rfl, hk, rfl⟩ := (run_expect_bind (c := '<') rfl).1 hf
  rw [run_ahead_bind] at hk
  obtain ⟨list, l, hlist, hl, rfl⟩ := run_call_bind.1 hk
  obtain ⟨closing, behind, m, hclosing, hm, rfl⟩ := (run_expect_bind (c := '>') rfl).1 hl
  rw [run_pure] at hm
  subst hm
  refine ⟨joint, rest, rfl, rfl, ?_⟩
  rcases find_argumentList hlist with ⟨hclose, hrest⟩ | ⟨hopen, hequals, hless⟩
  · obtain ⟨i, others, rfl⟩ := eq_cons_of_isPunct (c := '>') rfl hclose
    rw [hrest] at hclosing
    cases hclosing
    exact ⟨fun _ => rfl, rfl, rfl⟩
  · exact ⟨fun hclose => absurd hclose (by simp [hopen]), hequals, hless⟩

/-- Arguments in angle brackets give way to others in parentheses if they are empty. -/
theorem facesReplacedArguments_of_find (hf : Phrase.angleArguments.find ts = some f) :
    facesReplacedArguments ts = (f.result == .segment true false && isParenthesis f.rest) := by
  obtain ⟨joint, rest, rfl, hshape, hrest, -⟩ := find_angleArguments hf
  rw [hshape, facesReplacedArguments]
  change (true && isPunct ">" rest && isParenthesis (rest.drop 1)) = _
  cases hclose : isPunct ">" rest with
  | true => rw [hrest hclose]; rfl
  | false => rfl

/-- The opening bracket is no comparison. -/
theorem isOpening_of_find (hf : Phrase.angleArguments.find ts = some f) :
    isPunct "<" ts = true ∧ isPunct "<=" ts = false ∧ isPunct "<<=" ts = false := by
  obtain ⟨joint, rest, rfl, -, -, hequals, hless⟩ := find_angleArguments hf
  refine ⟨rfl, ?_, ?_⟩
  · change (true && joint && isPunct "=" rest) = false
    rw [hequals, Bool.and_false]
  · change (true && joint && isPunct "<=" rest) = false
    rw [hless, Bool.and_false]

/-! ## Segments -/

/-- Where no bracket opens arguments, none are replaced. -/
theorem not_facesReplacedArguments
    (hopen : (isPunct "<" ts && !isPunct "<=" ts && !isPunct "<<=" ts) = false)
    (hseparated : (isPunct "::" ts && isPunct "<" (ts.drop 2)) = false) :
    facesReplacedArguments (ts.drop (separatorSize ts)) = false := by
  unfold separatorSize
  split
  · next hseparator =>
    rw [hseparator, Bool.true_and] at hseparated
    rw [facesReplacedArguments, hseparated, Bool.false_and, Bool.false_and]
  · rw [List.drop_zero]
    cases hless : isPunct "<" ts with
    | false => rw [facesReplacedArguments, hless, Bool.false_and, Bool.false_and]
    | true =>
      obtain ⟨joint, rest, rfl⟩ := eq_cons_of_isPunct (c := '<') rfl hless
      -- The bracket is part of an operator, which does not go on with the closing one.
      cases hclose : isPunct ">" rest with
      | false =>
        change (true && isPunct ">" rest && _) = false
        rw [hclose, Bool.true_and, Bool.false_and]
      | true =>
        obtain ⟨i, rest, rfl⟩ := eq_cons_of_isPunct (c := '>') rfl hclose
        change (true && !(true && joint && false) && !(true && joint && false)) = false at hopen
        simp at hopen

/-- A segment without arguments. -/
theorem run_segmentArguments_none {e : Bool}
    {find : Phrase → List Tree → Option (Found Shape Shape)}
    (hopen : (!e && isPunct "<" ts && !isPunct "<=" ts && !isPunct "<<=" ts) = false)
    (hseparated : (isPunct "::" ts && isPunct "<" (ts.drop 2)) = false) :
    (segmentArguments e).run find ts = some ⟨.segment false false, [], ts⟩ := by
  have hreplaced : (!e && facesReplacedArguments (ts.drop (separatorSize ts))) = false := by
    cases e with
    | true => rfl
    | false => rw [not_facesReplacedArguments (by simpa using hopen) hseparated, Bool.and_false]
  rw [segmentArguments, run_ahead_bind]
  simp [hopen, hseparated, hreplaced]

/-- A segment of a type with arguments. -/
theorem run_segmentArguments_angles (hf : Phrase.angleArguments.find ts = some f)
    (hreplaced : facesReplacedArguments ts = false) :
    (segmentArguments false).run Phrase.find ts = some f := by
  obtain ⟨hless, hequals, hshift⟩ := isOpening_of_find hf
  have hseparator : separatorSize ts = 0 := by
    obtain ⟨joint, rest, rfl, -⟩ := find_angleArguments hf
    rfl
  rw [segmentArguments, run_ahead_bind]
  simp [hseparator, hreplaced, hless, hequals, hshift, hf]

/-- A segment with a separator in front of its arguments. -/
theorem run_segmentArguments_separated {e : Bool} {joint : Bool}
    (hf : Phrase.angleArguments.find ts = some f)
    (hreplaced : (!e && facesReplacedArguments ts) = false) :
    (segmentArguments e).run Phrase.find (.leaf (.punct ':' true) :: .leaf (.punct ':' joint) :: ts) =
      some (f.after [.tree (.leaf (.punct ':' true)), .tree (.leaf (.punct ':' joint))]) := by
  have hless := (isOpening_of_find hf).1
  rw [segmentArguments, run_ahead_bind]
  have hopen : (!e && isPunct "<" (.leaf (.punct ':' true) :: .leaf (.punct ':' joint) :: ts)) = false := by
    cases e <;> rfl
  have hseparator : isPunct "::" (.leaf (.punct ':' true) :: .leaf (.punct ':' joint) :: ts) = true := rfl
  simp only [separatorSize, hseparator, if_true, List.drop_succ_cons, List.drop_zero, hreplaced, hopen,
    hless, Bool.false_and, Bool.true_and, if_false, Bool.false_eq_true]
  exact run_bind.2 ⟨_, run_takeMany.2 ⟨by simp, rfl⟩, f, run_splice.2 hf, rfl⟩

/-- What a segment has behind its name is found again. Left out behind a leaf, it leaves no brace. -/
structure SegmentAgain (printed e : Bool) (f : Found Shape Shape) (us : List Tree) : Prop where
  again : ∃ parts, (segmentArguments e).run Phrase.find (formOf printed f.parts ++ us) =
    some ⟨f.result, parts, us⟩ ∧ formOf printed parts = formOf printed f.parts
  ends : ∀ l, lastBrace (.leaf l :: formOf printed f.parts) = lastBrace (.leaf l :: treesOf f.parts)

/-- What is left out is left out again. -/
theorem find_hidden {left : List Tree} :
    (Phrase.hidden left.length).find (left ++ us) = some ⟨.silent, left.map .tree, us⟩ := by
  rw [find_eq_run rfl]
  change (takeMany left.length >>= fun _ => pure Shape.silent).run Phrase.find _ = _
  refine run_bind.2 ⟨_, run_takeMany.2 ⟨by simp, rfl⟩, _, rfl, ?_⟩
  simp [Found.after]

variable (h : Recurring printed again)
include h

/-- Empty brackets in front of arguments in parentheses. -/
theorem again_hidden {left : List Tree} (hleft : Hidden left) (hsize : left.length = separatorSize ts + 2)
    (hfound : again (.hidden (separatorSize ts + 2)) (left ++ f.rest) = some f)
    (hcall : isParenthesis us = true) :
    SegmentAgain printed false ⟨.segment false false, [.phrase f.result f.parts], f.rest⟩ us := by
  have hshape : f.result = .silent := by
    simpa [Phrase.yields] using h.keeping.yields _ _ _ rfl hfound
  have htrees : treesOf f.parts = left := List.append_cancel_right (h.keeping.faithful _ _ _ hfound)
  obtain ⟨body, others, rfl⟩ := eq_cons_of_isGroup hcall
  have hends (l : Leaf) : lastBrace (.leaf l :: left) = some false := by
    cases hleft <;> rfl
  cases printed with
  | true =>
    have hform : formOf true [Node.phrase f.result f.parts] = [] := by rw [hshape]; rfl
    refine ⟨⟨[], ?_, by rw [hform, formOf_nil]⟩, fun l => ?_⟩
    · rw [hform]
      exact run_segmentArguments_none rfl rfl
    · rw [hform, treesOf_cons, trees_phrase, htrees, treesOf_nil, List.append_nil, hends]
      rfl
  | false =>
    have hform : formOf false [Node.phrase f.result f.parts] = left := by
      simp [formOf, htrees]
    refine ⟨⟨[.phrase .silent (left.map .tree)], ?_, ?_⟩, fun l => rfl⟩
    · rw [hform]
      have hsize' : separatorSize (left ++ .group .parenthesis body :: others) + 2 = left.length := by
        cases hleft <;> rfl
      have hreplaced : facesReplacedArguments ((left ++ .group .parenthesis body :: others).drop
          (separatorSize (left ++ .group .parenthesis body :: others))) = true := by
        cases hleft <;> rfl
      rw [segmentArguments, run_ahead_bind]
      simp only [hreplaced, Bool.not_false, Bool.and_self, if_true, hsize']
      exact run_call_bind.2 ⟨_, _, find_hidden, rfl, rfl⟩
    · have hmap : formOf false (left.map .tree) = left := formOf_map_tree left
      rw [hform]
      simpa [formOf] using hmap

/-- Arguments in angle brackets are found again, and give way to others in parentheses if they did
before. -/
theorem again_arguments (hf : again .angleArguments ts = some f) (hrest : Tidied false .other f.rest us) :
    FoundAgain printed Phrase.angleArguments.find f us ∧
      facesReplacedArguments (formOf printed f.parts ++ us) = facesReplacedArguments ts := by
  have hagain := h.parts rfl (fun _ => rfl) hf hrest
  obtain ⟨parts, hparts, -⟩ := hagain.again
  refine ⟨hagain, ?_⟩
  rw [facesReplacedArguments_of_find hparts, facesReplacedArguments_of_find (h.found rfl hf)]
  exact congrArg _ (hrest.isParenthesis_eq rfl).symm

omit h in
/-- A leaf in front does not change what trees end with. -/
theorem lastBrace_cons (l : Leaf) {a b : List Tree} (hends : lastBrace a = lastBrace b) :
    lastBrace (.leaf l :: a) = lastBrace (.leaf l :: b) := by
  have hsplit (ts : List Tree) : lastBrace (.leaf l :: ts) = (lastBrace ts).or (some false) :=
    lastBrace_append [.leaf l] ts
  rw [hsplit, hsplit, hends]

/-- Arguments right behind the name. -/
theorem again_angles (hf : again .angleArguments ts = some f)
    (hreplaced : facesReplacedArguments ts = false) (hrest : Tidied false .other f.rest us) :
    SegmentAgain printed false f us := by
  obtain ⟨hagain, hsame⟩ := again_arguments h hf hrest
  obtain ⟨parts, hparts, hform⟩ := hagain.again
  exact ⟨⟨parts, run_segmentArguments_angles hparts (hsame.trans hreplaced), hform⟩,
    fun l => lastBrace_cons l hagain.ends⟩

/-- Arguments behind a separator. -/
theorem again_separated {e joint : Bool} (hf : again .angleArguments ts = some f)
    (hreplaced : (!e && facesReplacedArguments ts) = false) (hrest : Tidied false .other f.rest us) :
    SegmentAgain printed e
      (f.after [.tree (.leaf (.punct ':' true)), .tree (.leaf (.punct ':' joint))]) us := by
  obtain ⟨hagain, hsame⟩ := again_arguments h hf hrest
  obtain ⟨parts, hparts, hform⟩ := hagain.again
  rw [← hsame] at hreplaced
  refine ⟨⟨.tree (.leaf (.punct ':' true)) :: .tree (.leaf (.punct ':' joint)) :: parts, ?_, ?_⟩,
    fun l => ?_⟩
  · simpa [Found.after] using run_segmentArguments_separated hparts hreplaced
  · simp [Found.after, hform]
  · simpa [Found.after] using
      lastBrace_cons l (lastBrace_cons (.punct ':' true) (lastBrace_cons (.punct ':' joint) hagain.ends))

theorem again_segmentArguments {e : Bool} (hf : (segmentArguments e).run again ts = some f)
    (hrest : Tidied false .other f.rest us) : SegmentAgain printed e f us := by
  rw [segmentArguments, run_ahead_bind] at hf
  dsimp only at hf
  split at hf
  · next hreplaced =>
    simp only [Bool.and_eq_true, Bool.not_eq_true'] at hreplaced
    obtain ⟨rfl, hreplaced⟩ := hreplaced
    obtain ⟨left, rest, rfl, hleft, hsize, hcall⟩ := hidden_of_facesReplacedArguments hreplaced
    obtain ⟨found, k, hfound, hk, rfl⟩ := run_call_bind.1 hf
    rw [run_pure] at hk
    subst hk
    have hdrop : found.rest = rest := by
      rw [(h.keeping.hidden hfound (by simp)).1, ← hsize, List.drop_left]
    subst hdrop
    have hcall' : isParenthesis us = true := hrest.isParenthesis_of (by simp) hcall
    exact again_hidden h hleft hsize hfound hcall'
  next hreplaced =>
  rw [Bool.not_eq_true] at hreplaced
  split at hf
  · next hopen =>
    simp only [Bool.and_eq_true, Bool.not_eq_true'] at hopen
    obtain ⟨⟨⟨rfl, hless⟩, -⟩, -⟩ := hopen
    obtain ⟨joint, rest, rfl⟩ := eq_cons_of_isPunct (c := '<') rfl hless
    exact again_angles h (run_splice.1 hf) hreplaced hrest
  next hopen =>
  split at hf
  · next hseparated =>
    rw [Bool.and_eq_true] at hseparated
    obtain ⟨joint, rest, rfl⟩ := eq_cons_of_separator hseparated.1
    obtain ⟨_, hk, k, hk', rfl⟩ := run_bind.1 hf
    obtain ⟨-, rfl⟩ := run_takeMany.1 hk
    exact again_separated h (run_splice.1 hk') hreplaced hrest
  · next hseparated =>
    rw [Bool.not_eq_true] at hopen hseparated
    rw [run_pure] at hf
    subst hf
    have hbrackets : Asks false fun ts =>
        !e && isPunct "<" ts && !isPunct "<=" ts && !isPunct "<<=" ts :=
      asks_and (asks_and (asks_and asks_const (asks_isPunct (by decide)))
        (asks_not (asks_isPunct (by decide)))) (asks_not (asks_isPunct (by decide)))
    have hopen' := (hbrackets _ _ hrest).symm.trans hopen
    have hseparated' := ((asks_separated : Asks false _) _ _ hrest).symm.trans hseparated
    exact ⟨⟨[], by simpa using run_segmentArguments_none hopen' hseparated', rfl⟩, fun l => by simp⟩

omit h in
/-- A segment is found again with its name in front. -/
theorem SegmentAgain.behind {e : Bool} {i : Ident} (h : SegmentAgain printed e f us)
    (hrun : ∀ {us l}, (segmentArguments e).run Phrase.find us = some l →
      (segmentProgram e).run Phrase.find (.leaf (.ident i) :: us) =
        some (l.after [.tree (.leaf (.ident i))])) :
    FoundAgain printed ((segmentProgram e).run Phrase.find) (f.after [.tree (.leaf (.ident i))]) us := by
  obtain ⟨⟨parts, hparts, hsame⟩, hends⟩ := h
  refine ⟨⟨.tree (.leaf (.ident i)) :: parts, ?_, ?_⟩, ?_⟩
  · simpa [Found.after] using hrun hparts
  · simp [Found.after, hsame]
  · simpa [Found.after] using hends (.ident i)

theorem again_segment {e : Bool} (hf : (segmentProgram e).run again ts = some f)
    (hrest : Tidied false .other f.rest us) :
    FoundAgain printed ((segmentProgram e).run Phrase.find) f us := by
  rw [segmentProgram_eq, run_ahead_bind] at hf
  split at hf
  · next hone =>
    obtain ⟨t, rest, k, rfl, hk, rfl⟩ := run_take_bind.1 hf
    rw [run_pure] at hk
    subst hk
    rw [isOneOf_cons] at hone
    refine ⟨⟨[.tree t], ?_, rfl⟩, by simp [Found.after]⟩
    change run _ _ (formOf printed [.tree t] ++ us) = _
    rw [formOf_cons, form_tree, formOf_nil, List.append_nil, List.singleton_append, segmentProgram_eq,
      run_ahead_bind, isOneOf_cons, if_pos hone]
    exact run_take_bind.2 ⟨_, _, _, rfl, rfl, rfl⟩
  next hone =>
  split at hf
  · next hself =>
    obtain ⟨t, rest, k, rfl, hk, rfl⟩ := run_take_bind.1 hf
    obtain ⟨_, heq⟩ := eq_cons_of_isWord hself
    cases heq
    rw [isOneOf_cons] at hone
    rw [isWord_cons] at hself
    refine (again_segmentArguments h hk hrest).behind fun hl => ?_
    rw [segmentProgram_eq, run_ahead_bind, isOneOf_cons, if_neg hone, isWord_cons, if_pos hself]
    exact run_take_bind.2 ⟨_, _, _, rfl, hl, rfl⟩
  · next hself =>
    obtain ⟨t, rest, k, hident, rfl, hk, rfl⟩ := run_takeIf_bind.1 hf
    obtain ⟨name, _, heq⟩ := eq_cons_of_isIdent hident
    cases heq
    rw [isOneOf_cons] at hone
    rw [isWord_cons] at hself
    refine (again_segmentArguments h hk hrest).behind fun hl => ?_
    rw [segmentProgram_eq, run_ahead_bind, isOneOf_cons, if_neg hone, isWord_cons, if_neg hself]
    exact run_takeIf_bind.2 ⟨_, _, _, hident, rfl, hl, rfl⟩

/-! ## Lists between brackets -/

omit h in
/-- An operator of one character. -/
theorem foundAgain_expect {operator : String} {c : Char} (hc : operator.toList = [c]) {joint : Bool}
    (ts : List Tree) : FoundAgain printed ((expect operator).run Phrase.find)
      ⟨(), [.tree (.leaf (.punct c joint))], ts⟩ us := by
  have hlen : operator.length = 1 := by rw [← String.length_toList, hc]; rfl
  have hpunct : isPunct operator (.leaf (.punct c joint) :: us) = true := by
    simp [isPunct, hc, isPunctChars]
  refine ⟨⟨[.tree (.leaf (.punct c joint))], ?_, rfl⟩, by simp⟩
  simpa using (run_expect hlen).2 ⟨hpunct, _, _, rfl, rfl⟩

omit h in
/-- A list with its closing bracket behind it, found again. -/
theorem again_bracketed (h : Recurring true again) {q : Phrase} (hq : q = .argumentList ∨ q = .captureList)
    {s : Shape} (hf : (call q >>= fun _ => expect ">" >>= fun _ => pure s).run again ts = some f)
    (hrest : Tidied false .other f.rest us) :
    FoundAgain true ((call q >>= fun _ => expect ">" >>= fun _ => pure s).run Phrase.find) f us ∧
      isPunct ">" (formOf true f.parts ++ us) = isPunct ">" ts := by
  obtain ⟨list, k, hlist, hk, rfl⟩ := run_call_bind.1 hf
  obtain ⟨joint, rest, l, hclosing, hl, rfl⟩ := (run_expect_bind (c := '>') rfl).1 hk
  rw [run_pure] at hl
  subst hl
  have hbehind : Tidied false .other list.rest (.leaf (.punct '>' joint) :: us) := by
    rw [hclosing]
    exact hrest.cons _
  obtain ⟨parts, hparts, hsame, hbegins⟩ := h.list rfl hq hlist hbehind
  have hform : formOf true (Found.after [.phrase list.result list.parts]
      (Found.after [.tree (.leaf (.punct '>' joint))] ⟨s, [], rest⟩)).parts =
        (Node.phrase list.result list.parts).print ++ [.leaf (.punct '>' joint)] := by
    simp [Found.after, Node.form, Node.print]
  rw [hform, List.append_assoc, List.singleton_append]
  refine ⟨⟨⟨[.phrase list.result parts, .tree (.leaf (.punct '>' joint))], ?_, ?_⟩, ?_⟩, hbegins⟩
  · rw [hform, List.append_assoc, List.singleton_append]
    refine run_call_bind.2 ⟨_, ⟨s, [.tree (.leaf (.punct '>' joint))], us⟩, hparts, ?_, rfl⟩
    exact (run_expect_bind (c := '>') rfl).2 ⟨joint, us, ⟨s, [], us⟩, rfl, rfl, rfl⟩
  · rw [hform, ← hsame]
    simp [Node.form, Node.print]
  · rw [hform, lastBrace_append]
    simp only [Found.after, List.cons_append, List.nil_append, treesOf_cons, trees_tree, treesOf_nil,
      List.append_nil]
    rw [lastBrace_append]
    rfl

omit h in
theorem again_angleArguments (h : Recurring true again) (hf : angleArgumentsProgram.run again ts = some f)
    (hrest : Tidied false .other f.rest us) :
    FoundAgain true (angleArgumentsProgram.run Phrase.find) f us := by
  obtain ⟨joint, rest, k, rfl, hk, rfl⟩ := (run_expect_bind (c := '<') rfl).1 hf
  rw [run_ahead_bind] at hk
  obtain ⟨hagain, hbegins⟩ := again_bracketed h (.inl rfl) hk hrest
  refine (foundAgain_expect rfl rest).bind (hagain.of_eq ?_)
  change run _ (call _ >>= _) _ = run _ (call _ >>= _) _
  rw [hbegins]

omit h in
theorem again_capture (h : Recurring true again) (hf : captureProgram.run again ts = some f)
    (hrest : Tidied false .other f.rest us) :
    FoundAgain true (captureProgram.run Phrase.find) f us := by
  obtain ⟨word, rest, k, huse, rfl, hk, rfl⟩ := run_takeIf_bind.1 hf
  obtain ⟨joint, rest, l, rfl, hl, rfl⟩ := (run_expect_bind (c := '<') rfl).1 hk
  obtain ⟨hagain, -⟩ := again_bracketed h (.inr rfl) hl hrest
  have hword (us : List Tree) : isWord "use" (word :: us) = true := by
    rw [← huse]
    rcases word with (_ | _ | _ | _) | _ <;> rfl
  exact (foundAgain_takeIf word rest (hword _)).bind ((foundAgain_expect rfl rest).bind hagain)

end Accessors.Grammar
