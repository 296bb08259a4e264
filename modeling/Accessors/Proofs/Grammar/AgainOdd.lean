import Accessors.Proofs.Grammar.Again
import Accessors.Proofs.Grammar.Taken

/-!
# Finding again where more is looked at

A few programs look at more than what comes next: an operand at how much was taken, a binding at what its
value ends with, and members at how a position is written.

* `again_operandRest`, `again_binding`: these depend on where a record ends, which its form keeps.
* `again_member`, `again_trailers`: positions that were joined are found one by one.
-/

namespace Accessors.Grammar

open Accessors.Token
open Recogniser

attribute [local instance] lawfulMonad
attribute [-simp] bind_pure_comp map_pure List.drop_one List.isEmpty_iff

variable {printed : Bool} {again : Phrase → List Tree → Option (Found Shape Shape)} {ts us : List Tree}
  {f : Found Shape Shape}

/-! ## Operands -/

/-- An operand goes on, or it does not. -/
theorem run_operandRest {find : Phrase → List Tree → Option (Found Shape Shape)} {literals : Bool}
    {operator : Precedence} {left : Shape} : (operandRestProgram literals operator left).run find ts =
      let next := nextPrecedence ts
      if operator < next || next == operator && operator == .assign then
        (splice (.operators literals next left) >>= fun s => ahead >>= fun rest =>
          if rest.length == ts.length then pure s
          else splice (.operandRest literals operator s)).run find ts
      else some ⟨left, [], ts⟩ := by
  exact apply_ite (Recogniser.run find · ts) _ _ _

theorem again_operandRest (h : Recurring printed again) {literals : Bool} {operator : Precedence}
    {left : Shape} (hsound : (Phrase.operandRest literals operator left).isSound)
    (hf : (operandRestProgram literals operator left).run again ts = some f)
    (hrest : Tidied false .other f.rest us) :
    FoundAgain printed ((operandRestProgram literals operator left).run Phrase.find) f us := by
  have htidied : Tidied false .other ts (formOf printed f.parts ++ us) :=
    h.tidied false (p := .operandRest literals operator left) (fun _ => rfl)
      (lawful_operandRest literals operator left hsound) hf nofun hrest
  have hnext := (asks_nextPrecedence : Asks false _) _ _ htidied
  rw [run_operandRest] at hf
  extract_lets next at hf
  have hsound' : (Phrase.operators literals next left).isSound := hsound
  split at hf
  · next hcond =>
    obtain ⟨k, l, hk, hl, rfl⟩ := run_splice_bind.1 hf
    set F := formOf printed (l.after k.parts).parts ++ us
    refine FoundAgain.of_eq (r := (splice (.operators literals next left) >>= fun s =>
      ahead >>= fun rest => if rest.length == F.length then pure s
        else splice (.operandRest literals operator s)).run Phrase.find) ?_ ?_
    · have hplain : k.result.isPlain := by
        simpa [Phrase.yields] using h.keeping.yields _ _ _ hsound' hk
      have htrees := h.keeping.faithful _ _ _ hk
      rw [run_ahead_bind] at hl
      split at hl
      · next hlength =>
        rw [run_pure] at hl
        subst hl
        have hoperators := h.parts hsound' (fun _ => rfl) hk hrest
        -- Nothing was taken, so nothing is written.
        have hnone : treesOf k.parts = [] := by
          rw [← htrees] at hlength
          simpa using hlength
        have hform : formOf printed k.parts = [] := hoperators.form_eq_nil.2 hnone
        refine FoundAgain.bind (by simpa using hoperators.splice)
          ((foundAgain_pure k.result k.rest).of_eq ?_)
        have hF : F = us := by simp [F, Found.after, hform]
        rw [hF]
        change run _ (if _ then _ else _) _ = _
        simp
      · next hlength =>
        have hmore : (Phrase.operandRest literals operator k.result).isSound := hplain
        obtain ⟨hbehind, hagain⟩ := h.splice hmore (.inr rfl) rfl hl hrest
        have hoperators := h.parts hsound' (fun _ => rfl) hk hbehind
        have hsome : formOf printed k.parts ≠ [] := by
          intro hform
          rw [← htrees, hoperators.form_eq_nil.1 hform, List.nil_append] at hlength
          simp at hlength
        refine hoperators.splice.bind (hagain.of_eq ?_)
        have hF : ((formOf printed l.parts ++ us).length == F.length) = false := by
          simp [F, Found.after, formOf_append, hsome]
        change run _ (if _ then _ else _) _ = _
        rw [hF]
        rfl
    · change run _ _ F = run _ _ F
      rw [run_operandRest, ← hnext]
      exact if_pos hcond
  · next hcond =>
    cases hf
    refine (foundAgain_pure left ts).of_eq ?_
    rw [run_operandRest, ← hnext]
    exact if_neg hcond

/-! ## Bindings -/

/-- The end of a binding. -/
def bindingEnd : Program Shape := do
  expect ";"
  return .statement true

/-- What happens when a pattern does not fit, unless the value ended in a brace. -/
def bindingElse (braced : Bool) (rest : List Tree) : Program Shape :=
  if !braced && isWord "else" rest then do
    take
    let _ ← splice (.block false)
    bindingEnd
  else bindingEnd

/-- The value of a binding, and what stands behind it. -/
def bindingValue : Program Shape := do
  let ts ← ahead
  let _ ← call (.expression true)
  let rest ← ahead
  bindingElse (isBrace (ts.drop (ts.length - rest.length - 1))) rest

/-- A binding behind its pattern and its type. -/
def bindingRest : Program Shape := do
  if ← optional "=" then bindingValue else bindingEnd

theorem bindingProgram_eq : bindingProgram = (do
    expectWord "let"
    let _ ← call .pattern
    if ← optional ":" then
      let _ ← call (.type true)
      bindingRest
    else bindingRest) := rfl

/-- Whether what was taken ends with a brace. -/
theorem isBrace_drop {front rest : List Tree} (hne : front ≠ []) :
    isBrace ((front ++ rest).drop ((front ++ rest).length - rest.length - 1)) =
      (lastBrace front == some true) := by
  obtain ⟨init, t, rfl⟩ := (List.eq_nil_or_concat front).resolve_left hne
  have hlength : (init.concat t ++ rest).length - rest.length - 1 = init.length := by
    simp only [List.length_append, List.length_concat]
    omega
  rw [hlength, List.concat_eq_append, List.append_assoc, List.drop_left, lastBrace_append]
  have hfirst : isBrace ([t] ++ rest) = isBrace [t] := by cases t <;> rfl
  rw [hfirst]
  cases h : isBrace [t] <;> simp [h]

/-- A phrase that takes a tree. -/
theorem Recurring.treesOf_ne_nil (h : Recurring printed again) {q : Phrase} (hsound : q.isSound)
    (hconsumes : q.consumes) (hf : again q ts = some f) : treesOf f.parts ≠ [] := by
  intro hnone
  have htrees := h.keeping.faithful q ts f hf
  have hless := h.lightening.lt q ts f hsound hconsumes hf
  rw [hnone, List.nil_append] at htrees
  rw [htrees] at hless
  exact Nat.lt_irrefl _ hless

theorem recurs_bindingEnd : Recurs printed again bindingEnd :=
  (recurs_expect (by decide)).bind fun _ => recurs_pure _

variable (h : Recurring printed again)
include h

theorem recurs_bindingElse (braced : Bool) : Recurs printed again (ahead >>= bindingElse braced) := by
  refine recurs_look (asks_ite (asks_and asks_const asks_isWord) asks_const asks_const) fun rest => ?_
  unfold bindingElse
  split
  · exact recurs_take.bind fun _ => (h.splice rfl (.inl rfl) rfl).bind fun _ => recurs_bindingEnd
  · exact recurs_bindingEnd

theorem recurs_bindingValue : Recurs printed again bindingValue := by
  intro ts f us hf hrest
  rw [bindingValue, run_ahead_bind] at hf
  obtain ⟨k, l, hk, hl, rfl⟩ := run_call_bind.1 hf
  set braced := isBrace (ts.drop (ts.length - k.rest.length - 1)) with hbraced
  obtain ⟨hbehind, hagain⟩ := recurs_bindingElse h braced hl hrest
  obtain ⟨hfront, hvalue⟩ := h.call rfl (.inr rfl) rfl (run_call.2 ⟨k, hk, rfl⟩) hbehind
  have htaken := h.treesOf_ne_nil rfl rfl hk
  rw [Found.after, formOf_append, List.append_assoc]
  refine ⟨hfront, ?_⟩
  set value : List (Node Shape) := [.phrase k.result k.parts]
  set left := formOf printed l.parts ++ us
  -- What is written for the value ends with a brace if the value does.
  have hbraced' : isBrace ((formOf printed value ++ left).drop
      ((formOf printed value ++ left).length - left.length - 1)) = braced := by
    have htrees : treesOf value = treesOf k.parts := by simp [value]
    have hends : lastBrace (formOf printed value) = lastBrace (treesOf k.parts) := by
      rw [hvalue.ends, htrees]
    have hform : formOf printed value ≠ [] := fun hnone => htaken (htrees ▸ hvalue.form_eq_nil.1 hnone)
    rw [hbraced, isBrace_drop hform, hends, ← h.keeping.faithful _ _ _ hk, isBrace_drop htaken]
  have hlater := hvalue.bind (q := fun _ => ahead >>= fun rest => bindingElse (isBrace
    ((formOf printed value ++ left).drop ((formOf printed value ++ left).length - rest.length - 1))) rest)
    (hagain.of_eq (by
      change (bindingElse _ left).run _ left = (bindingElse _ left).run _ left
      rw [hbraced']))
  refine hlater.of_eq ?_
  rw [Found.after, formOf_append, List.append_assoc]
  rfl

theorem again_binding (hf : bindingProgram.run again ts = some f)
    (hrest : Tidied false .other f.rest us) :
    FoundAgain printed (bindingProgram.run Phrase.find) f us := by
  have hfollowed : Recurs printed again bindingRest :=
    (recurs_optional (by decide)).bind fun valued => by
      cases valued
      · exact recurs_bindingEnd
      · exact recurs_bindingValue h
  have hbinding : Recurs printed again bindingProgram := by
    rw [bindingProgram_eq]
    refine (recurs_takeIf asks_isWord).bind fun _ => (h.call rfl (.inl rfl) rfl).bind fun _ =>
      (recurs_optional (by decide)).bind fun typed => ?_
    cases typed
    · exact hfollowed
    · exact (h.call rfl (.inr rfl) rfl).bind fun _ => hfollowed
  exact (hbinding hf hrest).2

/-! ## Positions and members -/

omit h in
theorem run_position {find : Phrase → List Tree → Option (Found Shape Shape)} {text : String}
    {part : List Char} (hpart : positions? [.leaf (.literal text)] = some [part]) :
    positionProgram.run find (.leaf (.literal text) :: us) =
      some ⟨.position, [.tree (.leaf (.literal text))], us⟩ := by
  have hpart' : positions? (.leaf (.literal text) :: us) = some [part] := hpart
  rw [positionProgram, run_ahead_bind, hpart']
  rfl

omit h in
/-- What a position is found in. -/
theorem eq_of_run_position (hf : positionProgram.run again ts = some f) : ∃ text part,
    positions? [.leaf (.literal text)] = some [part] ∧
      f = ⟨.position, [.tree (.leaf (.literal text))], f.rest⟩ := by
  have hkeeps : Phrase.position.Keeps false ts f := keeps_position hf
  obtain ⟨text, part, hpart, -, hts⟩ := hkeeps
  rw [hts, run_position hpart] at hf
  exact ⟨text, part, hpart, (Option.some.inj hf).symm⟩

omit h in
theorem again_position (hf : positionProgram.run again ts = some f) :
    FoundAgain printed (positionProgram.run Phrase.find) f us := by
  obtain ⟨text, part, hpart, heq⟩ := eq_of_run_position hf
  rw [heq]
  exact ⟨⟨_, by simpa using run_position hpart, rfl⟩, by simp⟩

omit h in
/-- A record of positions is written as they are. -/
theorem print_positions {text : String} {parts : List (List Char)}
    (h : positions? [.leaf (.literal text)] = some parts) :
    (Node.phrase .position [.tree (.leaf (.literal text))]).print = positionTrees parts := by
  simp [Node.print, h]

omit h in
/-- The record of a position is written in decimal, and found again as that position. -/
theorem called_position (hf : positionProgram.run again ts = some f) :
    FoundAgain printed ((call .position).run Phrase.find) f.called us := by
  obtain ⟨text, part, hpart, heq⟩ := eq_of_run_position hf
  have hfind {text : String} {part : List Char} (hpart : positions? [.leaf (.literal text)] = some [part]) :
      Phrase.position.find (.leaf (.literal text) :: us) =
        some ⟨.position, [.tree (.leaf (.literal text))], us⟩ := by
    rw [find_eq_run rfl]
    exact run_position hpart
  rw [heq]
  cases printed with
  | false =>
    refine ⟨⟨_, run_call.2 ⟨_, hfind hpart, rfl⟩, rfl⟩, by simp [formOf]⟩
  | true =>
    have hprint := print_positions hpart
    rw [positionTrees_singleton hpart] at hprint
    have hdecimal := positions_positionText part []
    have hprint' := print_positions hdecimal
    rw [positionTrees_singleton hdecimal, positionText_positionText] at hprint'
    refine ⟨⟨[.phrase .position [.tree (.leaf (.literal (positionText part)))]], ?_, ?_⟩, ?_⟩
    · simp only [Found.called, formOf_cons, formOf_nil, List.append_nil, Node.form, if_true, hprint]
      exact run_call.2 ⟨_, hfind hdecimal, rfl⟩
    · simp [Found.called, Node.form, hprint, hprint']
    · simp [Found.called, Node.form, hprint]
      rfl

/-- A member is written behind its dot brought into order. -/
theorem Recurring.tidied_member (hf : again .member ts = some f) (hrest : Tidied false .other f.rest us) :
    Tidied false .dot ts (formOf printed f.parts ++ us) := by
  cases printed with
  | true => exact h.keeping.keeps .member ts f rfl hf (by simp) us hrest
  | false =>
    rw [← h.keeping.faithful _ _ _ hf]
    exact (hrest.append _).of_other (by simp)

theorem recurs_trailers (left : Shape) :
    Recurs printed again (trailersProgram left) := by
  have hmore : Recurs printed again (splice (.trailers .plain)) := h.splice rfl (.inr rfl) rfl
  refine recurs_ask (asks_ite asks_isParenthesis asks_const (asks_ite (asks_and asks_isDot asks_const)
    asks_const (asks_ite asks_isBracket asks_const (asks_ite (asks_and (asks_isPunct (by decide))
      asks_const) asks_const asks_const)))) fun ts f us hf hrest => ?_
  dsimp only at hf ⊢
  split at hf
  · next hcond =>
    rw [if_pos hcond]
    exact ((h.within rfl (.inr rfl) rfl).bind fun _ => hmore) hf hrest
  · next hcond =>
    rw [if_neg hcond]
    split at hf
    · next hcond =>
      rw [if_pos hcond]
      simp only [isDot, Bool.and_eq_true] at hcond
      obtain ⟨joint, rest, rfl⟩ := eq_cons_of_isPunct (c := '.') rfl hcond.1.1
      obtain ⟨t, _, k, heq, hk, rfl⟩ := run_take_bind.1 hf
      cases heq
      have hmember := run_splice.1 hk
      refine ⟨?_, (foundAgain_take _ rest).bind (h.parts rfl (fun _ => rfl) hmember hrest).splice⟩
      simpa [Found.after] using
        Tidied.leaf (m := .other) (.punct '.' joint) (h.tidied_member hmember hrest)
    · next hcond =>
      rw [if_neg hcond]
      split at hf
      · next hcond =>
        rw [if_pos hcond]
        exact ((h.within rfl (.inr rfl) rfl).bind fun _ => hmore) hf hrest
      · next hcond =>
        rw [if_neg hcond]
        split at hf
        · next hcond =>
          rw [if_pos hcond]
          exact (recurs_take.bind fun _ => hmore) hf hrest
        · next hcond =>
          rw [if_neg hcond]
          exact recurs_pure left hf hrest

/-! ## Members -/

/-- What a member goes on with behind positions. -/
def positionsRest (spoken : List (List Char)) : Program Shape :=
  if spoken.getLast? == some [] then splice .member else splice (.trailers .plain)

omit h in
/-- A member that is a literal of positions. -/
theorem run_member_positions {text : String} {spoken : List (List Char)}
    (hspoken : positions? [.leaf (.literal text)] = some spoken) {find} (ts : List Tree) :
    memberProgram.run find (.leaf (.literal text) :: ts) =
      (call .positions >>= fun _ => positionsRest spoken).run find (.leaf (.literal text) :: ts) := by
  have hspoken' : positions? (.leaf (.literal text) :: ts) = some spoken := hspoken
  refine Option.ext fun f => ?_
  rw [memberProgram, run_ahead_bind, hspoken']
  rfl

omit h in
theorem find_positions (t : Tree) (ts : List Tree) :
    Phrase.positions.find (t :: ts) = some ⟨.position, [.tree t], ts⟩ := by
  rw [find_eq_run rfl]
  rfl

omit h in
/-- A dot behind an operand has a member behind it. -/
theorem find_trailers_dot {found : Found Shape Shape} (hfound : Phrase.member.find ts = some found) :
    (Phrase.trailers .plain).find (.leaf (.punct '.' false) :: ts) =
      some (found.after [.tree (.leaf (.punct '.' false))]) := by
  rw [find_eq_run rfl]
  change (take >>= fun _ => splice .member).run Phrase.find _ = _
  exact run_take_bind.2 ⟨_, ts, found, rfl, run_splice.2 hfound, rfl⟩

omit h in
/-- **Positions that were joined are found one by one.** -/
theorem find_positionTrees {spoken : List (List Char)} (hne : spoken ≠ []) {found : Found Shape Shape}
    (hfound : (positionsRest spoken).run Phrase.find ts = some found) :
    ∃ parts, Phrase.member.find (positionTrees spoken ++ ts) = some ⟨found.result, parts, found.rest⟩ ∧
      printOf parts = positionTrees spoken ++ printOf found.parts := by
  -- One position, and whatever goes on behind it.
  have hone (part : List Char) {ts : List Tree} {found : Found Shape Shape}
      (hfound : (Phrase.trailers .plain).find ts = some found) :
      ∃ parts, Phrase.member.find (.leaf (.literal (positionText part)) :: ts) =
          some ⟨found.result, parts, found.rest⟩ ∧
        printOf parts = .leaf (.literal (positionText part)) :: printOf found.parts := by
    have hdecimal := positions_positionText part []
    have hprint := print_positions hdecimal
    rw [positionTrees_singleton hdecimal, positionText_positionText] at hprint
    have hlast : positionsRest [(positionText part).toList] = splice (.trailers .plain) :=
      if_neg (by simpa using positionText_ne_nil part)
    refine ⟨.phrase .position [.tree (.leaf (.literal (positionText part)))] :: found.parts, ?_, ?_⟩
    · rw [find_eq_run rfl, show rule .member = memberProgram from rfl, run_member_positions hdecimal,
        hlast]
      exact run_call_bind.2 ⟨_, found, find_positions _ _, run_splice.2 hfound, rfl⟩
    · simp [printOf, hprint]
  induction spoken with
  | nil => exact absurd rfl hne
  | cons part rest ih =>
    cases rest with
    | nil =>
      cases part with
      | nil => exact ⟨found.parts, run_splice.1 hfound, rfl⟩
      | cons c cs => exact hone _ (run_splice.1 hfound)
    | cons next rest =>
      obtain ⟨parts, hparts, hprint⟩ := ih (by simp) hfound
      obtain ⟨parts', hparts', hprint'⟩ := hone part (find_trailers_dot hparts)
      exact ⟨parts', hparts', by simp [hprint', Found.after, printOf, Node.print, hprint, positionTrees]⟩

omit h in
/-- Positions end with no brace. -/
theorem lastBrace_positionTrees {text : String} {spoken : List (List Char)}
    (h : positions? [.leaf (.literal text)] = some spoken) :
    lastBrace (positionTrees spoken) = some false := by
  have hleaf {spoken : List (List Char)} {t : Tree} (ht : t ∈ positionTrees spoken) :
      isBrace [t] = false := by
    induction spoken with
    | nil => cases ht
    | cons part rest ih =>
      cases rest with
      | nil =>
        rw [positionTrees] at ht
        split at ht
        · cases ht
        · obtain rfl := List.mem_singleton.1 ht
          rfl
      | cons next rest =>
        rcases List.mem_cons.1 ht with rfl | ht
        · rfl
        · rcases List.mem_cons.1 ht with rfl | ht
          · rfl
          · exact ih ht
  obtain ⟨t, rest, htrees⟩ := positionTrees_of_positions h
  have hlast : (positionTrees spoken).getLast? ≠ none := by simp [htrees]
  obtain ⟨last, hlast⟩ := Option.ne_none_iff_exists'.1 hlast
  rw [lastBrace, hlast, Option.map_some, hleaf (List.mem_of_getLast? hlast)]

/-- What a name of a member goes on with. -/
def memberRest : Program Shape := do
  if ← optional "::" then
    let _ ← splice .angleArguments
    if !isParenthesis (← ahead) then refuse
    splice (.trailers .plain)
  else splice (.trailers .plain)

omit h in
/-- A member that is a word. -/
theorem run_member_word {find : Phrase → List Tree → Option (Found Shape Shape)}
    (hnone : positions? ts = none) : memberProgram.run find ts =
      (if isWord "await" ts then take >>= fun _ => splice (.trailers .plain)
        else expectIdent >>= fun _ => memberRest).run find ts := by
  refine Option.ext fun f => ?_
  rw [memberProgram, run_ahead_bind, hnone]
  rfl

/-- Arguments in angle brackets are written behind a name or a separator brought into order. -/
theorem Recurring.tidied_arguments (hf : again .angleArguments ts = some f)
    (hrest : Tidied false .other f.rest us) {m : Mark} (hm : m = .name ∨ m = .colon) :
    Tidied false m ts (formOf printed f.parts ++ us) := by
  cases printed with
  | true => exact h.keeping.keeps .angleArguments ts f rfl hf nofun us hrest m hm
  | false =>
    rw [← h.keeping.faithful _ _ _ hf]
    exact (hrest.append _).of_other (by rcases hm with rfl | rfl <;> simp)

theorem recurs_memberRest : Recurs printed again memberRest := by
  have hmore : Recurs printed again (splice (.trailers .plain)) := h.splice rfl (.inr rfl) rfl
  have hcalled : Recurs printed again (ahead >>= fun ts =>
      if !isParenthesis ts then (refuse : Program Unit) >>= fun _ => splice (.trailers .plain)
      else splice (.trailers .plain)) := by
    refine recurs_look (asks_ite (asks_not asks_isParenthesis) asks_const asks_const) fun ts => ?_
    split
    · exact recurs_refuse
    · exact hmore
  rw [memberRest, optional_bind]
  refine recurs_ask (asks_ite (asks_isPunct (by decide)) asks_const asks_const) fun ts f us hf hrest => ?_
  split at hf
  · next hcond =>
    rw [if_pos hcond]
    obtain ⟨joint, rest, rfl⟩ := eq_cons_of_separator hcond
    rw [show ("::").length = 2 from rfl] at hf ⊢
    obtain ⟨_, hk, l, hl, rfl⟩ := run_bind.1 hf
    obtain ⟨-, rfl⟩ := run_takeMany.1 hk
    rw [if_pos rfl] at hl
    obtain ⟨arguments, j, harguments, hj, rfl⟩ := run_splice_bind.1 hl
    obtain ⟨hbehind, hagain⟩ := hcalled hj hrest
    have hfound := h.parts rfl (fun _ => rfl) harguments hbehind
    refine ⟨?_, (foundAgain_takeMany (by simp)).bind (hfound.splice.bind hagain)⟩
    have hfront := h.tidied_arguments harguments hbehind (.inr rfl)
    simpa [Found.after, formOf_append] using Tidied.leaf (m := .other) _ (Tidied.leaf _ hfront)
  · next hcond =>
    rw [if_neg hcond]
    exact hmore hf hrest

omit h in
/-- A literal of positions is found again, or its positions are one by one. -/
theorem FoundAgain.member_positions {text : String} {spoken : List (List Char)}
    (hspoken : positions? [.leaf (.literal text)] = some spoken)
    (hagain : FoundAgain printed ((positionsRest spoken).run Phrase.find) f us) :
    FoundAgain printed (memberProgram.run Phrase.find)
      (f.after [.phrase .position [.tree (.leaf (.literal text))]]) us := by
  obtain ⟨⟨parts, hparts, hsame⟩, hends⟩ := hagain
  cases printed with
  | false =>
    refine ⟨⟨.phrase .position [.tree (.leaf (.literal text))] :: parts, ?_, ?_⟩, ?_⟩
    · simp only [Found.after, formOf, Bool.false_eq_true, if_false, List.cons_append, List.nil_append,
        treesOf_cons, trees_phrase, trees_tree, treesOf_nil]
      rw [run_member_positions hspoken]
      exact run_call_bind.2 ⟨_, _, find_positions _ _, hparts, rfl⟩
    · simpa [Found.after] using hsame
    · rfl
  | true =>
    have hprint := print_positions hspoken
    have hne : spoken ≠ [] := by
      rw [← (positions_eq_some.1 hspoken).1]
      exact Text.splitOn_ne_nil _ _
    obtain ⟨parts', hparts', hprint'⟩ := find_positionTrees hne hparts
    rw [find_eq_run rfl, show rule .member = memberProgram from rfl] at hparts'
    refine ⟨⟨parts', ?_, ?_⟩, ?_⟩
    · simpa [Found.after, formOf, printOf, hprint] using hparts'
    · simpa [Found.after, formOf, printOf, hprint, hprint'] using hsame
    · have hform : formOf true (.phrase .position [.tree (.leaf (.literal text))] :: f.parts) =
          positionTrees spoken ++ formOf true f.parts := by simp [Node.form, hprint]
      have htrees : treesOf (.phrase .position [.tree (.leaf (.literal text))] :: f.parts) =
          [.leaf (.literal text)] ++ treesOf f.parts := by simp
      simp only [Found.after, List.cons_append, List.nil_append]
      rw [hform, htrees, lastBrace_append, lastBrace_append, hends, lastBrace_positionTrees hspoken]
      rfl

theorem again_positionsRest {spoken : List (List Char)}
    (hf : (positionsRest spoken).run again ts = some f) (hrest : Tidied false .other f.rest us) :
    FoundAgain printed ((positionsRest spoken).run Phrase.find) f us := by
  unfold positionsRest at hf ⊢
  split at hf
  · next hlast =>
    rw [if_pos hlast]
    exact (h.parts rfl (fun _ => rfl) (run_splice.1 hf) hrest).splice
  · next hlast =>
    rw [if_neg hlast]
    exact (h.parts rfl (fun _ => rfl) (run_splice.1 hf) hrest).splice

/-- A member that is no number is told by its first tree. -/
theorem again_member_word (hnone : positions? ts = none) (hf : memberProgram.run again ts = some f)
    (hrest : Tidied false .other f.rest us) :
    FoundAgain printed (memberProgram.run Phrase.find) f us := by
  rw [run_member_word hnone] at hf
  split at hf
  · next hawait =>
    obtain ⟨t, rest, k, rfl, hk, rfl⟩ := run_take_bind.1 hf
    rw [positions_cons] at hnone
    rw [isWord_cons] at hawait
    have hmore := h.parts rfl (fun _ => rfl) (run_splice.1 hk) hrest
    refine ((foundAgain_take t rest).bind (q := fun _ => splice (.trailers .plain)) hmore.splice).of_eq ?_
    simp only [Found.after, formOf_cons, form_tree, List.cons_append, List.nil_append]
    rw [run_member_word (by rwa [positions_cons]), isWord_cons, if_pos hawait]
  · next hawait =>
    obtain ⟨t, rest, k, hident, rfl, hk, rfl⟩ := run_takeIf_bind.1 hf
    rw [positions_cons] at hnone
    rw [isWord_cons] at hawait
    rw [isIdent_cons] at hident
    refine ((foundAgain_takeIf t rest ((isIdent_cons t _).trans hident)).bind (q := fun _ => memberRest)
      (recurs_memberRest h hk hrest).2).of_eq ?_
    simp only [Found.after, formOf_cons, form_tree, List.cons_append, List.nil_append]
    rw [run_member_word (by rwa [positions_cons]), isWord_cons, if_neg hawait]
    rfl

theorem again_member (hf : memberProgram.run again ts = some f)
    (hrest : Tidied false .other f.rest us) :
    FoundAgain printed (memberProgram.run Phrase.find) f us := by
  cases hspoken : positions? ts with
  | none => exact again_member_word h hspoken hf hrest
  | some spoken =>
    obtain ⟨text, rest, rfl, hspoken⟩ := eq_cons_of_positions hspoken
    rw [run_member_positions hspoken] at hf
    obtain ⟨found, k, hfound, hk, rfl⟩ := run_call_bind.1 hf
    have hshape : found.result = .position := by
      simpa [Phrase.yields] using h.keeping.yields _ _ _ rfl hfound
    obtain ⟨t, htree, heq⟩ := h.keeping.keeps .positions _ _ rfl hfound (by simp)
    cases heq
    rw [hshape, htree]
    exact (again_positionsRest h hk hrest).member_positions hspoken

end Accessors.Grammar
