import Accessors.Proofs.Grammar.Tidied
import Accessors.Proofs.Text.Parts

/-!
# Records are printed brought into order

Whatever a phrase is recognised in is printed brought into order. Most programs do so because what they
call for does; the ones that are recognised in a way of their own are gone through one by one: segments
and their arguments, positions and members.

* `keeps_segment`, `keeps_angleArguments`, `keeps_member`, …: phrases that are recognised in their own
  way.
* `keeping_recogniseWithin`: the whole grammar.
-/

namespace Accessors.Grammar

open Accessors.Token
open Recogniser

attribute [local instance] lawfulMonad

variable {inOrder : Bool} {again : Phrase → List Tree → Option (Found Shape Shape)} {ts us : List Tree}
  {f : Found Shape Shape}

/-! ## Trees that are taken -/

@[simp] theorem printOf_map_tree (ts : List Tree) : printOf (ts.map .tree) = ts := by
  induction ts with
  | nil => simp [printOf]
  | cons t ts ih => simp [printOf, Node.print, ih]

variable {α β : Type}

/-! ## Segments -/

/-- A segment is a name, perhaps with arguments. -/
theorem run_segment {e : Bool} (hf : (segmentProgram e).run again ts = some f) :
    ∃ i rest, ts = .leaf (.ident i) :: rest ∧ Ident.takesArguments i ∧
      (f.parts = [.tree (.leaf (.ident i))] ∧ f.rest = rest ∨
        ∃ k, (segmentArguments e).run again rest = some k ∧
          k.after [.tree (.leaf (.ident i))] = f) := by
  have hword {word : String} (h : isWord word ts = true) (hw : word ∈ pathWords ++ ["Self", "use"]) :
      ∃ i rest, ts = .leaf (.ident i) :: rest ∧ Ident.takesArguments i := by
    unfold isWord at h
    split at h
    · next i rest =>
      simp only [Bool.and_eq_true, Bool.not_eq_true', beq_iff_eq] at h
      exact ⟨i, rest, rfl, by rw [Ident.takesArguments, h.2, List.contains_iff_mem.2 hw, Bool.or_true]⟩
    · cases h
  rw [segmentProgram_eq] at hf
  simp only [run_bind, run_ahead] at hf
  obtain ⟨_, rfl, k, hf, rfl⟩ := hf
  split at hf
  · next hone =>
    obtain ⟨word, hmem, hw⟩ := List.any_eq_true.1 hone
    obtain ⟨i, rest, rfl, hi⟩ := hword hw (List.mem_append_left _ hmem)
    simp only [run_bind, run_take, run_pure, List.cons.injEq] at hf
    obtain ⟨_, ⟨_, _, ⟨rfl, rfl⟩, rfl⟩, _, rfl, rfl⟩ := hf
    exact ⟨i, rest, rfl, hi, .inl ⟨rfl, rfl⟩⟩
  · split at hf
    · next hself =>
      obtain ⟨i, rest, rfl, hi⟩ := hword hself (by simp)
      simp only [run_bind, run_take, List.cons.injEq] at hf
      obtain ⟨_, ⟨_, _, ⟨rfl, rfl⟩, rfl⟩, k, hk, rfl⟩ := hf
      exact ⟨i, rest, rfl, hi, .inr ⟨k, hk, rfl⟩⟩
    · simp only [run_bind, expectIdent, run_takeIf] at hf
      obtain ⟨_, ⟨hident, t, rest, rfl, rfl⟩, k, hk, rfl⟩ := hf
      unfold isIdent at hident
      split at hident
      · next i rest heq =>
        cases heq
        exact ⟨i, _, rfl, by simp [Ident.takesArguments, hident], .inr ⟨k, hk, rfl⟩⟩
      · cases hident

/-- Trees that are left out: what was found for them is printed as nothing. -/
theorem Keeping.hidden (h : Keeping inOrder again) {n : Nat} (hf : again (.hidden n) ts = some f)
    (hin : inOrder → (Node.phrase f.result f.parts).InOrder) :
    f.rest = ts.drop n ∧ (Node.phrase f.result f.parts).print = [] := by
  have hshape : f.result = .silent := by simpa [Phrase.yields] using h.yields _ _ _ rfl hf
  rw [hshape] at hin ⊢
  exact ⟨h.keeps _ _ _ rfl hf hin, rfl⟩

/-- A separator, if there is one, and empty angle brackets are left out in front of a call. -/
theorem hidden_of_facesReplacedArguments
    (h : facesReplacedArguments (ts.drop (separatorSize ts)) = true) :
    ∃ left rest, ts = left ++ rest ∧ Hidden left ∧ left.length = separatorSize ts + 2 ∧
      isParenthesis rest = true := by
  have hangles {ts : List Tree} (h : facesReplacedArguments ts = true) :
      ∃ i j rest, ts = .leaf (.punct '<' i) :: .leaf (.punct '>' j) :: rest ∧
        isParenthesis rest = true := by
    simp only [facesReplacedArguments, Bool.and_eq_true] at h
    obtain ⟨⟨hopen, hclose⟩, hcall⟩ := h
    obtain ⟨i, rest, rfl⟩ := eq_cons_of_isPunct rfl hopen
    obtain ⟨j, rest, rfl⟩ := eq_cons_of_isPunct rfl hclose
    exact ⟨i, j, rest, rfl, hcall⟩
  unfold separatorSize at h ⊢
  split at h
  · next hseparator =>
    obtain ⟨joint, rest, rfl⟩ := eq_cons_of_separator hseparator
    obtain ⟨i, j, rest, rfl, hcall⟩ := hangles h
    exact ⟨_, rest, rfl, .separated joint i j, by simp [hseparator], hcall⟩
  · next hseparator =>
    obtain ⟨i, j, rest, rfl, hcall⟩ := hangles h
    exact ⟨_, rest, rfl, .angles i j, by simp [hseparator], hcall⟩

/-- What a segment has behind its name, without the separator that an expression needs. -/
theorem tidied_segmentArguments (h : Keeping inOrder again) {e : Bool}
    (hf : (segmentArguments e).run again ts = some f) (hin : inOrder → InOrderOf f.parts)
    (hrest : Tidied inOrder .other f.rest us) {m : Mark} (hm : if e then m ≠ .fresh else m = .name) :
    Tidied inOrder m ts (printOf f.parts ++ us) := by
  simp only [segmentArguments, run_bind, run_ahead] at hf
  obtain ⟨_, rfl, k, hf, rfl⟩ := hf
  split at hf
  · next hreplaced =>
    simp only [Bool.and_eq_true, Bool.not_eq_true'] at hreplaced
    obtain ⟨rfl, hreplaced⟩ := hreplaced
    obtain rfl : m = .name := hm
    obtain ⟨left, rest, rfl, hleft, hlen, hcall⟩ := hidden_of_facesReplacedArguments hreplaced
    simp only [run_bind, run_call, run_pure] at hf
    obtain ⟨_, ⟨found, hfound, rfl⟩, _, rfl, rfl⟩ := hf
    obtain ⟨hleave, hprint⟩ := h.hidden hfound fun ho => (hin ho).1
    rw [← hlen, List.drop_left] at hleave
    simp only [Found.after, List.nil_append, List.append_nil] at hrest ⊢
    rw [hleave] at hrest
    simpa [printOf, hprint] using Tidied.hidden hleft hcall hrest
  · split at hf
    · next hopen =>
      simp only [Bool.and_eq_true, Bool.not_eq_true'] at hopen
      obtain ⟨⟨⟨rfl, -⟩, -⟩, -⟩ := hopen
      have hkeeps := h.keeps .angleArguments ts k rfl (run_splice.1 hf) hin
      exact hkeeps us hrest m (.inl hm)
    · split at hf
      · next hseparator =>
        simp only [Bool.and_eq_true] at hseparator
        obtain ⟨joint, rest, rfl⟩ := eq_cons_of_separator hseparator.1
        simp only [run_bind, run_takeMany, run_splice] at hf
        obtain ⟨_, ⟨-, rfl⟩, k, hk, rfl⟩ := hf
        have hkeeps := h.keeps .angleArguments _ k rfl hk fun ho => (hin ho).2.2
        have hlater := hkeeps us hrest .colon (.inr rfl)
        simpa [Found.after, printOf, Node.print] using Tidied.leaf _ (Tidied.leaf _ hlater)
      · rw [run_pure] at hf
        subst hf
        have hne : m ≠ .fresh := by
          cases e
          · obtain rfl : m = .name := hm
            simp
          · exact hm
        simpa [Found.after, printOf] using hrest.of_other hne

theorem keeps_segment (h : Keeping inOrder again) {e : Bool}
    (hf : (segmentProgram e).run again ts = some f) (hin : inOrder → InOrderOf f.parts) :
    (Phrase.segment e).Keeps inOrder ts f := by
  intro m us hm hrest
  obtain ⟨i, rest, rfl, hi, hfound⟩ := run_segment hf
  have hmark : if e then m.after (.leaf (.ident i)) ≠ .fresh else m.after (.leaf (.ident i)) = .name := by
    cases e with
    | false =>
      obtain rfl : m = .other := hm.resolve_right fun hm => by simp [Phrase.start] at hm
      simp [Mark.after, hi]
    | true => exact Mark.after_ne_fresh
  rcases hfound with ⟨hparts, rfl⟩ | ⟨k, hk, rfl⟩
  · rw [hparts]
    exact .leaf _ (hrest.of_other Mark.after_ne_fresh)
  · have hlater := tidied_segmentArguments h hk (fun ho => (hin ho).2) hrest hmark
    simpa [Found.after, printOf, Node.print] using Tidied.leaf _ hlater

/-- The record of a phrase that can begin behind nothing special, which takes a tree. -/
theorem Keeping.called (h : Keeping inOrder again) {q : Phrase} (hsound : q.isSound)
    (hf : again q ts = some f) (hin : inOrder → (Node.phrase f.result f.parts).InOrder)
    (hq : q.start = .fresh ∨ q.start = .other) (hposition : q.isPosition = false)
    (hrest : Tidied inOrder .other f.rest us) :
    Tidied inOrder .other ts ((Node.phrase f.result f.parts).print ++ us) :=
  h.node hsound hf hin hq (.inl rfl) (fun hp => by simp [hposition] at hp) (by simpa using hrest)

/-! ## Lists in angle brackets -/

theorem lifetimesFirst_of_pairwise {l : List Listed}
    (h : l.Pairwise fun a b => b.lifetime → a.lifetime) : lifetimesFirst l = l := by
  induction l with
  | nil => rfl
  | cons e rest ih =>
    obtain ⟨hfirst, hrest⟩ := List.pairwise_cons.1 h
    have hsame := ih hrest
    unfold lifetimesFirst at hsame ⊢
    by_cases he : e.lifetime
    · simpa [he] using hsame
    · have hnone : ∀ a ∈ rest, a.lifetime = false := fun a ha => by
        simpa using fun hlife => he (hfirst a ha hlife)
      have hempty : rest.filter (·.lifetime) = [] := by simpa using hnone
      have hall : rest.filter (!·.lifetime) = rest := by simpa using hnone
      simp [he, hempty, hall]

theorem joined_listedOf (n comma : Node Shape) (parts : List (Node Shape)) :
    joined (listedOf (n :: comma :: parts)) = n.print ++ commaTree :: joined (listedOf parts) := by
  rw [listedOf]
  cases hrest : listedOf parts with
  | nil => simp [joined]
  | cons e rest => simp [joined]

/-- The program of a list up to a closing bracket. -/
def listProgram (s : Shape) (element list : Phrase) : Program Shape := do
  if isPunct ">" (← ahead) then return s
  let _ ← call element
  if isPunct ">" (← ahead) then return s
  expect ","
  splice list

/-- The elements of a list are printed with commas between. -/
theorem tidied_list (h : Keeping inOrder again) {e list : Phrase} (hsound : e.isSound)
    (hstart : e.start = .other) (hposition : e.isPosition = false)
    (hlist : ∀ {ts us f}, again list ts = some f → (inOrder → InOrderOf f.parts) →
      Tidied inOrder .other f.rest us →
      Tidied inOrder .other ts (joined (listedOf f.parts) ++ us)) (ho : inOrder)
    (hf : (listProgram .arguments e list).run again ts = some f) (hin : inOrder → InOrderOf f.parts)
    (hrest : Tidied inOrder .other f.rest us) :
    Tidied inOrder .other ts (joined (listedOf f.parts) ++ us) := by
  rw [listProgram, run_ahead_bind] at hf
  split at hf
  · rw [run_pure] at hf
    subst hf
    simpa [listedOf, joined] using hrest
  · obtain ⟨first, k, hfirst, hk, rfl⟩ := run_call_bind.1 hf
    have hcalled {us : List Tree} (hrest : Tidied inOrder .other first.rest us) :=
      h.called hsound hfirst (fun ho => (hin ho).1) (.inr hstart) hposition hrest
    rw [run_ahead_bind] at hk
    split at hk
    · rw [run_pure] at hk
      subst hk
      simpa [Found.after, listedOf, joined] using hcalled hrest
    · obtain ⟨joint, rest, l, hcomma, hl, rfl⟩ := (run_expect_bind (c := ',') rfl).1 hk
      have hlater := hlist (run_splice.1 hl) (fun ho => (hin ho).2.2) hrest
      rw [hcomma] at hcalled
      have hnext := hcalled (.comma joint false ho hlater)
      simpa [Found.after, joined_listedOf, commaTree] using hnext

theorem keeps_argumentList (h : Keeping inOrder again)
    (hf : argumentListProgram.run again ts = some f) (hin : inOrder → InOrderOf f.parts) :
    Phrase.argumentList.Keeps inOrder ts f := fun ho _ hrest =>
  @tidied_list _ _ _ _ _ h .argument .argumentList rfl rfl rfl
    (fun hf hin => h.keeps .argumentList _ _ rfl hf hin ho _) ho hf hin hrest

theorem keeps_captureList (h : Keeping inOrder again)
    (hf : captureListProgram.run again ts = some f) (hin : inOrder → InOrderOf f.parts) :
    Phrase.captureList.Keeps inOrder ts f := fun ho _ hrest =>
  @tidied_list _ _ _ _ _ h .captureItem .captureList rfl rfl rfl
    (fun hf hin => h.keeps .captureList _ _ rfl hf hin ho _) ho hf hin hrest

/-- A list behind an opening bracket, up to the closing one. -/
theorem Keeping.list (h : Keeping inOrder again) {q : Phrase}
    (hq : q = .argumentList ∨ q = .captureList) (hf : again q ts = some f)
    (hin : inOrder → (Node.phrase f.result f.parts).InOrder) (hclose : isPunct ">" f.rest = true)
    (hrest : Tidied inOrder .other f.rest us) :
    Tidied inOrder .angle ts ((Node.phrase f.result f.parts).print ++ us) := by
  have hshape : f.result = .arguments := by
    rcases hq with rfl | rfl <;> simpa [Phrase.yields] using h.yields _ _ _ rfl hf
  rw [hshape] at hin ⊢
  have hprint : (Node.phrase Shape.arguments f.parts).print =
      joined (lifetimesFirst (listedOf f.parts)) := rfl
  rw [hprint]
  cases ho : inOrder with
  | false =>
    subst ho
    rw [← h.faithful _ _ _ hf]
    exact .arguments _ _ rfl hclose hrest
  | true =>
    subst ho
    obtain ⟨hsorted, hparts⟩ := hin rfl
    rw [lifetimesFirst_of_pairwise hsorted]
    rcases hq with rfl | rfl
    · exact (h.keeps .argumentList _ _ rfl hf (fun _ => hparts) rfl us hrest).of_other (by simp)
    · exact (h.keeps .captureList _ _ rfl hf (fun _ => hparts) rfl us hrest).of_other (by simp)

/-- A list between its brackets. -/
theorem Keeping.bracketed (h : Keeping inOrder again) {q : Phrase}
    (hq : q = .argumentList ∨ q = .captureList) {s : Shape}
    (hf : (call q >>= fun _ => expect ">" >>= fun _ => pure s).run again ts = some f)
    (hin : inOrder → InOrderOf f.parts) (hrest : Tidied inOrder .other f.rest us) :
    Tidied inOrder .angle ts (printOf f.parts ++ us) := by
  obtain ⟨list, k, hlist, hk, rfl⟩ := run_call_bind.1 hf
  obtain ⟨joint, rest, l, hclosing, hl, rfl⟩ := (run_expect_bind (c := '>') rfl).1 hk
  rw [run_pure] at hl
  subst hl
  have hclose : isPunct ">" list.rest = true := by rw [hclosing]; rfl
  have hlater : Tidied inOrder .other list.rest (.leaf (.punct '>' joint) :: us) := by
    rw [hclosing]
    exact .leaf _ (hrest.of_other Mark.after_ne_fresh)
  simpa [Found.after, printOf, Node.print] using
    h.list hq hlist (fun ho => (hin ho).1) hclose hlater

theorem keeps_angleArguments (h : Keeping inOrder again)
    (hf : angleArgumentsProgram.run again ts = some f) (hin : inOrder → InOrderOf f.parts) :
    Phrase.angleArguments.Keeps inOrder ts f := by
  intro us hrest m hm
  obtain ⟨joint, rest, k, rfl, hk, rfl⟩ := (run_expect_bind (c := '<') rfl).1 hf
  rw [run_ahead_bind] at hk
  have hangle : m.after (.leaf (.punct '<' joint)) = .angle := by rcases hm with rfl | rfl <;> rfl
  have hlist := h.bracketed (.inl rfl) hk (fun ho => (hin ho).2) hrest
  rw [← hangle] at hlist
  simpa [Found.after, printOf, Node.print] using Tidied.leaf _ hlist

theorem keeps_capture (h : Keeping inOrder again)
    (hf : captureProgram.run again ts = some f) (hin : inOrder → InOrderOf f.parts) :
    Phrase.capture.Keeps inOrder ts f := by
  intro m us hm hrest
  obtain rfl : m = .other := hm.resolve_right fun hm => by simp [Phrase.start] at hm
  obtain ⟨word, _, k, huse, rfl, hk, rfl⟩ := run_takeIf_bind.1 hf
  obtain ⟨joint, rest, l, rfl, hl, rfl⟩ := (run_expect_bind (c := '<') rfl).1 hk
  obtain ⟨i, rfl, hi⟩ : ∃ i, word = .leaf (.ident i) ∧ Ident.takesArguments i := by
    unfold isWord at huse
    split at huse
    · next i rest heq =>
      cases heq
      simp only [Bool.and_eq_true, beq_iff_eq] at huse
      exact ⟨i, rfl, by simp [Ident.takesArguments, huse.2]⟩
    · cases huse
  have hname : Mark.other.after (.leaf (.ident i)) = .name := by simp [Mark.after, hi]
  have hlist := h.bracketed (.inr rfl) hl (fun ho => (hin ho).2.2) hrest
  have hopen := Tidied.leaf (m := .name) (.punct '<' joint) hlist
  rw [← hname] at hopen
  simpa [Found.after, printOf, Node.print] using Tidied.leaf _ hopen

/-! ## Members and positions -/

attribute [local simp] Phrase.Allows Phrase.Alone Phrase.Passes Phrase.isSound Phrase.start
  Phrase.yields Phrase.isPosition
attribute [-simp] bind_pure_comp map_pure List.drop_one List.isEmpty_iff

/-- The program prints what it finds brought into order. -/
def Prints (inOrder : Bool) (again : Phrase → List Tree → Option (Found Shape Shape))
    (g : Program α) : Prop :=
  ∀ ts f us, g.run again ts = some f → (inOrder → InOrderOf f.parts) →
    Tidied inOrder .other f.rest us → Tidied inOrder .other ts (printOf f.parts ++ us)

/-- A program that calls for nothing special does, and can go on with one that does. -/
theorem prints_bind (h : Keeping inOrder again) {g : Program α} {next : α → Program β}
    (hg : g.Lawful .modulePath true fun _ _ => True)
    (hnext : ∀ a, Prints inOrder again (next a)) : Prints inOrder again (g >>= next) := by
  intro ts f us hf hin hrest
  obtain ⟨k, hk, l, hl, rfl⟩ := run_bind.1 hf
  have hin' : inOrder → InOrderOf k.parts ∧ InOrderOf l.parts := fun ho => inOrderOf_append.1 (hin ho)
  obtain ⟨more, -, -, hprinted⟩ := run_tidied rfl h g hg hk
  have hlater := hnext _ _ l us hl (fun ho => (hin' ho).2) hrest
  rw [Found.after, printOf_append, List.append_assoc]
  exact hprinted (fun ho => (hin' ho).1) .other _ (.inl rfl) (by simpa using hlater)

theorem endsWithDot_of_positions {text : String} {parts : List (List Char)}
    (h : positions? [.leaf (.literal text)] = some parts) (hlast : parts.getLast? = some []) :
    endsWithDot text := by
  simp only [positions?, Option.ite_none_right_eq_some, Option.some.injEq] at h
  obtain ⟨hspoken, rfl⟩ := h
  have hne : text.toList ≠ [] := by
    intro hnil
    simp [hnil, Text.splitOn] at hspoken
  simp [endsWithDot, Text.getLast_of_splitOn hne hlast]

theorem eq_cons_of_positions {parts : List (List Char)} (h : positions? ts = some parts) :
    ∃ text rest, ts = .leaf (.literal text) :: rest ∧
      positions? [.leaf (.literal text)] = some parts := by
  unfold positions? at h
  split at h
  · next text rest => exact ⟨text, rest, rfl, h⟩
  · cases h

theorem keeps_position (hf : positionProgram.run again ts = some f) :
    Phrase.position.Keeps inOrder ts f := by
  rw [positionProgram, run_ahead_bind] at hf
  split at hf
  · next part hpart =>
    obtain ⟨text, rest, rfl, hpart⟩ := eq_cons_of_positions hpart
    obtain ⟨t, _, k, heq, hk, rfl⟩ := run_take_bind.1 hf
    cases heq
    rw [run_pure] at hk
    subst hk
    exact ⟨text, part, hpart, rfl, rfl⟩
  · exact absurd hf run_refuse

theorem keeps_positions (hf : positionsProgram.run again ts = some f) :
    Phrase.positions.Keeps inOrder ts f := by
  obtain ⟨t, rest, k, rfl, hk, rfl⟩ := run_take_bind.1 hf
  rw [run_pure] at hk
  subst hk
  exact ⟨t, rfl, rfl⟩

theorem keeps_hidden {n : Nat} (hf : (hiddenProgram n).run again ts = some f) :
    (Phrase.hidden n).Keeps inOrder ts f := by
  obtain ⟨k, hk, l, hl, rfl⟩ := run_bind.1 hf
  obtain ⟨-, rfl⟩ := run_takeMany.1 hk
  rw [run_pure] at hl
  subst hl
  rfl

theorem keeps_member (h : Keeping inOrder again)
    (hf : memberProgram.run again ts = some f) (hin : inOrder → InOrderOf f.parts) :
    Phrase.member.Keeps inOrder ts f := by
  intro us hrest
  have htrailers : Prints inOrder again (splice (.trailers .plain)) := fun ts f us hf hin hrest =>
    h.keeps (.trailers .plain) _ _ rfl (run_splice.1 hf) hin .other _ (.inl rfl) hrest
  rw [memberProgram, run_ahead_bind] at hf
  split at hf
  · next parts hparts =>
    obtain ⟨text, rest, rfl, hspoken⟩ := eq_cons_of_positions hparts
    obtain ⟨found, k, hfound, hk, rfl⟩ := run_call_bind.1 hf
    have hshape : found.result = .position := by
      simpa [Phrase.yields] using h.yields _ _ _ rfl hfound
    have hkeeps := h.keeps .positions _ _ rfl hfound fun ho => by
      have hnode := (hin ho).1
      rwa [hshape] at hnode
    obtain ⟨t, htree, heq⟩ := hkeeps
    cases heq
    have hprint : (Node.phrase found.result found.parts).print = positionTrees parts := by
      rw [hshape, htree, Node.print, treesOf, treesOf, Node.trees, List.append_nil, hspoken,
        Option.getD_some]
    have hlater : Tidied inOrder (Mark.other.after (.leaf (.literal text))) found.rest
        (printOf k.parts ++ us) := by
      split at hk
      · next hlast =>
        have hdot : Mark.other.after (.leaf (.literal text)) = .dot := by
          rw [Mark.after, if_pos (endsWithDot_of_positions hspoken (by simpa using hlast))]
        rw [hdot]
        exact h.keeps .member _ _ rfl (run_splice.1 hk) (fun ho => (hin ho).2) us hrest
      · exact (htrailers _ k us hk (fun ho => (hin ho).2) hrest).of_other Mark.after_ne_fresh
    simpa [Found.after, printOf, hprint] using Tidied.numbers hspoken hlater
  · split at hf
    · obtain ⟨t, rest, k, rfl, hk, rfl⟩ := run_take_bind.1 hf
      simpa [Found.after, printOf, Node.print] using
        (htrailers _ k us hk (fun ho => (hin ho).2) hrest).cons (m := .dot) t
    · obtain ⟨t, rest, k, -, rfl, hk, rfl⟩ := run_takeIf_bind.1 hf
      have hlater : Tidied inOrder .other rest (printOf k.parts ++ us) := by
        rcases run_optional_separator_bind hk with ⟨joint, rest, l, rfl, hl, rfl⟩ | hl
        · rw [if_pos rfl] at hl
          obtain ⟨arguments, j, harguments, hj, rfl⟩ := run_splice_bind.1 hl
          have hin' : inOrder → InOrderOf arguments.parts ∧ InOrderOf j.parts := fun ho =>
            inOrderOf_append.1 (hin ho).2.2.2
          have hkeeps := h.keeps .angleArguments _ _ rfl harguments fun ho => (hin' ho).1
          have hcalled : Tidied inOrder .other arguments.rest (printOf j.parts ++ us) := by
            rw [run_ahead_bind] at hj
            split at hj
            · obtain ⟨_, hk, -⟩ := run_bind.1 hj
              exact absurd hk run_refuse
            · exact htrailers _ j us hj (fun ho => (hin' ho).2) hrest
          have hnext := hkeeps _ hcalled .colon (.inr rfl)
          simpa [Found.after, printOf, printOf_append, Node.print] using
            Tidied.leaf _ (Tidied.leaf _ hnext)
        · exact htrailers _ k us hl (fun ho => (hin ho).2) hrest
      simpa [Found.after, printOf, Node.print] using hlater.cons (m := .dot) t

theorem keeps_trailers (h : Keeping inOrder again) {left : Shape}
    (hf : (trailersProgram left).run again ts = some f) (hin : inOrder → InOrderOf f.parts) :
    (Phrase.trailers left).Keeps inOrder ts f := by
  intro m us hm hrest
  obtain rfl : m = .other := hm.resolve_right fun hm => by simp [Phrase.start] at hm
  have htrailers : Prints inOrder again (splice (.trailers .plain)) := fun ts f us hf hin hrest =>
    h.keeps (.trailers .plain) _ _ rfl (run_splice.1 hf) hin .other _ (.inl rfl) hrest
  rw [trailersProgram, run_ahead_bind] at hf
  extract_lets ranged at hf
  split at hf
  · exact prints_bind h (by simp +decide) (fun _ => htrailers) _ _ _ hf hin hrest
  · split at hf
    · next hdot =>
      have hpunct : isPunct "." ts = true := by
        simp only [isDot, Bool.and_eq_true] at hdot
        exact hdot.1.1
      obtain ⟨joint, rest, rfl⟩ := eq_cons_of_isPunct (c := '.') rfl hpunct
      obtain ⟨t, _, k, heq, hk, rfl⟩ := run_take_bind.1 hf
      cases heq
      have hmember := h.keeps .member _ _ rfl (run_splice.1 hk) (fun ho => (hin ho).2) us hrest
      simpa [Found.after, printOf, Node.print] using Tidied.leaf (m := .other) (.punct '.' joint) hmember
    · split at hf
      · exact prints_bind h (by simp +decide) (fun _ => htrailers) _ _ _ hf hin hrest
      · split at hf
        · exact prints_bind h (by simp +decide) (fun _ => htrailers) _ _ _ hf hin hrest
        · rw [run_pure] at hf
          subst hf
          exact hrest

/-! ## The whole grammar -/

/-- What a lawful program ends with. -/
theorem run_yields {p : Phrase}
    (hagain : ∀ q ts f, q.isSound → again q ts = some f → q.yields f.result) (g : Program α) :
    ∀ {taken : Bool} {post : α → Bool → Prop} {ts : List Tree} {f : Found Shape α},
      g.Lawful p taken post → g.run again ts = some f → ∃ more, post f.result more := by
  induction g with
  | done a => intro taken post ts f hg hf; cases hf; exact ⟨taken, hg⟩
  | fail => intro taken post ts f hg hf; cases hf
  | look next ih => intro taken post ts f hg hf; exact ih ts (hg ts) hf
  | take next ih =>
    intro taken post ts f hg hf
    cases ts with
    | nil => cases hf
    | cons t ts =>
      obtain ⟨k, hk, rfl⟩ := Option.map_eq_some_iff.1 hf
      exact ih (f := k) hg hk
  | call q next ih =>
    intro taken post ts f hg hf
    simp only [run] at hf
    split at hf
    · cases hf
    · next found hfound =>
      obtain ⟨k, hk, rfl⟩ := Option.map_eq_some_iff.1 hf
      exact ih _ (f := k) (hg.2.2 _ (hagain q ts found hg.1.1 hfound)) hk
  | splice q next ih =>
    intro taken post ts f hg hf
    simp only [run] at hf
    split at hf
    · cases hf
    · next found hfound =>
      obtain ⟨k, hk, rfl⟩ := Option.map_eq_some_iff.1 hf
      exact ih _ (f := k) (hg.2.2 _ (hagain q ts found hg.1.1 hfound)) hk
  | within q next ih =>
    intro taken post ts f hg hf
    rcases ts with _ | ⟨_ | ⟨d, body⟩, ts⟩
    · cases hf
    · cases hf
    · simp only [run] at hf
      split at hf
      · next s parts hfound =>
        obtain ⟨k, hk, rfl⟩ := Option.map_eq_some_iff.1 hf
        exact ih _ (f := k) (hg.2 _ (hagain q body _ hg.1.1 hfound)) hk
      · cases hf

/-- A phrase that nothing is special about. -/
theorem keeps_ordinary (h : Keeping inOrder again) {p : Phrase} (hp : p.isSound)
    (hspecial : p.isSpecial = false)
    (hf : (rule p).run again ts = some f) (hin : inOrder → InOrderOf f.parts) :
    ∀ m us, m = .other ∨ m = .fresh ∧ p.start = .fresh →
      Tidied inOrder (if p.consumes then .other else m) f.rest us →
      Tidied inOrder m ts (printOf f.parts ++ us) := by
  intro m us hm hrest
  obtain ⟨more, -, ⟨-, hconsumes⟩, hprinted⟩ :=
    run_tidied hspecial h (rule p) (lawful_rule hp) hf
  refine hprinted hin m us (hm.imp id fun h => ⟨h.1, h.2, rfl⟩) ?_
  cases hm' : more with
  | true =>
    refine hrest.mono ?_
    split
    · exact .inl rfl
    · rcases hm with rfl | ⟨rfl, -⟩
      · exact .inl rfl
      · exact .inr (.inl rfl)
  | false =>
    have hnone : p.consumes = false := by simpa [hm'] using hconsumes
    simpa [hnone] using hrest

theorem keeping_recogniseWithin (inOrder : Bool) (fuel : Nat) :
    Keeping inOrder (recogniseWithin rule fuel) := by
  induction fuel with
  | zero => exact ⟨recogniseWithin_faithful rule 0, nofun, nofun⟩
  | succ fuel ih =>
    refine ⟨recogniseWithin_faithful rule (fuel + 1), fun p ts f hp hf => ?_,
      fun p ts f hp hf hin => ?_⟩
    · obtain ⟨-, hyields, -⟩ := run_yields ih.yields (rule p) (lawful_rule hp) hf
      exact hyields
    · have hrun : (rule p).run (recogniseWithin rule fuel) ts = some f := hf
      have hordinary := fun hspecial => keeps_ordinary ih hp hspecial hrun hin
      cases p with
      | hidden n => exact keeps_hidden hrun
      | segment e => exact keeps_segment ih hrun hin
      | angleArguments => exact keeps_angleArguments ih hrun hin
      | argumentList => exact keeps_argumentList ih hrun hin
      | captureList => exact keeps_captureList ih hrun hin
      | capture => exact keeps_capture ih hrun hin
      | member => exact keeps_member ih hrun hin
      | trailers left => exact keeps_trailers ih hrun hin
      | position => exact keeps_position hrun
      | positions => exact keeps_positions hrun
      | _ => exact hordinary rfl

end Accessors.Grammar
