import Accessors.Proofs.Grammar.Depth
import Accessors.Proofs.Grammar.SteadyRules

/-!
# What is found is found again

What a program found is found again in what is printed for it: there every question has the answer that
it had before. The same holds for the trees of a record as they are, with something else brought into
order behind them.

* `formOf`: the trees of records, printed or as they are.
* `FoundAgain`: what was found is found again in that form.
* `Recogniser.run_again`: a program finds again what it found, if its phrases do.
-/

namespace Accessors.Grammar

open Accessors.Token
open Recogniser

variable {α β : Type} {printed : Bool} {s : Shape} {n : Node Shape} {parts : List (Node Shape)}

/-! ## Forms -/

/-- The trees of a record, printed or as they are. -/
def Node.form (printed : Bool) (n : Node Shape) : List Tree := if printed then n.print else n.trees

/-- The trees of a series of records, printed or as they are. -/
def formOf (printed : Bool) (parts : List (Node Shape)) : List Tree :=
  if printed then printOf parts else treesOf parts

@[simp] theorem form_tree (t : Tree) : (Node.tree t).form printed = [t] := by
  cases printed <;> simp [Node.form, Node.print]

@[simp] theorem form_group (d : Delimiter) (body : Node Shape) :
    (Node.group d body).form printed = [.group d (body.form printed)] := by
  cases printed <;> simp [Node.form, Node.print]

theorem form_of_isPlain (hs : s.isPlain) : (Node.phrase s parts).form printed = formOf printed parts := by
  cases printed
  · simp [Node.form, formOf]
  · exact print_of_isPlain hs parts

@[simp] theorem formOf_nil : formOf printed [] = [] := by cases printed <;> simp [formOf, printOf]

@[simp] theorem formOf_cons : formOf printed (n :: parts) = n.form printed ++ formOf printed parts := by
  cases printed <;> simp [formOf, Node.form, printOf]

theorem formOf_append (a b : List (Node Shape)) :
    formOf printed (a ++ b) = formOf printed a ++ formOf printed b := by
  induction a with
  | nil => simp
  | cons n rest ih => simp [ih]

@[simp] theorem formOf_map_tree (ts : List Tree) : formOf printed (ts.map .tree) = ts := by
  induction ts with
  | nil => simp
  | cons t ts ih => simp [ih]

/-! ## What stands last -/

/-- Whether a forest ends with braces; nothing for the empty one. -/
def lastBrace (ts : List Tree) : Option Bool := ts.getLast?.map fun t => isBrace [t]

@[simp] theorem lastBrace_nil : lastBrace [] = none := rfl

@[simp] theorem lastBrace_singleton (t : Tree) : lastBrace [t] = some (isBrace [t]) := rfl

theorem lastBrace_append (a b : List Tree) : lastBrace (a ++ b) = (lastBrace b).or (lastBrace a) := by
  rw [lastBrace, List.getLast?_append, lastBrace, lastBrace]
  cases b.getLast? <;> simp

@[simp] theorem lastBrace_eq_none {ts : List Tree} : lastBrace ts = none ↔ ts = [] := by
  simp [lastBrace]

/-! ## Finding again -/

/-- **What was found is found again** in the trees of its record, with other trees behind them, and with
a record of the same form. The form ends in the same way. -/
structure FoundAgain (printed : Bool) (find : List Tree → Option (Found Shape α)) (f : Found Shape α)
    (us : List Tree) : Prop where
  again : ∃ parts, find (formOf printed f.parts ++ us) = some ⟨f.result, parts, us⟩ ∧
    formOf printed parts = formOf printed f.parts
  ends : lastBrace (formOf printed f.parts) = lastBrace (treesOf f.parts)

variable {g : Program α} {us : List Tree}

/-- Only what is found in the form counts. -/
theorem FoundAgain.of_eq {r r' : List Tree → Option (Found Shape α)} {f : Found Shape α}
    (h : FoundAgain printed r f us)
    (heq : r' (formOf printed f.parts ++ us) = r (formOf printed f.parts ++ us)) :
    FoundAgain printed r' f us := by
  obtain ⟨⟨parts, hparts, hsame⟩, hends⟩ := h
  exact ⟨⟨parts, heq.trans hparts, hsame⟩, hends⟩

/-- Nothing is written for what took nothing. -/
theorem FoundAgain.form_eq_nil {r : List Tree → Option (Found Shape α)} {f : Found Shape α}
    (h : FoundAgain printed r f us) : formOf printed f.parts = [] ↔ treesOf f.parts = [] := by
  rw [← lastBrace_eq_none, h.ends, lastBrace_eq_none]

/-- One program after another. -/
theorem FoundAgain.bind {q : α → Program β} {k : Found Shape α} {l : Found Shape β}
    (hk : FoundAgain printed (g.run Phrase.find) k (formOf printed l.parts ++ us))
    (hl : FoundAgain printed ((q k.result).run Phrase.find) l us) :
    FoundAgain printed ((g >>= q).run Phrase.find) (l.after k.parts) us := by
  obtain ⟨first, hfirst, hsame⟩ := hk.again
  obtain ⟨second, hsecond, hsame'⟩ := hl.again
  refine ⟨⟨first ++ second, ?_, ?_⟩, ?_⟩
  · rw [Found.after, formOf_append, List.append_assoc]
    exact run_bind.2 ⟨_, hfirst, _, hsecond, rfl⟩
  · rw [Found.after, formOf_append, formOf_append, hsame, hsame']
  · rw [Found.after, formOf_append, treesOf_append, lastBrace_append, lastBrace_append, hk.ends, hl.ends]

theorem foundAgain_pure (a : α) (ts : List Tree) :
    FoundAgain printed ((pure a : Program α).run Phrase.find) ⟨a, [], ts⟩ us :=
  ⟨⟨[], by simp, rfl⟩, by simp⟩

/-- A tree that is taken. -/
theorem foundAgain_take (t : Tree) (ts : List Tree) :
    FoundAgain printed (take.run Phrase.find) ⟨(), [.tree t], ts⟩ us :=
  ⟨⟨[.tree t], by simp, rfl⟩, by simp⟩

/-- A tree that is taken after a look at it. -/
theorem foundAgain_takeIf {test : List Tree → Bool} (t : Tree) (ts : List Tree)
    (htest : test (t :: us) = true) :
    FoundAgain printed ((takeIf test).run Phrase.find) ⟨(), [.tree t], ts⟩ us :=
  ⟨⟨[.tree t], by simp [htest], rfl⟩, by simp⟩

/-- Trees that are taken. -/
theorem foundAgain_takeMany {n : Nat} {ts : List Tree} (h : n ≤ ts.length) :
    FoundAgain printed ((takeMany n).run Phrase.find) ⟨(), (ts.take n).map .tree, ts.drop n⟩ us := by
  have hlength : (ts.take n).length = n := by simp [h]
  refine ⟨⟨(ts.take n).map .tree, ?_, rfl⟩, ?_⟩
  · rw [formOf_map_tree, run_takeMany]
    refine ⟨by simp [h], ?_⟩
    rw [List.take_append_of_le_length (by simp [h]), List.take_take, Nat.min_self,
      List.drop_append_of_le_length (by simp [h]), List.drop_eq_nil_of_le (by simp [hlength]),
      List.nil_append]
  · have htrees : treesOf ((ts.take n).map .tree) = ts.take n :=
      (formOf_map_tree (ts.take n) : formOf false _ = _)
    rw [formOf_map_tree, htrees]

/-- A phrase in line. -/
theorem FoundAgain.splice {q : Phrase} {f : Found Shape Shape} (h : FoundAgain printed q.find f us) :
    FoundAgain printed ((splice q).run Phrase.find) f us := by
  obtain ⟨parts, hparts, hsame⟩ := h.again
  exact ⟨⟨parts, run_splice.2 hparts, hsame⟩, h.ends⟩

/-- The record that a phrase becomes. -/
def Found.called (f : Found Shape Shape) : Found Shape Shape :=
  ⟨f.result, [.phrase f.result f.parts], f.rest⟩

/-- A phrase whose record has plain shape. -/
theorem FoundAgain.call {q : Phrase} {f : Found Shape Shape} (hplain : f.result.isPlain)
    (h : FoundAgain printed q.find f us) :
    FoundAgain printed ((call q).run Phrase.find) f.called us := by
  obtain ⟨parts, hparts, hsame⟩ := h.again
  refine ⟨⟨[.phrase f.result parts], ?_, ?_⟩, ?_⟩
  · simp only [Found.called, formOf_cons, formOf_nil, List.append_nil, form_of_isPlain hplain]
    exact run_call.2 ⟨_, hparts, rfl⟩
  · simp [Found.called, form_of_isPlain hplain, hsame]
  · simpa [Found.called, form_of_isPlain hplain] using h.ends

/-- A phrase as the body of a group. -/
theorem FoundAgain.within {q : Phrase} {f : Found Shape Shape} (d : Delimiter)
    (h : FoundAgain printed ((Grammar.call q).run Phrase.find) f.called []) (rest : List Tree) :
    FoundAgain printed ((Grammar.within q).run Phrase.find)
      ⟨f.result, [.group d (.phrase f.result f.parts)], rest⟩ us := by
  obtain ⟨parts, hparts, hsame⟩ := h.again
  obtain ⟨k, hk, heq⟩ := run_call.1 hparts
  simp only [Found.called, Found.mk.injEq] at heq
  obtain ⟨hresult, rfl, hend⟩ := heq
  simp only [Found.called, formOf_cons, formOf_nil, List.append_nil] at hk hsame
  refine ⟨⟨[.group d (.phrase k.result k.parts)], ?_, ?_⟩, ?_⟩
  · simp only [formOf_cons, formOf_nil, form_group, List.append_nil]
    exact run_within.2 ⟨d, _, us, k, rfl, hk, hend, by rw [hresult]⟩
  · simp [hsame]
  · cases d <;> simp [isBrace, isGroup]

/-! ## Programs -/

/-- The phrase is printed by its parts, wherever it stands. -/
def Phrase.isOrdinary : Phrase → Bool
  | .hidden _ | .argumentList | .captureList | .positions => false
  | _ => true

theorem Phrase.isOrdinary_of_start {q : Phrase} (h : q.start = .fresh ∨ q.start = .other) :
    q.isOrdinary = true := by
  cases q <;> simp_all [Phrase.start, Phrase.isOrdinary]

/-- What phrases find is found again. -/
structure Recurring (printed : Bool) (again : Phrase → List Tree → Option (Found Shape Shape)) :
    Prop where
  keeping : Keeping false again
  lightening : Lightening again
  found : ∀ {q ts f}, q.isSound → again q ts = some f → q.find ts = some f
  parts : ∀ {q ts f us}, q.isSound → (printed = true → q.isOrdinary) → again q ts = some f →
    Tidied false .other f.rest us → FoundAgain printed q.find f us
  called : ∀ {q ts f us}, q.isSound → (printed = true → q.start = .fresh ∨ q.start = .other) →
    again q ts = some f → Tidied false .other f.rest us →
    FoundAgain printed ((call q).run Phrase.find) f.called us
  list : ∀ {q ts f us}, printed = true → q = .argumentList ∨ q = .captureList → again q ts = some f →
    Tidied false .other f.rest us →
    ∃ parts, q.find ((Node.phrase f.result f.parts).print ++ us) = some ⟨f.result, parts, us⟩ ∧
      (Node.phrase f.result parts).print = (Node.phrase f.result f.parts).print ∧
      isPunct ">" ((Node.phrase f.result f.parts).print ++ us) = isPunct ">" ts

variable {again : Phrase → List Tree → Option (Found Shape Shape)} {p : Phrase} {fresh taken : Bool}
  {post : α → Bool → Prop} {ts : List Tree} {f : Found Shape α}

/-- **What a program found is written brought into order**, in either form. -/
theorem Recurring.tidied (h : Recurring printed again) (fresh : Bool)
    (hspecial : printed = true → p.isSpecial = false) (hg : g.Lawful p taken post)
    (hf : g.run again ts = some f)
    (hfresh : fresh = true → p.start = .fresh ∧ taken = false ∧ ∀ a t, post a t → t = true)
    (hrest : Tidied false .other f.rest us) :
    Tidied false (.opening fresh) ts (formOf printed f.parts ++ us) := by
  cases printed with
  | true =>
    obtain ⟨more, -, hpost, hprinted⟩ := run_tidied (hspecial rfl) h.keeping g hg hf
    cases fresh with
    | false => exact hprinted nofun .other us (.inl rfl) (by simpa using hrest)
    | true =>
      obtain ⟨hstart, htaken, hmore⟩ := hfresh rfl
      exact hprinted nofun .fresh us (.inr ⟨rfl, hstart, htaken⟩) (by simpa [hmore _ _ hpost] using hrest)
  | false =>
    have htrees := run_faithful h.keeping.faithful g ts f hf
    change Tidied false _ ts (treesOf f.parts ++ us)
    cases fresh with
    | false =>
      rw [← htrees]
      exact hrest.append _
    | true =>
      -- The program takes a tree, which stands in front of both.
      obtain ⟨-, htaken, hmore⟩ := hfresh rfl
      obtain ⟨-, more, hpost, hlt⟩ := run_lightens h.lightening g hg hf
      have hless := (hlt (hmore _ _ hpost)).resolve_left (by simp [htaken])
      cases hparts : treesOf f.parts with
      | nil =>
        rw [hparts, List.nil_append] at htrees
        rw [htrees] at hless
        exact absurd hless (Nat.lt_irrefl _)
      | cons t front =>
        rw [← htrees, hparts, List.cons_append, List.cons_append]
        exact (hrest.append front).cons t

/-- **A steady program finds again what it found**, if its phrases do. -/
theorem Recogniser.run_again (h : Recurring printed again)
    (hspecial : printed = true → p.isSpecial = false) (g : Program α) :
    ∀ {fresh taken : Bool} {post : α → Bool → Prop} {ts us : List Tree} {f : Found Shape α},
      g.Lawful p taken post → g.Steady fresh →
      (fresh = true → p.start = .fresh ∧ taken = false ∧ ∀ a t, post a t → t = true) →
      g.run again ts = some f → Tidied false .other f.rest us →
      FoundAgain printed (g.run Phrase.find) f us := by
  -- What a phrase that the program calls for has to know.
  have hcalls {taken : Bool} {q : Phrase} (hallows : p.Allows taken q) (hp : printed = true) :
      q.start = .fresh ∨ q.start = .other := by
    have hordinary := hspecial hp
    exact (hallows.2.resolve_left (by simp [hordinary])).imp id And.left
  have hlater {fresh taken : Bool} {q : Phrase} {post : α → Bool → Prop}
      (hfresh : fresh = true → p.start = .fresh ∧ taken = false ∧ ∀ a t, post a t → t = true)
      (hopen : (fresh && !q.consumes) = true) :
      p.start = .fresh ∧ (taken || q.consumes) = false ∧ ∀ a t, post a t → t = true := by
    obtain ⟨hf, hq⟩ := Bool.and_eq_true_iff.1 hopen
    obtain ⟨hstart, htaken, hpost⟩ := hfresh hf
    exact ⟨hstart, by simpa [htaken] using hq, hpost⟩
  induction g with
  | done a => intro fresh taken post ts us f _ _ _ hf _; cases hf; exact foundAgain_pure a ts
  | fail => intro fresh taken post ts us f _ _ _ hf; cases hf
  | look next ih =>
    intro fresh taken post ts us f hg hsteady hfresh hf hrest
    have htidied := h.tidied fresh hspecial hg hf hfresh hrest
    obtain ⟨⟨parts, hparts, hsame⟩, hends⟩ := ih ts (hg ts) (hsteady.2 ts) hfresh hf hrest
    refine ⟨⟨parts, ?_, hsame⟩, hends⟩
    change (next _).run Phrase.find _ = _
    rwa [← hsteady.1 _ _ htidied]
  | take next ih =>
    intro fresh taken post ts us f hg hsteady _ hf hrest
    change (Grammar.take >>= fun _ => next).run again ts = some f at hf
    obtain ⟨t, rest, k, rfl, hk, rfl⟩ := run_take_bind.1 hf
    exact (foundAgain_take t rest).bind (q := fun _ => next) (ih hg hsteady nofun hk hrest)
  | call q next ih =>
    intro fresh taken post ts us f hg hsteady hfresh hf hrest
    obtain ⟨found, k, hfound, hk, rfl⟩ := run_call_bind.1 hf
    obtain ⟨hallows, -, hg⟩ := hg
    have hnext := hg _ (h.keeping.yields _ _ _ hallows.1 hfound)
    have hagain := ih _ hnext (hsteady _) (hlater hfresh) hk hrest
    have hbehind := h.tidied false hspecial hnext hk nofun hrest
    exact (h.called hallows.1 (hcalls hallows) hfound hbehind).bind hagain
  | splice q next ih =>
    intro fresh taken post ts us f hg hsteady hfresh hf hrest
    obtain ⟨found, k, hfound, hk, rfl⟩ := run_splice_bind.1 hf
    obtain ⟨hallows, -, hg⟩ := hg
    have hnext := hg _ (h.keeping.yields _ _ _ hallows.1 hfound)
    have hagain := ih _ hnext (hsteady _) (hlater hfresh) hk hrest
    have hbehind := h.tidied false hspecial hnext hk nofun hrest
    have hparts := h.parts hallows.1 (fun hp => Phrase.isOrdinary_of_start (hcalls hallows hp)) hfound
      hbehind
    exact hparts.splice.bind hagain
  | within q next ih =>
    intro fresh taken post ts us f hg hsteady _ hf hrest
    change (Grammar.within q >>= next).run again ts = some f at hf
    obtain ⟨k, hk, l, hl, rfl⟩ := run_bind.1 hf
    obtain ⟨d, body, rest, found, rfl, hfound, hend, rfl⟩ := run_within.1 hk
    obtain ⟨⟨hsound, -, hstart⟩, hg⟩ := hg
    have hnext := hg _ (h.keeping.yields _ _ _ hsound hfound)
    have hagain := ih _ hnext (hsteady _) nofun hl hrest
    have hnil : Tidied false .other found.rest [] := by rw [hend]; exact .nil
    exact ((h.called hsound (fun _ => hstart) hfound hnil).within d rest).bind hagain

/-! ## Programs that begin behind nothing special -/

/-- What the program found is written brought into order, and found again there. -/
def Recurs (printed : Bool) (again : Phrase → List Tree → Option (Found Shape Shape)) (g : Program α) :
    Prop :=
  ∀ ⦃ts f us⦄, g.run again ts = some f → Tidied false .other f.rest us →
    Tidied false .other ts (formOf printed f.parts ++ us) ∧ FoundAgain printed (g.run Phrase.find) f us

theorem Recurs.bind (hg : Recurs printed again g) (hnext : ∀ a, Recurs printed again (next a)) :
    Recurs printed again (g >>= next) := by
  intro ts f us hf hrest
  obtain ⟨k, hk, l, hl, rfl⟩ := run_bind.1 hf
  obtain ⟨hbehind, hlater⟩ := hnext _ hl hrest
  obtain ⟨hfront, hfirst⟩ := hg hk hbehind
  refine ⟨?_, hfirst.bind hlater⟩
  rwa [Found.after, formOf_append, List.append_assoc]

/-- A look whose answers stay. What is seen is known behind it. -/
theorem recurs_ask {look : List Tree → Program α} (hasks : Asks false look)
    (h : ∀ ts f us, (look ts).run again ts = some f → Tidied false .other f.rest us →
      Tidied false .other ts (formOf printed f.parts ++ us) ∧
        FoundAgain printed ((look ts).run Phrase.find) f us) :
    Recurs printed again (ahead >>= look) := by
  intro ts f us hf hrest
  obtain ⟨hfront, hfound⟩ := h ts f us hf hrest
  refine ⟨hfront, hfound.of_eq ?_⟩
  change (look _).run Phrase.find _ = _
  rw [← hasks _ _ hfront]

theorem recurs_look {look : List Tree → Program α} (hasks : Asks false look)
    (h : ∀ ts, Recurs printed again (look ts)) : Recurs printed again (ahead >>= look) :=
  recurs_ask hasks fun ts _ _ hf hrest => h ts hf hrest

theorem recurs_pure (a : α) : Recurs printed again (pure a : Program α) := by
  intro ts f us hf hrest
  rw [run_pure] at hf
  subst hf
  exact ⟨by simpa using hrest, foundAgain_pure a ts⟩

theorem recurs_take : Recurs printed again take := by
  intro ts f us hf hrest
  obtain ⟨t, rest, rfl, rfl⟩ := run_take.1 hf
  exact ⟨by simpa using hrest.cons t, foundAgain_take t rest⟩

theorem recurs_takeMany (n : Nat) : Recurs printed again (takeMany n) := by
  intro ts f us hf hrest
  obtain ⟨hn, rfl⟩ := run_takeMany.1 hf
  refine ⟨?_, foundAgain_takeMany hn⟩
  have htidied := hrest.append (ts.take n)
  have hform : formOf printed ((ts.take n).map .tree) = ts.take n := formOf_map_tree _
  rwa [List.take_append_drop, ← hform] at htidied

theorem recurs_refuse : Recurs printed again (refuse : Program α) := fun _ _ _ hf => absurd hf run_refuse

theorem recurs_takeIf {test : List Tree → Bool} (hasks : Asks false test) :
    Recurs printed again (takeIf test) := by
  refine recurs_look (asks_ite hasks asks_const asks_const) fun ts => ?_
  split
  · exact recurs_take
  · exact recurs_refuse

theorem recurs_expect {operator : String} (hcalm : isCalm operator.toList = true) :
    Recurs printed again (expect operator) := by
  refine recurs_look (asks_ite (asks_isPunct hcalm) asks_const asks_const) fun ts => ?_
  split
  · exact recurs_takeMany _
  · exact recurs_refuse

theorem recurs_optional {operator : String} (hcalm : isCalm operator.toList = true) :
    Recurs printed again (optional operator) := by
  refine recurs_look (asks_ite (asks_isPunct hcalm) asks_const asks_const) fun ts => ?_
  split
  · exact (recurs_takeMany _).bind fun _ => recurs_pure true
  · exact recurs_pure false

section

variable (h : Recurring printed again) {q : Phrase} (hsound : q.isSound)
  (hstart : q.start = .fresh ∨ q.start = .other) (hposition : q.isPosition = false)
include h hsound hstart hposition

/-- A phrase in line. -/
theorem Recurring.splice : Recurs printed again (splice q) := by
  intro ts f us hf hrest
  have hlawful : (Grammar.splice q).Lawful .modulePath true fun _ _ => True :=
    lawful_splice_end.2 ⟨⟨hsound, .inr (hstart.imp id fun hq => ⟨hq, nofun⟩)⟩,
      fun hp => by simp [hposition] at hp, fun _ _ => trivial⟩
  exact ⟨h.tidied false (fun _ => rfl) hlawful hf nofun hrest,
    (h.parts hsound (fun _ => Phrase.isOrdinary_of_start hstart) (run_splice.1 hf) hrest).splice⟩

/-- A phrase that becomes a record. -/
theorem Recurring.call : Recurs printed again (call q) := by
  intro ts f us hf hrest
  have hlawful : (Grammar.call q).Lawful .modulePath true fun _ _ => True :=
    lawful_call_end.2 ⟨⟨hsound, .inr (hstart.imp id fun hq => ⟨hq, nofun⟩)⟩,
      fun hp => by simp [hposition] at hp, fun _ _ => trivial⟩
  obtain ⟨k, hk, rfl⟩ := run_call.1 hf
  exact ⟨h.tidied false (fun _ => rfl) hlawful hf nofun hrest,
    h.called hsound (fun _ => hstart) hk hrest⟩

/-- A phrase as the body of a group. -/
theorem Recurring.within : Recurs printed again (within q) := by
  intro ts f us hf hrest
  have hlawful : (Grammar.within q).Lawful .modulePath true fun _ _ => True :=
    lawful_within_end.2 ⟨⟨hsound, hposition, hstart⟩, fun _ _ => trivial⟩
  obtain ⟨d, body, rest, k, rfl, hk, hend, rfl⟩ := run_within.1 hf
  have hnil : Tidied false .other k.rest [] := by rw [hend]; exact .nil
  exact ⟨h.tidied false (fun _ => rfl) hlawful hf nofun hrest,
    (h.called hsound (fun _ => hstart) hk hnil).within d rest⟩

end

/-- Steady programs recur, if they call for nothing special. -/
theorem Recurring.recurs (h : Recurring printed again) (hspecial : printed = true → p.isSpecial = false)
    (hg : g.Lawful p taken post) (hsteady : g.Steady false) : Recurs printed again g :=
  fun _ _ _ hf hrest => ⟨h.tidied false hspecial hg hf nofun hrest,
    run_again h hspecial g hg hsteady nofun hf hrest⟩

end Accessors.Grammar
