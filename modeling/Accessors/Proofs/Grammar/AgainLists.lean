import Accessors.Proofs.Grammar.AgainPaths
import Accessors.Proofs.Grammar.TypeSettled

/-!
# Finding lists again

The elements of a list between angle brackets are printed with the lifetimes first, so an element can have
something else behind it than before: a comma where there was the closing bracket, or other elements behind
its comma. An element is found again all the same.

* `Lists`: what a list was found in, one element after another.
* `find_joined`: a list is found in its elements joined by commas, if each of them is found again.
* `Recurring.list_again`: lists of arguments are found again.
-/

namespace Accessors.Grammar

open Accessors.Token
open Recogniser

attribute [local instance] lawfulMonad
attribute [-simp] bind_pure_comp map_pure List.drop_one List.isEmpty_iff

variable {again : Phrase → List Tree → Option (Found Shape Shape)} {ts us rest : List Tree}
  {f k : Found Shape Shape} {s : Shape} {element list : Phrase} {parts : List (Node Shape)}

/-! ## What a list was found in -/

/-- The elements of a list were found one after another, up to a closing bracket. -/
inductive Lists (again : Phrase → List Tree → Option (Found Shape Shape)) (element : Phrase)
    (rest : List Tree) : List Tree → List (Node Shape) → Prop
  | nil (hclose : isPunct ">" rest = true) : Lists again element rest rest []
  | last {ts : List Tree} {k : Found Shape Shape} (hk : again element ts = some k) (hrest : k.rest = rest)
    (hclose : isPunct ">" rest = true) : Lists again element rest ts [.phrase k.result k.parts]
  | cons {ts more : List Tree} {k : Found Shape Shape} {joint : Bool} {parts : List (Node Shape)}
    (hk : again element ts = some k) (hcomma : k.rest = .leaf (.punct ',' joint) :: more)
    (h : Lists again element rest more parts) : Lists again element rest ts
      (.phrase k.result k.parts :: .tree (.leaf (.punct ',' joint)) :: parts)

theorem lists_of_recogniseWithin (hlist : rule list = listProgram s element list) {m fuel : Nat}
    (hm : m ≤ fuel + 1) (hf : recogniseWithin rule m list ts = some f) :
    f.result = s ∧ Lists (recogniseWithin rule fuel) element f.rest ts f.parts := by
  -- What stands behind a comma is found as the same list, one level deeper.
  induction m generalizing ts f with
  | zero => cases hf
  | succ m ih =>
    have hrun : (listProgram s element list).run (recogniseWithin rule m) ts = some f := by
      rw [← hlist]
      exact hf
    have hdeep {q : Phrase} {ts : List Tree} {k : Found Shape Shape}
        (hk : recogniseWithin rule m q ts = some k) : recogniseWithin rule fuel q ts = some k :=
      extends_recogniseWithin rule (by omega) q ts k hk
    rw [listProgram, run_ahead_bind] at hrun
    split at hrun
    · next hclose =>
      rw [run_pure] at hrun
      subst hrun
      exact ⟨rfl, .nil hclose⟩
    · obtain ⟨first, k, hfirst, hk, rfl⟩ := run_call_bind.1 hrun
      rw [run_ahead_bind] at hk
      split at hk
      · next hclose =>
        rw [run_pure] at hk
        subst hk
        exact ⟨rfl, .last (hdeep hfirst) rfl hclose⟩
      · obtain ⟨joint, more, l, hcomma, hl, rfl⟩ := (run_expect_bind (c := ',') rfl).1 hk
        obtain ⟨hshape, hmore⟩ := ih (by omega) (run_splice.1 hl)
        exact ⟨hshape, .cons (hdeep hfirst) hcomma hmore⟩

/-- An element of a list, as it was found: a comma stood behind it, or the end of the list. -/
structure Lists.Element (again : Phrase → List Tree → Option (Found Shape Shape)) (element : Phrase)
    (rest : List Tree) (e : Listed) (ts : List Tree) (k : Found Shape Shape) : Prop where
  found : again element ts = some k
  lifetime : (Node.phrase k.result k.parts).isLifetime = e.lifetime
  trees : (Node.phrase k.result k.parts).print = e.trees
  behind : e.comma = true ∧ (∃ joint more, k.rest = .leaf (.punct ',' joint) :: more) ∨
    e.comma = false ∧ k.rest = rest

theorem Lists.elements (h : Lists again element rest ts parts) :
    (∀ e ∈ listedOf parts, ∃ ts k, Lists.Element again element rest e ts k) ∧
      ∀ e ∈ (listedOf parts).dropLast, e.comma = true := by
  induction h with
  | nil hclose => exact ⟨nofun, nofun⟩
  | last hk hrest hclose =>
    refine ⟨fun e he => ?_, nofun⟩
    obtain rfl := List.mem_singleton.1 he
    exact ⟨_, _, hk, rfl, rfl, .inr ⟨rfl, hrest⟩⟩
  | @cons _ _ _ _ parts hk hcomma h ih =>
    obtain ⟨helements, hcommas⟩ := ih
    refine ⟨fun e he => ?_, fun e he => ?_⟩
    · rcases List.mem_cons.1 he with rfl | he
      · exact ⟨_, _, hk, rfl, rfl, .inl ⟨rfl, _, _, hcomma⟩⟩
      · exact helements e he
    · rw [listedOf] at he
      cases hparts : listedOf parts with
      | nil =>
        rw [hparts] at he
        cases he
      | cons first others =>
        rw [hparts] at he hcommas
        rcases List.mem_cons.1 he with rfl | he
        · rfl
        · exact hcommas e he

/-- A list ends in front of a closing bracket. -/
theorem Lists.closes (h : Lists again element rest ts parts) : isPunct ">" rest = true := by
  induction h with
  | nil hclose => exact hclose
  | last hk hrest hclose => exact hclose
  | cons hk hcomma h ih => exact ih

/-- A list is empty if its end comes next. -/
theorem Lists.isEmpty (h : Lists again element rest ts parts)
    (hbegins : ∀ ts k, again element ts = some k → isPunct ">" ts = false) :
    isPunct ">" ts = (listedOf parts).isEmpty := by
  cases h with
  | nil hclose => exact hclose
  | last hk hrest hclose => exact hbegins _ _ hk
  | cons hk hcomma h => exact hbegins _ _ hk

/-! ## Lists of elements that are found again -/

/-- What can stand behind an element: a comma, or the end of the list. -/
def Precedes (e : Listed) (us beyond : List Tree) : Prop :=
  (e.comma = true ∨ e.lifetime = true) ∧ (∃ rest, beyond = commaTree :: rest) ∨
    e.comma = false ∧ beyond = us

/-- The records are those of the elements, with commas between, and behind the last element if it has one. -/
inductive Alternating {ε : Type} (comma : ε → Bool) (P : ε → Node Shape → Prop) :
    List ε → List (Node Shape) → Prop
  | nil : Alternating comma P [] []
  | last {e : ε} {n : Node Shape} (hn : P e n) (hcomma : comma e = false) : Alternating comma P [e] [n]
  | cons {e : ε} {n : Node Shape} {es : List ε} {parts : List (Node Shape)} (hn : P e n)
    (hmore : (comma e || !es.isEmpty) = true) (t : Node Shape) (h : Alternating comma P es parts) :
    Alternating comma P (e :: es) (n :: t :: parts)

theorem joined_cons (e : Listed) (es : List Listed) : joined (e :: es) =
    e.trees ++ if e.comma || !es.isEmpty then commaTree :: joined es else [] := by
  cases es with
  | nil => cases h : e.comma <;> simp [joined, h]
  | cons e' es => simp [joined]

/-- **A list is found in its elements**, joined by commas, in front of a closing bracket. -/
theorem find_joined {ε : Type} (view : ε → Listed) (hlist : rule list = listProgram s element list)
    (hsound : list.isSound) (hbegins : ∀ ts f, element.find ts = some f → isPunct ">" ts = false)
    (hclose : isPunct ">" us = true) {P : ε → Node Shape → Prop} {es : List ε}
    (hes : ∀ e ∈ es, ∀ beyond, Precedes (view e) us beyond →
      ∃ f, element.find ((view e).trees ++ beyond) = some f ∧ f.rest = beyond ∧
        P e (.phrase f.result f.parts))
    (hcommas : ∀ e ∈ es.dropLast, (view e).comma = true ∨ (view e).lifetime = true) :
    ∃ parts, list.find (joined (es.map view) ++ us) = some ⟨s, parts, us⟩ ∧
      Alternating (fun e => (view e).comma) P es parts ∧
      isPunct ">" (joined (es.map view) ++ us) = es.isEmpty := by
  have hrun {ts : List Tree} : list.find ts = (listProgram s element list).run Phrase.find ts := by
    rw [find_eq_run hsound, hlist]
  induction es with
  | nil =>
    refine ⟨[], ?_, .nil, hclose⟩
    rw [hrun, listProgram, run_ahead_bind, List.map_nil, joined, List.nil_append, if_pos hclose]
    rfl
  | cons e es ih =>
    have hcommas' : ∀ e ∈ es.dropLast, (view e).comma = true ∨ (view e).lifetime = true :=
      fun e he => hcommas e (by
        cases es with
        | nil => cases he
        | cons e' es => exact List.mem_cons_of_mem _ he)
    obtain ⟨parts, hparts, halternating, -⟩ :=
      ih (fun e he => hes e (List.mem_cons_of_mem _ he)) hcommas'
    rw [List.map_cons, joined_cons]
    have hnone : (es.map view).isEmpty = es.isEmpty := by cases es <;> rfl
    rw [hnone]
    cases hmore : (view e).comma || !es.isEmpty with
    | true =>
      have hcomma : (view e).comma = true ∨ (view e).lifetime = true := by
        cases es with
        | nil => exact .inl (by simpa using hmore)
        | cons e' es => exact hcommas e (by simp)
      obtain ⟨f, hf, hbehind, hn⟩ :=
        hes e List.mem_cons_self _ (.inl ⟨hcomma, joined (es.map view) ++ us, rfl⟩)
      refine ⟨.phrase f.result f.parts :: .tree commaTree :: parts, ?_, .cons hn hmore _ halternating, ?_⟩
      · rw [hrun, listProgram, run_ahead_bind, if_pos rfl, List.append_assoc, List.cons_append,
          if_neg (by simp [hbegins _ _ hf])]
        refine run_call_bind.2 ⟨f, ⟨s, .tree commaTree :: parts, us⟩, hf, ?_, rfl⟩
        have hopen (ts : List Tree) : isPunct ">" (commaTree :: ts) = false := rfl
        rw [run_ahead_bind, hbehind, hopen, if_neg Bool.false_ne_true]
        exact (run_expect_bind (c := ',') rfl).2 ⟨false, _, _, rfl, run_splice.2 hparts, rfl⟩
      · rw [if_pos rfl, List.append_assoc, List.cons_append]
        exact hbegins _ _ hf
    | false =>
      obtain ⟨hcomma, hempty⟩ := Bool.or_eq_false_iff.1 hmore
      obtain rfl : es = [] := List.isEmpty_iff.1 (by simpa using hempty)
      obtain ⟨f, hf, hbehind, hn⟩ := hes e List.mem_cons_self us (.inr ⟨hcomma, rfl⟩)
      refine ⟨[.phrase f.result f.parts], ?_, .last hn hcomma, ?_⟩
      · rw [hrun, listProgram, run_ahead_bind, if_neg Bool.false_ne_true, List.append_nil,
          if_neg (by simp [hbegins _ _ hf])]
        refine run_call_bind.2 ⟨f, ⟨s, [], us⟩, hf, ?_, rfl⟩
        rw [run_ahead_bind, hbehind, if_pos hclose]
        rfl
      · rw [if_neg Bool.false_ne_true, List.append_nil]
        exact hbegins _ _ hf

/-! ## Lifetimes first -/

/-- Only the last element of a list has no comma, or a lifetime that was the last one before. -/
theorem comma_or_lifetime {es : List Listed} (h : ∀ e ∈ es.dropLast, e.comma = true) :
    ∀ e ∈ (lifetimesFirst es).dropLast, e.comma = true ∨ e.lifetime = true := by
  intro e he
  rcases List.eq_nil_or_concat es with rfl | ⟨init, last, rfl⟩
  · cases he
  · rw [List.concat_eq_append, List.dropLast_concat] at h
    rw [List.concat_eq_append, lifetimesFirst, List.filter_append, List.filter_append] at he
    by_cases hlast : last.lifetime = true
    · have hmem := (List.dropLast_sublist _).mem he
      simp only [List.mem_append, List.mem_filter, List.mem_singleton] at hmem
      grind
    · have hothers : [last].filter (!·.lifetime) = [last] := by simp [hlast]
      rw [hothers, ← List.append_assoc, List.dropLast_concat] at he
      simp only [List.mem_append, List.mem_filter, List.mem_singleton] at he
      grind

theorem pairwise_lifetimesFirst (es : List Listed) :
    (lifetimesFirst es).Pairwise fun a b => b.lifetime → a.lifetime := by
  rw [lifetimesFirst, List.pairwise_append]
  refine ⟨?_, ?_, fun a ha b hb hlifetime => (List.mem_filter.1 ha).2⟩
  · exact List.pairwise_of_forall_mem_list fun a ha b hb _ => (List.mem_filter.1 ha).2
  · refine List.pairwise_of_forall_mem_list fun a ha b hb hlifetime => ?_
    have hother := (List.mem_filter.1 hb).2
    simp [hlifetime] at hother

theorem isEmpty_lifetimesFirst (es : List Listed) : (lifetimesFirst es).isEmpty = es.isEmpty := by
  cases es with
  | nil => rfl
  | cons e es => cases h : e.lifetime <;> simp [lifetimesFirst, h]

/-- The record is printed as the element is, and is a lifetime if that is one. -/
structure PrintedAs (e : Listed) (n : Node Shape) : Prop where
  print : n.print = e.trees
  lifetime : n.isLifetime = e.lifetime

/-- Records that alternate with commas are printed as the elements are. -/
theorem Alternating.listed {es : List Listed} (h : Alternating Listed.comma PrintedAs es parts) :
    joined (listedOf parts) = joined es ∧
      (listedOf parts).map (·.lifetime) = es.map (·.lifetime) := by
  induction h with
  | nil => exact ⟨rfl, rfl⟩
  | last hn hcomma => simp [listedOf, joined, hn.print, hn.lifetime, hcomma]
  | @cons e n es parts hn hmore t h ih =>
    obtain ⟨hjoined, hlifetimes⟩ := ih
    refine ⟨?_, by simp [listedOf, hn.lifetime, hlifetimes]⟩
    rw [joined_listedOf, hjoined, joined_cons, if_pos hmore, hn.print]

/-! ## Arguments -/

/-- An argument or a captured name. -/
def Phrase.isElement (p : Phrase) : Prop := p = .argument ∨ p = .captureItem

/-- No element begins with a closing bracket. -/
theorem begins_of_element (helement : element.isElement) (hf : element.find ts = some f) :
    isPunct ">" ts = false := by
  rcases helement with rfl | rfl
  · exact (begins_of_argument hf).1
  · rw [Bool.eq_false_iff]
    intro h
    obtain ⟨joint, rest, rfl⟩ := eq_cons_of_isPunct rfl h
    rw [find_eq_run rfl] at hf
    cases hf

/-- What an argument is that is no lifetime. -/
def otherArgument (ts : List Tree) : Program Shape := do
  if facesConstant ts then splice .constArgument
  else
    match ← call (.type true) with
    | .path s =>
      if s.qualified || s.rooted || !s.single || s.called then return .plain
      let ts ← ahead
      if isPunct "=" ts then
        take
        if facesConstant (← ahead) then splice .constArgument
        else
          let _ ← call (.type true)
          return .plain
      else if isPunct ":" ts then
        take
        splice .constraintBounds
      else return .plain
    | _ => return .plain

theorem argumentProgram_eq : argumentProgram = ahead >>= fun ts =>
    if isLifetime ts && !isPunct "+" (ts.drop 1) then take >>= fun _ => pure .lifetime
    else otherArgument ts := rfl

attribute [local simp] Phrase.Allows Phrase.Passes Phrase.isSound Phrase.start Phrase.yields
  Phrase.isPosition in
theorem lawful_otherArgument :
    (otherArgument ts).Lawful .argument false fun s _ => s ≠ .lifetime := by
  simp +decide [otherArgument]
  intro _ s _
  split <;> simp +decide

/-- A lifetime among the elements is a single tree. -/
theorem eq_of_lifetime (helement : element.isElement) (hf : element.find ts = some f)
    (hlifetime : (Node.phrase f.result f.parts).isLifetime = true) :
    ∃ name, f.result = .lifetime ∧ f.parts = [.tree (.leaf (.lifetime name))] := by
  have hshape : f.result = .lifetime := by
    cases hresult : f.result <;> rw [hresult] at hlifetime <;> first | rfl | cases hlifetime
  have htaken {ts : List Tree} {f : Found Shape Shape} (h : isLifetime ts = true)
      (hf : (take >>= fun _ => pure Shape.lifetime).run Phrase.find ts = some f) :
      ∃ name, f.result = .lifetime ∧ f.parts = [.tree (.leaf (.lifetime name))] := by
    obtain ⟨name, rest, rfl⟩ := eq_cons_of_isLifetime h
    cases hf
    exact ⟨name, rfl, rfl⟩
  rw [find_eq_run (by rcases helement with rfl | rfl <;> rfl)] at hf
  rcases helement with rfl | rfl
  · change argumentProgram.run Phrase.find ts = some f at hf
    rw [argumentProgram_eq, run_ahead_bind] at hf
    split at hf
    · next h =>
      rw [Bool.and_eq_true] at h
      exact htaken h.1 hf
    · obtain ⟨_, hne⟩ := run_yields lightening_find.yields _ lawful_otherArgument hf
      exact absurd hshape hne
  · change captureItemProgram.run Phrase.find ts = some f at hf
    rw [captureItemProgram, run_ahead_bind] at hf
    split at hf
    · next h => exact htaken h hf
    · obtain ⟨_, _, k, -, -, hk, rfl⟩ := run_takeIf_bind.1 hf
      rw [run_pure] at hk
      subst hk
      cases hshape

/-- A record that is found again as a part. -/
theorem find_of_called {q : Phrase} (h : FoundAgain true ((call q).run Phrase.find) k.called us) :
    ∃ f, q.find ((Node.phrase k.result k.parts).print ++ us) = some f ∧ f.rest = us ∧
      (Node.phrase f.result f.parts).print = (Node.phrase k.result k.parts).print ∧
      f.result = k.result := by
  obtain ⟨parts, hparts, hsame⟩ := h.again
  obtain ⟨f, hf, heq⟩ := run_call.1 hparts
  simp only [Found.called, Found.mk.injEq] at heq
  obtain ⟨hresult, rfl, hrest⟩ := heq
  refine ⟨f, by simpa [Found.called, Node.form] using hf, hrest, ?_, hresult⟩
  simpa [Found.called, Node.form] using hsame

/-- **An element of a list is found again**, whatever stands behind its comma, and in front of a comma if
it is a lifetime. -/
theorem Recurring.again_element {fuel : Nat} (h : Recurring true (recogniseWithin rule fuel))
    (helement : element.isElement) {e : Listed} (hrest : Tidied false .other rest us)
    (hk : Lists.Element (recogniseWithin rule fuel) element rest e ts k) {beyond : List Tree}
    (hbeyond : Precedes e us beyond) : ∃ f, element.find (e.trees ++ beyond) = some f ∧ f.rest = beyond ∧
      PrintedAs e (.phrase f.result f.parts) := by
  have hsound : element.isSound := by rcases helement with rfl | rfl <;> rfl
  have hstart : element.start = .other := by rcases helement with rfl | rfl <;> rfl
  obtain ⟨hfound, hlifetime, htrees, hbehind⟩ := hk
  have hcalled {k' : Found Shape Shape} {ts : List Tree}
      (hk : recogniseWithin rule fuel element ts = some k') (hresult : k'.result = k.result)
      (hparts : k'.parts = k.parts) (hrest : Tidied false .other k'.rest beyond) :
      ∃ f, element.find (e.trees ++ beyond) = some f ∧ f.rest = beyond ∧
        PrintedAs e (.phrase f.result f.parts) := by
    obtain ⟨f, hf, hrest, hprint, hshape⟩ :=
      find_of_called (h.called hsound (fun _ => .inr hstart) hk hrest)
    rw [hresult, hparts, htrees] at hf hprint
    refine ⟨f, hf, hrest, hprint, ?_⟩
    rw [← hlifetime, hshape, hresult]
    cases k.result <;> rfl
  rcases hbeyond with ⟨hmore, others, rfl⟩ | ⟨hcomma, rfl⟩
  · rcases hbehind with ⟨-, joint, more, hcomma⟩ | ⟨hcomma, -⟩
    · -- Commas stand behind it in both.
      have hends : Closes true k.rest := .inr ⟨',', joint, more, rfl, hcomma⟩
      have hexchanged := type_exchanged (by rcases helement with rfl | rfl <;> simp) hfound hends
        (.inr ⟨',', false, others, rfl, rfl⟩) (.inl rfl)
        (.inr ⟨',', joint, false, more, others, hcomma, rfl⟩)
      exact hcalled hexchanged rfl rfl (tidied_self _ _)
    · -- A lifetime at the end goes to the front.
      have he : e.lifetime = true := hmore.resolve_left (by simp [hcomma])
      obtain ⟨name, hshape, hname⟩ := eq_of_lifetime helement (h.found hsound hfound) (hlifetime.trans he)
      have hprint : e.trees = [.leaf (.lifetime name)] := by
        rw [← htrees, hshape, hname]
        rfl
      refine ⟨⟨.lifetime, [.tree (.leaf (.lifetime name))], commaTree :: others⟩, ?_, rfl, hprint.symm,
        he.symm⟩
      rw [hprint]
      rcases helement with rfl | rfl <;> rw [find_eq_run rfl] <;> rfl
  · rcases hbehind with ⟨hno, -⟩ | ⟨-, hend⟩
    · rw [hcomma] at hno
      cases hno
    · exact hcalled hfound rfl rfl (by rwa [hend])

/-- **Lists of arguments are found again.** -/
theorem Recurring.list_again {fuel : Nat} (h : Recurring true (recogniseWithin rule fuel)) {q : Phrase}
    (hq : q = .argumentList ∨ q = .captureList) (hf : recogniseWithin rule (fuel + 1) q ts = some f)
    (hrest : Tidied false .other f.rest us) :
    ∃ parts, q.find ((Node.phrase f.result f.parts).print ++ us) = some ⟨f.result, parts, us⟩ ∧
      (Node.phrase f.result parts).print = (Node.phrase f.result f.parts).print ∧
      isPunct ">" ((Node.phrase f.result f.parts).print ++ us) = isPunct ">" ts := by
  obtain ⟨element, helement, hlist⟩ : ∃ element : Phrase, element.isElement ∧
      rule q = listProgram .arguments element q := by
    rcases hq with rfl | rfl
    · exact ⟨.argument, .inl rfl, rfl⟩
    · exact ⟨.captureItem, .inr rfl, rfl⟩
  have hsound : q.isSound := by rcases hq with rfl | rfl <;> rfl
  obtain ⟨hshape, hlists⟩ := lists_of_recogniseWithin hlist (Nat.le_refl _) hf
  obtain ⟨helements, hcommas⟩ := hlists.elements
  have hclose : isPunct ">" us = true :=
    (hrest.isPunct_eq ">" (by decide) (by decide)).symm.trans hlists.closes
  have hes : ∀ e ∈ lifetimesFirst (listedOf f.parts), ∀ beyond, Precedes e us beyond →
      ∃ f, element.find (e.trees ++ beyond) = some f ∧ f.rest = beyond ∧
        PrintedAs e (.phrase f.result f.parts) := by
    intro e he beyond hbeyond
    have hmem : e ∈ listedOf f.parts := by
      rcases List.mem_append.1 he with he | he <;> exact List.mem_of_mem_filter he
    obtain ⟨_, k, hk⟩ := helements e hmem
    exact h.again_element helement hrest hk hbeyond
  obtain ⟨parts, hparts, halternating, hbegins⟩ := find_joined id hlist hsound
    (fun _ _ hf => begins_of_element helement hf) hclose hes (comma_or_lifetime hcommas)
  rw [List.map_id] at hparts hbegins
  obtain ⟨hjoined, hlifetimes⟩ := halternating.listed
  have hprint (parts : List (Node Shape)) :
      (Node.phrase Shape.arguments parts).print = joined (lifetimesFirst (listedOf parts)) := rfl
  -- The lifetimes are in front already.
  have hsorted : (listedOf parts).Pairwise fun a b => b.lifetime → a.lifetime := by
    have hmap : ((lifetimesFirst (listedOf f.parts)).map (·.lifetime)).Pairwise
        fun a b : Bool => b = true → a = true :=
      List.pairwise_map.2 (pairwise_lifetimesFirst _)
    rw [← hlifetimes] at hmap
    exact List.pairwise_map.1 hmap
  rw [hshape, hprint]
  refine ⟨parts, hparts, by rw [hprint, lifetimesFirst_of_pairwise hsorted, hjoined], ?_⟩
  rw [hbegins, isEmpty_lifetimesFirst]
  exact (hlists.isEmpty fun _ _ hk => begins_of_element helement
    (h.found (by rcases helement with rfl | rfl <;> rfl) hk)).symm

end Accessors.Grammar
