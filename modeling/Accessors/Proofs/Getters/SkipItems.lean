import Accessors.Proofs.Getters.Verdict

/-!
# Items of a skip attribute

An item inside of a `getter` attribute is a path, and a path is read as far as it goes, keywords
included. What is told about an item that does not fit depends on how far a path can be read there and
on what stands behind it.

* `IsPath`, `GoesOn`, `NamesAt`: paths, where they do not end yet, and where their names begin.
* `itemFault_append`: an item that begins with a path is judged by what stands behind it.
* `Told`: what is told about an item that does not fit.
* `told_iff`: the check comes to this.
-/

namespace Accessors.Getters

open Accessors.Token
open Accessors.Grammar
open Accessors.Declaration

variable {ts path rest : List Tree} {e : SkipError}

/-! ## Paths -/

/-- The separator of the names in a path: two colons, the first one joint. -/
def separator (joint : Bool) : List Tree := [.leaf (.punct ':' true), .leaf (.punct ':' joint)]

/-- Names with separators between them, and perhaps one in front. Keywords are names here, and so are
`true` and `false`. -/
inductive IsPath : List Tree → Prop
  | name (i : Ident) : IsPath [.leaf (.ident i)]
  | absolute (joint : Bool) (i : Ident) : IsPath (separator joint ++ [.leaf (.ident i)])
  | next {path : List Tree} (h : IsPath path) (joint : Bool) (i : Ident) :
    IsPath (path ++ (separator joint ++ [.leaf (.ident i)]))

/-- The trees begin with a separator, so a path in front of them does not end there. -/
def GoesOn (ts : List Tree) : Prop := ∃ joint after, ts = separator joint ++ after

/-- The trees begin with a name. -/
def BeginsName (ts : List Tree) : Prop := ∃ i after, ts = .leaf (.ident i) :: after

/-- The trees begin with a literal, which a minus sign may precede if it is a number. -/
inductive BeginsLiteral : List Tree → Prop
  | literal (text : String) (after : List Tree) : BeginsLiteral (.leaf (.literal text) :: after)
  | negative (joint : Bool) {text : String} (h : isNumber text = true) (after : List Tree) :
    BeginsLiteral (.leaf (.punct '-' joint) :: .leaf (.literal text) :: after)

/-- Where the names of an item begin: behind a separator if there is one in front. -/
inductive NamesAt : List Tree → List Tree → Prop
  | here {ts : List Tree} (h : ¬ GoesOn ts) : NamesAt ts ts
  | behind (joint : Bool) (ts : List Tree) : NamesAt (separator joint ++ ts) ts

theorem BeginsLiteral.not_beginsName (h : BeginsLiteral ts) : ¬ BeginsName ts := by
  rintro ⟨i, after, rfl⟩
  cases h

theorem goesOn_iff : isPunct "::" ts = true ↔ GoesOn ts := by
  constructor
  · intro h
    have hchars : isPunctChars [':', ':'] ts = true := h
    match ts, hchars with
    | .leaf (.punct c joint) :: t :: after, hchars =>
      simp only [isPunctChars, Bool.and_eq_true, beq_iff_eq] at hchars
      obtain ⟨⟨rfl, rfl⟩, hlast⟩ := hchars
      obtain ⟨joint, rfl⟩ := isPunctChars_singleton.1 hlast
      exact ⟨joint, after, rfl⟩
    | [.leaf (.punct c joint)], hchars => simp [isPunctChars] at hchars
  · rintro ⟨joint, after, rfl⟩
    rfl

theorem isAnyIdent_iff : isAnyIdent ts = true ↔ BeginsName ts := by
  constructor
  · intro h
    unfold isAnyIdent at h
    split at h
    · next i after => exact ⟨i, after, rfl⟩
    · cases h
  · rintro ⟨i, after, rfl⟩
    rfl

/-- The words for truth values are names where an item is read. -/
theorem isLiteral_iff (hname : ¬ BeginsName ts) : isLiteral ts = true ↔ BeginsLiteral ts := by
  constructor
  · intro h
    unfold isLiteral literalSize at h
    split at h
    · next text after => exact .literal text after
    · next joint text after =>
      split at h
      · next hnumber => exact .negative joint hnumber after
      · simp at h
    · next i after => exact absurd ⟨i, after, rfl⟩ hname
    · simp at h
  · intro h
    cases h with
    | literal text after => rfl
    | negative joint hnumber after => simp [isLiteral, literalSize, hnumber]

theorem exists_namesAt (ts : List Tree) : ∃ rest, NamesAt ts rest := by
  by_cases h : GoesOn ts
  · obtain ⟨joint, after, rfl⟩ := h
    exact ⟨after, .behind joint after⟩
  · exact ⟨ts, .here h⟩

/-! ## Items -/

/-- Where an item begins with no name, that is the fault. -/
theorem itemFault_of_namesAt (hat : NamesAt ts rest) (hname : ¬ BeginsName rest) : itemFault ts =
    if rest.isEmpty then .endsBeforePath else if isLiteral rest then .literal else .notPath := by
  have hident : isAnyIdent rest = false := Bool.eq_false_iff.2 (mt isAnyIdent_iff.1 hname)
  cases hat with
  | here h =>
    have hpunct : isPunct "::" ts = false := Bool.eq_false_iff.2 (mt goesOn_iff.1 h)
    rw [itemFault]
    simp only [hpunct, hident, Bool.false_eq_true, if_false]
  | behind joint =>
    have hpunct : isPunct "::" (separator joint ++ rest) = true := goesOn_iff.2 ⟨joint, rest, rfl⟩
    have hdrop : (separator joint ++ rest).drop 2 = rest := rfl
    rw [itemFault]
    simp only [hpunct, hdrop, hident, if_true, Bool.false_eq_true, if_false]

/-- Where an item begins with a name, it begins with a path. -/
theorem exists_path (hat : NamesAt ts rest) (hname : BeginsName rest) :
    ∃ path after, IsPath path ∧ ts = path ++ after := by
  obtain ⟨i, after, rfl⟩ := hname
  cases hat with
  | here => exact ⟨_, after, .name i, rfl⟩
  | behind joint => exact ⟨_, after, .absolute joint i, by simp⟩

/-- A path ends where no separator follows. -/
theorem pathFault_of_not_goesOn (h : ¬ GoesOn ts) : pathFault ts = .unknown := by
  have hpunct (a b : Tree) (after : List Tree) (hts : ts = a :: b :: after) :
      isPunct "::" [a, b] = false := by
    rw [← Bool.not_eq_true, goesOn_iff]
    rintro ⟨joint, more, hab⟩
    cases hab
    exact h ⟨joint, after, hts⟩
  unfold pathFault
  split
  · next a b n after => simp [hpunct a b (n :: after) rfl]
  · next a b => simp [hpunct a b [] rfl]
  · rfl

theorem pathFault_separator (joint : Bool) : pathFault (separator joint) = .endsInPath := rfl

/-- A path that goes on is read on if a name follows. -/
theorem pathFault_name (joint : Bool) (i : Ident) (ts : List Tree) :
    pathFault (separator joint ++ .leaf (.ident i) :: ts) = pathFault ts := rfl

theorem pathFault_noName (joint : Bool) (hne : ts ≠ []) (hname : ¬ BeginsName ts) :
    pathFault (separator joint ++ ts) = .noName := by
  cases ts with
  | nil => exact absurd rfl hne
  | cons t ts =>
    have hident : isAnyIdent [t] = false := by
      rw [← Bool.not_eq_true, isAnyIdent_iff]
      rintro ⟨i, after, ht⟩
      cases ht
      exact hname ⟨i, ts, rfl⟩
    have hpunct : isPunct "::" [.leaf (.punct ':' true), .leaf (.punct ':' joint)] = true := rfl
    simp [separator, pathFault, hident, hpunct]

/-- **An item that begins with a path is judged by what stands behind it.** -/
theorem itemFault_append (h : IsPath path) (ts : List Tree) :
    itemFault (path ++ ts) = pathFault ts := by
  induction h generalizing ts with
  | name i => rfl
  | absolute joint i => rfl
  | next h joint i ih =>
    rw [List.append_assoc, ih, List.append_assoc]
    exact pathFault_name joint i ts

/-! ## What is told -/

/-- What is told about an item that does not fit, by how the trees begin. -/
inductive Told : List Tree → String → Prop
  /-- A whole path other than the bare `skip`. -/
  | unsupported {path rest : List Tree} (hpath : IsPath path) (hend : ¬ GoesOn rest)
    (hbare : path ≠ [word "skip"]) :
    Told (path ++ rest) "unsupported getter attribute, expected `skip`"
  /-- The bare `skip`, and behind it neither a comma nor the end. -/
  | noComma {rest : List Tree} (hend : ¬ GoesOn rest) (hne : rest ≠ [])
    (hcomma : ∀ joint after, rest ≠ .leaf (.punct ',' joint) :: after) :
    Told (word "skip" :: rest) "expected `,`"
  | literal {ts rest : List Tree} (hat : NamesAt ts rest) (h : BeginsLiteral rest) :
    Told ts "unexpected literal in nested attribute, expected ident"
  /-- Anything else that begins no path. -/
  | token {ts rest : List Tree} (hat : NamesAt ts rest) (hne : rest ≠ [])
    (hname : ¬ BeginsName rest) (hliteral : ¬ BeginsLiteral rest) :
    Told ts "unexpected token in nested attribute, expected ident"
  /-- A separator and nothing else. -/
  | bareSeparator (joint : Bool) :
    Told (separator joint) "unexpected end of input, expected nested attribute"
  /-- A path that goes on with something that is no name. -/
  | noName {path rest : List Tree} (hpath : IsPath path) (joint : Bool) (hne : rest ≠ [])
    (hname : ¬ BeginsName rest) : Told (path ++ (separator joint ++ rest)) "expected ident"
  /-- A path that ends behind a separator. -/
  | openPath {path : List Tree} (hpath : IsPath path) (joint : Bool) :
    Told (path ++ separator joint) "unexpected end of input, expected ident"

/-- What is told about a path, unless it is the bare `skip`. -/
theorem told_of_path (h : IsPath path) (hbare : path ≠ [word "skip"] ∨ GoesOn ts) :
    Told (path ++ ts) (pathFault ts).message := by
  -- A name behind a separator becomes part of the path.
  induction hlength : ts.length using Nat.strong_induction_on generalizing path ts with
  | _ n ih =>
    by_cases hend : GoesOn ts
    · obtain ⟨joint, more, rfl⟩ := hend
      by_cases hname : BeginsName more
      · obtain ⟨i, after, rfl⟩ := hname
        have hlonger : path ++ (separator joint ++ [.leaf (.ident i)]) ≠ [word "skip"] := by
          intro hone
          have := congrArg List.length hone
          simp [separator] at this
        have hshorter : after.length < n := by
          simp only [← hlength, separator, List.length_append, List.length_cons]
          omega
        have htold := ih after.length hshorter (.next h joint i) (.inl hlonger) rfl
        rw [pathFault_name]
        simpa using htold
      · by_cases hne : more = []
        · subst hne
          rw [List.append_nil, pathFault_separator]
          exact .openPath h joint
        · rw [pathFault_noName joint hne hname]
          exact .noName h joint hne hname
    · rw [pathFault_of_not_goesOn hend]
      exact .unsupported h hend (hbare.resolve_right hend)

/-- An item that begins like the bare `skip` is another path if it goes on. -/
theorem goesOn_of_path (h : IsPath path) {after : List Tree}
    (hskip : path ++ ts = word "skip" :: after) :
    path = [word "skip"] ∧ ts = after ∨ GoesOn after := by
  induction h generalizing ts with
  | name i =>
    obtain ⟨hword, hafter⟩ := List.cons.inj hskip
    exact .inl ⟨by rw [hword], hafter⟩
  | absolute joint i => cases hskip
  | next h joint i ih =>
    rw [List.append_assoc] at hskip
    rcases ih hskip with ⟨-, hafter⟩ | hgoes
    · refine .inr ⟨joint, .leaf (.ident i) :: ts, ?_⟩
      rw [← hafter, List.append_assoc]
      rfl
    · exact .inr hgoes

theorem path_ne_nil (h : IsPath path) : path ≠ [] := by
  cases h <;> simp [separator]

/-- The trees begin with an item other than the bare `skip`. -/
structure BeginsOther (ts : List Tree) : Prop where
  ne_nil : ts ≠ []
  goesOn : ∀ after, ts = word "skip" :: after → GoesOn after

theorem beginsOther_path (h : IsPath path) (hbare : path ≠ [word "skip"] ∨ GoesOn ts) :
    BeginsOther (path ++ ts) where
  ne_nil := by simp [path_ne_nil h]
  goesOn after hskip := by
    rcases goesOn_of_path h hskip with ⟨hpath, hafter⟩ | hgoes
    · rw [← hafter]
      exact hbare.resolve_left (not_not_intro hpath)
    · exact hgoes

theorem beginsOther_of_namesAt (hat : NamesAt ts rest) (hne : rest ≠ [])
    (hname : ¬ BeginsName rest) : BeginsOther ts where
  ne_nil := by
    cases hat with
    | here => exact hne
    | behind joint => exact List.cons_ne_nil _ _
  goesOn after hskip := by
    cases hat with
    | here => exact absurd ⟨_, after, hskip⟩ hname
    | behind joint => cases hskip

/-- **An item is at fault unless it is the bare `skip`.** -/
theorem faultAt_item (h : BeginsOther ts) : FaultAt ts (itemFault ts) := by
  cases ts with
  | nil => exact absurd rfl h.ne_nil
  | cons t rest =>
    refine .item ?_
    by_cases ht : t = word "skip"
    · exact .inr (goesOn_iff.2 (h.goesOn rest (by rw [ht])))
    · exact .inl ht

/-- **What is told about an item at fault.** -/
theorem told_item (h : BeginsOther ts) : Told ts (itemFault ts).message := by
  obtain ⟨rest, hat⟩ := exists_namesAt ts
  by_cases hname : BeginsName rest
  · obtain ⟨path, after, hpath, rfl⟩ := exists_path hat hname
    rw [itemFault_append hpath]
    refine told_of_path hpath (Classical.or_iff_not_imp_left.2 fun hskip => ?_)
    rw [Classical.not_not] at hskip
    exact h.goesOn after (by rw [hskip]; rfl)
  · rw [itemFault_of_namesAt hat hname]
    by_cases hne : rest = []
    · subst hne
      cases hat with
      | here => exact absurd rfl h.ne_nil
      | behind joint => exact .bareSeparator joint
    · have hempty : rest.isEmpty = false := by simp [hne]
      by_cases hliteral : BeginsLiteral rest
      · simp only [hempty, (isLiteral_iff hname).2 hliteral, Bool.false_eq_true, if_false, if_true]
        exact .literal hat hliteral
      · have hno : isLiteral rest = false :=
          Bool.eq_false_iff.2 (mt (isLiteral_iff hname).1 hliteral)
        simp only [hempty, hno, Bool.false_eq_true, if_false]
        exact .token hat hne hname hliteral

/-- What is told about a fault. -/
theorem told_of_faultAt (h : FaultAt ts e) : Told ts e.message := by
  cases h with
  | noComma hpath hcomma =>
    have hend := mt goesOn_iff.2 (Bool.eq_false_iff.1 hpath)
    exact .noComma hend (List.cons_ne_nil _ _) fun joint after hafter =>
      hcomma joint (List.cons.inj hafter).1
  | item h =>
    refine told_item ⟨List.cons_ne_nil _ _, fun after hskip => ?_⟩
    obtain ⟨ht, hrest⟩ := List.cons.inj hskip
    rw [← hrest, ← goesOn_iff]
    exact h.resolve_left (not_not_intro ht)

/-- A path is at fault by what stands behind it, unless it is the bare `skip`. -/
theorem faultAt_path (h : IsPath path) (ts : List Tree)
    (hbare : path ≠ [word "skip"] ∨ GoesOn ts) : FaultAt (path ++ ts) (pathFault ts) := by
  rw [← itemFault_append h]
  exact faultAt_item (beginsOther_path h hbare)

/-- Whatever is told is told about a fault. -/
theorem faultAt_of_told {text : String} (h : Told ts text) : ∃ e, FaultAt ts e ∧ e.message = text := by
  cases h with
  | @unsupported path rest hpath hend hbare =>
    have hfault := faultAt_path hpath rest (.inl hbare)
    rw [pathFault_of_not_goesOn hend] at hfault
    exact ⟨_, hfault, rfl⟩
  | noComma hend hne hcomma =>
    obtain ⟨t, after, rfl⟩ := List.exists_cons_of_ne_nil hne
    have hpath : isPunct "::" (t :: after) = false := Bool.eq_false_iff.2 (mt goesOn_iff.1 hend)
    exact ⟨_, .noComma hpath fun joint ht => hcomma joint after (by rw [ht]), rfl⟩
  | @literal _ rest hat hliteral =>
    have hname := hliteral.not_beginsName
    have hne : rest ≠ [] := by
      rintro rfl
      cases hliteral
    have hfault := faultAt_item (beginsOther_of_namesAt hat hne hname)
    rw [itemFault_of_namesAt hat hname, (isLiteral_iff hname).2 hliteral] at hfault
    exact ⟨_, hfault, by simp [hne, SkipError.message]⟩
  | @token _ rest hat hne hname hliteral =>
    have hfault := faultAt_item (beginsOther_of_namesAt hat hne hname)
    rw [itemFault_of_namesAt hat hname] at hfault
    refine ⟨_, hfault, ?_⟩
    rw [← isLiteral_iff hname] at hliteral
    simp [hne, hliteral, SkipError.message]
  | bareSeparator joint => exact ⟨_, .item (.inl nofun), rfl⟩
  | @noName path rest hpath joint hne hname =>
    have hfault := faultAt_path hpath (separator joint ++ rest) (.inr ⟨joint, rest, rfl⟩)
    rw [pathFault_noName joint hne hname] at hfault
    exact ⟨_, hfault, rfl⟩
  | openPath hpath joint =>
    have hgoes : GoesOn (separator joint) := ⟨joint, [], (List.append_nil _).symm⟩
    exact ⟨_, faultAt_path hpath _ (.inr hgoes), rfl⟩

/-- **The check of an item comes to what is told about it.** -/
theorem told_iff {text : String} : (∃ e, FaultAt ts e ∧ e.message = text) ↔ Told ts text := by
  refine ⟨?_, faultAt_of_told⟩
  rintro ⟨e, hfault, rfl⟩
  exact told_of_faultAt hfault

end Accessors.Getters
