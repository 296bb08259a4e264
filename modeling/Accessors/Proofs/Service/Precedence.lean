import Accessors.Proofs.Service.Deciding
import Accessors.Proofs.Service.PortVariable
import Accessors.Proofs.Service.Starting

/-!
# What takes precedence in the log

The process variable goes before the configuration, if it holds a filter, and is as good as absent if it
does not. Within the text that is selected, order has a say only about directives for the same targets,
and the last element can settle what is shown about a target of its own.

* `Level.parse?_eq_some`: the texts that are levels.
* `parseFilter_perm`: the elements of a filter in another order are a filter.
* `parseFilter_concat`: an element is put behind the others.
* `rustLog_precedes`: what the process variable and the order of elements make of the first attempt to
  start the log.
-/

namespace Accessors.Service

open Accessors.Text

/-! ## Levels -/

/-- The text is a level: its name with ASCII letters in any case, or its rank in decimal. -/
inductive Level.ReadFrom (l : Level) (text : List Char) : Prop
  | name (h : text.map Level.foldAscii = l.name.toList)
  | rank (h : Writes text l.rank)

theorem decimal?_eq_some {digits : List Char} {n : Nat} : decimal? digits = some n ↔
    digits ≠ [] ∧ (∀ c ∈ digits, c.isDigit = true) ∧ Nat.ofDigitChars 10 digits 0 = n := by
  have hfold : digits.foldl (fun n c => n * 10 + (c.toNat - '0'.toNat)) 0 =
      Nat.ofDigitChars 10 digits 0 := by
    simp only [Nat.ofDigitChars, Nat.mul_comm]
  have hdigits : digits.all isDigit = true ↔ ∀ c ∈ digits, c.isDigit = true := by
    simp only [List.all_eq_true, isDigit_eq]
  rw [decimal?, hfold, ← hdigits]
  cases digits with
  | nil => simp
  | cons c digits => cases (c :: digits).all isDigit <;> simp

theorem number?_eq_some {text : List Char} {n : Nat} : Level.number? text = some n ↔ Writes text n := by
  have hplus : ¬ '+'.isDigit = true := by decide
  unfold Level.number?
  split
  · next rest =>
    rw [decimal?_eq_some]
    constructor
    · rintro ⟨hne, hall, hvalue⟩
      exact ⟨rest, .inr rfl, hne, hall, hvalue⟩
    · rintro ⟨digits, rfl | h, hne, hall, hvalue⟩
      · exact absurd (hall '+' (by simp)) hplus
      · cases h
        exact ⟨hne, hall, hvalue⟩
  · next hsign =>
    rw [decimal?_eq_some]
    constructor
    · rintro ⟨hne, hall, hvalue⟩
      exact ⟨text, .inl rfl, hne, hall, hvalue⟩
    · rintro ⟨digits, rfl | rfl, hne, hall, hvalue⟩
      · exact ⟨hne, hall, hvalue⟩
      · exact absurd rfl (hsign digits)

theorem ofRank?_eq_some {n : Nat} {l : Level} : Level.ofRank? n = some l ↔ n = l.rank := by
  constructor
  · intro h
    unfold Level.ofRank? at h
    split at h <;> cases h <;> rfl
  · rintro rfl
    cases l <;> rfl

/-- A text with a sign or a digit in front is the name of no level. -/
theorem not_name_of_writes {text : List Char} {n : Nat} (h : Writes text n) (l : Level) :
    text.map Level.foldAscii ≠ l.name.toList := by
  intro hname
  obtain ⟨c, hc, hfirst⟩ : ∃ c, text.head? = some c ∧ (c = '+' ∨ c.isDigit = true) := by
    obtain ⟨digits, rfl | rfl, hne, hall, -⟩ := h
    · obtain ⟨c, rest, rfl⟩ := List.exists_cons_of_ne_nil hne
      exact ⟨c, rfl, .inr (hall c (by simp))⟩
    · exact ⟨'+', rfl, .inl rfl⟩
  -- Neither is touched by the change of case, and no name begins with one.
  have hfold : Level.foldAscii c = c := by
    refine if_neg fun hcase => ?_
    rcases hfirst with rfl | hdigit
    · exact absurd hcase (by decide)
    · simp only [Char.isDigit, Bool.and_eq_true, decide_eq_true_eq] at hdigit
      exact absurd (UInt32.le_trans (Char.le_def.1 hcase.1) hdigit.2) (by decide)
  have hhead : l.name.toList.head? = some c := by rw [← hname, List.head?_map, hc, Option.map_some, hfold]
  have hletters : (Level.all.all fun l => l.name.toList.head?.all fun c => c ≠ '+' && !c.isDigit) = true := by
    decide
  have hmem : l ∈ Level.all := by cases l <;> decide
  have hl := List.all_eq_true.1 hletters l hmem
  rw [hhead] at hl
  rcases hfirst with rfl | hdigit
  · simp at hl
  · simp [hdigit] at hl

/-- **The texts that are levels.** -/
theorem Level.parse?_eq_some {text : List Char} {l : Level} :
    Level.parse? text = some l ↔ l.ReadFrom text := by
  have hfind : (Level.all.find? fun l => l.name.toList == text.map Level.foldAscii) = some l ↔
      text.map Level.foldAscii = l.name.toList := by
    constructor
    · intro h
      have hname := List.find?_some h
      exact (beq_iff_eq.1 hname).symm
    · intro h
      rw [h]
      cases l <;> decide
  rw [Level.parse?, Option.or_eq_some_iff, Option.bind_eq_some_iff, Option.bind_eq_none_iff, hfind]
  constructor
  · rintro (⟨n, hn, hrank⟩ | ⟨-, hname⟩)
    · obtain rfl := ofRank?_eq_some.1 hrank
      exact .rank (number?_eq_some.1 hn)
    · exact .name hname
  · rintro (hname | hrank)
    · refine .inr ⟨fun n hn => ?_, hname⟩
      exact absurd hname (not_name_of_writes (number?_eq_some.1 hn) l)
    · exact .inl ⟨l.rank, number?_eq_some.2 hrank, ofRank?_eq_some.2 rfl⟩

/-- No level has a comma. -/
theorem Level.ReadFrom.comma_notMem {text : List Char} {l : Level} (h : l.ReadFrom text) :
    ',' ∉ text := by
  intro hcomma
  cases h with
  | name h =>
    have hmem : ',' ∈ l.name.toList := h ▸ List.mem_map.2 ⟨',', hcomma, by decide⟩
    cases l <;> exact absurd hmem (by decide)
  | rank h =>
    obtain ⟨digits, heq, -, hall, -⟩ := h
    have hno : ',' ∉ digits := fun hmem => absurd (hall ',' hmem) (by decide)
    rcases heq with rfl | rfl
    · exact hno hcomma
    · rcases List.mem_cons.1 hcomma with h | h
      · exact absurd h (by decide)
      · exact hno h

/-! ## Lists of directives -/

theorem mapM_eq_ok {α β ε : Type} {check : α → Except ε β} {l : List α} {bs : List β} :
    l.mapM check = .ok bs ↔ List.Forall₂ (fun x b => check x = .ok b) l bs := by
  induction l generalizing bs with
  | nil =>
    rw [List.forall₂_nil_left_iff]
    exact ⟨fun h => (Except.ok.inj h).symm, fun h => h ▸ rfl⟩
  | cons x l ih =>
    rw [List.mapM_cons, List.forall₂_cons_left_iff]
    cases hx : check x with
    | error e => simp [bind, Except.bind]
    | ok b =>
      cases hl : l.mapM check with
      | error e =>
        refine iff_of_false nofun ?_
        rintro ⟨_, _, -, htail, -⟩
        cases hl.symm.trans (ih.2 htail)
      | ok cs =>
        have hcs : ∀ ds, List.Forall₂ (fun x b => check x = .ok b) l ds ↔ cs = ds := fun ds => by
          rw [← ih, hl, Except.ok.injEq]
        simp [bind, Except.bind, pure, Except.pure, hcs, eq_comm]

variable {text text' : String} {ds : List Directive}

/-- **The elements of a filter in another order are a filter**, of the same directives in that order. -/
theorem parseFilter_perm (h : (elements text).Perm (elements text'))
    (hds : parseFilter text.toList = .ok ds) :
    ∃ ds', parseFilter text'.toList = .ok ds' ∧ ds.Perm ds' := by
  have hall : List.Forall₂ (fun e d => Directive.parse e = .ok d) (elements text) ds :=
    mapM_eq_ok.1 hds
  obtain ⟨ds', hall', hperm⟩ := List.perm_comp_forall₂ h.symm hall
  exact ⟨ds', mapM_eq_ok.2 hall', hperm.symm⟩

theorem elements_append (text element : String) :
    elements (text ++ "," ++ element) = elements text ++ elements element := by
  have hlist : (text ++ "," ++ element).toList = text.toList ++ ',' :: element.toList := by
    simp [String.toList_append]
  rw [elements, hlist, splitOn_append, List.filter_append]
  rfl

/-- An element without a comma is put behind the others. -/
theorem parseFilter_concat {element : String} {d : Directive} (hds : parseFilter text.toList = .ok ds)
    (hcomma : ',' ∉ element.toList) (hne : element.toList ≠ [])
    (hd : Directive.parse element.toList = .ok d) :
    parseFilter (text ++ "," ++ element).toList = .ok (ds ++ [d]) := by
  have hone : elements element = [element.toList] := by
    rw [elements, splitOn_of_notMem hcomma]
    exact List.filter_cons_of_pos (by simpa using hne)
  have hall : List.Forall₂ (fun e d => Directive.parse e = .ok d) (elements text) ds :=
    mapM_eq_ok.1 hds
  refine mapM_eq_ok.2 ?_
  rw [← elements, elements_append, hone]
  exact List.rel_append hall (.cons hd .nil)

/-- What is trimmed off at the end is behind a character that is no white space. -/
theorem trim_behind {c d : Char} (hc : isSpace c = false) (hd : isSpace d = false)
    (word rest : List Char) : ∃ behind, trim (c :: word ++ d :: rest) = c :: word ++ d :: behind := by
  have hleft : trimLeft (c :: word ++ d :: rest) = c :: word ++ d :: rest := by
    rw [trimLeft, List.cons_append, List.dropWhile_cons_of_neg (by simp [hc])]
  have hright : ∃ kept, trimLeft (c :: word ++ d :: rest).reverse =
      kept ++ d :: (c :: word).reverse := by
    have hsplit : (c :: word ++ d :: rest).reverse = rest.reverse ++ d :: (c :: word).reverse := by
      simp
    rw [trimLeft, hsplit, List.dropWhile_append]
    split
    · exact ⟨[], by rw [List.dropWhile_cons_of_neg (by simp [hd]), List.nil_append]⟩
    · exact ⟨_, rfl⟩
  obtain ⟨kept, hkept⟩ := hright
  exact ⟨kept.reverse, by rw [trim, hleft, hkept]; simp⟩

/-- A target and a level around an equals sign are a directive. -/
theorem parse_target {c : Char} {word level : List Char} {l : Level} (hc : Directive.canBegin c = true)
    (hspace : isSpace c = false) (hword : ∀ d ∈ c :: word, inWord d = true) (hl : l.ReadFrom level) :
    Directive.parse (c :: word ++ '=' :: level) = .ok ⟨some (c :: word), l⟩ := by
  obtain ⟨behind, htrim⟩ := trim_behind hspace (by decide +kernel : isSpace '=' = false) word level
  have hread := parse_of_trim htrim hc hword (by simp [inWord])
  have hparse := Level.parse?_eq_some.2 hl
  have hlevel : Directive.levelOf level = .ok l := by
    have hne : level.isEmpty = false := by
      cases level with
      | nil => cases hparse
      | cons _ _ => rfl
    simp only [Directive.levelOf, hne, hparse, Bool.false_eq_true, if_false]
  rw [hread, readBehind, splitBytes_append, List.drop_succ_cons, List.drop_zero, hlevel]
  rfl

/-! ## The first attempt -/

/-- The text by which is logged: that of the process variable if it is a filter, and else that of the
configuration, whatever it is. -/
inductive SelectsText (override : Option String) (c : LogConfig) : String → Prop
  | override {text : String} (htext : override = some text) (h : IsFilter text) :
    SelectsText override c text
  | own (hno : ∀ text, override = some text → ¬ IsFilter text) :
    SelectsText override c c.filterDirectives

/-- The first attempt in a fresh process succeeds and writes its line. -/
def Shown (override : Option String) (c : LogConfig) : Prop :=
  told override c 1 = [.ok ()] ∧ written override c 1 ≠ []

variable {override : Option String} {c : LogConfig}

theorem selectFilter_of_selectsText (h : SelectsText override c text) :
    selectFilter override c = parseFilter text.toList := by
  cases h with
  | override htext h =>
    obtain ⟨ds, hds⟩ := h
    rw [selectFilter_of_selects (.override htext hds), hds]
  | own hno => exact selectFilter_of_not_isFilter hno

/-- What the selected text shows about the part of the service that reports the start is what becomes
of the line. -/
theorem shown_iff (h : SelectsText override c text) : Shown override c ↔
    ∃ ds, parseFilter text.toList = .ok ds ∧
      shows ds "propref_consumer::logging".toList .info = true := by
  have hselect := selectFilter_of_selectsText h
  cases hds : parseFilter text.toList with
  | error e =>
    rw [hds] at hselect
    refine iff_of_false ?_ nofun
    rintro ⟨htold, -⟩
    rw [told_of_error hselect] at htold
    cases htold
  | ok ds =>
    rw [hds] at hselect
    have hselects : Selects override c ds := by
      cases h with
      | override htext _ => exact .override htext hds
      | own hno => exact .own hno hds
    have htold : told override c 1 = [.ok ()] := told_of_selects hselects 0
    have hwritten : written override c 1 = (startLine? c ds).toList := by
      rw [written, startLogging_of_selects hselects]
    have hline : (startLine? c ds).toList ≠ [] ↔
        shows ds "propref_consumer::logging".toList .info = true := by
      rw [startLine?, ← loggingTarget]
      cases shows ds loggingTarget.toList .info <;> simp
    rw [Shown, hwritten, hline, and_iff_right htold]
    simp

/-- No two directives of the text are for the same targets. A bare level counts as one for the empty
target. -/
def DistinctTargets (text : String) : Prop :=
  ∀ ds, parseFilter text.toList = .ok ds → (ds.map Directive.key).Nodup

/-- Whether a text shows a line does not depend on the order of its elements, unless two of them are
for the same targets. -/
theorem shows_of_perm (h : (elements text).Perm (elements text')) (hdistinct : DistinctTargets text)
    (target : List Char) (level : Level) :
    (∃ ds, parseFilter text.toList = .ok ds ∧ shows ds target level = true) ↔
      ∃ ds, parseFilter text'.toList = .ok ds ∧ shows ds target level = true := by
  constructor
  · rintro ⟨ds, hds, hshows⟩
    obtain ⟨ds', hds', hperm⟩ := parseFilter_perm h hds
    exact ⟨ds', hds', shows_perm hperm (hdistinct ds hds) target level ▸ hshows⟩
  · rintro ⟨ds', hds', hshows⟩
    obtain ⟨ds, hds, hperm⟩ := parseFilter_perm h.symm hds'
    exact ⟨ds, hds, shows_perm hperm.symm (hdistinct ds hds) target level ▸ hshows⟩

/-- How a text of directives bears on the first attempt to start the log. -/
structure Precedes (text : String) : Prop where
  /-- In the process variable, a filter leaves the configuration no say in whether the attempt succeeds
  and in whether it writes its line. -/
  valid : IsFilter text → ∀ c c', told (some text) c 1 = told (some text) c' 1 ∧
    (written (some text) c 1 = [] ↔ written (some text) c' 1 = [])
  /-- A text that is no filter is as good as an absent one, for any number of attempts. -/
  invalid : ¬ IsFilter text → ∀ c n, startLogging (some text) c n = startLogging none c n
  /-- Wherever the selected text comes from, the order of its elements does not matter if their targets
  are distinct. -/
  order : ∀ text', (elements text).Perm (elements text') → DistinctTargets text →
    ∀ override c override' c', SelectsText override c text → SelectsText override' c' text' →
      (Shown override c ↔ Shown override' c')
  /-- A last element for the target itself decides, whatever the others say. -/
  appended : ∀ (level : String) (l : Level), IsFilter text → l.ReadFrom level.toList →
    IsFilter (text ++ "," ++ ("propref_consumer::logging=" ++ level)) ∧
    ∀ override c, SelectsText override c (text ++ "," ++ ("propref_consumer::logging=" ++ level)) →
      (Shown override c ↔ l = .info ∨ l = .debug ∨ l = .trace)

/-- With a filter in the process variable the configuration is not asked for one. -/
theorem valid_of_isFilter (h : IsFilter text) (c c' : LogConfig) :
    told (some text) c 1 = told (some text) c' 1 ∧
      (written (some text) c 1 = [] ↔ written (some text) c' 1 = []) := by
  obtain ⟨ds, hds⟩ := h
  have hselects (c : LogConfig) : Selects (some text) c ds := .override rfl hds
  have htold (c : LogConfig) : told (some text) c 1 = [.ok ()] := told_of_selects (hselects c) 0
  have hwritten (c : LogConfig) :
      written (some text) c 1 = [] ↔ shows ds loggingTarget.toList .info = false := by
    rw [written, startLogging_of_selects (hselects c), startLine?]
    cases shows ds loggingTarget.toList .info <;> simp
  exact ⟨(htold c).trans (htold c').symm, (hwritten c).trans (hwritten c').symm⟩

/-- Attempts differ by the filter that is selected, and by nothing else of the process variable. -/
theorem attemptStarts_congr {override override' : Option String}
    (h : selectFilter override c = selectFilter override' c) (started : Bool) (n : Nat) :
    attemptStarts override c started n = attemptStarts override' c started n := by
  have hattempt (started : Bool) :
      attemptStart override c started = attemptStart override' c started := by
    rw [attemptStart, attemptStart, h]
  induction n generalizing started with
  | zero => rfl
  | succ n ih => simp only [attemptStarts, hattempt, ih]

/-- The element that gives the level to the target of the report on the start. -/
theorem parse_loggingTarget {level : String} {l : Level} (hl : l.ReadFrom level.toList) :
    Directive.parse ("propref_consumer::logging=" ++ level).toList =
      .ok ⟨some "propref_consumer::logging".toList, l⟩ := by
  have hsplit : ("propref_consumer::logging=" ++ level).toList =
      "propref_consumer::logging".toList ++ '=' :: level.toList := by
    rw [String.toList_append]
    rfl
  rw [hsplit]
  exact parse_target (by decide +kernel) (by decide +kernel)
    (List.all_eq_true.1 (by decide +kernel)) hl

/-- **What takes precedence in the log**: the process variable before the configuration if it holds a
filter, no element before another unless their targets are the same, and the last element for the target
itself before all others. -/
theorem rustLog_precedes (text : String) : Precedes text where
  valid h c c' := valid_of_isFilter h c c'
  invalid h c n := by
    refine attemptStarts_congr ?_ false n
    rw [selectFilter_of_not_isFilter fun t ht => Option.some.inj ht ▸ h]
    rfl
  order text' hperm hdistinct override c override' c' h h' := by
    rw [shown_iff h, shown_iff h']
    exact shows_of_perm hperm hdistinct _ _
  appended level l h hl := by
    obtain ⟨ds, hds⟩ := h
    have hcomma : ',' ∉ ("propref_consumer::logging=" ++ level).toList := by
      rw [String.toList_append, List.mem_append, not_or]
      exact ⟨by decide, hl.comma_notMem⟩
    have hparse := parseFilter_concat hds hcomma (by simp) (parse_loggingTarget hl)
    refine ⟨⟨_, hparse⟩, fun override c hselects => ?_⟩
    rw [shown_iff hselects, hparse]
    simp only [Except.ok.injEq, exists_eq_left']
    rw [shows_concat ds rfl]
    cases l <;> decide

/-- A bare level and two targets show the same in any order; two levels for one target do not. -/
example :
    (parseFilter "warn,propref=off,propref_consumer=3".toList).map
        (shows · loggingTarget.toList .info) = .ok true ∧
      (parseFilter "propref_consumer=3,propref=off,warn".toList).map
        (shows · loggingTarget.toList .info) = .ok true ∧
      (parseFilter "propref=off,propref=info".toList).map
        (shows · loggingTarget.toList .info) = .ok true ∧
      (parseFilter "propref=info,propref=off".toList).map
        (shows · loggingTarget.toList .info) = .ok false := by
  decide +kernel

end Accessors.Service
