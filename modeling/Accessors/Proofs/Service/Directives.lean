import Accessors.Proofs.FirstError
import Accessors.Service.Filter

/-!
# Texts that are filters

A filter is read element by element, and ends with its first element that is no directive. An element
is a word, or a word and a level around an equals sign; directives for spans, in square brackets, are
left out, and an element with such a bracket behind its word has no form.

* `HasForm`: the elements that look like directives, whatever level they give.
* `parse_of_trim`, `parse_eq_malformed`: an element that has the form lacks at most a level.
* `Fault`, `parseFilter_eq_error`: what is wrong with a text that is no filter.
-/

namespace Accessors.Service

open Accessors.Text

/-! ## Elements -/

/-- A character that the word of a directive goes on with. -/
def inWord (c : Char) : Bool := c != '=' && c != '['

theorem inWord_eq_true {c : Char} : inWord c = true ↔ c ≠ '=' ∧ c ≠ '[' := by simp [inWord]

/-- A directive begins with its word. -/
theorem inWord_of_canBegin {c : Char} (h : Directive.canBegin c = true) : inWord c = true := by
  rw [inWord_eq_true]
  constructor
  · rintro rfl
    exact absurd h (by decide +kernel)
  · rintro rfl
    exact absurd h (by decide +kernel)

/-- What an element says by what stands behind its word. -/
def readBehind (element word : List Char) : List Char → Except FilterError Directive
  | [] => .ok (.ofWord element)
  | '=' :: _ =>
    (Directive.levelOf ((splitBytes (byteSize word) element).2.drop 1)).map fun l =>
      ⟨some (splitBytes (byteSize word) element).1, l⟩
  | _ :: _ => .error .malformed

/-- **An element is read behind its word.** -/
theorem parse_of_trim {element word behind : List Char} {c : Char}
    (htrim : trim element = c :: word ++ behind) (hc : Directive.canBegin c = true)
    (hword : ∀ d ∈ c :: word, inWord d = true) (hbehind : ∀ d ∈ behind.head?, inWord d = false) :
    Directive.parse element = readBehind element (c :: word) behind := by
  have htake : (c :: word ++ behind).takeWhile inWord = c :: word := by
    have hstop : behind.takeWhile inWord = [] := by
      cases behind with
      | nil => rfl
      | cons d rest => simp [hbehind d rfl]
    rw [List.takeWhile_append_of_pos hword, hstop, List.append_nil]
  have hdrop : (c :: word ++ behind).drop ((c :: word ++ behind).takeWhile inWord).length = behind := by
    rw [htake, List.drop_left]
  have hparse : Directive.parse element = readBehind element
      ((c :: word ++ behind).takeWhile inWord)
      ((c :: word ++ behind).drop ((c :: word ++ behind).takeWhile inWord).length) := by
    unfold Directive.parse
    rw [htrim]
    simp only [List.cons_append, hc, Bool.not_true, Bool.false_eq_true, if_false]
    rfl
  rw [hparse, hdrop, htake]

theorem parse_of_nil {element : List Char} (htrim : trim element = []) :
    Directive.parse element = .error .malformed := by
  rw [Directive.parse, htrim]

theorem parse_of_not_canBegin {element scanned : List Char} {c : Char}
    (htrim : trim element = c :: scanned) (hc : Directive.canBegin c = false) :
    Directive.parse element = .error .malformed := by
  unfold Directive.parse
  rw [htrim]
  simp only [hc, Bool.not_false, if_true]

/-- The element has the form of a directive: between white space, it begins with a character that a
directive can begin with, and has no bracket in front of its first equals sign. -/
def HasForm (element : List Char) : Prop :=
  ∃ c word behind, trim element = c :: word ++ behind ∧ Directive.canBegin c = true ∧
    (∀ d ∈ c :: word, d ≠ '=' ∧ d ≠ '[') ∧ (behind = [] ∨ ∃ rest, behind = '=' :: rest)

/-- What stands behind the equals sign is a level, or lacks one. -/
theorem readBehind_ne_malformed (element word rest : List Char) :
    readBehind element word ('=' :: rest) ≠ .error .malformed := by
  rw [readBehind, Directive.levelOf]
  split
  · exact nofun
  · split <;> exact nofun

/-- **An element is malformed exactly if it does not have the form of a directive.** -/
theorem parse_eq_malformed {element : List Char} :
    Directive.parse element = .error .malformed ↔ ¬ HasForm element := by
  constructor
  · rintro h ⟨c, word, behind, htrim, hc, hword, hbehind⟩
    have hread : Directive.parse element = readBehind element (c :: word) behind := by
      refine parse_of_trim htrim hc (fun d hd => inWord_eq_true.2 (hword d hd)) ?_
      rcases hbehind with rfl | ⟨rest, rfl⟩
      · exact nofun
      · simp [inWord]
    rw [hread] at h
    rcases hbehind with rfl | ⟨rest, rfl⟩
    · cases h
    · exact readBehind_ne_malformed _ _ _ h
  · intro hno
    cases htrim : trim element with
    | nil => exact parse_of_nil htrim
    | cons c scanned =>
      cases hc : Directive.canBegin c with
      | false => exact parse_of_not_canBegin htrim hc
      | true =>
        -- The element is cut behind its word. Had it the form, an equals sign or nothing would follow.
        have hcut : trim element = c :: scanned.takeWhile inWord ++ scanned.dropWhile inWord := by
          rw [htrim, List.cons_append, List.takeWhile_append_dropWhile]
        have hword : ∀ d ∈ c :: scanned.takeWhile inWord, inWord d = true :=
          List.forall_mem_cons.2 ⟨inWord_of_canBegin hc, List.all_eq_true.1 List.all_takeWhile⟩
        have hform (behind : List Char) (h : scanned.dropWhile inWord = behind) :
            ¬ (behind = [] ∨ ∃ rest, behind = '=' :: rest) := fun hbehind =>
          hno ⟨c, _, behind, h ▸ hcut, hc, fun d hd => inWord_eq_true.1 (hword d hd), hbehind⟩
        have hstop := List.head?_dropWhile_not inWord scanned
        cases hbehind : scanned.dropWhile inWord with
        | nil => exact absurd (.inl rfl) (hform _ hbehind)
        | cons d rest =>
          have hd : d ≠ '=' := by
            rintro rfl
            exact hform _ hbehind (.inr ⟨rest, rfl⟩)
          rw [hbehind, List.head?_cons] at hstop
          rw [hbehind] at hcut
          rw [parse_of_trim hcut hc hword (by simpa using hstop)]
          simp [readBehind]

/-! ## Filters -/

/-- The text is a list of directives. -/
def IsFilter (text : String) : Prop := ∃ directives, parseFilter text.toList = .ok directives

/-- The elements of a list of directives. -/
def elements (text : String) : List (List Char) :=
  (splitOn ',' text.toList).filter fun element => !element.isEmpty

/-- The first element of the text that is no directive. -/
def FirstFaulty (text : String) (element : List Char) : Prop :=
  ∃ before after, elements text = before ++ element :: after ∧
    (∀ other ∈ before, ∃ d, Directive.parse other = .ok d) ∧ ¬ ∃ d, Directive.parse element = .ok d

/-- What is wrong with a text that is no filter. Its first element that is no directive lacks a level
where it needs one, unless it does not even have the form of a directive. -/
inductive Fault (text : String) : FilterError → Prop
  | badLevel {element : List Char} (hfirst : FirstFaulty text element) (hform : HasForm element) :
    Fault text .badLevel
  | malformed {element : List Char} (hfirst : FirstFaulty text element) (hform : ¬ HasForm element) :
    Fault text .malformed

/-- The first faulty element of a text decides its error. -/
theorem FirstFaulty.parseFilter_eq_error {text : String} {element : List Char} {e : FilterError}
    (h : FirstFaulty text element) (he : Directive.parse element = .error e) :
    parseFilter text.toList = .error e := by
  obtain ⟨before, after, hsplit, hbefore, -⟩ := h
  exact mapM_eq_error.2 ⟨before, element, after, hsplit, hbefore, he⟩

/-- **A text that is no filter is told what is wrong with it.** -/
theorem parseFilter_eq_error {text : String} {e : FilterError} :
    parseFilter text.toList = .error e ↔ Fault text e := by
  constructor
  · intro h
    obtain ⟨before, element, after, hsplit, hbefore, he⟩ := mapM_eq_error.1 h
    have hfirst : FirstFaulty text element := ⟨before, after, hsplit, hbefore, by simp [he]⟩
    cases e with
    | malformed => exact .malformed hfirst (parse_eq_malformed.1 he)
    | badLevel =>
      refine .badLevel hfirst (Classical.not_not.1 fun hno => ?_)
      rw [parse_eq_malformed.2 hno] at he
      cases he
  · intro h
    cases h with
    | malformed hfirst hno => exact hfirst.parseFilter_eq_error (parse_eq_malformed.2 hno)
    | @badLevel element hfirst hform =>
      refine hfirst.parseFilter_eq_error ?_
      obtain ⟨-, -, -, -, hno⟩ := hfirst
      cases he : Directive.parse element with
      | ok d => exact absurd ⟨d, he⟩ hno
      | error e =>
        cases e with
        | badLevel => rfl
        | malformed => exact absurd hform (parse_eq_malformed.1 he)

end Accessors.Service
