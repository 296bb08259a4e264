import Accessors.Proofs.Text.Digits
import Accessors.Proofs.Text.Folded
import Accessors.Service.Config

/-!
# Which texts are settings

An environment is found by the lower case of a text, over all of Unicode. Its names are words that
no character outside of ASCII has a part in, so only the case of ASCII letters is left to choose. A
port is read digit by digit, up to the first digit with which the number would not be a port.
Numbers only grow, so the reading ends early exactly for the numerals that are too large.

* `Environment.IsNamedBy`, `Environment.parse_eq_ok`: the texts that are environments.
* `Environment.parse_named`: what becomes of any text for an environment.
* `WritesPort`, `parsePort_eq_some`: the texts that are ports.
* `Environment.parse_name`, `parsePort_toString`: environments and ports as they are written.
-/

namespace Accessors.Service

open Accessors.Text

/-! ## Environments -/

namespace Environment

/-- The names of an environment, the full one first. -/
def names : Environment → List String
  | development => ["development", "dev"]
  | testing => ["testing", "test"]
  | production => ["production", "prod"]

/-- A text is one of the environment's names, up to the case of ASCII letters. -/
def IsNamedBy (e : Environment) (text : String) : Prop :=
  ∃ name ∈ e.names, text.toList.map Char.toLower = name.toList

theorem ofName?_eq_some {name : String} {e : Environment} :
    ofName? name = some e ↔ name ∈ e.names := by
  unfold ofName?
  constructor
  · intro h
    split at h
    · next hname => cases h; simpa [names] using hname
    · split at h
      · next hname => cases h; simpa [names] using hname
      · split at h
        · next hname => cases h; simpa [names] using hname
        · cases h
  · intro h
    cases e <;> simp only [names, List.mem_cons, List.not_mem_nil, or_false] at h <;>
      rcases h with rfl | rfl <;> decide

/-- The names are words of ASCII without the letter `k`. -/
theorem plain_of_mem_names {name : String} {e : Environment} (h : name ∈ e.names) :
    ∀ c ∈ name.toList, c.isAscii = true ∧ c ≠ 'k' := by
  have hall : (e.names.all fun name => name.toList.all fun c => c.isAscii && c != 'k') = true := by
    cases e <;> decide
  simp only [List.all_eq_true, Bool.and_eq_true, bne_iff_ne] at hall
  exact hall name h

/-- **The texts that are environments.** -/
theorem parse_eq_ok {text : String} {e : Environment} : parse text = .ok e ↔ e.IsNamedBy text := by
  have hfound : parse text = .ok e ↔ ofName? (String.ofList (lowercase text.toList)) = some e := by
    unfold parse
    cases ofName? (String.ofList (lowercase text.toList)) <;> simp
  rw [hfound, ofName?_eq_some]
  constructor
  · intro h
    refine ⟨_, h, ?_⟩
    rw [String.toList_ofList, ← lowercase_eq_iff]
    simpa using plain_of_mem_names h
  · rintro ⟨name, hname, h⟩
    rw [← lowercase_eq_iff (plain_of_mem_names hname)] at h
    rwa [h, String.ofList_toList]

/-- A text that is no environment is told as it is. -/
theorem parse_eq_error {text : String} {reason : ConfigError} : parse text = .error reason ↔
    (∀ e : Environment, ¬ e.IsNamedBy text) ∧ reason = .invalid .environment text := by
  simp only [← parse_eq_ok]
  unfold parse
  cases ofName? (String.ofList (lowercase text.toList)) <;> simp [eq_comm]

/-- **An environment is found by the name that is shown for it.** -/
theorem parse_name (e : Environment) : parse e.name = .ok e := by
  rw [parse_eq_ok]
  cases e <;> exact ⟨_, List.mem_cons_self, by decide⟩

/-- A text that is a name has letters of ASCII only. -/
theorem IsNamedBy.isAlphanum {e : Environment} {text : String} (h : e.IsNamedBy text) {c : Char}
    (hc : c ∈ text.toList) : c.isAscii = true ∧ c.isAlphanum = true := by
  obtain ⟨name, hname, htext⟩ := h
  have hlower : c.toLower ∈ name.toList := htext ▸ List.mem_map_of_mem hc
  have hascii : c.isAscii = true :=
    isAscii_of_toLower (plain_of_mem_names hname c.toLower hlower).1
  have hletters : (e.names.all fun name => name.toList.all Char.isAlphanum) = true := by
    cases e <;> decide
  simp only [List.all_eq_true] at hletters
  have hback : ∀ n < 128, (Char.ofNat n).toLower.isAlphanum = true →
      (Char.ofNat n).isAlphanum = true := by
    decide +kernel
  exact ⟨hascii, ascii_induction (P := fun c => c.toLower.isAlphanum = true → c.isAlphanum = true)
    hback hascii (hletters name hname c.toLower hlower)⟩

/-- The names of all environments. -/
theorem exists_mem_names {name : String} : (∃ e : Environment, name ∈ e.names) ↔
    name ∈ ["development", "dev", "testing", "test", "production", "prod"] := by
  constructor
  · rintro ⟨e, h⟩
    cases e <;> simp only [names, List.mem_cons, List.not_mem_nil, or_false] at h <;>
      rcases h with rfl | rfl <;> decide
  · intro h
    have hall : (["development", "dev", "testing", "test", "production", "prod"].all fun name =>
        [development, testing, production].any fun e => e.names.contains name) = true := by decide
    obtain ⟨e, -, he⟩ := List.any_eq_true.1 (List.all_eq_true.1 hall name h)
    exact ⟨e, List.contains_iff_mem.1 he⟩

/-- What becomes of a text for an environment. -/
structure Named (text : String) : Prop where
  /-- An environment comes of its two names, up to the case of ASCII letters, and of nothing else. -/
  accepted : ∀ e : Environment, parse text = .ok e ↔
    ∃ name ∈ e.names, text.toList.map Char.toLower = name.toList
  /-- So six words are accepted. -/
  words : (∃ e, parse text = .ok e) ↔
    ∃ name ∈ ["development", "dev", "testing", "test", "production", "prod"],
      text.toList.map Char.toLower = name.toList
  /-- No accepted text has a character outside of ASCII, or white space anywhere. -/
  plain : ∀ e, parse text = .ok e → ∀ c ∈ text.toList, c.isAscii = true ∧ isSpace c = false
  /-- What is shown for the environment is accepted for the same one. -/
  shown : ∀ e, parse text = .ok e → parse e.name = .ok e
  /-- A text that is not accepted is told as it is, as the value of the setting. -/
  refused : (∀ e, parse text ≠ .ok e) → parse text = .error (.invalid .environment text)

/-- **An environment is a word of six, in any case of ASCII letters**, and any other text is refused
as it is. Lower case over all of Unicode makes no other text one of the words. -/
theorem parse_named (text : String) : Named text where
  accepted e := parse_eq_ok
  words := by
    simp only [parse_eq_ok, IsNamedBy]
    constructor
    · rintro ⟨e, name, hname, htext⟩
      exact ⟨name, exists_mem_names.1 ⟨e, hname⟩, htext⟩
    · rintro ⟨name, hname, htext⟩
      obtain ⟨e, he⟩ := exists_mem_names.2 hname
      exact ⟨e, name, he, htext⟩
  plain e he c hc := by
    obtain ⟨hascii, halnum⟩ := (parse_eq_ok.1 he).isAlphanum hc
    exact ⟨hascii, isSpace_of_isAlphanum hascii halnum⟩
  shown e _ := parse_name e
  refused hno := by
    cases h : parse text with
    | ok e => exact absurd h (hno e)
    | error reason => rw [(parse_eq_error.1 h).2]

/-- Capitals are accepted, white space is not, nor is a letter that looks like another. -/
example : parse "PROd" = .ok production ∧
    parse " prod" = .error (.invalid .environment " prod") ∧
    parse "te\u017Ft" = .error (.invalid .environment "te\u017Ft") := by
  decide +kernel

end Environment

/-! ## Ports -/

/-- A text is one or more decimal digits, perhaps behind a plus sign, that write the number of a
port. Leading zeros are digits. -/
def WritesPort (text : List Char) (p : Port) : Prop :=
  ∃ digits, (text = digits ∨ text = '+' :: digits) ∧ digits ≠ [] ∧
    (∀ c ∈ digits, c.isDigit = true) ∧ Nat.ofDigitChars 10 digits 0 = p.val

/-- **Digits are read onto a number** as long as what they write is a port. -/
theorem readPort_eq_some {digits : List Char} {n p : Port} : readPort n digits = some p ↔
    (∀ c ∈ digits, c.isDigit = true) ∧ Nat.ofDigitChars 10 digits n.val = p.val := by
  induction digits generalizing n with
  | nil => simp [readPort, Fin.ext_iff]
  | cons c digits ih =>
    rw [readPort, List.forall_mem_cons, Nat.ofDigitChars_cons]
    split
    · next hc =>
      have hnot : ¬ c.isDigit = true := fun h => by
        rw [digit?_eq_some.2 ⟨h, rfl⟩] at hc
        cases hc
      simp [hnot]
    · next d hd =>
      obtain ⟨hc, rfl⟩ := digit?_eq_some.1 hd
      rw [Nat.mul_comm 10 n.val]
      split
      · next h => rw [ih]; simp [hc]
      · next h =>
        -- The number is too large already, and stays so.
        have hgrow := le_ofDigitChars digits (n.val * 10 + (c.toNat - '0'.toNat))
        have hp := p.isLt
        refine iff_of_false (by simp) fun hall => ?_
        have heq := hall.2
        omega

/-- **The texts that are ports.** -/
theorem parsePort_eq_some {text : List Char} {p : Port} :
    parsePort text = some p ↔ WritesPort text p := by
  have hplus : ¬ '+'.isDigit = true := by decide
  unfold parsePort
  -- A plus sign with something behind it, a plus sign alone, nothing, and a text without the sign.
  split
  · next c rest =>
    rw [readPort_eq_some]
    constructor
    · rintro ⟨hall, hvalue⟩
      exact ⟨c :: rest, .inr rfl, by simp, hall, hvalue⟩
    · rintro ⟨digits, rfl | h, -, hall, hvalue⟩
      · exact absurd (hall '+' (by simp)) hplus
      · cases h
        exact ⟨hall, hvalue⟩
  · refine iff_of_false (by simp) ?_
    rintro ⟨digits, rfl | h, hne, hall, -⟩
    · exact hplus (hall '+' (by simp))
    · cases h
      exact hne rfl
  · refine iff_of_false (by simp) ?_
    rintro ⟨digits, rfl | h, hne, -⟩
    · exact hne rfl
    · cases h
  · next hpair hsign hempty =>
    rw [readPort_eq_some]
    constructor
    · rintro ⟨hall, hvalue⟩
      exact ⟨text, .inl rfl, hempty, hall, hvalue⟩
    · rintro ⟨digits, rfl | rfl, hne, hall, hvalue⟩
      · exact ⟨hall, hvalue⟩
      · obtain ⟨c, rest, rfl⟩ := List.exists_cons_of_ne_nil hne
        exact absurd rfl (hpair c rest)

/-- **A port in decimal is read back.** -/
theorem parsePort_toString (p : Port) : parsePort (toString p.val).toList = some p := by
  rw [parsePort_eq_some, Nat.toString_eq_ofList_toDigits, String.toList_ofList]
  refine ⟨Nat.toDigits 10 p.val, .inl rfl, Nat.toDigits_ne_nil, fun c hc => ?_, ?_⟩
  · exact Nat.isDigit_of_mem_toDigits (by decide) (by decide) hc
  · exact Nat.ofDigitChars_toDigits (by decide) (by decide)

end Accessors.Service
