import Mathlib.Data.List.Infix
import Accessors.Json.Value
import Accessors.Proofs.Text.Digits
import Accessors.Property.Name

/-!
# Names as JSON

A name is written as a JSON string, each of its characters as it is or by an escape of two or of six
characters. Escapes are read one by one, so the JSON text of a name is read up to its closing quote,
and a text that ends before it ends inside of a string.

* `encodeChar_cases`: the three forms of a character.
* `decodeBody_flatMap`: characters are read back, with any text behind the closing quote.
* `decodeBody_cut`: a text that ends before the closing quote has ended too early.
* `json_reads_back`: what becomes of the JSON text of a name, if it is cut, padded or extended.
-/

namespace Accessors.Json

open Accessors.Text

/-! ## Characters -/

/-- **A character stands for itself, or has an escape of two or of six characters.** -/
theorem encodeChar_cases (c : Char) :
    (encodeChar c = [c] ∧ c ≠ '"' ∧ c ≠ '\\' ∧ ¬ c.toNat < 0x20) ∨
    (∃ e, encodeChar c = ['\\', e] ∧ e ≠ 'u' ∧ unescape? e = some c) ∨
    (encodeChar c = ['\\', 'u', '0', '0', hexDigit (c.toNat / 16), hexDigit (c.toNat % 16)] ∧
      c.toNat < 0x20) := by
  unfold encodeChar
  split
  any_goals exact .inr (.inl ⟨_, rfl, by decide, by decide⟩)
  next hquote hback hb hf hn hr ht =>
  split
  · next hcontrol => exact .inr (.inr ⟨rfl, hcontrol⟩)
  · next hcontrol => exact .inl ⟨rfl, hquote, hback, hcontrol⟩

/-- Four digits are read as the code point of a control. -/
theorem readEscape_control {c : Char} (hc : c.toNat < 0x20) (rest : List Char) :
    readEscape ('u' :: '0' :: '0' :: hexDigit (c.toNat / 16) :: hexDigit (c.toNat % 16) :: rest) =
      .ok (c, rest) := by
  have hzero : hexValue? '0' = some 0 := by decide
  have hhigh := hexValue_hexDigit (d := c.toNat / 16) (by omega)
  have hlow := hexValue_hexDigit (d := c.toNat % 16) (by omega)
  have hvalue : ((0 * 16 + 0) * 16 + c.toNat / 16) * 16 + c.toNat % 16 = c.toNat := by omega
  have hhalf : ¬ (0xDC00 ≤ c.toNat ∧ c.toNat ≤ 0xDFFF) := by omega
  have hpair : ¬ (0xD800 ≤ c.toNat ∧ c.toNat ≤ 0xDBFF) := by omega
  rw [readEscape, if_pos rfl, readCodePoint, readHex4]
  simp only [hzero, hhigh, hlow, hvalue, hhalf, hpair, if_false, Char.ofNat_toNat]

/-- Fewer than four digits have ended too early. -/
theorem readHex4_cut {n : Nat} (hn : n < 16) {k : Nat} (hk : k < 4) (last : Char) :
    readHex4 (['0', '0', hexDigit n, last].take k) = .error .truncated := by
  have hsize : ∀ m < 16, (hexDigit m).utf8Size = 1 := by decide
  have hzero : ('0' : Char).utf8Size = 1 := by decide
  -- The number of digits is counted in bytes, and each of them is one byte.
  have hcases : k = 0 ∨ k = 1 ∨ k = 2 ∨ k = 3 := by omega
  rcases hcases with rfl | rfl | rfl | rfl <;>
    simp [readHex4, byteSize, hsize n hn, hzero]

/-! ## Strings -/

/-- Puts a character in front of a string that is read. -/
def pushChar (c : Char) (r : List Char × List Char) : List Char × List Char := (c :: r.1, r.2)

theorem decodeBody_escape {rest after : List Char} {d : Char}
    (h : readEscape rest = .ok (d, after)) :
    decodeBody ('\\' :: rest) = (decodeBody after).map (pushChar d) := by
  rw [decodeBody, if_neg (by decide), if_pos rfl]
  split
  · next h' => rw [h] at h'; cases h'
  · next h' => rw [h] at h'; cases h'; rfl

theorem decodeBody_escape_error {rest : List Char} {e : Failure} (h : readEscape rest = .error e) :
    decodeBody ('\\' :: rest) = .error e := by
  rw [decodeBody, if_neg (by decide), if_pos rfl]
  split
  · next h' => rw [h] at h'; cases h'; rfl
  · next h' => rw [h] at h'; cases h'

/-- **A character is read back**, with any text behind it. -/
theorem decodeBody_encodeChar (c : Char) (rest : List Char) :
    decodeBody (encodeChar c ++ rest) = (decodeBody rest).map (pushChar c) := by
  rcases encodeChar_cases c with
    ⟨h, hquote, hback, hcontrol⟩ | ⟨e, h, he, hunescape⟩ | ⟨h, hcontrol⟩
  · rw [h, List.singleton_append, decodeBody, if_neg hquote, if_neg hback, if_neg hcontrol]
    rfl
  · have hread : readEscape (e :: rest) = .ok (c, rest) := by
      rw [readEscape, if_neg he, hunescape]
    rw [h]
    exact decodeBody_escape hread
  · rw [h]
    exact decodeBody_escape (readEscape_control hcontrol rest)

/-- **Characters are read back up to the closing quote**, whatever follows it. -/
theorem decodeBody_flatMap (s after : List Char) :
    decodeBody (s.flatMap encodeChar ++ '"' :: after) = .ok (s, after) := by
  induction s with
  | nil => simp [decodeBody]
  | cons c s ih =>
    rw [List.flatMap_cons, List.append_assoc, decodeBody_encodeChar, ih]
    rfl

/-- A character that is cut has ended too early. -/
theorem decodeBody_cut_char {c : Char} {k : Nat} (hk : k < (encodeChar c).length) :
    decodeBody ((encodeChar c).take k) = .error .truncated := by
  have hempty : decodeBody [] = .error .truncated := by rw [decodeBody]
  have hback : decodeBody ['\\'] = .error .truncated := decodeBody_escape_error rfl
  -- Nothing is left, a backslash is, or an escape with fewer than four digits.
  cases k with
  | zero => exact hempty
  | succ k =>
    rcases encodeChar_cases c with ⟨h, -⟩ | ⟨e, h, -⟩ | ⟨h, hcontrol⟩ <;> rw [h] at hk ⊢
    · simp at hk
    · simp only [List.length_cons, List.length_nil] at hk
      obtain rfl : k = 0 := by omega
      exact hback
    · cases k with
      | zero => exact hback
      | succ k =>
        simp only [List.length_cons, List.length_nil] at hk
        have hread := readHex4_cut (n := c.toNat / 16) (by omega) (k := k) (by omega)
          (hexDigit (c.toNat % 16))
        refine decodeBody_escape_error ?_
        rw [List.take_succ_cons, readEscape, if_pos rfl, readCodePoint, hread]

/-- **A text that ends before the closing quote has ended too early**, also inside of an escape. -/
theorem decodeBody_cut {s u : List Char} (h : u <+: s.flatMap encodeChar) :
    decodeBody u = .error .truncated := by
  induction s generalizing u with
  | nil =>
    obtain rfl : u = [] := List.prefix_nil.1 h
    rw [decodeBody]
  | cons c s ih =>
    rw [List.flatMap_cons] at h
    -- The text ends inside of the first character, or behind it.
    rcases Nat.lt_or_ge u.length (encodeChar c).length with hlt | hge
    · have hprefix : u <+: encodeChar c :=
        List.prefix_of_prefix_length_le h (List.prefix_append _ _) hlt.le
      rw [List.prefix_iff_eq_take.1 hprefix]
      exact decodeBody_cut_char hlt
    · obtain ⟨v, rfl⟩ := List.prefix_of_prefix_length_le (List.prefix_append _ _) h hge
      rw [List.prefix_append_right_inj] at h
      rw [decodeBody_encodeChar, ih h]
      rfl

/-! ## White space -/

theorem isSpace_iff {c : Char} : isSpace c = true ↔ c ∈ [' ', '\t', '\n', '\r'] := by
  simp [isSpace, or_assoc]

/-- White space in front of a string is skipped. -/
theorem decode_quote {before : List Char} (hbefore : ∀ c ∈ before, isSpace c = true)
    (rest : List Char) : decode (before ++ '"' :: rest) =
      match decodeBody rest with
      | .error e => .error e
      | .ok (s, after) => if after.all isSpace then .ok s else .error .malformed := by
  have hskip : (before ++ '"' :: rest).dropWhile isSpace = '"' :: rest := by
    rw [List.dropWhile_append_of_pos hbefore]
    rfl
  rw [decode, hskip]
  rfl

/-- A written string is read back if nothing but white space follows it. -/
theorem decode_encode {before : List Char} (hbefore : ∀ c ∈ before, isSpace c = true)
    (s after : List Char) : decode (before ++ encode s ++ after) =
      if after.all isSpace then .ok s else .error .malformed := by
  have htext : before ++ encode s ++ after =
      before ++ '"' :: (s.flatMap encodeChar ++ '"' :: after) := by simp [encode]
  rw [htext, decode_quote hbefore, decodeBody_flatMap]

/-- A written string that is cut anywhere has ended too early. -/
theorem decode_cut {s t : List Char} (h : t <+: encode s) (hne : t ≠ encode s) :
    decode t = .error .truncated := by
  cases t with
  | nil => rfl
  | cons c t =>
    rw [encode, List.cons_append, List.cons_prefix_cons] at h
    obtain ⟨rfl, h⟩ := h
    have hbody : t <+: s.flatMap encodeChar := by
      rcases List.prefix_concat_iff.1 h with rfl | h
      · exact absurd rfl hne
      · exact h
    have hquote := decode_quote (List.forall_mem_nil _) t
    rw [List.nil_append, decodeBody_cut hbody] at hquote
    exact hquote

end Accessors.Json

namespace Accessors.Property.PropertyName

open Accessors.Json

/-- The JSON text of a name is that of its text. -/
def json (n : PropertyName) : List Char := encode n.text.toList

/-- The name that a JSON text holds. -/
def ofJson (text : List Char) : Except Failure PropertyName :=
  (decode text).map fun s => ⟨String.ofList s⟩

/-- What becomes of the JSON text of a name. Here white space is that of JSON. -/
structure ReadsBack (n : PropertyName) : Prop where
  /-- White space around the text does not matter. -/
  padded : ∀ before after : List Char, (∀ c ∈ before, c ∈ [' ', '\t', '\n', '\r']) →
    (∀ c ∈ after, c ∈ [' ', '\t', '\n', '\r']) → ofJson (before ++ n.json ++ after) = .ok n
  /-- A text that ends too early, wherever it ends. -/
  cut : ∀ t, t <+: n.json → t ≠ n.json → ofJson t = .error .truncated
  /-- Anything else behind the text is an error. -/
  extended : ∀ after : List Char, (∃ c ∈ after, c ∉ [' ', '\t', '\n', '\r']) →
    ofJson (n.json ++ after) = .error .malformed
  /-- No other name has the text. -/
  unique : ∀ m : PropertyName, m.json = n.json → m = n
  /-- A text that is cut or extended never holds another name. -/
  sound : ∀ t m, t <+: n.json ∨ n.json <+: t → ofJson t = .ok m → m = n

/-- The JSON text of a name, with white space in front, is read back if nothing but white space
follows it. -/
theorem ofJson_json (n : PropertyName) {before : List Char}
    (hbefore : ∀ c ∈ before, isSpace c = true) (after : List Char) :
    ofJson (before ++ n.json ++ after) =
      if after.all isSpace then .ok n else .error .malformed := by
  rw [ofJson, json, decode_encode hbefore]
  split
  · simp [Except.map]
  · rfl

theorem ofJson_json_append (n : PropertyName) (after : List Char) : ofJson (n.json ++ after) =
    if after.all isSpace then .ok n else .error .malformed :=
  n.ofJson_json (List.forall_mem_nil _) after

theorem ofJson_json_self (n : PropertyName) : ofJson n.json = .ok n := by
  have h := n.ofJson_json_append []
  rwa [List.append_nil, List.all_nil, if_pos rfl] at h

theorem ofJson_cut {n : PropertyName} {t : List Char} (h : t <+: n.json) (hne : t ≠ n.json) :
    ofJson t = .error .truncated := by
  rw [ofJson, decode_cut h hne]
  rfl

/-- **The JSON text of a name is read back**, and no part or extension of it is read as another
name. -/
theorem json_reads_back (n : PropertyName) : n.ReadsBack where
  padded before after hbefore hspace := by
    rw [ofJson_json n fun c hc => isSpace_iff.2 (hbefore c hc), if_pos]
    exact List.all_eq_true.2 fun c hc => isSpace_iff.2 (hspace c hc)
  cut t h hne := ofJson_cut h hne
  extended after hafter := by
    obtain ⟨c, hc, hno⟩ := hafter
    rw [ofJson_json_append, if_neg]
    intro hall
    exact hno (isSpace_iff.1 (List.all_eq_true.1 hall c hc))
  unique m h := by
    have hm := m.ofJson_json_self
    rw [h, ofJson_json_self] at hm
    cases hm
    rfl
  sound t m h hok := by
    rcases h with ht | ⟨after, rfl⟩
    · by_cases hne : t = n.json
      · rw [hne, ofJson_json_self] at hok
        cases hok
        rfl
      · rw [ofJson_cut ht hne] at hok
        cases hok
    · rw [ofJson_json_append] at hok
      split at hok <;> cases hok
      rfl

end Accessors.Property.PropertyName
