import Accessors.Proofs.Json.ReadBack
import Accessors.Service.Health

/-!
# Objects as JSON

An object whose values are strings is read member by member, with white space between all tokens. What
the service writes as an object is read back with the members that it was written with, in their order
and whatever their texts are.

* `readObject`: the members of an object of strings.
* `readObject_jsonObject`, `decodeObject_jsonObject`: a written object is read back.
-/

namespace Accessors.Json

open Accessors.Text

/-! ## Reading strings and members -/

/-- Reads a string with its quotes, white space in front allowed. -/
def readString (s : List Char) : Except Failure (List Char × List Char) :=
  match s.dropWhile isSpace with
  | [] => .error .truncated
  | c :: rest => if c = '"' then decodeBody rest else .error .malformed

/-- Reads a member of an object: its key, a colon, and its value. -/
def readMember (s : List Char) : Except Failure ((List Char × List Char) × List Char) :=
  match readString s with
  | .error e => .error e
  | .ok (key, behindKey) =>
    match behindKey.dropWhile isSpace with
    | [] => .error .truncated
    | c :: rest =>
      if c = ':' then (readString rest).map fun r => ((key, r.1), r.2) else .error .malformed

theorem exists_of_map_eq_ok {α β ε : Type} {x : Except ε α} {f : α → β} {b : β}
    (h : x.map f = .ok b) : ∃ a, x = .ok a ∧ f a = b := by
  cases x with
  | error e => cases h
  | ok a => exact ⟨a, rfl, Except.ok.inj h⟩

/-- What follows a character behind white space is shorter. -/
theorem length_of_dropWhile {p : Char → Bool} {s rest : List Char} {c : Char}
    (h : s.dropWhile p = c :: rest) : rest.length < s.length := by
  have hsuffix := (List.dropWhile_suffix p (l := s)).length_le
  rw [h, List.length_cons] at hsuffix
  omega

/-- A string takes at least its closing quote. -/
theorem decodeBody_length {s t rest : List Char} (h : decodeBody s = .ok (t, rest)) :
    rest.length < s.length := by
  induction s using decodeBody.induct generalizing t with
  | case1 => rw [decodeBody] at h; cases h
  | case2 after =>
    rw [decodeBody, if_pos rfl] at h
    cases h
    simp
  | case3 after e hread _ =>
    rw [decodeBody_escape_error hread] at h
    cases h
  | case4 after d behind hescape hshorter _ ih =>
    rw [decodeBody_escape hescape] at h
    obtain ⟨⟨u, tail⟩, hread, hpush⟩ := exists_of_map_eq_ok h
    obtain rfl : tail = rest := congrArg Prod.snd hpush
    have hlt := ih hread
    rw [List.length_cons]
    omega
  | case5 c after hquote hback hcontrol =>
    rw [decodeBody, if_neg hquote, if_neg hback, if_pos hcontrol] at h
    cases h
  | case6 c after hquote hback hcontrol ih =>
    rw [decodeBody, if_neg hquote, if_neg hback, if_neg hcontrol] at h
    obtain ⟨⟨u, tail⟩, hread, hpush⟩ := exists_of_map_eq_ok h
    obtain rfl : tail = rest := congrArg Prod.snd hpush
    have hlt := ih hread
    rw [List.length_cons]
    omega

theorem readString_length {s t rest : List Char} (h : readString s = .ok (t, rest)) :
    rest.length < s.length := by
  unfold readString at h
  split at h
  · cases h
  · next c after hdrop =>
    have hskip := length_of_dropWhile hdrop
    split at h
    · have hbody := decodeBody_length h
      omega
    · cases h

theorem readMember_length {s rest : List Char} {m : List Char × List Char}
    (h : readMember s = .ok (m, rest)) : rest.length < s.length := by
  unfold readMember at h
  split at h
  · cases h
  · next key behindKey hkey =>
    have hlt := readString_length hkey
    split at h
    · cases h
    · next c after hdrop =>
      have hskip := length_of_dropWhile hdrop
      split at h
      · obtain ⟨⟨value, tail⟩, hvalue, hpair⟩ := exists_of_map_eq_ok h
        obtain rfl : tail = rest := congrArg Prod.snd hpair
        have hshorter := readString_length hvalue
        omega
      · cases h

/-! ## Reading objects -/

/-- Reads members with commas between them, up to the closing brace. -/
def readMembers (s : List Char) : Except Failure (List (List Char × List Char) × List Char) :=
  match h : readMember s with
  | .error e => .error e
  | .ok (m, behind) =>
    match hdrop : behind.dropWhile isSpace with
    | [] => .error .truncated
    | c :: rest =>
      if c = '\x7d' then .ok ([m], rest)
      else if c = ',' then
        have : rest.length < s.length := by
          have hlt := readMember_length h
          have hskip := length_of_dropWhile hdrop
          omega
        (readMembers rest).map fun r => (m :: r.1, r.2)
      else .error .malformed
termination_by s.length

/-- Reads an object after its opening brace. -/
def readInside (s : List Char) : Except Failure (List (List Char × List Char) × List Char) :=
  match s.dropWhile isSpace with
  | [] => .error .truncated
  | c :: rest => if c = '\x7d' then .ok ([], rest) else readMembers s

/-- The members of an object of strings, white space around it allowed. -/
def readObject (text : List Char) : Except Failure (List (List Char × List Char)) :=
  match text.dropWhile isSpace with
  | [] => .error .truncated
  | c :: inside =>
    if c = '\x7b' then
      match readInside inside with
      | .error e => .error e
      | .ok (members, after) => if after.all isSpace then .ok members else .error .malformed
    else .error .malformed

/-! ## Reading back -/

theorem readString_encode (s after : List Char) : readString (encode s ++ after) = .ok (s, after) := by
  have htext : encode s ++ after = '"' :: (s.flatMap encodeChar ++ '"' :: after) := by simp [encode]
  rw [htext]
  exact decodeBody_flatMap s after

/-- A member as it is written. -/
def encodeMember (m : List Char × List Char) : List Char := encode m.1 ++ ':' :: encode m.2

theorem readMember_encodeMember (m : List Char × List Char) (after : List Char) :
    readMember (encodeMember m ++ after) = .ok (m, after) := by
  have hkey : readString (encodeMember m ++ after) = .ok (m.1, ':' :: (encode m.2 ++ after)) := by
    rw [encodeMember, List.append_assoc]
    exact readString_encode _ _
  have hcolon : (':' :: (encode m.2 ++ after)).dropWhile isSpace = ':' :: (encode m.2 ++ after) := rfl
  rw [readMember, hkey]
  simp only [hcolon, if_true, readString_encode]
  rfl

/-- What follows a member decides whether there is another one. -/
theorem readMembers_last (m : List Char × List Char) (after : List Char) :
    readMembers (encodeMember m ++ '\x7d' :: after) = .ok ([m], after) := by
  rw [readMembers]
  split
  · next h => rw [readMember_encodeMember] at h; cases h
  · next h =>
    rw [readMember_encodeMember] at h
    cases h
    rfl

theorem readMembers_cons (m : List Char × List Char) (rest : List Char) :
    readMembers (encodeMember m ++ ',' :: rest) =
      (readMembers rest).map fun r => (m :: r.1, r.2) := by
  rw [readMembers]
  split
  · next h => rw [readMember_encodeMember] at h; cases h
  · next h =>
    rw [readMember_encodeMember] at h
    cases h
    rfl

/-- **Members are read back up to the closing brace**, whatever follows it. -/
theorem readMembers_intercalate {members : List (List Char × List Char)} (hne : members ≠ [])
    (after : List Char) :
    readMembers ([','].intercalate (members.map encodeMember) ++ '\x7d' :: after) =
      .ok (members, after) := by
  induction members with
  | nil => exact absurd rfl hne
  | cons m rest ih =>
    cases rest with
    | nil => simpa using readMembers_last m after
    | cons m' rest =>
      have htext : [','].intercalate ((m :: m' :: rest).map encodeMember) ++ '\x7d' :: after =
          encodeMember m ++
            ',' :: ([','].intercalate ((m' :: rest).map encodeMember) ++ '\x7d' :: after) := by
        simp [List.intercalate]
      rw [htext, readMembers_cons, ih (List.cons_ne_nil _ _)]
      rfl

/-- The inside of an object is read back; a member begins with a quote, so the first one is not taken
for the closing brace. -/
theorem readInside_intercalate (members : List (List Char × List Char)) (after : List Char) :
    readInside ([','].intercalate (members.map encodeMember) ++ '\x7d' :: after) =
      .ok (members, after) := by
  cases members with
  | nil => rfl
  | cons m rest =>
    have hquote : ∃ inside, [','].intercalate ((m :: rest).map encodeMember) ++ '\x7d' :: after =
        '"' :: inside := by
      cases rest <;> simp [List.intercalate, encodeMember, encode]
    have hread := readMembers_intercalate (List.cons_ne_nil m rest) after
    obtain ⟨inside, hinside⟩ := hquote
    rw [hinside] at hread ⊢
    exact hread

/-- **A written object is read back**, whatever the texts of its members are. -/
theorem readObject_jsonObject (members : List (String × String)) :
    readObject (Service.jsonObject members) =
      .ok (members.map fun m => (m.1.toList, m.2.toList)) := by
  have htext : Service.jsonObject members = '\x7b' ::
      ([','].intercalate ((members.map fun m => (m.1.toList, m.2.toList)).map encodeMember) ++
        ['\x7d']) := by
    rw [List.map_map]
    rfl
  rw [htext, readObject]
  simp only [List.dropWhile_cons_of_neg (show ¬ isSpace '\x7b' = true by decide), if_true,
    readInside_intercalate, List.all_nil]

/-- The members of the object that a text holds, as texts. -/
def decodeObject (text : String) : Except Failure (List (String × String)) :=
  (readObject text.toList).map (·.map fun m => (String.ofList m.1, String.ofList m.2))

theorem decodeObject_jsonObject (members : List (String × String)) :
    decodeObject (String.ofList (Service.jsonObject members)) = .ok members := by
  rw [decodeObject, String.toList_ofList, readObject_jsonObject, Except.map, List.map_map]
  simp [Function.comp_def]

end Accessors.Json
