import Accessors.Proofs.Getters.CamelCase
import Accessors.Proofs.Property.FixedNames

/-!
# Property names that methods could have

A method's name is checked before its property is told, and the property's name is not checked again.
It consists of the same characters but for the first one, which is brought to lower case. The lower case
of a letter is a letter, but for one capital with a dot: its lower case keeps the dot as a mark of its
own, which no method's name can have.

* `name_toLower`: lower case keeps the characters of names, but for that capital.
* `Dotted`: the functions whose property begins with it.
* `resolved_names_renamed`: the names that are told consist of the characters of names, and `get` in
  front makes them methods of any type again, exactly if the function is not dotted.
-/

namespace Accessors.Text

/-- An underscore, a letter or a number. -/
def InName (c : Char) : Prop := c = '_' ∨ isAlphanumeric c = true

/-- The dot of the capital is a mark of its own in lower case. -/
theorem toLower_dotted : toLower '\u0130' = ['i', '\u0307'] := by decide +kernel

theorem not_inName_dot : ¬ InName '\u0307' := by
  have hmark : isAlphanumeric '\u0307' = false := by decide +kernel
  simp [InName, hmark]

/-- **Lower case keeps the characters of names**, but for the capital with a dot. -/
theorem name_toLower {c : Char} (h : InName c) :
    (∀ u ∈ toLower c, InName u) ↔ c ≠ '\u0130' := by
  rw [toLower]
  rcases mapCase_cases lowerExpansions lowerRuns c with
    ⟨e, he, hkey, hc⟩ | ⟨r, hr, m, hm, hc⟩ | ⟨hn, hc⟩
  · -- There is one expansion, that of the capital.
    obtain rfl : e = (0x130, [0x69, 0x307]) := by simpa [lowerExpansions] using he
    have hdotted : c = '\u0130' := by rw [← Char.ofNat_toNat c, hkey]
    refine iff_of_false (fun hall => ?_) (not_not.2 hdotted)
    exact not_inName_dot (hall '\u0307' (by rw [hc]; simp))
  · obtain ⟨hn, hmn⟩ := CaseRun.map?_eq_some.1 hm
    have himage : m ∈ lowerRuns.flatMap CaseRun.images :=
      List.mem_flatMap.2 ⟨r, hr, hmn ▸ List.mem_map_of_mem hn⟩
    have hvalid : m.isValidChar := isValidChar_lower m (mem_images_of_run hr hm)
    have hletter : isAlphanumeric (Char.ofNat m) = true := by
      rw [isAlphanumeric_eq_testBit, toNat_ofNat hvalid]
      exact testBit_of_and (CaseTables.lowerRunImages caseTables) himage
    refine iff_of_true (fun u hu => ?_) ?_
    · rw [hc, List.mem_singleton] at hu
      exact hu ▸ .inr hletter
    · rintro rfl
      have hone := toLower_dotted.symm.trans hc
      simp at hone
  · refine iff_of_true (fun u hu => ?_) ?_
    · rw [hc, List.mem_singleton] at hu
      rwa [hu]
    · rintro rfl
      have hone := toLower_dotted.symm.trans hc
      simp at hone

end Accessors.Text

namespace Accessors.Property

open Accessors.Text

/-- A function that is known is known by a method's name, however it is wrapped. -/
theorem isMethodName_of_identify {f : Callable} {a : Accessor} (h : f.identify = .ok a) :
    isMethodName a.method.toList = true := by
  induction f with
  | accessor b =>
    obtain ⟨hname, rfl⟩ := Accessor.identify_eq_ok.1 h
    exact hname
  | reference r =>
    obtain ⟨hname, rfl⟩ := Accessor.identify_eq_ok.1 h
    exact hname
  | pointer subject => cases h
  | borrowed inner ih => exact ih h
  | dynamic inner ih => exact ih h

/-- The method of the function has the capital with a dot behind its mark. -/
def Dotted (f : Callable) : Prop :=
  ∃ a rest, f.identify = .ok a ∧
    (a.method.toList = ['g', 'e', 't'] ++ '\u0130' :: rest ∨
      a.method.toList = ['i', 's'] ++ '\u0130' :: rest)

/-- What a function that tells a name has for its method: a mark, and behind it a character that the
name has in lower case, and the rest of the name. All of these are characters of names. -/
theorem parts_of_resolved {f : Callable} {n : PropertyName} (h : (tryResolve f).value = .ok n) :
    ∃ a c rest, f.identify = .ok a ∧
      (a.method.toList = getMark ++ c :: rest ∨ a.method.toList = isMark ++ c :: rest) ∧
      (∀ d ∈ c :: rest, InName d) ∧ n.text.toList = toLower c ++ rest := by
  rcases resolution_cases f with ⟨a, m, ha, hm, htry, -⟩ | ⟨a, e, -, -, htry, -⟩ | ⟨r, -, htry, -⟩
  · rw [htry] at h
    cases h
    obtain ⟨behind, hunmark, hblank, htext⟩ := propertyName_eq_ok.1 hm
    have hmark := unmark?_eq_some.1 hunmark
    have hname := isMethodName_of_identify ha
    have hall : ∀ d ∈ behind, InName d := by
      rcases hmark with hget | his
      · exact (Getters.isMethodName_mark_iff false behind).1 (hget ▸ hname)
      · exact (Getters.isMethodName_mark_iff true behind).1 (his ▸ hname)
    cases behind with
    | nil => cases hblank
    | cons c rest => exact ⟨a, c, rest, ha, hmark, hall, htext⟩
  · rw [htry] at h
    cases h
  · rw [htry] at h
    cases h

theorem exists_method_of_resolved {f : Callable} {n : PropertyName}
    (h : (tryResolve f).value = .ok n) : ∃ method, propertyName method = .ok n := by
  rcases resolution_cases f with ⟨a, m, -, hm, htry, -⟩ | ⟨a, e, -, -, htry, -⟩ | ⟨r, -, htry, -⟩ <;>
    rw [htry] at h <;> cases h
  exact ⟨_, hm⟩

/-- A method that is named after a text has the name of one exactly if the text has the characters of
names only. -/
theorem isMethodName_get {text : String} :
    isMethodName ("get" ++ text).toList = true ↔ ∀ c ∈ text.toList, InName c := by
  rw [String.toList_append]
  exact Getters.isMethodName_mark_iff false text.toList

theorem introspect_accessor (a : Accessor) : introspect (.accessor a) =
    if isMethodName a.method.toList = true then .ok a
    else .error (.introspection ("'" ++ a.method ++ "' on " ++ a.owner ++ " is not a method name")) := by
  rw [introspect, Callable.identify, Accessor.identify]
  cases isMethodName a.method.toList <;> rfl

/-- What a name that a function tells consists of. -/
structure Renamed (f : Callable) (n : PropertyName) : Prop where
  nonempty : n.text ≠ ""
  /-- It has the characters of names only, unless the function is dotted. -/
  characters : (∀ c ∈ n.text.toList, c = '_' ∨ isAlphanumeric c = true) ↔ ¬ Dotted f
  /-- Then, on every type, the method that is named after it is known and tells it again. -/
  again : ¬ Dotted f → ∀ owner,
    introspect (.accessor ⟨owner, "get" ++ n.text⟩) = .ok ⟨owner, "get" ++ n.text⟩ ∧
    (tryResolve (.accessor ⟨owner, "get" ++ n.text⟩)).value = .ok n
  /-- The name of a dotted function has the dot for its second character and no other one that is out of
  place, and no type has a method that is named after it. -/
  dotted : Dotted f → (∃ rest, n.text.toList = 'i' :: '\u0307' :: rest ∧
      ∀ c ∈ rest, c = '_' ∨ isAlphanumeric c = true) ∧
    ∀ owner, introspect (.accessor ⟨owner, "get" ++ n.text⟩) =
      .error (.introspection ("'" ++ ("get" ++ n.text) ++ "' on " ++ owner ++ " is not a method name"))

/-- **The names that are told could name methods again**, with `get` in front and on any type, unless
they begin with a capital whose dot is left over. -/
theorem resolved_names_renamed {f : Callable} {n : PropertyName} (h : (tryResolve f).value = .ok n) :
    Renamed f n := by
  obtain ⟨a, c, rest, ha, hmark, hall, htext⟩ := parts_of_resolved h
  obtain ⟨hc, hrest⟩ := List.forall_mem_cons.1 hall
  have hdotted : Dotted f ↔ c = '\u0130' := by
    constructor
    · rintro ⟨b, others, hb, hbmark⟩
      obtain rfl : b = a := Except.ok.inj (hb.symm.trans ha)
      -- The marks exclude each other, so the character behind the mark is one.
      have hunmark : unmark? b.method.toList = some (c :: rest) := unmark?_eq_some.2 hmark
      have hunmark' : unmark? b.method.toList = some ('\u0130' :: others) := unmark?_eq_some.2 hbmark
      have hsame := Option.some.inj (hunmark.symm.trans hunmark')
      exact (List.cons.inj hsame).1
    · rintro rfl
      exact ⟨a, rest, ha, hmark⟩
  have hchars : (∀ d ∈ n.text.toList, InName d) ↔ ¬ Dotted f := by
    rw [htext, List.forall_mem_append, and_iff_left hrest, name_toLower hc, hdotted]
  have hname : IsPropertyName n.text := by
    obtain ⟨method, hmethod⟩ := exists_method_of_resolved h
    exact isPropertyName_of_propertyName hmethod
  refine ⟨fun hempty => ?_, hchars, fun hno owner => ?_, fun hyes => ⟨?_, fun owner => ?_⟩⟩
  · have hblank := hname.notBlank
    rw [hempty] at hblank
    cases hblank
  · have hknown : introspect (.accessor ⟨owner, "get" ++ n.text⟩) = .ok ⟨owner, "get" ++ n.text⟩ := by
      rw [introspect_accessor, if_pos (isMethodName_get.2 (hchars.2 hno))]
    refine ⟨hknown, ?_⟩
    rw [tryResolve, hknown]
    simp only [resolveAccessor, propertyName_get hname]
  · rw [hdotted.1 hyes, toLower_dotted] at htext
    exact ⟨rest, htext, hrest⟩
  · rw [introspect_accessor, if_neg (mt isMethodName_get.1 (mt hchars.1 (not_not.2 hyes)))]

/-- A reference behind a borrow tells a name that begins with a letter with an accent, and the method
that is named after it is known. A dotted function tells a name that begins with a letter and a dot. -/
theorem resolved_names_renamed_accented :
    let f := Callable.borrowed (.dynamic (.reference ⟨⟨"Stra\u00dfe", "is\u00c4rger"⟩⟩))
    let g := Callable.accessor ⟨"S", "get\u0130d"⟩
    (tryResolve f).value = .ok ⟨"\u00e4rger"⟩ ∧ Renamed f ⟨"\u00e4rger"⟩ ∧ ¬ Dotted f ∧
      (tryResolve g).value = .ok ⟨"i\u0307d"⟩ ∧ Renamed g ⟨"i\u0307d"⟩ ∧ Dotted g := by
  intro f g
  have hf : (tryResolve f).value = .ok ⟨"\u00e4rger"⟩ := by decide +kernel
  have hg : (tryResolve g).value = .ok ⟨"i\u0307d"⟩ := by decide +kernel
  have hall : "\u00e4rger".toList.all isAlphanumeric = true := by decide +kernel
  have hletters : ∀ c ∈ "\u00e4rger".toList, c = '_' ∨ isAlphanumeric c = true :=
    fun c hc => .inr (List.all_eq_true.1 hall c hc)
  have hf' := resolved_names_renamed hf
  refine ⟨hf, hf', hf'.characters.1 hletters, hg, resolved_names_renamed hg, ?_⟩
  exact ⟨⟨"S", "get\u0130d"⟩, ['d'], by decide +kernel, .inl (by decide +kernel)⟩

/-- **A name that is told need not name a method again.** A method of a good name tells it, its second
character is neither an underscore nor a letter or number, and `get` in front of it is no method's
name. -/
theorem resolved_name_with_a_dot :
    (tryResolve (.accessor ⟨"S", "get\u0130"⟩)).value = .ok ⟨"i\u0307"⟩ ∧
      ¬ (∀ c ∈ "i\u0307".toList, c = '_' ∨ isAlphanumeric c = true) ∧
      introspect (.accessor ⟨"S", "get" ++ "i\u0307"⟩) =
        .error (.introspection "'geti\u0307' on S is not a method name") := by
  refine ⟨by decide +kernel, fun hall => ?_, by decide +kernel⟩
  exact not_inName_dot (hall '\u0307' (by decide))

end Accessors.Property
