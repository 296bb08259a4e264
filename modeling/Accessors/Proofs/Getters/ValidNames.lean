import Accessors.Grammar.Lookahead
import Accessors.Proofs.Getters.Kept
import Accessors.Proofs.Getters.Words

/-!
# Names of getters are identifiers

The capitals of a getter's name come from the characters of its field's name. A capital may be up to
three characters, and all of them go on with an identifier, because the character that they are the
upper case of does. The mark in front begins the identifier.

* `isIdentifierContinue_of_mem_toUpper`: upper case does not leave the characters of identifiers.
* `IsPlainIdentifier`: the texts that a plain identifier can be made of.
* `getters_isPlainIdentifier`: the name of every getter is one of them.
-/

namespace Accessors.Text

/-- The set of characters that go on with an identifier. -/
def continueMask : Nat := rangeMask continueRanges

theorem isIdentifierContinue_eq_testBit (c : Char) :
    isIdentifierContinue c = continueMask.testBit c.toNat :=
  inRanges_eq_testBit continueRanges c

/-- What upper case makes of characters of identifiers: the expansions are made of them, and a run
that begins outside of them, such as the circled letters, is outside of them as a whole. -/
theorem upper_continue :
    (∀ e ∈ upperExpansions, e.2.all continueMask.testBit = true) ∧
    ∀ r ∈ upperRuns, pointMask r.images &&& continueMask = pointMask r.images ∨
      pointMask r.points &&& continueMask = 0 := by
  decide +kernel

/-- **Upper case does not leave the characters of identifiers.** -/
theorem isIdentifierContinue_of_mem_toUpper {c u : Char} (hc : isIdentifierContinue c = true)
    (hu : u ∈ toUpper c) : isIdentifierContinue u = true := by
  rw [toUpper] at hu
  rcases mapCase_cases upperExpansions upperRuns c with
    ⟨e, he, -, heq⟩ | ⟨r, hr, m, hm, heq⟩ | ⟨-, heq⟩
  · rw [heq, List.mem_map] at hu
    obtain ⟨n, hn, rfl⟩ := hu
    have hvalid : n.isValidChar := isValidChar_upper n (mem_images_of_expansion he hn)
    rw [isIdentifierContinue_eq_testBit, toNat_ofNat hvalid]
    exact List.all_eq_true.1 (upper_continue.1 e he) n hn
  · rw [heq, List.mem_singleton] at hu
    obtain ⟨hpoint, himage⟩ := CaseRun.map?_eq_some.1 hm
    rcases upper_continue.2 r hr with hstays | houtside
    · have hvalid : m.isValidChar := isValidChar_upper m (mem_images_of_run hr hm)
      rw [hu, isIdentifierContinue_eq_testBit, toNat_ofNat hvalid]
      exact testBit_of_and hstays (himage ▸ List.mem_map_of_mem hpoint)
    · -- The character would be in a run that has no characters of identifiers.
      have hboth : (pointMask r.points &&& continueMask).testBit c.toNat = true := by
        rw [Nat.testBit_and, testBit_pointMask.2 hpoint, ← isIdentifierContinue_eq_testBit, hc,
          Bool.true_and]
      rw [houtside, Nat.zero_testBit] at hboth
      cases hboth
  · rw [heq, List.mem_singleton] at hu
    rwa [hu]

/-- What begins an identifier goes on with one as well. -/
theorem isIdentifierContinue_of_start {c : Char} (h : isIdentifierStart c = true) :
    isIdentifierContinue c = true := by
  have hsubset : rangeMask startRanges &&& continueMask = rangeMask startRanges := by decide +kernel
  rw [isIdentifierStart, Bool.or_eq_true, beq_iff_eq] at h
  rcases h with rfl | h
  · decide +kernel
  · have hbit : (rangeMask startRanges &&& continueMask).testBit c.toNat = true := by
      rw [hsubset, ← inRanges_eq_testBit, h]
    rw [Nat.testBit_and, Bool.and_eq_true] at hbit
    rw [isIdentifierContinue_eq_testBit, hbit.2]

end Accessors.Text

namespace Accessors.Getters

open Accessors.Text Accessors.Token Accessors.Declaration

/-! ## Plain identifiers -/

/-- A text that a plain identifier can be made of: it begins and goes on as an identifier does, has
no mark of a raw one in front, is no word of the language, and is read as that one identifier. -/
structure IsPlainIdentifier (s : List Char) : Prop where
  name : IsName s
  plain : ¬ ['r', '#'] <+: s
  free : Grammar.Ident.isName ⟨String.ofList s, false⟩ = true
  read : Tree.ofText s = some [.leaf (.ident ⟨String.ofList s, false⟩)]

theorem isIdentifierContinue_of_mem_words {s w : List Char}
    (hs : ∀ c ∈ s, isIdentifierContinue c = true) (hw : w ∈ words s) :
    ∀ c ∈ w, isIdentifierContinue c = true :=
  forall_mem_words.2 (fun c hc => .inr (hs c hc)) w hw

/-- **Capitalized words go on with an identifier** if the text that they come from does. -/
theorem isIdentifierContinue_of_mem_upperCamelCase {s : List Char}
    (hs : ∀ c ∈ s, isIdentifierContinue c = true) {u : Char} (hu : u ∈ upperCamelCase s) :
    isIdentifierContinue u = true := by
  obtain ⟨w, hw, hmem⟩ := List.mem_flatMap.1 hu
  have hword := isIdentifierContinue_of_mem_words hs hw
  cases w with
  | nil => cases hmem
  | cons c rest =>
    rw [List.forall_mem_cons] at hword
    rcases List.mem_append.1 hmem with hupper | hrest
    · exact isIdentifierContinue_of_mem_toUpper hword.1 hupper
    · exact hword.2 u hrest

/-- The characters of a getter's name, when those of its field's name are characters of
identifiers. -/
theorem isIdentifierContinue_of_mem_methodName {s : List Char}
    (hs : ∀ c ∈ s, isIdentifierContinue c = true) (b : Bool) :
    ∀ u ∈ methodName b s, isIdentifierContinue u = true := by
  intro u hu
  rcases List.mem_append.1 hu with hmark | hwords
  · have hletters : ∀ b, (mark b).all isIdentifierContinue = true := by decide +kernel
    exact List.all_eq_true.1 (hletters b) u hmark
  · exact isIdentifierContinue_of_mem_upperCamelCase hs hwords

/-- The words of the language that begin like a getter's name. There are none. -/
theorem no_keyword_begins_with_mark (b : Bool) :
    ∀ w ∈ Grammar.keywords, ¬ mark b <+: w.toList := by
  revert b
  decide +kernel

/-! ## Reading a getter's name -/

theorem takeName_of_isName {s : List Char} (h : IsName s) : takeName s = some (s, []) := by
  obtain ⟨c, rest, rfl, hc, hrest⟩ := h
  have htake : rest.takeWhile isIdentifierContinue = rest := List.takeWhile_eq_self_iff.2 hrest
  have hdrop : rest.dropWhile isIdentifierContinue = [] := List.dropWhile_eq_nil_iff.2 hrest
  rw [takeName, if_pos hc, htake, hdrop]

theorem lexemes_nil : lexemes [] = some [] := by decide +kernel

/-- A name that begins with the letter of a mark is one lexeme: neither a blank, a comment, a
delimiter, a literal nor punctuation begins with that letter. -/
theorem lexemes_of_isName {c : Char} (hc : c = 'g' ∨ c = 'i') {rest : List Char}
    (h : IsName (c :: rest)) :
    lexemes (c :: rest) = some [.leaf (.ident ⟨String.ofList (c :: rest), false⟩)] := by
  have hliteral : dropLiteral (c :: rest) = none := by
    cases hd : dropLiteral (c :: rest) with
    | none => rfl
    | some _ =>
      have hbegins := beginsLiteral_of_dropLiteral hd
      rcases hc with rfl | rfl <;> exact absurd hbegins (by simp [BeginsLiteral]; decide)
  have hident : takeIdent (c :: rest) =
      some (⟨String.ofList (c :: rest), false⟩, []) := by
    have hquoted : quotedBeginnings.any (begins · (c :: rest)) = false := by
      rcases hc with rfl | rfl <;> rfl
    have hany : takeAnyIdent (c :: rest) = (takeName (c :: rest)).map fun r =>
        (⟨String.ofList r.1, false⟩, r.2) := by
      rcases hc with rfl | rfl <;> rfl
    rw [takeIdent, hquoted, hany, takeName_of_isName h]
    rfl
  have hleaf : takeLeaf (c :: rest) =
      some (.ident ⟨String.ofList (c :: rest), false⟩, []) := by
    rcases hc with rfl | rfl <;> simp [takeLeaf, hliteral, hident] <;> rfl
  have hblank : dropBlank (c :: rest) = c :: rest := by
    rcases hc with rfl | rfl <;> (rw [dropBlank]; rfl)
  have htake : takeLexemes (c :: rest) =
      some ([.leaf (.ident ⟨String.ofList (c :: rest), false⟩)], []) := by
    rcases hc with rfl | rfl <;> simp [takeLexemes, takeDoc, delimiter?, hleaf]
  rw [lexemes]
  simp [hblank, htake, lexemes_nil]

/-- **A getter's name is a plain identifier** if its field's name is made of characters of
identifiers. -/
theorem isPlainIdentifier_methodName {s : List Char} (hs : ∀ c ∈ s, isIdentifierContinue c = true)
    (b : Bool) : IsPlainIdentifier (methodName b s) := by
  obtain ⟨c, rest, hcons, hc⟩ : ∃ c rest, methodName b s = c :: rest ∧ (c = 'g' ∨ c = 'i') := by
    cases b with
    | true => exact ⟨'i', _, rfl, .inr rfl⟩
    | false => exact ⟨'g', _, rfl, .inl rfl⟩
  have hcontinue := isIdentifierContinue_of_mem_methodName hs b
  have hname : IsName (methodName b s) := by
    rw [hcons, List.forall_mem_cons] at hcontinue
    refine ⟨c, rest, hcons, ?_, hcontinue.2⟩
    rcases hc with rfl | rfl <;> decide +kernel
  refine ⟨hname, ?_, ?_, ?_⟩
  · rw [hcons]
    rcases hc with rfl | rfl <;> simp
  · have hfree : String.ofList (methodName b s) ∉ Grammar.keywords := fun hmem =>
      no_keyword_begins_with_mark b _ hmem (by rw [String.toList_ofList]; exact List.prefix_append _ _)
    simp [Grammar.Ident.isName, hfree]
  · have hlexemes := lexemes_of_isName hc (hcons ▸ hname)
    -- A name does not begin with a mark of byte order.
    have htext : Tree.ofText (c :: rest) = (lexemes (c :: rest)).bind Tree.ofLexemes := by
      rcases hc with rfl | rfl <;> rfl
    rw [hcons, htext, hlexemes]
    simp [Tree.ofLexemes, build]

/-! ## Getters -/

/-- The accessor of a field has the name that is made of the field's, and that is a plain
identifier. -/
def NamedPlainly (f : Field) (a : Property.Accessor) : Prop :=
  a.method = String.ofList (methodName f.isTruthValue f.name.name.toList) ∧
    IsPlainIdentifier a.method.toList

/-- **The name of every getter is a plain identifier.** Whatever declaration a text is and however
its kept fields are named, their getters can be named as they are. -/
theorem getters_isPlainIdentifier {source : String} {r : Derivation}
    (h : derive source = .ok r) :
    ∃ d, Declaration.ofText? source = some d ∧
      List.Forall₂ NamedPlainly (keptFields d) r.accessors := by
  obtain ⟨d, hd, -, -, -⟩ := derive_eq_ok h
  refine ⟨d, hd, ?_⟩
  rw [accessors_eq h hd, List.forall₂_map_right_iff, List.forall₂_same]
  intro f hf
  obtain ⟨c, rest, hname, hc, hrest⟩ : IsName f.name.name.toList :=
    ((sound_of_ofText hd).fields f (List.mem_of_mem_filter hf)).1
  have hcontinue : ∀ d ∈ f.name.name.toList, isIdentifierContinue d = true := by
    rw [hname, List.forall_mem_cons]
    exact ⟨isIdentifierContinue_of_start hc, hrest⟩
  refine ⟨rfl, ?_⟩
  rw [accessorOf, Getter.accessor, Getter.ofField, String.toList_ofList]
  exact isPlainIdentifier_methodName hcontinue _

/-- An underscore alone, a raw name, a letter whose capital is three characters, and a mark that
stands alone behind an underscore. -/
theorem getters_isPlainIdentifier_odd :
    ∃ r d, derive "struct S \x7b _: bool, r#fn: u8, a_\u0390: u8, x_\u0345: bool \x7d" = .ok r ∧
      Declaration.ofText? "struct S \x7b _: bool, r#fn: u8, a_\u0390: u8, x_\u0345: bool \x7d" = some d ∧
      List.Forall₂ NamedPlainly (keptFields d) r.accessors ∧
      r.accessors.map (·.method) = ["is", "getFn", "getA\u0399\u0308\u0301", "isX\u0399"] := by
  obtain ⟨r, hr, haccessors⟩ := exists_derivation
    "struct S \x7b _: bool, r#fn: u8, a_\u0390: u8, x_\u0345: bool \x7d"
    [⟨"S", "is"⟩, ⟨"S", "getFn"⟩, ⟨"S", "getA\u0399\u0308\u0301"⟩, ⟨"S", "isX\u0399"⟩] (by decide +kernel)
  obtain ⟨d, hd, hall⟩ := getters_isPlainIdentifier hr
  exact ⟨r, d, hr, hd, hall, by rw [haccessors]; rfl⟩

end Accessors.Getters
