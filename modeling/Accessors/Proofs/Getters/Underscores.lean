import Mathlib.Logic.Relation
import Accessors.Proofs.Getters.Kept
import Accessors.Proofs.Getters.Words

/-!
# Underscores only separate

A getter is named after the words of its field's name, so an underscore counts where it separates two
words and nowhere else. Names that differ by other underscores have one getter.

* `upperCamelCase_append`: the words on the two sides of an underscore are capitalized apart.
* `upperCamelCase_upperCamelCase`: a name without underscores that begins with a capital stays as it is.
* `respaced_iff`: two names differ by such underscores exactly if their words are the same, the empty
  ones apart.
* `underscores_only_separate`: what underscores do to a name, and to the getters of a structure.
-/

namespace Accessors.Getters

open Accessors.Declaration
open Accessors.Text

/-! ## A cut at an underscore -/

theorem words_eq_splitOn (s : List Char) : words s = s.splitOn '_' := by
  rw [List.splitOn_eq_splitOnP]
  induction s with
  | nil => rfl
  | cons c rest ih =>
    rw [List.splitOnP_cons_eq_if_modifyHead, ← ih]
    by_cases hc : c = '_'
    · subst hc
      rw [words_underscore]
      rfl
    · obtain ⟨first, others, hrest, hwords⟩ := words_cons hc rest
      rw [hwords, hrest, if_neg (by simpa using hc)]
      rfl

/-- **Words end at an underscore.** -/
theorem words_append (s t : List Char) : words (s ++ '_' :: t) = words s ++ words t := by
  simp only [words_eq_splitOn, List.splitOn_eq_splitOnP]
  exact List.splitOnP_append_cons s t rfl

/-- A text without underscores is one word. -/
theorem words_of_notMem {s : List Char} (h : '_' ∉ s) : words s = [s] := by
  rw [words_eq_splitOn, List.splitOn_eq_splitOnP]
  refine List.splitOnP_eq_singleton fun c hc => ?_
  rw [beq_eq_false_iff_ne]
  rintro rfl
  exact h hc

theorem upperCamelCase_append (s t : List Char) :
    upperCamelCase (s ++ '_' :: t) = upperCamelCase s ++ upperCamelCase t := by
  rw [upperCamelCase, words_append, List.flatMap_append]
  rfl

theorem upperCamelCase_of_notMem {s : List Char} (h : '_' ∉ s) : upperCamelCase s = capitalize s := by
  rw [upperCamelCase, words_of_notMem h, List.flatMap_singleton]

/-! ## What is left of a name -/

theorem capitalize_eq_nil_iff (w : List Char) : capitalize w = [] ↔ w = [] := by
  cases w with
  | nil => simp [capitalize]
  | cons c rest => simp [capitalize, toUpper_ne_nil]

theorem upperCamelCase_eq_nil_iff (s : List Char) : upperCamelCase s = [] ↔ ∀ c ∈ s, c = '_' := by
  have hwords : (∀ w ∈ words s, w = []) ↔ ∀ c ∈ s, c = '_' ∨ False := by
    rw [← forall_mem_words]
    simp only [List.eq_nil_iff_forall_not_mem]
  simp only [upperCamelCase, List.flatMap_eq_nil_iff, capitalize_eq_nil_iff, hwords, or_false]

/-- **A capitalized name stays as it is**: it is one word, and its first character is a capital. -/
theorem upperCamelCase_upperCamelCase (s : List Char) :
    upperCamelCase (upperCamelCase s) = upperCamelCase s := by
  rw [upperCamelCase_of_notMem (underscore_notMem_upperCamelCase s)]
  cases hname : upperCamelCase s with
  | nil => rfl
  | cons c rest =>
    have hcapital : IsCapital c := isCapital_of_upperCamelCase hname
    rw [capitalize, toUpper_of_isCapital hcapital, List.singleton_append]

/-! ## Underscores that separate nothing -/

/-- A place in a name, with what is in front of it and what is behind, where an underscore separates
nothing: an end of the name, or a place beside another underscore. -/
inductive Boundary : List Char → List Char → Prop
  | front (t : List Char) : Boundary [] t
  | back (s : List Char) : Boundary s []
  | behind (s t : List Char) : Boundary (s ++ ['_']) t
  | before (s t : List Char) : Boundary s ('_' :: t)

/-- The second name has one more underscore, at a boundary. -/
inductive Padded : List Char → List Char → Prop
  | insert {s t : List Char} (h : Boundary s t) : Padded (s ++ t) (s ++ '_' :: t)

/-- One name is made of the other by underscores that are put in and taken out at boundaries. -/
def Respaced : List Char → List Char → Prop := Relation.EqvGen Padded

/-- The words of a name that are not empty. -/
def filledWords (s : List Char) : List (List Char) := (words s).filter (!·.isEmpty)

theorem filledWords_append (s t : List Char) :
    filledWords (s ++ '_' :: t) = filledWords s ++ filledWords t := by
  rw [filledWords, words_append, List.filter_append]
  rfl

theorem filledWords_underscore (t : List Char) : filledWords ('_' :: t) = filledWords t :=
  filledWords_append [] t

theorem filledWords_insert {s t : List Char} (h : Boundary s t) :
    filledWords (s ++ '_' :: t) = filledWords (s ++ t) := by
  cases h with
  | front => exact filledWords_underscore t
  | back =>
    rw [filledWords_append, List.append_nil]
    exact List.append_nil _
  | behind s t =>
    rw [List.append_assoc, List.append_assoc, List.singleton_append, List.singleton_append,
      filledWords_append, filledWords_append, filledWords_underscore]
  | before s t => rw [filledWords_append, filledWords_append, filledWords_underscore]

/-- Respaced names have the same words. -/
theorem filledWords_eq_of_respaced {s t : List Char} (h : Respaced s t) :
    filledWords s = filledWords t := by
  induction h with
  | rel s t hstep =>
    obtain ⟨hboundary⟩ := hstep
    exact (filledWords_insert hboundary).symm
  | refl s => rfl
  | symm s t _ ih => exact ih.symm
  | trans s t u _ _ ihst ihtu => exact ihst.trans ihtu

/-- The words of a name that are not empty make the getter's name. -/
theorem upperCamelCase_eq_flatMap_filledWords (s : List Char) :
    upperCamelCase s = (filledWords s).flatMap capitalize := by
  rw [upperCamelCase, filledWords]
  induction words s with
  | nil => rfl
  | cons w ws ih =>
    cases w with
    | nil => exact ih
    | cons c rest => rw [List.filter_cons_of_pos rfl, List.flatMap_cons, List.flatMap_cons, ih]

theorem upperCamelCase_eq_of_respaced {s t : List Char} (h : Respaced s t) :
    upperCamelCase s = upperCamelCase t := by
  rw [upperCamelCase_eq_flatMap_filledWords, upperCamelCase_eq_flatMap_filledWords,
    filledWords_eq_of_respaced h]

/-! ## Names with the same words -/

/-- Words with one underscore between any two of them. -/
def joinWords (ws : List (List Char)) : List Char := ['_'].intercalate ws

theorem joinWords_words (s : List Char) : joinWords (words s) = s := by
  rw [joinWords, words_eq_splitOn]
  exact List.intercalate_splitOn '_'

theorem joinWords_singleton (w : List Char) : joinWords [w] = w := List.intercalate_singleton

theorem joinWords_cons (w : List Char) {ws : List (List Char)} (h : ws ≠ []) :
    joinWords (w :: ws) = w ++ '_' :: joinWords ws := by
  obtain ⟨v, vs, rfl⟩ := List.exists_cons_of_ne_nil h
  rw [joinWords, List.intercalate_cons_cons, List.append_assoc]
  rfl

/-- Behind an underscore a boundary stays one, whatever is put in front. -/
theorem Boundary.append {s t : List Char} (h : Boundary s t) (w : List Char) :
    Boundary (w ++ '_' :: s) t := by
  cases h with
  | front => exact .behind w t
  | back => exact .back _
  | behind s t =>
    have hassoc : w ++ '_' :: (s ++ ['_']) = (w ++ '_' :: s) ++ ['_'] := by simp
    rw [hassoc]
    exact .behind _ t
  | before s t => exact .before _ t

theorem Respaced.append {s t : List Char} (h : Respaced s t) (w : List Char) :
    Respaced (w ++ '_' :: s) (w ++ '_' :: t) := by
  induction h with
  | rel s t hstep =>
    obtain ⟨hboundary⟩ := hstep
    have hpadded := Padded.insert (hboundary.append w)
    simp only [List.append_assoc, List.cons_append] at hpadded
    exact .rel _ _ hpadded
  | refl s => exact .refl _
  | symm s t _ ih => exact .symm _ _ ih
  | trans s t u _ _ ihst ihtu => exact .trans _ _ _ ihst ihtu

theorem respaced_joinWords (ws : List (List Char)) :
    Respaced (joinWords ws) (joinWords (ws.filter (!·.isEmpty))) := by
  induction ws with
  | nil => exact .refl _
  | cons w ws ih =>
    by_cases hws : ws = []
    · subst hws
      cases w <;> exact .refl _
    · rw [joinWords_cons w hws]
      cases w with
      | nil =>
        -- The underscore is in front of the name.
        have hfront := Padded.insert (.front (joinWords ws))
        exact .trans _ _ _ (.symm _ _ (.rel _ _ hfront)) ih
      | cons c w =>
        rw [List.filter_cons_of_pos rfl]
        have hbehind := ih.append (c :: w)
        by_cases hfilled : ws.filter (!·.isEmpty) = []
        · -- All words behind it are empty, and so the underscore is the last of the name.
          have hback := Padded.insert (.back (c :: w))
          rw [List.append_nil] at hback
          rw [hfilled] at hbehind ⊢
          rw [joinWords_singleton]
          exact .trans _ _ _ hbehind (.symm _ _ (.rel _ _ hback))
        · rw [joinWords_cons (c :: w) hfilled]
          exact hbehind

/-- **Names are respaced exactly if their words are the same**, the empty ones apart. -/
theorem respaced_iff {s t : List Char} : Respaced s t ↔ filledWords s = filledWords t := by
  have hfilled (u : List Char) : Respaced u (joinWords (filledWords u)) := by
    conv_lhs => rw [← joinWords_words u]
    exact respaced_joinWords (words u)
  constructor
  · exact filledWords_eq_of_respaced
  · intro h
    have hs := hfilled s
    rw [h] at hs
    exact .trans _ _ _ hs (.symm _ _ (hfilled t))

instance : DecidableRel Respaced := fun _ _ => decidable_of_iff _ respaced_iff.symm

/-! ## Getters -/

theorem methodName_eq_of_respaced {s t : List Char} (h : Respaced s t) (truthValue : Bool) :
    methodName truthValue s = methodName truthValue t := by
  rw [methodName, methodName, upperCamelCase_eq_of_respaced h]

/-- The kept fields of two declarations are the same, as far as getters are named after them: they hold
truth values at the same places, and their names are respaced. -/
def RespacedFields (d d' : Accessors.Declaration) : Prop :=
  List.Forall₂ (fun f g => f.isTruthValue = g.isTruthValue ∧
    Respaced f.name.name.toList g.name.name.toList) (keptFields d) (keptFields d')

instance : DecidableRel RespacedFields := fun _ _ => inferInstanceAs (Decidable (List.Forall₂ _ _ _))

theorem methods_eq_of_respacedFields {d d' : Accessors.Declaration} (h : RespacedFields d d') :
    (keptFields d).map (fun f => (Getter.ofField f).method) =
      (keptFields d').map (fun f => (Getter.ofField f).method) := by
  rw [← List.forall₂_eq_eq_eq, List.forall₂_map_left_iff, List.forall₂_map_right_iff]
  refine h.imp ?_
  rintro f g ⟨hkind, hname⟩
  have hmethod := methodName_eq_of_respaced hname g.isTruthValue
  rw [Getter.ofField, Getter.ofField, hkind, hmethod]

/-! ## Main result -/

/-- What becomes of a name. -/
structure CamelCased (s : List Char) : Prop where
  /-- What is on the two sides of an underscore is capitalized apart. -/
  cut : ∀ t, upperCamelCase (s ++ '_' :: t) = upperCamelCase s ++ upperCamelCase t
  /-- A name that is not cut gets its first character in upper case and keeps the others. -/
  word : '_' ∉ s → upperCamelCase s = capitalize s
  noUnderscore : '_' ∉ upperCamelCase s
  /-- Nothing is left of underscores, and something of anything else. -/
  empty : upperCamelCase s = [] ↔ ∀ c ∈ s, c = '_'
  idempotent : upperCamelCase (upperCamelCase s) = upperCamelCase s
  /-- The getter keeps its name if underscores are put in or taken out at boundaries. -/
  respaced : ∀ t, Respaced s t → ∀ truthValue, methodName truthValue s = methodName truthValue t

/-- **Underscores only separate words.** A name is put together of what is between its underscores, none
of them is left, and fields whose names differ by underscores at the ends or beside one another have
getters of the same names. -/
theorem underscores_only_separate :
    (∀ s, CamelCased s) ∧ ∀ {source source' : String} {r r' : Derivation} {d d' : Accessors.Declaration},
      derive source = .ok r → derive source' = .ok r' →
      Declaration.ofText? source = some d → Declaration.ofText? source' = some d' →
      RespacedFields d d' → r.accessors.map (·.method) = r'.accessors.map (·.method) := by
  constructor
  · intro s
    exact {
      cut := upperCamelCase_append s
      word := upperCamelCase_of_notMem
      noUnderscore := underscore_notMem_upperCamelCase s
      empty := upperCamelCase_eq_nil_iff s
      idempotent := upperCamelCase_upperCamelCase s
      respaced := fun _ => methodName_eq_of_respaced }
  · intro source source' r r' d d' h h' hd hd' hfields
    have hmethods := methods_eq_of_respacedFields hfields
    rw [accessors_eq h hd, accessors_eq h' hd', List.map_map, List.map_map]
    exact hmethods

/-- Underscores at the ends and beside others, a word that is no ASCII, and a name of underscores only. -/
theorem underscores_only_separate_odd :
    ∃ source source' r r' d d',
      source = "struct S \x7b user_name: u8, \u00dfon: bool, _: u8 \x7d" ∧
      source' = "struct S \x7b __user___name_: u16, _\u00dfon: bool, ____: u8 \x7d" ∧
      derive source = .ok r ∧ derive source' = .ok r' ∧
      Declaration.ofText? source = some d ∧ Declaration.ofText? source' = some d' ∧
      RespacedFields d d' ∧ r.accessors.map (·.method) = r'.accessors.map (·.method) ∧
      r.accessors.map (·.method) = ["getUserName", "isSSon", "get"] := by
  have hfields : ((Declaration.ofText? "struct S \x7b user_name: u8, \u00dfon: bool, _: u8 \x7d").any
      fun d => (Declaration.ofText?
        "struct S \x7b __user___name_: u16, _\u00dfon: bool, ____: u8 \x7d").any
          fun d' => decide (RespacedFields d d')) = true := by
    decide +kernel
  obtain ⟨d, hd, hfields⟩ := (Option.any_eq_true _ _).1 hfields
  obtain ⟨d', hd', hfields⟩ := (Option.any_eq_true _ _).1 hfields
  have hrespaced : RespacedFields d d' := of_decide_eq_true hfields
  obtain ⟨r, h, hr⟩ := exists_derivation "struct S \x7b user_name: u8, \u00dfon: bool, _: u8 \x7d"
    [⟨"S", "getUserName"⟩, ⟨"S", "isSSon"⟩, ⟨"S", "get"⟩] (by decide +kernel)
  obtain ⟨r', h', -⟩ := exists_derivation
    "struct S \x7b __user___name_: u16, _\u00dfon: bool, ____: u8 \x7d"
    [⟨"S", "getUserName"⟩, ⟨"S", "isSSon"⟩, ⟨"S", "get"⟩] (by decide +kernel)
  exact ⟨_, _, r, r', d, d', rfl, rfl, h, h', hd, hd', hrespaced,
    underscores_only_separate.2 h h' hd hd' hrespaced, by rw [hr]; rfl⟩

end Accessors.Getters
