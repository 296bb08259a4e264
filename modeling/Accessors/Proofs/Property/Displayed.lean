import Accessors.Proofs.Property.Renamed

/-!
# Accessors in the log

The log names an accessor by its type and its method, with two colons between them. A type may have
colons anywhere and end with one, so texts of other accessors can look the same. The name of a method
has no colon, so where the method is known the last two colons are those between the names.

* `splitLast?_eq_some`: a text is cut where a separator stands for the last time.
* `splitLast?_display`: the two names of a known accessor are read off the text that shows it.
* `display_told_apart`: what the log and the shown texts tell about two accessors.
-/

namespace Accessors.Text

/-! ## The last separator -/

/-- The parts of a text before and behind the last place where a separator stands. -/
def splitLast? (separator : List Char) : List Char → Option (List Char × List Char)
  | [] => (after? separator []).map fun behind => ([], behind)
  | c :: rest =>
    match splitLast? separator rest with
    | some (before, behind) => some (c :: before, behind)
    | none => (after? separator (c :: rest)).map fun behind => ([], behind)

/-- The separator stands between the two parts of the text, and nowhere later. -/
structure CutLast (separator s before behind : List Char) : Prop where
  whole : s = before ++ separator ++ behind
  last : ∀ b a, s = b ++ separator ++ a → b.length ≤ before.length

theorem CutLast.unique {separator s b a b' a' : List Char} (h : CutLast separator s b a)
    (h' : CutLast separator s b' a') : b = b' ∧ a = a' := by
  have hlength : b.length = b'.length := Nat.le_antisymm (h'.last _ _ h.whole) (h.last _ _ h'.whole)
  have hwhole : b ++ (separator ++ a) = b' ++ (separator ++ a') := by
    rw [← List.append_assoc, ← List.append_assoc, ← h.whole, ← h'.whole]
  obtain ⟨hbefore, hbehind⟩ := List.append_inj hwhole hlength
  exact ⟨hbefore, List.append_cancel_left hbehind⟩

/-- A separator in a text stands at its beginning, or in what is behind the first character. -/
theorem eq_nil_or_behind {separator rest b a : List Char} {c : Char}
    (h : c :: rest = b ++ separator ++ a) :
    b = [] ∨ ∃ b', b = c :: b' ∧ rest = b' ++ separator ++ a := by
  cases b with
  | nil => exact .inl rfl
  | cons d b' =>
    obtain ⟨rfl, hrest⟩ := List.cons.inj h
    exact .inr ⟨b', rfl, hrest⟩

/-- A separator that can only stand at the beginning of a text is looked for there. -/
theorem cutLast_of_after {separator s behind : List Char} (h : after? separator s = some behind)
    (hfirst : ∀ b a, s = b ++ separator ++ a → b = []) : CutLast separator s [] behind where
  whole := after?_eq_some.1 h
  last b a hab := by rw [hfirst b a hab]

theorem nowhere_of_after {separator s : List Char} (h : after? separator s = none)
    (hfirst : ∀ b a, s = b ++ separator ++ a → b = []) (b a : List Char) :
    s ≠ b ++ separator ++ a := by
  intro hab
  rw [hfirst b a hab, List.nil_append] at hab
  rw [after?_eq_some.2 hab] at h
  cases h

theorem splitLast?_cases (separator s : List Char) :
    (∃ before behind, splitLast? separator s = some (before, behind) ∧
      CutLast separator s before behind) ∨
    (splitLast? separator s = none ∧ ∀ b a, s ≠ b ++ separator ++ a) := by
  induction s with
  | nil =>
    have hfirst (b a : List Char) (hab : [] = b ++ separator ++ a) : b = [] := by
      rw [eq_comm, List.append_eq_nil_iff, List.append_eq_nil_iff] at hab
      exact hab.1.1
    rw [splitLast?]
    cases h : after? separator [] with
    | none => exact .inr ⟨rfl, nowhere_of_after h hfirst⟩
    | some behind => exact .inl ⟨[], behind, rfl, cutLast_of_after h hfirst⟩
  | cons c rest ih =>
    rw [splitLast?]
    rcases ih with ⟨before, behind, hsplit, hcut⟩ | ⟨hsplit, hnowhere⟩
    · rw [hsplit]
      refine .inl ⟨c :: before, behind, rfl, congrArg (c :: ·) hcut.whole, fun b a hab => ?_⟩
      rcases eq_nil_or_behind hab with rfl | ⟨b', rfl, hrest⟩
      · exact Nat.zero_le _
      · exact Nat.succ_le_succ (hcut.last b' a hrest)
    · have hfirst (b a : List Char) (hab : c :: rest = b ++ separator ++ a) : b = [] := by
        rcases eq_nil_or_behind hab with hb | ⟨b', -, hrest⟩
        · exact hb
        · exact absurd hrest (hnowhere b' a)
      rw [hsplit]
      cases h : after? separator (c :: rest) with
      | none => exact .inr ⟨rfl, nowhere_of_after h hfirst⟩
      | some behind => exact .inl ⟨[], behind, rfl, cutLast_of_after h hfirst⟩

/-- **A text is cut where the separator stands for the last time.** -/
theorem splitLast?_eq_some {separator s before behind : List Char} :
    splitLast? separator s = some (before, behind) ↔ CutLast separator s before behind := by
  rcases splitLast?_cases separator s with ⟨b, a, hsplit, hcut⟩ | ⟨hsplit, hnowhere⟩
  · rw [hsplit, Option.some.injEq, Prod.mk.injEq]
    constructor
    · rintro ⟨rfl, rfl⟩
      exact hcut
    · exact hcut.unique
  · rw [hsplit]
    exact iff_of_false (by simp) fun h => hnowhere before behind h.whole

end Accessors.Text

namespace Accessors.Property

open Accessors.Text

/-! ## Accessors as they are shown -/

/-- What is shown between a type and a method. -/
def colons : List Char := [':', ':']

theorem toList_display (a : Accessor) :
    a.display.toList = a.owner.toList ++ colons ++ a.method.toList := by
  rw [Accessor.display, String.toList_append, String.toList_append]
  rfl

theorem colon_notMem_of_isMethodName {s : List Char} (h : isMethodName s = true) : ':' ∉ s := by
  have hletter : isAlphabetic ':' = false := by decide +kernel
  have hnumber : isAlphanumeric ':' = false := by decide +kernel
  cases s with
  | nil => exact List.not_mem_nil
  | cons c rest =>
    intro hmem
    refine absurd h (Bool.not_eq_true _ ▸ misnamed_iff.1 ?_)
    rcases List.mem_cons.1 hmem with rfl | hmem
    · exact .first rest (by decide) hletter
    · exact .later c hmem (by decide) hnumber

/-- Two colons that stand later than those in front of a text reach into it. -/
theorem cutLast_colons {owner method : List Char} (h : ':' ∉ method) :
    CutLast colons (owner ++ colons ++ method) owner method where
  whole := rfl
  last b a hab := by
    by_contra hlater
    rw [Nat.not_le] at hlater
    -- The second one is at least two places behind the owner.
    have hcolon : (owner ++ colons ++ method)[b.length + 1]? = some ':' := by
      rw [hab, List.append_assoc, List.getElem?_append_right (by omega)]
      simp [colons]
    rw [List.getElem?_append_right (by simp [colons]; omega)] at hcolon
    exact h (List.mem_of_getElem? hcolon)

/-- **The two names of a known accessor are read off the text that shows it.** -/
theorem splitLast?_display {a : Accessor} (h : isMethodName a.method.toList = true) :
    splitLast? colons a.display.toList = some (a.owner.toList, a.method.toList) := by
  rw [splitLast?_eq_some, toList_display]
  exact cutLast_colons (colon_notMem_of_isMethodName h)

theorem display_inj {a b : Accessor} (ha : isMethodName a.method.toList = true)
    (hb : isMethodName b.method.toList = true) (h : a.display = b.display) : a = b := by
  have hsplit := splitLast?_display ha
  rw [h, splitLast?_display hb, Option.some.injEq, Prod.mk.injEq, String.toList_inj,
    String.toList_inj] at hsplit
  obtain ⟨howner, hmethod⟩ := hsplit
  calc a = ⟨a.owner, a.method⟩ := rfl
    _ = b := by rw [← howner, ← hmethod]

/-- The accessor that a report is about, as the report shows it. -/
def Event.method? (e : Event) : Option String := e.fields.lookup "method"

theorem isMethodName_of_introspect {a c : Accessor} (h : introspect (.accessor a) = .ok c) :
    isMethodName a.method.toList = true := by
  by_contra hname
  rw [introspect_accessor, if_neg hname] at h
  cases h

/-- A success is reported alike in both ways of resolving, in one line about the accessor. -/
theorem events_of_ok {a : Accessor} {n : PropertyName}
    (h : (tryResolve (.accessor a)).value = .ok n) : isMethodName a.method.toList = true ∧
      (tryResolve (.accessor a)).events = [.resolved a n] ∧
      (resolve (.accessor a)).events = [.resolved a n] := by
  rcases resolution_cases (.accessor a) with
    ⟨b, m, hb, -, ht, hr⟩ | ⟨b, e, -, -, ht, -⟩ | ⟨r, -, ht, -⟩
  · obtain ⟨hname, rfl⟩ := Accessor.identify_eq_ok.1 hb
    rw [ht] at h
    cases h
    exact ⟨hname, by rw [ht], by rw [hr]⟩
  · rw [ht] at h
    cases h
  · rw [ht] at h
    cases h

/-- What is told about two accessors by the texts that show them. -/
structure ToldApart (a b : Accessor) : Prop where
  /-- Each success is reported by one line, and the lines of two accessors show different methods. -/
  traced : ∀ n m, (tryResolve (.accessor a)).value = .ok n →
    (tryResolve (.accessor b)).value = .ok m → ∃ e e',
      (tryResolve (.accessor a)).events = [e] ∧ (resolve (.accessor a)).events = [e] ∧
      (tryResolve (.accessor b)).events = [e'] ∧ (resolve (.accessor b)).events = [e'] ∧
      e.level = "TRACE" ∧ e'.level = "TRACE" ∧
      e.method? = some a.display ∧ e'.method? = some b.display ∧ (e.method? = e'.method? → a = b)
  /-- Known accessors are shown differently, and so are references to them. -/
  shown : ∀ c d, introspect (.accessor a) = .ok c → introspect (.accessor b) = .ok d →
    (a.display = b.display → a = b) ∧
    ((Reference.mk a).display = (Reference.mk b).display → Reference.mk a = Reference.mk b)
  /-- The names of a known accessor are the parts around the last two colons. -/
  recovered : ∀ c, introspect (.accessor a) = .ok c →
    splitLast? [':', ':'] a.display.toList = some (a.owner.toList, a.method.toList) ∧
    splitLast? [':', ':'] (Reference.mk a).display.toList =
      some (a.owner.toList, a.method.toList)

/-- **The log tells accessors apart**, whatever texts their types have: known accessors that are shown
alike are one. -/
theorem display_told_apart (a b : Accessor) : ToldApart a b where
  traced n m ha hb := by
    obtain ⟨hname, htry, hresolve⟩ := events_of_ok ha
    obtain ⟨hname', htry', hresolve'⟩ := events_of_ok hb
    refine ⟨_, _, htry, hresolve, htry', hresolve', rfl, rfl, rfl, rfl, fun h => ?_⟩
    exact display_inj hname hname' (Option.some.inj h)
  shown c d ha hb := by
    have hinj := display_inj (isMethodName_of_introspect ha) (isMethodName_of_introspect hb)
    exact ⟨hinj, fun h => congrArg Reference.mk (hinj h)⟩
  recovered c ha := by
    have hsplit := splitLast?_display (isMethodName_of_introspect ha)
    exact ⟨hsplit, hsplit⟩

/-- A type that ends with a colon, and two accessors that are shown alike where one has no method's
name. -/
example : splitLast? colons "A:::getX".toList = some ("A:".toList, "getX".toList) ∧
    (Accessor.mk "A::B" "getX").display = (Accessor.mk "A" "B::getX").display := by
  decide +kernel

end Accessors.Property
