import Accessors.Proofs.Property.Cases
import Accessors.Proofs.Text.Capitals

/-!
# What decides the outcome of a resolution

An accessor is resolved in three stages: its method's name has to be one, the name has to have a mark,
and something has to be left behind the mark. What is left could be white space by the last stage
alone. By the first one it consists of letters, numbers and underscores, none of which is white space,
so of all names only the bare marks get that far and no further.

* `Misnamed`: the texts that no method has for a name.
* `Outcome`: what has to come of an accessor, by the first condition that applies.
* `propertyName_of_marked`: the last two stages, for the name of a method.
* `tryResolve_decided`: every accessor comes to that, and its type has no part in it.
-/

namespace Accessors.Text

/-- What follows a beginning is the rest of the text. -/
theorem after?_eq_some {beginning s rest : List Char} :
    after? beginning s = some rest ↔ s = beginning ++ rest := by
  induction beginning generalizing s with
  | nil => simp [after?]
  | cons p ps ih =>
    cases s with
    | nil => simp [after?]
    | cons c cs =>
      rw [after?]
      split
      · next h => rw [ih, h, List.cons_append, List.cons.injEq, eq_self, true_and]
      · next h => simp [Ne.symm h]

end Accessors.Text

namespace Accessors.Property

open Accessors.Text

/-! ## Names of methods -/

/-- No method has the text for a name: it is empty, it begins with neither an underscore nor a letter,
or a later character is neither an underscore nor a letter or number. -/
inductive Misnamed : List Char → Prop
  | empty : Misnamed []
  | first {c : Char} (rest : List Char) (hne : c ≠ '_') (hc : isAlphabetic c = false) :
    Misnamed (c :: rest)
  | later (c : Char) {d : Char} {rest : List Char} (hd : d ∈ rest) (hne : d ≠ '_')
    (halnum : isAlphanumeric d = false) : Misnamed (c :: rest)

theorem misnamed_iff {s : List Char} : Misnamed s ↔ isMethodName s = false := by
  constructor
  · intro h
    cases h with
    | empty => rfl
    | first rest hne hc => simp [isMethodName, hne, hc]
    | later c hd hne halnum =>
      rw [isMethodName, Bool.and_eq_false_iff]
      refine .inr (List.all_eq_false.2 ⟨_, hd, ?_⟩)
      simp [hne, halnum]
  · intro h
    cases s with
    | nil => exact .empty
    | cons c rest =>
      rw [isMethodName, Bool.and_eq_false_iff] at h
      rcases h with hfirst | hlater
      · simp only [Bool.or_eq_false_iff, beq_eq_false_iff_ne] at hfirst
        exact .first rest hfirst.1 hfirst.2
      · obtain ⟨d, hd, hno⟩ := List.all_eq_false.1 hlater
        simp only [Bool.or_eq_true, beq_iff_eq, not_or, Bool.not_eq_true] at hno
        exact .later c hd hno.1 hno.2

/-- Nothing behind the first character of a method's name is white space. -/
theorem isSpace_of_name {c d : Char} {rest : List Char} (h : ¬ Misnamed (c :: rest)) (hd : d ∈ rest) :
    isSpace d = false := by
  by_cases hne : d = '_'
  · rw [hne]
    decide +kernel
  · refine isSpace_of_isAlphanumeric ?_
    rw [← Bool.not_eq_false]
    exact fun halnum => h (.later c hd hne halnum)

/-! ## Marks -/

/-- The marks exclude each other, so it does not matter which of them is tried first. -/
theorem unmark?_eq_some {method rest : List Char} :
    unmark? method = some rest ↔ method = getMark ++ rest ∨ method = isMark ++ rest := by
  rw [unmark?, Option.or_eq_some_iff, after?_eq_some, after?_eq_some]
  refine or_congr_right (and_iff_right_of_imp ?_)
  rintro rfl
  rfl

theorem unmark?_eq_none {method : List Char} :
    unmark? method = none ↔ ¬ getMark <+: method ∧ ¬ isMark <+: method := by
  rw [Option.eq_none_iff_forall_ne_some, ← not_or]
  simp only [Ne, unmark?_eq_some, List.IsPrefix, ← exists_or, not_exists, @eq_comm _ method]

theorem propertyName_of_unmarked {method : String} (hget : ¬ getMark <+: method.toList)
    (his : ¬ isMark <+: method.toList) : propertyName method = .error (.unmarked method) := by
  rw [propertyName, unmark?_eq_none.2 ⟨hget, his⟩]

/-- **Only the bare marks leave nothing behind.** What else a method's name has behind its mark is not
white space, and tells a property. -/
theorem propertyName_of_marked {method : String} {rest : List Char}
    (hname : ¬ Misnamed method.toList)
    (hmark : method.toList = getMark ++ rest ∨ method.toList = isMark ++ rest) :
    propertyName method =
      if rest = [] then .error (.empty method) else .ok ⟨String.ofList (decapitalize rest)⟩ := by
  have hunmark : unmark? method.toList = some rest := unmark?_eq_some.2 hmark
  -- A mark is not empty, so what follows it is behind the first character.
  have hbehind : ∃ c before, method.toList = c :: (before ++ rest) := by
    rcases hmark with h | h
    · exact ⟨'g', ['e', 't'], h⟩
    · exact ⟨'i', ['s'], h⟩
  obtain ⟨c, before, hmethod⟩ := hbehind
  have hblank : isBlank rest = rest.isEmpty := by
    cases rest with
    | nil => rfl
    | cons d rest =>
      have hd : isSpace d = false := by
        rw [hmethod] at hname
        exact isSpace_of_name hname (by simp)
      simp [isBlank, hd]
  rw [propertyName, hunmark]
  simp only [hblank, List.isEmpty_iff]

/-! ## Outcomes -/

/-- What has to come of the accessor that a type declares under a name. The conditions are listed in
the order in which they are looked at; each constructor says that its own applies and none before it. -/
inductive Outcome (owner method : String) : Except ResolveError PropertyName → Prop
  | misnamed (h : Misnamed method.toList) : Outcome owner method
    (.error (.introspection ("'" ++ method ++ "' on " ++ owner ++ " is not a method name")))
  | unmarked (hname : ¬ Misnamed method.toList) (hget : ¬ ['g', 'e', 't'] <+: method.toList)
    (his : ¬ ['i', 's'] <+: method.toList) : Outcome owner method (.error (.unmarked method))
  | empty (hname : ¬ Misnamed method.toList) (h : method = "get" ∨ method = "is") :
    Outcome owner method (.error (.empty method))
  | named (hname : ¬ Misnamed method.toList) {c : Char} {rest : List Char}
    (h : method.toList = ['g', 'e', 't'] ++ c :: rest ∨ method.toList = ['i', 's'] ++ c :: rest) :
    Outcome owner method (.ok ⟨String.ofList (decapitalize (c :: rest))⟩)

variable {owner method : String}

theorem value_of_misnamed (h : Misnamed method.toList) :
    (tryResolve (.accessor ⟨owner, method⟩)).value =
      .error (.introspection ("'" ++ method ++ "' on " ++ owner ++ " is not a method name")) := by
  have hno : Accessor.identify ⟨owner, method⟩ = .error (.notMethodName ⟨owner, method⟩) := by
    simp [Accessor.identify, misnamed_iff.1 h]
  rw [tryResolve, introspect, Callable.identify, hno]
  rfl

theorem value_of_not_misnamed (h : ¬ Misnamed method.toList) :
    (tryResolve (.accessor ⟨owner, method⟩)).value = propertyName method := by
  rw [misnamed_iff, Bool.not_eq_false] at h
  simp only [tryResolve, introspect, Callable.identify, Accessor.identify, h, if_true, resolveAccessor]
  cases propertyName method <;> rfl

/-- Whatever the conditions say is what comes of the accessor. -/
theorem value_of_outcome {o : Except ResolveError PropertyName} (h : Outcome owner method o) :
    (tryResolve (.accessor ⟨owner, method⟩)).value = o := by
  cases h with
  | misnamed h => exact value_of_misnamed h
  | unmarked hname hget his =>
    rw [value_of_not_misnamed hname, propertyName_of_unmarked hget his]
  | empty hname h =>
    have hmark : method.toList = getMark ++ [] ∨ method.toList = isMark ++ [] := by
      rcases h with rfl | rfl
      · exact .inl rfl
      · exact .inr rfl
    rw [value_of_not_misnamed hname, propertyName_of_marked hname hmark]
    exact if_pos rfl
  | named hname h =>
    have hmark : method.toList = getMark ++ _ ∨ method.toList = isMark ++ _ := h
    rw [value_of_not_misnamed hname, propertyName_of_marked hname hmark,
      if_neg (List.cons_ne_nil _ _)]

/-- The conditions always say something. -/
theorem exists_outcome (owner method : String) : ∃ o, Outcome owner method o := by
  by_cases hname : Misnamed method.toList
  · exact ⟨_, .misnamed hname⟩
  · cases hunmark : unmark? method.toList with
    | none =>
      obtain ⟨hget, his⟩ := unmark?_eq_none.1 hunmark
      exact ⟨_, .unmarked hname hget his⟩
    | some rest =>
      have hmark := unmark?_eq_some.1 hunmark
      cases rest with
      | nil =>
        refine ⟨_, .empty hname ?_⟩
        rcases hmark with h | h
        · exact .inl (String.toList_inj.1 h)
        · exact .inr (String.toList_inj.1 h)
      | cons c rest => exact ⟨_, .named hname hmark⟩

/-- How the accessor that a type declares under a name is resolved. -/
structure Decided (owner method : String) : Prop where
  /-- There is one outcome, that of the first condition that applies. -/
  outcome : ∀ o, (tryResolve (.accessor ⟨owner, method⟩)).value = o ↔ Outcome owner method o
  /-- Once the accessor is known, its name alone tells the property. -/
  name : ∀ a, introspect (.accessor ⟨owner, method⟩) = .ok a →
    (tryResolve (.accessor ⟨owner, method⟩)).value = propertyName method
  /-- Another type makes no difference but in the text of the error of not knowing the accessor. -/
  type : ∀ other, (tryResolve (.accessor ⟨other, method⟩)).value =
      (tryResolve (.accessor ⟨owner, method⟩)).value ∨
    ∃ text text', (tryResolve (.accessor ⟨other, method⟩)).value = .error (.introspection text) ∧
      (tryResolve (.accessor ⟨owner, method⟩)).value = .error (.introspection text')

/-- **What comes of an accessor is decided by its method's name**, whatever type declares it. -/
theorem tryResolve_decided (owner method : String) : Decided owner method where
  outcome o := by
    refine ⟨?_, value_of_outcome⟩
    rintro rfl
    obtain ⟨o, ho⟩ := exists_outcome owner method
    rwa [value_of_outcome ho]
  name a ha := by
    refine value_of_not_misnamed fun h => ?_
    simp [introspect, Callable.identify, Accessor.identify, misnamed_iff.1 h] at ha
  type other := by
    by_cases hname : Misnamed method.toList
    · exact .inr ⟨_, _, value_of_misnamed hname, value_of_misnamed hname⟩
    · exact .inl (by rw [value_of_not_misnamed hname, value_of_not_misnamed hname])

end Accessors.Property
