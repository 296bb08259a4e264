import Accessors.Proofs.Token.StringValue
import Accessors.Property.Resolution

/-!
# Values and how they are written out

Errors are told in words, and every value has a labelled form with its texts in quotes. A quoted text
ends at its closing quote: what stands for a character in it begins with no quote, and no character
is written as the beginning of another. So whatever texts a value has, they are read off the labelled
form one after another, and nothing in them is taken for the labels around them.

* `quotedChar_append_inj`: characters in quotes are told apart in front of anything.
* `quoted_append_inj`: so are quoted texts.
* `message_inj`, `debug_inj`: an error is known by its words, and by its labelled form.
* `renderings_agree`: values are equal exactly if they are written alike.
-/

namespace Accessors.Text

/-! ## Texts in quotes -/

/-- **No character is written as the beginning of another.** -/
theorem quotedChar_append_inj {c d : Char} {s t : List Char}
    (h : quotedChar c ++ s = quotedChar d ++ t) : c = d ∧ s = t := by
  have hread := Token.takeUnit_quotedChar c s
  rw [h, Token.takeUnit_quotedChar, Option.some.injEq, Prod.mk.injEq] at hread
  exact ⟨hread.1.symm, hread.2.symm⟩

theorem quotedChar_append_ne_quote (c : Char) (s t : List Char) : quotedChar c ++ s ≠ '"' :: t := by
  obtain ⟨d, more, hd, hne⟩ := Token.head_quotedChar c
  rw [hd, List.cons_append]
  exact fun h => hne (List.cons.inj h).1

theorem flatMap_quotedChar_inj {s t u v : List Char}
    (h : s.flatMap quotedChar ++ '"' :: u = t.flatMap quotedChar ++ '"' :: v) : s = t ∧ u = v := by
  induction s generalizing t with
  | nil =>
    cases t with
    | nil => exact ⟨rfl, (List.cons.inj h).2⟩
    | cons d t =>
      rw [List.flatMap_cons, List.append_assoc] at h
      exact absurd h.symm (quotedChar_append_ne_quote d _ _)
  | cons c s ih =>
    cases t with
    | nil =>
      rw [List.flatMap_cons, List.append_assoc] at h
      exact absurd h (quotedChar_append_ne_quote c _ _)
    | cons d t =>
      rw [List.flatMap_cons, List.flatMap_cons, List.append_assoc, List.append_assoc] at h
      obtain ⟨rfl, hrest⟩ := quotedChar_append_inj h
      obtain ⟨rfl, hbehind⟩ := ih hrest
      exact ⟨rfl, hbehind⟩

/-- **A quoted text is told apart from others**, in front of anything. -/
theorem quoted_append_inj {p u v s t : String} (h : p ++ (String.ofList (quoted s.toList) ++ u) =
    p ++ (String.ofList (quoted t.toList) ++ v)) : s = t ∧ u = v := by
  have hlist := congrArg String.toList ((String.append_right_inj p).1 h)
  simp only [String.toList_append, String.toList_ofList, quoted, List.cons_append, List.append_assoc,
    List.nil_append, List.cons.injEq, true_and] at hlist
  obtain ⟨htext, hbehind⟩ := flatMap_quotedChar_inj hlist
  exact ⟨String.toList_inj.1 htext, String.toList_inj.1 hbehind⟩

/-! ## Texts between labels -/

theorem between_inj {p q s t : String} (h : p ++ s ++ q = p ++ t ++ q) : s = t := by
  rwa [String.append_left_inj, String.append_right_inj] at h

theorem head?_append {p : String} {c : Char} (h : p.toList.head? = some c) (s : String) :
    (p ++ s).toList.head? = some c := by
  rw [String.toList_append, List.head?_append, h, Option.some_or]

end Accessors.Text

namespace Accessors.Property

open Accessors.Text

/-! ## Errors -/

namespace ResolveError

/-- The letters that an error begins with, in words and in its labelled form. -/
def initials : ResolveError → Char × Char
  | introspection _ => ('I', 'I')
  | unmarked _ => ('M', 'N')
  | empty _ => ('P', 'E')

theorem head?_message (e : ResolveError) : e.message.toList.head? = some e.initials.1 := by
  cases e with
  | introspection m =>
    have h : "Introspection failed: ".toList.head? = some 'I' := by decide +kernel
    exact head?_append h m
  | unmarked m =>
    have h : "Method '".toList.head? = some 'M' := by decide +kernel
    exact head?_append (head?_append h m) _
  | empty m =>
    have h : "Property name is missing after stripping the prefix of '".toList.head? = some 'P' := by
      decide +kernel
    exact head?_append (head?_append h m) _

theorem head?_debug (e : ResolveError) : e.debug.toList.head? = some e.initials.2 := by
  have hkind : e.kind.toList.head? = some e.initials.2 := by
    cases e with
    | introspection m =>
      have h : "IntrospectionFailure".toList.head? = some 'I' := by decide +kernel
      exact h
    | unmarked m =>
      have h : "NamingConventionViolation".toList.head? = some 'N' := by decide +kernel
      exact h
    | empty m =>
      have h : "EmptyPropertyName".toList.head? = some 'E' := by decide +kernel
      exact h
  simp only [debug, String.append_assoc]
  exact head?_append hkind _

/-- **An error is known by its words.** -/
theorem message_inj {e e' : ResolveError} (h : e.message = e'.message) : e = e' := by
  have hinitial : e.initials.1 = e'.initials.1 := by
    have hhead := head?_message e
    rw [h, head?_message] at hhead
    exact (Option.some.inj hhead).symm
  cases e <;> cases e'
  case introspection.introspection m m' =>
    have hm : m = m' := (String.append_right_inj _).1 h
    rw [hm]
  case unmarked.unmarked m m' =>
    have hm : m = m' := between_inj h
    rw [hm]
  case empty.empty m m' =>
    have hm : m = m' := between_inj h
    rw [hm]
  -- Errors of different kinds begin with different letters.
  all_goals simp [initials] at hinitial

/-- What is written in front of the text of an error, which stands in quotes. -/
theorem debug_eq (e : ResolveError) : e.debug = e.kind ++ " \x7b " ++ e.label ++ ": " ++
    (String.ofList (quoted e.text.toList) ++ " \x7d") :=
  String.append_assoc

theorem text_eq_of_debug (e e' : ResolveError) (hkind : e.kind = e'.kind)
    (hlabel : e.label = e'.label) (h : e.debug = e'.debug) : e.text = e'.text := by
  rw [debug_eq e, debug_eq e', hkind, hlabel] at h
  exact (quoted_append_inj h).1

/-- **An error is known by its labelled form.** -/
theorem debug_inj {e e' : ResolveError} (h : e.debug = e'.debug) : e = e' := by
  have hinitial : e.initials.2 = e'.initials.2 := by
    have hhead := head?_debug e
    rw [h, head?_debug] at hhead
    exact (Option.some.inj hhead).symm
  cases e <;> cases e'
  case introspection.introspection m m' =>
    have hm : m = m' := text_eq_of_debug (introspection m) (introspection m') rfl rfl h
    rw [hm]
  case unmarked.unmarked m m' =>
    have hm : m = m' := text_eq_of_debug (unmarked m) (unmarked m') rfl rfl h
    rw [hm]
  case empty.empty m m' =>
    have hm : m = m' := text_eq_of_debug (empty m) (empty m') rfl rfl h
    rw [hm]
  all_goals simp [initials] at hinitial

end ResolveError

/-! ## Names -/

theorem Accessor.debug_inj {a b : Accessor} (h : a.debug = b.debug) : a = b := by
  unfold Accessor.debug at h
  simp only [String.append_assoc] at h
  obtain ⟨howner, hrest⟩ := quoted_append_inj h
  obtain ⟨hmethod, -⟩ := quoted_append_inj hrest
  calc a = ⟨a.owner, a.method⟩ := rfl
    _ = b := by rw [howner, hmethod]

theorem Reference.debug_inj {r s : Reference} (h : r.debug = s.debug) : r = s := by
  have haccessor : r.accessor = s.accessor := Accessor.debug_inj (between_inj h)
  exact congrArg Reference.mk haccessor

theorem PropertyName.debug_inj {n m : PropertyName} (h : n.debug = m.debug) : n = m := by
  unfold PropertyName.debug at h
  rw [String.append_assoc, String.append_assoc] at h
  exact congrArg PropertyName.mk (quoted_append_inj h).1

/-- **Values are equal exactly if they are written alike**, whatever texts they have. -/
theorem renderings_agree :
    (∀ e e' : ResolveError, (e = e' ↔ e.message = e'.message) ∧ (e = e' ↔ e.debug = e'.debug)) ∧
    (∀ a b : Accessor, a = b ↔ a.debug = b.debug) ∧
    (∀ r s : Reference, r = s ↔ r.debug = s.debug) ∧
    ∀ n m : PropertyName, n = m ↔ n.debug = m.debug := by
  refine ⟨fun e e' => ⟨?_, ?_⟩, fun a b => ?_, fun r s => ?_, fun n m => ?_⟩
  · exact ⟨congrArg _, ResolveError.message_inj⟩
  · exact ⟨congrArg _, ResolveError.debug_inj⟩
  · exact ⟨congrArg _, Accessor.debug_inj⟩
  · exact ⟨congrArg _, Reference.debug_inj⟩
  · exact ⟨congrArg _, PropertyName.debug_inj⟩

/-- A quote and a backslash in a name, and the two characters that stand for the end of a line. -/
example : (PropertyName.mk "\"\\").debug = "FieldName(\"\\\"\\\\\")" ∧
    (PropertyName.mk "\n").debug = "FieldName(\"\\n\")" ∧
    (PropertyName.mk "\\n").debug = "FieldName(\"\\\\n\")" := by
  decide +kernel

end Accessors.Property
