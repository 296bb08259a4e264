import Mathlib.Data.List.TakeWhile
import Mathlib.Tactic.ByContra
import Accessors.Proofs.Token.Leaves
import Accessors.Token.Lexeme

/-!
# What the leaves of a source text look like

A leaf that was cut out of a text shows it: an identifier is a name, and a literal begins with a
quote, a digit or one of the letters that mark a quoted text.

* `IsName`, `Leaf.WellFormed`: what such leaves are.
* `WellFormed`: a forest of such leaves.
* `wellFormed_of_ofText`: every leaf of a text is one.
-/

namespace Accessors.Token

open Accessors.Text

/-- A character that begins an identifier, and characters that go on with it. -/
def IsName (s : List Char) : Prop :=
  ∃ c rest, s = c :: rest ∧ isIdentifierStart c = true ∧ ∀ d ∈ rest, isIdentifierContinue d = true

/-- A character that literals begin with. -/
def BeginsLiteral (c : Char) : Prop := c ∈ ['"', '\'', 'b', 'c', 'r'] ∨ isDigit c = true

/-- A leaf as it is cut out of a text. -/
def Leaf.WellFormed : Leaf → Prop
  | .ident i => IsName i.name.toList
  | .lifetime i => IsName i.name.toList
  | .literal text => text.toList = errorMarker ∨ ∃ c rest, text.toList = c :: rest ∧ BeginsLiteral c
  | .punct c _ => c ∈ punctuation

/-! ## Names -/

theorem isName_of_takeName {s name rest : List Char} (h : takeName s = some (name, rest)) :
    IsName name := by
  cases s with
  | nil => simp [takeName] at h
  | cons c s =>
    simp only [takeName] at h
    split at h
    · next hc =>
      simp only [Option.some.injEq, Prod.mk.injEq] at h
      obtain ⟨rfl, -⟩ := h
      exact ⟨c, _, rfl, hc, fun d hd => List.mem_takeWhile_imp hd⟩
    · cases h

theorem isName_of_takeAnyIdent {s rest : List Char} {i : Ident}
    (h : takeAnyIdent s = some (i, rest)) : IsName i.name.toList := by
  unfold takeAnyIdent at h
  split at h
  · split at h
    · next name after hn =>
      split at h
      · cases h
      · simp only [Option.some.injEq, Prod.mk.injEq] at h
        obtain ⟨rfl, -⟩ := h
        simpa using isName_of_takeName hn
    · cases h
  · obtain ⟨⟨name, after⟩, hn, he⟩ := Option.map_eq_some_iff.1 h
    simp only [Prod.mk.injEq] at he
    obtain ⟨rfl, -⟩ := he
    simpa using isName_of_takeName hn

theorem isName_of_takeIdent {s rest : List Char} {i : Ident}
    (h : takeIdent s = some (i, rest)) : IsName i.name.toList := by
  unfold takeIdent at h
  split at h
  · cases h
  · exact isName_of_takeAnyIdent h

/-! ## Literals -/

theorem isDigit_of_hexValue {c : Char} {d : Nat} (h : hexValue? c = some d) (hd : d < 10) :
    isDigit c = true := by
  simp only [hexValue?] at h
  split at h
  · next hn =>
    simp only [isDigit, Bool.and_eq_true, decide_eq_true_eq]
    exact hn
  · split at h
    · simp only [Option.some.injEq] at h; omega
    · split at h
      · simp only [Option.some.injEq] at h; omega
      · cases h

theorem isDigit_of_dropInt {c : Char} {s rest : List Char} (h : dropInt (c :: s) = some rest) :
    isDigit c = true := by
  by_contra hc
  have hnone : dropBaseDigits 10 false (c :: s) = none := by
    rw [dropBaseDigits, if_neg hc]
    split
    · simp
    · split
      · next d hd =>
        have : ¬ d < 10 := fun hlt => hc (isDigit_of_hexValue hd hlt)
        simp [this]
      · simp
  -- The marks of other bases begin with zero, which is a digit as well.
  have h0 : c ≠ '0' := by rintro rfl; exact hc (by decide)
  unfold dropInt dropIntDigits at h
  split at h
  all_goals simp_all

theorem isDigit_of_dropFloat {c : Char} {s rest : List Char} (h : dropFloat (c :: s) = some rest) :
    isDigit c = true := by
  by_contra hc
  rw [Bool.not_eq_true] at hc
  simp [dropFloat, dropFloatDigits, hc] at h

/-- A quoted text begins with its mark, or with a quote if it has none. -/
theorem head_of_dropText {content : Content} {cooked raw : List Char} {c : Char}
    {s rest : List Char} (h : dropText content cooked raw (c :: s) = some rest) (hne : raw ≠ []) :
    (cooked ++ ['"']).head? = some c ∨ raw.head? = some c := by
  by_contra hc
  rw [not_or] at hc
  have hraw : after? raw (c :: s) = none := by
    cases raw with
    | nil => exact absurd rfl hne
    | cons r raw =>
      have : r ≠ c := fun he => hc.2 (by simp [he])
      simp [after?, this]
  unfold dropText at h
  split at h
  · next t ht =>
    cases cooked with
    | nil =>
      simp only [after?, Option.some.injEq, List.cons.injEq] at ht
      exact hc.1 (by simp [ht.1])
    | cons r cooked =>
      have : r ≠ c := fun he => hc.1 (by simp [he])
      simp [after?, this] at ht
  · rw [hraw] at h; cases h

/-- **A literal begins** with a quote, a digit, or a mark in front of a quote. -/
theorem beginsLiteral_of_dropLiteral {c : Char} {s rest : List Char}
    (h : dropLiteral (c :: s) = some rest) : BeginsLiteral c := by
  simp only [dropLiteral, Option.or_eq_some_iff] at h
  rcases h with ((((((h | ⟨-, h⟩) | ⟨-, h⟩) | ⟨-, h⟩) | ⟨-, h⟩) | ⟨-, h⟩) | ⟨-, h⟩)
  · rcases head_of_dropText h (by simp) with he | he <;> cases he <;> exact .inl (by simp)
  · rcases head_of_dropText h (by simp) with he | he <;> cases he <;> exact .inl (by simp)
  · rcases head_of_dropText h (by simp) with he | he <;> cases he <;> exact .inl (by simp)
  · unfold dropByte at h
    split at h
    · next he => cases he; exact .inl (by simp)
    · cases h
  · unfold dropChar at h
    split at h
    · next he => cases he; exact .inl (by simp)
    · cases h
  · exact .inr (isDigit_of_dropFloat h)
  · exact .inr (isDigit_of_dropInt h)

/-! ## Leaves -/

theorem wellFormed_of_takeLifetime {s rest : List Char} {l : Leaf}
    (h : takeLifetime s = some (l, rest)) : l.WellFormed := by
  unfold takeLifetime at h
  split at h
  · cases h
  · split at h
    · cases h
    · split at h
      · simp only [Option.some.injEq, Prod.mk.injEq] at h
        obtain ⟨rfl, -⟩ := h
        exact (by decide : '\'' ∈ punctuation)
      · obtain ⟨⟨i, after⟩, hi, he⟩ := Option.map_eq_some_iff.1 h
        cases he
        exact isName_of_takeIdent hi

/-- A leaf that takes something off the text is well formed. -/
theorem wellFormed_of_takeLeaf {s rest : List Char} {l : Leaf} (h : takeLeaf s = some (l, rest))
    (hlt : rest.length < s.length) : l.WellFormed := by
  unfold takeLeaf at h
  split at h
  · next after hd =>
    cases h
    cases s with
    | nil => simp at hlt
    | cons c s =>
      have hpos : (c :: s).length - rest.length = (s.length - rest.length) + 1 := by
        simp only [List.length_cons] at hlt ⊢; omega
      -- The literal is not empty, so it has the first character of the text.
      refine .inr ⟨c, s.take (s.length - rest.length), ?_, beginsLiteral_of_dropLiteral hd⟩
      rw [hpos]; simp
  · split at h
    · cases h
    · exact wellFormed_of_takeLifetime h
    · next c r hne =>
      split at h
      · next hp =>
        cases h
        simp only [beginsPunct, Bool.and_eq_true] at hp
        exact List.contains_iff_mem.1 hp.1.1
      · split at h
        · next i after hi =>
          cases h
          exact isName_of_takeIdent hi
        · obtain ⟨after, -, he⟩ := Option.map_eq_some_iff.1 h
          cases he
          exact .inl (by simp)

theorem isName_doc : IsName "doc".toList :=
  ⟨'d', ['o', 'c'], by decide, by decide +kernel, List.all_eq_true.1 (by decide +kernel)⟩

theorem wellFormed_of_mem_docLexemes {inner : Bool} {comment : List Char} {l : Leaf}
    (h : .leaf l ∈ docLexemes inner comment) : l.WellFormed := by
  have hlit : (Leaf.literal (String.ofList (stringLiteral comment))).WellFormed :=
    .inr ⟨'"', _, by rw [String.toList_ofList]; rfl, .inl (by simp)⟩
  have hhash : '#' ∈ punctuation := by decide
  have hbang : '!' ∈ punctuation := by decide
  have heq : '=' ∈ punctuation := by decide
  cases inner <;> simp [docLexemes] at h
  · rcases h with rfl | rfl | rfl | rfl
    exacts [hhash, isName_doc, heq, hlit]
  · rcases h with rfl | rfl | rfl | rfl | rfl
    exacts [hhash, hbang, isName_doc, heq, hlit]

theorem wellFormed_of_takeLexemes {s rest : List Char} {ls : List Lexeme}
    (h : takeLexemes s = some (ls, rest)) (hlt : rest.length < s.length) {l : Leaf}
    (hl : .leaf l ∈ ls) : l.WellFormed := by
  unfold takeLexemes at h
  split at h
  · split at h
    · cases h; exact wellFormed_of_mem_docLexemes hl
    · cases h
  · split at h
    · cases h
    · split at h
      · split at h
        · obtain ⟨⟨m, after⟩, hm, he⟩ := Option.map_eq_some_iff.1 h
          cases he
          cases List.mem_singleton.1 hl
          exact wellFormed_of_takeLeaf hm hlt
        · cases h
          split at hl <;> cases List.mem_singleton.1 hl
      · obtain ⟨⟨m, after⟩, hm, he⟩ := Option.map_eq_some_iff.1 h
        cases he
        cases List.mem_singleton.1 hl
        exact wellFormed_of_takeLeaf hm hlt

theorem wellFormed_of_lexemes {s : List Char} {ls : List Lexeme} (h : lexemes s = some ls)
    {l : Leaf} (hl : .leaf l ∈ ls) : l.WellFormed := by
  fun_induction lexemes s generalizing ls with
  | case1 => cases h; cases hl
  | case2 => cases h
  | case3 s c more hd found rest ht hlt ih =>
    obtain ⟨later, hlater, rfl⟩ := Option.map_eq_some_iff.1 h
    rcases List.mem_append.1 hl with hl | hl
    · exact wellFormed_of_takeLexemes ht hlt.1 hl
    · exact ih hlater hl
  | case4 => cases h

/-! ## Trees -/

/-- Every leaf of the tree is well formed. -/
def Tree.WellFormed (t : Tree) : Prop := ∀ l ∈ t.leaves, l.WellFormed

/-- Every leaf of the forest is well formed. -/
def WellFormed (ts : List Tree) : Prop := ∀ l ∈ leavesOf ts, l.WellFormed

@[simp] theorem wellFormed_leaf {l : Leaf} : (Tree.leaf l).WellFormed ↔ l.WellFormed := by
  simp [Tree.WellFormed]

@[simp] theorem wellFormed_group {d : Delimiter} {body : List Tree} :
    (Tree.group d body).WellFormed ↔ WellFormed body := by
  simp [Tree.WellFormed, WellFormed]

@[simp] theorem wellFormed_nil : WellFormed [] := by simp [WellFormed]

@[simp] theorem wellFormed_cons {t : Tree} {rest : List Tree} :
    WellFormed (t :: rest) ↔ t.WellFormed ∧ WellFormed rest := by
  simp [WellFormed, Tree.WellFormed, or_imp, forall_and]

@[simp] theorem wellFormed_append {a b : List Tree} :
    WellFormed (a ++ b) ↔ WellFormed a ∧ WellFormed b := by
  simp [WellFormed, or_imp, forall_and]

theorem wellFormed_iff_forall {ts : List Tree} : WellFormed ts ↔ ∀ t ∈ ts, t.WellFormed := by
  induction ts with
  | nil => simp
  | cons t rest ih => rw [wellFormed_cons, ih, List.forall_mem_cons]

/-- **The leaves of a source text are well formed.** -/
theorem wellFormed_of_ofText {text : List Char} {ts : List Tree} (h : Tree.ofText text = some ts) :
    WellFormed ts := by
  obtain ⟨ls, hls, hts⟩ := Option.bind_eq_some_iff.1 h
  intro l hl
  rw [leavesOf_ofLexemes hts, List.mem_filterMap] at hl
  obtain ⟨x, hx, hxl⟩ := hl
  cases x with
  | leaf m => cases hxl; exact wellFormed_of_lexemes hls hx
  | opening d => cases hxl
  | closing d => cases hxl

end Accessors.Token
