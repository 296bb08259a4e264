import Mathlib.Tactic.ByContra
import Accessors.Grammar.Phrase

/-!
# What a program takes

A program takes a tree after looking at it, so what it may take can be read off the program without
running it. The word `pub` begins a member and nothing else, and this module says what it means for
a program to leave it alone.

* `Recogniser.Spares`: the program does not take the word.
* `recogniseWithin_spares`: what is recognised by such programs does not have the word, outside of
  groups.
-/

namespace Accessors.Grammar

open Accessors.Token

variable {α β : Type}

/-- The word `pub` is not among the trees. It may be inside of groups. -/
def PubFree (ts : List Tree) : Prop := ∀ t ∈ ts, isWord "pub" [t] = false

@[simp] theorem pubFree_nil : PubFree [] := by simp [PubFree]

@[simp] theorem pubFree_cons {t : Tree} {ts : List Tree} :
    PubFree (t :: ts) ↔ isWord "pub" [t] = false ∧ PubFree ts := by simp [PubFree]

@[simp] theorem pubFree_append {a b : List Tree} : PubFree (a ++ b) ↔ PubFree a ∧ PubFree b := by
  simp [PubFree, or_imp, forall_and]

theorem isWord_cons (word : String) (t : Tree) (ts : List Tree) :
    isWord word (t :: ts) = isWord word [t] := by
  cases t with
  | leaf l => cases l <;> rfl
  | group d body => rfl

theorem isOneOf_cons (words : List String) (t : Tree) (ts : List Tree) :
    isOneOf words (t :: ts) = isOneOf words [t] := by
  cases t with
  | leaf l => cases l <;> rfl
  | group d body => rfl

theorem isIdent_cons (t : Tree) (ts : List Tree) : isIdent (t :: ts) = isIdent [t] := by
  cases t with
  | leaf l => cases l <;> rfl
  | group d body => rfl

/-- The word `pub` is not among the first trees. -/
def FreeFor (n : Nat) (ts : List Tree) : Prop := ∀ i < n, isWord "pub" (ts.drop i) = false

/-- The program takes no word `pub` itself, and calls for phrases only where `may` allows it. What
it ends with and what is left then have the property `post`, whatever the phrases yield. -/
def Recogniser.Spares (may : Phrase → List Tree → Prop) :
    Program α → List Tree → (α → List Tree → Prop) → Prop
  | .done a, ts, post => post a ts
  | .fail, _, _ => True
  | .look next, ts, post => (next ts).Spares may ts post
  | .take next, ts, post => isWord "pub" ts = false ∧ next.Spares may ts.tail post
  | .call p next, ts, post => may p ts ∧ ∀ s rest, (next s).Spares may rest post
  | .splice p next, ts, post => may p ts ∧ ∀ s rest, (next s).Spares may rest post
  | .within _ next, ts, post => ∀ s, (next s).Spares may ts.tail post

variable {may : Phrase → List Tree → Prop}

/-- A run of a sparing program, over phrases that are spared. -/
theorem Recogniser.run_spares {again : Phrase → List Tree → Option (Found Shape Shape)}
    (hagain : ∀ p ts f, may p ts → again p ts = some f → PubFree (treesOf f.parts))
    (g : Program α) : ∀ {ts : List Tree} {post : α → List Tree → Prop} {f : Found Shape α},
      g.Spares may ts post → g.run again ts = some f →
      PubFree (treesOf f.parts) ∧ post f.result f.rest := by
  induction g with
  | done a =>
    intro ts post f hg hf
    simp only [run, Option.some.injEq] at hf
    subst hf
    exact ⟨by simp, hg⟩
  | fail => intro ts post f hg hf; simp [run] at hf
  | look next ih => intro ts post f hg hf; exact ih ts hg hf
  | take next ih =>
    intro ts post f hg hf
    cases ts with
    | nil => simp [run] at hf
    | cons t ts =>
      simp only [run, Option.map_eq_some_iff] at hf
      obtain ⟨k, hk, rfl⟩ := hf
      obtain ⟨ht, hnext⟩ := hg
      rw [isWord_cons] at ht
      obtain ⟨hparts, hpost⟩ := ih hnext hk
      exact ⟨by simp [Found.after, ht, hparts], hpost⟩
  | call p next ih =>
    intro ts post f hg hf
    simp only [run] at hf
    split at hf
    · cases hf
    · next found hp =>
      simp only [Option.map_eq_some_iff] at hf
      obtain ⟨k, hk, rfl⟩ := hf
      obtain ⟨hparts, hpost⟩ := ih _ (hg.2 _ _) hk
      have hfound := hagain p ts found hg.1 hp
      exact ⟨by simp [Found.after, hfound, hparts], hpost⟩
  | splice p next ih =>
    intro ts post f hg hf
    simp only [run] at hf
    split at hf
    · cases hf
    · next found hp =>
      simp only [Option.map_eq_some_iff] at hf
      obtain ⟨k, hk, rfl⟩ := hf
      obtain ⟨hparts, hpost⟩ := ih _ (hg.2 _ _) hk
      have hfound := hagain p ts found hg.1 hp
      exact ⟨by simp [Found.after, treesOf_append, hfound, hparts], hpost⟩
  | within p next ih =>
    intro ts post f hg hf
    cases ts with
    | nil => simp [run] at hf
    | cons t ts =>
      cases t with
      | leaf l => simp [run] at hf
      | group d body =>
        simp only [run] at hf
        split at hf
        · simp only [Option.map_eq_some_iff] at hf
          obtain ⟨k, hk, rfl⟩ := hf
          obtain ⟨hparts, hpost⟩ := ih _ (hg _) hk
          exact ⟨by simp [Found.after, isWord, hparts], hpost⟩
        · cases hf

/-- **A sparing grammar.** If the programs of the allowed phrases spare the word, then an allowed
phrase is recognised without it. -/
theorem recogniseWithin_spares {rule : Phrase → Program Shape}
    (h : ∀ p ts, may p ts → (rule p).Spares may ts fun _ _ => True) (fuel : Nat) :
    ∀ p ts f, may p ts → recogniseWithin rule fuel p ts = some f → PubFree (treesOf f.parts) := by
  induction fuel with
  | zero => intro p ts f _ hf; simp [recogniseWithin] at hf
  | succ fuel ih => intro p ts f hp hf; exact (Recogniser.run_spares ih (rule p) (h p ts hp) hf).1

/-! ## Looking before taking -/

@[grind →] theorem not_pub_of_isWord {word : String} {ts : List Tree} (h : isWord word ts = true)
    (hw : word ≠ "pub") : isWord "pub" ts = false := by
  unfold isWord at h ⊢
  split at h
  · simp only [Bool.and_eq_true, beq_iff_eq] at h
    simp [h.2, hw]
  · cases h

@[grind →] theorem not_pub_of_isOneOf {words : List String} {ts : List Tree}
    (h : isOneOf words ts = true) (hw : "pub" ∉ words) : isWord "pub" ts = false := by
  obtain ⟨word, hmem, h⟩ := List.any_eq_true.1 h
  exact not_pub_of_isWord h fun he => hw (he ▸ hmem)

@[grind →] theorem not_pub_of_isIdent {ts : List Tree} (h : isIdent ts = true) :
    isWord "pub" ts = false := by
  unfold isIdent at h
  split at h
  · next i rest =>
    by_contra hp
    simp only [isWord, Bool.not_eq_false, Bool.and_eq_true, Bool.not_eq_true', beq_iff_eq] at hp
    rw [Ident.isName, hp.1, hp.2] at h
    exact absurd h (by decide)
  · cases h

@[grind →] theorem not_pub_of_isLifetime {ts : List Tree} (h : isLifetime ts = true) :
    isWord "pub" ts = false := by
  unfold isLifetime at h
  split at h
  · rfl
  · cases h

@[grind →] theorem not_pub_of_isAnyGroup {ts : List Tree} (h : isAnyGroup ts = true) :
    isWord "pub" ts = false := by
  unfold isAnyGroup at h
  split at h
  · rfl
  · cases h

theorem isAnyGroup_of_isGroup {d : Delimiter} {ts : List Tree} (h : isGroup d ts = true) :
    isAnyGroup ts = true := by
  unfold isGroup at h
  split at h
  · rfl
  · cases h

@[grind →] theorem not_pub_of_isParenthesis {ts : List Tree} (h : isParenthesis ts = true) :
    isWord "pub" ts = false := not_pub_of_isAnyGroup (isAnyGroup_of_isGroup h)

@[grind →] theorem not_pub_of_isStringLiteral {ts : List Tree} (h : isStringLiteral ts = true) :
    isWord "pub" ts = false := by
  unfold isStringLiteral at h
  split at h
  · rfl
  · cases h

/-- The characters of an operator are no words. -/
theorem not_pub_of_isPunctChars {cs : List Char} {ts : List Tree} {i : Nat}
    (h : isPunctChars cs ts = true) (hi : i < cs.length) : isWord "pub" (ts.drop i) = false := by
  fun_induction isPunctChars cs ts generalizing i with
  | case1 => simp at hi
  | case2 c d joint ts =>
    obtain rfl : i = 0 := by simpa using hi
    rfl
  | case3 c cs d joint ts hne ih =>
    simp only [Bool.and_eq_true] at h
    cases i with
    | zero => rfl
    | succ i => exact ih h.2 (by simpa using hi)
  | case4 => cases h

theorem freeFor_of_isPunct {operator : String} {ts : List Tree} (h : isPunct operator ts = true) :
    FreeFor operator.length ts :=
  fun _ hi => not_pub_of_isPunctChars h (by rwa [String.length_toList])

@[grind →] theorem not_pub_of_isPunct {operator : String} {ts : List Tree}
    (h : isPunct operator ts = true) (hne : operator.toList ≠ []) : isWord "pub" ts = false :=
  not_pub_of_isPunctChars (i := 0) h (List.length_pos_iff.2 hne)

@[grind →] theorem freeFor_separator {ts : List Tree} (h : isPunct "::" ts = true) : FreeFor 2 ts :=
  freeFor_of_isPunct h

@[simp] theorem freeFor_literalSize (ts : List Tree) : FreeFor (literalSize ts) ts := by
  intro i hi
  unfold literalSize at hi
  split at hi
  · obtain rfl : i = 0 := by omega
    rfl
  · next joint text rest =>
    split at hi
    · cases i with
      | zero => rfl
      | succ i =>
        obtain rfl : i = 0 := by omega
        rfl
    · omega
  · next j rest =>
    split at hi
    · next hword =>
      obtain rfl : i = 0 := by omega
      simp only [Bool.and_eq_true, Bool.or_eq_true, Bool.not_eq_true', beq_iff_eq] at hword
      rcases hword with ⟨hraw, hname | hname⟩ <;> simp [isWord, hname]
    · omega
  · omega

/-- A program that looks for one of these before it takes a tree does not take the word. -/
@[simp] theorem free_if_isWord {word : String} {ts : List Tree} (hw : word ≠ "pub") :
    (isWord word ts = true → isWord "pub" ts = false) ↔ True :=
  iff_true_intro fun h => not_pub_of_isWord h hw

@[simp] theorem free_if_isOneOf {words : List String} {ts : List Tree} (hw : "pub" ∉ words) :
    (isOneOf words ts = true → isWord "pub" ts = false) ↔ True :=
  iff_true_intro fun h => not_pub_of_isOneOf h hw

@[simp] theorem free_if_isIdent {ts : List Tree} :
    (isIdent ts = true → isWord "pub" ts = false) ↔ True := iff_true_intro not_pub_of_isIdent

@[simp] theorem free_if_isLifetime {ts : List Tree} :
    (isLifetime ts = true → isWord "pub" ts = false) ↔ True := iff_true_intro not_pub_of_isLifetime

@[simp] theorem free_if_isAnyGroup {ts : List Tree} :
    (isAnyGroup ts = true → isWord "pub" ts = false) ↔ True := iff_true_intro not_pub_of_isAnyGroup

@[simp] theorem free_if_isPunct {operator : String} {ts : List Tree} (hne : operator.toList ≠ []) :
    (isPunct operator ts = true → isWord "pub" ts = false) ↔ True :=
  iff_true_intro fun h => not_pub_of_isPunct h hne

@[simp] theorem freeFor_if_separator {ts : List Tree} :
    (isPunct "::" ts = true → FreeFor 2 ts) ↔ True := iff_true_intro freeFor_separator

/-! ## The operations -/

namespace Recogniser

variable {ts : List Tree} {a : α} {g : Program α} {next : α → Program β}
  {post : α → List Tree → Prop} {done : β → List Tree → Prop} {unit : Unit → List Tree → Prop}
  {shape : Shape → List Tree → Prop} {truth : Bool → List Tree → Prop}

@[simp, grind =] theorem spares_pure : (pure a : Program α).Spares may ts post ↔ post a ts :=
  Iff.rfl

@[simp, grind =] theorem spares_bind : (g >>= next).Spares may ts done ↔
    g.Spares may ts fun a rest => (next a).Spares may rest done := by
  -- Along the first program: its operations ask the same of the second, at what they leave.
  change (g.bind next).Spares may ts done ↔ _
  induction g generalizing ts with
  | done a => exact Iff.rfl
  | fail => exact Iff.rfl
  | look k ih => exact ih ts
  | take k ih => exact and_congr_right' ih
  | call p k ih => exact and_congr_right' (forall_congr' fun s => forall_congr' fun rest => ih s)
  | splice p k ih => exact and_congr_right' (forall_congr' fun s => forall_congr' fun rest => ih s)
  | within p k ih => exact forall_congr' fun s => ih s

@[simp] theorem spares_ite {c : Prop} [Decidable c] {h : Program α} :
    (if c then g else h).Spares may ts post ↔
      (c → g.Spares may ts post) ∧ (¬ c → h.Spares may ts post) := by
  split <;> simp_all

@[simp, grind =] theorem spares_ahead {post : List Tree → List Tree → Prop} :
    ahead.Spares may ts post ↔ post ts ts := Iff.rfl

@[simp, grind =] theorem spares_take :
    Grammar.take.Spares may ts unit ↔ isWord "pub" ts = false ∧ unit () ts.tail := Iff.rfl

@[simp, grind ←] theorem spares_refuse : (refuse : Program α).Spares may ts post := trivial

@[simp, grind =] theorem spares_call {p : Phrase} :
    (Grammar.call p).Spares may ts shape ↔ may p ts ∧ ∀ s rest, shape s rest := Iff.rfl

@[simp, grind =] theorem spares_splice {p : Phrase} :
    (Grammar.splice p).Spares may ts shape ↔ may p ts ∧ ∀ s rest, shape s rest := Iff.rfl

@[simp, grind =] theorem spares_within {p : Phrase} :
    (Grammar.within p).Spares may ts shape ↔ ∀ s, shape s ts.tail := Iff.rfl

/-- Several trees are taken one by one. -/
@[simp, grind =] theorem spares_takeMany {n : Nat} : (takeMany n).Spares may ts unit ↔
    FreeFor n ts ∧ unit () (ts.drop n) := by
  induction n generalizing ts with
  | zero => simp [takeMany, Spares, FreeFor]
  | succ n ih =>
    simp only [FreeFor, takeMany, Spares, ih, Nat.forall_lt_succ_left, List.drop_zero,
      List.drop_tail, and_assoc]

@[simp, grind =] theorem spares_takeIf {p : List Tree → Bool} : (takeIf p).Spares may ts unit ↔
    (p ts = true → isWord "pub" ts = false ∧ unit () ts.tail) := by
  simp [takeIf]

@[simp, grind =] theorem spares_expect {operator : String} : (expect operator).Spares may ts unit ↔
    (isPunct operator ts = true → unit () (ts.drop operator.length)) := by
  simp only [expect, spares_bind, spares_ahead, spares_ite, spares_takeMany, spares_refuse,
    implies_true, and_true]
  exact forall_congr' fun h => and_iff_right (freeFor_of_isPunct h)

@[simp, grind =] theorem spares_optional {operator : String} :
    (optional operator).Spares may ts truth ↔ (isPunct operator ts = true → truth true (ts.drop operator.length)) ∧
      (isPunct operator ts = false → truth false ts) := by
  simp only [optional, spares_bind, spares_ahead, spares_ite, spares_takeMany, spares_pure,
    Bool.not_eq_true]
  exact and_congr_left' (forall_congr' fun h => and_iff_right (freeFor_of_isPunct h))

@[simp, grind =] theorem spares_expectWord {word : String} (hw : word ≠ "pub") :
    (expectWord word).Spares may ts unit ↔ (isWord word ts = true → unit () ts.tail) := by
  simp only [expectWord, spares_takeIf]
  exact forall_congr' fun h => and_iff_right (not_pub_of_isWord h hw)

@[simp, grind =] theorem spares_optionalWord {word : String} (hw : word ≠ "pub") :
    (optionalWord word).Spares may ts truth ↔
      (isWord word ts = true → truth true ts.tail) ∧ (isWord word ts = false → truth false ts) := by
  simp only [optionalWord, spares_bind, spares_ahead, spares_ite, spares_take, spares_pure,
    Bool.not_eq_true]
  exact and_congr_left' (forall_congr' fun h => and_iff_right (not_pub_of_isWord h hw))

@[simp, grind =] theorem spares_expectIdent :
    expectIdent.Spares may ts unit ↔ (isIdent ts = true → unit () ts.tail) := by
  simp only [expectIdent, spares_takeIf]
  exact forall_congr' fun h => and_iff_right (not_pub_of_isIdent h)

@[simp, grind =] theorem spares_inside {d : Delimiter} {p : Phrase} :
    (inside d p).Spares may ts shape ↔ (isGroup d ts = true → ∀ s, shape s ts.tail) := by
  simp [inside]

end Recogniser

end Accessors.Grammar
