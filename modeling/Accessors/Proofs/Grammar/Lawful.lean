import Accessors.Proofs.Grammar.Facts
import Accessors.Proofs.Grammar.Runs

/-!
# Lawful programs

What a program may do can be read off its text: which phrases it begins with, and what it ends with.

* `Recogniser.Lawful`: the program of a phrase bears out the facts about it.
* `Recogniser.lawful_takeIf` and the like: the operations of the grammar, one by one.
-/

namespace Accessors.Grammar

open Accessors.Token

variable {α β : Type}

namespace Phrase

/-- The phrase is recognised in a way of its own: some of what it calls for begins where nothing else
can begin. -/
def isSpecial : Phrase → Bool
  | .segment _ | .angleArguments | .capture | .member | .trailers _ | .hidden _ => true
  | .argumentList | .captureList | .position | .positions => true
  | _ => false

/-- The program of the phrase may call for another one, if it has taken a tree or has not. -/
def Allows (p : Phrase) (taken : Bool) (q : Phrase) : Prop :=
  q.isSound ∧
    (p.isSpecial ∨ q.start = .fresh ∨ q.start = .other ∧ (p.start = .fresh → taken))

/-- The phrase can be recognised as the body of a group. -/
def Alone (q : Phrase) : Prop :=
  q.isSound ∧ q.isPosition = false ∧ (q.start = .fresh ∨ q.start = .other)

/-- The program goes on only if the test holds. -/
def Demands (next : Program α) (test : List Tree → Bool) : Prop :=
  ∀ again ts f, next.run again ts = some f → test ts

/-- A position has a colon behind it. -/
def Passes (q : Phrase) (next : Shape → Program α) : Prop :=
  q.isPosition → ∀ s, Demands (next s) (isPunct ":")

end Phrase

/-- The program bears out the facts about a phrase. What it ends with, and whether it has taken a
tree by then, have the property `post`. -/
def Recogniser.Lawful (p : Phrase) : Program α → Bool → (α → Bool → Prop) → Prop
  | .done a, taken, post => post a taken
  | .fail, _, _ => True
  | .look next, taken, post => ∀ ts, (next ts).Lawful p taken post
  | .take next, _, post => next.Lawful p true post
  | .call q next, taken, post => p.Allows taken q ∧ q.Passes next ∧
    ∀ s, q.yields s → (next s).Lawful p (taken || q.consumes) post
  | .splice q next, taken, post => p.Allows taken q ∧ q.Passes next ∧
    ∀ s, q.yields s → (next s).Lawful p (taken || q.consumes) post
  | .within q next, _, post => q.Alone ∧ ∀ s, q.yields s → (next s).Lawful p true post

theorem exists_isPunctChars (cs : List Char) : ∃ ts, isPunctChars cs ts = true := by
  refine ⟨cs.map fun c => .leaf (.punct c true), ?_⟩
  induction cs with
  | nil => rfl
  | cons c cs ih =>
    cases cs with
    | nil => simp [isPunctChars]
    | cons d cs => simpa [isPunctChars] using ih

theorem exists_isPunct (operator : String) : ∃ ts, isPunct operator ts = true :=
  exists_isPunctChars operator.toList

theorem exists_not_isPunct {operator : String} (h : operator.toList ≠ []) :
    ∃ ts, isPunct operator ts = false := by
  obtain ⟨c, cs, hc⟩ := List.exists_cons_of_ne_nil h
  exact ⟨[], by rw [isPunct, hc]; cases cs <;> rfl⟩

/-! ## The operations -/

namespace Recogniser

attribute [local instance] lawfulMonad

variable {p q : Phrase} {taken : Bool} {g : Program α} {a : α} {next : α → Program β}
  {post : α → Bool → Prop} {done : β → Bool → Prop} {k : Unit → Program α} {ask : Bool → Program α}
  {shape : Shape → Program α} {unit : Unit → Bool → Prop} {yields : Shape → Bool → Prop}

@[simp] theorem lawful_pure : (pure a : Program α).Lawful p taken post ↔ post a taken := Iff.rfl

@[simp] theorem lawful_refuse : (refuse : Program α).Lawful p taken post := trivial

@[simp] theorem lawful_refuse_bind : ((refuse : Program α) >>= next).Lawful p taken done := trivial

@[simp] theorem lawful_ahead {look : List Tree → Program α} :
    (ahead >>= look).Lawful p taken post ↔ ∀ ts, (look ts).Lawful p taken post := Iff.rfl

@[simp] theorem lawful_ite {c : Prop} [Decidable c] {h : Program α} :
    (if c then g else h).Lawful p taken post ↔
      (c → g.Lawful p taken post) ∧ (¬ c → h.Lawful p taken post) := by
  split <;> simp_all

@[simp] theorem lawful_take : (Grammar.take >>= k).Lawful p taken post ↔
    (k ()).Lawful p true post := Iff.rfl

@[simp] theorem lawful_take_end : Grammar.take.Lawful p taken unit ↔ unit () true := Iff.rfl

@[simp] theorem lawful_call : (Grammar.call q >>= shape).Lawful p taken post ↔
    p.Allows taken q ∧ q.Passes shape ∧
      ∀ s, q.yields s → (shape s).Lawful p (taken || q.consumes) post := Iff.rfl

@[simp] theorem lawful_call_end : (Grammar.call q).Lawful p taken yields ↔
    p.Allows taken q ∧ q.Passes (pure : Shape → Program Shape) ∧
      ∀ s, q.yields s → yields s (taken || q.consumes) := Iff.rfl

@[simp] theorem lawful_splice : (Grammar.splice q >>= shape).Lawful p taken post ↔
    p.Allows taken q ∧ q.Passes shape ∧
      ∀ s, q.yields s → (shape s).Lawful p (taken || q.consumes) post := Iff.rfl

@[simp] theorem lawful_splice_end : (Grammar.splice q).Lawful p taken yields ↔
    p.Allows taken q ∧ q.Passes (pure : Shape → Program Shape) ∧
      ∀ s, q.yields s → yields s (taken || q.consumes) := Iff.rfl

@[simp] theorem lawful_within : (Grammar.within q >>= shape).Lawful p taken post ↔
    q.Alone ∧ ∀ s, q.yields s → (shape s).Lawful p true post := Iff.rfl

@[simp] theorem lawful_within_end : (Grammar.within q).Lawful p taken yields ↔
    q.Alone ∧ ∀ s, q.yields s → yields s true := Iff.rfl

/-- Several trees are taken one by one. -/
@[simp] theorem lawful_takeMany {n : Nat} : (takeMany n >>= k).Lawful p taken post ↔
    (k ()).Lawful p (taken || 0 < n) post := by
  induction n generalizing taken with
  | zero => rw [show decide (0 < 0) = false from rfl, Bool.or_false]; exact Iff.rfl
  | succ n ih =>
    have hstep : (takeMany (n + 1) >>= k).Lawful p taken post ↔
        (takeMany n >>= k).Lawful p true post := Iff.rfl
    rw [hstep, ih]
    simp

/-- A tree that is taken after a look at it. -/
@[simp] theorem lawful_takeIf {test : List Tree → Bool} :
    (takeIf test >>= k).Lawful p taken post ↔
      ((∃ ts, test ts = true) → (k ()).Lawful p true post) := by
  simp [takeIf_bind]

/-- An operator that is taken after a look at it. -/
@[simp] theorem lawful_expect {operator : String} (hne : operator.toList ≠ []) :
    (expect operator >>= k).Lawful p taken post ↔ (k ()).Lawful p true post := by
  have hlen : 0 < operator.length := by
    rw [← String.length_toList]
    exact List.length_pos_iff.2 hne
  rw [expect_bind, lawful_ahead]
  simp only [lawful_ite, lawful_takeMany, lawful_refuse, implies_true, and_true, hlen, decide_true,
    Bool.or_true]
  obtain ⟨ts, hts⟩ := exists_isPunct operator
  exact ⟨fun h => h ts hts, fun h _ _ => h⟩

/-- A program that goes on with an operator has it in front of it. -/
@[simp] theorem demands_expect {operator : String} {test : List Tree → Bool}
    (htest : ∀ ts, isPunct operator ts = true → test ts = true) :
    Phrase.Demands (expect operator >>= k) test := by
  intro again ts f hf
  rw [expect, bind_assoc] at hf
  change run again ((if isPunct operator ts then takeMany operator.length else refuse) >>= k) ts =
    some f at hf
  split at hf
  · next hts => exact htest ts hts
  · cases hf

@[simp] theorem demands_ahead {g : Program α} {test : List Tree → Bool} :
    Phrase.Demands (ahead >>= fun _ => g) test ↔ Phrase.Demands g test := Iff.rfl

/-- One of two phrases is recognised in line. -/
theorem lawful_splice_ite {c : Prop} [Decidable c] {r : Phrase} :
    (Grammar.splice (if c then q else r) >>= shape).Lawful p taken post ↔
      (c → (Grammar.splice q >>= shape).Lawful p taken post) ∧
        (¬ c → (Grammar.splice r >>= shape).Lawful p taken post) := by
  split <;> simp_all

@[simp] theorem lawful_expectWord {word : String} :
    (expectWord word >>= k).Lawful p taken post ↔ (k ()).Lawful p true post := by
  rw [expectWord, lawful_takeIf]
  exact ⟨fun h => h ⟨[.leaf (.ident ⟨word, false⟩)], by simp [isWord]⟩, fun h _ => h⟩

@[simp] theorem lawful_expectIdent :
    (expectIdent >>= k).Lawful p taken post ↔ (k ()).Lawful p true post := by
  rw [expectIdent, lawful_takeIf]
  exact ⟨fun h => h ⟨[.leaf (.ident ⟨"_", true⟩)], rfl⟩, fun h _ => h⟩

/-- The body of a group that has to be there. -/
@[simp] theorem lawful_inside {d : Delimiter} : (inside d q >>= shape).Lawful p taken post ↔
    q.Alone ∧ ∀ s, q.yields s → (shape s).Lawful p true post := by
  rw [inside_bind, lawful_ahead]
  simp only [lawful_ite, lawful_within, lawful_refuse, implies_true, and_true]
  exact ⟨fun h => h [.group d []] (by simp [isGroup]), fun h _ _ => h⟩

@[simp] theorem lawful_inside_end {d : Delimiter} : (inside d q).Lawful p taken yields ↔
    q.Alone ∧ ∀ s, q.yields s → yields s true := by
  rw [← bind_pure (inside d q)]
  exact lawful_inside

/-- An operator that is taken if it is there. -/
@[simp] theorem lawful_optional {operator : String} (hne : operator.toList ≠ []) :
    (optional operator >>= ask).Lawful p taken post ↔
      (ask true).Lawful p true post ∧ (ask false).Lawful p taken post := by
  have hlen : 0 < operator.length := by
    rw [← String.length_toList]
    exact List.length_pos_iff.2 hne
  rw [optional_bind, lawful_ahead]
  simp only [lawful_ite, lawful_takeMany, hlen, decide_true, Bool.or_true]
  obtain ⟨ts, hts⟩ := exists_isPunct operator
  obtain ⟨us, hus⟩ := exists_not_isPunct hne
  exact ⟨fun h => ⟨(h ts).1 hts, (h us).2 (by simp [hus])⟩, fun h _ => ⟨fun _ => h.1, fun _ => h.2⟩⟩

@[simp] theorem lawful_optional_end {operator : String} {truth : Bool → Bool → Prop}
    (hne : operator.toList ≠ []) :
    (optional operator).Lawful p taken truth ↔ truth true true ∧ truth false taken := by
  rw [← bind_pure (optional operator)]
  exact lawful_optional hne

@[simp] theorem lawful_optionalWord {word : String} :
    (optionalWord word >>= ask).Lawful p taken post ↔
      (ask true).Lawful p true post ∧ (ask false).Lawful p taken post := by
  rw [optionalWord_bind, lawful_ahead]
  simp only [lawful_ite, lawful_take]
  refine ⟨fun h => ⟨?_, ?_⟩, fun h _ => ⟨fun _ => h.1, fun _ => h.2⟩⟩
  · exact (h [.leaf (.ident ⟨word, false⟩)]).1 (by simp [isWord])
  · exact (h []).2 (by simp [isWord])

end Recogniser

end Accessors.Grammar
