import Accessors.Proofs.Grammar.Invocations
import Accessors.Proofs.Grammar.Lawful

/-!
# Steady programs

A program is steady if it asks only questions that have the same answers for a forest brought into order,
so that it does the same there.

* `Recogniser.Steady`: a program that asks such questions only.
* `steady_expect` and the like: the operations of the grammar, as questions.
-/

namespace Accessors.Grammar

open Accessors.Token

variable {α β : Type}

/-- What a phrase begins behind, where it takes a tree. -/
def Phrase.isFresh (p : Phrase) : Bool := p.start == .fresh && p.consumes

/-- **The program does the same with a forest brought into order.** -/
def Recogniser.Steady : Bool → Program α → Prop
  | _, .done _ => True
  | _, .fail => True
  | fresh, .look next => Asks fresh next ∧ ∀ ts, (next ts).Steady fresh
  | _, .take next => next.Steady false
  | fresh, .call q next => ∀ s, (next s).Steady (fresh && !q.consumes)
  | fresh, .splice q next => ∀ s, (next s).Steady (fresh && !q.consumes)
  | _, .within _ next => ∀ s, (next s).Steady false

namespace Recogniser

attribute [local instance] lawfulMonad

variable {q : Phrase} {fresh : Bool} {g h : Program α} {a : α} {next : α → Program β}
  {k : Unit → Program α} {ask : Bool → Program α} {shape : Shape → Program α}

/-! ## The operations -/

theorem steady_pure : (pure a : Program α).Steady fresh ↔ True := Iff.rfl

theorem steady_refuse : (refuse : Program α).Steady fresh ↔ True := Iff.rfl

theorem steady_refuse_bind : ((refuse : Program α) >>= next).Steady fresh ↔ True := Iff.rfl

theorem steady_ahead {look : List Tree → Program α} : (ahead >>= look).Steady fresh ↔
    Asks fresh look ∧ ∀ ts, (look ts).Steady fresh := Iff.rfl

theorem steady_ite {c : Prop} [Decidable c] : (if c then g else h).Steady fresh ↔
    (c → g.Steady fresh) ∧ (¬ c → h.Steady fresh) := by
  split <;> simp_all

theorem steady_take : (Grammar.take >>= k).Steady fresh ↔ (k ()).Steady false := Iff.rfl

theorem steady_take_end : Grammar.take.Steady fresh ↔ True := Iff.rfl

theorem steady_call : (Grammar.call q >>= shape).Steady fresh ↔
    ∀ s, (shape s).Steady (fresh && !q.consumes) := Iff.rfl

theorem steady_call_end : (Grammar.call q).Steady fresh ↔ True := iff_true_intro fun _ => trivial

theorem steady_splice : (Grammar.splice q >>= shape).Steady fresh ↔
    ∀ s, (shape s).Steady (fresh && !q.consumes) := Iff.rfl

theorem steady_splice_end : (Grammar.splice q).Steady fresh ↔ True := iff_true_intro fun _ => trivial

theorem steady_within : (Grammar.within q >>= shape).Steady fresh ↔
    ∀ s, (shape s).Steady false := Iff.rfl

theorem steady_within_end : (Grammar.within q).Steady fresh ↔ True := iff_true_intro fun _ => trivial

theorem steady_takeMany {n : Nat} : (takeMany n >>= k).Steady fresh ↔
    (k ()).Steady (fresh && n == 0) := by
  induction n generalizing fresh with
  | zero => rw [show (0 == 0) = true from rfl, Bool.and_true]; exact Iff.rfl
  | succ n ih =>
    have hstep : (takeMany (n + 1) >>= k).Steady fresh ↔ (takeMany n >>= k).Steady false := Iff.rfl
    rw [hstep, ih]
    simp

theorem steady_takeIf {test : List Tree → Bool} : (takeIf test >>= k).Steady fresh ↔
    Asks fresh (fun ts => if test ts then Grammar.take >>= k else refuse) ∧
      ((∃ ts, test ts = true) → (k ()).Steady false) := by
  rw [takeIf_bind, steady_ahead]
  simp only [steady_ite, steady_take, steady_refuse, implies_true, and_true, forall_exists_index]

theorem steady_expect {operator : String} (hne : operator.toList ≠ []) :
    (expect operator >>= k).Steady fresh ↔
      Asks fresh (fun ts => if isPunct operator ts then takeMany operator.length >>= k else refuse) ∧
        (k ()).Steady false := by
  have hlen : (operator.length == 0) = false := by
    rw [← String.length_toList, beq_eq_false_iff_ne]
    exact List.length_eq_zero_iff.not.2 hne
  obtain ⟨ts, hts⟩ := exists_isPunct operator
  rw [expect_bind, steady_ahead]
  simp only [steady_ite, steady_takeMany, steady_refuse, implies_true, and_true, hlen,
    Bool.and_false]
  exact and_congr_right fun _ => ⟨fun h => h ts hts, fun h _ _ => h⟩

theorem steady_optional {operator : String} (hne : operator.toList ≠ []) :
    (optional operator >>= ask).Steady fresh ↔
      Asks fresh (fun ts => if isPunct operator ts then
        takeMany operator.length >>= fun _ => ask true else ask false) ∧
        (ask true).Steady false ∧ (ask false).Steady fresh := by
  have hlen : (operator.length == 0) = false := by
    rw [← String.length_toList, beq_eq_false_iff_ne]
    exact List.length_eq_zero_iff.not.2 hne
  obtain ⟨ts, hts⟩ := exists_isPunct operator
  obtain ⟨us, hus⟩ := exists_not_isPunct hne
  rw [optional_bind, steady_ahead]
  simp only [steady_ite, steady_takeMany, hlen, Bool.and_false]
  exact and_congr_right fun _ =>
    ⟨fun h => ⟨(h ts).1 hts, (h us).2 (by simp [hus])⟩, fun h _ => ⟨fun _ => h.1, fun _ => h.2⟩⟩

theorem steady_optionalWord {word : String} : (optionalWord word >>= ask).Steady fresh ↔
    Asks fresh (fun ts => if isWord word ts then Grammar.take >>= fun _ => ask true
      else ask false) ∧ (ask true).Steady false ∧ (ask false).Steady fresh := by
  rw [optionalWord_bind, steady_ahead]
  simp only [steady_ite, steady_take]
  refine and_congr_right fun _ => ⟨fun h => ⟨?_, ?_⟩, fun h _ => ⟨fun _ => h.1, fun _ => h.2⟩⟩
  · exact (h [.leaf (.ident ⟨word, false⟩)]).1 (by simp [isWord])
  · exact (h []).2 (by simp [isWord])

theorem steady_inside {d : Delimiter} : (inside d q >>= shape).Steady fresh ↔
    Asks fresh (fun ts => if isGroup d ts then Grammar.within q >>= shape else refuse) ∧
      ∀ s, (shape s).Steady false := by
  rw [inside_bind, steady_ahead]
  simp only [steady_ite, steady_within, steady_refuse, implies_true, and_true]
  exact and_congr_right fun _ => ⟨fun h => h [.group d []] (by simp [isGroup]), fun h _ _ => h⟩

theorem steady_inside_end {d : Delimiter} : (inside d q).Steady fresh ↔
    Asks fresh (fun ts => if isGroup d ts then Grammar.within q else refuse) := by
  rw [inside, steady_ahead]
  simp only [steady_ite, steady_within_end, steady_refuse, implies_true, and_true]

/-- One of two phrases is recognised in line. -/
theorem steady_splice_ite {c : Prop} [Decidable c] {r : Phrase} :
    (Grammar.splice (if c then q else r) >>= shape).Steady fresh ↔
      (c → (Grammar.splice q >>= shape).Steady fresh) ∧
        (¬ c → (Grammar.splice r >>= shape).Steady fresh) := by
  split <;> simp_all

end Recogniser

end Accessors.Grammar
