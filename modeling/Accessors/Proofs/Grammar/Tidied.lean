import Accessors.Grammar.Print
import Accessors.Proofs.Grammar.LawfulRules

/-!
# Forests brought into order

What is printed for a record is what it was recognised in, with a few forms brought into order. This
module says which forms these are, and where they can stand.

* `Tidied`: one forest is another one brought into order.
* `Node.InOrder`: the record has its arguments in order.
* `Recogniser.run_tidied`: what a program finds is printed brought into order, if what its phrases
  find is.
-/

namespace Accessors.Grammar

open Accessors.Token

variable {α : Type}

/-! ## The relation -/

/-- **The second forest is the first one brought into order**, behind a mark. Unless arguments are
in order already, any trees may stand between the brackets in place of others. -/
inductive Tidied (inOrder : Bool) : Mark → List Tree → List Tree → Prop
  | nil {m : Mark} : Tidied inOrder m [] []
  | leaf {m : Mark} (l : Leaf) {ts us : List Tree} (h : Tidied inOrder (m.after (.leaf l)) ts us) :
    Tidied inOrder m (.leaf l :: ts) (.leaf l :: us)
  | comma {m : Mark} (i j : Bool) {ts us : List Tree} (ho : inOrder)
    (h : Tidied inOrder .other ts us) :
    Tidied inOrder m (.leaf (.punct ',' i) :: ts) (.leaf (.punct ',' j) :: us)
  | group {m : Mark} (d : Delimiter) {body printed ts us : List Tree}
    (hbody : Tidied inOrder .other body printed) (h : Tidied inOrder .other ts us) :
    Tidied inOrder m (.group d body :: ts) (.group d printed :: us)
  | number {m : Mark} {text : String} {part : List Char} {ts us : List Tree}
    (hpart : positions? [.leaf (.literal text)] = some [part]) (hcolon : isPunct ":" ts = true)
    (h : Tidied inOrder .other ts us) :
    Tidied inOrder m (.leaf (.literal text) :: ts) (.leaf (.literal (positionText part)) :: us)
  | numbers {text : String} {parts : List (List Char)} {ts us : List Tree}
    (hparts : positions? [.leaf (.literal text)] = some parts)
    (h : Tidied inOrder (Mark.other.after (.leaf (.literal text))) ts us) :
    Tidied inOrder .dot (.leaf (.literal text) :: ts) (positionTrees parts ++ us)
  | arguments (list printed : List Tree) {ts us : List Tree} (ho : inOrder = false)
    (hclose : isPunct ">" ts = true) (h : Tidied inOrder .other ts us) :
    Tidied inOrder .angle (list ++ ts) (printed ++ us)
  | hidden {left ts us : List Tree} (hleft : Hidden left) (hcall : isParenthesis ts = true)
    (h : Tidied inOrder .other ts us) : Tidied inOrder .name (left ++ ts) us

/-- What can stand behind the first mark can stand behind the second one. -/
def Mark.Under (m n : Mark) : Prop := m = n ∨ m = .fresh ∨ m = .other ∧ n ≠ .fresh

theorem Mark.Under.after {m n : Mark} (h : m.Under n) (t : Tree) : (m.after t).Under (n.after t) := by
  rcases h with rfl | h
  · exact .inl rfl
  rcases t with (⟨i⟩ | ⟨i⟩ | ⟨text⟩ | ⟨c, joint⟩) | ⟨d, body⟩
  · simp only [Mark.after, Mark.Under]
    grind
  · exact .inl rfl
  · exact .inl rfl
  · simp only [Mark.after, Mark.Under]
    grind
  · exact .inl rfl

@[simp] theorem Mark.after_ne_fresh {m : Mark} {t : Tree} : m.after t ≠ .fresh := by
  rcases t with (⟨i⟩ | ⟨i⟩ | ⟨text⟩ | ⟨c, joint⟩) | ⟨d, body⟩ <;> simp [Mark.after] <;> grind

variable {inOrder : Bool} {m n : Mark} {ts us : List Tree}

theorem Tidied.mono (h : Tidied inOrder m ts us) (hm : m.Under n) : Tidied inOrder n ts us := by
  induction h generalizing n with
  | nil => exact .nil
  | leaf l _ ih => exact .leaf l (ih (hm.after _))
  | comma i j ho h => exact .comma i j ho h
  | group d hbody h => exact .group d hbody h
  | number hpart hcolon h => exact .number hpart hcolon h
  | numbers hparts h =>
    obtain rfl : n = .dot := by simpa [Mark.Under, eq_comm] using hm
    exact .numbers hparts h
  | arguments list printed ho hclose h =>
    obtain rfl : n = .angle := by simpa [Mark.Under, eq_comm] using hm
    exact .arguments list printed ho hclose h
  | hidden hleft hcall h =>
    obtain rfl : n = .name := by simpa [Mark.Under, eq_comm] using hm
    exact .hidden hleft hcall h

/-- Behind nothing special less can stand than elsewhere. -/
theorem Tidied.of_other (h : Tidied inOrder .other ts us) (hm : m ≠ .fresh) :
    Tidied inOrder m ts us := h.mono (.inr (.inr ⟨rfl, hm⟩))

/-- A forest is its own in order. -/
theorem tidied_self : ∀ (ts : List Tree) (m : Mark), Tidied inOrder m ts ts
  | [], _ => .nil
  | .leaf l :: ts, _ => .leaf l (tidied_self ts _)
  | .group d body :: ts, _ => .group d (tidied_self body _) (tidied_self ts _)

/-- A tree in front is the same in both. -/
theorem Tidied.cons (t : Tree) (h : Tidied inOrder .other ts us) :
    Tidied inOrder m (t :: ts) (t :: us) := by
  cases t with
  | leaf l => exact .leaf l (h.of_other Mark.after_ne_fresh)
  | group d body => exact .group d (tidied_self body _) h

/-- Trees in front are the same in both. -/
theorem Tidied.append (front : List Tree) (h : Tidied inOrder .other ts us) :
    Tidied inOrder .other (front ++ ts) (front ++ us) := by
  induction front with
  | nil => exact h
  | cons t front ih => exact ih.cons t

/-! ## Records in order -/

mutual

/-- The record has its arguments in order, lifetimes first. -/
def Node.InOrder : Node Shape → Prop
  | .tree _ => True
  | .group _ body => body.InOrder
  | .phrase .verbatim _ => True
  | .phrase .arguments parts =>
    (listedOf parts).Pairwise (fun a b => b.lifetime → a.lifetime) ∧ InOrderOf parts
  | .phrase _ parts => InOrderOf parts

/-- The records have their arguments in order. -/
def InOrderOf : List (Node Shape) → Prop
  | [] => True
  | n :: rest => n.InOrder ∧ InOrderOf rest

end

@[simp] theorem inOrderOf_nil : InOrderOf [] := trivial

@[simp] theorem inOrderOf_cons {n : Node Shape} {parts : List (Node Shape)} :
    InOrderOf (n :: parts) ↔ n.InOrder ∧ InOrderOf parts := Iff.rfl

@[simp] theorem inOrderOf_append {a b : List (Node Shape)} :
    InOrderOf (a ++ b) ↔ InOrderOf a ∧ InOrderOf b := by
  induction a with
  | nil => simp
  | cons n rest ih => simp [ih, and_assoc]

theorem printOf_append (a b : List (Node Shape)) : printOf (a ++ b) = printOf a ++ printOf b := by
  induction a with
  | nil => simp [printOf]
  | cons n rest ih => simp [printOf, ih]

/-- A record of plain shape is that of its parts. -/
theorem print_of_isPlain {s : Shape} (hs : s.isPlain) (parts : List (Node Shape)) :
    (Node.phrase s parts).print = printOf parts := by
  cases s <;> first | rfl | cases hs

mutual

/-- Whether a record has its arguments in order can be computed. -/
def decideInOrder : (n : Node Shape) → Decidable n.InOrder
  | .tree _ => isTrue trivial
  | .group _ body => decideInOrder body
  | .phrase s parts =>
    have := decideInOrderOf parts
    decidable_of_iff (s = .verbatim ∨ (s = .arguments →
      (listedOf parts).Pairwise fun a b => b.lifetime → a.lifetime) ∧ InOrderOf parts)
      (by cases s <;> simp [Node.InOrder])

/-- Whether several records do can be computed, too. -/
def decideInOrderOf : (parts : List (Node Shape)) → Decidable (InOrderOf parts)
  | [] => isTrue trivial
  | n :: rest =>
    match decideInOrder n, decideInOrderOf rest with
    | isTrue h, isTrue hrest => isTrue ⟨h, hrest⟩
    | isFalse h, _ => isFalse fun hall => h hall.1
    | _, isFalse hrest => isFalse fun hall => hrest hall.2

end

instance : DecidablePred Node.InOrder := decideInOrder

theorem inOrder_of_isPlain {s : Shape} (hs : s.isPlain) {parts : List (Node Shape)}
    (h : (Node.phrase s parts).InOrder) : InOrderOf parts := by
  cases s <;> first | exact h | cases hs

/-! ## What phrases find -/

/-- What is printed for the parts, with a forest behind it, is what was recognised brought into
order. Some phrases need more than nothing special in front of them. -/
def Phrase.Keeps (inOrder : Bool) (p : Phrase) (ts : List Tree) (f : Found Shape Shape) : Prop :=
  match p with
  | .hidden n => f.rest = ts.drop n
  | .angleArguments => ∀ us, Tidied inOrder .other f.rest us → ∀ m, m = .name ∨ m = .colon →
    Tidied inOrder m ts (printOf f.parts ++ us)
  | .argumentList | .captureList => inOrder → ∀ us, Tidied inOrder .other f.rest us →
    Tidied inOrder .other ts (joined (listedOf f.parts) ++ us)
  | .member => ∀ us, Tidied inOrder .other f.rest us → Tidied inOrder .dot ts (printOf f.parts ++ us)
  | .positions => ∃ t, f.parts = [.tree t] ∧ ts = t :: f.rest
  | .position => ∃ text part, positions? [.leaf (.literal text)] = some [part] ∧
    f.parts = [.tree (.leaf (.literal text))] ∧ ts = .leaf (.literal text) :: f.rest
  | p => ∀ m us, m = .other ∨ m = .fresh ∧ p.start = .fresh →
    Tidied inOrder (if p.consumes then .other else m) f.rest us →
    Tidied inOrder m ts (printOf f.parts ++ us)

/-- Phrases find what they are said to find, and it is printed brought into order. -/
structure Keeping (inOrder : Bool) (again : Phrase → List Tree → Option (Found Shape Shape)) :
    Prop where
  faithful : Faithful again
  yields : ∀ p ts f, p.isSound → again p ts = some f → p.yields f.result
  keeps : ∀ p ts f, p.isSound → again p ts = some f → (inOrder → InOrderOf f.parts) →
    p.Keeps inOrder ts f

variable {p q : Phrase} {f : Found Shape Shape}

theorem positionTrees_singleton {text : String} {part : List Char}
    (h : positions? [.leaf (.literal text)] = some [part]) :
    positionTrees [part] = [.leaf (.literal (positionText part))] := by
  have hne : part ≠ [] := by
    rintro rfl
    simp only [positions?, Option.ite_none_right_eq_some, Option.some.injEq] at h
    simp [h.2] at h
  simp [positionTrees, hne]

/-- Where a phrase can begin behind nothing special, or anywhere, it is printed brought into
order. -/
theorem Phrase.Keeps.anywhere (h : q.Keeps inOrder ts f) (hq : q.start = .fresh ∨ q.start = .other)
    (hm : m = .other ∨ m = .fresh ∧ q.start = .fresh)
    (hrest : Tidied inOrder (if q.consumes then .other else m) f.rest us) :
    Tidied inOrder m ts (printOf f.parts ++ us) := by
  cases q with
  | position =>
    obtain ⟨text, part, -, hparts, rfl⟩ := h
    rw [hparts]
    exact .leaf _ (hrest.of_other Mark.after_ne_fresh)
  | hidden n => simp [Phrase.start] at hq
  | angleArguments => simp [Phrase.start] at hq
  | argumentList => simp [Phrase.start] at hq
  | captureList => simp [Phrase.start] at hq
  | member => simp [Phrase.start] at hq
  | positions => simp [Phrase.start] at hq
  | _ => exact h m us hm hrest

/-- A phrase that yields no plain shape is kept as it is, is a position, or cannot begin behind
nothing special. -/
theorem Phrase.shape_of_yields {s : Shape} (h : q.yields s)
    (hq : q.start = .fresh ∨ q.start = .other) (hplain : s.isPlain = false) :
    s = .verbatim ∧ q.start = .other ∧ q.consumes ∨ q.isPosition ∧ s = .position := by
  cases q <;> simp_all [Phrase.yields, Phrase.start, Phrase.consumes, Phrase.isPosition]
  all_goals rcases h with rfl | rfl <;> cases hplain

variable {again : Phrase → List Tree → Option (Found Shape Shape)}

/-- So is its record. -/
theorem Keeping.node (h : Keeping inOrder again) (hsound : q.isSound) (hf : again q ts = some f)
    (hin : inOrder → (Node.phrase f.result f.parts).InOrder)
    (hq : q.start = .fresh ∨ q.start = .other) (hm : m = .other ∨ m = .fresh ∧ q.start = .fresh)
    (hcolon : q.isPosition → isPunct ":" f.rest)
    (hrest : Tidied inOrder (if q.consumes then .other else m) f.rest us) :
    Tidied inOrder m ts ((Node.phrase f.result f.parts).print ++ us) := by
  have hyields := h.yields q ts f hsound hf
  by_cases hplain : f.result.isPlain
  · rw [print_of_isPlain hplain]
    have hkeeps := h.keeps q ts f hsound hf fun ho => inOrder_of_isPlain hplain (hin ho)
    exact hkeeps.anywhere hq hm hrest
  · rcases Phrase.shape_of_yields hyields hq (by simpa using hplain) with
      ⟨hs, hstart, hconsumes⟩ | ⟨hposition, hs⟩
    · -- What is kept as it is is the same in both.
      obtain rfl : m = .other := hm.resolve_right fun h => by simp [hstart] at h
      rw [if_pos hconsumes] at hrest
      rw [hs, ← h.faithful q ts f hf]
      exact hrest.append _
    · cases q with
      | position =>
        have hparts : inOrder → InOrderOf f.parts := fun ho => by
          have hnode := hin ho
          rwa [hs] at hnode
        obtain ⟨text, part, hpart, hparts, rfl⟩ := h.keeps .position ts f hsound hf hparts
        rw [hs, hparts]
        have hprint : (Node.phrase Shape.position [.tree (.leaf (.literal text))]).print =
            positionTrees [part] := by
          rw [Node.print, treesOf, treesOf, Node.trees, List.append_nil, hpart, Option.getD_some]
        rw [hprint, positionTrees_singleton hpart]
        exact .number hpart (hcolon rfl) hrest
      | _ => cases hposition

/-- What the marks are where a program calls for a phrase, and behind it. -/
theorem Phrase.marks_of_allows {taken more : Bool} (hspecial : p.isSpecial = false)
    (h : p.Allows taken q)
    (hmore : (taken || q.consumes) = true → more = true)
    (hm : m = .other ∨ m = .fresh ∧ p.start = .fresh ∧ taken = false) :
    (q.start = .fresh ∨ q.start = .other) ∧ (m = .other ∨ m = .fresh ∧ q.start = .fresh) ∧
      ∃ n, (n = .other ∨ n = .fresh ∧ p.start = .fresh ∧ (taken || q.consumes) = false) ∧
        (if more then Mark.other else n) = (if more then .other else m) ∧
        n = if q.consumes then .other else m := by
  obtain ⟨-, hstart⟩ := h
  refine ⟨?_, ?_, if q.consumes then .other else m, ?_, ?_, rfl⟩
  · simp_all only [Bool.false_eq_true, false_or]
    exact hstart.imp id And.left
  · rcases hm with rfl | ⟨rfl, hp, rfl⟩
    · exact .inl rfl
    · simp_all
  · rcases hm with rfl | ⟨rfl, hp, rfl⟩
    · simp
    · cases q.consumes <;> simp [hp]
  · cases hq : q.consumes <;> simp_all

/-- **A program prints what it finds brought into order**, if the phrases that it calls for do. -/
theorem Recogniser.run_tidied (hspecial : p.isSpecial = false)
    (hagain : Keeping inOrder again) (g : Program α) :
    ∀ {taken : Bool} {post : α → Bool → Prop} {ts : List Tree} {f : Found Shape α},
      g.Lawful p taken post → g.run again ts = some f →
      ∃ more : Bool, (taken → more) ∧ post f.result more ∧ ((inOrder → InOrderOf f.parts) →
        ∀ m us, m = .other ∨ m = .fresh ∧ p.start = .fresh ∧ taken = false →
          Tidied inOrder (if more then .other else m) f.rest us →
          Tidied inOrder m ts (printOf f.parts ++ us)) := by
  induction g with
  | done a =>
    intro taken post ts f hg hf
    cases hf
    refine ⟨taken, id, hg, fun _ m us hm hrest => ?_⟩
    rcases hm with rfl | ⟨rfl, -, rfl⟩
    · simpa [printOf] using hrest
    · simpa [printOf] using hrest
  | fail => intro taken post ts f hg hf; cases hf
  | look next ih => intro taken post ts f hg hf; exact ih ts (hg ts) hf
  | take next ih =>
    intro taken post ts f hg hf
    cases ts with
    | nil => cases hf
    | cons t ts =>
      obtain ⟨k, hk, rfl⟩ := Option.map_eq_some_iff.1 hf
      obtain ⟨more, hmore, hpost, hnext⟩ := @ih true _ _ _ hg hk
      refine ⟨more, fun _ => hmore rfl, hpost, fun hin m us _ hrest => ?_⟩
      have hlater := hnext (fun ho => (hin ho).2) .other us (.inl rfl)
      rw [if_pos (hmore rfl)] at hlater hrest
      exact (hlater hrest).cons t
  | call q next ih =>
    intro taken post ts f hg hf
    obtain ⟨hallows, hposition, hg⟩ := hg
    have hsound := hallows.1
    simp only [run] at hf
    split at hf
    · cases hf
    · next found hfound =>
      obtain ⟨k, hk, rfl⟩ := Option.map_eq_some_iff.1 hf
      have hyields := hagain.yields q ts found hsound hfound
      obtain ⟨more, hmore, hpost, hnext⟩ := ih _ (hg _ hyields) hk
      refine ⟨more, fun ht => hmore (by simp [ht]), hpost, fun hin m us hm hrest => ?_⟩
      obtain ⟨hq, hm', n, hn, hsame, rfl⟩ :=
        Phrase.marks_of_allows hspecial hallows hmore hm
      have hlater := hnext (fun ho => (hin ho).2) _ us hn (by rwa [hsame])
      have hcolon : q.isPosition → isPunct ":" found.rest := fun hp =>
        hposition hp _ again found.rest k hk
      have hnode := hagain.node hsound hfound (fun ho => (hin ho).1) hq hm' hcolon hlater
      simpa [Found.after, printOf] using hnode
  | splice q next ih =>
    intro taken post ts f hg hf
    obtain ⟨hallows, -, hg⟩ := hg
    have hsound := hallows.1
    simp only [run] at hf
    split at hf
    · cases hf
    · next found hfound =>
      obtain ⟨k, hk, rfl⟩ := Option.map_eq_some_iff.1 hf
      have hyields := hagain.yields q ts found hsound hfound
      obtain ⟨more, hmore, hpost, hnext⟩ := ih _ (hg _ hyields) hk
      refine ⟨more, fun ht => hmore (by simp [ht]), hpost, fun hin m us hm hrest => ?_⟩
      obtain ⟨hq, hm', n, hn, hsame, rfl⟩ :=
        Phrase.marks_of_allows hspecial hallows hmore hm
      have hlater := hnext (fun ho => (inOrderOf_append.1 (hin ho)).2) _ us hn (by rwa [hsame])
      have hkeeps := hagain.keeps q ts found hsound hfound fun ho => (inOrderOf_append.1 (hin ho)).1
      have hparts := hkeeps.anywhere hq hm' hlater
      simpa [Found.after, printOf_append] using hparts
  | within q next ih =>
    intro taken post ts f hg hf
    obtain ⟨⟨hsound, hposition, hstart⟩, hg⟩ := hg
    rcases ts with _ | ⟨_ | ⟨d, body⟩, ts⟩
    · cases hf
    · cases hf
    · simp only [run] at hf
      split at hf
      · next s parts hfound =>
        obtain ⟨k, hk, rfl⟩ := Option.map_eq_some_iff.1 hf
        have hyields := hagain.yields q body _ hsound hfound
        obtain ⟨more, hmore, hpost, hnext⟩ := ih _ (hg _ hyields) hk
        refine ⟨more, fun _ => hmore rfl, hpost, fun hin m us _ hrest => ?_⟩
        have hlater := hnext (fun ho => (hin ho).2) .other us (.inl rfl)
        rw [if_pos (hmore rfl)] at hlater hrest
        -- The body is printed by itself, with nothing behind it.
        have hend : Tidied inOrder (if q.consumes then .other else .other) [] [] := by
          split <;> exact .nil
        have hbody := hagain.node hsound hfound (fun ho => (hin ho).1) hstart (.inl rfl)
          (fun hp => by simp [hposition] at hp) hend
        rw [List.append_nil] at hbody
        have hgroup := Tidied.group (m := m) d hbody (hlater hrest)
        simpa [Found.after, printOf, Node.print] using hgroup
      · cases hf

end Accessors.Grammar
