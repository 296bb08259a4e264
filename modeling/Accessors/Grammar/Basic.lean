import Accessors.Token.Tree

/-!
# Grammars over token trees

A grammar gives each of its phrases a program of a few operations: look at what is left, take the
next tree, descend into the next group, or recognise another phrase. Trees are taken in order and
none is left out, so whatever a program recognises is an exact record of the trees it took.

* `Recogniser`: such programs, with a result.
* `Node`: the record of a phrase, a tree whose leaves are token trees.
* `recognise`: runs the program of a phrase on a forest.
* `trees_append_rest`: the trees of the record, followed by what is left, are the forest.
-/

namespace Accessors.Grammar

open Accessors.Token

variable {ν σ α β : Type}

/-- What a phrase was recognised from. A phrase has a shape, which says what sort of thing it
turned out to be. -/
inductive Node (σ : Type) where
  | tree (t : Tree)
  | group (d : Delimiter) (body : Node σ)
  | phrase (shape : σ) (parts : List (Node σ))
  deriving Repr

mutual

/-- The token trees of a record. -/
def Node.trees : Node σ → List Tree
  | .tree t => [t]
  | .group d body => [.group d body.trees]
  | .phrase _ parts => treesOf parts

/-- The token trees of a series of records. -/
def treesOf : List (Node σ) → List Tree
  | [] => []
  | n :: rest => n.trees ++ treesOf rest

end

/-- A program that recognises the beginning of a forest. -/
inductive Recogniser (ν σ α : Type) where
  /-- Nothing more is needed. -/
  | done (a : α)
  /-- The forest does not fit. -/
  | fail
  /-- Looks at all that is left. -/
  | look (next : List Tree → Recogniser ν σ α)
  /-- Takes the next tree. -/
  | take (next : Recogniser ν σ α)
  /-- Recognises a phrase, which becomes one part of this one. -/
  | call (p : ν) (next : σ → Recogniser ν σ α)
  /-- Recognises a phrase whose parts become parts of this one. -/
  | splice (p : ν) (next : σ → Recogniser ν σ α)
  /-- Recognises a phrase as the whole body of the next group. -/
  | within (p : ν) (next : σ → Recogniser ν σ α)

namespace Recogniser

/-- One program after another. -/
def bind : Recogniser ν σ α → (α → Recogniser ν σ β) → Recogniser ν σ β
  | done a, f => f a
  | fail, _ => fail
  | look next, f => look fun ts => (next ts).bind f
  | take next, f => take (next.bind f)
  | call p next, f => call p fun s => (next s).bind f
  | splice p next, f => splice p fun s => (next s).bind f
  | within p next, f => within p fun s => (next s).bind f

instance : Monad (Recogniser ν σ) where
  pure := done
  bind := bind

end Recogniser

/-- What recognising yields: a result, the parts recognised, and what is left. -/
structure Found (σ α : Type) where
  result : α
  parts : List (Node σ)
  rest : List Tree

/-- Puts earlier parts in front. -/
def Found.after (parts : List (Node σ)) (f : Found σ α) : Found σ α :=
  { f with parts := parts ++ f.parts }

/-- Runs a program on a forest; `again` recognises the phrases that it calls for. -/
def Recogniser.run (again : ν → List Tree → Option (Found σ σ)) :
    Recogniser ν σ α → List Tree → Option (Found σ α)
  | done a, ts => some ⟨a, [], ts⟩
  | fail, _ => none
  | look next, ts => (next ts).run again ts
  | take _, [] => none
  | take next, t :: ts => (next.run again ts).map (·.after [.tree t])
  | call p next, ts =>
    match again p ts with
    | none => none
    | some f => ((next f.result).run again f.rest).map (·.after [.phrase f.result f.parts])
  | splice p next, ts =>
    match again p ts with
    | none => none
    | some f => ((next f.result).run again f.rest).map (·.after f.parts)
  | within p next, .group d body :: ts =>
    match again p body with
    | some ⟨s, parts, []⟩ =>
      ((next s).run again ts).map (·.after [.group d (.phrase s parts)])
    | _ => none
  | within _ _, _ => none

/-- Recognises a phrase at the beginning of a forest, with programs nested as deep as `fuel`
allows. -/
def recogniseWithin (rule : ν → Recogniser ν σ σ) : Nat → ν → List Tree → Option (Found σ σ)
  | 0, _, _ => none
  | fuel + 1, p, ts => (rule p).run (recogniseWithin rule fuel) ts

/-- How deep programs nest over a forest. Few phrases begin with one another before one of them
takes a tree. -/
def depthFor (ts : List Tree) : Nat := 64 * (Token.sizeOf ts + 1)

/-- Recognises a phrase at the beginning of a forest: its record, and what is left. -/
def recognise (rule : ν → Recogniser ν σ σ) (p : ν) (ts : List Tree) :
    Option (Node σ × List Tree) :=
  (recogniseWithin rule (depthFor ts) p ts).map fun f => (.phrase f.result f.parts, f.rest)

/-! ## Nothing is lost -/

@[simp] theorem trees_tree (t : Tree) : (Node.tree t : Node σ).trees = [t] := by simp [Node.trees]

@[simp] theorem trees_group (d : Delimiter) (body : Node σ) :
    (Node.group d body).trees = [.group d body.trees] := by simp [Node.trees]

@[simp] theorem trees_phrase (s : σ) (parts : List (Node σ)) :
    (Node.phrase s parts).trees = treesOf parts := by simp [Node.trees]

@[simp] theorem treesOf_nil : treesOf ([] : List (Node σ)) = [] := by simp [treesOf]

@[simp] theorem treesOf_cons (n : Node σ) (rest : List (Node σ)) :
    treesOf (n :: rest) = n.trees ++ treesOf rest := by simp [treesOf]

theorem treesOf_append (a b : List (Node σ)) : treesOf (a ++ b) = treesOf a ++ treesOf b := by
  induction a with
  | nil => simp
  | cons n rest ih => simp [ih]

/-- A way to recognise phrases that accounts for every tree. -/
def Faithful (again : ν → List Tree → Option (Found σ σ)) : Prop :=
  ∀ p ts f, again p ts = some f → treesOf f.parts ++ f.rest = ts

theorem Recogniser.run_faithful {again : ν → List Tree → Option (Found σ σ)}
    (h : Faithful again) (g : Recogniser ν σ α) :
    ∀ (ts : List Tree) (f : Found σ α), g.run again ts = some f →
      treesOf f.parts ++ f.rest = ts := by
  induction g with
  | done a => intro ts f hf; simp only [run, Option.some.injEq] at hf; subst hf; simp
  | fail => intro ts f hf; simp [run] at hf
  | look next ih => intro ts f hf; exact ih ts ts f hf
  | take next ih =>
    intro ts f hf
    cases ts with
    | nil => simp [run] at hf
    | cons t ts =>
      simp only [run, Option.map_eq_some_iff] at hf
      obtain ⟨g, hg, rfl⟩ := hf
      simp [Found.after, ih ts g hg]
  | call p next ih =>
    intro ts f hf
    simp only [run] at hf
    split at hf
    · cases hf
    · next found hp =>
      simp only [Option.map_eq_some_iff] at hf
      obtain ⟨g, hg, rfl⟩ := hf
      simp [Found.after, ih _ _ g hg, h _ _ _ hp]
  | splice p next ih =>
    intro ts f hf
    simp only [run] at hf
    split at hf
    · cases hf
    · next found hp =>
      simp only [Option.map_eq_some_iff] at hf
      obtain ⟨g, hg, rfl⟩ := hf
      simp [Found.after, treesOf_append, ih _ _ g hg, h _ _ _ hp]
  | within p next ih =>
    intro ts f hf
    match ts with
    | [] => simp [run] at hf
    | .leaf l :: ts => simp [run] at hf
    | .group d body :: ts =>
      simp only [run] at hf
      split at hf
      · next s parts hp =>
        simp only [Option.map_eq_some_iff] at hf
        obtain ⟨g, hg, rfl⟩ := hf
        have hbody := h _ _ _ hp
        simp only [List.append_nil] at hbody
        simp [Found.after, ih _ _ g hg, hbody]
      · cases hf

theorem recogniseWithin_faithful (rule : ν → Recogniser ν σ σ) (fuel : Nat) :
    Faithful (recogniseWithin rule fuel) := by
  induction fuel with
  | zero => intro p ts f hf; simp [recogniseWithin] at hf
  | succ fuel ih => intro p ts f hf; exact Recogniser.run_faithful ih (rule p) ts f hf

/-- **Nothing is lost.** The trees of a phrase's record, followed by what is left, are the forest
it was recognised in. -/
theorem trees_append_rest {rule : ν → Recogniser ν σ σ} {p : ν} {ts rest : List Tree} {n : Node σ}
    (h : recognise rule p ts = some (n, rest)) : n.trees ++ rest = ts := by
  simp only [recognise, Option.map_eq_some_iff, Prod.mk.injEq] at h
  obtain ⟨f, hf, rfl, rfl⟩ := h
  exact recogniseWithin_faithful rule _ _ _ _ hf

end Accessors.Grammar
