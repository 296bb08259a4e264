import Accessors.Grammar.Rules

/-!
# Places in a forest

A record is printed with a few forms brought into order. Where these can stand depends on the tree in
front of them.

* `Mark`: what the tree in front lets a forest begin with.
* `Hidden`: the trees that are left out in front of a call.
* `eq_cons_of_isPunctChars` and the like: what a forest is that a question is answered yes for.
-/

namespace Accessors.Grammar

open Accessors.Text Accessors.Token

/-- What the tree in front lets a forest begin with. -/
inductive Mark where
  /-- Nothing special. -/
  | other
  /-- Nothing special, nor behind a name in front. -/
  | fresh
  /-- Behind a name, where arguments can stand. -/
  | name
  /-- Behind half of a separator. -/
  | colon
  /-- Behind a dot. -/
  | dot
  /-- Behind the bracket that opens arguments. -/
  | angle
  deriving DecidableEq

/-- The identifier can have arguments: it is a name, a word that a path goes through, or the word
for captured names. -/
def Ident.takesArguments (i : Ident) : Bool :=
  Ident.isName i || (pathWords ++ ["Self", "use"]).contains i.name

/-- A literal that ends with a dot. -/
def endsWithDot (text : String) : Bool := text.toList.getLast? == some '.'

/-- The mark behind a tree. -/
def Mark.after (m : Mark) : Tree → Mark
  | .leaf (.ident i) => if Ident.takesArguments i && m != .fresh then .name else .other
  | .leaf (.literal text) => if endsWithDot text then .dot else .other
  | .leaf (.punct c _) =>
    if c = ':' then .colon
    else if c = '.' then .dot
    else if c = '<' ∧ (m = .name ∨ m = .colon) then .angle
    else .other
  | _ => .other

/-- Trees that are not printed: empty angle brackets, perhaps behind a separator. -/
inductive Hidden : List Tree → Prop
  | angles (i j : Bool) : Hidden [.leaf (.punct '<' i), .leaf (.punct '>' j)]
  | separated (joint i j : Bool) : Hidden [.leaf (.punct ':' true), .leaf (.punct ':' joint),
    .leaf (.punct '<' i), .leaf (.punct '>' j)]

variable {ts : List Tree}

theorem eq_cons_of_isPunctChars {c : Char} {cs : List Char} (h : isPunctChars (c :: cs) ts = true) :
    ∃ joint rest, ts = .leaf (.punct c joint) :: rest ∧
      (cs ≠ [] → joint = true ∧ isPunctChars cs rest = true) := by
  unfold isPunctChars at h
  split at h
  · simp_all
  · simp_all
  · next hcs =>
    simp only [Bool.and_eq_true, beq_iff_eq] at h
    simp_all
  · cases h

theorem eq_cons_of_separator (h : isPunct "::" ts = true) :
    ∃ joint rest, ts = .leaf (.punct ':' true) :: .leaf (.punct ':' joint) :: rest := by
  have hchars : isPunctChars [':', ':'] ts = true := h
  obtain ⟨_, rest, rfl, hmore⟩ := eq_cons_of_isPunctChars hchars
  obtain ⟨rfl, hrest⟩ := hmore (by simp)
  obtain ⟨joint, rest, rfl, -⟩ := eq_cons_of_isPunctChars hrest
  exact ⟨joint, rest, rfl⟩

theorem eq_cons_of_isGroup {d : Delimiter} (h : isGroup d ts = true) :
    ∃ body rest, ts = .group d body :: rest := by
  unfold isGroup at h
  split at h
  · rw [beq_iff_eq] at h
    exact ⟨_, _, by rw [h]⟩
  · cases h

theorem eq_cons_of_isWord {word : String} (h : isWord word ts = true) :
    ∃ rest, ts = .leaf (.ident ⟨word, false⟩) :: rest := by
  unfold isWord at h
  split at h
  · next i rest =>
    obtain ⟨name, raw⟩ := i
    simp only [Bool.and_eq_true, Bool.not_eq_true', beq_iff_eq] at h
    exact ⟨rest, by rw [h.1, h.2]⟩
  · cases h

theorem eq_cons_of_isIdent (h : isIdent ts = true) : ∃ i rest, ts = .leaf (.ident i) :: rest := by
  unfold isIdent at h
  split at h
  · exact ⟨_, _, rfl⟩
  · cases h

theorem eq_cons_of_isLifetime (h : isLifetime ts = true) :
    ∃ name rest, ts = .leaf (.lifetime name) :: rest := by
  unfold isLifetime at h
  split at h
  · exact ⟨_, _, rfl⟩
  · cases h

end Accessors.Grammar
