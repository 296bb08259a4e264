import Accessors.Proofs.Grammar.Lookahead
import Accessors.Proofs.Grammar.Runs
import Accessors.Proofs.Grammar.Spacing

/-!
# Phrases that end where they end

What a program finds in a forest can depend on what stands behind the part that it takes, because it
looks at all that is left. This module says what it means that it does not.

* `Settles`: a program finds the same, but for spacing, if something else stands behind.
* `settles_bind`, `settles_bind_inner`: so do programs one after another. The first one may rely on
  a tree that the second one takes.
* `settles_ahead`: so does a program that looks ahead, if it asks nothing about what stands behind.
-/

namespace Accessors.Grammar

open Accessors.Token
open Recogniser

variable {α β : Type}

/-- The second result is the first one with something else behind; `rest` was left before that. -/
structure Settled (x : Exchange) (k l : Found Shape α) (rest : List Tree) : Prop where
  result : l.result = k.result
  parts : unspacedOf l.parts = unspacedOf k.parts
  rest : l.rest = x.turn rest

/-- What has to be left in front of what stands behind. -/
inductive Need where
  | any
  /-- Not just an exclamation mark that is half of a comparison. -/
  | quiet
  /-- Some tree, too, unless the same ends the type. -/
  | some

namespace Need

def holds (x : Exchange) : Need → List Tree → Prop
  | any, _ => True
  | quiet, rest => Quiet x rest
  | some, rest => (x.same ∨ rest ≠ []) ∧ Quiet x rest

/-- The first one is needed wherever the second one is. -/
def le : Need → Need → Bool
  | any, _ | quiet, quiet | quiet, some | some, some => true
  | _, _ => false

theorem holds_of_le {x : Exchange} {m n : Need} (h : m.le n = true) {rest : List Tree}
    (hn : n.holds x rest) : m.holds x rest := by
  cases m <;> cases n <;> first | trivial | exact hn | exact hn.2

end Need

/-- Runs that leave what stands behind, and in front of it what is needed, find the same if something
else stands behind. -/
def SettlesBy (x : Exchange) (need : Need) (run : List Tree → Option (Found Shape α)) : Prop :=
  ∀ ts k rest, x.fits ts → run (ts ++ x.after) = some k → k.rest = rest ++ x.after →
    need.holds x rest → ∃ l, run (x.turn ts) = some l ∧ Settled x k l rest

section Programs

variable (again : Phrase → List Tree → Option (Found Shape Shape)) (x : Exchange)

/-- The program finds the same if something else stands behind. -/
abbrev Settles (need : Need) (g : Program α) : Prop := SettlesBy x need (g.run again)

/-- The program takes a tree if it succeeds. -/
def Takes (g : Program α) : Prop :=
  ∀ ts k, g.run again ts = some k → treesOf k.parts ≠ []

/-- An exclamation mark that goes on as an operator. -/
abbrev bang : Tree := .leaf (.punct '!' true)

/-- The program takes nothing where such a mark comes next. -/
def Shy (g : Program α) : Prop :=
  ∀ ts k, g.run again (bang :: ts) = some k → k.rest = bang :: ts

end Programs

variable {again : Phrase → List Tree → Option (Found Shape Shape)} {x : Exchange}
  {need inner : Need} {g : Program α} {next : α → Program β}

/-- What holds wherever less is needed holds where more is. -/
theorem SettlesBy.weaken {run : List Tree → Option (Found Shape α)} (h : SettlesBy x inner run)
    (hle : inner.le need = true) : SettlesBy x need run :=
  fun ts k rest hts hk hrest hneed => h ts k rest hts hk hrest (Need.holds_of_le hle hneed)

theorem settles_pure (a : α) : Settles again x need (pure a : Program α) := by
  intro ts k rest _ hk hrest _
  rw [run_pure] at hk
  subst hk
  obtain rfl : ts = rest := List.append_cancel_right hrest
  exact ⟨⟨a, [], x.turn ts⟩, rfl, rfl, rfl, rfl⟩

theorem settles_refuse : Settles again x need (refuse : Program α) :=
  fun _ _ _ _ hk => absurd hk run_refuse

theorem settles_take : Settles again x need take := by
  intro ts k rest _ hk hrest _
  obtain ⟨t, others, hts, rfl⟩ := run_take.1 hk
  obtain rfl : others = rest ++ x.after := hrest
  obtain rfl : ts = t :: rest := List.append_cancel_right hts
  obtain ⟨u, hu, halone⟩ := x.turn_cons t rest
  exact ⟨⟨(), [.tree u], x.turn rest⟩, run_take.2 ⟨u, x.turn rest, hu, rfl⟩, rfl,
    by simp [Node.unspaced, halone], rfl⟩

theorem settles_call {p : Phrase} (hp : SettlesBy x need (again p)) :
    Settles again x need (call p) := by
  intro ts k rest hts hk hrest hneed
  obtain ⟨found, hfound, rfl⟩ := run_call.1 hk
  obtain ⟨l, hl, hsettled⟩ := hp ts found rest hts hfound hrest hneed
  refine ⟨_, run_call.2 ⟨l, hl, rfl⟩, hsettled.result, ?_, hsettled.rest⟩
  simp [Node.unspaced, hsettled.result, hsettled.parts]

theorem settles_splice {p : Phrase} (hp : SettlesBy x need (again p)) :
    Settles again x need (splice p) := by
  intro ts k rest hts hk hrest hneed
  obtain ⟨l, hl, hsettled⟩ := hp ts k rest hts (run_splice.1 hk) hrest hneed
  exact ⟨l, run_splice.2 hl, hsettled⟩

/-- A group is recognised as a whole. -/
theorem settles_within (p : Phrase) : Settles again x need (within p) := by
  intro ts k rest _ hk hrest _
  obtain ⟨d, body, others, found, hts, hbody, hend, rfl⟩ := run_within.1 hk
  obtain rfl : others = rest ++ x.after := hrest
  obtain rfl : ts = .group d body :: rest := List.append_cancel_right hts
  have hts := x.turn_group d body rest
  exact ⟨_, run_within.2 ⟨d, body, _, found, hts, hbody, hend, rfl⟩, rfl, rfl, rfl⟩

/-- An operator of one character takes a tree, whatever follows it. -/
theorem takes_expect {operator : String} (hlength : operator.length = 1)
    {later : Unit → Program β} : Takes again (expect operator >>= later) := by
  intro ts k hk
  obtain ⟨k₁, hk₁, k₂, -, rfl⟩ := run_bind.1 hk
  obtain ⟨-, t, rest, -, rfl⟩ := (run_expect hlength).1 hk₁
  simp [Found.after]

theorem takes_bind (h : ∀ a, Takes again (next a)) : Takes again (g >>= next) := by
  intro ts k hk
  obtain ⟨k₁, -, k₂, hk₂, rfl⟩ := run_bind.1 hk
  rw [Found.after, treesOf_append]
  exact List.append_ne_nil_of_right_ne_nil _ (h _ _ _ hk₂)

theorem settles_ite {c : Prop} [Decidable c] {h : Program α} (hg : Settles again x need g)
    (hh : Settles again x need h) : Settles again x need (if c then g else h) := by
  split
  · exact hg
  · exact hh

/-- What is taken stands in front of what stands behind, even if it ends a type elsewhere. -/
theorem settles_closer {operator : String} {c : Char} (hc : operator.toList = [c]) :
    Settles again x need (expect operator) := by
  have hlength : operator.length = 1 := by rw [← String.length_toList, hc]; rfl
  intro ts k rest _ hk hrest _
  obtain ⟨hcloser, t, others, hts, rfl⟩ := (run_expect hlength).1 hk
  obtain rfl : others = rest ++ x.after := hrest
  obtain rfl : ts = t :: rest := List.append_cancel_right hts
  rw [isPunct_turn hc (.inr (List.cons_ne_nil t rest))] at hcloser
  obtain ⟨u, hu, halone⟩ := x.turn_cons t rest
  exact ⟨⟨(), [.tree u], x.turn rest⟩, (run_expect hlength).2 ⟨hcloser, u, x.turn rest, hu, rfl⟩,
    rfl, by simp [Node.unspaced, halone], rfl⟩

/-! ## Programs that take no exclamation mark -/

theorem shy_pure (a : α) : Shy again (pure a : Program α) := by
  intro ts k hk
  rw [run_pure] at hk
  rw [← hk]

theorem shy_refuse : Shy again (refuse : Program α) := fun _ _ hk => absurd hk run_refuse

theorem shy_ite {c : Prop} [Decidable c] {h : Program α} (hg : Shy again g) (hh : Shy again h) :
    Shy again (if c then g else h) := by
  split
  · exact hg
  · exact hh

theorem shy_look (h : Shy again g) : Shy again (ahead >>= fun _ => g) := h

/-- Where the mark comes next, the program goes on with the second one of two. -/
theorem shy_ask {f : List Tree → Bool} {g h : List Tree → Program β}
    (hf : ∀ ts, f (bang :: ts) = false) (hh : Shy again (ahead >>= h)) :
    Shy again (ahead >>= fun ts => if f ts = true then g ts else h ts) := by
  intro ts k hk
  rw [run_ahead_bind, hf ts] at hk
  exact hh ts k hk

theorem isPunct_bang {operator : String} (h : operator.toList.head? ≠ some '!')
    (hne : operator.toList ≠ []) (ts : List Tree) : isPunct operator (bang :: ts) = false := by
  obtain ⟨c, cs, hcs⟩ := List.exists_cons_of_ne_nil hne
  rw [hcs, List.head?_cons] at h
  have hc : (c == '!') = false := beq_false_of_ne fun he => h (by rw [he])
  rw [isPunct, hcs]
  cases cs <;> simp [isPunctChars, hc]

theorem shy_optional {operator : String} {ask : Bool → Program β}
    (hop : operator.toList.head? ≠ some '!') (hne : operator.toList ≠ [])
    (h : Shy again (ask false)) : Shy again (optional operator >>= ask) := by
  intro ts k hk
  obtain ⟨k₁, hk₁, k₂, hk₂, rfl⟩ := run_bind.1 hk
  rw [optional, run_ahead_bind, isPunct_bang hop hne] at hk₁
  cases hk₁
  exact h ts k₂ hk₂

theorem shy_optionalWord {word : String} {ask : Bool → Program β} (h : Shy again (ask false)) :
    Shy again (optionalWord word >>= ask) := by
  intro ts k hk
  obtain ⟨k₁, hk₁, k₂, hk₂, rfl⟩ := run_bind.1 hk
  cases hk₁
  exact h ts k₂ hk₂

/-- An operator that has to be there is no such mark. -/
theorem shy_expect {operator : String} {k : Unit → Program β}
    (hop : operator.toList.head? ≠ some '!') (hne : operator.toList ≠ []) :
    Shy again (expect operator >>= k) := by
  intro ts f hf
  obtain ⟨k₁, hk₁, -⟩ := run_bind.1 hf
  rw [expect, run_ahead_bind, isPunct_bang hop hne] at hk₁
  cases hk₁

theorem shy_splice_bind {p : Phrase} {shape : Shape → Program β}
    (hp : ∀ ts k, again p (bang :: ts) = some k → k.rest = bang :: ts)
    (h : ∀ s, Shy again (shape s)) : Shy again (splice p >>= shape) := by
  intro ts f hf
  obtain ⟨j, l, hj, hl, rfl⟩ := run_splice_bind.1 hf
  rw [hp ts j hj] at hl
  exact h _ ts l hl

/-- What is left to a program is no exclamation mark if it would leave one. -/
theorem quiet_of_left {ts rest : List Tree} {k : Found Shape α} (hrest : k.rest = rest ++ x.after)
    (hquiet : Quiet x rest) (hleft : ts = [bang] → k.rest = bang :: x.after) : Quiet x ts := by
  refine hquiet.imp id fun hquiet hts => hquiet ?_
  have hsame := hleft hts
  rw [hrest] at hsame
  exact List.append_cancel_right (hsame : rest ++ x.after = [bang] ++ x.after)

section Faithful

variable (hfaithful : Faithful again)
include hfaithful

/-- One program after another. The first one may need something in front of what stands behind, which
the second one takes or leaves. -/
theorem settles_bind_inner (hg : Settles again x inner g)
    (hnext : ∀ a, Settles again x need (next a))
    (hinner : ∀ a ts k rest, (next a).run again (ts ++ x.after) = some k →
      k.rest = rest ++ x.after → need.holds x rest → inner.holds x ts) :
    Settles again x need (g >>= next) := by
  intro ts k rest hts hk hrest hneed
  obtain ⟨k₁, hk₁, k₂, hk₂, rfl⟩ := run_bind.1 hk
  -- The first program leaves what the second one takes and leaves.
  have hsplit : k₁.rest = treesOf k₂.parts ++ rest ++ x.after := by
    have hall := run_faithful hfaithful (next k₁.result) k₁.rest k₂ hk₂
    rw [← hall, List.append_assoc, ← hrest]
    rfl
  have hfits : x.fits (treesOf k₂.parts ++ rest) := by
    have hall := run_faithful hfaithful g _ k₁ hk₁
    rw [hsplit, ← List.append_assoc, List.append_cancel_right_eq] at hall
    exact x.fits_append (hall ▸ hts)
  rw [hsplit] at hk₂
  obtain ⟨l₁, hl₁, hsettled₁⟩ := hg ts k₁ _ hts hk₁ hsplit (hinner _ _ k₂ rest hk₂ hrest hneed)
  obtain ⟨l₂, hl₂, hsettled₂⟩ := hnext k₁.result _ k₂ rest hfits hk₂ hrest hneed
  rw [← hsettled₁.result, ← hsettled₁.rest] at hl₂
  refine ⟨l₂.after l₁.parts, run_bind.2 ⟨l₁, hl₁, l₂, hl₂, rfl⟩, ?_⟩
  exact ⟨hsettled₂.result, by simp [Found.after, hsettled₁.parts, hsettled₂.parts],
    hsettled₂.rest⟩

theorem settles_bind (hg : Settles again x .any g)
    (hnext : ∀ a, Settles again x need (next a)) : Settles again x need (g >>= next) :=
  settles_bind_inner hfaithful hg hnext fun _ _ _ _ _ _ _ => trivial

/-- A run takes nothing back. -/
theorem ne_nil_of_run {g : Program β} {ts rest : List Tree} {k : Found Shape β}
    (hk : g.run again (ts ++ x.after) = some k) (hrest : k.rest = rest ++ x.after)
    (hne : treesOf k.parts ++ rest ≠ []) : ts ≠ [] := by
  rintro rfl
  have hall := run_faithful hfaithful g _ k hk
  rw [hrest, ← List.append_assoc, List.nil_append] at hall
  exact hne (List.append_left_eq_self.1 hall)

/-- The second program takes no exclamation mark, so none is left to it. -/
theorem settles_bind_shy (hg : Settles again x inner g)
    (hnext : ∀ a, Settles again x need (next a)) (hshy : ∀ a, Shy again (next a))
    (hquiet : Need.quiet.le need = true) (hle : inner.le need = true) :
    Settles again x need (g >>= next) := by
  refine settles_bind_inner hfaithful hg hnext fun a ts k rest hk hrest hneed => ?_
  have hcalm : Quiet x ts :=
    quiet_of_left hrest (Need.holds_of_le hquiet hneed) fun hts => hshy a _ k (by rwa [hts] at hk)
  cases inner with
  | any => trivial
  | quiet => exact hcalm
  | some =>
    have hsome := Need.holds_of_le hle hneed
    exact ⟨hsome.1.imp id fun hne => ne_nil_of_run hfaithful hk hrest (by simp [hne]), hcalm⟩

/-- The second program takes a tree that is no exclamation mark. -/
theorem settles_bind_takes (hg : Settles again x inner g)
    (hnext : ∀ a, Settles again x need (next a)) (hshy : ∀ a, Shy again (next a))
    (htakes : ∀ a, Takes again (next a)) : Settles again x need (g >>= next) := by
  refine settles_bind_inner hfaithful hg hnext fun a ts k rest hk hrest _ => ?_
  have hsome : Need.some.holds x ts := by
    refine ⟨.inr (ne_nil_of_run hfaithful hk hrest (by simp [htakes a _ k hk])), .inr fun hts => ?_⟩
    rw [hts] at hk
    have hleft := hshy a _ k hk
    have hall := run_faithful hfaithful (next a) _ k hk
    rw [hleft] at hall
    exact htakes a _ k hk (List.append_left_eq_self.1 hall)
  exact Need.holds_of_le (by cases inner <;> rfl) hsome

omit hfaithful in
/-- A program looks ahead, and goes on as if something else stood behind. -/
theorem settles_ahead_of_run {next : List Tree → Program β}
    (hblind : ∀ ts k rest, x.fits ts → (next (ts ++ x.after)).run again (ts ++ x.after) = some k →
      k.rest = rest ++ x.after → need.holds x rest → next (ts ++ x.after) = next (x.turn ts))
    (hnext : ∀ ts, Settles again x need (next ts)) :
    Settles again x need (ahead >>= next) := by
  intro ts k rest hts hk hrest hneed
  have hrun : (next (ts ++ x.after)).run again (ts ++ x.after) = some k := hk
  have hsame := hblind ts k rest hts hrun hrest hneed
  rw [hsame] at hrun
  exact hnext _ ts k rest hts hrun hrest hneed

theorem settles_ahead {next : List Tree → Program β}
    (hblind : ∀ ts, x.fits ts → (Need.some.le need = true → x.same ∨ ts ≠ []) →
      next (ts ++ x.after) = next (x.turn ts))
    (hnext : ∀ ts, Settles again x need (next ts)) : Settles again x need (ahead >>= next) := by
  refine settles_ahead_of_run (fun ts k rest hts hk hrest hneed => ?_) hnext
  refine hblind ts hts fun hle => (Need.holds_of_le hle hneed).1.imp id fun hne => ?_
  exact ne_nil_of_run hfaithful hk hrest (by simp [hne])

/-- A program that takes a tree looks at one. -/
theorem settles_ahead_takes {next : List Tree → Program β}
    (hblind : ∀ ts, x.fits ts → ts ≠ [] → next (ts ++ x.after) = next (x.turn ts))
    (htakes : ∀ ts, Takes again (next ts)) (hnext : ∀ ts, Settles again x need (next ts)) :
    Settles again x need (ahead >>= next) :=
  settles_ahead_of_run (fun ts k rest hts hk hrest _ => hblind ts hts
    (ne_nil_of_run hfaithful hk hrest (by simp [htakes _ _ _ hk]))) hnext

theorem settles_takeMany (n : Nat) : Settles again x need (takeMany n) := by
  induction n with
  | zero => exact settles_pure ()
  | succ n ih => exact settles_bind hfaithful (g := Grammar.take) settles_take fun _ => ih

/-- A question decides between two programs. -/
theorem settles_ask {f : List Tree → Bool} {h : Program β} {g : Program β}
    (hf : ∀ ts, x.fits ts → (Need.some.le need = true → x.same ∨ ts ≠ []) →
      f (ts ++ x.after) = f (x.turn ts))
    (hg : Settles again x need g) (hh : Settles again x need h) :
    Settles again x need (ahead >>= fun ts => if f ts = true then g else h) :=
  settles_ahead hfaithful (fun ts hts hne => by simp only [hf ts hts hne]) fun _ => settles_ite hg hh

theorem settles_takeIf {f : List Tree → Bool} (hf : BlindTo x f) : Settles again x need (takeIf f) :=
  settles_ask hfaithful (fun ts hts _ => hf ts hts) settles_take settles_refuse

theorem settles_expect {operator : String} (hop : isApart operator.toList = true) :
    Settles again x need (expect operator) :=
  settles_ask hfaithful (fun ts hts _ => blindTo_isPunct _ hop ts hts)
    (settles_takeMany hfaithful _) settles_refuse

theorem settles_optional {operator : String} (hop : isApart operator.toList = true) :
    Settles again x need (optional operator) :=
  settles_ask hfaithful (fun ts hts _ => blindTo_isPunct _ hop ts hts)
    (settles_bind hfaithful (settles_takeMany hfaithful _) fun _ => settles_pure true)
    (settles_pure false)

theorem settles_optionalWord {word : String} : Settles again x need (optionalWord word) :=
  settles_ask hfaithful (fun ts hts _ => blindTo_isWord ts hts)
    (settles_bind hfaithful settles_take fun _ => settles_pure true) (settles_pure false)

theorem settles_inside {d : Delimiter} {p : Phrase} : Settles again x need (inside d p) :=
  settles_ask hfaithful (fun ts hts _ => blindTo_isGroup ts hts) (settles_within p) settles_refuse

theorem settles_expectWord {word : String} : Settles again x need (expectWord word) :=
  settles_takeIf hfaithful blindTo_isWord

theorem settles_expectIdent : Settles again x need expectIdent := settles_takeIf hfaithful blindTo_isIdent

end Faithful

end Accessors.Grammar
