import Accessors.Proofs.Grammar.Marks
import Accessors.Proofs.Token.Elements

/-!
# How programs go through angle brackets

A program takes a tree after looking at it, so the brackets and commas that it takes can be read off
the program without running it.

* `Recogniser.Climbs`: the level behind what a program takes.
* `recogniseWithin_climbs`: what is recognised by programs that come back to their level leads back to it.
-/

namespace Accessors.Grammar

open Accessors.Token

variable {α β : Type}

/-- The program takes no comma outside of angle brackets, and calls for phrases only where `may` allows
it, which come back to the level they begin at. What it ends with, what is left then and the level have the
property `post`, whatever the phrases yield. -/
def Recogniser.Climbs (may : Phrase → List Tree → Level → Prop) :
    Program α → List Tree → Level → (α → List Tree → Level → Prop) → Prop
  | .done a, ts, l, post => post a ts l
  | .fail, _, _, _ => True
  | .look next, ts, l, post => (next ts).Climbs may ts l post
  | .take next, ts, l, post =>
    ∃ m, l.behind? (ts.take 1) = some m ∧ next.Climbs may ts.tail m post
  | .call p next, ts, l, post => may p ts l ∧ ∀ s rest, (next s).Climbs may rest l post
  | .splice p next, ts, l, post => may p ts l ∧ ∀ s rest, (next s).Climbs may rest l post
  | .within _ next, ts, l, post => ∀ s, (next s).Climbs may ts.tail ⟨l.depth, false⟩ post

variable {may : Phrase → List Tree → Level → Prop}

/-- A run of such a program, over phrases that come back to their level. -/
theorem Recogniser.run_climbs {again : Phrase → List Tree → Option (Found Shape Shape)}
    (hagain : ∀ p ts l f, may p ts l → again p ts = some f → l.behind? (treesOf f.parts) = some l)
    (g : Program α) : ∀ {ts : List Tree} {l : Level} {post : α → List Tree → Level → Prop}
      {f : Found Shape α}, g.Climbs may ts l post → g.run again ts = some f →
      ∃ m, l.behind? (treesOf f.parts) = some m ∧ post f.result f.rest m := by
  induction g with
  | done a =>
    intro ts l post f hg hf
    cases hf
    exact ⟨l, rfl, hg⟩
  | fail => intro ts l post f hg hf; cases hf
  | look next ih => intro ts l post f hg hf; exact ih ts hg hf
  | take next ih =>
    intro ts l post f hg hf
    cases ts with
    | nil => cases hf
    | cons t ts =>
      obtain ⟨k, hk, rfl⟩ := Option.map_eq_some_iff.1 hf
      obtain ⟨m, hm, hnext⟩ := hg
      obtain ⟨n, hn, hpost⟩ := ih hnext hk
      refine ⟨n, ?_, hpost⟩
      rw [Found.after, treesOf_append, Level.behind?_append]
      simpa [hn] using congrArg (Option.bind · (·.behind? (treesOf k.parts))) hm
  | call p next ih =>
    intro ts l post f hg hf
    simp only [run] at hf
    split at hf
    · cases hf
    · next found hp =>
      obtain ⟨k, hk, rfl⟩ := Option.map_eq_some_iff.1 hf
      obtain ⟨m, hm, hpost⟩ := ih _ (hg.2 _ _) hk
      have hfound := hagain p ts l found hg.1 hp
      exact ⟨m, by simp [Found.after, Level.behind?_append, hfound, hm], hpost⟩
  | splice p next ih =>
    intro ts l post f hg hf
    simp only [run] at hf
    split at hf
    · cases hf
    · next found hp =>
      obtain ⟨k, hk, rfl⟩ := Option.map_eq_some_iff.1 hf
      obtain ⟨m, hm, hpost⟩ := ih _ (hg.2 _ _) hk
      have hfound := hagain p ts l found hg.1 hp
      exact ⟨m, by simp [Found.after, treesOf_append, Level.behind?_append, hfound, hm], hpost⟩
  | within p next ih =>
    intro ts l post f hg hf
    rcases ts with _ | ⟨_ | ⟨d, body⟩, ts⟩
    · cases hf
    · cases hf
    · simp only [run] at hf
      split at hf
      · obtain ⟨k, hk, rfl⟩ := Option.map_eq_some_iff.1 hf
        obtain ⟨m, hm, hpost⟩ := ih _ (hg _) hk
        exact ⟨m, by simpa [Found.after, Level.behind?, Level.ends, Level.next]
          using hm, hpost⟩
      · cases hf

/-- **A grammar that comes back to its level.** If the programs of the allowed phrases do, an allowed
phrase is recognised without a comma outside of angle brackets, and they are all closed behind it. -/
theorem recogniseWithin_climbs {rule : Phrase → Program Shape}
    (h : ∀ p ts l, may p ts l → (rule p).Climbs may ts l fun _ _ m => m = l) (fuel : Nat) :
    ∀ p ts l f, may p ts l → recogniseWithin rule fuel p ts = some f →
      l.behind? (treesOf f.parts) = some l := by
  induction fuel with
  | zero => intro p ts l f _ hf; cases hf
  | succ fuel ih =>
    intro p ts l f hp hf
    obtain ⟨m, hm, rfl⟩ := Recogniser.run_climbs ih (rule p) (h p ts l hp) hf
    exact hm

/-! ## Trees that change nothing -/

/-- The first tree is no angle bracket, no comma and no minus sign. -/
def isLevel : List Tree → Bool
  | .leaf (.punct c _) :: _ => c != '<' && c != '>' && c != ',' && c != '-'
  | _ => true

variable {ts : List Tree} {l m : Level} {d : Nat}

theorem behind?_take_one (h : isLevel ts = true) :
    Level.behind? ⟨d, false⟩ (ts.take 1) = some ⟨d, false⟩ := by
  cases ts with
  | nil => rfl
  | cons t ts =>
    rw [List.take_succ_cons, List.take_zero, Level.behind?, Level.behind?_nil]
    cases t with
    | group _ _ => rfl
    | leaf leaf =>
      cases leaf with
      | punct c joint =>
        simp only [isLevel, Bool.and_eq_true, bne_iff_ne, ne_eq] at h
        simp [Level.ends, Level.next, Level.char, h]
      | _ => rfl

theorem isLevel_of_isWord {word : String} (h : isWord word ts = true) : isLevel ts = true := by
  unfold isWord at h
  split at h
  · rfl
  · cases h

theorem isLevel_of_isOneOf {words : List String} (h : isOneOf words ts = true) :
    isLevel ts = true := by
  obtain ⟨_, -, h⟩ := List.any_eq_true.1 h
  exact isLevel_of_isWord h

theorem isLevel_of_isIdent (h : isIdent ts = true) : isLevel ts = true := by
  unfold isIdent at h
  split at h
  · rfl
  · cases h

theorem isLevel_of_isLifetime (h : isLifetime ts = true) : isLevel ts = true := by
  unfold isLifetime at h
  split at h
  · rfl
  · cases h

theorem isLevel_of_isStringLiteral (h : isStringLiteral ts = true) : isLevel ts = true := by
  unfold isStringLiteral at h
  split at h
  · rfl
  · cases h

theorem isLevel_of_isAnyGroup (h : isAnyGroup ts = true) : isLevel ts = true := by
  unfold isAnyGroup at h
  split at h
  · rfl
  · cases h

theorem isLevel_of_isGroup {d : Delimiter} (h : isGroup d ts = true) : isLevel ts = true := by
  unfold isGroup at h
  split at h
  · rfl
  · cases h

theorem behind?_of_isPunctChars {cs : List Char} (h : isPunctChars cs ts = true) :
    l.behind? (ts.take cs.length) = l.chars? cs := by
  induction cs generalizing ts l with
  | nil => simp [Level.chars?]
  | cons c cs ih =>
    obtain ⟨joint, rest, rfl, hmore⟩ := eq_cons_of_isPunctChars h
    rw [List.length_cons, List.take_succ_cons, Level.behind?, Level.chars?]
    have hnext : (l.char c).behind? (rest.take cs.length) = (l.char c).chars? cs := by
      cases cs with
      | nil => simp [Level.chars?]
      | cons d cs => exact ih (hmore (by simp)).2
    exact congrArg (fun m => if l.depth == 0 && c == ',' then none else m) hnext

/-- An operator that begins with none of these characters. -/
theorem isLevel_of_isPunct {operator : String} (h : isPunct operator ts = true)
    (ho : (operator.toList.head?.any fun c => c != '<' && c != '>' && c != ',' && c != '-') = true) :
    isLevel ts = true := by
  unfold isPunct at h
  cases hcs : operator.toList with
  | nil => simp [hcs] at ho
  | cons c cs =>
    rw [hcs] at h ho
    obtain ⟨joint, rest, rfl, -⟩ := eq_cons_of_isPunctChars h
    simpa [isLevel] using ho

theorem behind?_of_isPunct {operator : String} (h : isPunct operator ts = true) :
    l.behind? (ts.take operator.length) = l.chars? operator.toList := by
  rw [← String.length_toList]
  exact behind?_of_isPunctChars h

theorem behind?_separator (h : isPunct "::" ts = true) :
    Level.behind? ⟨d, false⟩ (ts.take 2) = some ⟨d, false⟩ := by
  have hchars : isPunctChars [':', ':'] ts = true := h
  have hbehind := behind?_of_isPunctChars (l := ⟨d, false⟩) hchars
  simpa [Level.chars?, Level.char] using hbehind

/-- One more bracket is open. -/
theorem behind?_opening (h : isPunct "<" ts = true) :
    Level.behind? ⟨d, false⟩ (ts.take 1) = some ⟨d + 1, false⟩ := by
  have hchars : isPunctChars ['<'] ts = true := h
  have hbehind := behind?_of_isPunctChars (l := ⟨d, false⟩) hchars
  simpa [Level.chars?, Level.char] using hbehind

/-- It is closed again. -/
theorem behind?_closing (h : isPunct ">" ts = true) :
    Level.behind? ⟨d + 1, false⟩ (ts.take 1) = some ⟨d, false⟩ := by
  have hchars : isPunctChars ['>'] ts = true := h
  have hbehind := behind?_of_isPunctChars (l := ⟨d + 1, false⟩) hchars
  simpa [Level.chars?, Level.char] using hbehind

/-- A literal changes nothing: its minus sign stands in front of a number. -/
theorem behind?_of_literalSize :
    Level.behind? ⟨d, false⟩ (ts.take (literalSize ts)) = some ⟨d, false⟩ := by
  unfold literalSize
  split
  · rfl
  · split <;> simp [Level.behind?, Level.ends, Level.next, Level.char]
  · split <;> rfl
  · rfl

/-! ## The operations -/

namespace Recogniser

variable {a : α} {g : Program α} {next : α → Program β} {post : α → List Tree → Level → Prop}
  {done : β → List Tree → Level → Prop} {unit : Unit → List Tree → Level → Prop}
  {shape : Shape → List Tree → Level → Prop} {truth : Bool → List Tree → Level → Prop}

@[simp] theorem climbs_pure : (pure a : Program α).Climbs may ts l post ↔ post a ts l := Iff.rfl

@[simp] theorem climbs_refuse : (refuse : Program α).Climbs may ts l post := trivial

@[simp] theorem climbs_bind : (g >>= next).Climbs may ts l done ↔
    g.Climbs may ts l fun a rest m => (next a).Climbs may rest m done := by
  -- Along the first program: its operations ask the same of the second, at what they leave.
  change (g.bind next).Climbs may ts l done ↔ _
  induction g generalizing ts l with
  | done a => exact Iff.rfl
  | fail => exact Iff.rfl
  | look k ih => exact ih ts
  | take k ih => exact exists_congr fun m => and_congr_right' ih
  | call p k ih => exact and_congr_right' (forall_congr' fun s => forall_congr' fun rest => ih s)
  | splice p k ih => exact and_congr_right' (forall_congr' fun s => forall_congr' fun rest => ih s)
  | within p k ih => exact forall_congr' fun s => ih s

@[simp] theorem climbs_ite {c : Prop} [Decidable c] {h : Program α} :
    (if c then g else h).Climbs may ts l post ↔
      (c → g.Climbs may ts l post) ∧ (¬ c → h.Climbs may ts l post) := by
  split <;> simp_all

@[simp] theorem climbs_ahead {post : List Tree → List Tree → Level → Prop} :
    ahead.Climbs may ts l post ↔ post ts ts l := Iff.rfl

@[simp] theorem climbs_call {p : Phrase} :
    (Grammar.call p).Climbs may ts l shape ↔ may p ts l ∧ ∀ s rest, shape s rest l := Iff.rfl

@[simp] theorem climbs_splice {p : Phrase} :
    (Grammar.splice p).Climbs may ts l shape ↔ may p ts l ∧ ∀ s rest, shape s rest l := Iff.rfl

@[simp] theorem climbs_within {p : Phrase} :
    (Grammar.within p).Climbs may ts l shape ↔ ∀ s, shape s ts.tail ⟨l.depth, false⟩ := Iff.rfl

theorem climbs_take_iff : Grammar.take.Climbs may ts l unit ↔
    ∃ m, l.behind? (ts.take 1) = some m ∧ unit () ts.tail m := Iff.rfl

/-- A tree is taken that changes nothing. -/
theorem climbs_take (h : isLevel ts = true) :
    Grammar.take.Climbs may ts ⟨d, false⟩ unit ↔ unit () ts.tail ⟨d, false⟩ := by
  simp [climbs_take_iff, behind?_take_one h]

/-- A tree is taken after one of these looks at it. -/
@[simp] theorem climbs_if_isWord {word : String} :
    (isWord word ts = true → Grammar.take.Climbs may ts ⟨d, false⟩ unit) ↔
      (isWord word ts = true → unit () ts.tail ⟨d, false⟩) :=
  forall_congr' fun h => climbs_take (isLevel_of_isWord h)

@[simp] theorem climbs_if_isOneOf {words : List String} :
    (isOneOf words ts = true → Grammar.take.Climbs may ts ⟨d, false⟩ unit) ↔
      (isOneOf words ts = true → unit () ts.tail ⟨d, false⟩) :=
  forall_congr' fun h => climbs_take (isLevel_of_isOneOf h)

@[simp] theorem climbs_if_isIdent :
    (isIdent ts = true → Grammar.take.Climbs may ts ⟨d, false⟩ unit) ↔
      (isIdent ts = true → unit () ts.tail ⟨d, false⟩) :=
  forall_congr' fun h => climbs_take (isLevel_of_isIdent h)

@[simp] theorem climbs_if_isLifetime :
    (isLifetime ts = true → Grammar.take.Climbs may ts ⟨d, false⟩ unit) ↔
      (isLifetime ts = true → unit () ts.tail ⟨d, false⟩) :=
  forall_congr' fun h => climbs_take (isLevel_of_isLifetime h)

@[simp] theorem climbs_if_isStringLiteral :
    (isStringLiteral ts = true → Grammar.take.Climbs may ts ⟨d, false⟩ unit) ↔
      (isStringLiteral ts = true → unit () ts.tail ⟨d, false⟩) :=
  forall_congr' fun h => climbs_take (isLevel_of_isStringLiteral h)

@[simp] theorem climbs_if_isPunct {operator : String} (ho : (operator.toList.head?.any fun c =>
      c != '<' && c != '>' && c != ',' && c != '-') = true) :
    (isPunct operator ts = true → Grammar.take.Climbs may ts ⟨d, false⟩ unit) ↔
      (isPunct operator ts = true → unit () ts.tail ⟨d, false⟩) :=
  forall_congr' fun h => climbs_take (isLevel_of_isPunct h ho)

/-- Several trees are taken one by one. -/
theorem climbs_takeMany {n : Nat} : (takeMany n).Climbs may ts l unit ↔
    ∃ m, l.behind? (ts.take n) = some m ∧ unit () (ts.drop n) m := by
  induction n generalizing ts l with
  | zero => simp [takeMany, Climbs]
  | succ n ih =>
    cases ts with
    | nil => simp [takeMany, Climbs, ih]
    | cons t ts =>
      have hfront : (t :: ts).take (n + 1) = [t] ++ ts.take n := rfl
      simp only [takeMany, Climbs, ih, hfront, Level.behind?_append, List.drop_succ_cons,
        List.tail_cons, List.take_succ_cons, List.take_zero, Option.bind_eq_some_iff]
      grind

theorem climbs_takeIf {p : List Tree → Bool} (h : ∀ ts, p ts = true → isLevel ts = true) :
    (takeIf p).Climbs may ts ⟨d, false⟩ unit ↔ (p ts = true → unit () ts.tail ⟨d, false⟩) := by
  simp only [takeIf, climbs_bind, climbs_ahead, climbs_ite, climbs_refuse, implies_true, and_true]
  exact forall_congr' fun hts => climbs_take (h ts hts)

@[simp] theorem climbs_takeIf_isOneOf {words : List String} :
    (takeIf (isOneOf words)).Climbs may ts ⟨d, false⟩ unit ↔
      (isOneOf words ts = true → unit () ts.tail ⟨d, false⟩) :=
  climbs_takeIf fun _ => isLevel_of_isOneOf

@[simp] theorem climbs_takeIf_isLifetime : (takeIf isLifetime).Climbs may ts ⟨d, false⟩ unit ↔
    (isLifetime ts = true → unit () ts.tail ⟨d, false⟩) :=
  climbs_takeIf fun _ => isLevel_of_isLifetime

@[simp] theorem climbs_takeIf_isAnyGroup : (takeIf isAnyGroup).Climbs may ts ⟨d, false⟩ unit ↔
    (isAnyGroup ts = true → unit () ts.tail ⟨d, false⟩) :=
  climbs_takeIf fun _ => isLevel_of_isAnyGroup

@[simp] theorem climbs_expect {operator : String} : (expect operator).Climbs may ts l unit ↔
    (isPunct operator ts = true →
      ∃ m, l.chars? operator.toList = some m ∧ unit () (ts.drop operator.length) m) := by
  simp only [expect, climbs_bind, climbs_ahead, climbs_ite, climbs_takeMany, climbs_refuse,
    implies_true, and_true]
  exact forall_congr' fun h => by rw [behind?_of_isPunct h]

@[simp] theorem climbs_optional {operator : String} : (optional operator).Climbs may ts l truth ↔
    (isPunct operator ts = true →
      ∃ m, l.chars? operator.toList = some m ∧ truth true (ts.drop operator.length) m) ∧
    (isPunct operator ts = false → truth false ts l) := by
  simp only [optional, climbs_bind, climbs_ahead, climbs_ite, climbs_takeMany, climbs_pure,
    Bool.not_eq_true]
  exact and_congr_left' (forall_congr' fun h => by rw [behind?_of_isPunct h])

@[simp] theorem climbs_expectWord {word : String} : (expectWord word).Climbs may ts ⟨d, false⟩ unit ↔
    (isWord word ts = true → unit () ts.tail ⟨d, false⟩) :=
  climbs_takeIf fun _ => isLevel_of_isWord

@[simp] theorem climbs_expectIdent : expectIdent.Climbs may ts ⟨d, false⟩ unit ↔
    (isIdent ts = true → unit () ts.tail ⟨d, false⟩) :=
  climbs_takeIf fun _ => isLevel_of_isIdent

@[simp] theorem climbs_optionalWord {word : String} :
    (optionalWord word).Climbs may ts ⟨d, false⟩ truth ↔
      (isWord word ts = true → truth true ts.tail ⟨d, false⟩) ∧
        (isWord word ts = false → truth false ts ⟨d, false⟩) := by
  simp only [optionalWord, climbs_bind, climbs_ahead, climbs_ite, climbs_pure, Bool.not_eq_true]
  exact and_congr_left' (forall_congr' fun h => climbs_take (isLevel_of_isWord h))

@[simp] theorem climbs_inside {e : Delimiter} {p : Phrase} :
    (inside e p).Climbs may ts l shape ↔ (isGroup e ts = true → ∀ s, shape s ts.tail ⟨l.depth, false⟩) := by
  simp [inside]

end Recogniser

end Accessors.Grammar
