import Accessors.Proofs.Grammar.Marks

/-!
# Runs of programs

What a run found says how the program went: each operation puts its own part behind the parts before
it.

* `run_bind`: a run of two programs is a run of the first and one of the second on what is left.
* `run_call`, `run_splice`, `run_within`: a phrase was recognised.
* `run_unique`: however deep programs nest, they find the same.
* `run_call_bind` and the like: an operation, and a program behind it.
* `segmentProgram_eq`: a segment is a name and what it can have behind it.
-/

namespace Accessors.Grammar

open Accessors.Token

variable {α β : Type} {again : Phrase → List Tree → Option (Found Shape Shape)}
  {g : Program α} {next : α → Program β} {p : Phrase} {ts : List Tree}

namespace Recogniser

/-- A run of one program after another. -/
theorem run_bind_eq (g : Program α) (ts : List Tree) : (g >>= next).run again ts =
    (g.run again ts).bind fun k => ((next k.result).run again k.rest).map (·.after k.parts) := by
  change (g.bind next).run again ts = _
  induction g generalizing ts with
  | done a => simp [Recogniser.bind, run, Found.after]
  | fail => rfl
  | look k ih => exact ih ts ts
  | take k ih =>
    cases ts with
    | nil => rfl
    | cons t ts =>
      simp only [Recogniser.bind, run, ih, Option.map_bind, Option.bind_map]
      simp [Found.after, Function.comp_def]
  | call q k ih =>
    simp only [Recogniser.bind, run]
    cases again q ts with
    | none => rfl
    | some found =>
      simp only [ih, Option.map_bind, Option.bind_map]
      simp [Found.after, Function.comp_def]
  | splice q k ih =>
    simp only [Recogniser.bind, run]
    cases again q ts with
    | none => rfl
    | some found =>
      simp only [ih, Option.map_bind, Option.bind_map]
      simp [Found.after, Function.comp_def]
  | within q k ih =>
    cases ts with
    | nil => rfl
    | cons t ts =>
      cases t with
      | leaf l => rfl
      | group d body =>
        simp only [Recogniser.bind, run]
        split
        · simp only [ih, Option.map_bind, Option.bind_map]
          simp [Found.after, Function.comp_def]
        · rfl

@[simp] theorem run_bind {f : Found Shape β} : (g >>= next).run again ts = some f ↔
    ∃ k, g.run again ts = some k ∧
      ∃ l, (next k.result).run again k.rest = some l ∧ l.after k.parts = f := by
  simp [run_bind_eq, Option.bind_eq_some_iff]

@[simp] theorem run_pure {a : α} {f : Found Shape α} :
    (pure a : Program α).run again ts = some f ↔ ⟨a, [], ts⟩ = f := by
  change some _ = some f ↔ _
  rw [Option.some.injEq]

@[simp] theorem run_ahead {f : Found Shape (List Tree)} :
    ahead.run again ts = some f ↔ ⟨ts, [], ts⟩ = f := by
  change some _ = some f ↔ _
  rw [Option.some.injEq]

@[simp] theorem run_refuse {f : Found Shape α} : (refuse : Program α).run again ts ≠ some f := nofun

@[simp] theorem run_take {f : Found Shape Unit} : Grammar.take.run again ts = some f ↔
    ∃ t rest, ts = t :: rest ∧ ⟨(), [.tree t], rest⟩ = f := by
  cases ts with
  | nil => simp [Grammar.take, run]
  | cons t rest => simp [Grammar.take, run, Found.after, and_assoc]

@[simp] theorem run_call {f : Found Shape Shape} : (Grammar.call p).run again ts = some f ↔
    ∃ k, again p ts = some k ∧ ⟨k.result, [.phrase k.result k.parts], k.rest⟩ = f := by
  cases h : again p ts <;> simp [Grammar.call, run, h, Found.after]

@[simp] theorem run_splice {f : Found Shape Shape} :
    (Grammar.splice p).run again ts = some f ↔ again p ts = some f := by
  cases h : again p ts <;> simp [Grammar.splice, run, h, Found.after]

@[simp] theorem run_within {f : Found Shape Shape} : (Grammar.within p).run again ts = some f ↔
    ∃ d body rest k, ts = .group d body :: rest ∧ again p body = some k ∧ k.rest = [] ∧
      ⟨k.result, [.group d (.phrase k.result k.parts)], rest⟩ = f := by
  cases ts with
  | nil => simp [Grammar.within, run]
  | cons t ts =>
    cases t with
    | leaf l => simp [Grammar.within, run]
    | group d body =>
      simp only [Grammar.within, run]
      constructor
      · intro h
        split at h
        · next s parts hp =>
          simp only [Option.map_some, Option.some.injEq] at h
          exact ⟨d, body, ts, _, rfl, hp, rfl, by rw [← h]; simp [Found.after]⟩
        · cases h
      · rintro ⟨d', body', rest, ⟨s, parts, left⟩, hts, hk, hleft, rfl⟩
        cases hts
        obtain rfl : left = [] := hleft
        rw [hk]
        simp [Found.after]

@[simp] theorem run_takeIf {test : List Tree → Bool} {f : Found Shape Unit} :
    (takeIf test).run again ts = some f ↔
      test ts = true ∧ ∃ t rest, ts = t :: rest ∧ ⟨(), [.tree t], rest⟩ = f := by
  cases h : test ts <;> simp [takeIf, h, Found.after]

/-- An operator of one character. -/
theorem run_expect {operator : String} (hlen : operator.length = 1) {f : Found Shape Unit} :
    (expect operator).run again ts = some f ↔
      isPunct operator ts = true ∧ ∃ t rest, ts = t :: rest ∧ ⟨(), [.tree t], rest⟩ = f := by
  have htake : takeMany 1 = Grammar.take := rfl
  cases h : isPunct operator ts <;> simp [expect, h, hlen, htake, Found.after]

/-! ## Deeper programs -/

/-- Whatever the first way of recognising phrases finds, the second one finds too. -/
def Extends (again more : Phrase → List Tree → Option (Found Shape Shape)) : Prop :=
  ∀ p ts f, again p ts = some f → more p ts = some f

theorem run_of_extends {more : Phrase → List Tree → Option (Found Shape Shape)}
    (h : Extends again more) (g : Program α) :
    ∀ ts f, g.run again ts = some f → g.run more ts = some f := by
  induction g with
  | done a => intro ts f hf; exact hf
  | fail => intro ts f hf; cases hf
  | look next ih => intro ts f hf; exact ih ts ts f hf
  | take next ih =>
    intro ts f hf
    cases ts with
    | nil => cases hf
    | cons t ts =>
      simp only [run, Option.map_eq_some_iff] at hf ⊢
      obtain ⟨k, hk, rfl⟩ := hf
      exact ⟨k, ih ts k hk, rfl⟩
  | call p next ih =>
    intro ts f hf
    simp only [run] at hf
    split at hf
    · cases hf
    · next found hp =>
      obtain ⟨k, hk, rfl⟩ := Option.map_eq_some_iff.1 hf
      simp only [run, h p ts found hp, ih _ _ k hk, Option.map_some]
  | splice p next ih =>
    intro ts f hf
    simp only [run] at hf
    split at hf
    · cases hf
    · next found hp =>
      obtain ⟨k, hk, rfl⟩ := Option.map_eq_some_iff.1 hf
      simp only [run, h p ts found hp, ih _ _ k hk, Option.map_some]
  | within p next ih =>
    intro ts f hf
    cases ts with
    | nil => cases hf
    | cons t ts =>
      cases t with
      | leaf l => cases hf
      | group d body =>
        simp only [run] at hf
        split at hf
        · next s parts hp =>
          obtain ⟨k, hk, rfl⟩ := Option.map_eq_some_iff.1 hf
          simp only [run, h p body _ hp, ih _ _ k hk, Option.map_some]
        · cases hf

theorem extends_recogniseWithin (rule : Phrase → Program Shape) {m n : Nat} (h : m ≤ n) :
    Extends (recogniseWithin rule m) (recogniseWithin rule n) := by
  induction m generalizing n with
  | zero => intro p ts f hf; cases hf
  | succ m ih =>
    obtain ⟨n, rfl⟩ : ∃ k, n = k + 1 := ⟨n - 1, by omega⟩
    intro p ts f hf
    exact run_of_extends (ih (by omega)) (rule p) ts f hf

/-- Two runs of a program find the same, however deep programs nest. -/
theorem run_unique {rule : Phrase → Program Shape} {m n : Nat} {k l : Found Shape α}
    (hk : g.run (recogniseWithin rule m) ts = some k)
    (hl : g.run (recogniseWithin rule n) ts = some l) : k = l := by
  have hk' := run_of_extends (extends_recogniseWithin rule (Nat.le_max_left m n)) g ts k hk
  have hl' := run_of_extends (extends_recogniseWithin rule (Nat.le_max_right m n)) g ts l hl
  exact Option.some.inj (hk'.symm.trans hl')

theorem lawfulMonad : LawfulMonad (Recogniser Phrase Shape) := LawfulMonad.mk' _
  (fun x => by
    change x.bind done = x
    induction x with
    | done a => rfl
    | fail => rfl
    | take k ih => exact congrArg take ih
    | look k ih => exact congrArg look (funext ih)
    | call q k ih => exact congrArg (call q) (funext ih)
    | splice q k ih => exact congrArg (splice q) (funext ih)
    | within q k ih => exact congrArg (within q) (funext ih))
  (fun _ _ => rfl)
  (fun x f g => by
    change (x.bind f).bind g = x.bind fun a => (f a).bind g
    induction x with
    | done a => rfl
    | fail => rfl
    | take k ih => exact congrArg take ih
    | look k ih => exact congrArg look (funext ih)
    | call q k ih => exact congrArg (call q) (funext ih)
    | splice q k ih => exact congrArg (splice q) (funext ih)
    | within q k ih => exact congrArg (within q) (funext ih))

attribute [local instance] lawfulMonad

/-! ## Operations that look first -/

section

variable {α : Type} {k : Unit → Program α} {ask : Bool → Program α} {shape : Shape → Program α}

theorem takeIf_bind {test : List Tree → Bool} : takeIf test >>= k =
    ahead >>= fun ts => if test ts then Grammar.take >>= k else refuse := by
  rw [takeIf, bind_assoc]
  congr
  funext ts
  split <;> rfl

theorem expect_bind {operator : String} : expect operator >>= k =
    ahead >>= fun ts => if isPunct operator ts then takeMany operator.length >>= k else refuse := by
  rw [expect, bind_assoc]
  congr
  funext ts
  split <;> rfl

theorem optional_bind {operator : String} : optional operator >>= ask = ahead >>= fun ts =>
    if isPunct operator ts then takeMany operator.length >>= fun _ => ask true else ask false := by
  rw [optional, bind_assoc]
  congr
  funext ts
  split <;> simp

theorem optionalWord_bind {word : String} : optionalWord word >>= ask = ahead >>= fun ts =>
    if isWord word ts then Grammar.take >>= fun _ => ask true else ask false := by
  rw [optionalWord, bind_assoc]
  congr
  funext ts
  split <;> simp

theorem inside_bind {d : Delimiter} {q : Phrase} : inside d q >>= shape =
    ahead >>= fun ts => if isGroup d ts then Grammar.within q >>= shape else refuse := by
  rw [inside, bind_assoc]
  congr
  funext ts
  split <;> rfl

end

/-! ## An operation and what comes behind it -/

theorem run_takeMany {n : Nat} {f : Found Shape Unit} : (takeMany n).run again ts = some f ↔
    n ≤ ts.length ∧ ⟨(), (ts.take n).map .tree, ts.drop n⟩ = f := by
  induction n generalizing ts f with
  | zero => simp [takeMany, run]
  | succ n ih =>
    cases ts with
    | nil => simp [takeMany, run]
    | cons t ts => simp [takeMany, run, ih, Found.after, and_assoc]

/-- An operator of one character is at the front. -/
theorem eq_cons_of_isPunct {operator : String} {c : Char} (hc : operator.toList = [c])
    (h : isPunct operator ts = true) : ∃ joint rest, ts = .leaf (.punct c joint) :: rest := by
  rw [isPunct, hc] at h
  obtain ⟨joint, rest, rfl, -⟩ := eq_cons_of_isPunctChars h
  exact ⟨joint, rest, rfl⟩

variable {α β : Type} {k : Unit → Program α} {look : List Tree → Program α}
  {shape : Shape → Program α} {ask : Bool → Program α} {p : Phrase} {found : Found Shape α}

theorem run_ahead_bind :
    (ahead >>= look).run again ts = some found ↔ (look ts).run again ts = some found := Iff.rfl

theorem run_take_bind : (Grammar.take >>= k).run again ts = some found ↔ ∃ t rest l, ts = t :: rest ∧
    (k ()).run again rest = some l ∧ l.after [.tree t] = found := by
  simp only [run_bind, run_take]
  constructor
  · rintro ⟨_, ⟨t, rest, rfl, rfl⟩, l, hl, rfl⟩
    exact ⟨t, rest, l, rfl, hl, rfl⟩
  · rintro ⟨t, rest, l, rfl, hl, rfl⟩
    exact ⟨_, ⟨t, rest, rfl, rfl⟩, l, hl, rfl⟩

theorem run_call_bind : (Grammar.call p >>= shape).run again ts = some found ↔
    ∃ j l, again p ts = some j ∧ (shape j.result).run again j.rest = some l ∧
      l.after [.phrase j.result j.parts] = found := by
  simp only [run_bind, run_call]
  constructor
  · rintro ⟨_, ⟨j, hj, rfl⟩, l, hl, rfl⟩
    exact ⟨j, l, hj, hl, rfl⟩
  · rintro ⟨j, l, hj, hl, rfl⟩
    exact ⟨_, ⟨j, hj, rfl⟩, l, hl, rfl⟩

theorem run_splice_bind : (Grammar.splice p >>= shape).run again ts = some found ↔
    ∃ j l, again p ts = some j ∧ (shape j.result).run again j.rest = some l ∧
      l.after j.parts = found := by
  simp only [run_bind, run_splice, exists_and_left]

/-- A separator that may be there. -/
theorem run_optional_separator_bind (h : (optional "::" >>= ask).run again ts = some found) :
    (∃ joint rest l, ts = .leaf (.punct ':' true) :: .leaf (.punct ':' joint) :: rest ∧
      (ask true).run again rest = some l ∧
        l.after [.tree (.leaf (.punct ':' true)), .tree (.leaf (.punct ':' joint))] = found) ∨
      (ask false).run again ts = some found := by
  simp only [optional, bind_assoc, run_ahead_bind] at h
  cases hp : isPunct "::" ts with
  | false => exact .inr (by simpa [hp] using h)
  | true =>
    obtain ⟨joint, rest, rfl⟩ := eq_cons_of_separator hp
    obtain ⟨l, hl, hfound⟩ := Option.map_eq_some_iff.1 h
    obtain ⟨l', hl', rfl⟩ := Option.map_eq_some_iff.1 hl
    exact .inl ⟨joint, rest, l', rfl, hl', hfound⟩

/-- A word that may be there. -/
theorem run_optionalWord_bind {word : String}
    (h : (optionalWord word >>= ask).run again ts = some found) :
    (∃ t rest l, isWord word ts = true ∧ ts = t :: rest ∧ (ask true).run again rest = some l ∧
      l.after [.tree t] = found) ∨ (ask false).run again ts = some found := by
  simp only [optionalWord, bind_assoc, run_ahead_bind] at h
  cases hw : isWord word ts with
  | false => exact .inr (by simpa [hw] using h)
  | true =>
    simp only [hw, if_true, bind_assoc, pure_bind] at h
    obtain ⟨t, rest, l, hts, hl, hfound⟩ := run_take_bind.1 h
    exact .inl ⟨t, rest, l, rfl, hts, hl, hfound⟩

/-- An operator of one character that has to be there. -/
theorem run_expect_bind {operator : String} {c : Char} (hc : operator.toList = [c]) :
    (expect operator >>= k).run again ts = some found ↔ ∃ joint rest l,
      ts = .leaf (.punct c joint) :: rest ∧ (k ()).run again rest = some l ∧
        l.after [.tree (.leaf (.punct c joint))] = found := by
  have hlen : operator.length = 1 := by rw [← String.length_toList, hc]; rfl
  simp only [run_bind, run_expect hlen]
  constructor
  · rintro ⟨_, ⟨hp, t, rest, rfl, rfl⟩, l, hl, rfl⟩
    obtain ⟨joint, rest', heq⟩ := eq_cons_of_isPunct hc hp
    cases heq
    exact ⟨joint, rest, l, rfl, hl, rfl⟩
  · rintro ⟨joint, rest, l, rfl, hl, rfl⟩
    exact ⟨_, ⟨by simp [isPunct, hc, isPunctChars], _, rest, rfl, rfl⟩, l, hl, rfl⟩

/-- An operator of one character that may be there. -/
theorem run_optional_bind {operator : String} {c : Char} (hc : operator.toList = [c]) :
    (optional operator >>= ask).run again ts = some found ↔
      (∃ joint rest l, ts = .leaf (.punct c joint) :: rest ∧ (ask true).run again rest = some l ∧
        l.after [.tree (.leaf (.punct c joint))] = found) ∨
      isPunct operator ts = false ∧ (ask false).run again ts = some found := by
  have hlen : operator.length = 1 := by rw [← String.length_toList, hc]; rfl
  rw [optional_bind, run_ahead_bind]
  cases hp : isPunct operator ts with
  | true =>
    have htake : takeMany 1 = Grammar.take := rfl
    rw [if_pos rfl, hlen, htake, run_take_bind]
    constructor
    · rintro ⟨t, rest, l, rfl, hl, rfl⟩
      obtain ⟨joint, _, heq⟩ := eq_cons_of_isPunct hc hp
      cases heq
      exact .inl ⟨joint, rest, l, rfl, hl, rfl⟩
    · rintro (⟨joint, rest, l, rfl, hl, rfl⟩ | ⟨hno, -⟩)
      · exact ⟨_, rest, l, rfl, hl, rfl⟩
      · cases hno
  | false =>
    have hno : ∀ joint rest, ts ≠ .leaf (.punct c joint) :: rest := by
      rintro joint rest rfl
      simp [isPunct, hc, isPunctChars] at hp
    simp [hno]

theorem run_takeIf_bind {test : List Tree → Bool} :
    (takeIf test >>= k).run again ts = some found ↔ ∃ t rest l, test ts = true ∧ ts = t :: rest ∧
      (k ()).run again rest = some l ∧ l.after [.tree t] = found := by
  simp only [run_bind, run_takeIf]
  constructor
  · rintro ⟨_, ⟨ht, t, rest, rfl, rfl⟩, l, hl, rfl⟩
    exact ⟨t, rest, l, ht, rfl, hl, rfl⟩
  · rintro ⟨t, rest, l, ht, rfl, hl, rfl⟩
    exact ⟨_, ⟨ht, t, rest, rfl, rfl⟩, l, hl, rfl⟩

end Recogniser

/-- What a segment can have behind its name. -/
def segmentArguments (inExpression : Bool) : Program Shape := do
  let ts ← ahead
  let separator := separatorSize ts
  if !inExpression && facesReplacedArguments (ts.drop separator) then
    let _ ← call (.hidden (separator + 2))
    return .segment false false
  if !inExpression && isPunct "<" ts && !isPunct "<=" ts && !isPunct "<<=" ts then
    splice .angleArguments
  else if isPunct "::" ts && isPunct "<" (ts.drop 2) then
    takeMany 2
    splice .angleArguments
  else return .segment false false

theorem segmentProgram_eq (inExpression : Bool) : segmentProgram inExpression = ahead >>= fun ts =>
    if isOneOf pathWords ts then take >>= fun _ => pure (.segment false false)
    else if isWord "Self" ts then take >>= fun _ => segmentArguments inExpression
    else expectIdent >>= fun _ => segmentArguments inExpression := rfl

end Accessors.Grammar
