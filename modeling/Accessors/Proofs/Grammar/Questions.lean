import Accessors.Proofs.Grammar.Positions
import Accessors.Proofs.Grammar.Tidied

/-!
# Questions about a forest brought into order

A program decides what to do by asking questions about what is left. A forest brought into order gives
the same answers as it did before.

* `Tidied.ask`: questions about the first tree.
* `Tidied.isPunctChars_eq`: questions about an operator.
* `Asks`: a question that has the same answer where a phrase begins, and how such questions are put
  together.
-/

namespace Accessors.Grammar

open Accessors.Text Accessors.Token

variable {γ : Type} {m : Mark} {ts us : List Tree}

/-! ## The first tree -/

/-- Trees that are left out begin with a character of their own. -/
theorem Hidden.exists_cons {left : List Tree} (h : Hidden left) :
    ∃ c joint rest, left = .leaf (.punct c joint) :: rest ∧ (c = ':' ∨ c = '<') := by
  cases h with
  | angles i j => exact ⟨_, _, _, rfl, .inr rfl⟩
  | separated joint i j => exact ⟨_, _, _, rfl, .inl rfl⟩

/-- They begin with a separator or an opening bracket. -/
theorem Hidden.begins {left : List Tree} (h : Hidden left) :
    (∀ ts, isPunct "::" (left ++ ts) = true) ∨ ∃ joint rest, left = .leaf (.punct '<' joint) :: rest := by
  cases h with
  | angles i j => exact .inr ⟨_, _, rfl⟩
  | separated joint i j => exact .inl fun _ => rfl

/-- Nothing is left out or added behind the mark. -/
def Mark.isPlain : Mark → Bool
  | .other | .fresh | .colon => true
  | _ => false

namespace Tidied

/-- What a forest begins with where nothing is left out or added. -/
@[elab_as_elim] theorem plain {motive : List Tree → List Tree → Prop} (hm : m.isPlain)
    (h : Tidied false m ts us) (nil : motive [] [])
    (leaf : ∀ l rest left, Tidied false (m.after (.leaf l)) rest left →
      motive (.leaf l :: rest) (.leaf l :: left))
    (group : ∀ d body printed rest left, Tidied false .other body printed →
      Tidied false .other rest left → motive (.group d body :: rest) (.group d printed :: left))
    (number : ∀ text part rest left, positions? [.leaf (.literal text)] = some [part] →
      isPunct ":" rest = true → Tidied false .other rest left →
      motive (.leaf (.literal text) :: rest) (.leaf (.literal (positionText part)) :: left)) :
    motive ts us := by
  cases h with
  | nil => exact nil
  | leaf l h => exact leaf l _ _ h
  | comma i j ho h => cases ho
  | group d hbody h => exact group d _ _ _ _ hbody h
  | number hpart hcolon h => exact number _ _ _ _ hpart hcolon h
  | numbers hparts h => cases hm
  | arguments list printed ho hclose h => cases hm
  | hidden hleft hcall h => cases hm

/-- A question about the first tree, which is the same but for the body of a group and for the way
that a position is written. -/
theorem ask (hm : m.isPlain) (h : Tidied false m ts us) {f : List Tree → γ}
    (hleaf : ∀ l rest left, f (.leaf l :: rest) = f (.leaf l :: left))
    (hgroup : ∀ d body printed rest left, f (.group d body :: rest) = f (.group d printed :: left))
    (hnumber : ∀ text part rest left, positions? [.leaf (.literal text)] = some [part] →
      f (.leaf (.literal text) :: rest) = f (.leaf (.literal (positionText part)) :: left)) :
    f ts = f us :=
  plain hm h rfl (fun l rest left _ => hleaf l rest left)
    (fun d body printed rest left _ _ => hgroup d body printed rest left)
    fun text part rest left hpart _ _ => hnumber text part rest left hpart

/-- A tree in front that is no literal stays. -/
theorem of_leaf {l : Leaf} (hm : m.isPlain) (h : Tidied false m (.leaf l :: ts) us)
    (hl : ∀ text, l ≠ .literal text) :
    ∃ left, us = .leaf l :: left ∧ Tidied false (m.after (.leaf l)) ts left := by
  generalize hts : Tree.leaf l :: ts = forest at h
  refine plain (motive := fun forest us => Tree.leaf l :: ts = forest →
    ∃ left, us = .leaf l :: left ∧ Tidied false (m.after (.leaf l)) ts left) hm h ?_ ?_ ?_ ?_ hts
  · intro heq
    cases heq
  · intro _ rest left h heq
    cases heq
    exact ⟨left, rfl, h⟩
  · intro _ _ _ _ _ _ _ heq
    cases heq
  · intro text _ _ _ _ _ _ heq
    cases heq
    exact absurd rfl (hl text)

/-- Arguments in parentheses are in parentheses still. -/
theorem isParenthesis_of (hm : m ≠ .angle) (h : Tidied false m ts us)
    (hgroup : isParenthesis ts = true) : isParenthesis us = true := by
  cases h with
  | nil => cases hgroup
  | leaf l h => cases hgroup
  | comma i j ho h => cases hgroup
  | group d hbody h => exact hgroup
  | number hpart hcolon h => cases hgroup
  | numbers hparts h => cases hgroup
  | arguments list printed ho hclose h => exact absurd rfl hm
  | hidden hleft hcall h =>
    obtain ⟨c, joint, rest, rfl, -⟩ := hleft.exists_cons
    cases hgroup

end Tidied

/-! ## Operators -/

/-- A question about an operator that begins with the character can have another answer behind the
mark. -/
def Mark.bars : Mark → Char → Bool
  | .name, c => c == ':' || c == '<'
  | .colon, c => c == '<'
  | .angle, _ => true
  | _, _ => false

/-- No character of the operator is barred by the one in front of it. -/
def isCalm : List Char → Bool
  | c :: d :: cs => !(Mark.other.after (.leaf (.punct c true))).bars d && isCalm (d :: cs)
  | _ => true

/-- Behind a character that the mark does not bar, the mark is the one that the character gives. -/
theorem Mark.after_of_bars {c : Char} {joint : Bool} (h : m.bars c = false) :
    m.after (.leaf (.punct c joint)) = Mark.other.after (.leaf (.punct c true)) := by
  by_cases hc : c = '<'
  · subst hc
    cases m <;> simp_all [Mark.bars, Mark.after]
  · simp [Mark.after, hc]

/-- Positions are printed as a literal at least. -/
theorem positionTrees_of_positions {text : String} {parts : List (List Char)}
    (h : positions? [.leaf (.literal text)] = some parts) :
    ∃ t rest, positionTrees parts = .leaf (.literal t) :: rest := by
  obtain ⟨-, hne, -⟩ := positions_eq_some.1 h
  match parts with
  | [] => simp at hne
  | [part] =>
    obtain hpart : part ≠ [] := by
      rintro rfl
      simp at hne
    exact ⟨_, _, by rw [positionTrees, if_neg (by simpa using hpart)]⟩
  | part :: next :: rest => exact ⟨_, _, rfl⟩

namespace Tidied

/-- **A forest brought into order begins with the same operators.** -/
theorem isPunctChars_eq {s : List Char} (h : Tidied false m ts us) (hm : m ≠ .angle)
    (hbars : ∀ c, s.head? = some c → m.bars c = false) (hcalm : isCalm s = true) :
    isPunctChars s ts = isPunctChars s us := by
  induction s generalizing m ts us with
  | nil => rfl
  | cons c cs ih =>
    have hc := hbars c rfl
    cases h with
    | nil => rfl
    | leaf l h =>
      cases l with
      | punct d joint =>
        cases cs with
        | nil => rfl
        | cons e cs =>
          change (c == d && joint && isPunctChars (e :: cs) _) =
            (c == d && joint && isPunctChars (e :: cs) _)
          by_cases hd : c = d
          · subst hd
            simp only [isCalm, Bool.and_eq_true, Bool.not_eq_true'] at hcalm
            rw [Mark.after_of_bars hc] at h
            rw [ih h ?_ ?_ hcalm.2]
            · intro he
              rw [he] at hcalm
              cases hcalm.1
            · rintro _ ⟨⟩
              exact hcalm.1
          · rw [beq_false_of_ne hd]
            rfl
      | _ => cases cs <;> rfl
    | comma i j ho h => cases ho
    | group d hbody h => cases cs <;> rfl
    | number hpart hcolon h => cases cs <;> rfl
    | numbers hparts h =>
      obtain ⟨t, rest, ht⟩ := positionTrees_of_positions hparts
      rw [ht]
      cases cs <;> rfl
    | arguments list printed ho hclose h => exact absurd rfl hm
    | hidden hleft hcall h =>
      -- Neither what is left out nor a call begins with the character.
      have hcolon : c ≠ ':' ∧ c ≠ '<' := by simpa [Mark.bars] using hc
      obtain ⟨d, joint, rest, rfl, hd⟩ := hleft.exists_cons
      have hne : c ≠ d := by rcases hd with rfl | rfl <;> simp [hcolon]
      obtain ⟨body, rest, rfl⟩ := eq_cons_of_isGroup (h.isParenthesis_of (by simp) hcall)
      cases cs <;> simp [isPunctChars, hne]

/-- An operator behind nothing special. -/
theorem isPunct_eq (h : Tidied false m ts us) (operator : String)
    (hbars : m ≠ .angle ∧ (operator.toList.head?.all fun c => !m.bars c) = true)
    (hcalm : isCalm operator.toList = true) : isPunct operator ts = isPunct operator us :=
  h.isPunctChars_eq hbars.1 (fun c hc => by simpa [hc] using hbars.2) hcalm

/-! ## Trees of other kinds -/

/-- What can be left out or stand behind it is an operator or a group in parentheses, which are as good
as nothing to some questions. -/
theorem ask_behind (hm : m ≠ .angle) (h : Tidied false m ts us) {f : List Tree → Bool}
    (hleaf : ∀ l rest left, f (.leaf l :: rest) = f (.leaf l :: left))
    (hgroup : ∀ d body printed rest left, f (.group d body :: rest) = f (.group d printed :: left))
    (hliteral : ∀ text other rest left,
      f (.leaf (.literal text) :: rest) = f (.leaf (.literal other) :: left))
    (hcall : ∀ c joint rest body left,
      f (.leaf (.punct c joint) :: rest) = f (.group .parenthesis body :: left)) : f ts = f us := by
  cases h with
  | nil => rfl
  | leaf l h => exact hleaf l _ _
  | comma i j ho h => cases ho
  | group d hbody h => exact hgroup d _ _ _ _
  | number hpart hcolon h => exact hliteral _ _ _ _
  | numbers hparts h =>
    obtain ⟨t, rest, ht⟩ := positionTrees_of_positions hparts
    rw [ht]
    exact hliteral _ _ _ _
  | arguments list printed ho hclose h => exact absurd rfl hm
  | hidden hleft hlater h =>
    obtain ⟨c, joint, rest, rfl, -⟩ := hleft.exists_cons
    obtain ⟨body, rest, rfl⟩ := eq_cons_of_isGroup (h.isParenthesis_of (by simp) hlater)
    exact hcall _ _ _ _ _

section Behind

variable (hm : m ≠ .angle) (h : Tidied false m ts us)
include hm h

theorem isWord_eq (word : String) : isWord word ts = isWord word us :=
  h.ask_behind hm (fun l _ _ => by cases l <;> rfl) (fun _ _ _ _ _ => rfl) (fun _ _ _ _ => rfl)
    fun _ _ _ _ _ => rfl

theorem isOneOf_eq (words : List String) : isOneOf words ts = isOneOf words us := by
  simp only [isOneOf, h.isWord_eq hm]

theorem isAnyIdent_eq : isAnyIdent ts = isAnyIdent us :=
  h.ask_behind hm (fun l _ _ => by cases l <;> rfl) (fun _ _ _ _ _ => rfl) (fun _ _ _ _ => rfl)
    fun _ _ _ _ _ => rfl

theorem isIdent_eq : isIdent ts = isIdent us :=
  h.ask_behind hm (fun l _ _ => by cases l <;> rfl) (fun _ _ _ _ _ => rfl) (fun _ _ _ _ => rfl)
    fun _ _ _ _ _ => rfl

theorem isLifetime_eq : isLifetime ts = isLifetime us :=
  h.ask_behind hm (fun l _ _ => by cases l <;> rfl) (fun _ _ _ _ _ => rfl) (fun _ _ _ _ => rfl)
    fun _ _ _ _ _ => rfl

theorem isBracket_eq : isBracket ts = isBracket us :=
  h.ask_behind hm (fun l _ _ => by cases l <;> rfl) (fun _ _ _ _ _ => rfl) (fun _ _ _ _ => rfl)
    fun _ _ _ _ _ => rfl

theorem isBrace_eq : isBrace ts = isBrace us :=
  h.ask_behind hm (fun l _ _ => by cases l <;> rfl) (fun _ _ _ _ _ => rfl) (fun _ _ _ _ => rfl)
    fun _ _ _ _ _ => rfl

theorem isEmpty_eq : ts.isEmpty = us.isEmpty :=
  h.ask_behind hm (fun _ _ _ => rfl) (fun _ _ _ _ _ => rfl) (fun _ _ _ _ => rfl)
    fun _ _ _ _ _ => rfl

end Behind

section Plain

variable (hm : m.isPlain) (h : Tidied false m ts us)
include hm h

theorem isGroup_eq (d : Delimiter) : isGroup d ts = isGroup d us :=
  h.ask hm (fun l _ _ => by cases l <;> rfl) (fun _ _ _ _ _ => rfl) fun _ _ _ _ _ => rfl

theorem isParenthesis_eq : isParenthesis ts = isParenthesis us := h.isGroup_eq hm _

theorem isAnyGroup_eq : isAnyGroup ts = isAnyGroup us :=
  h.ask hm (fun l _ _ => by cases l <;> rfl) (fun _ _ _ _ _ => rfl) fun _ _ _ _ _ => rfl

theorem groupBody : Tidied false .other (groupBody ts) (groupBody us) := by
  refine h.plain hm .nil (fun l _ _ _ => ?_) (fun d _ _ _ _ hbody _ => hbody) fun _ _ _ _ _ _ _ => ?_
  · cases l <;> exact .nil
  · exact .nil

end Plain

/-! ## Literals -/

theorem isStringLiteral_of_digit {text : String} {c : Char} {rest : List Char}
    (h : text.toList = c :: rest) (hc : isDigit c = true) (ts : List Tree) :
    isStringLiteral (.leaf (.literal text) :: ts) = false := by
  simp only [isStringLiteral, h]
  split
  · next heq =>
    obtain ⟨rfl, -⟩ := List.cons.inj heq
    cases hc
  · next heq =>
    obtain ⟨rfl, -⟩ := List.cons.inj heq
    cases hc
  · rfl

theorem isStringLiteral_eq (hm : m.isPlain) (h : Tidied false m ts us) :
    isStringLiteral ts = isStringLiteral us := by
  refine h.ask hm (fun l _ _ => by cases l <;> rfl) (fun _ _ _ _ _ => rfl) fun text part _ _ hpart => ?_
  obtain ⟨c, rest, htext, hc⟩ := exists_digit_of_position hpart
  obtain ⟨d, others, hprinted, hd⟩ := exists_digit_of_positionText part
  rw [isStringLiteral_of_digit htext hc, isStringLiteral_of_digit hprinted hd]

theorem literalSize_eq (hm : m.isPlain) (h : Tidied false m ts us) :
    literalSize ts = literalSize us := by
  refine h.plain hm rfl (fun l rest left hrest => ?_) (fun _ _ _ _ _ _ _ => rfl)
    fun _ _ _ _ _ _ _ => rfl
  cases l with
  | punct c joint =>
    by_cases hc : c = '-'
    · subst hc
      -- Behind a minus sign stands a number in both, or in none.
      rw [show m.after (.leaf (.punct '-' joint)) = .other by simp [Mark.after]] at hrest
      refine hrest.plain rfl rfl (fun l _ _ _ => ?_) (fun _ _ _ _ _ _ _ => rfl)
        fun text part _ _ hpart _ _ => ?_
      · cases l <;> rfl
      · obtain ⟨c, others, htext, hc⟩ := exists_digit_of_position hpart
        obtain ⟨d, others, hprinted, hd⟩ := exists_digit_of_positionText part
        simp [literalSize, isNumber_of_digit htext hc, isNumber_of_digit hprinted hd]
    · simp [literalSize, hc]
  | _ => rfl

theorem isLiteral_eq (hm : m.isPlain) (h : Tidied false m ts us) : isLiteral ts = isLiteral us := by
  rw [isLiteral, h.literalSize_eq hm, isLiteral]

/-! ## The second tree -/

/-- Behind the first tree nothing is added. -/
theorem drop_one (hm : m = .other ∨ m = .fresh) (h : Tidied false m ts us) :
    ∃ n, n ≠ .angle ∧ Tidied false n (ts.drop 1) (us.drop 1) := by
  have hplain : m.isPlain := by rcases hm with rfl | rfl <;> rfl
  refine h.plain hplain ⟨.other, by simp, .nil⟩ (fun l rest left h => ⟨_, ?_, h⟩)
    (fun _ _ _ _ _ _ h => ⟨_, by simp, h⟩) fun _ _ _ _ _ _ h => ⟨_, by simp, h⟩
  rcases hm with rfl | rfl <;> cases l <;> simp [Mark.after] <;> grind

/-- Behind a word that is no name nothing is left out, either. -/
theorem drop_word (hm : m.isPlain) (h : Tidied false m ts us) {word : String}
    (hword : isWord word ts = true) (hname : m = .fresh ∨ Ident.takesArguments ⟨word, false⟩ = false) :
    Tidied false .other (ts.drop 1) (us.drop 1) := by
  unfold isWord at hword
  split at hword
  · next i rest =>
    obtain ⟨left, rfl, hrest⟩ := h.of_leaf hm nofun
    simp only [Bool.and_eq_true, Bool.not_eq_true', beq_iff_eq] at hword
    have hi : i = ⟨word, false⟩ := by cases i; simp_all
    rw [hi] at hrest
    have hmark : m.after (.leaf (.ident ⟨word, false⟩)) = .other := by
      rcases hname with rfl | hname <;> simp [Mark.after, *]
    rwa [hmark] at hrest
  · cases hword

/-- Behind an identifier that stands where it has no arguments nothing is left out. -/
theorem drop_ident (h : Tidied false .fresh ts us) (hident : isAnyIdent ts = true) :
    Tidied false .other (ts.drop 1) (us.drop 1) := by
  unfold isAnyIdent at hident
  split at hident
  · next i rest =>
    obtain ⟨left, rfl, hrest⟩ := h.of_leaf rfl nofun
    simpa [Mark.after] using hrest
  · cases hident

theorem drop_lifetime (hm : m.isPlain) (h : Tidied false m ts us) (hlifetime : isLifetime ts = true) :
    Tidied false .other (ts.drop 1) (us.drop 1) := by
  unfold isLifetime at hlifetime
  split at hlifetime
  · obtain ⟨left, rfl, hrest⟩ := h.of_leaf hm nofun
    exact hrest
  · cases hlifetime

end Tidied

/-! ## Questions of the grammar -/

/-- A phrase begins behind the mark. -/
def Mark.IsOpen (m : Mark) : Prop := m = .other ∨ m = .fresh

theorem Mark.IsOpen.isPlain (h : m.IsOpen) : m.isPlain = true := by rcases h with rfl | rfl <;> rfl

theorem Mark.IsOpen.ne_angle (h : m.IsOpen) : m ≠ .angle := by rcases h with rfl | rfl <;> simp

/-- Only the characters that can be left out are barred behind a mark. -/
theorem Mark.bars_eq_false (hm : m ≠ .angle) {c : Char} (hc : c ≠ ':' ∧ c ≠ '<') : m.bars c = false := by
  cases m <;> simp_all [Mark.bars]

/-- What stands in front of a program, as far as it is known: nothing special, or nothing special nor
arguments behind a name in front. -/
def Mark.opening (fresh : Bool) : Mark := if fresh then .fresh else .other

variable {fresh : Bool}

theorem Mark.isOpen_opening : (Mark.opening fresh).IsOpen := by
  cases fresh
  · exact .inl rfl
  · exact .inr rfl

@[simp] theorem Mark.isPlain_opening : (Mark.opening fresh).isPlain := isOpen_opening.isPlain

@[simp] theorem Mark.opening_ne_angle : Mark.opening fresh ≠ .angle := isOpen_opening.ne_angle

/-- **The question has the same answer for a forest brought into order.** -/
def Asks (fresh : Bool) (f : List Tree → γ) : Prop :=
  ∀ ts us, Tidied false (.opening fresh) ts us → f ts = f us

/-! ### Questions put together -/

section

variable {f f' : List Tree → Bool} {g h : List Tree → γ}

theorem asks_const {c : γ} : Asks fresh fun _ => c := fun _ _ _ => rfl

theorem asks_ite (hf : Asks fresh f) (hg : Asks fresh g) (hh : Asks fresh h) :
    Asks fresh fun ts => if f ts then g ts else h ts :=
  fun ts us hts => by simp only [hf ts us hts, hg ts us hts, hh ts us hts]

/-- A choice whose first branch rests on the answer that led there. -/
theorem asks_ite_of (hf : Asks fresh f)
    (hg : ∀ ts us, Tidied false (.opening fresh) ts us → f ts = true → g ts = g us)
    (hh : Asks fresh h) : Asks fresh fun ts => if f ts then g ts else h ts := by
  intro ts us hts
  cases hask : f ts with
  | true => simp only [← hf ts us hts, hask, if_true, hg ts us hts hask]
  | false => simp only [← hf ts us hts, hask, Bool.false_eq_true, if_false, hh ts us hts]

/-- What rests on a question has the same answer if the question has. -/
theorem asks_after {δ : Type _} {f : List Tree → γ} {g : List Tree → δ} (hf : Asks fresh f)
    (hg : ∀ ts us, f ts = f us → g ts = g us) : Asks fresh g :=
  fun ts us hts => hg ts us (hf ts us hts)

theorem asks_or (hf : Asks fresh f) (hf' : Asks fresh f') : Asks fresh fun ts => f ts || f' ts :=
  fun ts us hts => congrArg₂ _ (hf ts us hts) (hf' ts us hts)

theorem asks_and (hf : Asks fresh f) (hf' : Asks fresh f') : Asks fresh fun ts => f ts && f' ts :=
  fun ts us hts => congrArg₂ _ (hf ts us hts) (hf' ts us hts)

theorem asks_not (hf : Asks fresh f) : Asks fresh fun ts => !f ts :=
  fun ts us hts => congrArg _ (hf ts us hts)

end

/-! ### The first trees -/

section

variable {operator word : String} {operators words : List String}

theorem asks_isPunct (hcalm : isCalm operator.toList = true) : Asks fresh (isPunct operator) := by
  refine fun ts us h => h.isPunctChars_eq (by simp) (fun c _ => ?_) hcalm
  rcases (Mark.isOpen_opening : (Mark.opening fresh).IsOpen) with hm | hm <;> rw [hm] <;> rfl

theorem asks_isOperatorOf (hcalm : (operators.all fun o => isCalm o.toList) = true) :
    Asks fresh (isOperatorOf operators) := by
  induction operators with
  | nil => exact asks_const
  | cons o operators ih =>
    rw [List.all_cons, Bool.and_eq_true] at hcalm
    exact asks_or (asks_isPunct hcalm.1) (ih hcalm.2)

theorem asks_isWord : Asks fresh (isWord word) := fun _ _ h => h.isWord_eq (by simp) word

theorem asks_isOneOf : Asks fresh (isOneOf words) := fun _ _ h => h.isOneOf_eq (by simp) words

theorem asks_isAnyIdent : Asks fresh isAnyIdent := fun _ _ h => h.isAnyIdent_eq (by simp)

theorem asks_isIdent : Asks fresh isIdent := fun _ _ h => h.isIdent_eq (by simp)

theorem asks_isLifetime : Asks fresh isLifetime := fun _ _ h => h.isLifetime_eq (by simp)

theorem asks_isEmpty : Asks fresh List.isEmpty := fun _ _ h => h.isEmpty_eq (by simp)

theorem asks_isGroup {d : Delimiter} : Asks fresh (isGroup d) := fun _ _ h => h.isGroup_eq (by simp) d

theorem asks_isParenthesis : Asks fresh isParenthesis := asks_isGroup

theorem asks_isBracket : Asks fresh isBracket := asks_isGroup

theorem asks_isBrace : Asks fresh isBrace := asks_isGroup

theorem asks_isAnyGroup : Asks fresh isAnyGroup := fun _ _ h => h.isAnyGroup_eq (by simp)

theorem asks_isStringLiteral : Asks fresh isStringLiteral :=
  fun _ _ h => h.isStringLiteral_eq (by simp)

theorem asks_literalSize : Asks fresh literalSize := fun _ _ h => h.literalSize_eq (by simp)

theorem asks_isLiteral : Asks fresh isLiteral := fun _ _ h => h.isLiteral_eq (by simp)

end

/-- One operator comes next, and it does not go on as another one. -/
theorem asks_sign {s t : String} (hs : isCalm s.toList = true) (ht : isCalm t.toList = true) :
    Asks fresh fun ts => isPunct s ts && !isPunct t ts :=
  asks_and (asks_isPunct hs) (asks_not (asks_isPunct ht))

theorem asks_isBang : Asks fresh isBang := asks_sign (by decide) (by decide)

theorem asks_isColon : Asks fresh isColon := asks_sign (by decide) (by decide)

theorem asks_isDot : Asks fresh isDot := asks_sign (by decide) (by decide)

theorem asks_isEquals : Asks fresh isEquals := asks_sign (by decide) (by decide)

theorem asks_isBar : Asks fresh isBar :=
  asks_and (asks_sign (by decide) (by decide)) (asks_not (asks_isPunct (by decide)))

theorem asks_facesValue : Asks fresh facesValue :=
  asks_and (asks_sign (by decide) (by decide)) (asks_not (asks_isPunct (by decide)))

theorem asks_facesConstant : Asks fresh facesConstant := asks_or asks_isLiteral asks_isBrace

theorem asks_facesBound : Asks fresh facesBound :=
  asks_or (asks_or (asks_or (asks_or asks_isAnyIdent (asks_isPunct (by decide)))
    (asks_isPunct (by decide))) asks_isLifetime) asks_isParenthesis

theorem asks_endsCondition : Asks fresh endsCondition :=
  asks_or (asks_or (asks_or (asks_or (asks_or asks_isEmpty asks_isBrace) (asks_isPunct (by decide)))
    (asks_isPunct (by decide))) asks_isColon) (asks_isPunct (by decide))

theorem asks_endsRange : Asks fresh rangePatternProgram.endsRange :=
  asks_or (asks_or (asks_or asks_isEmpty (asks_isOperatorOf (by decide))) asks_isColon) asks_isWord

theorem asks_endsOpenRange {literals : Bool} : Asks fresh (endsOpenRange literals) :=
  asks_or (asks_or (asks_or (asks_or asks_isEmpty asks_isDot) (asks_and asks_const asks_isBrace))
    asks_isWord) (asks_isOperatorOf (by decide))

theorem asks_beginsExpression : Asks fresh beginsExpression := by
  unfold beginsExpression
  repeat' with_reducible apply asks_or
  · exact asks_isAnyIdent
  · exact asks_isAnyGroup
  · exact asks_isLiteral
  · exact asks_isBang
  · exact asks_and (asks_sign (by decide) (by decide)) (asks_not (asks_isPunct (by decide)))
  · exact asks_sign (by decide) (by decide)
  · exact asks_sign (by decide) (by decide)
  · exact asks_sign (by decide) (by decide)
  · exact asks_isPunct (by decide)
  · exact asks_and (asks_sign (by decide) (by decide)) (asks_not (asks_isPunct (by decide)))
  · exact asks_isPunct (by decide)
  · exact asks_isLifetime
  · exact asks_isPunct (by decide)

theorem asks_binaryOperator : Asks fresh binaryOperator? := by
  have hfind (operators : List (String × Precedence))
      (hcalm : ∀ o ∈ operators, isCalm o.1.toList = true) :
      Asks fresh fun ts => operators.find? fun o => isPunct o.1 ts := by
    intro ts us h
    induction operators with
    | nil => rfl
    | cons o operators ih =>
      have hfirst := asks_isPunct (hcalm o List.mem_cons_self) ts us h
      have hlater := ih fun o ho => hcalm o (List.mem_cons_of_mem _ ho)
      simp only [List.find?_cons, hfirst, hlater]
  exact hfind binaryOperators (by decide)

theorem asks_nextPrecedence : Asks fresh nextPrecedence := by
  intro ts us h
  have hdots : isPunct ".." ts = isPunct ".." us := asks_isPunct (by decide) ts us h
  simp only [nextPrecedence, asks_binaryOperator ts us h, asks_isEquals ts us h, hdots,
    asks_isWord ts us h]

/-! ### Trees behind the first one -/

/-- A question about what stands behind the first tree, where something can be left out. -/
theorem asks_second {f : List Tree → γ}
    (hf : ∀ {m ts us}, m ≠ .angle → Tidied false m ts us → f ts = f us) :
    Asks fresh fun ts => f (ts.drop 1) := by
  intro ts us h
  obtain ⟨n, hn, hrest⟩ := h.drop_one Mark.isOpen_opening
  exact hf hn hrest

theorem asks_isWord_second {word : String} : Asks fresh fun ts => isWord word (ts.drop 1) :=
  asks_second fun hm h => h.isWord_eq hm word

theorem asks_isOneOf_second {words : List String} : Asks fresh fun ts => isOneOf words (ts.drop 1) :=
  asks_second fun hm h => h.isOneOf_eq hm words

theorem asks_isIdent_second : Asks fresh fun ts => isIdent (ts.drop 1) :=
  asks_second fun hm h => h.isIdent_eq hm

theorem asks_isLifetime_second : Asks fresh fun ts => isLifetime (ts.drop 1) :=
  asks_second fun hm h => h.isLifetime_eq hm

theorem asks_isBracket_second : Asks fresh fun ts => isBracket (ts.drop 1) :=
  asks_second fun hm h => h.isBracket_eq hm

theorem asks_isBrace_second : Asks fresh fun ts => isBrace (ts.drop 1) :=
  asks_second fun hm h => h.isBrace_eq hm

/-- An operator that nothing can be left out in front of. -/
def isFirm (operator : String) : Bool :=
  isCalm operator.toList && operator.toList.head?.all fun c => c != ':' && c != '<'

theorem asks_isPunct_second {operator : String} (hfirm : isFirm operator = true) :
    Asks fresh fun ts => isPunct operator (ts.drop 1) := by
  rw [isFirm, Bool.and_eq_true] at hfirm
  refine asks_second fun hm h => h.isPunctChars_eq hm (fun c hc => Mark.bars_eq_false hm ?_) hfirm.1
  have hhead := hfirm.2
  rw [hc] at hhead
  simpa using hhead

/-- A question behind a word that has no arguments. -/
theorem asks_isWord_and {w : String} {f : List Tree → Bool}
    (hname : fresh = true ∨ Ident.takesArguments ⟨w, false⟩ = false) (hf : Asks false f) :
    Asks fresh fun ts => isWord w ts && f (ts.drop 1) := by
  intro ts us h
  have hmark : Mark.opening fresh = .fresh ∨ Ident.takesArguments ⟨w, false⟩ = false :=
    hname.imp_left fun hfresh => by rw [hfresh]; rfl
  simp only [← asks_isWord ts us h]
  cases hword : isWord w ts with
  | false => rfl
  | true => rw [hf _ _ (h.drop_word (by simp) hword hmark)]

theorem asks_isLifetime_and {f : List Tree → Bool} (hf : Asks false f) :
    Asks fresh fun ts => isLifetime ts && f (ts.drop 1) := by
  intro ts us h
  simp only [← asks_isLifetime ts us h]
  cases hlifetime : isLifetime ts with
  | false => rfl
  | true => rw [hf _ _ (h.drop_lifetime (by simp) hlifetime)]

theorem asks_isBrace_and {f : List Tree → Bool} (hf : Asks false f) :
    Asks fresh fun ts => isBrace ts && f (ts.drop 1) := by
  intro ts us h
  refine h.plain (by simp) rfl (fun l _ _ _ => ?_) (fun d _ _ _ _ _ hrest => ?_) fun _ _ _ _ _ _ _ => rfl
  · cases l <;> rfl
  · change (Delimiter.brace == d && _) = (Delimiter.brace == d && _)
    rw [List.drop_succ_cons, List.drop_succ_cons, List.drop_zero, List.drop_zero, hf _ _ hrest]

/-- A question behind a name in front of everything else. -/
theorem asks_isIdent_and {f : List Tree → Bool} (hf : Asks false f) :
    Asks true fun ts => isIdent ts && f (ts.drop 1) := by
  intro ts us h
  simp only [← asks_isIdent ts us h]
  cases hident : isIdent ts with
  | false => rfl
  | true =>
    have hany : isAnyIdent ts = true := by
      unfold isIdent at hident
      split at hident
      · rfl
      · cases hident
    rw [hf _ _ (h.drop_ident hany)]

theorem asks_facesAsyncBlock : Asks fresh facesAsyncBlock := by
  refine asks_isWord_and (f := fun ts => isBrace ts || isWord "move" ts && isBrace (ts.drop 1))
    (.inr (by decide)) ?_
  exact asks_or asks_isBrace (asks_and asks_isWord asks_isBrace_second)

/-- Lifetimes behind an opening bracket. -/
theorem asks_facesLifetimes :
    Asks fresh fun ts => isPunct "<" ts && (isLifetime (ts.drop 1) || isPunct ">" (ts.drop 1)) :=
  asks_and (asks_isPunct (by decide)) (asks_or asks_isLifetime_second (asks_isPunct_second (by decide)))

/-- Behind the word `for`, which can begin a loop or a closure. -/
theorem asks_facesLoop : Asks fresh fun ts => isWord "for" ts && !(isPunct "<" (ts.drop 1) &&
    (isLifetime ((ts.drop 1).drop 1) || isPunct ">" ((ts.drop 1).drop 1))) :=
  asks_isWord_and (f := fun ts => !(isPunct "<" ts && (isLifetime (ts.drop 1) || isPunct ">" (ts.drop 1))))
    (.inr (by decide)) (asks_not asks_facesLifetimes)

theorem asks_facesClosure : Asks fresh facesClosure := by
  have hlifetimes : Asks fresh fun ts => isWord "for" ts && isPunct "<" (ts.drop 1) &&
      (isLifetime ((ts.drop 1).drop 1) || isPunct ">" ((ts.drop 1).drop 1)) := by
    have hword : Asks fresh fun ts => isWord "for" ts && (isPunct "<" (ts.drop 1) &&
        (isLifetime ((ts.drop 1).drop 1) || isPunct ">" ((ts.drop 1).drop 1))) :=
      asks_isWord_and (.inr (by decide)) asks_facesLifetimes
    simpa only [Bool.and_assoc] using hword
  unfold facesClosure
  repeat' with_reducible apply asks_or
  · exact asks_isPunct (by decide)
  · exact asks_isWord
  · exact hlifetimes
  · exact asks_and asks_isWord (asks_not asks_isBrace_second)
  · exact asks_isWord
  · exact asks_and asks_isWord (asks_or (asks_isPunct_second (by decide)) asks_isWord_second)

theorem asks_isLifetime_colon : Asks fresh fun ts => isLifetime ts && isPunct ":" (ts.drop 1) :=
  asks_isLifetime_and (asks_isPunct (by decide))

theorem asks_facesPathPattern : Asks true facesPathPattern := by
  unfold facesPathPattern
  repeat' with_reducible apply asks_or
  · refine asks_isIdent_and (f := fun ts => isPunct "::" ts || isPunct "!" ts || isBrace ts ||
      isParenthesis ts || isPunct ".." ts) ?_
    exact asks_or (asks_or (asks_or (asks_or (asks_isPunct (by decide)) (asks_isPunct (by decide)))
      asks_isBrace) asks_isParenthesis) (asks_isPunct (by decide))
  · exact asks_isWord_and (.inl rfl) (asks_isPunct (by decide))
  · exact asks_isPunct (by decide)
  · exact asks_isPunct (by decide)
  · exact asks_isOneOf

theorem asks_facesTryPath :
    Asks true fun ts => isWord "try" ts && (isPunct "!" (ts.drop 1) || isPunct "::" (ts.drop 1)) :=
  asks_isWord_and (f := fun ts => isPunct "!" ts || isPunct "::" ts) (.inl rfl)
    (asks_or (asks_isPunct (by decide)) (asks_isPunct (by decide)))

/-! ### Names with a colon -/

/-- A question about a colon of its own behind a name. Nothing is left out in front of it. -/
theorem Tidied.ask_colon (hm : m ≠ .angle) (h : Tidied false m ts us) {f : List Tree → Bool}
    (hcolon : ∀ {joint rest left}, Tidied false .colon rest left →
      f (.leaf (.punct ':' joint) :: rest) = f (.leaf (.punct ':' joint) :: left))
    (hother : ∀ ts, isPunct ":" ts = false → f ts = false)
    (hseparator : ∀ ts, isPunct "::" ts = true → f ts = false) : f ts = f us := by
  have hnone {ts us : List Tree} (hts : isPunct ":" ts = false) (hus : isPunct ":" us = false) :
      f ts = f us := by rw [hother ts hts, hother us hus]
  cases h with
  | nil => rfl
  | leaf l h =>
    by_cases hl : ∃ joint, l = .punct ':' joint
    · obtain ⟨joint, rfl⟩ := hl
      exact hcolon h
    · have hno (ts : List Tree) : isPunct ":" (.leaf l :: ts) = false := by
        cases l with
        | punct c joint =>
          have hc : ':' ≠ c := fun he => hl ⟨joint, by rw [he]⟩
          exact beq_false_of_ne hc
        | _ => rfl
      exact hnone (hno _) (hno _)
  | comma i j ho h => cases ho
  | group d hbody h => exact hnone rfl rfl
  | number hpart hcolon h => exact hnone rfl rfl
  | numbers hparts h =>
    obtain ⟨t, rest, ht⟩ := positionTrees_of_positions hparts
    rw [ht]
    exact hnone rfl rfl
  | arguments list printed ho hclose h => exact absurd rfl hm
  | @hidden left ts _ hleft hcall h =>
    have hts : f (left ++ ts) = false := by
      rcases hleft.begins with hseparator' | ⟨joint, rest, rfl⟩
      · exact hseparator _ (hseparator' _)
      · exact hother _ rfl
    rw [hts]
    obtain ⟨body, rest, rfl⟩ := eq_cons_of_isGroup (h.isParenthesis_of (by simp) hcall)
    exact (hother _ rfl).symm

theorem asks_facesName {words : List String} : Asks fresh (facesName words) := by
  refine asks_and (asks_or asks_isIdent asks_isOneOf) (asks_second fun hm h => ?_)
  refine h.ask_colon hm (fun {joint _ _} h => ?_) (fun ts hts => ?_) fun ts hts => ?_
  · have hsecond := h.isPunctChars_eq (s := [':']) (by simp) (by rintro _ ⟨⟩; rfl) rfl
    change (true && !(true && joint && isPunctChars [':'] _)) =
      (true && !(true && joint && isPunctChars [':'] _))
    rw [hsecond]
  · rw [isColon, hts, Bool.false_and]
  · rw [isColon, hts, Bool.not_true, Bool.and_false]

theorem asks_facesVariadic : Asks fresh facesVariadic := by
  have hcolon : Asks fresh fun ts => isPunct ":" (ts.drop 1) && isPunct "..." (ts.drop 2) := by
    have hbehind :
        Asks fresh fun ts => (fun ts => isPunct ":" ts && isPunct "..." (ts.drop 1)) (ts.drop 1) := by
      refine asks_second (f := fun ts => isPunct ":" ts && isPunct "..." (ts.drop 1)) fun hm h =>
        h.ask_colon (f := fun ts => isPunct ":" ts && isPunct "..." (ts.drop 1)) hm (fun h => ?_)
          (fun ts hts => ?_) fun ts hts => ?_
      · exact h.isPunctChars_eq (s := ['.', '.', '.']) (by simp) (by rintro _ ⟨⟩; rfl) rfl
      · rw [hts, Bool.false_and]
      · obtain ⟨joint, rest, rfl⟩ := eq_cons_of_separator hts
        rfl
    simpa only [List.drop_drop] using hbehind
  have hname : Asks fresh fun ts => (isIdent ts || isWord "_" ts) &&
      (isPunct ":" (ts.drop 1) && isPunct "..." (ts.drop 2)) :=
    asks_and (asks_or asks_isIdent asks_isWord) hcolon
  unfold facesVariadic
  simp only [Bool.and_assoc]
  exact asks_or (asks_isPunct (by decide)) hname

/-! ### The body of a group, and literals -/

theorem asks_body {f : List Tree → γ} (hf : Asks false f) : Asks fresh fun ts => f (groupBody ts) :=
  fun _ _ h => hf _ _ (h.groupBody (by simp))

/-- What visibility is restricted to. -/
theorem asks_restricted : Asks fresh fun ts =>
    isParenthesis ts && isOneOf ["crate", "self", "super"] (groupBody ts) &&
      (groupBody ts).length == 1 := by
  have hlength (ts : List Tree) : (ts.length == 1) = (!ts.isEmpty && (ts.drop 1).isEmpty) := by
    match ts with
    | [] => rfl
    | [_] => rfl
    | _ :: _ :: _ => simp
  simp only [hlength]
  have hempty : Asks false fun ts => (ts.drop 1).isEmpty := asks_second fun hm h => h.isEmpty_eq hm
  exact asks_and (asks_and asks_isParenthesis (asks_body asks_isOneOf))
    (asks_body (asks_and (asks_not asks_isEmpty) hempty))

/-- Nothing stands behind a literal. -/
theorem asks_onlyLiteral :
    Asks fresh fun ts => isLiteral ts && (ts.drop (literalSize ts)).isEmpty := by
  intro ts us h
  refine h.plain (by simp) rfl (fun l rest left hrest => ?_) (fun _ _ _ _ _ _ _ => rfl)
    fun _ _ _ _ _ _ hrest => hrest.isEmpty_eq (by simp)
  have hmark : (Mark.opening fresh).after (.leaf l) ≠ .angle := by
    cases fresh <;> cases l <;> grind [Mark.after, Mark.opening]
  cases l with
  | ident i =>
    have hempty := hrest.isEmpty_eq hmark
    by_cases hi : (!i.raw && (i.name == "true" || i.name == "false")) = true <;>
      simp [isLiteral, literalSize, hi, hempty, -List.isEmpty_iff]
  | lifetime text => rfl
  | literal text => exact hrest.isEmpty_eq hmark
  | punct c joint =>
    by_cases hc : c = '-'
    · subst hc
      rw [show Mark.after _ (.leaf (.punct '-' joint)) = .other by simp [Mark.after]] at hrest
      refine hrest.plain rfl rfl (fun l rest left hlater => ?_) (fun _ _ _ _ _ _ _ => rfl)
        fun text part rest left hpart _ hlater => ?_
      · cases l with
        | literal text =>
          have hempty := hlater.isEmpty_eq (by grind [Mark.after])
          by_cases hnumber : isNumber text = true <;>
            simp [isLiteral, literalSize, hnumber, hempty, -List.isEmpty_iff]
        | _ => rfl
      · obtain ⟨c, others, htext, hc⟩ := exists_digit_of_position hpart
        obtain ⟨d, others, hprinted, hd⟩ := exists_digit_of_positionText part
        simp [isLiteral, literalSize, isNumber_of_digit htext hc, isNumber_of_digit hprinted hd,
          hlater.isEmpty_eq, -List.isEmpty_iff]
    · simp [isLiteral, literalSize, hc]

end Accessors.Grammar
