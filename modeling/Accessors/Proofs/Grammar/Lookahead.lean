import Accessors.Grammar.Type
import Accessors.Proofs.Token.Spacing

/-!
# Looking past the end

Behind the type of a field stands a comma or nothing at all, and behind the bounds of a parameter an
equals sign or a closing bracket as well. A program looks at what is left as a whole, so it sees what
stands behind the type, too. The questions that it asks do not depend on it.

* `Stops`: what can stand behind the type of a field.
* `Exchange`: what stands behind a type, and what is to stand there in its place.
* `BlindTo`: a question that has the same answer then.
-/

namespace Accessors.Grammar

open Accessors.Token

variable {γ : Type} {after : List Tree}

/-- What can stand behind the type of a field: nothing, or a comma with anything behind it. -/
def Stops (after : List Tree) : Prop :=
  after = [] ∨ ∃ joint rest, after = .leaf (.punct ',' joint) :: rest

/-! ## What stands behind -/

/-- The character ends a type. In a list of fields it is the comma that does. -/
def isCloser (listed : Bool) (c : Char) : Bool := c == ',' || !listed && (c == '=' || c == '>')

/-- What can stand behind a type: nothing, or what ends it with anything behind that. -/
def Closes (listed : Bool) (after : List Tree) : Prop :=
  after = [] ∨ ∃ c joint rest, isCloser listed c = true ∧ after = .leaf (.punct c joint) :: rest

theorem Stops.closes (h : Stops after) (listed : Bool) : Closes listed after :=
  h.imp id fun ⟨joint, rest, h⟩ => ⟨',', joint, rest, rfl, h⟩

/-- What stands behind a type, and what is to stand there in its place. -/
structure Exchange where
  /-- Commas stand there only. -/
  listed : Bool
  after : List Tree
  /-- What is to stand there; if nothing is, the tree in front of it is alone. -/
  beyond : Option (List Tree)
  closes : Closes listed after
  closes_beyond : ∀ b, beyond = some b → Closes listed b

namespace Exchange

variable (x : Exchange)

/-- The forest with the other end behind it. -/
def turn (ts : List Tree) : List Tree :=
  match x.beyond with
  | none => endAlone ts
  | some b => ts ++ b

/-- The last tree of the forest does not go on as an operator with what ends a type. -/
def fits (ts : List Tree) : Prop :=
  x.listed = true ∨ ∀ joint, ts.getLast? ≠ some (.leaf (.punct '<' joint)) ∧
    ts.getLast? ≠ some (.leaf (.punct '-' joint))

/-- The same character ends the type. -/
def same : Prop := ∃ c i j rest others, x.after = .leaf (.punct c i) :: rest ∧
  x.beyond = some (.leaf (.punct c j) :: others)

/-- Nothing stands behind in the end. -/
def alone (h : Stops after) : Exchange := ⟨true, after, none, h.closes true, nofun⟩

variable {x}

theorem turn_nil : Closes x.listed (x.turn []) := by
  unfold turn
  cases h : x.beyond with
  | none => exact .inl rfl
  | some b => exact x.closes_beyond b h

/-- Only the spacing of the first tree can change. -/
theorem turn_cons (t : Tree) (ts : List Tree) :
    ∃ u, x.turn (t :: ts) = u :: x.turn ts ∧ u.alone = t.alone := by
  unfold turn
  cases x.beyond with
  | none => exact endAlone_cons t ts
  | some b => exact ⟨t, rfl, rfl⟩

theorem turn_group (d : Delimiter) (body ts : List Tree) :
    x.turn (.group d body :: ts) = .group d body :: x.turn ts := by
  unfold turn
  cases x.beyond with
  | none => exact endAlone_group d body ts
  | some b => rfl

theorem turn_cons_cons (t u : Tree) (ts : List Tree) :
    x.turn (t :: u :: ts) = t :: x.turn (u :: ts) := by
  unfold turn
  cases x.beyond <;> rfl

theorem drop_turn {n : Nat} {ts : List Tree} (h : n ≤ ts.length) :
    (x.turn ts).drop n = x.turn (ts.drop n) := by
  unfold turn
  cases x.beyond with
  | none => exact drop_endAlone n ts
  | some b => exact List.drop_append_of_le_length h

theorem fits_append {a b : List Tree} (h : x.fits (a ++ b)) : x.fits b := by
  refine h.imp id fun h joint => ?_
  cases b with
  | nil => simp
  | cons u us => simpa using h joint

theorem fits_drop {ts : List Tree} (h : x.fits ts) (n : Nat) : x.fits (ts.drop n) :=
  fits_append (a := ts.take n) (by rwa [List.take_append_drop])

end Exchange

variable {x : Exchange}

/-- A question about what is left has the same answer when something else stands behind it. -/
abbrev BlindTo (x : Exchange) (f : List Tree → γ) : Prop :=
  ∀ ts, x.fits ts → f (ts ++ x.after) = f (x.turn ts)

/-- A question about the first tree alone that does not ask for its spacing. What ends a type is as
good as nothing. -/
theorem blindTo_of_head {f : List Tree → γ}
    (hleaf : ∀ l ts, f (.leaf l :: ts) = f [(Tree.leaf l).alone])
    (hgroup : ∀ d body ts, f (.group d body :: ts) = f [.group d body])
    (hcloser : ∀ c, isCloser false c = true → f [.leaf (.punct c false)] = f []) : BlindTo x f := by
  have hends {listed : Bool} {b : List Tree} (h : Closes listed b) : f b = f [] := by
    rcases h with rfl | ⟨c, joint, rest, hc, rfl⟩
    · rfl
    · rw [hleaf]
      exact hcloser c (by cases listed <;> simp_all [isCloser])
  intro ts _
  cases ts with
  | nil => rw [List.nil_append, hends x.closes, hends Exchange.turn_nil]
  | cons t ts =>
    have hhead (v : Tree) (vs : List Tree) : f (v :: vs) = f [v.alone] := by
      cases v with
      | leaf l => exact hleaf l vs
      | group d body => exact hgroup d body vs
    obtain ⟨u, hu, halone⟩ := x.turn_cons t ts
    rw [hu, List.cons_append, hhead, hhead u, halone]

theorem blindTo_isWord {word : String} : BlindTo x (isWord word) :=
  blindTo_of_head (fun l _ => by cases l <;> rfl) (fun _ _ _ => rfl) fun _ _ => rfl

theorem blindTo_isOneOf {words : List String} : BlindTo x (isOneOf words) :=
  fun ts hts => by simp only [isOneOf, blindTo_isWord ts hts]

theorem blindTo_isAnyIdent : BlindTo x isAnyIdent :=
  blindTo_of_head (fun l _ => by cases l <;> rfl) (fun _ _ _ => rfl) fun _ _ => rfl

theorem blindTo_isIdent : BlindTo x isIdent :=
  blindTo_of_head (fun l _ => by cases l <;> rfl) (fun _ _ _ => rfl) fun _ _ => rfl

theorem blindTo_isLifetime : BlindTo x isLifetime :=
  blindTo_of_head (fun l _ => by cases l <;> rfl) (fun _ _ _ => rfl) fun _ _ => rfl

theorem blindTo_isStringLiteral : BlindTo x isStringLiteral :=
  blindTo_of_head (fun l _ => by cases l <;> rfl) (fun _ _ _ => rfl) fun _ _ => rfl

theorem blindTo_isGroup {d : Delimiter} : BlindTo x (isGroup d) :=
  blindTo_of_head (fun l _ => by cases l <;> rfl) (fun _ _ _ => rfl) fun _ _ => rfl

theorem blindTo_isParenthesis : BlindTo x isParenthesis := blindTo_isGroup

theorem blindTo_isBracket : BlindTo x isBracket := blindTo_isGroup

theorem blindTo_isBrace : BlindTo x isBrace := blindTo_isGroup

theorem blindTo_isAnyGroup : BlindTo x isAnyGroup :=
  blindTo_of_head (fun l _ => by cases l <;> rfl) (fun _ _ _ => rfl) fun _ _ => rfl

theorem blindTo_groupBody : BlindTo x groupBody :=
  blindTo_of_head (fun l _ => by cases l <;> rfl) (fun _ _ _ => rfl) fun _ _ => rfl

theorem isPunctChars_head (c : Char) (t : Tree) (ts : List Tree) :
    isPunctChars [c] (t :: ts) = isPunctChars [c] [t.alone] := by
  cases t with
  | leaf l => cases l <;> rfl
  | group d body => rfl

theorem isPunctChars_of_closes {listed : Bool} {c : Char} {s : List Char} {b : List Tree}
    (h : Closes listed b) (hc : isCloser listed c = false) : isPunctChars (c :: s) b = false := by
  rcases h with rfl | ⟨d, joint, rest, hd, rfl⟩
  · cases s <;> rfl
  · have hne : (c == d) = false := beq_false_of_ne fun he => by simp [he, hd] at hc
    cases s <;> simp [isPunctChars, hne]

/-- Where a later character of the operator ends a type, the forest does not end with the character in
front of it. -/
def Parted (x : Exchange) (ts : List Tree) : List Char → Prop
  | c :: d :: cs => (isCloser x.listed d = true → ts.getLast? ≠ some (.leaf (.punct c true))) ∧
    Parted x ts (d :: cs)
  | _ => True

theorem Parted.of_cons {t u : Tree} {ts : List Tree} {cs : List Char}
    (h : Parted x (t :: u :: ts) cs) : Parted x (u :: ts) cs := by
  induction cs with
  | nil => trivial
  | cons c cs ih =>
    cases cs with
    | nil => trivial
    | cons d cs => exact ⟨fun hd => by simpa using h.1 hd, ih h.2⟩

/-- An operator that begins in front of what stands behind ends there. -/
theorem isPunctChars_turn {ts : List Tree} {cs : List Char} (hts : ts ≠ []) (hcs : Parted x ts cs) :
    isPunctChars cs (ts ++ x.after) = isPunctChars cs (x.turn ts) := by
  induction cs generalizing ts with
  | nil => rfl
  | cons c cs ih =>
    obtain ⟨t, rest, rfl⟩ := List.exists_cons_of_ne_nil hts
    cases cs with
    | nil =>
      obtain ⟨u, hu, halone⟩ := x.turn_cons t rest
      rw [hu, List.cons_append, isPunctChars_head, isPunctChars_head c u, halone]
    | cons d cs =>
      cases rest with
      | nil =>
        -- The operator would have to go on with what stands behind.
        obtain ⟨u, hu, halone⟩ := x.turn_cons t []
        rw [hu, List.singleton_append]
        rcases t with (_ | _ | _ | ⟨e, joint⟩) | _
        case leaf.punct =>
          rcases u with (_ | _ | _ | ⟨e', joint'⟩) | _ <;> try cases halone
          cases hd : isCloser x.listed d with
          | false =>
            simp only [isPunctChars, isPunctChars_of_closes x.closes hd,
              isPunctChars_of_closes x.turn_nil hd, Bool.and_false]
          | true =>
            have hne := hcs.1 hd
            cases joint
            · have hturn : joint' = false ∨ c ≠ e := by
                unfold Exchange.turn at hu
                cases hb : x.beyond <;> simp_all [Tree.alone]
              rcases hturn with rfl | hce
              · simp [isPunctChars]
              · simp [isPunctChars, hce]
            · have hce : (c == e) = false := beq_false_of_ne fun he => hne (by simp [he])
              simp [isPunctChars, hce]
        all_goals
          rcases u with (_ | _ | _ | _) | _ <;> first | rfl | cases halone
      | cons v rest =>
        have hlater := ih (List.cons_ne_nil v rest) hcs.of_cons.2
        rw [List.cons_append] at hlater
        rw [x.turn_cons_cons, List.cons_append, List.cons_append]
        rcases t with (_ | _ | _ | _) | _ <;> simp [isPunctChars, hlater]

/-- The operator begins with no character that ends a type, and has such characters only behind those
that no type ends with. -/
def isApart : List Char → Bool
  | c :: cs => !isCloser false c && later (c :: cs)
  | [] => true
where
  later : List Char → Bool
    | c :: d :: cs => d != ',' && (!isCloser false d || c == '<' || c == '-') && later (d :: cs)
    | _ => true

theorem parted_of_later {ts : List Tree} (hts : x.fits ts) {cs : List Char}
    (h : isApart.later cs = true) : Parted x ts cs := by
  induction cs with
  | nil => trivial
  | cons c cs ih =>
    cases cs with
    | nil => trivial
    | cons d cs =>
      simp only [isApart.later, Bool.and_eq_true] at h
      refine ⟨fun hd => ?_, ih h.2⟩
      rcases hts with hlisted | hts
      · simp_all [isCloser]
      · have hcloser : isCloser false d = true := by cases x.listed <;> simp_all [isCloser]
        simp only [hcloser, Bool.not_true, Bool.false_or, Bool.or_eq_true, beq_iff_eq] at h
        rcases h.1.2 with rfl | rfl
        · exact (hts true).1
        · exact (hts true).2

/-- No operator goes on with what stands behind. -/
theorem blindTo_isPunctChars {cs : List Char} (h : isApart cs = true) : BlindTo x (isPunctChars cs) := by
  intro ts hts
  cases cs with
  | nil => rfl
  | cons c cs =>
    simp only [isApart, Bool.and_eq_true, Bool.not_eq_true'] at h
    cases ts with
    | nil =>
      have hc : isCloser x.listed c = false := by
        have hc := h.1
        cases x.listed <;> simp_all [isCloser]
      rw [List.nil_append, isPunctChars_of_closes x.closes hc, isPunctChars_of_closes x.turn_nil hc]
    | cons t ts => exact isPunctChars_turn (List.cons_ne_nil t ts) (parted_of_later hts h.2)

theorem blindTo_isPunct (operator : String) (hop : isApart operator.toList = true) :
    BlindTo x (isPunct operator) := blindTo_isPunctChars hop

/-- What ends a type is not mistaken where there is some tree in front of what stands behind, or the
same ends it. -/
theorem isPunct_turn {o : String} {c : Char} (hc : o.toList = [c]) {ts : List Tree}
    (hts : x.same ∨ ts ≠ []) : isPunct o (ts ++ x.after) = isPunct o (x.turn ts) := by
  rw [isPunct, isPunct, hc]
  by_cases hne : ts = []
  · obtain ⟨d, i, j, rest, others, hafter, hbeyond⟩ := hts.resolve_right (not_not_intro hne)
    rw [hne, Exchange.turn, hafter, hbeyond]
    rfl
  · exact isPunctChars_turn hne trivial

/-- A literal takes a minus sign and a number at most. -/
theorem literalSize_two (t u : Tree) (ts : List Tree) :
    literalSize (t :: u :: ts) = literalSize [t.alone, u.alone] := by
  cases t with
  | group d body => rfl
  | leaf l =>
    cases l with
    | punct c joint =>
      cases u with
      | group d body => simp [literalSize, Tree.alone]
      | leaf l => by_cases hc : c = '-' <;> cases l <;> simp [literalSize, Tree.alone, hc]
    | _ => rfl

theorem blindTo_literalSize : BlindTo x literalSize := by
  have hends {listed : Bool} {b : List Tree} (h : Closes listed b) (t : Tree) :
      literalSize b = 0 ∧ literalSize (t :: b) = literalSize [t.alone] := by
    rcases h with rfl | ⟨c, joint, rest, hc, rfl⟩
    · rcases t with (_ | _ | _ | _) | _ <;> simp [literalSize, Tree.alone]
    · have hne : c ≠ '-' := by rintro rfl; simp [isCloser] at hc
      rcases t with (_ | _ | _ | _) | _ <;> simp [literalSize, Tree.alone, hne]
  intro ts _
  rcases ts with _ | ⟨t, _ | ⟨u, us⟩⟩
  · rw [List.nil_append, (hends x.closes commaTree).1, (hends x.turn_nil commaTree).1]
  · obtain ⟨u, hu, halone⟩ := x.turn_cons t []
    rw [hu, List.singleton_append, (hends x.closes t).2, (hends x.turn_nil u).2, halone]
  · obtain ⟨v, hv, halone⟩ := x.turn_cons u us
    rw [x.turn_cons_cons, hv, List.cons_append, List.cons_append, literalSize_two,
      literalSize_two t v, halone]

theorem blindTo_isLiteral : BlindTo x isLiteral := by
  intro ts hts
  rw [isLiteral, blindTo_literalSize ts hts, isLiteral]

/-- Questions put together. -/
theorem blindTo_or {f g : List Tree → Bool} (hf : BlindTo x f) (hg : BlindTo x g) :
    BlindTo x fun ts => f ts || g ts := fun ts hts => by simp only [hf ts hts, hg ts hts]

theorem blindTo_not {f : List Tree → Bool} (hf : BlindTo x f) : BlindTo x fun ts => !f ts :=
  fun ts hts => congrArg _ (hf ts hts)

theorem blindTo_facesConstant : BlindTo x facesConstant := blindTo_or blindTo_isLiteral blindTo_isGroup

theorem blindTo_facesBound : BlindTo x facesBound :=
  blindTo_or (blindTo_or (blindTo_or (blindTo_or blindTo_isAnyIdent
    (blindTo_isPunct _ (by decide))) (blindTo_isPunct _ (by decide))) blindTo_isLifetime)
    blindTo_isGroup

/-- An exclamation mark that goes on as a comparison is not the last tree. -/
def Quiet (x : Exchange) (ts : List Tree) : Prop :=
  x.listed = true ∨ ts ≠ [.leaf (.punct '!' true)]

theorem isBang_turn {ts : List Tree} (hquiet : Quiet x ts) :
    isBang (ts ++ x.after) = isBang (x.turn ts) := by
  cases ts with
  | nil =>
    have hnone {b : List Tree} (h : Closes x.listed b) : isBang b = false := by
      have hfirst : isPunctChars ['!'] b = false :=
        isPunctChars_of_closes h (by cases x.listed <;> rfl)
      exact congrArg (· && !isPunct "!=" b) hfirst
    rw [List.nil_append, hnone x.closes, hnone x.turn_nil]
  | cons t ts =>
    have hfirst : isPunct "!" ((t :: ts) ++ x.after) = isPunct "!" (x.turn (t :: ts)) :=
      isPunct_turn (c := '!') rfl (.inr (List.cons_ne_nil t ts))
    have hsecond : isPunct "!=" ((t :: ts) ++ x.after) = isPunct "!=" (x.turn (t :: ts)) := by
      cases ts with
      | nil =>
        have hparted : Parted x [t] ['!', '='] := by
          refine ⟨fun hcloser => ?_, trivial⟩
          rcases hquiet with hlisted | hquiet
          · simp [isCloser, hlisted] at hcloser
          · simpa using hquiet
        exact isPunctChars_turn (List.cons_ne_nil t []) hparted
      | cons u us =>
        have hlater : isPunct "=" ((u :: us) ++ x.after) = isPunct "=" (x.turn (u :: us)) :=
          isPunct_turn (c := '=') rfl (.inr (List.cons_ne_nil u us))
        rw [x.turn_cons_cons]
        rcases t with (_ | _ | _ | ⟨c, joint⟩) | _ <;> try rfl
        exact congrArg (('!' == c && joint) && ·) hlater
    rw [isBang, isBang, hfirst, hsecond]

theorem length_le_of_isPunctChars {cs : List Char} {ts : List Tree}
    (h : isPunctChars cs ts = true) : cs.length ≤ ts.length := by
  induction cs generalizing ts with
  | nil => exact Nat.zero_le _
  | cons c cs ih =>
    cases ts with
    | nil => cases cs <;> cases h
    | cons t rest =>
      cases cs with
      | nil => simp
      | cons d cs =>
        match t with
        | .leaf (.punct e joint) =>
          simp only [isPunctChars, Bool.and_eq_true] at h
          exact Nat.succ_le_succ (ih h.2)

theorem length_pos_of_isLifetime {ts : List Tree} (h : isLifetime ts = true) : 1 ≤ ts.length := by
  cases ts with
  | nil => cases h
  | cons t rest => simp

/-- A question about a later tree is asked only where there is one. -/
theorem blindTo_and_drop {f g : List Tree → Bool} {n : Nat} (hf : ∀ {x}, BlindTo x f)
    (hg : BlindTo x g) (hn : ∀ ts, f ts = true → n ≤ ts.length) :
    BlindTo x fun ts => f ts && g (ts.drop n) := by
  intro ts hts
  -- If nothing stood behind, the answer would be the same.
  have halone : f (ts ++ x.after) = f (endAlone ts) :=
    hf (x := { x with beyond := none, closes_beyond := nofun }) ts hts
  have hsame := hf ts hts
  simp only [hsame]
  cases hfirst : f (x.turn ts) with
  | false => rfl
  | true =>
    have hlength : n ≤ ts.length := by
      rw [← length_endAlone ts]
      exact hn _ (by rw [← halone, hsame, hfirst])
    rw [List.drop_append_of_le_length hlength, hg _ (x.fits_drop hts n), x.drop_turn hlength]

theorem blindTo_emptyArguments : BlindTo x fun ts => isPunct "<" ts && isPunct ">" (ts.drop 1) := by
  intro ts hts
  have hopen := blindTo_isPunct "<" (by decide) ts hts
  simp only [hopen]
  cases ts with
  | nil =>
    have hnone : isPunct "<" (x.turn []) = false :=
      isPunctChars_of_closes (c := '<') (s := []) x.turn_nil (by cases x.listed <;> rfl)
    rw [hnone, Bool.false_and, Bool.false_and]
  | cons t ts =>
    obtain ⟨u, hu, halone⟩ := x.turn_cons t ts
    rw [hu, List.cons_append, List.drop_succ_cons, List.drop_succ_cons, List.drop_zero, List.drop_zero]
    cases ts with
    | nil =>
      -- No type ends with the opening bracket.
      rcases hts with hlisted | hts
      · have hnone {b : List Tree} (h : Closes x.listed b) : isPunct ">" b = false :=
          isPunctChars_of_closes (c := '>') (s := []) h (by rw [hlisted]; rfl)
        rw [List.nil_append, hnone x.closes, hnone x.turn_nil]
      · have hother (b : List Tree) : isPunct "<" (u :: b) = false := by
          rcases u with (_ | _ | _ | ⟨c, joint⟩) | _ <;> try rfl
          rcases t with (_ | _ | _ | ⟨d, joint'⟩) | _ <;> cases halone
          exact beq_false_of_ne fun he => (hts joint').1 (by cases he; rfl)
        rw [hother, Bool.false_and, Bool.false_and]
    | cons v ts => rw [isPunct_turn (c := '>') rfl (.inr (List.cons_ne_nil v ts))]

theorem blindTo_facesReplacedArguments : BlindTo x facesReplacedArguments := by
  refine blindTo_and_drop blindTo_emptyArguments blindTo_isParenthesis fun ts hts => ?_
  rw [Bool.and_eq_true] at hts
  have hclosing : 1 ≤ (ts.drop 1).length := length_le_of_isPunctChars hts.2
  rw [List.length_drop] at hclosing
  omega

/-- Behind a separator as well. -/
theorem blindTo_facesReplacedArguments_drop :
    BlindTo x fun ts => facesReplacedArguments (ts.drop (separatorSize ts)) := by
  intro ts hts
  have hblind (y : Exchange) (hts : y.fits ts) := @blindTo_isPunct y "::" (by decide) ts hts
  simp only [separatorSize, hblind x hts]
  split
  · next hsep =>
    have hlength : 2 ≤ ts.length := by
      rw [← hblind x hts, hblind { x with beyond := none, closes_beyond := nofun } hts] at hsep
      have hends : 2 ≤ (endAlone ts).length := length_le_of_isPunctChars hsep
      simpa using hends
    rw [List.drop_append_of_le_length hlength, blindTo_facesReplacedArguments _ (x.fits_drop hts 2),
      x.drop_turn hlength]
  · exact blindTo_facesReplacedArguments ts hts

end Accessors.Grammar
