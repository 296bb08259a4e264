import Accessors.Proofs.Token.Pieces

/-!
# Outlines of generated code

Generated code has a fixed frame around what differs from text to text: the headers, the methods and
the listed accessors. An outline is what one reads in the code, and its pieces are the code again.

* `MethodCode`, `MetaCode`: what a method and a listed accessor say.
* `Outline`: what both implementations say.
* `Outline.members_unique`: the code determines its methods and its listed accessors. Headers and
  types are any pieces, except that types do not have the word that begins a method.
-/

namespace Accessors.Getters

open Accessors.Token

/-- Pieces that are words. -/
def spelled (words : List String) : List Piece := words.map .word

@[simp] theorem spelled_nil : spelled [] = [] := rfl

@[simp] theorem spelled_cons (text : String) (rest : List String) :
    spelled (text :: rest) = .word text :: spelled rest := rfl

/-! ## Methods -/

/-- What a method gives: a truth value, or a reference to a value of some type. -/
inductive MethodResult where
  | value
  | reference (type : List Piece)

/-- A method as it is read: its name, what it gives, and the field in its body. -/
structure MethodCode where
  name : String
  result : MethodResult
  field : String

/-- The type and the body of a method that gives this of a field. -/
def MethodResult.pieces (field : String) : MethodResult → List Piece
  | value => [.word "bool", .group .brace (spelled ["self", ".", field])]
  | reference type =>
    .word "&" :: type ++ [.group .brace (spelled ["&", "self", ".", field])]

/-- The pieces of a method. -/
def MethodCode.pieces (m : MethodCode) : List Piece :=
  spelled ["pub", "fn", m.name] ++ .group .parenthesis (spelled ["&", "self"]) ::
    spelled ["-", ">"] ++ m.result.pieces m.field

/-- The type that is lent does not have the word `pub` outside of its groups. -/
def MethodCode.Plain (m : MethodCode) : Prop :=
  ∀ type, m.result = .reference type → .word "pub" ∉ type

/-- Types that are no further restricted would not do: two methods that lend are also one method,
whose type goes on to the body of the second. -/
theorem two_methods_as_one {m m' : MethodCode} {type type' : List Piece}
    (h : m.result = .reference type) (h' : m'.result = .reference type') :
    ∃ longer, MethodCode.pieces ⟨m.name, .reference longer, m'.field⟩ = m.pieces ++ m'.pieces := by
  -- The longer type has the first body, and all of the second method up to its own body.
  refine ⟨type ++ .group .brace (spelled ["&", "self", ".", m.field]) ::
    spelled ["pub", "fn", m'.name] ++ .group .parenthesis (spelled ["&", "self"]) ::
    spelled ["-", ">", "&"] ++ type', ?_⟩
  simp [MethodCode.pieces, MethodResult.pieces, h, h']

theorem result_notMem {m : MethodCode} (h : m.Plain) :
    .word "pub" ∉ m.result.pieces m.field := by
  cases hr : m.result with
  | value => simp [MethodResult.pieces]
  | reference type => simpa [MethodResult.pieces] using h type hr

/-- The type and the body say what is given, and of which field. -/
theorem result_injective {r r' : MethodResult} {field field' : String}
    (h : r.pieces field = r'.pieces field') : r = r' ∧ field = field' := by
  cases r with
  | value =>
    cases r' with
    | value => simpa [MethodResult.pieces] using h
    | reference type => simp [MethodResult.pieces] at h
  | reference type =>
    cases r' with
    | value => simp [MethodResult.pieces] at h
    | reference type' =>
      rw [MethodResult.pieces, MethodResult.pieces] at h
      obtain ⟨htype, hbody⟩ := List.append_inj' h rfl
      obtain ⟨-, htype⟩ := List.cons.inj htype
      exact ⟨by rw [htype], by simpa using hbody⟩

/-- What stands before a mark is determined, if the mark is not in it: each rest is empty or begins
with the mark. -/
theorem append_inj_of_mark {α : Type} {x : α} {a b r s : List α} (ha : x ∉ a) (hb : x ∉ b)
    (hr : ∀ y ∈ r.head?, y = x) (hs : ∀ y ∈ s.head?, y = x) (h : a ++ r = b ++ s) :
    a = b ∧ r = s := by
  -- One of the two goes on for some pieces, and the first of these would be the mark.
  rcases List.append_eq_append_iff.1 h with ⟨e, rfl, rfl⟩ | ⟨e, rfl, rfl⟩
  · cases e with
    | nil => simp
    | cons y e =>
      obtain rfl : y = x := hr y rfl
      exact absurd (by simp) hb
  · cases e with
    | nil => simp
    | cons y e =>
      obtain rfl : y = x := hs y rfl
      exact absurd (by simp) ha

theorem head_methods (ms : List MethodCode) :
    ∀ y ∈ (ms.flatMap MethodCode.pieces).head?, y = .word "pub" := by
  intro y hy
  cases ms with
  | nil => cases hy
  | cons m ms => exact (Option.some.inj hy).symm

/-- **A series of methods is read in one way.** -/
theorem methods_injective {ms ms' : List MethodCode} (h : ∀ m ∈ ms, m.Plain)
    (h' : ∀ m ∈ ms', m.Plain)
    (he : ms.flatMap MethodCode.pieces = ms'.flatMap MethodCode.pieces) : ms = ms' := by
  induction ms generalizing ms' with
  | nil =>
    cases ms' with
    | nil => rfl
    | cons m' ms' => simp [MethodCode.pieces] at he
  | cons m ms ih =>
    cases ms' with
    | nil => simp [MethodCode.pieces] at he
    | cons m' ms' =>
      rw [List.forall_mem_cons] at h h'
      simp only [List.flatMap_cons, MethodCode.pieces, spelled_cons, spelled_nil, List.cons_append,
        List.nil_append, List.cons.injEq, Piece.word.injEq, true_and] at he
      obtain ⟨hname, he⟩ := he
      obtain ⟨hresult, hrest⟩ := append_inj_of_mark (result_notMem h.1) (result_notMem h'.1)
        (head_methods ms) (head_methods ms') he
      obtain ⟨hgives, hfield⟩ := result_injective hresult
      have hm : m = m' := by
        cases m; cases m'
        simp only [MethodCode.mk.injEq]
        exact ⟨hname, hgives, hfield⟩
      rw [hm, ih h.2 h'.2 hrest]

/-! ## Listed accessors -/

/-- A listed accessor as it is read: the literals of its type and of its method. -/
structure MetaCode where
  owner : String
  method : String

/-- The pieces of a listed accessor. -/
def MetaCode.pieces (k : MetaCode) : List Piece :=
  spelled [":", ":", "propref", ":", ":", "MethodMeta", ":", ":", "new"] ++
    [.group .parenthesis (spelled [k.owner, ",", k.method])]

/-- The pieces of listed accessors, with commas between them. -/
def metaPieces : List MetaCode → List Piece
  | [] => []
  | [k] => k.pieces
  | k :: rest => k.pieces ++ .word "," :: metaPieces rest

theorem metaPieces_cons (k : MetaCode) (rest : List MetaCode) :
    metaPieces (k :: rest) =
      k.pieces ++ (if rest.isEmpty then [] else .word "," :: metaPieces rest) := by
  cases rest <;> simp [metaPieces]

theorem meta_injective {k k' : MetaCode} (h : k.pieces = k'.pieces) : k = k' := by
  cases k; cases k'
  simpa [MetaCode.pieces] using h

/-- **A series of listed accessors is read in one way.** -/
theorem metas_injective {ks ks' : List MetaCode} (h : metaPieces ks = metaPieces ks') :
    ks = ks' := by
  induction ks generalizing ks' with
  | nil =>
    cases ks' with
    | nil => rfl
    | cons k' ks' => rw [metaPieces_cons] at h; simp [metaPieces, MetaCode.pieces] at h
  | cons k ks ih =>
    cases ks' with
    | nil => rw [metaPieces_cons] at h; simp [metaPieces, MetaCode.pieces] at h
    | cons k' ks' =>
      rw [metaPieces_cons, metaPieces_cons] at h
      -- All listed accessors are of one length.
      obtain ⟨hk, hrest⟩ := List.append_inj h rfl
      cases meta_injective hk
      cases ks with
      | nil =>
        cases ks' with
        | nil => rfl
        | cons _ _ => simp at hrest
      | cons _ _ =>
        cases ks' with
        | nil => simp at hrest
        | cons _ _ => rw [ih (by simpa using hrest)]

/-! ## Outlines -/

/-- What the code says: what stands before and behind the name of the type in the headers, the name,
the methods and the listed accessors. -/
structure Outline where
  parameters : List Piece
  owner : String
  arguments : List Piece
  methods : List MethodCode
  metas : List MetaCode

/-- The pieces of the constant that lists the accessors. -/
def constantPieces (ks : List MetaCode) : List Piece :=
  spelled ["const", "ACCESSORS", ":", "&", "'static"] ++
    .group .bracket (spelled [":", ":", "propref", ":", ":", "MethodMeta"]) ::
    spelled ["=", "&"] ++ .group .bracket (metaPieces ks) :: spelled [";"]

/-- The pieces of the implementation with the methods. -/
def Outline.inherentPieces (o : Outline) : List Piece :=
  .word "#" :: .group .bracket [.word "allow",
      .group .parenthesis (spelled ["non_snake_case", ",", "dead_code"])] ::
    .word "impl" :: o.parameters ++ .word o.owner :: o.arguments ++
    [.group .brace (o.methods.flatMap MethodCode.pieces)]

/-- The pieces of the implementation with the constant. -/
def Outline.listingPieces (o : Outline) : List Piece :=
  .word "impl" :: o.parameters ++
    spelled [":", ":", "propref", ":", ":", "Getters", "for", o.owner] ++ o.arguments ++
    [.group .brace (constantPieces o.metas)]

/-- The pieces of the code with this outline. -/
def Outline.pieces (o : Outline) : List Piece := o.inherentPieces ++ o.listingPieces

/-- All methods are plain. -/
def Outline.Plain (o : Outline) : Prop := ∀ m ∈ o.methods, m.Plain

/-- The headers are as long in the one implementation as in the other, so the length of the code
tells where the first implementation ends. -/
theorem length_inherentPieces {o o' : Outline} (h : o.pieces = o'.pieces) :
    o.inherentPieces.length = o'.inherentPieces.length := by
  have hlength := congrArg List.length h
  simp only [Outline.pieces, Outline.inherentPieces, Outline.listingPieces, spelled,
    List.length_append, List.length_cons, List.length_map, List.length_nil] at hlength ⊢
  omega

/-- **Code is read in one way.** Plain outlines with the same pieces have the same methods and the
same listed accessors. -/
theorem Outline.members_unique {o o' : Outline} (ho : o.Plain) (ho' : o'.Plain)
    (h : o.pieces = o'.pieces) : o.methods = o'.methods ∧ o.metas = o'.metas := by
  obtain ⟨hinherent, hlisting⟩ := List.append_inj h (length_inherentPieces h)
  have hmethods := (List.append_inj' hinherent rfl).2
  have hconstant := (List.append_inj' hlisting rfl).2
  simp only [List.cons.injEq, Piece.group.injEq, true_and, and_true] at hmethods hconstant
  refine ⟨methods_injective ho ho' hmethods, metas_injective ?_⟩
  simpa [constantPieces] using hconstant

end Accessors.Getters
