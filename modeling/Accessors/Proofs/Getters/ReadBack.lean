import Accessors.Proofs.Declaration.Fields
import Accessors.Proofs.Getters.Kept
import Accessors.Proofs.Getters.Outline
import Accessors.Proofs.Token.StringValue

/-!
# Reading the code of the getters back

* `outlineOf`: the outline of the code, made from the getters.
* `pieces_outlineOf`: its pieces are those of the code.
* `code_reads_back`: the code has one reading, with one method and one listed accessor for each kept
  field, in order.
-/

namespace Accessors.Getters

open Accessors.Token
open Accessors.Declaration

/-! ## The outline of the code -/

/-- The method of a getter as it is read. -/
def Getter.methodCode (g : Getter) : MethodCode :=
  ⟨g.method, if g.truthValue then .value else .reference (piecesOf g.type), g.field.text⟩

/-- An accessor as it is read in the constant. -/
def metaCode (a : Property.Accessor) : MetaCode :=
  ⟨String.ofList (Text.stringLiteral a.owner.toList),
    String.ofList (Text.stringLiteral a.method.toList)⟩

/-- The outline of the code of some getters. -/
def outlineOf (d : Accessors.Declaration) (getters : List Getter) : Outline where
  parameters := piecesOf d.implHeader
  owner := d.name.text
  arguments := piecesOf (d.typeHeader ++ d.conditions)
  methods := getters.map Getter.methodCode
  metas := (accessorsOf d getters).map metaCode

theorem piecesOf_method (g : Getter) : piecesOf g.trees = g.methodCode.pieces := by
  unfold Getter.trees Getter.methodCode MethodCode.pieces
  cases g.truthValue <;>
    simp [MethodResult.pieces, piecesOf_operator, parens, braces, Leaf.text]

theorem piecesOf_methods (getters : List Getter) :
    piecesOf (methods getters) = (getters.map Getter.methodCode).flatMap MethodCode.pieces := by
  induction getters with
  | nil => simp [methods]
  | cons g getters ih =>
    rw [methods] at ih ⊢
    rw [List.flatMap_cons, piecesOf_append, ih, piecesOf_method, List.map_cons, List.flatMap_cons]

theorem piecesOf_accessor (a : Property.Accessor) :
    piecesOf (accessorTrees a) = (metaCode a).pieces := by
  simp [accessorTrees, metaCode, MetaCode.pieces, rootPath, pathSeparator, piecesOf_operator,
    parens, stringTree, Leaf.text]

theorem piecesOf_metas (accessors : List Property.Accessor) :
    piecesOf (metas accessors) = metaPieces (accessors.map metaCode) := by
  fun_induction metas accessors with
  | case1 => simp [metaPieces]
  | case2 a => simp [metaPieces, piecesOf_accessor]
  | case3 a rest hne ih =>
    cases rest with
    | nil => exact absurd rfl hne
    | cons b rest => simp_all [metaPieces, piecesOf_accessor, piecesOf_operator]

/-- **The code has its outline's pieces.** -/
theorem pieces_outlineOf (d : Accessors.Declaration) (getters : List Getter) :
    piecesOf (code d getters) = (outlineOf d getters).pieces := by
  simp [code, inherentImpl, listingImpl, constant, outlineOf, Outline.pieces,
    Outline.inherentPieces, Outline.listingPieces, constantPieces, piecesOf_operator, piecesOf_methods, piecesOf_metas,
    rootPath, pathSeparator, parens, brackets, braces, Leaf.text, Ident.text]

/-! ## Legibility -/

theorem bracket_methodName (truthValue : Bool) (field : List Char) :
    bracket? (String.ofList (methodName truthValue field)) = none := by
  cases truthValue with
  | true =>
    have h : (String.ofList (methodName true field)).toList =
        'i' :: 's' :: upperCamelCase field := by
      rw [String.toList_ofList]; rfl
    exact bracket_eq_none h
  | false =>
    have h : (String.ofList (methodName false field)).toList =
        'g' :: 'e' :: 't' :: upperCamelCase field := by
      rw [String.toList_ofList]; rfl
    exact bracket_eq_none h

theorem bracket_stringLiteral (s : List Char) :
    bracket? (String.ofList (Text.stringLiteral s)) = none := by
  have h : (String.ofList (Text.stringLiteral s)).toList =
      '"' :: (Text.literalBody s ++ ['"']) := by
    rw [String.toList_ofList]; rfl
  cases hbody : Text.literalBody s with
  | nil => rw [hbody] at h; exact bracket_eq_none h
  | cons c rest => rw [hbody] at h; exact bracket_eq_none h

theorem legible_operator {cs : List Char} (h : cs.all punctuation.contains = true) :
    Legible (operator cs) :=
  (wellFormed_operator h).legible

theorem legible_method {f : Field} (h : f.Sound) : Legible (Getter.ofField f).trees := by
  have hfield : bracket? f.name.text = none := bracket_text h.1
  have htype : Legible f.type.print := h.2.legible
  unfold Getter.trees Getter.ofField
  cases f.isTruthValue <;>
    simp +decide [parens, braces, legible_operator, bracket_methodName, htype, hfield, Leaf.text]

theorem legible_metas (accessors : List Property.Accessor) : Legible (metas accessors) := by
  have hone : ∀ a, Legible (accessorTrees a) := fun a => by
    simp +decide [accessorTrees, rootPath, pathSeparator, parens, stringTree, legible_operator,
      bracket_stringLiteral, Leaf.text]
  fun_induction metas accessors with
  | case1 => simp
  | case2 a => exact hone a
  | case3 a rest hne ih => simp +decide [hone a, legible_operator, ih]

/-- The code of a sound declaration is legible. -/
theorem legible_code {d : Accessors.Declaration} (h : Sound d) :
    Legible (code d ((keptFields d).map Getter.ofField)) := by
  have hname : bracket? d.name.text = none := bracket_text h.name
  have hmethods : Legible (methods ((keptFields d).map Getter.ofField)) := by
    rw [methods, List.flatMap_map]
    intro l hl
    obtain ⟨t, ht, hl⟩ := mem_leavesOf.1 hl
    obtain ⟨f, hf, ht⟩ := List.mem_flatMap.1 ht
    exact legible_method (h.fields f (List.mem_of_mem_filter hf)) l (mem_leavesOf.2 ⟨t, ht, hl⟩)
  simp +decide [code, inherentImpl, listingImpl, constant, parens, brackets, braces, rootPath,
    pathSeparator, legible_operator, legible_metas, hname, hmethods, h.implHeader.legible,
    h.typeHeader.legible, h.conditions.legible, Leaf.text]

/-! ## Plain types -/

/-- A leaf of a text that is written `pub` is that word. -/
theorem isWord_of_text {l : Leaf} (hl : l.WellFormed) (h : l.text = "pub") :
    Grammar.isWord "pub" [.leaf l] = true := by
  have hchars : l.text.toList = ['p', 'u', 'b'] := by rw [h]; rfl
  cases l with
  | ident i =>
    cases hraw : i.raw with
    | true => simp [Leaf.text, Ident.text, hraw] at hchars
    | false =>
      have hname : i.name = "pub" := by simpa [Leaf.text, Ident.text, hraw] using h
      simp [Grammar.isWord, hraw, hname]
  | lifetime i => simp [Leaf.text] at hchars
  | literal text =>
    -- No literal begins with this letter.
    exfalso
    rw [Leaf.text] at hchars
    rcases hl with hl | ⟨c, rest, htext, hc⟩
    · rw [hchars] at hl
      exact absurd hl (by decide)
    · rw [hchars] at htext
      obtain ⟨rfl, -⟩ := List.cons.inj htext
      rcases hc with hc | hc <;> exact absurd hc (by decide)
  | punct c joint => simp [Leaf.text] at hchars

/-- Trees of a text without the word `pub` have no piece that is this word. -/
theorem notMem_of_pubFree {ts : List Tree} (hts : WellFormed ts) (h : Grammar.PubFree ts) :
    .word "pub" ∉ piecesOf ts := by
  intro hmem
  rw [piecesOf_eq_map] at hmem
  obtain ⟨t, ht, he⟩ := List.mem_map.1 hmem
  have hno := h t ht
  have hwf := wellFormed_iff_forall.1 hts t ht
  cases t with
  | leaf l =>
    rw [piece_leaf, Piece.word.injEq] at he
    rw [isWord_of_text (wellFormed_leaf.1 hwf) he] at hno
    cases hno
  | group d body => simp at he

/-- The outline of the code is plain. -/
theorem plain_outlineOf {source : String} {d : Accessors.Declaration}
    (hd : Declaration.ofText? source = some d) :
    (outlineOf d ((keptFields d).map Getter.ofField)).Plain := by
  intro m hm type hresult
  simp only [outlineOf, List.map_map, List.mem_map] at hm
  obtain ⟨f, hf, rfl⟩ := hm
  have hmem : f ∈ d.fields := List.mem_of_mem_filter hf
  cases htruth : f.isTruthValue with
  | true => simp [Getter.methodCode, Getter.ofField, htruth] at hresult
  | false =>
    simp only [Function.comp, Getter.methodCode, Getter.ofField, htruth, Bool.false_eq_true,
      if_false, MethodResult.reference.injEq] at hresult
    subst hresult
    exact notMem_of_pubFree ((sound_of_ofText hd).fields f hmem).2 (pubFree_of_ofText hd f hmem)

/-! ## Reading back -/

/-- The words have this outline: their delimiters match, the pieces are those of the outline, and
the outline is plain. -/
def Outline.Reads (o : Outline) (words : List String) : Prop :=
  o.Plain ∧ Piece.ofWords words = some o.pieces

/-- A method and a listed accessor belong to a field. The method's name is the reported one and the
listed one, its body reads the field as it is written, and it gives a truth value or a reference to
the field's type; the listed type is the one declared, without a raw mark. -/
structure BelongTo (d : Accessors.Declaration) (f : Field) (m : MethodCode) (k : MetaCode)
    (a : Property.Accessor) : Prop where
  name : m.name = a.method
  listed : stringValue? k.method = some a.method
  owner : stringValue? k.owner = some d.name.name
  field : m.field = f.name.text
  result : m.result = if f.isTruthValue then .value else .reference (piecesOf f.type.print)

/-- There is one method, one listed accessor and one reported accessor for each kept field, in the
order of the fields. -/
structure Aligned (d : Accessors.Declaration) (o : Outline) (accessors : List Property.Accessor) :
    Prop where
  methods_length : o.methods.length = (keptFields d).length
  metas_length : o.metas.length = (keptFields d).length
  accessors_length : accessors.length = (keptFields d).length
  members : ∀ (i : Nat) (f : Field), (keptFields d)[i]? = some f →
    ∃ (m : MethodCode) (k : MetaCode) (a : Property.Accessor), o.methods[i]? = some m ∧
      o.metas[i]? = some k ∧ accessors[i]? = some a ∧ BelongTo d f m k a

theorem aligned_outlineOf (d : Accessors.Declaration) :
    Aligned d (outlineOf d ((keptFields d).map Getter.ofField))
      (accessorsOf d ((keptFields d).map Getter.ofField)) where
  methods_length := by simp [outlineOf]
  metas_length := by simp [outlineOf, accessorsOf]
  accessors_length := by simp [accessorsOf]
  members i f hf := by
    refine ⟨(Getter.ofField f).methodCode, metaCode (accessorOf d f), accessorOf d f,
      ?_, ?_, ?_, ?_⟩
    · simp [outlineOf, hf]
    · simp [outlineOf, accessorsOf, accessorOf, hf]
    · simp [accessorsOf, accessorOf, hf]
    · exact ⟨rfl, stringValue_stringLiteral _, stringValue_stringLiteral _, rfl, rfl⟩

/-- **The code reads back as one method and one listed accessor for each kept field**, and it reads
back in no other way. -/
theorem code_reads_back {source : String} {r : Derivation} (h : derive source = .ok r) :
    ∃ (d : Accessors.Declaration) (o : Outline), Declaration.ofText? source = some d ∧
      o.Reads (wordsOf r.code) ∧ Aligned d o r.accessors ∧
      ∀ o' : Outline, o'.Reads (wordsOf r.code) → o'.methods = o.methods ∧ o'.metas = o.metas := by
  obtain ⟨d, hd, -, -, rfl⟩ := derive_eq_ok h
  have hplain := plain_outlineOf hd
  have hwords : Piece.ofWords (wordsOf (code d ((keptFields d).map Getter.ofField))) =
      some (outlineOf d ((keptFields d).map Getter.ofField)).pieces := by
    rw [ofWords_wordsOf (legible_code (sound_of_ofText hd)), pieces_outlineOf]
  refine ⟨d, _, hd, ⟨hplain, hwords⟩, aligned_outlineOf d, ?_⟩
  intro o' ⟨hplain', hwords'⟩
  exact Outline.members_unique hplain' hplain (Option.some.inj (hwords'.symm.trans hwords))

/-- Raw names, a field that is left out, and a type with braces, commas and an arrow. -/
theorem code_reads_back_odd :
    ∃ r d,
      derive "struct r#S \x7b r#in: bool, #[getter(skip)] b: u8, f: F<\x7b 2 \x7d, fn() -> u8> \x7d" =
        .ok r ∧
      (∃ o : Outline, o.Reads (wordsOf r.code) ∧ Aligned d o r.accessors) ∧
      d.name.text = "r#S" ∧ (keptFields d).map (·.name.text) = ["r#in", "f"] ∧
      r.accessors = [⟨"S", "isIn"⟩, ⟨"S", "getF"⟩] := by
  have hnames : (Declaration.ofText?
      "struct r#S \x7b r#in: bool, #[getter(skip)] b: u8, f: F<\x7b 2 \x7d, fn() -> u8> \x7d").map
      (fun d => (d.name.text, (keptFields d).map (·.name.text))) = some ("r#S", ["r#in", "f"]) := by
    decide +kernel
  have haccessors : (derive
      "struct r#S \x7b r#in: bool, #[getter(skip)] b: u8, f: F<\x7b 2 \x7d, fn() -> u8> \x7d").toOption.map
      (·.accessors) = some [⟨"S", "isIn"⟩, ⟨"S", "getF"⟩] := by
    decide +kernel
  cases h : derive
      "struct r#S \x7b r#in: bool, #[getter(skip)] b: u8, f: F<\x7b 2 \x7d, fn() -> u8> \x7d" with
  | error e => rw [h] at haccessors; cases haccessors
  | ok r =>
    obtain ⟨d, o, hd, hreads, haligned, -⟩ := code_reads_back h
    rw [hd] at hnames
    rw [h] at haccessors
    obtain ⟨hname, hkept⟩ := Prod.mk.inj (Option.some.inj hnames)
    exact ⟨r, d, rfl, ⟨o, hreads, haligned⟩, hname, hkept, Option.some.inj haccessors⟩

end Accessors.Getters
