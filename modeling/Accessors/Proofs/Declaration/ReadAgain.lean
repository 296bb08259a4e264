import Accessors.Proofs.Declaration.Repeated

/-!
# A structure with its parameters as they are declared

An implementation declares the parameters of a structure. If the structure is written with them in place of
its own, it is read as the same structure, with its parameters in the order of the headers.

* `ReadFrom.written`: the parameters are written behind the name.
* `ReadFrom.again`: with what an implementation declares in their place, the structure is read again.
-/

namespace Accessors.Declaration

open Accessors.Token
open Accessors.Grammar
open Recogniser

variable {d : Accessors.Declaration} {ts behind : List Tree} {a v g b : Found Shape Shape}

/-- What is found at some depth is found. -/
theorem ReadFrom.find {fuel : Nat} (h : ReadFrom (recogniseWithin rule fuel) d ts behind a v g b) :
    ReadFrom Phrase.find d ts behind a v g b :=
  { h with
    attributes := find_of_recogniseWithin rfl h.attributes
    visibility := find_of_recogniseWithin rfl h.visibility
    generics := find_of_recogniseWithin rfl h.generics
    record := find_of_recogniseWithin rfl h.record }

/-- What is read in this way is the structure. -/
theorem ReadFrom.ofTrees (h : ReadFrom Phrase.find d ts behind a v g b) : ofTrees? ts = some d := by
  have hk : Phrase.declaration.find ts = some ⟨b.result, [.phrase a.result a.parts, .phrase v.result v.parts,
      .tree (word "struct"), .tree (.leaf (.ident d.name)), .phrase g.result g.parts,
      .phrase b.result b.parts], b.rest⟩ := by
    rw [find_eq_run rfl]
    change declarationProgram.run Phrase.find ts = _
    unfold declarationProgram
    refine run_call_bind.2 ⟨a, ⟨b.result, [_, _, _, _, _], b.rest⟩, h.attributes,
      run_call_bind.2 ⟨v, ⟨b.result, [_, _, _, _], b.rest⟩, h.visibility, ?_, rfl⟩, rfl⟩
    rw [run_ahead_bind, h.name]
    exact run_takeIf_bind.2 ⟨_, _, _, rfl, rfl, run_takeIf_bind.2 ⟨_, _, _, h.identifier, rfl,
      run_call_bind.2 ⟨g, _, h.generics, run_call.2 ⟨b, h.record, rfl⟩, rfl⟩, rfl⟩, rfl⟩
  rw [ofTrees?, recognisePhrase_eq rfl (by decide), hk, h.ends]
  exact ofNode?_struct.2 ⟨rfl, h.parameters, h.body⟩

/-- What stands behind the parameters of a structure does not begin with a bracket. -/
theorem begins_of_record {f : Found Shape Shape} (hf : Phrase.record.find ts = some f) :
    isPunct "<" ts = false := by
  rw [Bool.eq_false_iff]
  intro h
  obtain ⟨joint, rest, rfl⟩ := eq_cons_of_isPunct (c := '<') rfl h
  rw [find_eq_run rfl] at hf
  change recordProgram.run Phrase.find _ = _ at hf
  rw [recordProgram, run_ahead_bind] at hf
  obtain ⟨w, l, hw, hl, -⟩ := run_call_bind.1 hf
  have hnone : Phrase.whereClause.find (.leaf (.punct '<' joint) :: rest) =
      some ⟨.plain, [], .leaf (.punct '<' joint) :: rest⟩ := by
    rw [find_eq_run rfl]
    rfl
  rw [hnone] at hw
  obtain rfl := Option.some.inj hw
  cases hl

/-- The parameters were found in what stands behind the name, one by one. -/
theorem ReadFrom.written (h : ReadFrom Phrase.find d ts behind a v g b) :
    Written Parameter.FoundIn d.parameters (treesOf g.parts) ∧ ∀ p ∈ d.parameters.dropLast, p.comma = true :=
  written_of_generics h.generics h.parameters

/-- Parameters are found again in what an implementation declares. -/
theorem ReadFrom.find_implHeader (h : ReadFrom Phrase.find d ts behind a v g b) :
    ∃ f, Phrase.generics.find (d.implHeader ++ g.rest) = some f ∧ f.rest = g.rest ∧
      parametersOf? (.phrase f.result f.parts) = some d.settle.parameters := by
  obtain ⟨hwritten, hcommas⟩ := h.written
  by_cases hnone : d.parameters = []
  · refine ⟨⟨.plain, [], g.rest⟩, ?_, rfl, ?_⟩
    · rw [implHeader, hnone, find_eq_run rfl]
      change genericsProgram.run Phrase.find g.rest = _
      rw [genericsProgram, run_ahead_bind, if_neg (by simp [begins_of_record h.record])]
      rfl
    · rw [settle, hnone]
      rfl
  · rw [implHeader, angled_eq hnone]
    refine find_generics (fun p hp => ?_) (comma_or_lifetime_ordered hcommas)
    obtain ⟨_, hfound⟩ := hwritten.exists_of_mem (mem_ordered.1 hp)
    exact hfound.recurs

/-- **A structure is read again** with its parameters as an implementation declares them. -/
theorem ReadFrom.again (h : ReadFrom Phrase.find d ts behind a v g b) :
    ofTrees? (treesOf a.parts ++ treesOf v.parts ++ [word "struct", .leaf (.ident d.name)] ++ d.implHeader ++
      g.rest) = some d.settle := by
  obtain ⟨f, hf, hrest, hparameters⟩ := h.find_implHeader
  -- Attributes and visibility end in front of the same word as before.
  have hstop : isPunct "#" (treesOf v.parts ++
      word "struct" :: .leaf (.ident d.name) :: (d.implHeader ++ g.rest)) = false := by
    have hbefore := isPunct_of_attributes h.attributes
    rw [← recogniseWithin_faithful rule _ _ _ _ h.visibility, h.name] at hbefore
    cases hparts : treesOf v.parts with
    | nil => rfl
    | cons t rest =>
      rw [hparts, Bool.eq_false_iff] at hbefore
      rw [Bool.eq_false_iff]
      exact fun hhash => hbefore (isPunctChars_singleton.2 (isPunctChars_singleton.1 hhash))
  have hattributes := find_of_recogniseWithin rfl (attributes_exchanged hstop h.attributes)
  have hvisibility := find_of_recogniseWithin rfl (visibility_exchanged h.visibility h.name
    (.leaf (.ident d.name) :: (d.implHeader ++ g.rest)))
  have hread : ReadFrom Phrase.find d.settle (treesOf a.parts ++ treesOf v.parts ++
      [word "struct", .leaf (.ident d.name)] ++ d.implHeader ++ g.rest) (d.implHeader ++ g.rest)
      { a with rest := _ } { v with rest := _ } f b :=
    { attributes := by simpa [word] using hattributes
      visibility := hvisibility
      name := rfl
      identifier := h.identifier
      generics := hf
      record := by rw [hrest]; exact h.record
      ends := h.ends
      parameters := hparameters
      body := h.body }
  exact hread.ofTrees

end Accessors.Declaration
