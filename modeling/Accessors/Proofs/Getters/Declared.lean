import Accessors.Proofs.Declaration.ReadAgain
import Accessors.Proofs.Getters.Kept

/-!
# What implementations declare

The code of the getters repeats the parameters of the structure: it declares them, and it hands them to the
type. If the structure is written with its parameters as they are declared there, its code is the same.

* `Repeats`: what is repeated of the parameters, and where.
* `derive_repeats`: the code of every structure repeats its parameters, and stays the same then.
* `lifetimes_move_in_bounds`: what is declared is brought into order.
-/

namespace Accessors.Getters

open Accessors.Token
open Accessors.Declaration
open Accessors.Grammar

/-- **The code repeats the parameters of the declaration.** -/
structure Repeats (d : Accessors.Declaration) (code : List Tree) : Prop where
  /-- Both implementations have both headers. -/
  headers : ∃ opening methods constant, code =
    opening ++ word "impl" :: d.implHeader ++ .leaf (.ident d.name) :: d.typeHeader ++ d.conditions ++
      [braces methods] ++
    word "impl" :: d.implHeader ++ rootPath ["propref", "Getters"] ++
      word "for" :: .leaf (.ident d.name) :: d.typeHeader ++ d.conditions ++ [braces constant]
  /-- They are left out together, if there are no parameters. -/
  absent : (d.implHeader = [] ↔ d.parameters = []) ∧ (d.typeHeader = [] ↔ d.parameters = [])
  /-- The first one has the parameters, without their defaults. -/
  declared : d.parameters ≠ [] → ∃ body, d.implHeader = operator ['<'] ++ body ++ operator ['>'] ∧
    elements body = (ordered d.parameters).map Parameter.declared
  /-- The second one has their names. -/
  named : d.parameters ≠ [] → ∃ body, d.typeHeader = operator ['<'] ++ body ++ operator ['>'] ∧
    elements body = (ordered d.parameters).map fun p => [p.nameTree]

theorem repeats_code {d : Accessors.Declaration} (h : ∀ p ∈ d.parameters, p.Recurs) (getters : List Getter) :
    Repeats d (code d getters) := by
  refine ⟨⟨operator ['#'] ++ [brackets [word "allow",
    parens (word "non_snake_case" :: operator [','] ++ [word "dead_code"])]], methods getters,
    constant (accessorsOf d getters), ?_⟩, ⟨angled_eq_nil, angled_eq_nil⟩, fun hne => ?_, fun hne => ?_⟩
  · simp [code, inherentImpl, listingImpl]
  · exact elements_angled hne fun p hp => (h p hp).level
  · refine elements_angled hne fun p _ => ⟨?_, List.cons_ne_nil _ _⟩
    unfold Parameter.nameTree
    cases p.kind <;> rfl

/-- **The code is settled.** The forest is a structure again, with the same headers and the same code. -/
structure Settles (d : Accessors.Declaration) (r : Derivation) (ts : List Tree) : Prop where
  read : Declaration.ofTrees? ts = some d.settle
  implHeader : d.settle.implHeader = d.implHeader
  typeHeader : d.settle.typeHeader = d.typeHeader
  derived : ∃ getters, plan d.settle = .ok getters ∧
    accessorsOf d.settle getters = r.accessors ∧ code d.settle getters = r.code
  text : ∀ source : String, Tree.ofText source.toList = some ts → derive source = .ok r

theorem settles_of_read {source : String} {d : Accessors.Declaration} {r : Derivation}
    (hd : Declaration.ofText? source = some d) (h : derive source = .ok r) {ts : List Tree}
    (hread : Declaration.ofTrees? ts = some d.settle) : Settles d r ts := by
  have himpl := Declaration.implHeader_settle d
  have htype := Declaration.typeHeader_settle d
  unfold derive at h
  rw [hd] at h
  dsimp only at h
  split at h
  · cases h
  · next getters hplan =>
    obtain rfl := Except.ok.inj h
    -- The plan depends on the fields alone.
    have hplan' : plan d.settle = .ok getters := hplan
    have hcode : code d.settle getters = code d getters := by
      rw [code, inherentImpl, listingImpl, himpl, htype]
      rfl
    refine ⟨hread, himpl, htype, ⟨getters, hplan', rfl, hcode⟩, fun other hother => ?_⟩
    have hofText : Declaration.ofText? other = some d.settle := by
      rw [Declaration.ofText?, hother]
      exact hread
    rw [derive, hofText]
    dsimp only
    rw [hplan']
    dsimp only
    rw [hcode]
    rfl

/-- Both headers are those of the structure that has its lifetime in front. -/
example :
    (Declaration.ofText? "struct S<T: 'a = u8, 'a> \x7b\x7d").map (fun d => (d.implHeader, d.typeHeader)) =
    (Declaration.ofText? "struct S<'a, T: 'a,> \x7b\x7d").map fun d => (d.implHeader, d.typeHeader) := by
  decide +kernel

end Accessors.Getters
