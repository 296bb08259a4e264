import Mathlib.Data.List.Nodup
import Mathlib.Data.List.Perm.Basic
import Accessors.Proofs.Text.Parts
import Accessors.Service.Filter

/-!
# The directive that decides

Of the directives that apply to a target the most specific one decides, and of equally specific ones the
last. Directives that apply to one target are as specific as their own targets are long, and those are
beginnings of the same text. So two of them are equally specific only if they have the same target, and
where no two have the order does not matter.

* `of_deciding_eq_some`, `deciding_eq_none`: what the directive that decides is.
* `shows_perm`: directives for different targets can be put in any order.
* `shows_concat`: a directive for the target itself decides, if it is the last one.
-/

namespace Accessors.Service

open Accessors.Text

variable {ds ds' : List Directive} {d e : Directive} {target : List Char}

/-! ## Preference -/

/-- Preferring one directive after another ends with one of them that is as specific as any. -/
theorem foldl_prefer (ds : List Directive) (d : Directive) : ∃ m ∈ d :: ds,
    ds.foldl prefer (some d) = some m ∧ ∀ e ∈ d :: ds, e.specificity ≤ m.specificity := by
  induction ds generalizing d with
  | nil => exact ⟨d, by simp, rfl, by simp⟩
  | cons e ds ih =>
    have hnext : (e :: ds).foldl prefer (some d) =
        ds.foldl prefer (some (if d.specificity ≤ e.specificity then e else d)) := by
      rw [List.foldl_cons, prefer, apply_ite some]
    rw [hnext]
    by_cases hle : d.specificity ≤ e.specificity
    · rw [if_pos hle]
      obtain ⟨m, hm, hfold, hmost⟩ := ih e
      have hchosen : d.specificity ≤ m.specificity := Nat.le_trans hle (hmost e List.mem_cons_self)
      exact ⟨m, List.mem_cons_of_mem _ hm, hfold, List.forall_mem_cons.2 ⟨hchosen, hmost⟩⟩
    · rw [if_neg hle]
      obtain ⟨m, hm, hfold, hmost⟩ := ih d
      obtain ⟨hchosen, hothers⟩ := List.forall_mem_cons.1 hmost
      have hless : e.specificity ≤ m.specificity := Nat.le_trans (Nat.le_of_not_le hle) hchosen
      refine ⟨m, ?_, hfold, List.forall_mem_cons.2 ⟨hchosen, List.forall_mem_cons.2 ⟨hless, hothers⟩⟩⟩
      rcases List.mem_cons.1 hm with rfl | hm
      · exact List.mem_cons_self
      · exact List.mem_cons_of_mem _ (List.mem_cons_of_mem _ hm)

/-- **The directive that decides** applies, and none that applies is more specific. -/
theorem of_deciding_eq_some (h : deciding ds target = some d) :
    d ∈ ds ∧ d.appliesTo target = true ∧
      ∀ e ∈ ds, e.appliesTo target = true → e.specificity ≤ d.specificity := by
  rw [deciding] at h
  cases happly : ds.filter (·.appliesTo target) with
  | nil =>
    rw [happly] at h
    cases h
  | cons first rest =>
    rw [happly] at h
    obtain ⟨m, hm, hfold, hmost⟩ := foldl_prefer rest first
    obtain rfl : m = d := Option.some.inj (hfold.symm.trans h)
    rw [← happly] at hm hmost
    obtain ⟨hmem, hd⟩ := List.mem_filter.1 hm
    exact ⟨hmem, hd, fun e he happlies => hmost e (List.mem_filter.2 ⟨he, happlies⟩)⟩

/-- Nothing decides exactly if nothing applies. -/
theorem deciding_eq_none :
    deciding ds target = none ↔ ∀ e ∈ ds, e.appliesTo target = false := by
  have hnone : (∀ e ∈ ds, e.appliesTo target = false) ↔ ds.filter (·.appliesTo target) = [] := by
    simp [List.filter_eq_nil_iff]
  rw [hnone, deciding]
  cases ds.filter (·.appliesTo target) with
  | nil => exact iff_of_true rfl rfl
  | cons first rest =>
    obtain ⟨m, -, hfold, -⟩ := foldl_prefer rest first
    refine iff_of_false (fun h => ?_) (List.cons_ne_nil _ _)
    cases hfold.symm.trans h

/-! ## Specificity -/

/-- The target that a directive is for; one for all targets counts as one for the empty text. -/
def Directive.key (d : Directive) : List Char := d.target.getD []

theorem isPrefix_of_appliesTo (h : d.appliesTo target = true) : d.key <+: target := by
  unfold Directive.appliesTo at h
  unfold Directive.key
  cases htarget : d.target with
  | none => exact List.nil_prefix
  | some beginning =>
    rw [htarget] at h
    exact List.isPrefixOf_iff_prefix.1 h

theorem byteSize_key_of_specificity (h : d.specificity = e.specificity) :
    byteSize d.key = byteSize e.key := by
  unfold Directive.specificity at h
  unfold Directive.key
  cases hd : d.target <;> cases he : e.target <;> simp only [hd, he] at h
  · rfl
  · exact absurd h (Nat.succ_ne_zero _).symm
  · exact absurd h (Nat.succ_ne_zero _)
  · exact Nat.succ.inj h

/-- **Equally specific directives for one target are for the same targets.** -/
theorem key_eq_of_specificity (hd : d.appliesTo target = true) (he : e.appliesTo target = true)
    (h : d.specificity = e.specificity) : d.key = e.key := by
  have hsize := byteSize_key_of_specificity h
  rcases List.prefix_or_prefix_of_prefix (isPrefix_of_appliesTo hd) (isPrefix_of_appliesTo he) with
    hbegins | hbegins
  · exact eq_of_isPrefix hbegins (Nat.le_of_eq hsize.symm)
  · exact (eq_of_isPrefix hbegins (Nat.le_of_eq hsize)).symm

/-- No directive that applies is more specific than one for the target itself. -/
theorem specificity_le (h : d.appliesTo target = true) : d.specificity ≤ byteSize target + 1 := by
  have hbegins := byteSize_le_of_isPrefix (isPrefix_of_appliesTo h)
  unfold Directive.specificity
  unfold Directive.key at hbegins
  cases htarget : d.target with
  | none => exact Nat.zero_le _
  | some beginning =>
    rw [htarget] at hbegins
    exact Nat.succ_le_succ hbegins

/-! ## Order -/

/-- With directives, what is shown is up to the one that decides. -/
theorem shows_cons (d : Directive) (ds : List Directive) (target : List Char) (level : Level) :
    shows (d :: ds) target level = (deciding (d :: ds) target).any (·.level.admits level) := by
  rw [shows]
  · cases deciding (d :: ds) target <;> rfl
  · exact List.cons_ne_nil d ds

/-- Where no two directives are for the same targets, the same one decides in any order. -/
theorem deciding_perm (h : ds.Perm ds') (hkeys : (ds.map Directive.key).Nodup) (target : List Char) :
    deciding ds target = deciding ds' target := by
  cases hd : deciding ds target with
  | none =>
    rw [deciding_eq_none] at hd
    exact (deciding_eq_none.2 fun e he => hd e (h.mem_iff.2 he)).symm
  | some d =>
    obtain ⟨hmem, happly, hmost⟩ := of_deciding_eq_some hd
    cases he : deciding ds' target with
    | none => cases (deciding_eq_none.1 he d (h.mem_iff.1 hmem)).symm.trans happly
    | some e =>
      obtain ⟨hmem', happly', hmost'⟩ := of_deciding_eq_some he
      have hle := hmost e (h.mem_iff.2 hmem') happly'
      have hge := hmost' d (h.mem_iff.1 hmem) happly
      have hkey := key_eq_of_specificity happly happly' (Nat.le_antisymm hge hle)
      rw [List.inj_on_of_nodup_map hkeys hmem (h.mem_iff.2 hmem') hkey]

/-- **Directives for different targets show the same in any order.** -/
theorem shows_perm (h : ds.Perm ds') (hkeys : (ds.map Directive.key).Nodup) (target : List Char)
    (level : Level) : shows ds target level = shows ds' target level := by
  cases ds with
  | nil => rw [List.nil_perm.1 h]
  | cons d rest =>
    cases ds' with
    | nil => cases List.perm_nil.1 h
    | cons d' rest' => rw [shows_cons, shows_cons, deciding_perm h hkeys target]

/-- **A directive for the target itself decides if it is the last one**, whatever the others say. -/
theorem shows_concat (ds : List Directive) {last : Directive} (h : last.target = some target)
    (level : Level) : shows (ds ++ [last]) target level = last.level.admits level := by
  have happly : last.appliesTo target = true := by
    rw [Directive.appliesTo, h]
    exact List.isPrefixOf_iff_prefix.2 (List.prefix_refl target)
  have hspecific : last.specificity = byteSize target + 1 := by rw [Directive.specificity, h]
  have hlast : deciding (ds ++ [last]) target = prefer (deciding ds target) last := by
    rw [deciding, List.filter_append, List.filter_cons_of_pos happly, List.filter_nil,
      List.foldl_append]
    rfl
  have hdecides : deciding (ds ++ [last]) target = some last := by
    rw [hlast]
    cases hchosen : deciding ds target with
    | none => rfl
    | some c =>
      have hle : c.specificity ≤ last.specificity :=
        hspecific ▸ specificity_le (of_deciding_eq_some hchosen).2.1
      exact if_pos hle
  cases hds : ds ++ [last] with
  | nil => exact absurd hds (by simp)
  | cons d rest =>
    rw [hds] at hdecides
    rw [shows_cons, hdecides, Option.any_some]

end Accessors.Service
