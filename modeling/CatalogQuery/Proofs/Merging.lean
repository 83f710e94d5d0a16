import CatalogQuery.Query.Merge
import CatalogQuery.Text.Utf8
import Mathlib.Data.List.Induction
import Mathlib.Data.List.Nodup
import Mathlib.Data.List.Perm.Subperm

/-!
# Merging filters

What is left of the filters of a group, whoever brings them along.

* `KeepsFirst`: a list with the members of another one, each where it first occurs;
  `keepsFirst_eraseDups`: so are repetitions removed;
* `Merge.nodup_filters`, `Merge.length_path?_filters_le_one`: no filter is left twice, and at most
  one of them is a path;
* `Merge.filters_congr`: what is left depends only on which filters there are, but for the order of
  filters that are not folded, in which it is the order of their first occurrences.
-/

namespace CatalogQuery

/-! ## First occurrences -/

section

variable {α : Type} [BEq α] {all kept : List α}

/-- A list has the members of another one, in the order in which they first occur there. -/
structure KeepsFirst (all kept : List α) : Prop where
  mem_iff : ∀ x, x ∈ kept ↔ x ∈ all
  inOrder : kept.Pairwise fun x y => all.idxOf x < all.idxOf y

/-- So it has no member twice. -/
theorem KeepsFirst.nodup (h : KeepsFirst all kept) : kept.Nodup := by
  refine h.inOrder.imp ?_
  rintro x _ hlt rfl
  exact Nat.lt_irrefl _ hlt

theorem keepsFirst_eraseDups [LawfulBEq α] (all : List α) : KeepsFirst all all.eraseDups := by
  refine ⟨fun x => List.mem_eraseDups, ?_⟩
  -- What is added at the end of the list comes behind all that was there.
  induction all using List.reverseRecOn with
  | nil => simp
  | append_singleton all a ih =>
      have before : all.eraseDups.Pairwise
          fun x y => (all ++ [a]).idxOf x < (all ++ [a]).idxOf y := by
        refine List.Pairwise.imp_of_mem ?_ ih
        intro x y hx hy hlt
        rw [List.idxOf_append_of_mem (List.mem_eraseDups.mp hx),
          List.idxOf_append_of_mem (List.mem_eraseDups.mp hy)]
        exact hlt
      rw [List.eraseDups_append]
      by_cases ha : a ∈ all
      · simpa [List.removeAll, ha] using before
      · have hnew : ([a].removeAll all).eraseDups = [a] := by
          simp [List.removeAll, ha, List.eraseDups_cons]
        rw [hnew, List.pairwise_append]
        refine ⟨before, List.pairwise_singleton _ _, ?_⟩
        intro x hx y hy
        obtain rfl := List.mem_singleton.mp hy
        have hx' : x ∈ all := List.mem_eraseDups.mp hx
        rw [List.idxOf_append_of_mem hx', List.idxOf_append_of_notMem ha]
        exact Nat.lt_of_lt_of_le (List.idxOf_lt_length_of_mem hx') (Nat.le_add_right _ _)

end

namespace Merge

variable {operands as bs : List Fragment}

/-! ## What can be left -/

/-- No filter is left twice. -/
theorem nodup_filters (operands : List Fragment) (c : Connective) :
    (filters operands c).Nodup := by
  cases hf : isFolded operands with
  | true =>
      rw [filters_of_folded hf]
      exact List.nodup_singleton _
  | false =>
      rw [filters_of_not_folded hf]
      exact (keepsFirst_eraseDups _).nodup

/-- At most one path is left. -/
theorem length_path?_filters_le_one (operands : List Fragment) (c : Connective) :
    ((filters operands c).filterMap PathFilter.path?).length ≤ 1 := by
  cases hf : isFolded operands with
  | true => simp [filters_of_folded hf, PathFilter.path?]
  | false =>
      have hnodup : ((filters operands c).filterMap PathFilter.path?).Nodup := by
        refine List.Nodup.filterMap (fun x y b hx hy => ?_) (nodup_filters operands c)
        rw [PathFilter.path?_eq_some_iff.mp hx, PathFilter.path?_eq_some_iff.mp hy]
      have hsub : (filters operands c).filterMap PathFilter.path? ⊆ paths operands := by
        intro b hb
        rw [filters_of_not_folded hf, PathFilter.mem_filterMap_path?, List.mem_eraseDups] at hb
        exact mem_paths.mpr hb
      have hlen : (paths operands).length ≤ 1 := Nat.not_lt.mp (of_decide_eq_false hf)
      exact Nat.le_trans (hnodup.subperm hsub).length_le hlen

/-! ## What it depends on -/

/-- There are two paths among some filters. -/
def HasTwoPaths (filters : List PathFilter) : Prop :=
  ∃ a b, a ≠ b ∧ .path a ∈ filters ∧ .path b ∈ filters

/-- Paths are folded when there are two of them. -/
theorem isFolded_iff : isFolded operands = true ↔ HasTwoPaths (allFilters operands) := by
  constructor
  · intro hf
    have hlen : 1 < (paths operands).length := of_decide_eq_true hf
    obtain ⟨a, b, ps, hps⟩ : ∃ a b ps, paths operands = a :: b :: ps := by
      match hps : paths operands with
      | [] => simp [hps] at hlen
      | [a] => simp [hps] at hlen
      | a :: b :: ps => exact ⟨a, b, ps, rfl⟩
    have hnodup : (paths operands).Nodup := Text.nodup_ordered _
    refine ⟨a, b, ?_, mem_paths.mp (by simp [hps]), mem_paths.mp (by simp [hps])⟩
    rintro rfl
    simp [hps] at hnodup
  · rintro ⟨a, b, hne, ha, hb⟩
    rw [← mem_paths] at ha hb
    by_contra hf
    rcases paths_eq_of_not_folded (Bool.eq_false_iff.mpr hf) with hnone | ⟨p, hp⟩
    · simp [hnone] at ha
    · rw [hp, List.mem_singleton] at ha hb
      exact hne (ha.trans hb.symm)

/-- The distinct paths depend only on which filters there are. -/
theorem paths_congr (h : ∀ x, x ∈ allFilters as ↔ x ∈ allFilters bs) : paths as = paths bs := by
  refine Text.ordered_congr fun b => ?_
  simp only [PathFilter.mem_filterMap_path?, h]

/-- Filters that are not folded are kept where they first occur. -/
theorem keepsFirst_filters (c : Connective) (h : ¬HasTwoPaths (allFilters operands)) :
    KeepsFirst (allFilters operands) (filters operands c) := by
  have hf : isFolded operands = false := Bool.eq_false_iff.mpr fun hf => h (isFolded_iff.mp hf)
  rw [filters_of_not_folded hf]
  exact keepsFirst_eraseDups _

/-- Groups of fragments with the same filters between them are left with the same filters, each
once. If there are two paths among the filters, one filter is left: the paths in the order of their
bytes, joined. Otherwise all are left, in the order in which they first occur. -/
theorem filters_congr (c : Connective) (h : ∀ x, x ∈ allFilters as ↔ x ∈ allFilters bs) :
    ((filters as c).Nodup ∧ (filters bs c).Nodup ∧ ∀ x, x ∈ filters as c ↔ x ∈ filters bs c) ∧
    (HasTwoPaths (allFilters as) → ∃ bodies : List Text,
      (∀ b, b ∈ bodies ↔ .path b ∈ allFilters as) ∧
      bodies.Pairwise (fun a b => Text.utf8 a < Text.utf8 b) ∧
      filters as c = [.path (Connective.group c.pathKeyword bodies)] ∧
      filters bs c = [.path (Connective.group c.pathKeyword bodies)]) ∧
    (¬HasTwoPaths (allFilters as) →
      KeepsFirst (allFilters as) (filters as c) ∧ KeepsFirst (allFilters bs) (filters bs c)) := by
  have hpaths : paths as = paths bs := paths_congr h
  have htwo : HasTwoPaths (allFilters as) ↔ HasTwoPaths (allFilters bs) := by
    simp only [HasTwoPaths, h]
  have hfolded : HasTwoPaths (allFilters as) →
      filters as c = [.path (Connective.group c.pathKeyword (paths as))] ∧
        filters bs c = [.path (Connective.group c.pathKeyword (paths as))] := by
    intro ha
    rw [filters_of_folded (isFolded_iff.mpr ha), filters_of_folded (isFolded_iff.mpr (htwo.mp ha)),
      hpaths]
    exact ⟨rfl, rfl⟩
  have hkept : ¬HasTwoPaths (allFilters as) →
      KeepsFirst (allFilters as) (filters as c) ∧ KeepsFirst (allFilters bs) (filters bs c) :=
    fun ha => ⟨keepsFirst_filters c ha, keepsFirst_filters c (mt htwo.mpr ha)⟩
  refine ⟨⟨nodup_filters as c, nodup_filters bs c, fun x => ?_⟩, fun ha => ?_, hkept⟩
  · by_cases ha : HasTwoPaths (allFilters as)
    · obtain ⟨has, hbs⟩ := hfolded ha
      rw [has, hbs]
    · obtain ⟨has, hbs⟩ := hkept ha
      rw [has.mem_iff, hbs.mem_iff, h]
  · refine ⟨paths as, fun b => mem_paths, ?_, hfolded ha⟩
    exact (Text.pairwise_ordered _).imp Text.utf8_lt_utf8

/-- Two paths in two fragments, the greater one first, with an index filter between them. -/
def apart : List Fragment :=
  [⟨"a:1".toList, [.path "//😀".toList, .index "//x".toList]⟩, ⟨"b:2".toList, [.path "//～".toList]⟩]

/-- The same filters in the last of three fragments, one of them twice. -/
def together : List Fragment :=
  [⟨[], []⟩, ⟨"c:3".toList, []⟩,
    ⟨"a:1".toList, [.path "//～".toList, .index "//x".toList, .path "//😀".toList,
      .path "//～".toList]⟩]

/-- A path between two index filters. -/
def indexed : List Fragment :=
  [⟨"a:1".toList, [.index "//y".toList, .path "//～".toList]⟩, ⟨"b:2".toList, [.index "//x".toList]⟩]

theorem filters_congr_regrouped :
    ((∀ x, x ∈ allFilters apart ↔ x ∈ allFilters together) ∧ HasTwoPaths (allFilters apart) ∧
      ∃ bodies : List Text, (∀ b, b ∈ bodies ↔ .path b ∈ allFilters apart) ∧
        bodies.Pairwise (fun a b => Text.utf8 a < Text.utf8 b) ∧
        filters apart .or = [.path (Connective.group Connective.or.pathKeyword bodies)] ∧
        filters together .or = [.path (Connective.group Connective.or.pathKeyword bodies)]) ∧
    (∀ x, x ∈ allFilters indexed ↔ x ∈ allFilters indexed.reverse) ∧
      ¬HasTwoPaths (allFilters indexed) ∧
      KeepsFirst (allFilters indexed) (filters indexed .and) ∧
      KeepsFirst (allFilters indexed.reverse) (filters indexed.reverse .and) := by
  have hpaths : ∀ x, x ∈ allFilters apart ↔ x ∈ allFilters together := fun x =>
    ⟨fun hx => (by decide : allFilters apart ⊆ allFilters together) hx,
      fun hx => (by decide : allFilters together ⊆ allFilters apart) hx⟩
  have htwo : HasTwoPaths (allFilters apart) := isFolded_iff.mp (by decide)
  have hindexes : ∀ x, x ∈ allFilters indexed ↔ x ∈ allFilters indexed.reverse := fun x =>
    ⟨fun hx => (by decide : allFilters indexed ⊆ allFilters indexed.reverse) hx,
      fun hx => (by decide : allFilters indexed.reverse ⊆ allFilters indexed) hx⟩
  have hone : ¬HasTwoPaths (allFilters indexed) := fun h => by
    have hf : isFolded indexed = false := by decide
    rw [isFolded_iff.mpr h] at hf
    cases hf
  exact ⟨⟨hpaths, htwo, (filters_congr .or hpaths).2.1 htwo⟩, hindexes, hone,
    (filters_congr .and hindexes).2.2 hone⟩

end Merge
end CatalogQuery
