import CatalogQuery.Query.Connective
import CatalogQuery.Query.Fragment
import CatalogQuery.Text.Ordered

/-!
# Merging the filters of a group

A request takes one path expression only, so the path filters of the members of a group are folded
into one: the distinct paths in ascending order, joined by the connective of the group. With one
distinct path or none there is nothing to fold, and the filters are kept in the order in which
they first occur.

Folded filters have no index to look into, so the index filters of the members are dropped then.
-/

namespace CatalogQuery
namespace Merge

/-- Every filter of a group, member by member. -/
def allFilters (operands : List Fragment) : List PathFilter := operands.flatMap Fragment.filters

/-- The distinct paths of a group in ascending order. -/
def paths (operands : List Fragment) : List Text :=
  Text.ordered ((allFilters operands).filterMap PathFilter.path?)

/-- The distinct index paths of a group in ascending order. -/
def indexes (operands : List Fragment) : List Text :=
  Text.ordered ((allFilters operands).filterMap PathFilter.index?)

/-- Are there paths to be folded? -/
def isFolded (operands : List Fragment) : Bool := decide (1 < (paths operands).length)

/-- The filters of a group. -/
def filters (operands : List Fragment) (c : Connective) : List PathFilter :=
  if isFolded operands then [.path (Connective.group c.pathKeyword (paths operands))]
  else (allFilters operands).eraseDups

/-- The numbers of index filters dropped and of paths folded, if an index filter is dropped. -/
def dropped (operands : List Fragment) : Option (Nat × Nat) :=
  if isFolded operands && !(indexes operands).isEmpty then
    some ((indexes operands).length, (paths operands).length)
  else none

/-! ## Which filters and paths there are -/

variable {operands : List Fragment}

theorem mem_allFilters {x : PathFilter} :
    x ∈ allFilters operands ↔ ∃ g ∈ operands, x ∈ g.filters :=
  List.mem_flatMap

theorem mem_paths {b : Text} : b ∈ paths operands ↔ .path b ∈ allFilters operands := by
  rw [paths, Text.mem_ordered, PathFilter.mem_filterMap_path?]

theorem mem_indexes {b : Text} : b ∈ indexes operands ↔ .index b ∈ allFilters operands := by
  rw [indexes, Text.mem_ordered, PathFilter.mem_filterMap_index?]

/-! ## What is left of them -/

theorem filters_of_folded (h : isFolded operands = true) (c : Connective) :
    filters operands c = [.path (Connective.group c.pathKeyword (paths operands))] :=
  if_pos h

theorem filters_of_not_folded (h : isFolded operands = false) (c : Connective) :
    filters operands c = (allFilters operands).eraseDups :=
  if_neg (by simp [h])

/-- Without folding there is one path at most. -/
theorem paths_eq_of_not_folded (h : isFolded operands = false) :
    paths operands = [] ∨ ∃ b, paths operands = [b] := by
  have hlen : (paths operands).length ≤ 1 := Nat.not_lt.mp (of_decide_eq_false h)
  match hps : paths operands with
  | [] => exact Or.inl rfl
  | [b] => exact Or.inr ⟨b, rfl⟩
  | a :: b :: ps => simp [hps] at hlen

/-- Where all filters are paths and there are none of them, there is no filter left. -/
theorem filters_eq_nil (h : ∀ x ∈ allFilters operands, ∃ b, x = .path b)
    (hnone : paths operands = []) (c : Connective) : filters operands c = [] := by
  have hall : allFilters operands = [] := by
    refine List.eq_nil_iff_forall_not_mem.mpr fun x hx => ?_
    obtain ⟨b, rfl⟩ := h x hx
    have hb : b ∈ paths operands := mem_paths.mpr hx
    rw [hnone] at hb
    cases hb
  rw [filters_of_not_folded (by simp [isFolded, hnone]), hall, List.eraseDups_nil]

/-- Where all filters are paths and there are some, one path is left: the only one there is, or the
group of the distinct ones. -/
theorem filters_eq_path (h : ∀ x ∈ allFilters operands, ∃ b, x = .path b)
    (hsome : paths operands ≠ []) (c : Connective) :
    ∃ b, filters operands c = [.path b] ∧
      (paths operands = [b] ∨ b = Connective.group c.pathKeyword (paths operands)) := by
  cases hf : isFolded operands with
  | true => exact ⟨_, filters_of_folded hf c, Or.inr rfl⟩
  | false =>
      obtain ⟨b, hb⟩ := (paths_eq_of_not_folded hf).resolve_left hsome
      have same : ∀ x ∈ allFilters operands, x = .path b := by
        intro x hx
        obtain ⟨a, rfl⟩ := h x hx
        have ha : a ∈ paths operands := mem_paths.mpr hx
        rw [hb, List.mem_singleton] at ha
        rw [ha]
      have hmem : PathFilter.path b ∈ allFilters operands :=
        mem_paths.mp (by rw [hb]; exact List.mem_singleton_self b)
      obtain ⟨x, xs, hall⟩ := List.exists_cons_of_ne_nil (List.ne_nil_of_mem hmem)
      rw [hall] at same
      have hrest : (xs.filter fun y => !y == PathFilter.path b) = [] := by
        refine List.filter_eq_nil_iff.mpr fun y hy => ?_
        simp [same y (List.mem_cons_of_mem x hy)]
      refine ⟨b, ?_, Or.inl hb⟩
      rw [filters_of_not_folded hf, hall, same x List.mem_cons_self, List.eraseDups_cons, hrest,
        List.eraseDups_nil]

end Merge
end CatalogQuery
