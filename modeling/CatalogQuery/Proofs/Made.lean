import CatalogQuery.Predicate.PathSearch
import CatalogQuery.Predicate.TextSearch

/-!
# Fragments that a compiler makes

Predicates are compiled from the leaves of a tree up: a group and a negation are given fragments
that the same compiler has made before. `Compiler.Makes` is what can come of it, whatever the
schema and the settings are.

* `Fragment.Regular`: the query says something, and there is at most one filter, which is a path;
* `Fragment.Plain`: the query says something, and there is no filter;
* `Compiler.cases_of_result`: only groups and searches by path have filters;
* `Compiler.regular_of_result`: one predicate keeps fragments regular;
* `Compiler.Makes.regular`: so every fragment that is made has it.
-/

namespace CatalogQuery

/-- The fragments that a predicate is about. -/
def Predicate.operands : Predicate → List Fragment
  | .group _ operands => operands
  | .negation operand => [operand]
  | _ => []

/-- The fragments that come of predicates on fragments that came of predicates. -/
inductive Compiler.Makes (c : Compiler) : Fragment → Prop where
  | of {p : Predicate} {f : Fragment} (operands : ∀ g ∈ p.operands, c.Makes g)
      (result : (c.compile p).result = .ok f) : c.Makes f

/-- A compiler for an index in which every property is a field by its own name. Its library draws
nothing. -/
def Compiler.direct : Compiler where
  schema := {
    field := fun property _ _ => property
    caseSensitive := id
    whitespaceTokenized := id
    anyText := []
    variants := fun property => some [property] }
  settings := {}
  draw := fun _ _ => []

/-- The query says something, and at most one filter goes with it, which is a path. -/
structure Fragment.Regular (f : Fragment) : Prop where
  query_not_blank : Text.isBlank f.query = false
  filters_eq : f.filters = [] ∨ ∃ b, f.filters = [.path b]

/-- The query says something, and no filter goes with it. -/
structure Fragment.Plain (f : Fragment) : Prop where
  query_not_blank : Text.isBlank f.query = false
  filters_eq_nil : f.filters = []

theorem Fragment.Plain.regular {f : Fragment} (h : f.Plain) : f.Regular :=
  ⟨h.query_not_blank, Or.inl h.filters_eq_nil⟩

/-! ## Paths of regular fragments -/

section

variable {operands : List Fragment} (hreg : ∀ g ∈ operands, g.Regular)
include hreg

/-- Every filter of regular fragments is a path. -/
theorem eq_path_of_regular {x : PathFilter} (hx : x ∈ Merge.allFilters operands) :
    ∃ b, x = .path b := by
  obtain ⟨g, hg, hxg⟩ := Merge.mem_allFilters.mp hx
  rcases (hreg g hg).filters_eq with hnone | ⟨b, hb⟩
  · rw [hnone] at hxg
    cases hxg
  · rw [hb, List.mem_singleton] at hxg
    exact ⟨b, hxg⟩

/-- A path of a group of regular fragments is the only filter of a member. -/
theorem mem_paths_of_regular {b : Text} :
    b ∈ Merge.paths operands ↔ ∃ g ∈ operands, g.filters = [.path b] := by
  rw [Merge.mem_paths, Merge.mem_allFilters]
  constructor
  · rintro ⟨g, hg, hb⟩
    refine ⟨g, hg, ?_⟩
    rcases (hreg g hg).filters_eq with hnone | ⟨a, ha⟩
    · rw [hnone] at hb
      cases hb
    · rw [ha, List.mem_singleton] at hb
      rw [ha, hb]
  · rintro ⟨g, hg, hb⟩
    exact ⟨g, hg, by rw [hb]; exact List.mem_singleton_self _⟩

/-- A group of regular fragments has no path when none of them has a filter. -/
theorem paths_eq_nil_of_regular :
    Merge.paths operands = [] ↔ ∀ g ∈ operands, g.filters = [] := by
  constructor
  · intro hnil g hg
    rcases (hreg g hg).filters_eq with hnone | ⟨b, hb⟩
    · exact hnone
    · have hmem : b ∈ Merge.paths operands := (mem_paths_of_regular hreg).mpr ⟨g, hg, hb⟩
      rw [hnil] at hmem
      cases hmem
  · intro hnone
    refine List.eq_nil_iff_forall_not_mem.mpr fun b hb => ?_
    obtain ⟨g, hg, hgb⟩ := (mem_paths_of_regular hreg).mp hb
    rw [hnone g hg] at hgb
    cases hgb

end

namespace Compiler

variable {c : Compiler} {f : Fragment} {α : Type}

/-! ## Queries without filters -/

/-- A query says something when it has a character that is not blank. -/
theorem plain_of_mem {query : Text} {x : Char} (hx : x ∈ query)
    (hb : Text.isBlankChar x = false) : Fragment.Plain { query } :=
  ⟨Text.isBlank_eq_false hx hb, rfl⟩

theorem plain_clause (field term : Text) : Fragment.Plain { query := clause field term } :=
  plain_of_mem (x := ':') (by simp [clause]) rfl

theorem plain_range (r : RangeClause) : Fragment.Plain { query := r.text } :=
  plain_of_mem (x := ':') (by simp [RangeClause.text]) rfl

theorem plain_parentheses (t : Text) : Fragment.Plain { query := '(' :: t } :=
  plain_of_mem (x := '(') List.mem_cons_self rfl

/-- What is made of fields is made when there are any. -/
theorem exists_of_map {fields : Except CompileError α} {make : α → Fragment}
    (h : fields.map make = .ok f) : ∃ a, fields = .ok a ∧ f = make a := by
  cases fields with
  | error e => cases h
  | ok a =>
      cases h
      exact ⟨a, rfl, rfl⟩

theorem plain_of_map {fields : Except CompileError α} {make : α → Fragment}
    (hmake : ∀ a, (make a).Plain) (h : fields.map make = .ok f) : f.Plain := by
  obtain ⟨a, -, rfl⟩ := exists_of_map h
  exact hmake a

/-! ## Comparisons and searches for text -/

theorem plain_dateRange {property : Text} {range : Text → RangeClause}
    (h : c.dateRange property range = .ok f) : f.Plain :=
  plain_of_map (fun _ => plain_range _) h

theorem plain_numberRange {property : Text} {type : ValueType} {range : Text → RangeClause}
    (h : c.numberRange property type range = .ok f) : f.Plain :=
  plain_of_map (fun _ => plain_range _) h

theorem plain_relativeTo {property : Text} {millis : Int64} {now : Instant}
    (h : c.relativeTo property millis now = .ok f) : f.Plain := by
  unfold relativeTo at h
  split at h
  · cases h
  · exact plain_dateRange h

theorem plain_textSearch (search : TextSearch) (h : (c.compile search.predicate).result = .ok f) :
    f.Plain := by
  obtain ⟨-, rfl⟩ := result_textSearch_eq_ok_iff.mp h
  unfold searchQuery
  split
  · exact plain_parentheses _
  · exact plain_clause _ _

theorem plain_isNull {property : Text} (h : c.isNull property = .ok f) : f.Plain := by
  refine plain_of_map (fun fs => ?_) h
  split
  · exact plain_parentheses _
  · exact plain_parentheses _

/-! ## Searches by location and by path -/

theorem plain_related {r : Relation} {property shape : Text} {reference : Option Coord}
    (h : (c.related r property shape reference).result = .ok f) : f.Plain := by
  unfold related at h
  split at h
  · cases h
  · cases h
    exact plain_clause _ _

theorem plain_spatial {r : Relation} {property wkt : Text}
    (h : (c.spatial r property wkt).result = .ok f) : f.Plain := by
  unfold spatial at h
  split at h
  · cases h
  · exact plain_related h

theorem plain_intersects {property wkt : Text}
    (h : (c.intersects property wkt).result = .ok f) : f.Plain := by
  unfold intersects at h
  split at h
  · cases h
  · split at h
    · exact plain_related h
    · exact plain_related h

theorem plain_withinDistance {property wkt : Text} {meters : Float}
    (h : (c.withinDistance property wkt meters).result = .ok f) : f.Plain := by
  unfold withinDistance at h
  split at h
  · cases h
  · exact plain_related h
  · exact plain_related h

theorem plain_nearestTo {property wkt : Text}
    (h : (c.nearestTo property wkt).result = .ok f) : f.Plain := by
  unfold nearestTo at h
  split at h
  · cases h
  · split at h
    · cases h
    · split at h
      · cases h
      · exact plain_related h

/-- A search by path has one filter, the path, and its query is `*:*` or a clause. -/
theorem regular_pathSearch {search : PathSearch}
    (h : c.pathSearch search.path search.sought search.caseSensitive = .ok f) : f.Regular := by
  refine ⟨?_, Or.inr ⟨_, (filters_of_pathSearch h).2⟩⟩
  unfold pathSearch at h
  split at h
  · cases h
  · split at h
    · cases h
      rfl
    · obtain ⟨field, -, rfl⟩ := exists_of_map h
      exact (plain_clause _ _).query_not_blank

/-! ## Groups and negations -/

theorem regular_combine {k : Connective} {operands : List Fragment}
    (hops : ∀ g ∈ operands, g.Regular) (h : Group.combine k operands = .ok f) : f.Regular := by
  obtain ⟨-, -, rfl⟩ := Group.combine_eq_ok_iff.mp h
  refine ⟨(plain_parentheses _).query_not_blank, ?_⟩
  by_cases hnone : Merge.paths operands = []
  · exact Or.inl (Merge.filters_eq_nil (fun _ => eq_path_of_regular hops) hnone k)
  · obtain ⟨b, hb, -⟩ := Merge.filters_eq_path (fun _ => eq_path_of_regular hops) hnone k
    exact Or.inr ⟨b, hb⟩

theorem plain_negate {operand : Fragment} (h : Group.negate operand = .ok f) : f.Plain := by
  obtain ⟨-, rfl⟩ := Group.negate_eq_ok_iff.mp h
  exact plain_of_mem (x := 'N') (by simp) rfl

/-! ## All predicates -/

/-- What is neither a group nor a search by path is compiled to a query without filters. -/
theorem plain_of_result {p : Predicate} (hgroup : ∀ k operands, p ≠ .group k operands)
    (hpath : p.pathSearch? = none) (h : (c.compile p).result = .ok f) : f.Plain := by
  cases p with
  | group k operands => exact absurd rfl (hgroup k operands)
  | negation operand => exact plain_negate h
  | equalsText p l cs => exact plain_textSearch (.equals p l cs) h
  | equalsDate p d => exact plain_of_map (fun _ => plain_clause _ _) h
  | equalsNumber p n => exact plain_of_map (fun _ => plain_clause _ _) h
  | equalsBool p b => exact plain_of_map (fun _ => plain_clause _ _) h
  | compareDate how p d => exact plain_dateRange h
  | compareNumber how p n => exact plain_numberRange h
  | betweenDates p l u => exact plain_dateRange h
  | betweenNumbers p l u => exact plain_numberRange h
  | before p d => exact plain_dateRange h
  | after p d => exact plain_dateRange h
  | during p s e => exact plain_dateRange h
  | relative p ms now => exact plain_relativeTo h
  | like p t cs => exact plain_textSearch (.like p t cs) h
  | fuzzy p t => exact plain_textSearch (.fuzzy p t) h
  | isNull p => exact plain_isNull h
  | contains p w => exact plain_spatial h
  | within p w => exact plain_spatial h
  | disjoint p w => exact plain_spatial h
  | overlaps p w => exact plain_spatial h
  | intersects p w => exact plain_intersects h
  | withinDistance p w m => exact plain_withinDistance h
  | nearestTo p w => exact plain_nearestTo h
  | pathExists x => cases hpath
  | pathLike x t cs => cases hpath
  | pathFuzzy x t => cases hpath

/-- So only groups and searches by path have filters in what they are compiled to. -/
theorem cases_of_result {p : Predicate} (h : (c.compile p).result = .ok f) :
    (∃ k operands, p = .group k operands ∧ Group.combine k operands = .ok f) ∨
    (∃ search, p.pathSearch? = some search ∧
      c.pathSearch search.path search.sought search.caseSensitive = .ok f) ∨
    f.Plain := by
  by_cases hgroup : ∃ k operands, p = .group k operands
  · obtain ⟨k, operands, rfl⟩ := hgroup
    exact Or.inl ⟨k, operands, rfl, h⟩
  · cases hpath : p.pathSearch? with
    | some search =>
        rw [result_of_pathSearch? hpath] at h
        exact Or.inr (Or.inl ⟨search, rfl, h⟩)
    | none =>
        exact Or.inr (Or.inr (plain_of_result (fun k ops e => hgroup ⟨k, ops, e⟩) hpath h))

/-- What is made of regular fragments is regular. -/
theorem regular_of_result {p : Predicate} (hops : ∀ g ∈ p.operands, g.Regular)
    (h : (c.compile p).result = .ok f) : f.Regular := by
  rcases cases_of_result h with ⟨k, operands, rfl, hgroup⟩ | ⟨search, -, hpath⟩ | hplain
  · exact regular_combine hops hgroup
  · exact regular_pathSearch hpath
  · exact hplain.regular

/-- Every fragment that a compiler makes is regular. -/
theorem Makes.regular (h : c.Makes f) : f.Regular := by
  induction h with
  | of _ result ih => exact regular_of_result ih result

end Compiler
end CatalogQuery
