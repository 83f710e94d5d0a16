import CatalogQuery.Proofs.Merging
import CatalogQuery.Query.Condition
import Mathlib.Tactic.Choose

/-!
# Merged paths as conditions

The paths of a group may be conditions themselves. They are merged as texts, with parentheses around
the whole and none around each of them.

* `Merge.path?_filters_eq`: one path is left of the paths of a group;
* `Merge.value_paths_eq`: the distinct paths hold, joined, when the paths of the members do;
* `Merge.reads_filters`: so what is left is a condition. It holds when those of the members do,
  joined, if the connective is `or`, or no member has an `or` outside of parentheses;
* `Merge.not_value_filters`: the condition is needed, since `and` binds tighter.
-/

namespace CatalogQuery

open Condition (Disjunction Reads)

/-- A fragment with one path, which is written as a condition. -/
def Fragment.HasCondition (g : Fragment) (d : Disjunction) : Prop :=
  ∃ b, g.filters.filterMap PathFilter.path? = [b] ∧ Reads b d

namespace Merge

variable {operands : List Fragment} {k : Connective} {read : Fragment → Disjunction}

/-- One path is left of those of a group: the only one there is, or the group of the distinct ones.
Index filters make no difference. -/
theorem path?_filters_eq (hsome : paths operands ≠ []) (k : Connective) :
    ∃ b, (filters operands k).filterMap PathFilter.path? = [b] ∧
      (paths operands = [b] ∨ b = Connective.group k.pathKeyword (paths operands)) := by
  cases hf : isFolded operands with
  | true => exact ⟨_, by rw [filters_of_folded hf]; rfl, Or.inr rfl⟩
  | false =>
      obtain ⟨b, hb⟩ := (paths_eq_of_not_folded hf).resolve_left hsome
      have hkept : b ∈ (filters operands k).filterMap PathFilter.path? := by
        rw [filters_of_not_folded hf, PathFilter.mem_filterMap_path?, List.mem_eraseDups,
          ← mem_paths, hb]
        exact List.mem_singleton_self b
      have hlength := length_path?_filters_le_one operands k
      obtain ⟨a, as, hall⟩ := List.exists_cons_of_ne_nil (List.ne_nil_of_mem hkept)
      rw [hall, List.length_cons] at hlength
      obtain rfl : as = [] := List.length_eq_zero_iff.mp (by omega)
      rw [hall, List.mem_singleton] at hkept
      exact ⟨b, by rw [hall, hkept], Or.inl hb⟩

section

variable (h : ∀ g ∈ operands, g.HasCondition (read g))
include h

theorem exists_reads_of_mem_paths {b : Text} (hb : b ∈ paths operands) :
    ∃ g ∈ operands, Reads b (read g) := by
  obtain ⟨g, hg, hgb⟩ := mem_allFilters.mp (mem_paths.mp hb)
  obtain ⟨a, ha, hreads⟩ := h g hg
  rw [← PathFilter.mem_filterMap_path?, ha, List.mem_singleton] at hgb
  exact ⟨g, hg, hgb ▸ hreads⟩

theorem exists_mem_paths_reads {g : Fragment} (hg : g ∈ operands) :
    ∃ b ∈ paths operands, Reads b (read g) := by
  obtain ⟨b, hb, hreads⟩ := h g hg
  have hmem : b ∈ g.filters.filterMap PathFilter.path? := by
    rw [hb]
    exact List.mem_singleton_self b
  have hpath := PathFilter.mem_filterMap_path?.mp hmem
  exact ⟨b, mem_paths.mpr (mem_allFilters.mpr ⟨g, hg, hpath⟩), hreads⟩

/-- The distinct paths have the values that the members have, however many of these are the same. -/
theorem value_paths_eq {readPath : Text → Disjunction}
    (hread : ∀ b ∈ paths operands, Reads b (readPath b)) (v : List Lexeme → Bool) :
    k.value ((paths operands).map fun b => (readPath b).value v)
      = k.value (operands.map fun g => (read g).value v) := by
  apply Connective.value_map_congr
  · intro b hb
    obtain ⟨g, hg, hreads⟩ := exists_reads_of_mem_paths h hb
    exact ⟨g, hg, by rw [hreads.unique (hread b hb)]⟩
  · intro g hg
    obtain ⟨b, hb, hreads⟩ := exists_mem_paths_reads h hg
    exact ⟨b, hb, by rw [hreads.unique (hread b hb)]⟩

end

/-- The paths of a group of conditions are merged to one condition. Whatever paths select something,
it holds when the members do, joined, if the connective is `or` or no member has an `or` outside of
parentheses. -/
theorem reads_filters (hne : operands ≠ []) (h : ∀ g ∈ operands, g.HasCondition (read g)) :
    ∃ b d, (filters operands k).filterMap PathFilter.path? = [b] ∧ (∀ e, Reads b e ↔ e = d) ∧
      (k = .or ∨ (∀ g ∈ operands, (read g).IsConjunction) →
        ∀ v, d.value v = k.value (operands.map fun g => (read g).value v)) := by
  have hsome : paths operands ≠ [] := by
    obtain ⟨g, hg⟩ := List.exists_mem_of_ne_nil operands hne
    obtain ⟨b, hb, -⟩ := exists_mem_paths_reads h hg
    exact List.ne_nil_of_mem hb
  have readable : ∀ b, b ∈ paths operands → ∃ d, Reads b d := by
    intro b hb
    obtain ⟨g, -, hreads⟩ := exists_reads_of_mem_paths h hb
    exact ⟨_, hreads⟩
  choose! readPath hread using readable
  have hvalue := fun v => value_paths_eq (k := k) h hread v
  obtain ⟨b, hb, hone | hgroup⟩ := path?_filters_eq hsome k
  · -- All members have the same path, which is kept: joining it with itself changes nothing.
    have hreads : Reads b (readPath b) := hread b (by rw [hone]; exact List.mem_singleton_self b)
    refine ⟨b, _, hb, fun e => hreads.iff_eq, fun _ v => ?_⟩
    rw [← hvalue v, hone, List.map_singleton, Connective.value_singleton]
  · obtain ⟨d, hreads, hd⟩ := Condition.exists_reads_group k hsome hread
    rw [← hgroup] at hreads
    refine ⟨b, d, hb, fun e => hreads.iff_eq, fun hk v => ?_⟩
    rw [← hvalue v]
    refine hd (hk.imp_right fun hconj a ha => ?_) v
    obtain ⟨g, hg, hga⟩ := exists_reads_of_mem_paths h ha
    rw [(hread a ha).unique hga]
    exact hconj g hg

/-! ## Two members -/

/-- The path to all elements of a name, which begins with two slashes. -/
def elements (name : Text) : Condition.Operand := .path (.symbol '/') [.symbol '/', .name name]

/-- One path or another. -/
def either : Disjunction :=
  .or (.single (.single (elements ['a']))) (.single (elements ['b']))

/-- A third path. -/
def third : Disjunction := .single (.single (elements ['c']))

/-- A search for one path or another, in parentheses or not. -/
def eitherFound (parentheses : Bool) : Fragment :=
  ⟨Fragment.matchAll,
    [.path (if parentheses then "(//a or //b)".toList else "//a or //b".toList)]⟩

/-- A search for a third path. -/
def thirdFound : Fragment := ⟨Fragment.matchAll, [.path "//c".toList]⟩

theorem hasCondition_eitherFound : (eitherFound false).HasCondition either :=
  ⟨"//a or //b".toList, rfl, by decide⟩

theorem hasCondition_thirdFound : thirdFound.HasCondition third :=
  ⟨"//c".toList, rfl, by decide⟩

/-- What the two searches are read as, the first one in parentheses. -/
def readFound (g : Fragment) : Disjunction :=
  if g = thirdFound then third else .single (.single (.group either))

theorem reads_filters_parentheses :
    [eitherFound true, thirdFound] ≠ [] ∧
    (∀ g ∈ [eitherFound true, thirdFound], g.HasCondition (readFound g)) ∧
    ∃ b d, (filters [eitherFound true, thirdFound] .and).filterMap PathFilter.path? = [b] ∧
      (∀ e, Reads b e ↔ e = d) ∧
      ∀ v, d.value v = Connective.and.value
        ([eitherFound true, thirdFound].map fun g => (readFound g).value v) := by
  have h : ∀ g ∈ [eitherFound true, thirdFound], g.HasCondition (readFound g) := by
    refine List.forall_mem_cons.mpr ⟨?_, List.forall_mem_singleton.mpr hasCondition_thirdFound⟩
    exact ⟨"(//a or //b)".toList, rfl, by decide⟩
  have hconj : ∀ g ∈ [eitherFound true, thirdFound], (readFound g).IsConjunction := by
    refine List.forall_mem_cons.mpr ⟨⟨_, rfl⟩, List.forall_mem_singleton.mpr ⟨_, rfl⟩⟩
  obtain ⟨b, d, hb, hreads, hvalue⟩ := reads_filters (k := .and) (by decide) h
  exact ⟨by decide, h, b, d, hb, hreads, hvalue (Or.inr hconj)⟩

/-- Without parentheses the first member is torn apart: what is left holds when only its first path
selects something, though the third path does not. -/
theorem not_value_filters :
    ∃ b d v, (eitherFound false).HasCondition either ∧ thirdFound.HasCondition third ∧
      (filters [eitherFound false, thirdFound] .and).filterMap PathFilter.path? = [b] ∧
      Reads b d ∧ d.value v ≠ Connective.and.value [either.value v, third.value v] := by
  refine ⟨"(//a or //b and //c)".toList,
    .single (.single (.group (.or (.single (.single (elements ['a'])))
      (.and (.single (elements ['b'])) (elements ['c']))))),
    fun xs => xs.contains (.name ['a']), hasCondition_eitherFound, hasCondition_thirdFound, rfl,
    by decide, by decide⟩

end Merge
end CatalogQuery
