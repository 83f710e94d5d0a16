import CatalogQuery.Predicate.Nested
import CatalogQuery.Proofs.Made
import CatalogQuery.Proofs.Reading

/-!
# The structure of a query

The query of a nested predicate is the formula of the queries of its leaves, as it is written
(`compile_eq_text`). When the leaves are clauses, the structure can be read back from the query:
the groups with their operators and the order of their members, and what every `NOT` applies to
(`query_eq_iff`).
-/

namespace CatalogQuery
namespace Formula

/-! ## Clauses as leaves -/

/-- The word before a negation is admitted like a clause, but is none. -/
theorem clause_ne_negation {l r s : Text} (hl : IsClause l) (hr : IsEnd r) :
    l ++ r ≠ "NOT ".toList ++ s := by
  intro h
  have hword : l ++ r = "NOT".toList ++ ' ' :: s := h
  have hl' : l = "NOT".toList :=
    Place.admits_inj hl.2.2 (by decide) hr.isDelimiter
      (isEnd_space s).isDelimiter hword
  exact absurd hl.2.1 (by simp [hl'])

theorem legible_clauses : Legible Connective.keyword IsClause where
  word_inj := connective_eq_of_append (by decide)
  leaf_ne_group := by
    intro l r s hl _ h
    obtain ⟨x, l, rfl, hx⟩ := hl.exists_cons
    rw [(List.cons.inj h).1] at hx
    exact absurd hx (by decide)
  leaf_ne_negation := clause_ne_negation
  leaf_inj := fun hl hm hr hs h =>
    Place.admits_inj hl.2.2 hm.2.2 hr.isDelimiter hs.isDelimiter h

/-! ## Queries of nested predicates -/

variable {α : Type}

/-- When the leaves are compiled to queries that say something, so is the formula, and its query is
the formula of these queries. -/
theorem compile_eq_text (c : Compiler) {leaf : α → Except CompileError Fragment} {q : α → Text}
    {e : Formula α}
    (he : e.Over fun a => ∃ fs, leaf a = .ok ⟨q a, fs⟩ ∧ Text.isBlank (q a) = false) :
    ∃ f, compile c leaf e = .ok f ∧ f.query = text Connective.keyword (map q e) ∧
      Text.isBlank f.query = false := by
  induction he with
  | @leaf a h =>
      obtain ⟨fs, hleaf, hq⟩ := h
      exact ⟨⟨q a, fs⟩, hleaf, rfl, hq⟩
  | @negation e _ ih =>
      obtain ⟨f, hf, hquery, hblank⟩ := ih
      refine ⟨_, (compile_negation hf).trans (Group.negate_eq_ok_iff.mpr ⟨hblank, rfl⟩), ?_,
        Text.isBlank_eq_false (c := 'N') (by simp) rfl⟩
      rw [map_negation, text_negation, hquery]
  | @group k ms hne _ ih =>
      obtain ⟨made, hmade, hgroup⟩ := compile_group k ih
      have hnot : ∀ g ∈ ms.map made, Text.isBlank g.query = false := by
        intro g hg
        obtain ⟨m, hm, rfl⟩ := List.mem_map.mp hg
        exact (hmade m hm).2
      have hqueries : (ms.map made).map Fragment.query
          = (ms.map (map q)).map (text Connective.keyword) := by
        rw [List.map_map, List.map_map]
        exact List.map_congr_left fun m hm => (hmade m hm).1
      refine ⟨_, hgroup.trans (Group.combine_eq_ok k (by simpa using hne) hnot), ?_,
        Text.isBlank_eq_false (c := '(') List.mem_cons_self rfl⟩
      rw [map_group, text_group]
      exact congrArg (Connective.group k.keyword) hqueries

/-! ## Reading the structure back -/

/-- Two nested predicates over clauses have one query exactly when they are the same over the
queries of their leaves, but for the operators of groups of one member. -/
theorem query_eq_iff (c : Compiler) {s t : Formula Fragment}
    (hs : s.Over fun f => IsClause f.query) (ht : t.Over fun f => IsClause f.query) :
    ∃ f g, compile c .ok s = .ok f ∧ compile c .ok t = .ok g ∧
      (f.query = g.query ↔
        canonical (map Fragment.query s) = canonical (map Fragment.query t)) := by
  have leaves : ∀ f : Fragment, IsClause f.query →
      ∃ fs, (Except.ok f : Except CompileError Fragment) = .ok ⟨f.query, fs⟩ ∧
        Text.isBlank f.query = false :=
    fun f hf => ⟨f.filters, rfl, hf.isBlank_eq_false⟩
  obtain ⟨f, hf, hfquery, -⟩ := compile_eq_text c (hs.mono leaves)
  obtain ⟨g, hg, hgquery, -⟩ := compile_eq_text c (ht.mono leaves)
  refine ⟨f, g, hf, hg, ?_⟩
  rw [hfquery, hgquery]
  exact text_eq_iff legible_clauses (Over.map hs) (Over.map ht)

/-- A range, and a phrase that is negated, in a group of its own. -/
def phraseExcluded (k : Connective) : Formula Fragment :=
  .group .and [.leaf { query := "f:[1 TO 2]".toList },
    .negation (.group k [.leaf { query := "t:\"x y\"".toList }])]

theorem over_phraseExcluded (k : Connective) :
    (phraseExcluded k).Over fun f => IsClause f.query := by
  have phrase : (.leaf { query := "t:\"x y\"".toList } : Formula Fragment).Over
      fun f => IsClause f.query := .leaf (by decide)
  refine .group (by simp) (List.forall_mem_cons.mpr ⟨.leaf (by decide), ?_⟩)
  exact List.forall_mem_singleton.mpr
    (.negation (.group (by simp) (List.forall_mem_singleton.mpr phrase)))

theorem query_eq_iff_phraseExcluded :
    ((phraseExcluded .and).Over fun f => IsClause f.query) ∧
      ((phraseExcluded .or).Over fun f => IsClause f.query) ∧
      ∃ f g, compile Compiler.direct .ok (phraseExcluded .and) = .ok f ∧
        compile Compiler.direct .ok (phraseExcluded .or) = .ok g ∧
        (f.query = g.query ↔ canonical (map Fragment.query (phraseExcluded .and))
          = canonical (map Fragment.query (phraseExcluded .or))) :=
  ⟨over_phraseExcluded .and, over_phraseExcluded .or,
    query_eq_iff .direct (over_phraseExcluded .and) (over_phraseExcluded .or)⟩

end Formula
end CatalogQuery
