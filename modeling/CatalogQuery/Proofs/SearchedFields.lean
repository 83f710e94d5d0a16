import CatalogQuery.Predicate.TextSearch
import CatalogQuery.Proofs.Made

/-!
# Fields that a search for text reaches

A search for text looks for its term in one field or in several. In any text these are the fields
with free text, as many as the schema has. It may have none, which is not checked: the search
succeeds, and its query is an empty group.

* `Fragment.SearchesFields`: the query has one clause for each field of a list, in its order;
* `Compiler.hasClause_iff`: it has a clause at all just if the list is not empty;
* `Compiler.searchesFields_textSearch`: so every search that succeeds has one clause for each of its
  fields, and it has none just if it is for any text and there is no field for that
  (`Compiler.not_hasClause_anyText`).
-/

namespace CatalogQuery

/-- The query looks for a term in each of the fields, in their order. -/
def Fragment.SearchesFields (f : Fragment) (fields : List Text) (term : Text) : Prop :=
  f.query = Compiler.clauses fields term ∨
    ∃ field, fields = [field] ∧ f.query = Compiler.clause field term

/-- The query looks for a term in some field. -/
def Fragment.HasClause (f : Fragment) (term : Text) : Prop :=
  ∃ field, Compiler.clause field term <:+: f.query

namespace Compiler

variable {c : Compiler} {f : Fragment} {fields : List Text} {term : Text}

/-! ## Clauses -/

theorem colon_mem_clause (field term : Text) : ':' ∈ clause field term := by
  simp [clause]

/-- Every field has its clause in the query. -/
theorem infix_clauses {field : Text} (h : field ∈ fields) (term : Text) :
    clause field term <:+: clauses fields term := by
  have hjoin : clause field term <:+: Text.join [' '] (fields.map fun x => clause x term) :=
    Text.infix_join [' '] (List.mem_map_of_mem h)
  exact hjoin.trans ⟨['('], [')'], rfl⟩

/-- An empty group has no clause in it. -/
theorem not_infix_clauses_nil (field term other : Text) :
    ¬clause field term <:+: clauses [] other := by
  intro h
  have hcolon : ':' ∈ "()".toList := h.subset (colon_mem_clause field term)
  exact absurd hcolon (by decide)

theorem hasClause_iff (h : f.SearchesFields fields term) : f.HasClause term ↔ fields ≠ [] := by
  rcases h with h | ⟨field, rfl, h⟩
  · cases fields with
    | nil =>
        refine iff_of_false ?_ (fun hne => hne rfl)
        rintro ⟨field, hfield⟩
        rw [h] at hfield
        exact not_infix_clauses_nil field term term hfield
    | cons x xs =>
        refine iff_of_true ⟨x, ?_⟩ (List.cons_ne_nil x xs)
        rw [h]
        exact infix_clauses List.mem_cons_self term
  · exact iff_of_true ⟨field, [], [], by simp [h]⟩ (List.cons_ne_nil field [])

/-! ## Searches for text -/

theorem searchesFields_searchQuery (c : Compiler) (s : TextSearch) :
    Fragment.SearchesFields { query := c.searchQuery s } (c.searchedFields s) s.term := by
  unfold searchQuery searchedFields
  cases c.isByWords s with
  | true => exact Or.inl rfl
  | false => exact Or.inr ⟨c.plainField s, rfl, rfl⟩

/-- Only in any text there may be no field to search. -/
theorem searchedFields_eq_nil_iff (c : Compiler) (s : TextSearch) :
    c.searchedFields s = [] ↔ c.isAnyText s.property = true ∧ c.schema.anyText = [] := by
  unfold searchedFields isByWords wordFields
  cases c.isAnyText s.property with
  | true => simp
  | false =>
      rw [Bool.or_false]
      split <;> simp

/-- A search for text succeeds just if it has its inputs, whatever fields there are. Its query has
one clause for each field that is searched, in the order of the schema, and no clause at all if and
only if the search is for any text and the schema has no field for that. -/
theorem searchesFields_textSearch (c : Compiler) (s : TextSearch) :
    ((∃ f, (c.compile s.predicate).result = .ok f) ↔ s.HasInputs) ∧
    ∀ f, (c.compile s.predicate).result = .ok f →
      f.SearchesFields (c.searchedFields s) s.term ∧
      (f.HasClause s.term ↔ ¬(c.isAnyText s.property = true ∧ c.schema.anyText = [])) := by
  constructor
  · constructor
    · rintro ⟨f, hf⟩
      exact (result_textSearch_eq_ok_iff.mp hf).1
    · intro h
      exact ⟨_, result_textSearch_eq_ok_iff.mpr ⟨h, rfl⟩⟩
  · intro f hf
    obtain ⟨-, rfl⟩ := result_textSearch_eq_ok_iff.mp hf
    have hfields := searchesFields_searchQuery c s
    refine ⟨hfields, ?_⟩
    rw [hasClause_iff hfields, ne_eq, searchedFields_eq_nil_iff]

/-- A compiler for an index with free text in two fields. -/
def twoTexts : Compiler :=
  { direct with schema := { direct.schema with
      whitespaceTokenized := fun field => field ++ "_ws".toList
      anyText := ["title".toList, "body".toList] } }

/-- A pattern in any text is looked for in both fields. -/
theorem searchesFields_textSearch_twoTexts :
    (twoTexts.compile (.like "anyText".toList "ru?t".toList false)).result
      = .ok ⟨"(title_ws:(ru?t) body_ws:(ru?t))".toList, []⟩ ∧
    Fragment.SearchesFields ⟨"(title_ws:(ru?t) body_ws:(ru?t))".toList, []⟩
      ["title_ws".toList, "body_ws".toList] "(ru?t)".toList ∧
    Fragment.HasClause ⟨"(title_ws:(ru?t) body_ws:(ru?t))".toList, []⟩ "(ru?t)".toList := by
  have hresult : (twoTexts.compile (.like "anyText".toList "ru?t".toList false)).result
      = .ok ⟨"(title_ws:(ru?t) body_ws:(ru?t))".toList, []⟩ := rfl
  obtain ⟨-, hsearch⟩ :=
    searchesFields_textSearch twoTexts (.like "anyText".toList "ru?t".toList false)
  obtain ⟨hfields, hclause⟩ := hsearch _ hresult
  exact ⟨hresult, hfields, hclause.mpr (by decide)⟩

/-- Without fields for free text the query of a search in any text is an empty group. -/
theorem not_hasClause_anyText :
    direct.schema.anyText = [] ∧
    (direct.compile (.like "anyText".toList "rust".toList false)).result
      = .ok ⟨"()".toList, []⟩ ∧
    ¬Fragment.HasClause ⟨"()".toList, []⟩ (patternTerm "rust".toList) := by
  refine ⟨rfl, rfl, ?_⟩
  rintro ⟨field, hfield⟩
  exact not_infix_clauses_nil field _ [] hfield

end Compiler
end CatalogQuery
