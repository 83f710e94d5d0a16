import CatalogQuery.Predicate.Event
import CatalogQuery.Query.Merge

/-!
# Groups and negations

The members of a group are fragments. Their queries are joined in order by the connective, within
parentheses, and their filters are merged. A negation keeps the query only: a filter cannot be
negated from inside a query.
-/

namespace CatalogQuery
namespace Group

/-- Join the members of a group. -/
def combine (c : Connective) (operands : List Fragment) : Except CompileError Fragment :=
  if operands = [] then .error (.emptyGroup c)
  else if operands.any fun f => Text.isBlank f.query then .error (.emptyMember c)
  else
    .ok {
      query := Connective.group c.keyword (operands.map Fragment.query)
      filters := Merge.filters operands c }

/-- The events of joining the members of a group. -/
def events (c : Connective) (operands : List Fragment) : List Event :=
  (match Merge.dropped operands with
    | some (indexes, paths) => [.droppedIndexFilters indexes paths]
    | none => []) ++ [.combined operands.length c]

/-- Negate a fragment. -/
def negate (operand : Fragment) : Except CompileError Fragment :=
  if Text.isBlank operand.query then .error .emptyNegation
  else .ok { query := "NOT ".toList ++ operand.query }

/-! ## When there is a result -/

variable {operands : List Fragment} {f operand : Fragment} {e : CompileError}

/-- Joining succeeds for members that all say something, and gives their queries and their filters,
joined. -/
theorem combine_eq_ok_iff {c : Connective} :
    combine c operands = .ok f ↔ operands ≠ [] ∧ (∀ g ∈ operands, Text.isBlank g.query = false) ∧
      f = ⟨Connective.group c.keyword (operands.map Fragment.query), Merge.filters operands c⟩ := by
  unfold combine
  split
  · next hnil => simp [hnil]
  · next hne =>
    split
    · next hany =>
      obtain ⟨g, hg, hblank⟩ := List.any_eq_true.mp hany
      constructor
      · rintro ⟨⟩
      · rintro ⟨-, hall, -⟩
        rw [hall g hg] at hblank
        cases hblank
    · next hany =>
      have hall : ∀ g ∈ operands, Text.isBlank g.query = false := by simpa using hany
      constructor
      · rintro ⟨⟩
        exact ⟨hne, hall, rfl⟩
      · rintro ⟨-, -, rfl⟩
        rfl

theorem combine_eq_ok (c : Connective) (hne : operands ≠ [])
    (hq : ∀ g ∈ operands, Text.isBlank g.query = false) :
    combine c operands
      = .ok ⟨Connective.group c.keyword (operands.map Fragment.query), Merge.filters operands c⟩ :=
  combine_eq_ok_iff.mpr ⟨hne, hq, rfl⟩

/-- Joining fails for no members at all, and for a member that says nothing. -/
theorem combine_eq_error_iff {c : Connective} :
    combine c operands = .error e ↔
      operands = [] ∧ e = .emptyGroup c ∨
        (∃ g ∈ operands, Text.isBlank g.query = true) ∧ e = .emptyMember c := by
  unfold combine
  split
  · next hnil =>
    constructor
    · rintro ⟨⟩
      exact Or.inl ⟨hnil, rfl⟩
    · rintro (⟨-, rfl⟩ | ⟨⟨g, hg, -⟩, -⟩)
      · rfl
      · exact absurd hnil (List.ne_nil_of_mem hg)
  · next hne =>
    split
    · next hany =>
      constructor
      · rintro ⟨⟩
        exact Or.inr ⟨List.any_eq_true.mp hany, rfl⟩
      · rintro (⟨hnil, -⟩ | ⟨-, rfl⟩)
        · exact absurd hnil hne
        · rfl
    · next hany =>
      constructor
      · rintro ⟨⟩
      · rintro (⟨hnil, -⟩ | ⟨hblank, -⟩)
        · exact absurd hnil hne
        · exact absurd (List.any_eq_true.mpr hblank) hany

/-- Both are wrong arguments. -/
theorem kind_of_combine_eq_error {c : Connective} (h : combine c operands = .error e) :
    e.kind = .invalidArgument := by
  rcases combine_eq_error_iff.mp h with ⟨-, rfl⟩ | ⟨-, rfl⟩
  · rfl
  · rfl

/-- Negating succeeds for a fragment that says something. -/
theorem negate_eq_ok_iff :
    negate operand = .ok f ↔
      Text.isBlank operand.query = false ∧ f = { query := "NOT ".toList ++ operand.query } := by
  unfold negate
  split
  · next hblank => simp [hblank]
  · next hblank =>
    constructor
    · rintro ⟨⟩
      exact ⟨by simpa using hblank, rfl⟩
    · rintro ⟨-, rfl⟩
      rfl

/-- Negating fails for a fragment that says nothing. -/
theorem negate_eq_error_iff :
    negate operand = .error e ↔ Text.isBlank operand.query = true ∧ e = .emptyNegation := by
  unfold negate
  split
  · next hblank =>
    constructor
    · rintro ⟨⟩
      exact ⟨hblank, rfl⟩
    · rintro ⟨-, rfl⟩
      rfl
  · next hblank =>
    constructor
    · rintro ⟨⟩
    · rintro ⟨hyes, -⟩
      exact absurd hyes hblank

theorem kind_of_negate_eq_error (h : negate operand = .error e) : e.kind = .invalidArgument := by
  obtain ⟨-, rfl⟩ := negate_eq_error_iff.mp h
  rfl

end Group
end CatalogQuery
