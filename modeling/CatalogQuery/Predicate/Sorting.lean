import CatalogQuery.Index.Fields
import CatalogQuery.Predicate.Event
import CatalogQuery.Query.Fragment

/-!
# Sorting by distance

While predicates are compiled one after another, the compiler records the position from which the
results shall be sorted by distance: the reference position of a search by location, when the
requested order is the order by distance, or is by the very property that is searched. A position
stays recorded until another one is.

The requested order decides what is recorded and reported, never how a predicate is compiled.
`apartFromSorting` takes out of a compiler and of an answer what has to do with the order.

* `Compiler.recordReference`: what a search by location records, nothing or its reference position
  (`recordReference_cases`);
* `Compiler.apartFromSorting_recordReference`, `filter_log_recordReference`: nothing else changes,
  and nothing else is reported.
-/

namespace CatalogQuery

/-- The answer to a predicate, with what happened on the way. -/
structure Answer where
  result : Except CompileError Fragment
  log : List Event := []

/-- What comes of compiling a predicate: the answer, and the compiler as it is afterwards. -/
structure Compiled extends Answer where
  after : Compiler

/-- Does an event report how the results are sorted? -/
def Event.isSorting : Event → Bool
  | .sortingByDistance _ _ => true
  | _ => false

/-- An answer without the events that report how the results are sorted. -/
def Answer.apartFromSorting (a : Answer) : Answer := { a with log := a.log.filter (!·.isSorting) }

namespace Compiler

/-- An answer that leaves the compiler as it is. -/
def answering (c : Compiler) (result : Except CompileError Fragment) : Compiled :=
  { result, after := c }

@[simp] theorem result_answering (c : Compiler) (result : Except CompileError Fragment) :
    (c.answering result).result = result := rfl

/-- Shall results of a search in a property be sorted by distance? -/
def sortsBy (c : Compiler) (property : Text) : Bool :=
  c.sortBy.any fun by_ => by_.property == c.settings.distanceProperty || by_.property == property

/-- Record a position, and report it, if results of a search in the property are sorted by
distance. -/
def recordPosition (c : Compiler) (property : Text) (at_ : Coord) : List Event × Compiler :=
  if c.sortsBy property then
    ([.sortingByDistance at_ property], { c with distancePoint := some at_ })
  else ([], c)

/-- Record the reference position of a search, if it has one. -/
def recordReference (c : Compiler) (property : Text) : Option Coord → List Event × Compiler
  | none => ([], c)
  | some at_ => c.recordPosition property at_

/-- A compiler without what it remembers of the order. -/
def apartFromSorting (c : Compiler) : Compiler :=
  { c with sortBy := none, distancePoint := none }

variable {c d : Compiler} {property : Text} {at_ : Coord} {reference : Option Coord}

/-- Compilers for the same index, with the same settings and library, differ by the order only. -/
theorem apartFromSorting_congr (hschema : c.schema = d.schema) (hsettings : c.settings = d.settings)
    (hdraw : c.draw = d.draw) : c.apartFromSorting = d.apartFromSorting := by
  rw [apartFromSorting, apartFromSorting, hschema, hsettings, hdraw]

theorem settings_congr (h : c.apartFromSorting = d.apartFromSorting) : c.settings = d.settings := by
  have hsettings : c.apartFromSorting.settings = d.apartFromSorting.settings := by rw [h]
  exact hsettings

theorem draw_congr (h : c.apartFromSorting = d.apartFromSorting) : c.draw = d.draw := by
  have hdraw : c.apartFromSorting.draw = d.apartFromSorting.draw := by rw [h]
  exact hdraw

theorem recordPosition_of_sorts (h : c.sortsBy property = true) (at_ : Coord) :
    c.recordPosition property at_
      = ([.sortingByDistance at_ property], { c with distancePoint := some at_ }) :=
  if_pos h

/-- A search records nothing, or its reference position if results are sorted by distance. -/
theorem recordReference_cases (c : Compiler) (property : Text) (reference : Option Coord) :
    c.recordReference property reference = ([], c) ∨
      ∃ at_, reference = some at_ ∧ c.sortsBy property = true ∧
        c.recordReference property reference
          = ([.sortingByDistance at_ property], { c with distancePoint := some at_ }) := by
  cases reference with
  | none => exact Or.inl rfl
  | some at_ =>
      cases h : c.sortsBy property with
      | true => exact Or.inr ⟨at_, rfl, rfl, recordPosition_of_sorts h at_⟩
      | false => exact Or.inl (if_neg (by simp [h]))

theorem apartFromSorting_recordReference (c : Compiler) (property : Text)
    (reference : Option Coord) :
    (c.recordReference property reference).2.apartFromSorting = c.apartFromSorting := by
  rcases c.recordReference_cases property reference with h | ⟨at_, -, -, h⟩
  · rw [h]
  · rw [h]
    rfl

/-- Nothing is reported but how the results are sorted. -/
theorem filter_log_recordReference {keep : Event → Bool}
    (hkeep : ∀ at_, keep (.sortingByDistance at_ property) = false) (c : Compiler)
    (reference : Option Coord) : (c.recordReference property reference).1.filter keep = [] := by
  rcases c.recordReference_cases property reference with h | ⟨at_, -, -, h⟩
  · rw [h]
    rfl
  · rw [h]
    exact List.filter_eq_nil_iff.mpr (by simp [hkeep])

end Compiler
end CatalogQuery
