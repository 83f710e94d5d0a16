import CatalogQuery.Predicate.Error

/-!
# Events

What the compiler reports while it works, beside its answer.
-/

namespace CatalogQuery

/-- Something worth a line in a log. -/
inductive Event where
  /-- A geometry text was not read and goes into the query as it is. -/
  | unreadableShape (wkt : Text) (why : Wkt.ReadError)
  /-- Index filters were dropped because paths were folded. -/
  | droppedIndexFilters (indexes paths : Nat)
  /-- So many members were joined to a group. -/
  | combined (members : Nat) (connective : Connective)
  /-- The results are sorted by their distance from a position. -/
  | sortingByDistance (from_ : Coord) (property : Text)

namespace Event

/-- The level of an event. -/
def level : Event → Text
  | unreadableShape _ _ => "INFO".toList
  | _ => "DEBUG".toList

/-- The text of an event. -/
def text : Event → Text
  | unreadableShape wkt why =>
      "Failed to read WKT: ".toList ++ wkt ++ " (".toList ++
        (CompileError.badShape wkt (.unreadable why)).message ++ [')']
  | droppedIndexFilters n m =>
      "Dropping ".toList ++ Decimal.natural n ++ " xpath index filter(s) while merging ".toList ++
        Decimal.natural m ++ " xpath filters".toList
  | combined n c =>
      "Combined ".toList ++ Decimal.natural n ++ " operand(s) with ".toList ++ c.keyword
  | sortingByDistance p property =>
      "Sorting by distance from ".toList ++ p.latLon ++ " on '".toList ++ property ++ ['\'']

end Event
end CatalogQuery
