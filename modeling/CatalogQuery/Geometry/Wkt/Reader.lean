import CatalogQuery.Geometry.Basic
import CatalogQuery.Geometry.Wkt.Token

/-!
# Reading well-known text

A geometry is a word for its kind, possibly a mark for extra dimensions, and its parts in
parentheses, or the word `EMPTY`. Words are read in any ASCII case, and what follows the geometry
is ignored. Extra dimensions are read and dropped.

A `Reader` keeps the tokens that are left also when it fails: an error inside parentheses is
reported only if the closing parenthesis comes next, otherwise that is missing.
-/

namespace CatalogQuery
namespace Wkt

/-! ## Errors -/

/-- The axes of a coordinate. -/
inductive Axis where
  | x
  | y
  | z
  | m
  deriving DecidableEq, Repr

/-- Why a text is not a geometry. -/
inductive ReadError where
  | noGeometry
  | foreignWord
  | unknownKind
  | endOfText
  | unexpectedWord
  | missingOpening
  | missingClosing
  | expectedNumber (axis : Axis)
  | expectedMember
  | badNumber
  deriving DecidableEq, Repr

/-- The letter of an axis. -/
def Axis.letter : Axis → Text
  | .x => ['X']
  | .y => ['Y']
  | .z => ['Z']
  | .m => ['M']

/-- What is wrong with a text. -/
def ReadError.reason : ReadError → Text
  | .noGeometry => "Invalid WKT format".toList
  | .foreignWord => "Encountered non-ascii word".toList
  | .unknownKind => "Invalid type encountered".toList
  | .endOfText => "End of stream".toList
  | .unexpectedWord => "Unexpected word before open paren".toList
  | .missingOpening => "Missing open parenthesis for type".toList
  | .missingClosing => "Missing closing parenthesis for type".toList
  | .expectedNumber a => "Expected a number for the ".toList ++ a.letter ++ " coordinate".toList
  | .expectedMember => "Expected a word in GEOMETRYCOLLECTION".toList
  | .badNumber => "Unable to parse input number as the desired output type".toList

/-! ## Readers -/

/-- A reader takes tokens from the front and leaves the others, also when it fails. -/
def Reader (α : Type) := List Token → Except ReadError α × List Token

instance : Monad Reader where
  pure a := fun ts => (.ok a, ts)
  bind p f := fun ts =>
    match p ts with
    | (.ok a, r) => f a r
    | (.error e, r) => (.error e, r)

namespace Reader

/-- Fail and take nothing. -/
def fail {α : Type} (e : ReadError) : Reader α := fun ts => (.error e, ts)

/-- The next token, taken; none at the end, or for a null character. A bad number is an error
wherever it is taken. -/
def take : Reader (Option Token) := fun ts =>
  match ts with
  | [] => (.ok none, [])
  | .null :: r => (.ok none, r)
  | .badNumber :: r => (.error .badNumber, r)
  | t :: r => (.ok (some t), r)

/-- The next token, left in place. -/
def peek : Reader (Option Token) := fun ts =>
  match ts with
  | .null :: _ => (.ok none, ts)
  | _ => (.ok ts.head?, ts)

/-- The number of tokens left. -/
def remaining : Reader Nat := fun ts => (.ok ts.length, ts)

/-- Is a word a given one, in any ASCII case? -/
def isWord (w : Text) (given : Text) : Bool := Text.upperAscii given == w

/-- A part in parentheses, or the word for an empty one. What `body` finds, its error included,
counts only if the closing parenthesis comes next. -/
def parens {α : Type} (empty : α) (body : Reader α) : Reader α := do
  match ← take with
  | some .opening =>
    fun ts =>
      let (found, r) := body ts
      match take r with
      | (.ok (some .closing), r) => (found, r)
      | (.error e, r) => (.error e, r)
      | (.ok _, r) => (.error .missingClosing, r)
  | some (.word w) => if isWord "EMPTY".toList w then pure empty else fail .missingOpening
  | _ => fail .missingOpening

/-- More items, each behind a comma. Each takes a token at least, so `bound` tokens hold at most
so many. -/
def moreItems {α : Type} (item : Reader α) : Nat → Reader (List α)
  | 0 => pure []
  | bound + 1 => do
    match ← peek with
    | some .comma =>
      let _ ← take
      let a ← item
      let as ← moreItems item bound
      pure (a :: as)
    | _ => pure []

/-- Items with commas between them, one at least. -/
def items {α : Type} (item : Reader α) : Reader (List α) := do
  let a ← item
  let as ← moreItems item (← remaining)
  pure (a :: as)

end Reader

open Reader

/-! ## Coordinates -/

/-- A number on an axis. -/
def number (a : Axis) : Reader Float := do
  match ← take with
  | some (.number x) => pure x
  | _ => fail (.expectedNumber a)

/-- Numbers on further axes, dropped. -/
def further : List Axis → Reader Unit
  | [] => pure ()
  | a :: as => do
    let _ ← number a
    further as

/-- A position, with its further axes dropped. -/
def coordinate (axes : List Axis) : Reader Coord := do
  let x ← number .x
  let y ← number .y
  further axes
  pure ⟨x, y⟩

/-- The positions of a line or ring. -/
def line (axes : List Axis) : Reader (List Coord) := parens [] (items (coordinate axes))

/-- The rings of a polygon, or the lines of a set of lines. -/
def lines (axes : List Axis) : Reader (List (List Coord)) := parens [] (items (line axes))

/-- A member of a set of points: a position, in parentheses or not. -/
def memberPoint (axes : List Axis) : Reader Coord := do
  match ← peek with
  | some .opening => parens Coord.zero (coordinate axes)
  | _ => coordinate axes

/-! ## Kinds -/

/-- The kinds of geometries that have a word. -/
inductive Kind where
  | point
  | lineString
  | polygon
  | multiPoint
  | multiLineString
  | multiPolygon
  | collection
  deriving DecidableEq, Repr

/-- The words for kinds that may end with a mark for extra dimensions. -/
def kindWords : List (Text × Kind) :=
  [("POINT".toList, .point), ("LINESTRING".toList, .lineString), ("POLYGON".toList, .polygon),
   ("MULTIPOINT".toList, .multiPoint), ("MULTILINESTRING".toList, .multiLineString),
   ("MULTIPOLYGON".toList, .multiPolygon), ("GEOMETRYCOLLECTION".toList, .collection)]

/-- The marks for extra dimensions. -/
def axisMarks : List (Text × List Axis) := [(['Z'], [.z]), (['M'], [.m]), (['Z', 'M'], [.z, .m])]

/-- A word for a kind with every way to end it: no mark, which leaves the axes open, or one of the
marks. -/
def markedWords (entry : Text × Kind) : List (Text × Kind × Option (List Axis)) :=
  (entry.1, entry.2, none) ::
    axisMarks.map fun mark => (entry.1 ++ mark.1, entry.2, some mark.2)

/-- Every word for a kind, with the axes it fixes. -/
def words : List (Text × Kind × Option (List Axis)) :=
  ("LINEARRING".toList, .lineString, none) :: kindWords.flatMap markedWords

/-- The kind and the axes that a word stands for. -/
def kindOf? (w : Text) : Option (Kind × Option (List Axis)) := words.lookup (Text.upperAscii w)

/-- The further axes told by a mark that stands by itself, if one does. -/
def axisMark : Reader (List Axis) := do
  match ← peek with
  | none => fail .endOfText
  | some .badNumber => fail .endOfText
  | some (.word w) =>
    match axisMarks.lookup (Text.upperAscii w) with
    | some axes =>
      let _ ← take
      pure axes
    | none => if isWord "EMPTY".toList w then pure [] else fail .unexpectedWord
  | some _ => pure []

/-! ## Geometries -/

/-- A point, or the empty set of points when there is none. -/
def pointOrEmpty : Option Coord → Geometry
  | some c => .point c
  | none => .multiPoint []

/-- A geometry of a kind without members of other kinds. -/
def simpleGeometry (axes : List Axis) : Kind → Reader Geometry
  | .point => do
    pure (pointOrEmpty (← parens none (do pure (some (← coordinate axes)))))
  | .lineString => do pure (.lineString (← line axes))
  | .polygon => do pure (.polygon (.ofRings (← lines axes)))
  | .multiPoint => do pure (.multiPoint (← parens [] (items (memberPoint axes))))
  | .multiLineString => do pure (.multiLineString (← lines axes))
  | .multiPolygon => do
    pure (.multiPolygon ((← parens [] (items (lines axes))).map Polygon.ofRings))
  | .collection => fail .unknownKind

/-- The geometry that a word for its kind begins, given how the rest of a kind is read. -/
def geometryNamed (rest : Kind → List Axis → Reader Geometry) (w : Text) : Reader Geometry := do
  match kindOf? w with
  | none => fail .unknownKind
  | some (kind, some axes) => rest kind axes
  | some (kind, none) => rest kind (← axisMark)

/-- A member of a collection. -/
def member (rest : Kind → List Axis → Reader Geometry) : Reader Geometry := do
  match ← take with
  | some (.word w) => geometryNamed rest w
  | _ => fail .expectedMember

/-- The rest of a geometry behind the word for its kind, with at most `depth` collections within
each other. -/
def geometryRest : Nat → Kind → List Axis → Reader Geometry
  | depth + 1, .collection, _ => do
    pure (.collection (← parens [] (items (member (geometryRest depth)))))
  | _, kind, axes => simpleGeometry axes kind

/-- A geometry at the front of the tokens. -/
def geometry : Reader Geometry := do
  let depth ← remaining
  match ← take with
  | some (.word w) =>
    if w.all fun c => decide (c.toNat < 0x80) then geometryNamed (geometryRest depth) w
    else fail .foreignWord
  | _ => fail .noGeometry

/-- The geometry at the front of a text. -/
def read (t : Text) : Except ReadError Geometry := (geometry (tokens t)).1

end Wkt
end CatalogQuery
