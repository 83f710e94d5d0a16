import CatalogQuery.Geometry.Wkt.Reader
import CatalogQuery.Query.Connective

/-!
# Why a predicate is not compiled

Each cause has a kind, which callers tell apart, and a message, which tells what was wrong with
which input.
-/

namespace CatalogQuery

/-- Why there is no shape to search with. -/
inductive ShapeFault where
  | unreadable (why : Wkt.ReadError)
  | noCentroid
  deriving DecidableEq, Repr

/-- Why a predicate is not compiled. -/
inductive CompileError where
  | propertyRequired
  | literalRequired
  | pathRequired
  | wktRequired
  | termsRequired
  | emptyGroup (connective : Connective)
  | emptyMember (connective : Connective)
  | emptyNegation
  | badDistance (meters : Float)
  | durationOutOfRange (millis : Int)
  | caseInsensitiveEquality
  | noVariants (property : Text)
  | unknownProperty (property : Text)
  | badShape (wkt : Text) (fault : ShapeFault)

/-- The kinds of errors. -/
inductive ErrorKind where
  | invalidArgument
  | unsupportedPredicate
  | geometry
  deriving DecidableEq, Repr

/-- What is wrong with a shape. -/
def ShapeFault.reason : ShapeFault → Text
  | .unreadable why => "Invalid WKT: ".toList ++ why.reason
  | .noCentroid => "geometry has no centroid".toList

namespace CompileError

/-- The kind of an error. -/
def kind : CompileError → ErrorKind
  | caseInsensitiveEquality => .unsupportedPredicate
  | noVariants _ => .unsupportedPredicate
  | unknownProperty _ => .unsupportedPredicate
  | badShape _ _ => .geometry
  | _ => .invalidArgument

@[simp] theorem kind_propertyRequired : propertyRequired.kind = .invalidArgument := rfl

@[simp] theorem kind_wktRequired : wktRequired.kind = .invalidArgument := rfl

@[simp] theorem kind_badDistance (meters : Float) :
    (badDistance meters).kind = .invalidArgument := rfl

@[simp] theorem kind_badShape (wkt : Text) (fault : ShapeFault) :
    (badShape wkt fault).kind = .geometry := rfl

/-- What is wrong, without the kind. -/
def detail : CompileError → Text
  | propertyRequired => "property name is required for search".toList
  | literalRequired => "literal value is required for search".toList
  | pathRequired => "xpath expression is required for search".toList
  | wktRequired => "WKT should not be empty".toList
  | termsRequired => "fuzzy phrase has no terms".toList
  | emptyGroup c =>
      '[' :: c.keyword ++ "] operation must contain 1 or more filters".toList
  | emptyMember c => '[' :: c.keyword ++ "] operation received an empty operand".toList
  | emptyNegation => "[NOT] operation received an empty operand".toList
  | badDistance d =>
      "distance must be a finite, non-negative number of meters: ".toList ++ Decimal.double d
  | durationOutOfRange ms =>
      "relative duration out of range: ".toList ++ Decimal.integer ms ++ "ms".toList
  | caseInsensitiveEquality => "case insensitive exact searches are not supported".toList
  | noVariants p => "property '".toList ++ p ++ "' has no indexed field variants".toList
  | unknownProperty p => "anonymous field property does not exist: ".toList ++ p
  | badShape wkt fault => '\'' :: wkt ++ "': ".toList ++ fault.reason

/-- The words before what is wrong. -/
def opening : ErrorKind → Text
  | .invalidArgument => "Invalid argument: ".toList
  | .unsupportedPredicate => "Unsupported predicate: ".toList
  | .geometry => "Unable to read WKT ".toList

/-- The message of an error. -/
def message (e : CompileError) : Text := opening e.kind ++ e.detail

end CompileError
end CatalogQuery
