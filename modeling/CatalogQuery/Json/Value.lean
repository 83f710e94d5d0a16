import CatalogQuery.Text.Basic

/-!
# JSON values

A JSON text is read into a tree first, in which numbers keep their digits. An escape may name half
of a surrogate pair, which is no character: such a string is part of the tree, as none, but no
text can be taken from it.
-/

namespace CatalogQuery
namespace Json

/-- A number as it is written: a sign, digits, digits behind a point, and an exponent if there is
one. -/
structure Numeral where
  negative : Bool
  whole : Text
  fraction : Text
  exponent : Option Int
  deriving DecidableEq, Repr

/-- A JSON value. -/
inductive Value where
  | null
  | bool (b : Bool)
  | number (n : Numeral)
  | string (text : Option Text)
  | array (items : List Value)
  | object (members : List (Option Text × Value))

/-- The white space of JSON. -/
def isSpace (c : Char) : Bool := c == ' ' || c == '\t' || c == '\n' || c == '\r'

/-- A text without the white space at its front. -/
def skipSpace (t : Text) : Text := t.dropWhile isSpace

end Json
end CatalogQuery
