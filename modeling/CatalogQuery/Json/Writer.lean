import CatalogQuery.Decimal.Layout
import CatalogQuery.Text.Basic

/-!
# Writing JSON

JSON is written without white space, the members of an object in a fixed order. Characters are
written as they are but for quotes, backslashes and control characters.
-/

namespace CatalogQuery
namespace Json

/-- A hexadecimal digit. -/
def hexChar (n : Nat) : Char := Nat.digitChar n

/-- A character inside a string. -/
def encodeChar (c : Char) : Text :=
  if c = '"' then ['\\', '"']
  else if c = '\\' then ['\\', '\\']
  else if c = '\x08' then ['\\', 'b']
  else if c = '\x0c' then ['\\', 'f']
  else if c = '\n' then ['\\', 'n']
  else if c = '\r' then ['\\', 'r']
  else if c = '\t' then ['\\', 't']
  else if c.toNat < 0x20 then
    ['\\', 'u', '0', '0', hexChar (c.toNat / 16), hexChar (c.toNat % 16)]
  else [c]

/-- A string. -/
def string (t : Text) : Text := '"' :: t.flatMap encodeChar ++ ['"']

/-- An array of values that are written already. -/
def array (items : List Text) : Text := '[' :: Text.join [','] items ++ [']']

/-- An object of values that are written already. -/
def object (members : List (Text × Text)) : Text :=
  '\x7b' :: Text.join [','] (members.map fun m => string m.1 ++ ':' :: m.2) ++ ['\x7d']

/-- A floating-point number; there is none for infinities and what is not a number. -/
def number (l : Decimal.Layout) (x : BinaryValue) : Text :=
  if x.isFinite then Decimal.render l x else "null".toList

end Json
end CatalogQuery
