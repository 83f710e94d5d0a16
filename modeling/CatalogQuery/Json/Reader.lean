import CatalogQuery.Decimal.Reading
import CatalogQuery.Json.Value

/-!
# Reading JSON

`read?` reads a whole text as one value. Values are read by functions that return what is left of
the text; each level of the recursion takes a character at least, so the length of the text bounds
its depth.
-/

namespace CatalogQuery
namespace Json

/-! ## Strings -/

/-- The value of a hexadecimal digit. -/
def hexDigit? (c : Char) : Option Nat :=
  if '0' ≤ c ∧ c ≤ '9' then some (c.toNat - '0'.toNat)
  else if 'a' ≤ c ∧ c ≤ 'f' then some (c.toNat - 'a'.toNat + 10)
  else if 'A' ≤ c ∧ c ≤ 'F' then some (c.toNat - 'A'.toNat + 10)
  else none

/-- The value of four hexadecimal digits. -/
def hexUnit? (a b c d : Char) : Option Nat := do
  let a ← hexDigit? a
  let b ← hexDigit? b
  let c ← hexDigit? c
  let d ← hexDigit? d
  pure (((a * 16 + b) * 16 + c) * 16 + d)

/-- The character that a short escape stands for. -/
def shortEscape? : Char → Option Char
  | '"' => some '"'
  | '\\' => some '\\'
  | '/' => some '/'
  | 'b' => some '\x08'
  | 'f' => some '\x0c'
  | 'n' => some '\n'
  | 'r' => some '\r'
  | 't' => some '\t'
  | _ => none

/-- A part of a string: a character, or a 16-bit unit given by an escape. -/
inductive Piece where
  | char (c : Char)
  | unit (n : Nat)
  deriving DecidableEq, Repr

/-- The parts of a string up to its closing quote, and what follows. -/
def readPieces : Text → Option (List Piece × Text)
  | [] => none
  | '"' :: r => some ([], r)
  | '\\' :: 'u' :: a :: b :: c :: d :: r => do
    let n ← hexUnit? a b c d
    let (ps, rest) ← readPieces r
    pure (.unit n :: ps, rest)
  | '\\' :: e :: r => do
    let c ← shortEscape? e
    let (ps, rest) ← readPieces r
    pure (.char c :: ps, rest)
  | c :: r =>
    if c.toNat < 0x20 ∨ c = '\\' then none
    else do
      let (ps, rest) ← readPieces r
      pure (.char c :: ps, rest)

/-- The text of the parts of a string; none when a unit is half of a surrogate pair without the
other half. -/
def assemble : List Piece → Option Text
  | [] => some []
  | .char c :: r => (assemble r).map (c :: ·)
  | .unit n :: .unit m :: r =>
    if 0xD800 ≤ n ∧ n < 0xDC00 then
      if 0xDC00 ≤ m ∧ m < 0xE000 then
        (assemble r).map (Char.ofNat (0x10000 + (n - 0xD800) * 0x400 + (m - 0xDC00)) :: ·)
      else none
    else if 0xDC00 ≤ n ∧ n < 0xE000 then none
    else (assemble (.unit m :: r)).map (Char.ofNat n :: ·)
  | .unit n :: r =>
    if 0xD800 ≤ n ∧ n < 0xE000 then none else (assemble r).map (Char.ofNat n :: ·)

/-- A string behind its opening quote, and what follows. -/
def readString (t : Text) : Option (Option Text × Text) :=
  (readPieces t).map fun p => (assemble p.1, p.2)

/-! ## Numbers -/

/-- The digits behind a point, if a point is next, and the rest. At least one digit follows a
point. -/
def readFraction : Text → Option (Text × Text)
  | '.' :: r =>
    let (digits, rest) := Decimal.digitsAndRest r
    if digits.isEmpty then none else some (digits, rest)
  | t => some ([], t)

/-- The exponent, if one is next, and the rest. At least one digit follows its mark. -/
def readExponent : Text → Option (Option Int × Text)
  | [] => some (none, [])
  | c :: r =>
    if c = 'e' ∨ c = 'E' then
      let (negative, r) := Decimal.signAndRest r
      let (digits, rest) := Decimal.digitsAndRest r
      if digits.isEmpty then none
      else
        let n : Int := Decimal.value digits
        some (some (if negative then -n else n), rest)
    else some (none, c :: r)

/-- An unsigned number, and what follows. A zero at its front stands alone. -/
def readNumeral (negative : Bool) (t : Text) : Option (Numeral × Text) := do
  let (whole, r) := Decimal.digitsAndRest t
  if whole.isEmpty || (whole.head? = some '0' && whole.length ≠ 1) then none
  else
    let (fraction, r) ← readFraction r
    let (exponent, r) ← readExponent r
    pure (⟨negative, whole, fraction, exponent⟩, r)

/-! ## Values -/

/-- A member of an object up to the colon behind its name, and what follows. -/
def readName (t : Text) : Option (Option Text × Text) :=
  match skipSpace t with
  | '"' :: r => do
    let (name, r) ← readString r
    match skipSpace r with
    | ':' :: r => pure (name, r)
    | _ => none
  | _ => none

mutual

/-- A value, and what follows, with at most so many levels. -/
def readValue : Nat → Text → Option (Value × Text)
  | 0, _ => none
  | n + 1, t =>
    match skipSpace t with
    | '"' :: r => (readString r).map fun p => (.string p.1, p.2)
    | '-' :: r => (readNumeral true r).map fun p => (.number p.1, p.2)
    | '[' :: r =>
      match skipSpace r with
      | ']' :: r => some (.array [], r)
      | _ => (readItems n r).map fun p => (.array p.1, p.2)
    | '\x7b' :: r =>
      match skipSpace r with
      | '\x7d' :: r => some (.object [], r)
      | _ => (readMembers n r).map fun p => (.object p.1, p.2)
    | 'n' :: r => (Text.afterFront "ull".toList r).map fun r => (.null, r)
    | 't' :: r => (Text.afterFront "rue".toList r).map fun r => (.bool true, r)
    | 'f' :: r => (Text.afterFront "alse".toList r).map fun r => (.bool false, r)
    | r => (readNumeral false r).map fun p => (.number p.1, p.2)

/-- The items of an array up to its closing bracket, one at least, and what follows. -/
def readItems : Nat → Text → Option (List Value × Text)
  | 0, _ => none
  | n + 1, t => do
    let (v, r) ← readValue n t
    match skipSpace r with
    | ',' :: r => (readItems n r).map fun p => (v :: p.1, p.2)
    | ']' :: r => some ([v], r)
    | _ => none

/-- The members of an object up to its closing bracket, one at least, and what follows. -/
def readMembers : Nat → Text → Option (List (Option Text × Value) × Text)
  | 0, _ => none
  | n + 1, t => do
    let (name, r) ← readName t
    let (v, r) ← readValue n r
    match skipSpace r with
    | ',' :: r => (readMembers n r).map fun p => ((name, v) :: p.1, p.2)
    | '\x7d' :: r => some ([(name, v)], r)
    | _ => none

end

/-- A whole text as one value. -/
def read? (t : Text) : Option Value := do
  let (v, r) ← readValue (t.length + 1) t
  if (skipSpace r).isEmpty then some v else none

end Json
end CatalogQuery
