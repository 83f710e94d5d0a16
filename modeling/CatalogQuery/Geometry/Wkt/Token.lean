import CatalogQuery.Decimal.Reading

/-!
# Tokens of well-known text

Well-known text is made of parentheses, commas, numbers and words, with white space between them:
spaces, tabs and ends of lines. Whatever begins with a digit, a sign or a point is a number or an
error; whatever else stands between the other tokens is a word. A null character is the end of the
text for whoever meets it, but what follows it is there for the next one.
-/

namespace CatalogQuery
namespace Wkt

/-- A token of well-known text. -/
inductive Token where
  | opening
  | closing
  | comma
  | number (x : Float)
  /-- Something that begins like a number and is none. -/
  | badNumber
  | word (w : Text)
  /-- A null character, which stands for the end of the text. -/
  | null

/-- White space between tokens. -/
def isSpace (c : Char) : Bool := c == ' ' || c == '\t' || c == '\r' || c == '\n'

/-- The tokens of one character. -/
def punctuation? : Char → Option Token
  | '(' => some .opening
  | ')' => some .closing
  | ',' => some .comma
  | '\x00' => some .null
  | _ => none

/-- Does a number begin with this character? -/
def beginsNumber (c : Char) : Bool := c == '.' || c == '-' || c == '+' || c.isDigit

/-- A number, of which one plus sign may be dropped. -/
def numberToken (t : Text) : Token :=
  match Decimal.double? (if t.head? = some '+' then t.drop 1 else t) with
  | some x => .number x
  | none => .badNumber

/-- The token made of a run of characters, if there are any. -/
def runToken : Text → List Token
  | [] => []
  | c :: r => if beginsNumber c then [numberToken (c :: r)] else [.word (c :: r)]

/-- The tokens of a text after a run of characters that may go on. -/
def tokensFrom (run : Text) : Text → List Token
  | [] => runToken run
  | c :: r =>
    if isSpace c then runToken run ++ tokensFrom [] r
    else
      match punctuation? c with
      | some t => runToken run ++ t :: tokensFrom [] r
      | none => tokensFrom (run ++ [c]) r

/-- The tokens of a text. -/
def tokens (t : Text) : List Token := tokensFrom [] t

/-- The token of a decimal literal. -/
theorem numberToken_eq {t : Text} {l : Decimal.Literal} (hsign : t.head? ≠ some '+')
    (h : Decimal.read? t = some (.literal l)) : numberToken t = .number l.toDouble := by
  rw [numberToken, if_neg hsign, Decimal.double?, h]
  rfl

end Wkt
end CatalogQuery
