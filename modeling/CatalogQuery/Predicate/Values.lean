import CatalogQuery.Index.Fields
import CatalogQuery.Query.Fragment
import CatalogQuery.Query.RangeClause
import CatalogQuery.Time.Instant
import CatalogQuery.Value.Number

/-!
# Comparisons of numbers, dates and truth values

Equality is a term, everything else a range. Numbers are compared in the field for the width of
the literal; of two literals the lower one decides.
-/

namespace CatalogQuery

/-- A one-sided comparison with a literal. -/
inductive Comparison where
  | above
  | atLeast
  | below
  | atMost
  deriving DecidableEq, Repr

/-- The range of the values that compare so with a literal. -/
def Comparison.range : Comparison → Text → Text → RangeClause
  | above => RangeClause.above
  | atLeast => RangeClause.atLeast
  | below => RangeClause.below
  | atMost => RangeClause.atMost

namespace Compiler

/-- A term in a field. -/
def clause (field term : Text) : Text := field ++ ':' :: term

/-- A text as a phrase. -/
def phrase (t : Text) : Text := '"' :: t ++ ['"']

/-- The property is this very instant. -/
def equalsDate (c : Compiler) (property : Text) (date : Instant) : Except CompileError Fragment :=
  (c.field property .date true).map fun f => { query := clause f (phrase date.text) }

/-- The property is this very number. -/
def equalsNumber (c : Compiler) (property : Text) (n : Number) : Except CompileError Fragment :=
  (c.field property n.valueType true).map fun f => { query := clause f n.text }

/-- The text of a truth value. -/
def boolText (b : Bool) : Text := if b then "true".toList else "false".toList

/-- The property has this truth value. -/
def equalsBool (c : Compiler) (property : Text) (b : Bool) : Except CompileError Fragment :=
  (c.field property .boolean true).map fun f => { query := clause f (boolText b) }

/-- The property is a date in a range. -/
def dateRange (c : Compiler) (property : Text) (range : Text → RangeClause) :
    Except CompileError Fragment :=
  (c.field property .date false).map fun f => { query := (range f).text }

/-- The property is a number of a width in a range. -/
def numberRange (c : Compiler) (property : Text) (type : ValueType) (range : Text → RangeClause) :
    Except CompileError Fragment :=
  (c.field property type true).map fun f => { query := (range f).text }

/-- The property compares so with a date. -/
def compareDate (c : Compiler) (how : Comparison) (property : Text) (date : Instant) :
    Except CompileError Fragment :=
  c.dateRange property fun f => how.range f date.text

/-- The property compares so with a number. -/
def compareNumber (c : Compiler) (how : Comparison) (property : Text) (n : Number) :
    Except CompileError Fragment :=
  c.numberRange property n.valueType fun f => how.range f n.text

/-- The property is a date between two others, or one of them. -/
def betweenDates (c : Compiler) (property : Text) (lower upper : Instant) :
    Except CompileError Fragment :=
  c.dateRange property fun f => .between f lower.text upper.text

/-- The property is a number between two others, or one of them. -/
def betweenNumbers (c : Compiler) (property : Text) (lower upper : Number) :
    Except CompileError Fragment :=
  c.numberRange property lower.valueType fun f => .between f lower.text upper.text

/-- The property is a date strictly between two others. -/
def during (c : Compiler) (property : Text) (start stop : Instant) :
    Except CompileError Fragment :=
  c.dateRange property fun f => .strictlyBetween f start.text stop.text

/-- The beginning of the last so many milliseconds. The greatest negative number of milliseconds
has no opposite to go back by. -/
def windowStart (millis : Int64) (now : Instant) : Option Instant :=
  if millis = Int64.minValue then none else now.plus (-millis.toInt)

/-- The property is a date in the last so many milliseconds, both ends included. -/
def relativeTo (c : Compiler) (property : Text) (millis : Int64) (now : Instant) :
    Except CompileError Fragment :=
  match windowStart millis now with
  | none => .error (.durationOutOfRange millis.toInt)
  | some start => c.betweenDates property start now

end Compiler
end CatalogQuery
