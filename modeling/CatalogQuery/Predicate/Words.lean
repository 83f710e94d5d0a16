import CatalogQuery.Predicate.Values
import CatalogQuery.Text.Case
import CatalogQuery.Text.Escape

/-!
# Searches for text

A literal is searched as a quoted phrase, a pattern with wildcards as a term in parentheses. A
search with wildcards, or in any text, goes to the fields that are cut at white space only, one
clause for each field.
-/

namespace CatalogQuery
namespace Compiler

/-- Refuse an empty property name, and an empty literal. -/
def requireInput (property literal : Text) : Except CompileError Unit :=
  if property = [] then .error .propertyRequired
  else if literal = [] then .error .literalRequired
  else .ok ()

theorem requireInput_eq_ok_iff {property literal : Text} :
    requireInput property literal = .ok () ↔ property ≠ [] ∧ literal ≠ [] := by
  unfold requireInput
  by_cases hp : property = []
  · simp [hp]
  · by_cases hl : literal = [] <;> simp [hp, hl]

/-- A term in every field for phrases of a property. -/
def fanOut (c : Compiler) (term property : Text) (caseSensitive : Bool) :
    Except CompileError Fragment :=
  (c.phraseFields property caseSensitive).map fun fs =>
    { query := '(' :: Text.join [' '] (fs.map fun f => clause f term) ++ [')'] }

/-- The property is this very text, letter case included. -/
def equalsText (c : Compiler) (property literal : Text) (caseSensitive : Bool) :
    Except CompileError Fragment :=
  if !caseSensitive then .error .caseInsensitiveEquality
  else
    match requireInput property literal with
    | .error e => .error e
    | .ok () =>
      let term := phrase (Text.escape literal)
      if Text.hasWildcard term || c.isAnyText property then c.fanOut term property true
      else (c.field property .string true).map fun f => { query := clause f term }

/-- The term for a pattern: in parentheses when it has wildcards, otherwise a phrase. -/
def patternTerm (pattern : Text) : Text :=
  let escaped := Text.escape pattern
  if Text.hasWildcard escaped then '(' :: escaped ++ [')'] else phrase escaped

/-- Escaping does not decide between the two. -/
theorem patternTerm_eq (pattern : Text) : patternTerm pattern =
    if Text.hasWildcard pattern then '(' :: Text.escape pattern ++ [')']
    else phrase (Text.escape pattern) := by
  rw [patternTerm, Text.hasWildcard_escape]

/-- The property holds a text like a pattern. -/
def like (c : Compiler) (property pattern : Text) (caseSensitive : Bool) :
    Except CompileError Fragment :=
  match requireInput property pattern with
  | .error e => .error e
  | .ok () =>
    let term := patternTerm pattern
    if Text.hasWildcard (Text.escape pattern) || c.isAnyText property then
      c.fanOut term property caseSensitive
    else
      (c.field property .string false).map fun f =>
        { query := clause (if caseSensitive then c.schema.caseSensitive f else f) term }

/-- A required term in lower case that allows for misspellings. -/
def fuzzyTerm (word : Text) : Text := '+' :: Text.lower word ++ ['~']

/-- The terms for the words of a phrase. -/
def fuzzyTerms (t : Text) : Text := '(' :: Text.join [' '] ((Text.words t).map fuzzyTerm) ++ [')']

/-- The property holds words like those of a phrase. Such terms are searched as they are, so they
are put in lower case here. -/
def fuzzy (c : Compiler) (property phrase : Text) : Except CompileError Fragment :=
  match requireInput property phrase with
  | .error e => .error e
  | .ok () =>
    if Text.words phrase = [] then .error .termsRequired
    else if Text.hasWildcard phrase || c.isAnyText property then
      c.fanOut (fuzzyTerms phrase) property false
    else
      (c.field property .string false).map fun f => { query := clause f (fuzzyTerms phrase) }

/-- Every document but those with a value in a field. -/
def absence (field : Text) : Text :=
  '(' :: Fragment.matchAll ++ " -".toList ++ (RangeClause.anyValue field).text ++ [')']

/-- The property has no value in any of its fields. -/
def isNull (c : Compiler) (property : Text) : Except CompileError Fragment :=
  (c.variantFields property).map fun fs =>
    match fs with
    | [f] => { query := absence f }
    | _ => { query := Connective.group "OR".toList (fs.map absence) }

end Compiler
end CatalogQuery
