import CatalogQuery.Predicate.Basic

/-!
# The three searches for text

Equality with a text, a pattern and a phrase for fuzzy search take the same way: first the inputs
are checked, then one term is looked for, in one field as it is or in each of several fields. Which
fields these are depends on the property and on wildcards in the given text.

* `TextSearch.check`: what is refused, which does not depend on the compiler, and
  `TextSearch.check_eq_ok_iff`: what is not;
* `Compiler.searchedFields`, `Compiler.searchQuery`: the fields, and the query for the term in them;
* `Compiler.result_textSearch`: a search is the check and then this query.
-/

namespace CatalogQuery

/-- A search for text. -/
inductive TextSearch where
  | equals (property literal : Text) (caseSensitive : Bool)
  | like (property pattern : Text) (caseSensitive : Bool)
  | fuzzy (property phrase : Text)
  deriving DecidableEq, Repr

namespace TextSearch

/-- The search as a predicate. -/
def predicate : TextSearch → Predicate
  | equals property literal caseSensitive => .equalsText property literal caseSensitive
  | like property pattern caseSensitive => .like property pattern caseSensitive
  | fuzzy property phrase => .fuzzy property phrase

/-- The property that is searched. -/
def property : TextSearch → Text
  | equals property _ _ => property
  | like property _ _ => property
  | fuzzy property _ => property

/-- The text that is given to the search. -/
def given : TextSearch → Text
  | equals _ literal _ => literal
  | like _ pattern _ => pattern
  | fuzzy _ phrase => phrase

/-- The term that is looked for. -/
def term : TextSearch → Text
  | equals _ literal _ => Compiler.phrase (Text.escape literal)
  | like _ pattern _ => Compiler.patternTerm pattern
  | fuzzy _ phrase => Compiler.fuzzyTerms phrase

/-- Is the case of letters kept where the term is looked for word by word? -/
def keepsCase : TextSearch → Bool
  | equals _ _ _ => true
  | like _ _ caseSensitive => caseSensitive
  | fuzzy _ _ => false

/-- Refuse what cannot be searched for. -/
def check : TextSearch → Except CompileError Unit
  | equals property literal caseSensitive =>
      if !caseSensitive then .error .caseInsensitiveEquality
      else Compiler.requireInput property literal
  | like property pattern _ => Compiler.requireInput property pattern
  | fuzzy property phrase =>
      match Compiler.requireInput property phrase with
      | .error e => .error e
      | .ok () => if Text.words phrase = [] then .error .termsRequired else .ok ()

/-- A property is named and there is something to look for: a text, or a word of it for fuzzy
search. Equality is asked for with the case of letters. -/
def HasInputs : TextSearch → Prop
  | equals property literal caseSensitive => caseSensitive = true ∧ property ≠ [] ∧ literal ≠ []
  | like property pattern _ => property ≠ [] ∧ pattern ≠ []
  | fuzzy property phrase => property ≠ [] ∧ Text.words phrase ≠ []

theorem ne_nil_of_words {t : Text} (h : Text.words t ≠ []) : t ≠ [] := by
  rintro rfl
  exact h rfl

/-- Nothing is refused but what lacks its inputs. -/
theorem check_eq_ok_iff (s : TextSearch) : s.check = .ok () ↔ s.HasInputs := by
  cases s with
  | equals property literal caseSensitive =>
      cases caseSensitive with
      | false => simp [check, HasInputs]
      | true => simpa [check, HasInputs] using Compiler.requireInput_eq_ok_iff
  | like property pattern caseSensitive => exact Compiler.requireInput_eq_ok_iff
  | fuzzy property phrase =>
      rw [check, HasInputs]
      by_cases hwords : Text.words phrase = []
      · simp only [hwords, ne_eq, not_true_eq_false, and_false, iff_false]
        split <;> simp
      · have hinput := @Compiler.requireInput_eq_ok_iff property phrase
        rw [and_iff_left (ne_nil_of_words hwords)] at hinput
        rw [if_neg hwords, and_iff_left hwords, ← hinput]
        split <;> simp_all

end TextSearch

namespace Compiler

variable {property : Text}

/-! ## Fields -/

/-- A term in each of several fields. -/
def clauses (fields : List Text) (term : Text) : Text :=
  '(' :: Text.join [' '] (fields.map fun x => clause x term) ++ [')']

/-- Are the words of the fields searched? They are in any text, and for a wildcard. -/
def isByWords (c : Compiler) (s : TextSearch) : Bool :=
  Text.hasWildcard s.given || c.isAnyText s.property

/-- The field for a search that is not by words. -/
def plainField (c : Compiler) : TextSearch → Text
  | .equals property _ _ => c.schema.field property .string true
  | .like property _ caseSensitive =>
      let field := c.schema.field property .string false
      if caseSensitive then c.schema.caseSensitive field else field
  | .fuzzy property _ => c.schema.field property .string false

/-- The fields for a search by words: in any text all that the schema has, in its order. -/
def wordFields (c : Compiler) (property : Text) (caseSensitive : Bool) : List Text :=
  if c.isAnyText property then c.schema.anyText.map (c.phraseField caseSensitive)
  else [c.phraseField caseSensitive (c.schema.field property .string true)]

/-- The fields of a search. -/
def searchedFields (c : Compiler) (s : TextSearch) : List Text :=
  if c.isByWords s then c.wordFields s.property s.keepsCase else [c.plainField s]

/-- The query of a search. -/
def searchQuery (c : Compiler) (s : TextSearch) : Text :=
  if c.isByWords s then clauses (c.wordFields s.property s.keepsCase) s.term
  else clause (c.plainField s) s.term

/-! ## Queries -/

variable {c : Compiler}

/-- A search by words has a clause for each field. -/
theorem fanOut_of_ne_nil (h : property ≠ []) (term : Text) (caseSensitive : Bool) :
    c.fanOut term property caseSensitive
      = .ok { query := clauses (c.wordFields property caseSensitive) term } := by
  have hfields : c.phraseFields property caseSensitive
      = .ok (c.wordFields property caseSensitive) := by
    unfold phraseFields wordFields
    split
    · rfl
    · rw [field_of_ne_nil h]
      rfl
  rw [fanOut, hfields]
  rfl

theorem hasWildcard_phrase_escape (t : Text) :
    Text.hasWildcard (phrase (Text.escape t)) = Text.hasWildcard t := by
  have hquote : ∀ s, Text.hasWildcard (phrase s) = Text.hasWildcard s := fun s => by
    simp [Text.hasWildcard, phrase, Text.isWildcard]
  rw [hquote, Text.hasWildcard_escape]

/-- One term by words or in one field, as the three searches look for it. -/
theorem searchIn_of_ne_nil (h : property ≠ []) (byWords : Bool) (term : Text)
    (keepsCase exact : Bool) (variant : Text → Text) :
    (if byWords then c.fanOut term property keepsCase
      else (c.field property .string exact).map fun x => { query := clause (variant x) term })
      = .ok { query :=
          if byWords then clauses (c.wordFields property keepsCase) term
          else clause (variant (c.schema.field property .string exact)) term } := by
  cases byWords with
  | true => exact fanOut_of_ne_nil h term keepsCase
  | false =>
      rw [field_of_ne_nil h]
      rfl

/-- The check is all that a search can fail at. What passes has its query, in the fields that there
are. -/
theorem result_textSearch (c : Compiler) (s : TextSearch) :
    (c.compile s.predicate).result = s.check.map fun _ => { query := c.searchQuery s } := by
  have hnamed : ∀ {property given}, requireInput property given = .ok () → property ≠ [] :=
    fun h => (requireInput_eq_ok_iff.mp h).1
  unfold searchQuery isByWords
  cases s with
  | equals property literal caseSensitive =>
      show c.equalsText property literal caseSensitive = _
      cases caseSensitive with
      | false => rfl
      | true =>
          rw [equalsText, TextSearch.check]
          dsimp only
          rw [hasWildcard_phrase_escape]
          cases hinput : requireInput property literal with
          | error e => rfl
          | ok u => exact searchIn_of_ne_nil (hnamed hinput) _ _ true true id
  | like property pattern caseSensitive =>
      show c.like property pattern caseSensitive = _
      rw [like, TextSearch.check, Text.hasWildcard_escape]
      cases hinput : requireInput property pattern with
      | error e => rfl
      | ok u => exact searchIn_of_ne_nil (hnamed hinput) _ _ caseSensitive false _
  | fuzzy property phrase =>
      show c.fuzzy property phrase = _
      rw [fuzzy, TextSearch.check]
      cases hinput : requireInput property phrase with
      | error e => rfl
      | ok u =>
          by_cases hwords : Text.words phrase = []
          · simp only [if_pos hwords]
            rfl
          · simp only [if_neg hwords]
            exact searchIn_of_ne_nil (hnamed hinput) _ _ false false id

/-- A search has a result just if it has its inputs, and the result is its query. -/
theorem result_textSearch_eq_ok_iff {s : TextSearch} {f : Fragment} :
    (c.compile s.predicate).result = .ok f ↔ s.HasInputs ∧ f = { query := c.searchQuery s } := by
  rw [result_textSearch, ← s.check_eq_ok_iff]
  cases hcheck : s.check with
  | error e => simp [Except.map]
  | ok u => simp [Except.map, eq_comm]

end Compiler
end CatalogQuery
