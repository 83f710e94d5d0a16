import CatalogQuery.Proofs.DistinctTexts
import CatalogQuery.Text.Words
import Mathlib.Data.List.Basic

/-!
# Terms of fuzzy searches

A fuzzy search looks for the words of a phrase in lower case. Its query tells these words and
nothing else of the phrase. Whether the search is by words depends on wildcards in the phrase as it
was given, but lower case keeps wildcards, so that phrases with the same words in lower case are
searched in the same way.

* `Compiler.fuzzyTerms_eq`: the term is made of the words in lower case;
* `Compiler.fuzzyBody_inj`: it tells these words, for none of them has a space;
* `Compiler.clauses_ne_clause_fuzzyTerms`: a query by words ends with two parentheses, and no other
  one does;
* `Compiler.succeeds_fuzzy_and_query_eq_iff`: a search succeeds just if the phrase has a word, and
  two searches have the same query just if the words of their phrases are the same in lower case.
-/

namespace CatalogQuery

namespace Compiler

variable {c : Compiler} {property phrase a b : Text} {as bs ws : List Text}

/-! ## The term for a phrase -/

/-- The term for words in lower case, each of them required and with a mark for misspellings. -/
def fuzzyBody (words : List Text) : Text :=
  '(' :: Text.join [' '] (words.map fun w => '+' :: w ++ ['~']) ++ [')']

theorem fuzzyTerms_eq (h : phrase.HasWords ws) :
    fuzzyTerms phrase = fuzzyBody (ws.map Text.lower) := by
  rw [fuzzyTerms, fuzzyBody, h.words_eq, List.map_map]
  rfl

/-- A term tells its words, when they have no white space in them. -/
theorem fuzzyBody_inj (has : ∀ w ∈ as, ∀ x ∈ w, Text.isBlankChar x = false)
    (hbs : ∀ w ∈ bs, ∀ x ∈ w, Text.isBlankChar x = false) :
    fuzzyBody as = fuzzyBody bs ↔ as = bs := by
  refine ⟨fun h => ?_, fun h => by rw [h]⟩
  have hmarked : ∀ {ws : List Text}, (∀ w ∈ ws, ∀ x ∈ w, Text.isBlankChar x = false) →
      ∀ p ∈ ws.map fun w => '+' :: w ++ ['~'], Text.IsWord p := by
    intro ws hws p hp
    obtain ⟨w, hw, rfl⟩ := List.mem_map.mp hp
    refine ⟨List.cons_ne_nil _ _, fun x hx => ?_⟩
    rw [List.cons_append, List.mem_cons, List.mem_append, List.mem_singleton] at hx
    rcases hx with rfl | hx | rfl
    · decide
    · exact hws w hw x hx
    · decide
  have hjoin : Text.join [' '] (as.map fun w => '+' :: w ++ ['~']) =
      Text.join [' '] (bs.map fun w => '+' :: w ++ ['~']) := by
    simpa [fuzzyBody] using h
  have hmap := (Text.join_words_inj (hmarked has) (hmarked hbs)).mp hjoin
  refine List.map_injective_iff.mpr (fun v w hvw => ?_) hmap
  exact List.append_cancel_right (List.cons.inj hvw).2

theorem isBlankChar_of_mem_lower (h : phrase.HasWords ws) :
    ∀ w ∈ ws.map Text.lower, ∀ x ∈ w, Text.isBlankChar x = false := by
  intro v hv
  obtain ⟨w, hw, rfl⟩ := List.mem_map.mp hv
  exact (h.isWord_of_mem hw).isBlankChar_lower

/-! ## The query for a phrase -/

theorem clause_fuzzyTerms (field phrase : Text) :
    clause field (fuzzyTerms phrase) =
      (field ++ ':' :: '(' :: Text.join [' '] ((Text.words phrase).map fuzzyTerm)) ++ [')'] := by
  simp [clause, fuzzyTerms]

/-- The query by words for a fuzzy search ends with two parentheses, any other one with the mark of
the last word and one parenthesis. -/
theorem clauses_ne_clause_fuzzyTerms {fields : List Text} (hfields : fields ≠ [])
    (hb : Text.words b ≠ []) (field : Text) :
    clauses fields (fuzzyTerms a) ≠ clause field (fuzzyTerms b) := by
  have hclauses : (clauses fields (fuzzyTerms a)).dropLast.getLast? = some ')' := by
    have hmap : (fields.map fun x => clause x (fuzzyTerms a)) ≠ [] := by simpa using hfields
    have hlast : (Text.join [' '] (fields.map fun x => clause x (fuzzyTerms a))).getLast? =
        some ')' := by
      refine Text.getLast?_join hmap fun p hp => ?_
      obtain ⟨x, -, rfl⟩ := List.mem_map.mp hp
      rw [clause_fuzzyTerms, List.getLast?_concat]
    rw [clauses, List.dropLast_concat, List.getLast?_cons, hlast]
    rfl
  have hclause : (clause field (fuzzyTerms b)).dropLast.getLast? = some '~' := by
    have hmap : (Text.words b).map fuzzyTerm ≠ [] := by simpa using hb
    have hlast : (Text.join [' '] ((Text.words b).map fuzzyTerm)).getLast? = some '~' := by
      refine Text.getLast?_join hmap fun p hp => ?_
      obtain ⟨w, -, rfl⟩ := List.mem_map.mp hp
      rw [fuzzyTerm, List.getLast?_concat]
    rw [clause_fuzzyTerms, List.dropLast_concat, List.getLast?_append, List.getLast?_cons,
      List.getLast?_cons, hlast]
    rfl
  intro h
  rw [h, hclause] at hclauses
  exact absurd hclauses (by decide)

/-- Phrases with the same words in lower case are searched in the same way, and their queries are
the same just if these words are. -/
theorem searchQuery_fuzzy_eq_iff (hfields : c.wordFields property false ≠ [])
    (has : a.HasWords as) (hbs : b.HasWords bs) (ha : as ≠ []) (hb : bs ≠ []) :
    c.searchQuery (.fuzzy property a) = c.searchQuery (.fuzzy property b) ↔
      as.map Text.lower = bs.map Text.lower := by
  constructor
  · intro h
    have hterm : fuzzyTerms a = fuzzyTerms b :=
      term_eq_of_apart (s := .fuzzy property a) (u := .fuzzy property b) rfl rfl rfl hfields
        (fun _ => clauses_ne_clause_fuzzyTerms hfields (hbs.words_eq ▸ hb) _)
        (fun _ => clauses_ne_clause_fuzzyTerms hfields (has.words_eq ▸ ha) _) h
    rw [fuzzyTerms_eq has, fuzzyTerms_eq hbs] at hterm
    exact (fuzzyBody_inj (isBlankChar_of_mem_lower has) (isBlankChar_of_mem_lower hbs)).mp hterm
  · intro h
    have hwildcard : Text.hasWildcard a = Text.hasWildcard b := by
      rw [has.hasWildcard_eq, h, hbs.hasWildcard_eq]
    have hterm : fuzzyTerms a = fuzzyTerms b := by rw [fuzzyTerms_eq has, h, fuzzyTerms_eq hbs]
    have hquery : ∀ phrase, c.searchQuery (.fuzzy property phrase) =
        if Text.hasWildcard phrase || c.isAnyText property then
          clauses (c.wordFields property false) (fuzzyTerms phrase)
        else clause (c.schema.field property .string false) (fuzzyTerms phrase) := fun _ => rfl
    rw [hquery, hquery, hwildcard, hterm]

/-- In any property with a field to search, a fuzzy search succeeds just if the phrase has a
character that is not white space. It looks in each of these fields for the words of the phrase in
lower case, and two searches have the same query just if these words are the same. -/
theorem succeeds_fuzzy_and_query_eq_iff (hproperty : property ≠ [])
    (hany : c.isAnyText property = true → c.schema.anyText ≠ []) :
    (∀ phrase, (∃ f, (c.compile (.fuzzy property phrase)).result = .ok f) ↔
      ∃ x ∈ phrase, Text.isBlankChar x = false) ∧
    (∀ phrase f, (c.compile (.fuzzy property phrase)).result = .ok f →
      c.searchedFields (.fuzzy property phrase) ≠ [] ∧
      ∃ ws, phrase.HasWords ws ∧ f.SearchesFields (c.searchedFields (.fuzzy property phrase))
        (fuzzyBody (ws.map Text.lower))) ∧
    ∀ a b as bs f g, Text.HasWords a as → Text.HasWords b bs →
      (c.compile (.fuzzy property a)).result = .ok f →
      (c.compile (.fuzzy property b)).result = .ok g →
      (f.query = g.query ↔ as.map Text.lower = bs.map Text.lower) := by
  have hok : ∀ phrase f, (c.compile (.fuzzy property phrase)).result = .ok f ↔
      Text.words phrase ≠ [] ∧ f = { query := c.searchQuery (.fuzzy property phrase) } := by
    intro phrase f
    refine (result_textSearch_eq_ok_iff (s := .fuzzy property phrase)).trans ?_
    rw [TextSearch.HasInputs, and_iff_right hproperty]
  refine ⟨fun phrase => ?_, fun phrase f hf => ?_, fun a b as bs f g has hbs hf hg => ?_⟩
  · rw [← (Text.hasWords_words phrase).ne_nil_iff]
    constructor
    · rintro ⟨f, hf⟩
      exact ((hok phrase f).mp hf).1
    · intro hwords
      exact ⟨_, (hok phrase _).mpr ⟨hwords, rfl⟩⟩
  · obtain ⟨-, rfl⟩ := (hok phrase f).mp hf
    refine ⟨?_, Text.words phrase, Text.hasWords_words phrase, ?_⟩
    · rw [ne_eq, searchedFields_eq_nil_iff]
      rintro ⟨h, hnone⟩
      exact hany h hnone
    · rw [← fuzzyTerms_eq (Text.hasWords_words phrase)]
      exact searchesFields_searchQuery c (.fuzzy property phrase)
  · obtain ⟨ha, rfl⟩ := (hok a f).mp hf
    obtain ⟨hb, rfl⟩ := (hok b g).mp hg
    rw [has.words_eq] at ha
    rw [hbs.words_eq] at hb
    exact searchQuery_fuzzy_eq_iff (wordFields_ne_nil hany false) has hbs ha hb

/-- Two phrases with the same words but for their case and the white space, in two fields with free
text. -/
theorem succeeds_fuzzy_and_query_eq_iff_twoTexts :
    "anyText".toList ≠ [] ∧ twoTexts.schema.anyText ≠ [] ∧
    Text.HasWords "Rust\tBook*".toList ["Rust".toList, "Book*".toList] ∧
    Text.HasWords " rUST  book* ".toList ["rUST".toList, "book*".toList] ∧
    ∃ f g, (twoTexts.compile (.fuzzy "anyText".toList "Rust\tBook*".toList)).result = .ok f ∧
      (twoTexts.compile (.fuzzy "anyText".toList " rUST  book* ".toList)).result = .ok g ∧
      f.query = "(title_ws:(+rust~ +book*~) body_ws:(+rust~ +book*~))".toList ∧
      f.query = g.query := by
  have hproperty : "anyText".toList ≠ [] := by decide
  have hfields : twoTexts.schema.anyText ≠ [] := by decide
  have has : Text.HasWords "Rust\tBook*".toList ["Rust".toList, "Book*".toList] :=
    Text.hasWords_iff.mpr rfl
  have hbs : Text.HasWords " rUST  book* ".toList ["rUST".toList, "book*".toList] :=
    Text.hasWords_iff.mpr rfl
  obtain ⟨hsucceeds, -, hsame⟩ :=
    succeeds_fuzzy_and_query_eq_iff (c := twoTexts) hproperty (fun _ => hfields)
  obtain ⟨g, hg⟩ := (hsucceeds " rUST  book* ".toList).mpr ⟨'r', by decide, by decide⟩
  have hf : (twoTexts.compile (.fuzzy "anyText".toList "Rust\tBook*".toList)).result
      = .ok ⟨"(title_ws:(+rust~ +book*~) body_ws:(+rust~ +book*~))".toList, []⟩ := rfl
  have hlower : ["Rust".toList, "Book*".toList].map Text.lower =
      ["rUST".toList, "book*".toList].map Text.lower := by decide
  exact ⟨hproperty, hfields, has, hbs, _, g, hf, hg, rfl,
    (hsame _ _ _ _ _ _ has hbs hf hg).mpr hlower⟩

end Compiler
end CatalogQuery
