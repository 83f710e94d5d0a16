import CatalogQuery.Proofs.SearchedFields

/-!
# Distinct texts, distinct queries

Escaping loses nothing. A backslash that the text brought along never stands before an operator of
the escaped text, for that one is covered already. So the backslashes right before operators are
those that were added, and they can be taken away again.

* `Text.uncover_escape`: `uncover` takes away just what `escape` adds;
* `Compiler.clauses_inj`: a term can be told from its clauses in several fields;
* `Compiler.term_eq_of_apart`: a query tells its term, if a query by words can be told from any
  other one;
* `Compiler.term_eq_of_searchQuery_eq`: it can when the one ends with a parenthesis and the other
  with a quote;
* `Compiler.injective_result`: equality with a text and patterns have distinct results for distinct
  texts.
-/

namespace CatalogQuery
namespace Text

variable {c : Char} {r s t : Text}

/-! ## Taking away added backslashes -/

/-- A text without the backslashes right before operators. -/
def uncover : Text → Text
  | [] => []
  | c :: r => if c = '\\' ∧ beginsOperator r = true then uncover r else c :: uncover r

theorem uncover_cover (h : beginsOperator r = true) : uncover ('\\' :: r) = uncover r := by
  rw [uncover, if_pos ⟨rfl, h⟩]

theorem uncover_cons (h : c = '\\' → beginsOperator r = false) :
    uncover (c :: r) = c :: uncover r := by
  rw [uncover, if_neg]
  rintro ⟨hc, hr⟩
  rw [h hc] at hr
  cases hr

theorem uncover_plain (hc : c ≠ '\\') (r : Text) : uncover (c :: r) = c :: uncover r :=
  uncover_cons fun e => absurd e hc

theorem beginsOperator_of_isReserved (hc : isReserved c = true) (r : Text) :
    beginsOperator (c :: r) = true := by
  have hand : c ≠ '&' := by
    rintro rfl
    exact absurd hc (by decide)
  have hor : c ≠ '|' := by
    rintro rfl
    exact absurd hc (by decide)
  rw [beginsOperator_cons (fun _ e => absurd e hand) (fun _ e => absurd e hor), hc]

/-- But for a backslash, an escaped text begins with what the text begins with. -/
theorem exists_cons_of_escape (hc : c ≠ '\\') (h : escape t = c :: s) : ∃ r, t = c :: r := by
  fun_cases escape t with
  | case1 => cases h
  | case2 r => exact absurd (List.cons.inj h).1.symm hc
  | case3 r => exact absurd (List.cons.inj h).1.symm hc
  | case4 d r ha ho hd =>
      rw [escape_cons ha ho, if_pos hd] at h
      exact absurd (List.cons.inj h).1.symm hc
  | case5 d r ha ho hd =>
      rw [escape_cons ha ho, if_neg hd] at h
      exact ⟨r, by rw [(List.cons.inj h).1]⟩

/-- No operator is left bare at the front of an escaped text. -/
theorem beginsOperator_escape (t : Text) : beginsOperator (escape t) = false := by
  fun_cases escape t with
  | case1 => rfl
  | case2 r => rfl
  | case3 r => rfl
  | case4 c r ha ho hc => rfl
  | case5 c r ha ho hc =>
      have hand : ∀ s, c = '&' → escape r ≠ '&' :: s := fun s e h => by
        obtain ⟨s', hs⟩ := exists_cons_of_escape (by decide) h
        exact ha s' e hs
      have hor : ∀ s, c = '|' → escape r ≠ '|' :: s := fun s e h => by
        obtain ⟨s', hs⟩ := exists_cons_of_escape (by decide) h
        exact ho s' e hs
      rw [beginsOperator_cons hand hor]
      exact Bool.eq_false_iff.mpr hc

/-- What escaping adds is taken away, and nothing else. -/
theorem uncover_escape (t : Text) : uncover (escape t) = t := by
  induction t using escape.induct with
  | case1 => rfl
  | case2 r ih =>
      rw [escape_and_pair, uncover_cover rfl, uncover_plain (by decide), uncover_plain (by decide),
        ih]
  | case3 r ih =>
      rw [escape_or_pair, uncover_cover rfl, uncover_plain (by decide), uncover_plain (by decide),
        ih]
  | case4 c r ha ho hc ih =>
      rw [escape_cons ha ho, if_pos hc, uncover_cover (beginsOperator_of_isReserved hc _),
        uncover_plain (ne_backslash_of_isReserved hc), ih]
  | case5 c r ha ho hc ih =>
      rw [escape_cons ha ho, if_neg hc, uncover_cons fun _ => beginsOperator_escape r, ih]

theorem escape_injective : Function.Injective escape :=
  Function.LeftInverse.injective uncover_escape

end Text

namespace Compiler

variable {c : Compiler} {fields : List Text} {a b field property : Text}

/-! ## Terms in queries -/

theorem clause_inj : clause field a = clause field b ↔ a = b := by
  simp [clause]

theorem phrase_inj : phrase a = phrase b ↔ a = b := by
  simp [phrase]

/-- Each field has the term in its clause. -/
theorem length_join_clauses (fields : List Text) (term : Text) :
    (Text.join [' '] (fields.map fun x => clause x term)).length =
      (Text.join [' '] (fields.map fun x => clause x [])).length + fields.length * term.length := by
  have hclause : ∀ x, (clause x term).length = (clause x []).length + term.length := fun x => by
    simp only [clause, List.length_append, List.length_cons, List.length_nil]
    omega
  induction fields with
  | nil => simp
  | cons x xs ih =>
      cases xs with
      | nil => simp [hclause x]
      | cons y ys =>
          simp only [List.map_cons, Text.join_cons_cons, List.length_append] at ih ⊢
          rw [ih, hclause x, List.length_cons (a := x), Nat.succ_mul]
          omega

/-- The clauses of a term, in one field or more, tell the term. -/
theorem clauses_inj (hfields : fields ≠ []) : clauses fields a = clauses fields b ↔ a = b := by
  refine ⟨fun h => ?_, fun h => by rw [h]⟩
  have hjoin : Text.join [' '] (fields.map fun x => clause x a) =
      Text.join [' '] (fields.map fun x => clause x b) := by
    simpa [clauses] using h
  have hlength : a.length = b.length := by
    have hcount : 0 < fields.length := List.length_pos_iff.mpr hfields
    have hboth := congrArg List.length hjoin
    rw [length_join_clauses fields a, length_join_clauses fields b] at hboth
    exact Nat.eq_of_mul_eq_mul_left hcount (Nat.add_left_cancel hboth)
  -- terms of one length end at the same place of the first clause
  obtain ⟨x, xs, rfl⟩ := List.exists_cons_of_ne_nil hfields
  have hfirst : clause x a = clause x b := by
    have hsame : (clause x a).length = (clause x b).length := by simp [clause, hlength]
    cases xs with
    | nil => exact hjoin
    | cons y ys =>
        simp only [List.map_cons, Text.join_cons_cons, List.append_assoc] at hjoin
        exact List.append_inj_left hjoin hsame
  exact clause_inj.mp hfirst

/-! ## Terms of searches -/

theorem getLast?_clauses (fields : List Text) (term : Text) :
    (clauses fields term).getLast? = some ')' := by
  rw [clauses, List.getLast?_concat]

theorem getLast?_clause_phrase (field t : Text) :
    (clause field (phrase t)).getLast? = some '"' := by
  have hquote : clause field (phrase t) = (field ++ ':' :: '"' :: t) ++ ['"'] := by
    simp [clause, phrase]
  rw [hquote, List.getLast?_concat]

theorem clauses_ne_clause_phrase (fields : List Text) (term field t : Text) :
    clauses fields term ≠ clause field (phrase t) := by
  intro h
  have hlast := congrArg List.getLast? h
  rw [getLast?_clauses, getLast?_clause_phrase] at hlast
  exact absurd hlast (by decide)

theorem patternTerm_inj : patternTerm a = patternTerm b ↔ a = b := by
  refine ⟨fun h => ?_, fun h => by rw [h]⟩
  rw [patternTerm_eq, patternTerm_eq] at h
  split at h <;> split at h
  · exact Text.escape_injective (by simpa using h)
  · exact absurd (List.cons.inj h).1 (by decide)
  · exact absurd (List.cons.inj h).1 (by decide)
  · exact Text.escape_injective (phrase_inj.mp h)

/-- Without a wildcard a pattern is looked for as a phrase. -/
theorem patternTerm_of_plain (h : Text.hasWildcard a = false) :
    patternTerm a = phrase (Text.escape a) := by
  rw [patternTerm_eq, h, if_neg Bool.false_ne_true]

theorem wordFields_ne_nil (h : c.isAnyText property = true → c.schema.anyText ≠ [])
    (caseSensitive : Bool) : c.wordFields property caseSensitive ≠ [] := by
  unfold wordFields
  split
  · next hany => simpa using h hany
  · exact List.cons_ne_nil _ _

/-! ## Searches that differ in their texts -/

/-- Searches in the same fields have distinct queries when they have distinct terms, if the clauses
of one can be told from the single clause of the other. -/
theorem term_eq_of_apart {s u : TextSearch} (hproperty : s.property = u.property)
    (hcase : s.keepsCase = u.keepsCase) (hplain : c.plainField s = c.plainField u)
    (hfields : c.wordFields u.property u.keepsCase ≠ [])
    (hsu : c.isByWords u = false →
      clauses (c.wordFields u.property u.keepsCase) s.term ≠ clause (c.plainField u) u.term)
    (hus : c.isByWords s = false →
      clauses (c.wordFields u.property u.keepsCase) u.term ≠ clause (c.plainField u) s.term)
    (h : c.searchQuery s = c.searchQuery u) : s.term = u.term := by
  rw [searchQuery, searchQuery, hproperty, hcase, hplain] at h
  cases hs : c.isByWords s with
  | true =>
      cases hu : c.isByWords u with
      | true =>
          rw [hs, hu] at h
          exact (clauses_inj hfields).mp h
      | false =>
          rw [hs, hu] at h
          exact absurd h (hsu hu)
  | false =>
      cases hu : c.isByWords u with
      | true =>
          rw [hs, hu] at h
          exact absurd h.symm (hus hs)
      | false =>
          rw [hs, hu] at h
          exact clause_inj.mp h

section

-- one kind of search for each text, alike in everything else
variable {k : Text → TextSearch}

/-- Such searches have distinct queries when they have distinct terms, if the term for a text
without wildcards is a phrase. -/
theorem term_eq_of_searchQuery_eq {keepsCase : Bool} (hproperty : ∀ t, (k t).property = property)
    (hcase : ∀ t, (k t).keepsCase = keepsCase) (hplain : ∀ t, c.plainField (k t) = field)
    (hfields : c.wordFields property keepsCase ≠ [])
    (hphrase : ∀ t, Text.hasWildcard (k t).given = false → ∃ body, (k t).term = phrase body)
    (h : c.searchQuery (k a) = c.searchQuery (k b)) : (k a).term = (k b).term := by
  have hapart : ∀ {t}, c.isByWords (k t) = false →
      ∀ fields term field, clauses fields term ≠ clause field (k t).term := by
    intro t ht fields term field
    obtain ⟨body, hterm⟩ := hphrase t (Bool.or_eq_false_iff.mp ht).1
    rw [hterm]
    exact clauses_ne_clause_phrase fields term field body
  refine term_eq_of_apart ((hproperty a).trans (hproperty b).symm)
    ((hcase a).trans (hcase b).symm) ((hplain a).trans (hplain b).symm) ?_
    (fun hb => hapart hb _ _ _) (fun ha => hapart ha _ _ _) h
  rw [hproperty, hcase]
  exact hfields

/-- When nothing but the empty text is refused, such searches have distinct results if they have
distinct queries. -/
theorem injective_of_searchQuery (hinput : ∀ t, (k t).HasInputs ↔ t ≠ [])
    (hquery : ∀ a b, c.searchQuery (k a) = c.searchQuery (k b) → a = b) :
    Function.Injective fun t => (c.compile (k t).predicate).result := by
  intro a b h
  dsimp only at h
  by_cases ha : a = []
  · by_cases hb : b = []
    · rw [ha, hb]
    · have hok := h.trans (result_textSearch_eq_ok_iff.mpr ⟨(hinput b).mpr hb, rfl⟩)
      exact absurd ha ((hinput a).mp (result_textSearch_eq_ok_iff.mp hok).1)
  · have hok := h.symm.trans (result_textSearch_eq_ok_iff.mpr ⟨(hinput a).mpr ha, rfl⟩)
    obtain ⟨-, hsame⟩ := result_textSearch_eq_ok_iff.mp hok
    exact hquery a b (congrArg Fragment.query hsame)

end

section

variable (hproperty : property ≠ []) (hany : c.isAnyText property = true → c.schema.anyText ≠ [])
include hproperty hany

theorem injective_equalsText :
    Function.Injective fun literal => (c.compile (.equalsText property literal true)).result := by
  refine injective_of_searchQuery (k := fun literal => .equals property literal true)
    (fun literal => by simp [TextSearch.HasInputs, hproperty]) (fun a b hquery => ?_)
  have hterm : phrase (Text.escape a) = phrase (Text.escape b) :=
    term_eq_of_searchQuery_eq (k := fun literal => .equals property literal true) (fun _ => rfl)
      (fun _ => rfl) (fun _ => rfl) (wordFields_ne_nil hany _) (fun _ _ => ⟨_, rfl⟩) hquery
  exact Text.escape_injective (phrase_inj.mp hterm)

theorem injective_like (caseSensitive : Bool) :
    Function.Injective fun pattern =>
      (c.compile (.like property pattern caseSensitive)).result := by
  refine injective_of_searchQuery (k := fun pattern => .like property pattern caseSensitive)
    (fun pattern => by simp [TextSearch.HasInputs, hproperty]) (fun a b hquery => ?_)
  have hterm : patternTerm a = patternTerm b :=
    term_eq_of_searchQuery_eq (k := fun pattern => .like property pattern caseSensitive)
      (fun _ => rfl) (fun _ => rfl) (fun _ => rfl) (wordFields_ne_nil hany _)
      (fun _ hplain => ⟨_, patternTerm_of_plain hplain⟩) hquery
  exact patternTerm_inj.mp hterm

end

/-- Escaped texts are distinct when the texts are. So are the results of an equality with a text,
which has none without the case of letters, and those of a pattern, whichever fields there are to
search, as long as there is one. -/
theorem injective_result :
    Function.Injective Text.escape ∧
    ∀ (c : Compiler) (property : Text), property ≠ [] →
      (c.isAnyText property = true → c.schema.anyText ≠ []) →
      Function.Injective (fun literal => (c.compile (.equalsText property literal true)).result) ∧
      (∀ literal f, (c.compile (.equalsText property literal false)).result ≠ .ok f) ∧
      ∀ caseSensitive, Function.Injective (fun pattern =>
        (c.compile (.like property pattern caseSensitive)).result) := by
  refine ⟨Text.escape_injective, ?_⟩
  intro c property hproperty hany
  refine ⟨injective_equalsText hproperty hany, ?_, injective_like hproperty hany⟩
  intro literal f h
  cases h

/-- A covered wildcard and a bare one, in two fields with free text. -/
theorem injective_result_twoTexts :
    "anyText".toList ≠ [] ∧ twoTexts.schema.anyText ≠ [] ∧
    (twoTexts.compile (.like "anyText".toList "a\\*".toList false)).result ≠
      (twoTexts.compile (.like "anyText".toList "a*".toList false)).result := by
  have hproperty : "anyText".toList ≠ [] := by decide
  have hfields : twoTexts.schema.anyText ≠ [] := by decide
  obtain ⟨-, -, hlike⟩ := injective_result.2 twoTexts _ hproperty (fun _ => hfields)
  have hne : "a\\*".toList ≠ "a*".toList := by decide
  exact ⟨hproperty, hfields, fun h => hne (hlike false h)⟩

end Compiler
end CatalogQuery
