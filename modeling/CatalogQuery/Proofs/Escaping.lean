import CatalogQuery.Text.Escape

/-!
# Escaped texts as they are read

The query language drops each backslash of a term and keeps the character behind it. The
backslashes that escaping adds are dropped again, and so are those that the text brought along,
but for those that cover an added one.

* `CoversOperators`: every backslash of a text stands right before an operator, which is where
  one is added;
* `length_unescape_escape_le`: nothing is read that was not there;
* `unescape_escape_iff`: just the texts whose backslashes all stand so are read as they were.
-/

namespace CatalogQuery
namespace Text

variable {c : Char} {t : Text}

/-- Every backslash stands right before an operator. -/
def CoversOperators (t : Text) : Prop :=
  ∀ before after, t = before ++ '\\' :: after → beginsOperator after = true

theorem coversOperators_nil : CoversOperators [] := fun _ _ h => absurd h (by simp)

theorem coversOperators_cons : CoversOperators (c :: t) ↔
    (c = '\\' → beginsOperator t = true) ∧ CoversOperators t := by
  constructor
  · intro h
    refine ⟨fun hc => h [] t (by rw [hc]; rfl), fun before after e => ?_⟩
    exact h (c :: before) after (by rw [e]; rfl)
  · rintro ⟨hfirst, hrest⟩ before after e
    rcases List.cons_eq_append_iff.mp e with ⟨rfl, hc⟩ | ⟨before, rfl, ht⟩
    · obtain ⟨rfl, rfl⟩ := List.cons.inj hc
      exact hfirst rfl
    · exact hrest before after ht

/-- Another character than a backslash has nothing to stand before. -/
theorem coversOperators_plain (hc : c ≠ '\\') :
    CoversOperators (c :: t) ↔ CoversOperators t := by
  rw [coversOperators_cons]
  exact and_iff_right fun h => absurd h hc

instance decidableCoversOperators : (t : Text) → Decidable (CoversOperators t)
  | [] => isTrue coversOperators_nil
  | _ :: t =>
      have := decidableCoversOperators t
      decidable_of_iff _ coversOperators_cons.symm

/-! ## What is read of an escaped text -/

/-- A backslash before an operator is read: the one that covers the operator is what it covers. -/
theorem unescape_cover_escape (h : beginsOperator t = true) :
    unescape ('\\' :: escape t) = '\\' :: unescape (escape t) := by
  obtain ⟨c, r, hc, e⟩ := escape_of_beginsOperator h
  rw [e, unescape_cover, unescape_cover, unescape_cons hc]

/-- Nothing is read that was not there before. -/
theorem length_unescape_escape_le (t : Text) : (unescape (escape t)).length ≤ t.length := by
  induction t using escape.induct with
  | case1 => exact Nat.le_refl _
  | case2 r ih =>
      rw [escape_and_pair, unescape_cover, unescape_cons (by decide)]
      simpa using ih
  | case3 r ih =>
      rw [escape_or_pair, unescape_cover, unescape_cons (by decide)]
      simpa using ih
  | case4 c r ha ho hc ih =>
      rw [escape_cons ha ho, if_pos hc, unescape_cover]
      simpa using ih
  | case5 c r ha ho hc ih =>
      rw [escape_cons ha ho, if_neg hc, List.length_cons]
      by_cases hback : c = '\\'
      · subst hback
        exact Nat.le_trans (length_unescape_cover (escape r)).2 (Nat.succ_le_succ ih)
      · rw [unescape_cons hback]
        simpa using ih

/-- A backslash before anything else is lost. -/
theorem unescape_cover_escape_ne (h : beginsOperator t = false) :
    unescape ('\\' :: escape t) ≠ '\\' :: t := by
  intro e
  have hlength := congrArg List.length e
  cases t with
  | nil => cases e
  | cons c r =>
      rw [escape_cons_of_not_beginsOperator h, unescape_cover] at hlength
      have hle := length_unescape_escape_le r
      simp only [List.length_cons] at hlength
      omega

/-- Only the backslashes before operators are read again. -/
theorem unescape_escape_eq_iff : unescape (escape t) = t ↔ CoversOperators t := by
  induction t using escape.induct with
  | case1 => exact iff_of_true rfl coversOperators_nil
  | case2 r ih =>
      have hand : '&' ≠ '\\' := by decide
      rw [escape_and_pair, unescape_cover, unescape_cons hand, List.cons_inj_right,
        List.cons_inj_right, ih, coversOperators_plain hand, coversOperators_plain hand]
  | case3 r ih =>
      have hor : '|' ≠ '\\' := by decide
      rw [escape_or_pair, unescape_cover, unescape_cons hor, List.cons_inj_right,
        List.cons_inj_right, ih, coversOperators_plain hor, coversOperators_plain hor]
  | case4 c r ha ho hc ih =>
      rw [escape_cons ha ho, if_pos hc, unescape_cover, List.cons_inj_right, ih,
        coversOperators_plain (ne_backslash_of_isReserved hc)]
  | case5 c r ha ho hc ih =>
      rw [escape_cons ha ho, if_neg hc]
      by_cases hback : c = '\\'
      · -- whether a backslash is lost depends on what is behind it, not on the text before
        subst hback
        rw [coversOperators_cons]
        cases hr : beginsOperator r with
        | true => simp [unescape_cover_escape hr, ih]
        | false => simp [unescape_cover_escape_ne hr]
      · rw [unescape_cons hback, List.cons_inj_right, ih, coversOperators_plain hback]

/-- An escaped text is read as it was before exactly when all its own backslashes stand before
operators. So is every text without backslashes. -/
theorem unescape_escape_iff (t : Text) :
    (unescape (escape t) = t ↔ CoversOperators t) ∧ ('\\' ∉ t → unescape (escape t) = t) := by
  constructor
  · exact unescape_escape_eq_iff
  · intro hnone
    refine unescape_escape_eq_iff.mpr ?_
    intro before after e
    exact absurd (by simp [e]) hnone

/-- A covered wildcard is read as a character of the text, but without the backslash. -/
example : unescape (escape "a\\*(b)".toList) = "a*(b)".toList := by decide

theorem unescape_escape_iff_covered :
    CoversOperators "\\(a\\&&b".toList ∧
    unescape (escape "\\(a\\&&b".toList) = "\\(a\\&&b".toList ∧
    '\\' ∉ "a &&& (b)".toList ∧
    unescape (escape "a &&& (b)".toList) = "a &&& (b)".toList := by
  have hcovers : CoversOperators "\\(a\\&&b".toList := by decide
  have hnone : '\\' ∉ "a &&& (b)".toList := by decide
  refine ⟨hcovers, ?_, hnone, ?_⟩
  · exact (unescape_escape_iff _).1.mpr hcovers
  · exact (unescape_escape_iff _).2 hnone

end Text
end CatalogQuery
