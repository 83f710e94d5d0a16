import CatalogQuery.Proofs.Made
import CatalogQuery.Text.Cover

/-!
# What a text in a query reaches

A literal, a pattern and a phrase are put between delimiters, and backslashes are put before the
delimiters in them. The backslashes they bring along are left as they are, for the caller covers
wildcards so. Such a backslash can cover one of those that are added, or the last delimiter.

* `eachClose_escape`, `eachClose_replaceChar`: what is added covers every delimiter of a text that
  leaves its delimiters and its end bare, and of no other;
* `Compiler.isBody_iff_leavesBare`: so just these texts stay within the delimiters;
* `Compiler.not_isBody_of_result`: a single backslash does not.
-/

namespace CatalogQuery
namespace Text

open Quoted

variable {close c : Char} {covered : Bool} {r s t : Text}

/-! ## Backslashes that are put before delimiters -/

/-- No backslash of a text covers a delimiter in it, or what follows it. -/
def LeavesBare (close : Char) (t : Text) : Prop := EachClose close false false t

instance (close : Char) (t : Text) : Decidable (LeavesBare close t) :=
  inferInstanceAs (Decidable (EachClose close false false t))

/-- A character that is written with a backslash before it. -/
theorem eachClose_cover_iff (hclose : close ≠ '\\') (hc : c ≠ '\\')
    (h : EachClose close true false s ↔ EachClose close false false r) :
    EachClose close true covered ('\\' :: c :: s) ↔ EachClose close false covered (c :: r) := by
  have hstate : (!covered && c == '\\') = false := by simp [hc]
  rw [eachClose_cover hclose hc, eachClose_cons, hstate, h]

/-- A character that is written as it is. -/
theorem eachClose_keep_iff (hc : c ≠ close)
    (h : ∀ covered, EachClose close true covered s ↔ EachClose close false covered r) :
    EachClose close true covered (c :: s) ↔ EachClose close false covered (c :: r) := by
  rw [eachClose_cons, eachClose_cons, h]
  exact and_congr_left' ⟨fun _ e => absurd e hc, fun _ e => absurd e hc⟩

theorem ne_of_isReserved (hclose : isReserved close = true) (hc : isReserved c = false) :
    c ≠ close := by
  rintro rfl
  rw [hclose] at hc
  cases hc

/-- Operators are escaped so that every delimiter is covered which was bare before. -/
theorem eachClose_escape (hclose : isReserved close = true) (covered : Bool) (t : Text) :
    EachClose close true covered (escape t) ↔ EachClose close false covered t := by
  have hback : close ≠ '\\' := ne_backslash_of_isReserved hclose
  have hkeep : ∀ {c}, isReserved c = false → c ≠ close := ne_of_isReserved hclose
  induction t using escape.induct generalizing covered with
  | case1 => rw [escape_nil, eachClose_nil, eachClose_nil]
  | case2 r ih =>
      rw [escape_and_pair]
      exact eachClose_cover_iff hback (by decide)
        (eachClose_keep_iff (hkeep (by decide)) ih)
  | case3 r ih =>
      rw [escape_or_pair]
      exact eachClose_cover_iff hback (by decide)
        (eachClose_keep_iff (hkeep (by decide)) ih)
  | case4 c r ha ho hc ih =>
      rw [escape_cons ha ho, if_pos hc]
      exact eachClose_cover_iff hback (ne_backslash_of_isReserved hc) (ih false)
  | case5 c r ha ho hc ih =>
      rw [escape_cons ha ho, if_neg hc]
      exact eachClose_keep_iff (hkeep (Bool.eq_false_iff.mpr hc)) ih

/-- So they are when only the delimiter is escaped. -/
theorem eachClose_replaceChar (hclose : close ≠ '\\') (covered : Bool) (t : Text) :
    EachClose close true covered (replaceChar close ['\\', close] t) ↔
      EachClose close false covered t := by
  induction t generalizing covered with
  | nil => rw [replaceChar_nil, eachClose_nil, eachClose_nil]
  | cons c t ih =>
      rw [replaceChar_cons]
      by_cases hc : c = close
      · subst hc
        rw [if_pos rfl]
        exact eachClose_cover_iff hclose hclose (ih false)
      · rw [if_neg hc]
        exact eachClose_keep_iff hc ih

theorem isBody_escape_iff (hclose : isReserved close = true) :
    IsBody close (escape t) ↔ LeavesBare close t := by
  rw [isBody_iff (ne_backslash_of_isReserved hclose), eachClose_escape hclose, LeavesBare]

theorem isBody_replaceChar_iff (hclose : close ≠ '\\') :
    IsBody close (replaceChar close ['\\', close] t) ↔ LeavesBare close t := by
  rw [isBody_iff hclose, eachClose_replaceChar hclose, LeavesBare]

end Text

/-! ## Terms of a query -/

/-- The query is for one term, in a field or in each of several fields. -/
def Fragment.LooksFor (f : Fragment) (term : Text) : Prop :=
  (∃ field, f.query = Compiler.clause field term) ∨
    ∃ fields : List Text,
      f.query = '(' :: Text.join [' '] (fields.map fun x => Compiler.clause x term) ++ [')']

namespace Compiler

open Text.Quoted

variable {c : Compiler} {f : Fragment} {property literal pattern path sought : Text}
  {caseSensitive : Bool}

/-- A search for text is for its term, by words or not. -/
theorem looksFor_textSearch {s : TextSearch} (h : (c.compile s.predicate).result = .ok f) :
    f.LooksFor s.term := by
  obtain ⟨-, rfl⟩ := result_textSearch_eq_ok_iff.mp h
  unfold searchQuery
  split
  · exact Or.inr ⟨_, rfl⟩
  · exact Or.inl ⟨_, rfl⟩

theorem looksFor_equalsText (h : c.equalsText property literal caseSensitive = .ok f) :
    f.LooksFor (phrase (Text.escape literal)) :=
  looksFor_textSearch (s := .equals property literal caseSensitive) h

theorem looksFor_like (h : c.like property pattern caseSensitive = .ok f) :
    f.LooksFor (patternTerm pattern) :=
  looksFor_textSearch (s := .like property pattern caseSensitive) h

/-- A phrase that is looked for within a path is also looked for in the whole document. -/
theorem query_of_pathSearch (hsought : Text.isBlank sought = false)
    (h : c.pathSearch path (some sought) caseSensitive = .ok f) :
    ∃ field, c.field c.settings.metadataProperty .string false = .ok field ∧
      f.query = clause field (phrase (Text.replaceChar '"' ['\\', '"'] sought)) := by
  unfold pathSearch at h
  split at h
  · cases h
  · rw [Option.filter_some, if_pos (by simp [hsought])] at h
    obtain ⟨field, hfield, rfl⟩ := exists_of_map h
    exact ⟨field, hfield, rfl⟩

/-- A literal, a pattern and a phrase for a path stay within the delimiters around them exactly when
no backslash of theirs covers one of these delimiters or their end. -/
theorem isBody_iff_leavesBare (c : Compiler) :
    (∀ property literal caseSensitive f,
      (c.compile (.equalsText property literal caseSensitive)).result = .ok f →
        f.LooksFor (phrase (Text.escape literal)) ∧
        (IsBody '"' (Text.escape literal) ↔ Text.LeavesBare '"' literal)) ∧
    (∀ property pattern caseSensitive f,
      (c.compile (.like property pattern caseSensitive)).result = .ok f →
        (Text.hasWildcard pattern = false → f.LooksFor (phrase (Text.escape pattern)) ∧
          (IsBody '"' (Text.escape pattern) ↔ Text.LeavesBare '"' pattern)) ∧
        (Text.hasWildcard pattern = true → f.LooksFor ('(' :: Text.escape pattern ++ [')']) ∧
          (IsBody ')' (Text.escape pattern) ↔ Text.LeavesBare ')' pattern))) ∧
    (∀ path sought caseSensitive f, Text.isBlank sought = false →
      (c.compile (.pathLike path sought caseSensitive)).result = .ok f ∨
        (c.compile (.pathFuzzy path sought)).result = .ok f →
      ∃ field body, c.field c.settings.metadataProperty .string false = .ok field ∧
        body = Text.replaceChar '"' ['\\', '"'] sought ∧ f.query = clause field (phrase body) ∧
        (IsBody '"' body ↔ Text.LeavesBare '"' sought)) := by
  refine ⟨?_, ?_, ?_⟩
  · intro property literal caseSensitive f h
    exact ⟨looksFor_equalsText h, Text.isBody_escape_iff (by decide)⟩
  · intro property pattern caseSensitive f h
    have hlook : f.LooksFor (patternTerm pattern) := looksFor_like h
    rw [patternTerm_eq] at hlook
    constructor
    · intro hw
      rw [hw] at hlook
      exact ⟨hlook, Text.isBody_escape_iff (by decide)⟩
    · intro hw
      rw [hw] at hlook
      exact ⟨hlook, Text.isBody_escape_iff (by decide)⟩
  · intro path sought caseSensitive f hsought h
    obtain ⟨field, hfield, hquery⟩ : ∃ field,
        c.field c.settings.metadataProperty .string false = .ok field ∧
          f.query = clause field (phrase (Text.replaceChar '"' ['\\', '"'] sought)) := by
      rcases h with h | h
      · exact query_of_pathSearch hsought h
      · exact query_of_pathSearch hsought h
    exact ⟨field, _, hfield, rfl, hquery, Text.isBody_replaceChar_iff (by decide)⟩

/-- A wildcard that the caller has covered is between parentheses as well. -/
theorem isBody_iff_leavesBare_wildcard :
    (Compiler.direct.compile (.like "title".toList "f(\\*)".toList true)).result
      = .ok ⟨"(title:(f\\(\\*\\)))".toList, []⟩ ∧ IsBody ')' "f\\(\\*\\)".toList := by
  have hresult : (Compiler.direct.compile (.like "title".toList "f(\\*)".toList true)).result
      = .ok ⟨"(title:(f\\(\\*\\)))".toList, []⟩ := rfl
  obtain ⟨-, hwild⟩ := (isBody_iff_leavesBare .direct).2.1 _ _ _ _ hresult
  exact ⟨hresult, (hwild (by decide)).2.mpr (by decide)⟩

/-- Not every text stays within: a single backslash covers the quote behind it, so that its phrase
is not closed. -/
theorem not_isBody_of_result :
    ¬ ∀ c : Compiler,
      (∀ property literal caseSensitive f,
        (c.compile (.equalsText property literal caseSensitive)).result = .ok f →
          IsBody '"' (Text.escape literal)) ∧
      (∀ property pattern caseSensitive f,
        (c.compile (.like property pattern caseSensitive)).result = .ok f →
          (Text.hasWildcard pattern = false → IsBody '"' (Text.escape pattern)) ∧
          (Text.hasWildcard pattern = true → IsBody ')' (Text.escape pattern))) ∧
      (∀ path sought caseSensitive f, Text.isBlank sought = false →
        (c.compile (.pathLike path sought caseSensitive)).result = .ok f ∨
          (c.compile (.pathFuzzy path sought)).result = .ok f →
        IsBody '"' (Text.replaceChar '"' ['\\', '"'] sought)) := by
  intro h
  have hresult : (Compiler.direct.compile (.equalsText "title".toList "\\".toList true)).result
      = .ok ⟨"title:\"\\\"".toList, []⟩ := rfl
  obtain ⟨t, ht⟩ := (h .direct).1 _ _ _ _ hresult []
  have hnone : readTo '"' "\\\"".toList = none := by decide
  exact absurd (hnone.symm.trans ht) (by simp)

end Compiler
end CatalogQuery
