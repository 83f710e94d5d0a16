import CatalogQuery.Text.Case
import CatalogQuery.Text.Escape

/-!
# Words of a text

The words of a text are what is left between its white space. `HasWords` says so without a way to
find them: white space is passed over, and a word ends at white space or at the end of the text.

* `hasWords_iff`: a text has just the words that `words` finds;
* `HasWords.exists_mem_iff`: they hold the characters of the text but for white space;
* `hasWords_join`: words with a space between any two are the words of the joined text;
* `eq_of_mem_lowerChar`: no other character is lowered to white space or to a wildcard, so that a
  word in lower case has no white space (`IsWord.isBlankChar_lower`), and wildcards just if it had
  some before (`hasWildcard_lower`).
-/

namespace CatalogQuery
namespace Text

/-- Some characters, none of them white space. -/
structure IsWord (w : Text) : Prop where
  ne_nil : w ≠ []
  isBlankChar_eq_false : ∀ c ∈ w, isBlankChar c = false

/-- A text is made of these words and of white space, at least some between any two words. -/
inductive HasWords : Text → List Text → Prop where
  | nil : HasWords [] []
  | blank {c : Char} {t : Text} {ws : List Text} (hc : isBlankChar c = true)
      (ht : HasWords t ws) : HasWords (c :: t) ws
  | last {w : Text} (hw : IsWord w) : HasWords w [w]
  | word {c : Char} {t w : Text} {ws : List Text} (hw : IsWord w) (hc : isBlankChar c = true)
      (ht : HasWords t ws) : HasWords (w ++ c :: t) (w :: ws)

variable {c d : Char} {t w : Text} {ws vs : List Text}

/-! ## Finding the words -/

/-- The words before white space and those behind it. -/
theorem words_append_blank (hc : isBlankChar c = true) (s t : Text) :
    words (s ++ c :: t) = words s ++ words t := by
  rw [words, List.splitOnP_append_cons s t hc, List.filter_append]
  rfl

theorem words_of_isWord (hw : IsWord w) : words w = [w] := by
  rw [words, List.splitOnP_eq_singleton hw.isBlankChar_eq_false]
  exact List.filter_cons_of_pos (decide_eq_true hw.ne_nil)

theorem HasWords.words_eq (h : HasWords t ws) : words t = ws := by
  induction h with
  | nil => rfl
  | blank hc _ ih => exact (words_append_blank hc [] _).trans ih
  | last hw => exact words_of_isWord hw
  | word hw hc _ ih => rw [words_append_blank hc, words_of_isWord hw, ih, List.singleton_append]

theorem isWord_singleton (hc : isBlankChar c = false) : IsWord [c] :=
  ⟨List.cons_ne_nil c [], by simpa using hc⟩

theorem IsWord.cons (hc : isBlankChar c = false) (hw : IsWord w) : IsWord (c :: w) :=
  ⟨List.cons_ne_nil c w, List.forall_mem_cons.mpr ⟨hc, hw.isBlankChar_eq_false⟩⟩

/-- One more character at the front is passed over, or it begins a word, or it is the new beginning
of the first word. -/
theorem HasWords.exists_cons (h : HasWords t ws) (c : Char) : ∃ vs, HasWords (c :: t) vs := by
  cases hc : isBlankChar c with
  | true => exact ⟨ws, .blank hc h⟩
  | false =>
      cases h with
      | nil => exact ⟨_, .last (isWord_singleton hc)⟩
      | blank hd ht => exact ⟨_, .word (isWord_singleton hc) hd ht⟩
      | last hw => exact ⟨_, .last (hw.cons hc)⟩
      | word hw hd ht => exact ⟨_, .word (hw.cons hc) hd ht⟩

theorem exists_hasWords (t : Text) : ∃ ws, HasWords t ws := by
  induction t with
  | nil => exact ⟨[], .nil⟩
  | cons c t ih =>
      obtain ⟨ws, h⟩ := ih
      exact h.exists_cons c

/-- A text has just the words that are found in it. -/
theorem hasWords_iff : HasWords t ws ↔ words t = ws := by
  refine ⟨HasWords.words_eq, ?_⟩
  rintro rfl
  obtain ⟨ws, h⟩ := exists_hasWords t
  rwa [h.words_eq]

theorem hasWords_words (t : Text) : HasWords t (words t) := hasWords_iff.mpr rfl

/-! ## What is in the words -/

theorem HasWords.isWord_of_mem (h : HasWords t ws) (hw : w ∈ ws) : IsWord w := by
  induction h with
  | nil => cases hw
  | blank _ _ ih => exact ih hw
  | last hlast =>
      obtain rfl := List.mem_singleton.mp hw
      exact hlast
  | word hfirst _ _ ih =>
      rcases List.mem_cons.mp hw with rfl | hw
      · exact hfirst
      · exact ih hw

/-- The words hold what is not white space, and nothing else. -/
theorem HasWords.exists_mem_iff (h : HasWords t ws) :
    (∃ w ∈ ws, c ∈ w) ↔ c ∈ t ∧ isBlankChar c = false := by
  have hne : ∀ {d}, isBlankChar d = true → isBlankChar c = false → c ≠ d := by
    rintro d hd hc rfl
    rw [hd] at hc
    cases hc
  induction h with
  | nil => simp
  | blank hd _ ih =>
      rw [List.mem_cons]
      exact ih.trans (and_congr_left fun hc => (or_iff_right (hne hd hc)).symm)
  | last hw =>
      simp only [List.mem_singleton, exists_eq_left]
      exact ⟨fun hc => ⟨hc, hw.isBlankChar_eq_false c hc⟩, And.left⟩
  | word hw hd _ ih =>
      simp only [List.mem_cons, exists_eq_or_imp, ih, List.mem_append]
      constructor
      · rintro (hc | ⟨hc, hblank⟩)
        · exact ⟨Or.inl hc, hw.isBlankChar_eq_false c hc⟩
        · exact ⟨Or.inr (Or.inr hc), hblank⟩
      · rintro ⟨hc | rfl | hc, hblank⟩
        · exact Or.inl hc
        · exact absurd rfl (hne hd hblank)
        · exact Or.inr ⟨hc, hblank⟩

theorem HasWords.ne_nil_iff (h : HasWords t ws) :
    ws ≠ [] ↔ ∃ c ∈ t, isBlankChar c = false := by
  constructor
  · intro hws
    obtain ⟨w, hw⟩ := List.exists_mem_of_ne_nil ws hws
    obtain ⟨c, hc⟩ := List.exists_mem_of_ne_nil w (h.isWord_of_mem hw).ne_nil
    exact ⟨c, h.exists_mem_iff.mp ⟨w, hw, hc⟩⟩
  · rintro ⟨c, hc⟩ rfl
    obtain ⟨w, hw, -⟩ := h.exists_mem_iff.mpr hc
    cases hw

/-- Words with a space between any two are found again. -/
theorem hasWords_join (h : ∀ w ∈ ws, IsWord w) : HasWords (join [' '] ws) ws := by
  induction ws with
  | nil => exact .nil
  | cons w ws ih =>
      obtain ⟨hw, hws⟩ := List.forall_mem_cons.mp h
      cases ws with
      | nil => exact .last hw
      | cons v vs =>
          rw [join_cons_cons, List.append_assoc]
          exact .word hw (by decide) (ih hws)

theorem join_words_inj (hws : ∀ w ∈ ws, IsWord w) (hvs : ∀ w ∈ vs, IsWord w) :
    join [' '] ws = join [' '] vs ↔ ws = vs := by
  refine ⟨fun h => ?_, fun h => by rw [h]⟩
  rw [← (hasWords_join hws).words_eq, h, (hasWords_join hvs).words_eq]

/-! ## Lower case -/

/-- White space and wildcards, which decide how a phrase is searched, as ranges of code points. -/
def decisiveRanges : List (Nat × Nat) :=
  [(0x9, 0xD), (0x20, 0x20), (0x2A, 0x2A), (0x3F, 0x3F), (0x85, 0x85), (0xA0, 0xA0),
   (0x1680, 0x1680), (0x2000, 0x200A), (0x2028, 0x2029), (0x202F, 0x202F), (0x205F, 0x205F),
   (0x3000, 0x3000)]

/-- Does the character decide how a phrase is searched? -/
def isDecisive (c : Char) : Bool := inRanges decisiveRanges c.toNat

theorem isDecisive_of_isBlankChar (h : isBlankChar c = true) : isDecisive c = true := by
  simp only [isBlankChar, Bool.or_eq_true, Bool.and_eq_true, decide_eq_true_eq, beq_iff_eq] at h
  simp only [isDecisive, inRanges, decisiveRanges, List.any_cons, List.any_nil, Bool.or_eq_true,
    Bool.and_eq_true, decide_eq_true_eq, Bool.false_eq_true]
  omega

theorem isDecisive_of_isWildcard (h : isWildcard c = true) : isDecisive c = true := by
  simp only [isWildcard, Bool.or_eq_true, beq_iff_eq] at h
  rcases h with rfl | rfl <;> rfl

/-- No run of the lowercase mapping reaches these ranges. -/
theorem lowerRuns_apart : ∀ r ∈ lowerRuns, ∀ s ∈ decisiveRanges,
    0 < s.1 ∧ ((r.last : Int) + r.shift < s.1 ∨ (s.2 : Int) < r.first + r.shift) := by
  decide +kernel

theorem toNat_ofNat_eq (n : Nat) : (Char.ofNat n).toNat = n ∨ (Char.ofNat n).toNat = 0 := by
  rw [Char.ofNat]
  by_cases hn : n.isValidChar
  · rw [dif_pos hn]
    exact Or.inl rfl
  · rw [dif_neg hn]
    exact Or.inr rfl

theorem isDecisive_ofNat_of_holds {r : LowerRun} {n : Nat} (hr : r ∈ lowerRuns)
    (hn : r.holds n = true) : isDecisive (Char.ofNat ((n : Int) + r.shift).toNat) = false := by
  simp only [LowerRun.holds, Bool.and_eq_true, decide_eq_true_eq] at hn
  refine List.any_eq_false.mpr fun s hs hin => ?_
  obtain ⟨hpos, hapart⟩ := lowerRuns_apart r hr s hs
  rw [Bool.and_eq_true, decide_eq_true_eq, decide_eq_true_eq] at hin
  -- a number that stands for no character gives the character zero, which is in none of the ranges
  rcases toNat_ofNat_eq ((n : Int) + r.shift).toNat with h | h <;> omega

theorem toLower_of_isDecisive (hc : c.toNat < 0x80) (h : isDecisive c.toLower = true) :
    c.toLower = c := by
  have hascii : ∀ n < 0x80, isDecisive (Char.ofNat n).toLower = true →
      (Char.ofNat n).toLower = Char.ofNat n := by decide
  have hself := hascii c.toNat hc
  rw [Char.ofNat_toNat] at hself
  exact hself h

/-- Only the character itself is lowered to white space or to a wildcard. -/
theorem eq_of_mem_lowerChar (h : d ∈ lowerChar c) (hd : isDecisive d = true) : d = c := by
  unfold lowerChar at h
  dsimp only at h
  split at h
  · next hc =>
      obtain rfl := List.mem_singleton.mp h
      exact toLower_of_isDecisive hc hd
  · split at h
    · have hletter : isDecisive 'i' = false := by decide
      have hdot : isDecisive (Char.ofNat 0x307) = false := by decide
      rw [List.mem_cons, List.mem_singleton] at h
      rcases h with rfl | rfl
      · rw [hletter] at hd
        cases hd
      · rw [hdot] at hd
        cases hd
    · split at h
      · exact List.mem_singleton.mp h
      · next r hr =>
          obtain rfl := List.mem_singleton.mp h
          have hholds : r.holds c.toNat = true := by
            simpa using List.find?_some hr
          rw [isDecisive_ofNat_of_holds (List.mem_of_find?_eq_some hr) hholds] at hd
          cases hd

theorem mem_of_mem_lowerFrom {before : Text} (h : d ∈ lowerFrom before t)
    (hd : isDecisive d = true) : d ∈ t := by
  induction t generalizing before with
  | nil => cases h
  | cons c t ih =>
      rw [lowerFrom, List.mem_append] at h
      rcases h with h | h
      · split at h
        · obtain rfl := List.mem_singleton.mp h
          split at hd <;> exact absurd hd (by decide)
        · rw [eq_of_mem_lowerChar h hd]
          exact List.mem_cons_self
      · exact List.mem_cons_of_mem c (ih h)

theorem mem_of_mem_lower (h : d ∈ lower t) (hd : isDecisive d = true) : d ∈ t :=
  mem_of_mem_lowerFrom h hd

/-- There is no white space in the lowercase form of a word. -/
theorem IsWord.isBlankChar_lower (hw : IsWord w) : ∀ c ∈ lower w, isBlankChar c = false := by
  intro c hc
  refine Bool.eq_false_iff.mpr fun hblank => ?_
  have hself := mem_of_mem_lower hc (isDecisive_of_isBlankChar hblank)
  exact absurd hblank (Bool.eq_false_iff.mp (hw.isBlankChar_eq_false c hself))

theorem lowerChar_of_isWildcard (h : isWildcard c = true) : lowerChar c = [c] := by
  simp only [isWildcard, Bool.or_eq_true, beq_iff_eq] at h
  rcases h with rfl | rfl <;> rfl

theorem mem_lowerFrom_of_isWildcard (before : Text) (h : c ∈ t) (hc : isWildcard c = true) :
    c ∈ lowerFrom before t := by
  induction t generalizing before with
  | nil => cases h
  | cons x t ih =>
      rw [lowerFrom, List.mem_append]
      rcases List.mem_cons.mp h with rfl | h
      · have hsigma : c ≠ capitalSigma := by
          rintro rfl
          exact absurd hc (by decide)
        rw [if_neg hsigma, lowerChar_of_isWildcard hc]
        exact Or.inl (List.mem_singleton_self c)
      · exact Or.inr (ih _ h)

/-- A text in lower case has wildcards just if the text has. -/
theorem hasWildcard_lower (t : Text) : hasWildcard (lower t) = hasWildcard t := by
  rw [Bool.eq_iff_iff, hasWildcard, hasWildcard, List.any_eq_true, List.any_eq_true]
  constructor
  · rintro ⟨c, hmem, hc⟩
    exact ⟨c, mem_of_mem_lower hmem (isDecisive_of_isWildcard hc), hc⟩
  · rintro ⟨c, hmem, hc⟩
    exact ⟨c, mem_lowerFrom_of_isWildcard [] hmem hc, hc⟩

/-- A text has wildcards just if some of its words in lower case has. -/
theorem HasWords.hasWildcard_eq (h : HasWords t ws) :
    hasWildcard t = (ws.map lower).any hasWildcard := by
  have hblank : ∀ {c}, isWildcard c = true → isBlankChar c = false := by
    intro c hc
    simp only [isWildcard, Bool.or_eq_true, beq_iff_eq] at hc
    rcases hc with rfl | rfl <;> rfl
  rw [List.any_map, Bool.eq_iff_iff, hasWildcard, List.any_eq_true, List.any_eq_true]
  simp only [Function.comp_apply, hasWildcard_lower]
  constructor
  · rintro ⟨c, hmem, hc⟩
    obtain ⟨w, hw, hcw⟩ := h.exists_mem_iff.mpr ⟨hmem, hblank hc⟩
    exact ⟨w, hw, List.any_eq_true.mpr ⟨c, hcw, hc⟩⟩
  · rintro ⟨w, hw, hwild⟩
    obtain ⟨c, hcw, hc⟩ := List.any_eq_true.mp hwild
    exact ⟨c, (h.exists_mem_iff.mp ⟨w, hw, hcw⟩).1, hc⟩

end Text
end CatalogQuery
