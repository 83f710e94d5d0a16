import CatalogQuery.Text.Basic

/-!
# Escaping in query terms

Thirteen characters and the pairs `&&` and `||` are operators of the query language. `escape`
puts a backslash before each of them in a literal. The wildcards `*` and `?`, the slash and the
backslash itself are left as they are: a literal may ask for a wildcard, and a wildcard that the
literal covers with a backslash stays covered.

`unescape` is the reading of the query language: a backslash is dropped and the character behind
it kept.

* `beginsOperator`: is the front of a text covered by `escape`? If so a backslash is put before it
  (`escape_of_beginsOperator`), otherwise its first character is kept
  (`escape_cons_of_not_beginsOperator`);
* `length_unescape_cover`: one backslash more or less changes what is read by one character at
  most.
-/

namespace CatalogQuery
namespace Text

/-- The characters that are operators by themselves. -/
def reserved : List Char := "+-!()\x7b\x7d[]^\"~:".toList

/-- Is the character an operator by itself? -/
def isReserved (c : Char) : Bool := reserved.contains c

/-- A literal with its operators covered. -/
def escape : Text → Text
  | [] => []
  | '&' :: '&' :: r => '\\' :: '&' :: '&' :: escape r
  | '|' :: '|' :: r => '\\' :: '|' :: '|' :: escape r
  | c :: r => if isReserved c then '\\' :: c :: escape r else c :: escape r

/-- A term as the query language reads it: each backslash gives way to the character behind it,
and one at the end is dropped. -/
def unescape : Text → Text
  | [] => []
  | ['\\'] => []
  | '\\' :: c :: r => c :: unescape r
  | c :: r => c :: unescape r

/-- The characters that stand for other characters in a term. -/
def isWildcard (c : Char) : Bool := c == '*' || c == '?'

/-- Does a term hold a wildcard, covered or not? -/
def hasWildcard (t : Text) : Bool := t.any isWildcard

/-! ## Steps of the scan -/

@[simp] theorem escape_nil : escape [] = [] := rfl

@[simp] theorem escape_and_pair (r : Text) :
    escape ('&' :: '&' :: r) = '\\' :: '&' :: '&' :: escape r := rfl

@[simp] theorem escape_or_pair (r : Text) :
    escape ('|' :: '|' :: r) = '\\' :: '|' :: '|' :: escape r := rfl

/-- A character that begins no pair is looked at by itself. -/
theorem escape_cons {c : Char} {r : Text} (ha : ∀ s, c = '&' → r ≠ '&' :: s)
    (ho : ∀ s, c = '|' → r ≠ '|' :: s) :
    escape (c :: r) = if isReserved c then '\\' :: c :: escape r else c :: escape r := by
  rw [escape.eq_def]
  split <;> simp_all

/-- Does a text begin with an operator, of one character or of two? -/
def beginsOperator : Text → Bool
  | '&' :: '&' :: _ => true
  | '|' :: '|' :: _ => true
  | c :: _ => isReserved c
  | [] => false

theorem beginsOperator_cons {c : Char} {r : Text} (ha : ∀ s, c = '&' → r ≠ '&' :: s)
    (ho : ∀ s, c = '|' → r ≠ '|' :: s) : beginsOperator (c :: r) = isReserved c := by
  rw [beginsOperator.eq_def]
  split <;> simp_all

/-- What holds of the whole table holds of each operator in it. -/
theorem all_of_isReserved {p : Char → Bool} {c : Char} (hall : reserved.all p = true)
    (hc : isReserved c = true) : p c = true :=
  List.all_eq_true.mp hall c (List.contains_iff_mem.mp hc)

theorem ne_backslash_of_isReserved {c : Char} (h : isReserved c = true) : c ≠ '\\' := by
  rintro rfl
  exact absurd h (by decide)

/-- An operator is covered as a whole. -/
theorem escape_of_beginsOperator {t : Text} (h : beginsOperator t = true) :
    ∃ c r, c ≠ '\\' ∧ escape t = '\\' :: c :: r := by
  fun_cases escape t with
  | case1 => cases h
  | case2 r => exact ⟨'&', _, by decide, rfl⟩
  | case3 r => exact ⟨'|', _, by decide, rfl⟩
  | case4 c r ha ho hc => exact ⟨c, _, ne_backslash_of_isReserved hc, rfl⟩
  | case5 c r ha ho hc => exact absurd ((beginsOperator_cons ha ho).symm.trans h) hc

/-- What is no operator is kept, one character at a time. -/
theorem escape_cons_of_not_beginsOperator {c : Char} {r : Text}
    (h : beginsOperator (c :: r) = false) : escape (c :: r) = c :: escape r := by
  have ha : ∀ s, c = '&' → r ≠ '&' :: s := by
    rintro s rfl rfl
    cases h
  have ho : ∀ s, c = '|' → r ≠ '|' :: s := by
    rintro s rfl rfl
    cases h
  rw [beginsOperator_cons ha ho] at h
  rw [escape_cons ha ho, h, if_neg Bool.false_ne_true]

/-- No wildcard is added or lost. -/
theorem hasWildcard_escape (t : Text) : hasWildcard (escape t) = hasWildcard t := by
  have hcons : ∀ c r, hasWildcard (c :: r) = (isWildcard c || hasWildcard r) := fun _ _ => rfl
  have hback : ∀ r, hasWildcard ('\\' :: r) = hasWildcard r := fun _ => rfl
  induction t using escape.induct with
  | case1 => rfl
  | case2 r ih => rw [escape_and_pair, hback, hcons, hcons, hcons, hcons, ih]
  | case3 r ih => rw [escape_or_pair, hback, hcons, hcons, hcons, hcons, ih]
  | case4 c r ha ho hc ih =>
      rw [escape_cons ha ho, if_pos hc, hback, hcons, hcons, ih]
  | case5 c r ha ho hc ih =>
      rw [escape_cons ha ho, if_neg hc, hcons, hcons, ih]

/-! ## Steps of the reading -/

@[simp] theorem unescape_nil : unescape [] = [] := rfl

@[simp] theorem unescape_cover (c : Char) (r : Text) :
    unescape ('\\' :: c :: r) = c :: unescape r := rfl

theorem unescape_cons {c : Char} (h : c ≠ '\\') (r : Text) :
    unescape (c :: r) = c :: unescape r := by
  rw [unescape.eq_def]
  split <;> simp_all

/-- With a backslash put before a text, no less is read, and one character more at most. -/
theorem length_unescape_cover (t : Text) :
    (unescape t).length ≤ (unescape ('\\' :: t)).length ∧
      (unescape ('\\' :: t)).length ≤ (unescape t).length + 1 := by
  induction t with
  | nil => decide
  | cons c t ih =>
      rw [unescape_cover]
      by_cases hc : c = '\\'
      · subst hc
        simp only [List.length_cons]
        omega
      · rw [unescape_cons hc]
        simp

end Text
end CatalogQuery
