import CatalogQuery.Text.Basic

/-!
# Decimal numerals

Whole numbers in base ten, without grouping.

* `natural`, `integer`: the digits of a number, with a minus sign below zero;
* `padded`: at least a given number of digits;
* `value`: the number a run of digits stands for (`value_natural`: the digits of `n` stand for
  `n`, and leading zeros change nothing, `value_padded`);
* `integer?`: the whole number that a text stands for (`integer?_integer`);
* `digitsAndRest`: the digits at the front of a text (`digitsAndRest_append`: a run of digits comes
  back from in front of anything else).
-/

namespace CatalogQuery
namespace Decimal

/-- The digits of a natural number. -/
def natural (n : Nat) : Text := Nat.toDigits 10 n

/-- The digits of a whole number, behind a minus sign when it is negative. -/
def integer (z : Int) : Text :=
  if z < 0 then '-' :: natural z.natAbs else natural z.natAbs

/-- The digits of a natural number with zeros in front, up to `width` digits. -/
def padded (width n : Nat) : Text :=
  List.replicate (width - (natural n).length) '0' ++ natural n

/-- The number that a run of digits stands for. -/
def value (digits : Text) : Nat := Nat.ofDigitChars 10 digits 0

@[simp] theorem value_natural (n : Nat) : value (natural n) = n :=
  Nat.ofDigitChars_toDigits (by decide) (by decide)

/-- A leading zero does not change the number. -/
theorem value_zero_cons (digits : Text) : value ('0' :: digits) = value digits := by
  simp [value, Nat.ofDigitChars]

@[simp] theorem value_padded (width n : Nat) : value (padded width n) = n := by
  rw [padded]
  induction width - (natural n).length with
  | zero => simp
  | succ k ih => rw [List.replicate_succ, List.cons_append, value_zero_cons, ih]

/-! ## Digits in a text -/

/-- The digits at the front, and the rest. -/
def digitsAndRest (t : Text) : Text × Text := (t.takeWhile Char.isDigit, t.dropWhile Char.isDigit)

theorem isDigit_of_mem_natural {n : Nat} {c : Char} (h : c ∈ natural n) : c.isDigit = true :=
  Nat.isDigit_of_mem_toDigits (by decide) (by decide) h

theorem isDigit_of_mem_padded {width n : Nat} {c : Char} (h : c ∈ padded width n) :
    c.isDigit = true := by
  rw [padded, List.mem_append] at h
  rcases h with h | h
  · rw [(List.mem_replicate.1 h).2]
    decide
  · exact isDigit_of_mem_natural h

/-- A run of digits as a number. -/
def natural? (t : Text) : Option Nat :=
  if t ≠ [] ∧ t.all Char.isDigit then some (value t) else none

/-- Digits, behind a minus sign or not, as a whole number. -/
def integer? : Text → Option Int
  | '-' :: t => (natural? t).map fun n : Nat => -(n : Int)
  | t => (natural? t).map Int.ofNat

theorem natural_ne_nil (n : Nat) : natural n ≠ [] := Nat.toDigits_ne_nil

theorem natural?_natural (n : Nat) : natural? (natural n) = some n := by
  have hdigits : (natural n).all Char.isDigit = true :=
    List.all_eq_true.mpr fun _ => isDigit_of_mem_natural
  rw [natural?, if_pos ⟨natural_ne_nil n, hdigits⟩, value_natural]

/-- A number without a minus sign is its digits. -/
theorem integer?_eq_of_isDigit {t : Text} (h : ∀ c ∈ t, c.isDigit = true) :
    integer? t = (natural? t).map Int.ofNat := by
  unfold integer?
  split
  · exact absurd (h '-' List.mem_cons_self) (by decide)
  · rfl

theorem integer?_integer (z : Int) : integer? (integer z) = some z := by
  unfold integer
  split
  · next hneg =>
    have habs : -(z.natAbs : Int) = z := by omega
    rw [integer?, natural?_natural, Option.map_some, habs]
  · next hpos =>
    have habs : Int.ofNat z.natAbs = z := by
      show (z.natAbs : Int) = z
      omega
    rw [integer?_eq_of_isDigit fun _ => isDigit_of_mem_natural, natural?_natural, Option.map_some,
      habs]

theorem padded_zero (n : Nat) : padded 0 n = natural n := by
  rw [padded, Nat.zero_sub, List.replicate_zero, List.nil_append]

theorem length_natural_le_two {n : Nat} : (natural n).length ≤ 2 ↔ n < 100 :=
  Nat.length_toDigits_le_iff (by decide) (by decide)

theorem length_natural_le_three {n : Nat} : (natural n).length ≤ 3 ↔ n < 1000 :=
  Nat.length_toDigits_le_iff (by decide) (by decide)

theorem le_length_padded (width n : Nat) : width ≤ (padded width n).length := by
  rw [padded, List.length_append, List.length_replicate]
  omega

theorem length_padded {width n : Nat} (h : (natural n).length ≤ width) :
    (padded width n).length = width := by
  rw [padded, List.length_append, List.length_replicate]
  omega

/-- A number with that many digits is not padded. -/
theorem padded_of_le {width n : Nat} (h : width ≤ (natural n).length) :
    padded width n = natural n := by
  rw [padded, Nat.sub_eq_zero_of_le h, List.replicate_zero, List.nil_append]

theorem padded_ne_nil (width n : Nat) : padded width n ≠ [] := by
  simp [padded, natural_ne_nil]

/-- A run of digits in front of something else is found again. -/
theorem digitsAndRest_append {digits rest : Text} (h : ∀ c ∈ digits, c.isDigit = true)
    (hr : ∀ c ∈ rest.head?, c.isDigit = false) :
    digitsAndRest (digits ++ rest) = (digits, rest) := by
  rw [digitsAndRest, Text.takeWhile_append_stop h hr, Text.dropWhile_append_stop h hr]

end Decimal
end CatalogQuery
