import CatalogQuery.Proofs.Made
import CatalogQuery.Text.Plain
import CatalogQuery.Time.Reading

/-!
# Terms for numbers, dates and truth values

The terms of searches for one value are put together without escaping. That is safe for a date,
which stands in quotes, and for a truth value, which is a word. A number stands as it is written: it
has no operator in it but its sign.

* `Text.RespectsTable`: a phrase, or a term in which every operator is covered;
* `Number.exists_text_eq`: behind the sign there is no operator in a number;
* `Compiler.respectsTable_equality`: so the terms of dates and truth values respect the table, and
  that of a number does just if there is no minus sign (`Compiler.not_respectsTable_number`).
-/

namespace CatalogQuery
namespace Text

variable {c : Char} {s t : Text}

/-! ## Terms -/

/-- The whole text is one phrase in quotes. -/
def IsPhrase (t : Text) : Prop := ∃ body, t = Compiler.phrase body ∧ Quoted.IsBody '"' body

/-- Every character that is an operator by itself has a backslash right before it. -/
def CoversReserved (t : Text) : Prop :=
  ∀ before c after, t = before ++ c :: after → isReserved c = true → before.getLast? = some '\\'

/-- The text can stand as a term: no operator in it is read as one. -/
def RespectsTable (t : Text) : Prop := t.IsPhrase ∨ t.CoversReserved

/-- No character is an operator by itself. -/
def IsUnreserved (t : Text) : Prop := ∀ c ∈ t, isReserved c = false

instance (t : Text) : Decidable (IsUnreserved t) :=
  List.decidableBAll (fun c => isReserved c = false) t

theorem IsUnreserved.coversReserved (h : IsUnreserved t) : CoversReserved t := by
  rintro before c after rfl hc
  rw [h c (by simp)] at hc
  cases hc

theorem isReserved_eq_false_of_isDigit (h : c.isDigit = true) : isReserved c = false := by
  have hall : reserved.all (fun x => !x.isDigit) = true := by decide
  cases hc : isReserved c with
  | false => rfl
  | true =>
      have hnone := all_of_isReserved hall hc
      rw [h] at hnone
      cases hnone

theorem isPhrase_of_isPlain (h : IsPlain t) : IsPhrase (Compiler.phrase t) :=
  ⟨t, rfl, fun rest => ⟨t, h.readTo rest⟩⟩

/-- An operator at the front is not covered, and it is no quote. -/
theorem not_respectsTable_of_isReserved (hc : isReserved c = true) (hquote : c ≠ '"') :
    ¬RespectsTable (c :: t) := by
  rintro (⟨body, e, -⟩ | h)
  · exact hquote (List.cons.inj e).1
  · cases h [] c t rfl hc

end Text

/-! ## Signs of numbers -/

/-- The value has a minus sign: it is not zero, or it is the negative zero. -/
def BinaryValue.hasMinus : BinaryValue → Bool
  | .notANumber => false
  | .infinite n => n
  | .zero n => n
  | .finite n _ => n

/-- The number has a minus sign. -/
def Number.hasMinus : Number → Bool
  | .short n => decide (n.toInt < 0)
  | .integer n => decide (n.toInt < 0)
  | .long n => decide (n.toInt < 0)
  | .float x => (BinaryValue.ofSingle x).hasMinus
  | .double x => (BinaryValue.ofDouble x).hasMinus

namespace Decimal

open Text

theorem isUnreserved_natural (n : Nat) : IsUnreserved (natural n) := fun _ hc =>
  isReserved_eq_false_of_isDigit (isDigit_of_mem_natural hc)

theorem integer_eq_sign (z : Int) : integer z = sign (decide (z < 0)) ++ natural z.natAbs := by
  by_cases hz : z < 0
  · simp [integer, sign, hz]
  · simp [integer, sign, hz]

/-- Without an exponent there is nothing but digits and the point. -/
theorem isUnreserved_renderMagnitude (m : Magnitude) :
    IsUnreserved (renderMagnitude .plain m) :=
  forall_mem_positional (by decide) (by decide) (fun _ h => absurd h List.not_mem_nil)
    (isUnreserved_natural _) _

theorem exists_render_eq (x : BinaryValue) :
    ∃ t, render .plain x = sign x.hasMinus ++ t ∧ IsUnreserved t := by
  cases x with
  | notANumber => exact ⟨"NaN".toList, rfl, by decide⟩
  | infinite n => exact ⟨"inf".toList, rfl, by decide⟩
  | zero n => exact ⟨['0'], rfl, by decide⟩
  | finite n m => exact ⟨_, rfl, isUnreserved_renderMagnitude m⟩

end Decimal

namespace Number

open Text

/-- Behind the sign of a number there is no operator. -/
theorem exists_text_eq (n : Number) :
    ∃ t, n.text = Decimal.sign n.hasMinus ++ t ∧ IsUnreserved t := by
  cases n with
  | short n | integer n | long n =>
      exact ⟨_, Decimal.integer_eq_sign _, Decimal.isUnreserved_natural _⟩
  | float x => exact Decimal.exists_render_eq _
  | double x => exact Decimal.exists_render_eq _

/-- A number can stand as a term just if it has no minus sign. -/
theorem respectsTable_text_iff (n : Number) : n.text.RespectsTable ↔ n.hasMinus = false := by
  obtain ⟨t, htext, ht⟩ := n.exists_text_eq
  rw [htext]
  cases n.hasMinus with
  | false => exact iff_of_true (Or.inr ht.coversReserved) rfl
  | true =>
      exact iff_of_false (not_respectsTable_of_isReserved (by decide) (by decide)) (by decide)

end Number

/-- Digits and marks are put between quotes as they are. -/
theorem Instant.isPlain_text (date : Instant) : Text.IsPlain date.text := by
  have hquote : '"' ∉ date.text := notMem_text (by decide) (by decide) date
  have hback : '\\' ∉ date.text := notMem_text (by decide) (by decide) date
  intro c hc
  constructor
  · rintro rfl
    exact hquote hc
  · rintro rfl
    exact hback hc

namespace Compiler

variable {property : Text}

theorem isUnreserved_boolText (b : Bool) : Text.IsUnreserved (boolText b) := by
  cases b <;> decide

/-- A search for a date has a phrase behind the field, a search for a truth value a term without
operators. A search for a number has the number as it is written, in which every operator is covered
if and only if the number has no minus sign. -/
theorem respectsTable_equality (c : Compiler) (hproperty : property ≠ []) :
    (∀ date : Instant,
      (c.compile (.equalsDate property date)).result
        = .ok { query := clause (c.schema.field property .date true) (phrase date.text) } ∧
      Text.RespectsTable (phrase date.text)) ∧
    (∀ b : Bool,
      (c.compile (.equalsBool property b)).result
        = .ok { query := clause (c.schema.field property .boolean true) (boolText b) } ∧
      Text.RespectsTable (boolText b)) ∧
    (∀ n : Number,
      (c.compile (.equalsNumber property n)).result
        = .ok { query := clause (c.schema.field property n.valueType true) n.text } ∧
      (Text.RespectsTable n.text ↔ n.hasMinus = false)) := by
  refine ⟨fun date => ⟨?_, ?_⟩, fun b => ⟨?_, ?_⟩, fun n => ⟨?_, n.respectsTable_text_iff⟩⟩
  · show c.equalsDate property date = _
    rw [equalsDate, field_of_ne_nil hproperty]
    rfl
  · exact Or.inl (Text.isPhrase_of_isPlain date.isPlain_text)
  · show c.equalsBool property b = _
    rw [equalsBool, field_of_ne_nil hproperty]
    rfl
  · exact Or.inr (isUnreserved_boolText b).coversReserved
  · show c.equalsNumber property n = _
    rw [equalsNumber, field_of_ne_nil hproperty]
    rfl

/-- A number beyond the range of 32 bits. -/
theorem respectsTable_equality_long :
    "size".toList ≠ [] ∧
    (direct.compile (.equalsNumber "size".toList (.long 9000000000))).result
      = .ok ⟨"size:9000000000".toList, []⟩ ∧
    Text.RespectsTable "9000000000".toList := by
  have hsize : "size".toList ≠ [] := by decide
  have hplus : (Number.long 9000000000).hasMinus = false := by decide
  obtain ⟨hresult, hterm⟩ := (respectsTable_equality direct hsize).2.2 (.long 9000000000)
  exact ⟨hsize, hresult, hterm.mpr hplus⟩

/-- The sign of a negative number is left uncovered. -/
theorem not_respectsTable_number :
    (direct.compile (.equalsNumber "rating".toList (.integer (-5)))).result
      = .ok ⟨clause "rating".toList "-5".toList, []⟩ ∧
    ¬Text.RespectsTable "-5".toList :=
  ⟨rfl, Text.not_respectsTable_of_isReserved (c := '-') (by decide) (by decide)⟩

end Compiler
end CatalogQuery
