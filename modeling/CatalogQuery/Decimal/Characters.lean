import CatalogQuery.Decimal.Layout

/-!
# The characters of numbers

Numbers are written with few characters: digits, signs, the point, the mark of an exponent, and the
letters of the words for what is no finite number (`isNumeral_render`). So what else a text is made
of, such as quotes, blanks and brackets, never occurs in a number (`IsNumeral.notMem`).
-/

namespace CatalogQuery
namespace Decimal

variable {c : Char} {s t : Text}

/-- A character that numbers are written with. -/
def IsNumeralChar (c : Char) : Prop := c.isDigit = true ∨ c ∈ "+-.eNainf".toList

instance (c : Char) : Decidable (IsNumeralChar c) := inferInstanceAs (Decidable (_ ∨ _))

/-- A text of such characters only. -/
def IsNumeral (t : Text) : Prop := ∀ c ∈ t, IsNumeralChar c

instance (t : Text) : Decidable (IsNumeral t) := List.decidableBAll IsNumeralChar t

theorem IsNumeral.notMem (h : IsNumeral t) (hc : ¬IsNumeralChar c) : c ∉ t := fun hmem =>
  hc (h c hmem)

/-! ## Parts -/

@[simp] theorem isNumeral_nil : IsNumeral [] := fun _ h => absurd h List.not_mem_nil

@[simp] theorem isNumeral_cons : IsNumeral (c :: t) ↔ IsNumeralChar c ∧ IsNumeral t :=
  List.forall_mem_cons

@[simp] theorem isNumeral_append : IsNumeral (s ++ t) ↔ IsNumeral s ∧ IsNumeral t :=
  List.forall_mem_append

/-- A part of a number has the characters of a number. -/
theorem IsNumeral.of_subset (h : IsNumeral t) (hst : s ⊆ t) : IsNumeral s := fun c hc =>
  h c (hst hc)

/-! ## Whole numbers -/

@[simp] theorem isNumeral_natural (n : Nat) : IsNumeral (natural n) := fun _ hc =>
  Or.inl (isDigit_of_mem_natural hc)

theorem isNumeral_integer (z : Int) : IsNumeral (integer z) := by
  have hminus : IsNumeralChar '-' := by decide
  unfold integer
  split <;> simp [hminus]

/-! ## Floating-point values -/

/-- Zeros and a point are all that is put among the digits. -/
theorem forall_mem_positional {p : Char → Prop} {mark digits : Text} (hzero : p '0')
    (hpoint : p '.') (hmark : ∀ c ∈ mark, p c) (hdigits : ∀ c ∈ digits, p c) (point : Int) :
    ∀ c ∈ positional mark digits point, p c := by
  have hzeros : ∀ n, ∀ c ∈ List.replicate n '0', p c := by
    intro n c hc
    obtain rfl := List.eq_of_mem_replicate hc
    exact hzero
  unfold positional
  split
  · exact List.forall_mem_append.mpr ⟨List.forall_mem_cons.mpr ⟨hzero,
      List.forall_mem_cons.mpr ⟨hpoint, hzeros _⟩⟩, hdigits⟩
  · split
    · exact List.forall_mem_append.mpr ⟨List.forall_mem_append.mpr ⟨hdigits, hzeros _⟩, hmark⟩
    · exact List.forall_mem_append.mpr ⟨fun c hc => hdigits c (List.mem_of_mem_take hc),
        List.forall_mem_cons.mpr ⟨hpoint, fun c hc => hdigits c (List.mem_of_mem_drop hc)⟩⟩

theorem isNumeral_positional {mark digits : Text} (hmark : IsNumeral mark) (h : IsNumeral digits)
    (point : Int) : IsNumeral (positional mark digits point) :=
  forall_mem_positional (by decide) (by decide) hmark h point

theorem isNumeral_scientific {digits : Text} (h : IsNumeral digits) (point : Int) :
    IsNumeral (scientific digits point) := by
  have hplus : IsNumeralChar '+' := by decide
  have hsigned : IsNumeral (signed (point - 1)) := by
    unfold signed
    split
    · simp [hplus]
    · exact isNumeral_integer _
  have hrest : IsNumeral (if digits.length ≤ 1 then [] else '.' :: digits.drop 1) := by
    split
    · exact isNumeral_nil
    · exact isNumeral_cons.mpr ⟨by decide, h.of_subset (List.drop_subset _ _)⟩
  have hpower : IsNumeral ('e' :: signed (point - 1)) := isNumeral_cons.mpr ⟨by decide, hsigned⟩
  have hfirst : IsNumeral (digits.take 1) := h.of_subset (List.take_subset _ _)
  exact isNumeral_append.mpr ⟨isNumeral_append.mpr ⟨hfirst, hrest⟩, hpower⟩

theorem isNumeral_sign (negative : Bool) : IsNumeral (sign negative) := by
  cases negative <;> decide

/-- A value has the characters of a number when the mark of whole numbers has. -/
theorem isNumeral_render {l : Layout} (hmark : IsNumeral l.wholeMark) (x : BinaryValue) :
    IsNumeral (render l x) := by
  cases x with
  | notANumber =>
      show IsNumeral "NaN".toList
      decide
  | infinite negative =>
      have hword : IsNumeral "inf".toList := by decide
      exact isNumeral_append.mpr ⟨isNumeral_sign negative, hword⟩
  | zero negative =>
      have hzero : IsNumeralChar '0' := by decide
      exact isNumeral_append.mpr ⟨isNumeral_sign negative, isNumeral_cons.mpr ⟨hzero, hmark⟩⟩
  | finite negative m =>
      have hmagnitude : IsNumeral (renderMagnitude l m) := by
        unfold renderMagnitude
        dsimp only
        split
        · exact isNumeral_positional hmark (isNumeral_natural _) _
        · exact isNumeral_scientific (isNumeral_natural _) _
      exact isNumeral_append.mpr ⟨isNumeral_sign negative, hmagnitude⟩

theorem isNumeral_double (x : Float) : IsNumeral (double x) := isNumeral_render isNumeral_nil _

theorem isNumeral_single (x : Float32) : IsNumeral (single x) := isNumeral_render isNumeral_nil _

end Decimal
end CatalogQuery
