import CatalogQuery.Text.Basic

/-!
# Texts as bytes

`utf8` is a text as it is stored, a run of bytes for each character. Comparing the bytes is
comparing the characters by their code points: the bytes of a greater character are greater at the
first place where they differ, and that place is never behind the end of the shorter run
(`utf8EncodeChar_append_lt`). So the order of texts is also the order of their bytes
(`utf8_lt_utf8`).
-/

namespace CatalogQuery
namespace Text

/-- A text in UTF-8. -/
def utf8 (t : Text) : List UInt8 := t.flatMap String.utf8EncodeChar

@[simp] theorem utf8_nil : utf8 [] = [] := rfl

theorem utf8_cons (c : Char) (t : Text) : utf8 (c :: t) = String.utf8EncodeChar c ++ utf8 t := rfl

/-! ## One character -/

theorem cons_ofNat_lt_cons_ofNat {m n : Nat} {s t : List UInt8} (hm : m < 256) (hn : n < 256) :
    UInt8.ofNat m :: s < UInt8.ofNat n :: t ↔ m < n ∨ m = n ∧ s < t := by
  rw [List.cons_lt_cons_iff, UInt8.lt_iff_toNat_lt, ← UInt8.toNat_inj,
    UInt8.toNat_ofNat_of_lt' hm, UInt8.toNat_ofNat_of_lt' hn]

theorem toNat_val_lt (c : Char) : c.val.toNat < 0x110000 := by
  rcases c.valid with h | ⟨-, h⟩
  · exact Nat.lt_trans h (by decide)
  · exact h

/-- The bytes of a greater character are greater, whatever follows them. -/
theorem utf8EncodeChar_append_lt {c d : Char} (h : c < d) (s t : List UInt8) :
    String.utf8EncodeChar c ++ s < String.utf8EncodeChar d ++ t := by
  have hc := toNat_val_lt c
  have hd := toNat_val_lt d
  have hlt : c.val.toNat < d.val.toNat := h
  -- The digits in base 64 are taken from one another, so that they can be compared in order.
  have second : ∀ v, v / 4096 = v / 64 / 64 := fun v => (Nat.div_div_eq_div_mul v 64 64).symm
  have third : ∀ v, v / 262144 = v / 64 / 64 / 64 := fun v => by
    rw [Nat.div_div_eq_div_mul, Nat.div_div_eq_div_mul]
  unfold String.utf8EncodeChar
  generalize c.val.toNat = m at *
  generalize d.val.toNat = n at *
  simp only [second, third]
  -- The more bytes there are, the greater is the first of them. With equally many bytes, the first
  -- digit that differs decides.
  repeat' split
  all_goals
    simp (disch := omega) only [List.cons_append, List.nil_append, cons_ofNat_lt_cons_ofNat]
    omega

/-! ## Whole texts -/

/-- A text that comes before another comes before it byte by byte. -/
theorem utf8_lt_utf8 {s t : Text} (h : s < t) : utf8 s < utf8 t := by
  induction s generalizing t with
  | nil =>
      cases t with
      | nil => exact absurd h (List.not_lt_nil [])
      | cons d t =>
          obtain ⟨b, bs, hbytes⟩ :=
            List.exists_cons_of_ne_nil (String.utf8EncodeChar_ne_nil (c := d))
          rw [utf8_nil, utf8_cons, hbytes]
          exact List.nil_lt_cons b _
  | cons c s ih =>
      cases t with
      | nil => exact absurd h (List.not_lt_nil _)
      | cons d t =>
          rw [utf8_cons, utf8_cons]
          rcases List.cons_lt_cons_iff.mp h with hcd | ⟨rfl, hst⟩
          · exact utf8EncodeChar_append_lt hcd _ _
          · exact List.append_left_lt (ih hst)

end Text
end CatalogQuery
