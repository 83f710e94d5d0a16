import CatalogQuery.Text.Basic

/-!
# Quoted bodies

Between two delimiters a backslash makes the next character literal. `encode` writes a text so
that it can stand between double quotes, and `readTo` reads up to the first delimiter that no
backslash covers. Main statement: reading what `encode` wrote gives the text back and stops right
behind the closing quote (`readTo_encode`).
-/

namespace CatalogQuery
namespace Text
namespace Quoted

/-- One character of a quoted body: a backslash before a quote and before a backslash. -/
def encodeChar (c : Char) : Text := if c = '"' ∨ c = '\\' then ['\\', c] else [c]

/-- A text written to stand between double quotes. -/
def encode (t : Text) : Text := t.flatMap encodeChar

/-- Read up to the first `close` that no backslash covers: the text read, without its covering
backslashes, and what follows the delimiter. -/
def readTo (close : Char) : Text → Option (Text × Text)
  | [] => none
  | '\\' :: c :: r => (readTo close r).map fun p => (c :: p.1, p.2)
  | c :: r => if c = close then some ([], r) else (readTo close r).map fun p => (c :: p.1, p.2)

@[simp] theorem encode_nil : encode [] = [] := rfl

theorem encode_cons (c : Char) (t : Text) : encode (c :: t) = encodeChar c ++ encode t := rfl

/-- The same in two steps: backslashes before quotes, so that no backslash is covered twice. -/
theorem encode_eq_replaceChar (t : Text) :
    encode t = replaceChar '"' ['\\', '"'] (replaceChar '\\' ['\\', '\\'] t) := by
  induction t with
  | nil => rfl
  | cons c t ih =>
      rw [encode_cons, ih, replaceChar_cons, replaceChar_append, encodeChar]
      congr 1
      by_cases hb : c = '\\'
      · subst hb
        rfl
      · by_cases hq : c = '"'
        · subst hq
          rfl
        · simp [hb, hq, replaceChar]

/-! ## Reading back -/

@[simp] theorem readTo_covered (close c : Char) (r : Text) :
    readTo close ('\\' :: c :: r) = (readTo close r).map fun p => (c :: p.1, p.2) := rfl

theorem readTo_close {close : Char} (h : close ≠ '\\') (r : Text) :
    readTo close (close :: r) = some ([], r) := by
  unfold readTo
  split <;> simp_all

theorem readTo_plain {close c : Char} (hb : c ≠ '\\') (hc : c ≠ close) (r : Text) :
    readTo close (c :: r) = (readTo close r).map fun p => (c :: p.1, p.2) := by
  rw [readTo.eq_def]
  split <;> simp_all

/-- A quoted body reads back, whatever follows its closing quote. -/
theorem readTo_encode (t rest : Text) :
    readTo '"' (encode t ++ '"' :: rest) = some (t, rest) := by
  induction t with
  | nil => exact readTo_close (by decide) rest
  | cons c t ih =>
      rw [encode_cons, List.append_assoc, encodeChar]
      by_cases h : c = '"' ∨ c = '\\'
      · rw [if_pos h, List.cons_append, List.cons_append, List.nil_append, readTo_covered, ih]
        rfl
      · rw [if_neg h, List.cons_append, List.nil_append,
          readTo_plain (fun e => h (Or.inr e)) (fun e => h (Or.inl e)), ih]
        rfl

end Quoted
end Text
end CatalogQuery
