import CatalogQuery.Text.Basic

/-!
# Clauses

A clause is a part of a query that is not put together from others. What is between quotes or
between the brackets of a range belongs to it; elsewhere white space and parentheses end it.

`Place` is where a reader stands in a query. Main statement: a clause is told from what follows
it, since no clause goes on where another one ends (`admits_inj`).
-/

namespace CatalogQuery

/-- Where a reader of a query stands. -/
structure Place where
  /-- Behind a backslash, which covers the next character. -/
  escaped : Bool := false
  /-- Between double quotes. -/
  quoted : Bool := false
  /-- Between the brackets of a range. -/
  ranged : Bool := false
  deriving DecidableEq, Repr

namespace Place

/-- Where the reader stands behind the next character. -/
def after (p : Place) (x : Char) : Place :=
  if p.escaped then { p with escaped := false }
  else if x = '\\' then { p with escaped := true }
  else if x = '"' then { p with quoted := !p.quoted }
  else if p.quoted then p
  else if x = '[' ∨ x = '\x7b' then { p with ranged := true }
  else if x = ']' ∨ x = '\x7d' then { p with ranged := false }
  else p

/-- Neither between quotes nor between brackets. -/
def isOutside (p : Place) : Bool := !p.quoted && !p.ranged

/-- The characters that do not stand outside of quotes and brackets in a clause. -/
def isDelimiter (x : Char) : Bool := Text.isBlankChar x || x == '(' || x == ')'

/-- From here, does a text have no delimiter outside of quotes and brackets, and does it close
them? -/
def admits (p : Place) : Text → Bool
  | [] => p.isOutside
  | x :: r => !(p.isOutside && isDelimiter x) && (p.after x).admits r

/-- Behind what is admitted, another delimiter is not. -/
theorem admits_append_delimiter {p : Place} {l : Text} {x : Char} {r : Text}
    (hl : p.admits l = true) (hx : isDelimiter x = true) : p.admits (l ++ x :: r) = false := by
  induction l generalizing p with
  | nil =>
      have hp : p.isOutside = true := hl
      simp [admits, hp, hx]
  | cons y l ih =>
      simp only [admits, Bool.and_eq_true] at hl
      simp [admits, ih hl.2]

/-- Of two texts that are admitted, neither goes on where the other one ends. -/
theorem admits_inj {p : Place} {l m r s : Text} (hl : p.admits l = true) (hm : p.admits m = true)
    (hr : ∀ x ∈ r.head?, isDelimiter x = true) (hs : ∀ x ∈ s.head?, isDelimiter x = true)
    (h : l ++ r = m ++ s) : l = m := by
  rcases List.append_eq_append_iff.mp h with ⟨a, rfl, hra⟩ | ⟨a, rfl, hsa⟩
  · cases a with
    | nil => exact (List.append_nil l).symm
    | cons x a =>
        have hx : isDelimiter x = true := hr x (by simp [hra])
        rw [admits_append_delimiter hl hx] at hm
        cases hm
  · cases a with
    | nil => exact List.append_nil m
    | cons x a =>
        have hx : isDelimiter x = true := hs x (by simp [hsa])
        rw [admits_append_delimiter hm hx] at hl
        cases hl

end Place

/-- A text that says something, is not a word of the query language, closes its quotes and
brackets, and has neither white space nor parentheses outside of them. -/
def IsClause (t : Text) : Prop :=
  t ≠ [] ∧ t ∉ ["AND".toList, "OR".toList, "NOT".toList] ∧ Place.admits {} t = true

instance (t : Text) : Decidable (IsClause t) := inferInstanceAs (Decidable (_ ∧ _ ∧ _))

/-- A clause begins with a character that is no delimiter. -/
theorem IsClause.exists_cons {t : Text} (h : IsClause t) :
    ∃ x r, t = x :: r ∧ Place.isDelimiter x = false := by
  obtain ⟨x, r, rfl⟩ := List.exists_cons_of_ne_nil h.1
  have hadmits : Place.admits {} (x :: r) = true := h.2.2
  simp only [Place.admits, Bool.and_eq_true, Bool.not_eq_true', Bool.and_eq_false_iff] at hadmits
  exact ⟨x, r, rfl, hadmits.1.resolve_left (by decide)⟩

theorem IsClause.isBlank_eq_false {t : Text} (h : IsClause t) : Text.isBlank t = false := by
  obtain ⟨x, r, rfl, hx⟩ := h.exists_cons
  simp only [Place.isDelimiter, Bool.or_eq_false_iff] at hx
  exact Text.isBlank_eq_false List.mem_cons_self hx.1.1

end CatalogQuery
