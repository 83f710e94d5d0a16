import Mathlib.Data.List.Basic
import CatalogQuery.Query.RangeClause

/-!
# Readings of range clauses

A text is read as a range clause by cutting it into a field, an opening bracket, a lower text, the
word `TO`, an upper text and a closing bracket. The field ends at the first colon. A bound may have
colons, brackets and the letters of the separator in it, or nothing at all: as long as neither
bound has a space, the two spaces of the separator are the only ones behind the field, and no other
cut is possible.

* `RangeClause.append_separator_inj`: two texts without spaces are told from what the separator
  makes of them;
* `RangeParts.IsReading`: the parts that a text is cut into;
* `RangeParts.clause?_ofClause`: the parts of a clause stand for the clause, but for an inclusive
  `*`, which stands for no bound;
* `RangeClause.existsUnique_isReading_and_text_eq_iff`: there is one reading, it gives the clause
  back but for that, and so texts are the same just if the clauses are, but for that.
-/

namespace CatalogQuery

/-- A text is cut in one way at the first of some character. -/
theorem Text.append_cons_inj {c : Char} {a b s t : Text} (hs : c ∉ s) (ht : c ∉ t) :
    s ++ c :: a = t ++ c :: b ↔ s = t ∧ a = b := by
  refine ⟨fun h => ?_, fun ⟨hst, hab⟩ => by rw [hst, hab]⟩
  have hfront : ∀ {u : Text} (r : Text), c ∉ u → (u ++ c :: r).takeWhile (· ≠ c) = u := by
    intro u r hu
    refine takeWhile_append_stop (fun x hx => decide_eq_true ?_) (by simp)
    rintro rfl
    exact hu hx
  have hst : s = t := by rw [← hfront a hs, h, hfront b ht]
  subst hst
  exact ⟨rfl, (List.cons.inj (List.append_cancel_left h)).2⟩

/-- The separator of two texts without spaces is the only one between any two texts. -/
theorem RangeClause.append_separator_inj {a b s t : Text} (hs : ' ' ∉ s) (ht : ' ' ∉ t) :
    a ++ separator ++ b = s ++ separator ++ t ↔ a = s ∧ b = t := by
  refine ⟨fun h => ?_, fun ⟨has, hbt⟩ => by rw [has, hbt]⟩
  have htwo : separator.count ' ' = 2 := by decide
  -- both spaces belong to the separator, so none is left for the other two texts
  have hcount : a.count ' ' + 2 + b.count ' ' = 2 := by
    have hboth := congrArg (List.count ' ') h
    simp only [List.count_append, htwo, List.count_eq_zero_of_not_mem hs,
      List.count_eq_zero_of_not_mem ht] at hboth
    omega
  have ha : ' ' ∉ a := List.count_eq_zero.mp (by omega)
  have hcut : a ++ ' ' :: ("TO ".toList ++ b) = s ++ ' ' :: ("TO ".toList ++ t) := by
    simpa [separator] using h
  obtain ⟨has, hbehind⟩ := (Text.append_cons_inj ha hs).mp hcut
  exact ⟨has, List.append_cancel_left hbehind⟩

/-- The parts that a range clause is written with. -/
structure RangeParts where
  field : Text
  opening : Char
  lower : Text
  upper : Text
  closing : Char
  deriving DecidableEq, Repr

namespace RangeParts

variable {p : RangeParts}

/-- The parts in a row, with a colon behind the field and the separator between the bounds. -/
def text (p : RangeParts) : Text :=
  p.field ++ ':' :: p.opening :: (p.lower ++ RangeClause.separator ++ p.upper ++ [p.closing])

/-- A text is made of these parts, the field being what stands before the first colon. -/
def IsReading (p : RangeParts) (t : Text) : Prop := ':' ∉ p.field ∧ p.text = t

/-- The clause that the parts stand for, each bound by its text and the bracket beside it. -/
def clause? (p : RangeParts) : Option RangeClause := do
  let lower ← Bound.read? p.opening '[' '\x7b' p.lower
  let upper ← Bound.read? p.closing ']' '\x7d' p.upper
  pure ⟨p.field, lower, upper⟩

/-- The parts of a clause. -/
def ofClause (r : RangeClause) : RangeParts :=
  ⟨r.field, r.lower.opening, r.lower.text, r.upper.text, r.upper.closing⟩

theorem text_ofClause (r : RangeClause) : (ofClause r).text = r.text := by
  simp [text, ofClause, RangeClause.text_eq, RangeClause.boundsText]

/-- The parts of a clause stand for the clause as it is read. -/
theorem clause?_ofClause (r : RangeClause) : (ofClause r).clause? = some r.canonical := by
  simp only [clause?, ofClause, Bound.read?_opening, Bound.read?_closing]
  rfl

end RangeParts

namespace RangeClause

variable {r s : RangeClause}

/-- A clause with a field without colons and bounds without spaces. -/
structure IsPlain (r : RangeClause) : Prop where
  field : ':' ∉ r.field
  lower : ' ' ∉ r.lower.text
  upper : ' ' ∉ r.upper.text

/-- A plain clause is cut into its own parts and no others. -/
theorem isReading_text_iff (h : r.IsPlain) {p : RangeParts} :
    p.IsReading r.text ↔ p = RangeParts.ofClause r := by
  constructor
  · rintro ⟨hcolon, htext⟩
    rw [← RangeParts.text_ofClause] at htext
    obtain ⟨hfield, hbehind⟩ := (Text.append_cons_inj hcolon h.field).mp htext
    obtain ⟨hopening, hbounds⟩ := List.cons.inj hbehind
    obtain ⟨hvalues, hlast⟩ := List.append_inj' hbounds rfl
    have hclosing : p.closing = r.upper.closing := List.singleton_inj.mp hlast
    obtain ⟨hlower, hupper⟩ := (append_separator_inj h.lower h.upper).mp hvalues
    obtain ⟨field, opening, lower, upper, closing⟩ := p
    rw [RangeParts.ofClause, RangeParts.mk.injEq]
    exact ⟨hfield, hopening, hlower, hupper, hclosing⟩
  · rintro rfl
    exact ⟨h.field, RangeParts.text_ofClause r⟩

/-- Reading a bound does not change how it is written. -/
theorem text_canonical (r : RangeClause) : r.canonical.text = r.text := by
  obtain ⟨hopening, hlower⟩ := Bound.of_read?_eq_some r.lower.read?_opening
  obtain ⟨hclosing, hupper⟩ := Bound.of_read?_eq_some r.upper.read?_closing
  rw [text, text, canonical, Bound.opening, Bound.closing, hopening, hlower, hclosing, hupper]

/-- The text of a clause with a field without colons and bounds without spaces has one reading. It
gives the field and the bounds, with an inclusive `*` for no bound, and this is what the clause
reads back as. So two such clauses have the same text just if they are the same but for that. -/
theorem existsUnique_isReading_and_text_eq_iff (hr : r.IsPlain) (hs : s.IsPlain) :
    (∃! p : RangeParts, p.IsReading r.text) ∧
    (∀ p : RangeParts, p.IsReading r.text → p.clause? = some r.canonical) ∧
    read? r.text = some r.canonical ∧
    (r.text = s.text ↔ r.canonical = s.canonical) := by
  have hclause : ∀ p : RangeParts, p.IsReading r.text → p.clause? = some r.canonical := by
    intro p hp
    rw [(isReading_text_iff hr).mp hp]
    exact RangeParts.clause?_ofClause r
  refine ⟨⟨RangeParts.ofClause r, (isReading_text_iff hr).mpr rfl, fun p hp => ?_⟩, hclause,
    read?_text r hr.field hr.lower, fun h => ?_, fun h => ?_⟩
  · exact (isReading_text_iff hr).mp hp
  · have hparts : (RangeParts.ofClause s).IsReading r.text := by
      rw [h]
      exact (isReading_text_iff hs).mpr rfl
    have hsame := (hclause _ hparts).symm.trans (RangeParts.clause?_ofClause s)
    exact Option.some.inj hsame
  · rw [← text_canonical r, h, text_canonical s]

/-- From an inclusive `*`, and from no bound, below a value with a separator of its own in it. -/
theorem existsUnique_isReading_and_text_eq_iff_star :
    IsPlain ⟨"n".toList, .inclusive ['*'], .exclusive "a:TO]".toList⟩ ∧
    IsPlain ⟨"n".toList, .unbounded, .exclusive "a:TO]".toList⟩ ∧
    text ⟨"n".toList, .inclusive ['*'], .exclusive "a:TO]".toList⟩ = "n:[* TO a:TO]\x7d".toList ∧
    text ⟨"n".toList, .inclusive ['*'], .exclusive "a:TO]".toList⟩ =
      text ⟨"n".toList, .unbounded, .exclusive "a:TO]".toList⟩ := by
  have hr : IsPlain ⟨"n".toList, .inclusive ['*'], .exclusive "a:TO]".toList⟩ :=
    ⟨by decide, by decide, by decide⟩
  have hs : IsPlain ⟨"n".toList, .unbounded, .exclusive "a:TO]".toList⟩ :=
    ⟨by decide, by decide, by decide⟩
  obtain ⟨-, -, -, hsame⟩ := existsUnique_isReading_and_text_eq_iff hr hs
  exact ⟨hr, hs, by decide, hsame.mpr rfl⟩

end RangeClause
end CatalogQuery
