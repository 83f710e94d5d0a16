import CatalogQuery.Text.Basic

/-!
# Range clauses

`field:[lower TO upper]` finds the documents whose field holds a value between two bounds. Each
bound has its own bracket: square when the bound itself belongs to the range, curly when it does
not. A side without a bound is written as an inclusive `*`.

`read?` reads a clause back. Main statement: it finds the field and both bounds when the field has
no colon and the lower bound no space (`read?_text`), but for an inclusive `*`, which is read as no
bound (`Bound.canonical`). Behind a field that is known already, `readBounds?` reads the bounds
whatever the field is (`readBounds?_boundsText`), and nothing else is read as these bounds
(`boundsText_of_readBounds?`).
-/

namespace CatalogQuery

/-- One side of a range. -/
inductive Bound where
  | inclusive (value : Text)
  | exclusive (value : Text)
  | unbounded
  deriving DecidableEq, Repr

namespace Bound

/-- What stands for a bound. -/
def text : Bound → Text
  | inclusive v => v
  | exclusive v => v
  | unbounded => ['*']

/-- Does the bound itself lie outside the range? -/
def isExclusive : Bound → Bool
  | exclusive _ => true
  | _ => false

/-- The bracket before a lower bound. -/
def opening (b : Bound) : Char := if b.isExclusive then '\x7b' else '['

/-- The bracket after an upper bound. -/
def closing (b : Bound) : Char := if b.isExclusive then '\x7d' else ']'

/-- A bound as it is read: an inclusive `*` is none. -/
def canonical : Bound → Bound
  | inclusive v => if v = ['*'] then unbounded else inclusive v
  | b => b

/-- The bound for a text and the bracket beside it. -/
def read? (bracket square curly : Char) (value : Text) : Option Bound :=
  if bracket = square then some (canonical (inclusive value))
  else if bracket = curly then some (exclusive value)
  else none

theorem read?_opening (b : Bound) : read? b.opening '[' '\x7b' b.text = some b.canonical := by
  cases b <;> rfl

theorem read?_closing (b : Bound) : read? b.closing ']' '\x7d' b.text = some b.canonical := by
  cases b <;> rfl

/-- What is read as a bound is the bound as it is written. -/
theorem of_read?_eq_some {bracket square curly : Char} {value : Text} {b : Bound}
    (h : read? bracket square curly value = some b) :
    (if b.isExclusive then curly else square) = bracket ∧ b.text = value := by
  unfold read? at h
  by_cases hsquare : bracket = square
  · rw [if_pos hsquare] at h
    obtain rfl := Option.some.inj h
    by_cases hstar : value = ['*']
    · rw [canonical, if_pos hstar]
      exact ⟨hsquare.symm, hstar.symm⟩
    · rw [canonical, if_neg hstar]
      exact ⟨hsquare.symm, rfl⟩
  · rw [if_neg hsquare] at h
    by_cases hcurly : bracket = curly
    · rw [if_pos hcurly] at h
      obtain rfl := Option.some.inj h
      exact ⟨hcurly.symm, rfl⟩
    · rw [if_neg hcurly] at h
      cases h

/-- A bound that reads back as it is: no space ends it early, and no inclusive star stands for
it. -/
def IsReadable (b : Bound) : Prop := ' ' ∉ b.text ∧ b.canonical = b

theorem isReadable_inclusive {t : Text} (hspace : ' ' ∉ t) (hstar : '*' ∉ t) :
    (inclusive t).IsReadable :=
  ⟨hspace, if_neg fun h : t = ['*'] => hstar (h ▸ List.mem_singleton_self '*')⟩

theorem isReadable_unbounded : unbounded.IsReadable := ⟨by decide, rfl⟩

end Bound

/-- The values of a field between two bounds. -/
structure RangeClause where
  field : Text
  lower : Bound
  upper : Bound
  deriving DecidableEq, Repr

namespace RangeClause

/-- Any value at all. -/
def anyValue (field : Text) : RangeClause := ⟨field, .unbounded, .unbounded⟩

/-- A range clause as it stands in a query. -/
def text (r : RangeClause) : Text :=
  r.field ++ ':' :: r.lower.opening :: r.lower.text ++ " TO ".toList ++ r.upper.text ++
    [r.upper.closing]

/-! ## Reading back -/

/-- The word between the bounds. -/
def separator : Text := " TO ".toList

/-- A clause behind its field and colon. -/
def readBounds? (field : Text) : Text → Option RangeClause
  | [] => none
  | bracket :: r => do
    let lower ← Bound.read? bracket '[' '\x7b' (r.takeWhile (· ≠ ' '))
    let r ← Text.afterFront separator (r.dropWhile (· ≠ ' '))
    let upper ← Bound.read? (← r.getLast?) ']' '\x7d' r.dropLast
    pure ⟨field, lower, upper⟩

/-- A whole text as a range clause. -/
def read? (t : Text) : Option RangeClause :=
  match t.dropWhile (· ≠ ':') with
  | [] => none
  | _ :: r => readBounds? (t.takeWhile (· ≠ ':')) r

/-- A clause with the bounds as they are read. -/
def canonical (r : RangeClause) : RangeClause := ⟨r.field, r.lower.canonical, r.upper.canonical⟩

/-- The part of a clause behind its field and colon. -/
def boundsText (r : RangeClause) : Text :=
  r.lower.opening :: r.lower.text ++ separator ++ r.upper.text ++ [r.upper.closing]

theorem text_eq (r : RangeClause) : r.text = r.field ++ ':' :: r.boundsText := by
  simp [text, boundsText, separator]

/-- The bounds read back, behind whatever field, when the lower one has no space. -/
theorem readBounds?_boundsText (field : Text) (r : RangeClause) (hl : ' ' ∉ r.lower.text) :
    readBounds? field r.boundsText = some ⟨field, r.lower.canonical, r.upper.canonical⟩ := by
  have hl' : ∀ c ∈ r.lower.text, decide (c ≠ ' ') = true := fun c hc =>
    decide_eq_true fun e => hl (e ▸ hc)
  have hs : ∀ c ∈ (separator ++ (r.upper.text ++ [r.upper.closing])).head?,
      decide (c ≠ ' ') = false := by simp [separator]
  have e : r.boundsText = r.lower.opening ::
      (r.lower.text ++ (separator ++ (r.upper.text ++ [r.upper.closing]))) := by
    simp [boundsText]
  rw [e, readBounds?, Text.dropWhile_append_stop hl' hs, Text.takeWhile_append_stop hl' hs,
    Bound.read?_opening, Text.afterFront_append]
  simp [Bound.read?_closing]

/-- Readable bounds read back as they are. -/
theorem readBounds?_of_isReadable (field : Text) {r : RangeClause} (hl : r.lower.IsReadable)
    (hu : r.upper.IsReadable) :
    readBounds? field r.boundsText = some ⟨field, r.lower, r.upper⟩ := by
  rw [readBounds?_boundsText field r hl.1, hl.2, hu.2]

/-- Only the bounds as they are written are read as bounds. -/
theorem boundsText_of_readBounds? {field t : Text} {r : RangeClause}
    (h : readBounds? field t = some r) : r.boundsText = t := by
  cases t with
  | nil => cases h
  | cons bracket t =>
      simp only [readBounds?, Option.bind_eq_bind, Option.bind_eq_some_iff] at h
      obtain ⟨lower, hlower, behind, hbehind, closing, hclosing, upper, hupper, hr⟩ := h
      obtain rfl := Option.some.inj hr
      obtain ⟨hopening, hfrom⟩ := Bound.of_read?_eq_some hlower
      obtain ⟨hclosed, hto⟩ := Bound.of_read?_eq_some hupper
      have hsplit := List.takeWhile_append_dropWhile (p := (· ≠ ' ')) (l := t)
      obtain ⟨value, rfl⟩ := List.getLast?_eq_some_iff.mp hclosing
      rw [List.dropLast_concat] at hto
      rw [← hfrom, Text.eq_append_of_afterFront hbehind] at hsplit
      rw [boundsText, hto, Bound.opening, Bound.closing, hopening, hclosed, ← hsplit]
      simp

/-- A clause reads back when its field has no colon and its lower bound no space. -/
theorem read?_text (r : RangeClause) (hf : ':' ∉ r.field) (hl : ' ' ∉ r.lower.text) :
    read? r.text = some r.canonical := by
  have hf' : ∀ c ∈ r.field, decide (c ≠ ':') = true := fun c hc =>
    decide_eq_true fun e => hf (e ▸ hc)
  have hs : ∀ c ∈ (':' :: r.boundsText).head?, decide (c ≠ ':') = false := by simp
  rw [read?, r.text_eq, Text.dropWhile_append_stop hf' hs, Text.takeWhile_append_stop hf' hs]
  exact readBounds?_boundsText r.field r hl

/-! ## Ranges of a comparison -/

/-- Above a value. -/
def above (field value : Text) : RangeClause := ⟨field, .exclusive value, .unbounded⟩

/-- A value or above it. -/
def atLeast (field value : Text) : RangeClause := ⟨field, .inclusive value, .unbounded⟩

/-- Below a value. -/
def below (field value : Text) : RangeClause := ⟨field, .unbounded, .exclusive value⟩

/-- A value or below it. -/
def atMost (field value : Text) : RangeClause := ⟨field, .unbounded, .inclusive value⟩

/-- From one value to another, both included. -/
def between (field lower upper : Text) : RangeClause :=
  ⟨field, .inclusive lower, .inclusive upper⟩

/-- Strictly between two values. -/
def strictlyBetween (field lower upper : Text) : RangeClause :=
  ⟨field, .exclusive lower, .exclusive upper⟩

end RangeClause
end CatalogQuery
