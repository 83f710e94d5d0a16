import CatalogQuery.Text.Escape

/-!
# Wildcards in escaped texts

A wildcard or a slash in a term is active, unless the caller has put a backslash before it that is
not itself covered: so it is active behind an even number of backslashes. The backslashes that
escaping adds stand before operators, never among those before a wildcard.

* `marks`: the wildcards and slashes of a text in order, each active or not;
* `marksBehind_escape`: escaping changes none of them, whatever stands before the text;
* `marks_and_hasWildcard_escape`: so the whole text has the same ones before and after.
-/

namespace CatalogQuery
namespace Text

variable {c : Char} {before other : Text}

/-! ## Marks -/

/-- A wildcard or a slash. -/
def isMark (c : Char) : Bool := isWildcard c || c == '/'

/-- The number of backslashes at the end of a text. -/
def backslashesAtEnd (t : Text) : Nat := (t.reverse.takeWhile (· == '\\')).length

/-- Is a mark right behind a text active? -/
def activeBehind (before : Text) : Bool := backslashesAtEnd before % 2 == 0

/-- The marks of a text that stands behind another one, in order, each active or not. -/
def marksBehind (before : Text) : Text → List (Char × Bool)
  | [] => []
  | c :: r =>
    if isMark c then (c, activeBehind before) :: marksBehind (before ++ [c]) r
    else marksBehind (before ++ [c]) r

/-- The marks of a text in order, each active or not. -/
def marks (t : Text) : List (Char × Bool) := marksBehind [] t

theorem backslashesAtEnd_concat (before : Text) (c : Char) :
    backslashesAtEnd (before ++ [c]) = if c = '\\' then backslashesAtEnd before + 1 else 0 := by
  unfold backslashesAtEnd
  rw [List.reverse_append, List.reverse_singleton, List.singleton_append, List.takeWhile_cons]
  by_cases hc : c = '\\' <;> simp [hc]

theorem marksBehind_plain (hc : isMark c = false) (before r : Text) :
    marksBehind before (c :: r) = marksBehind (before ++ [c]) r := by
  rw [marksBehind, hc, if_neg Bool.false_ne_true]

/-! ## Escaping -/

theorem isMark_eq_false_of_isReserved (h : isReserved c = true) : isMark c = false := by
  have hall : reserved.all (fun x => !isMark x) = true := by decide
  simpa using all_of_isReserved hall h

/-- The same backslashes stand before what follows a character. -/
theorem backslashesAtEnd_concat_congr (h : backslashesAtEnd before = backslashesAtEnd other)
    (c : Char) : backslashesAtEnd (before ++ [c]) = backslashesAtEnd (other ++ [c]) := by
  rw [backslashesAtEnd_concat, backslashesAtEnd_concat, h]

/-- Behind another character than a backslash, it does not matter what stands before that one. -/
theorem backslashesAtEnd_concat_ne (hc : c ≠ '\\') (before other : Text) :
    backslashesAtEnd (before ++ [c]) = backslashesAtEnd (other ++ [c]) := by
  rw [backslashesAtEnd_concat, backslashesAtEnd_concat, if_neg hc, if_neg hc]

/-- Behind equally many backslashes, an escaped text has the marks of the text itself. -/
theorem marksBehind_escape (h : backslashesAtEnd before = backslashesAtEnd other) (t : Text) :
    marksBehind before (escape t) = marksBehind other t := by
  have hback : isMark '\\' = false := rfl
  -- an added backslash is counted only up to the operator behind it, where the count begins anew
  induction t using escape.induct generalizing before other with
  | case1 => rfl
  | case2 r ih =>
      have hand : isMark '&' = false := rfl
      rw [escape_and_pair, marksBehind_plain hback, marksBehind_plain hand,
        marksBehind_plain hand, marksBehind_plain hand, marksBehind_plain hand]
      exact ih (backslashesAtEnd_concat_ne (by decide) _ _)
  | case3 r ih =>
      have hor : isMark '|' = false := rfl
      rw [escape_or_pair, marksBehind_plain hback, marksBehind_plain hor,
        marksBehind_plain hor, marksBehind_plain hor, marksBehind_plain hor]
      exact ih (backslashesAtEnd_concat_ne (by decide) _ _)
  | case4 c r ha ho hc ih =>
      have hmark : isMark c = false := isMark_eq_false_of_isReserved hc
      rw [escape_cons ha ho, if_pos hc, marksBehind_plain hback, marksBehind_plain hmark,
        marksBehind_plain hmark]
      exact ih (backslashesAtEnd_concat_ne (ne_backslash_of_isReserved hc) _ _)
  | case5 c r ha ho hc ih =>
      have hactive : activeBehind before = activeBehind other := by
        rw [activeBehind, activeBehind, h]
      rw [escape_cons ha ho, if_neg hc, marksBehind, marksBehind, hactive,
        ih (backslashesAtEnd_concat_congr h c)]

/-- Escaping a text keeps its wildcards and slashes in order, each as active as it was, and so adds
and removes no wildcard. -/
theorem marks_and_hasWildcard_escape (t : Text) :
    marks (escape t) = marks t ∧ hasWildcard (escape t) = hasWildcard t :=
  ⟨marksBehind_escape rfl t, hasWildcard_escape t⟩

example : marks (escape "\\*(?)\\\\/".toList) = [('*', false), ('?', true), ('/', true)] := by
  decide

end Text
end CatalogQuery
