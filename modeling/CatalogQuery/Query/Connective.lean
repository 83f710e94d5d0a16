import CatalogQuery.Text.Basic

/-!
# Connectives

Groups of predicates are joined by one of two connectives, which are written differently in
queries and in path expressions.
-/

namespace CatalogQuery

/-- How the members of a group are joined. -/
inductive Connective where
  | and
  | or
  deriving DecidableEq, Repr

namespace Connective

/-- The connective between queries. -/
def keyword : Connective → Text
  | and => "AND".toList
  | or => "OR".toList

/-- The connective between path expressions; also its name. -/
def pathKeyword : Connective → Text
  | and => "and".toList
  | or => "or".toList

/-- Both connectives. -/
def all : List Connective := [and, or]

/-- The connective with exactly this name. -/
def ofName? (t : Text) : Option Connective := all.find? (·.pathKeyword == t)

/-- Texts in parentheses with a word between any two neighbours. -/
def group (word : Text) (parts : List Text) : Text :=
  '(' :: Text.join (' ' :: word ++ [' ']) parts ++ [')']

/-- Does a group hold, given which of its members do? -/
def value : Connective → List Bool → Bool
  | and, bs => bs.all id
  | or, bs => bs.any id

theorem ofName?_pathKeyword (c : Connective) : ofName? c.pathKeyword = some c := by
  cases c <;> rfl

/-! ## Groups as they are written -/

theorem group_eq (word : Text) (ps : List Text) :
    group word ps = '(' :: (Text.join (' ' :: word ++ [' ']) ps ++ [')']) := rfl

theorem infix_group (word : Text) {p : Text} {ps : List Text} (h : p ∈ ps) :
    p <:+: group word ps :=
  (Text.infix_join _ h).trans ⟨['('], [')'], rfl⟩

/-- A group is longer than each of its members. -/
theorem length_lt_group (word : Text) {p : Text} {ps : List Text} (h : p ∈ ps) :
    p.length < (group word ps).length := by
  have := (Text.infix_join (' ' :: word ++ [' ']) h).length_le
  rw [group_eq, List.length_cons, List.length_append]
  omega

/-- So a group is none of its members. -/
theorem ne_group (word : Text) {p : Text} {ps : List Text} (h : p ∈ ps) : p ≠ group word ps :=
  fun e => absurd (length_lt_group word h) (by rw [← e]; exact Nat.lt_irrefl _)

/-- The characters that a group has besides those of its members. -/
def frame (word : Text) : List Char := ['(', ' ', ')'] ++ word

/-- A character that joins nothing is in a group when it is in a member. -/
theorem mem_group {word : Text} {ps : List Text} {x : Char} (hx : x ∉ frame word) :
    x ∈ group word ps ↔ ∃ p ∈ ps, x ∈ p := by
  constructor
  · intro h
    simp only [frame, List.mem_append, List.mem_cons, not_or] at hx
    rw [group_eq, List.mem_cons, List.mem_append] at h
    rcases h with h | h | h
    · exact absurd h hx.1.1
    · refine (Text.mem_join h).resolve_left fun hsep => ?_
      simp [hx] at hsep
    · exact absurd (List.mem_singleton.mp h) hx.1.2.2.1
  · rintro ⟨p, hp, hxp⟩
    exact (infix_group word hp).subset hxp

/-! ## When a group holds -/

/-- It does not depend on the order of the members, nor on how often they are there. -/
theorem value_congr (c : Connective) {as bs : List Bool} (h : ∀ b, b ∈ as ↔ b ∈ bs) :
    c.value as = c.value bs := by
  rw [Bool.eq_iff_iff]
  cases c with
  | and => simp only [value, List.all_eq_true, h]
  | or => simp only [value, List.any_eq_true, h]

/-- Two groups whose members have the same values hold alike. -/
theorem value_map_congr {α β : Type} (c : Connective) {as : List α} {bs : List β} {f : α → Bool}
    {g : β → Bool} (has : ∀ a ∈ as, ∃ b ∈ bs, g b = f a) (hbs : ∀ b ∈ bs, ∃ a ∈ as, f a = g b) :
    c.value (as.map f) = c.value (bs.map g) := by
  apply value_congr
  intro x
  rw [List.mem_map, List.mem_map]
  constructor
  · rintro ⟨a, ha, rfl⟩
    exact has a ha
  · rintro ⟨b, hb, rfl⟩
    exact hbs b hb

/-- A group of one member holds when the member does. -/
theorem value_singleton (c : Connective) (b : Bool) : c.value [b] = b := by
  cases c <;> simp [value]

end Connective
end CatalogQuery
