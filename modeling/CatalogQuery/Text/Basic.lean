/-!
# Text

Names, literals and query texts are lists of characters, so that every statement about what is
written or read is a statement about lists.

* `isBlankChar`, `isBlank`, `trim`, `words`: white space, and what is left between it;
* `join`: parts with a separator between them;
* `mentions`: does a text occur inside another;
* `replaceChar`: one character written as a text of its own;
* `afterFront`: what is left of a text behind a given beginning;
* `lowerAscii`: the ASCII letters in lower case.
-/

namespace CatalogQuery

/-- A text is the list of its characters. -/
abbrev Text := List Char

namespace Text

/-! ## White space -/

/-- The characters with the Unicode property `White_Space`. -/
def isBlankChar (c : Char) : Bool :=
  let n := c.toNat
  (0x9 ≤ n && n ≤ 0xD) || n == 0x20 || n == 0x85 || n == 0xA0 || n == 0x1680 ||
    (0x2000 ≤ n && n ≤ 0x200A) || n == 0x2028 || n == 0x2029 || n == 0x202F || n == 0x205F ||
    n == 0x3000

/-- Nothing but white space. -/
def isBlank (t : Text) : Bool := t.all isBlankChar

theorem isBlank_iff {t : Text} : isBlank t = true ↔ ∀ c ∈ t, isBlankChar c = true :=
  List.all_eq_true

theorem isBlank_eq_false {t : Text} {c : Char} (hc : c ∈ t) (h : isBlankChar c = false) :
    isBlank t = false :=
  List.all_eq_false.mpr ⟨c, hc, by simp [h]⟩

/-- The text without the white space at its two ends. -/
def trim (t : Text) : Text :=
  ((t.dropWhile isBlankChar).reverse.dropWhile isBlankChar).reverse

/-- The maximal runs without white space, in order. -/
def words (t : Text) : List Text := (t.splitOnP isBlankChar).filter (· ≠ [])

/-! ## Parts -/

/-- The parts with `sep` between any two neighbours. -/
def join (sep : Text) : List Text → Text
  | [] => []
  | [p] => p
  | p :: q :: ps => p ++ sep ++ join sep (q :: ps)

@[simp] theorem join_nil (sep : Text) : join sep [] = [] := rfl

@[simp] theorem join_singleton (sep p : Text) : join sep [p] = p := rfl

theorem join_cons_cons (sep p q : Text) (ps : List Text) :
    join sep (p :: q :: ps) = p ++ sep ++ join sep (q :: ps) := rfl

/-- Every part stands in the joined text. -/
theorem infix_join (sep : Text) {p : Text} {ps : List Text} (h : p ∈ ps) :
    p <:+: join sep ps := by
  induction ps with
  | nil => cases h
  | cons q ps ih =>
      cases ps with
      | nil =>
          obtain rfl := List.mem_singleton.mp h
          exact List.infix_rfl
      | cons r ps =>
          rw [join_cons_cons, List.append_assoc]
          rcases List.mem_cons.mp h with rfl | h
          · exact List.infix_append' [] p _
          · exact (ih h).trans ⟨q ++ sep, [], by simp⟩

/-- A character of a joined text is one of a part or of the separator. -/
theorem mem_join {sep : Text} {ps : List Text} {c : Char} (h : c ∈ join sep ps) :
    c ∈ sep ∨ ∃ p ∈ ps, c ∈ p := by
  induction ps with
  | nil => cases h
  | cons q ps ih =>
      cases ps with
      | nil => exact Or.inr ⟨q, List.mem_singleton_self q, h⟩
      | cons r ps =>
          rw [join_cons_cons, List.mem_append, List.mem_append] at h
          rcases h with (h | h) | h
          · exact Or.inr ⟨q, List.mem_cons_self, h⟩
          · exact Or.inl h
          · exact (ih h).imp_right fun ⟨p, hp, hc⟩ => ⟨p, List.mem_cons_of_mem q hp, hc⟩

/-- A joined text ends as its parts do. -/
theorem getLast?_join {sep : Text} {ps : List Text} {c : Char} (hps : ps ≠ [])
    (h : ∀ p ∈ ps, p.getLast? = some c) : (join sep ps).getLast? = some c := by
  induction ps with
  | nil => exact absurd rfl hps
  | cons p ps ih =>
      obtain ⟨hp, hrest⟩ := List.forall_mem_cons.mp h
      cases ps with
      | nil => exact hp
      | cons q ps =>
          have hlast := ih (List.cons_ne_nil q ps) hrest
          rw [join_cons_cons, List.getLast?_append, hlast, Option.some_or]

/-- Does `needle` occur as a run of neighbouring characters? -/
def mentions (needle : Text) : Text → Bool
  | [] => needle.isEmpty
  | c :: r => needle.isPrefixOf (c :: r) || mentions needle r

theorem mentions_iff {needle t : Text} : mentions needle t = true ↔ needle <:+: t := by
  induction t with
  | nil => simp [mentions]
  | cons c r ih => simp [mentions, ih, List.infix_cons_iff]

/-- Every `c` written as `by_`, all else kept. -/
def replaceChar (c : Char) (by_ : Text) (t : Text) : Text :=
  t.flatMap fun x => if x = c then by_ else [x]

@[simp] theorem replaceChar_nil (c : Char) (u : Text) : replaceChar c u [] = [] := rfl

theorem replaceChar_cons (c : Char) (u : Text) (x : Char) (t : Text) :
    replaceChar c u (x :: t) = (if x = c then u else [x]) ++ replaceChar c u t := rfl

theorem replaceChar_append (c : Char) (u s t : Text) :
    replaceChar c u (s ++ t) = replaceChar c u s ++ replaceChar c u t := by
  simp [replaceChar]

/-- A character of the text after replacement was there before, or replaces another. -/
theorem mem_replaceChar {c : Char} {u t : Text} {x : Char} (h : x ∈ replaceChar c u t) :
    x ∈ u ∨ x ∈ t := by
  obtain ⟨y, hy, hx⟩ := List.mem_flatMap.mp h
  split at hx
  · exact Or.inl hx
  · exact Or.inr (List.mem_singleton.mp hx ▸ hy)

/-- A replaced character is gone, unless it is in what replaces it. -/
theorem notMem_replaceChar {c : Char} {u : Text} (h : c ∉ u) (t : Text) :
    c ∉ replaceChar c u t := by
  intro hc
  obtain ⟨y, -, hy⟩ := List.mem_flatMap.mp hc
  split at hy
  · exact h hy
  · next hne => exact hne (List.mem_singleton.mp hy).symm

/-- Nothing is replaced where there is nothing to replace. -/
theorem replaceChar_of_notMem {c : Char} {t : Text} (h : c ∉ t) (u : Text) :
    replaceChar c u t = t := by
  induction t with
  | nil => rfl
  | cons x t ih =>
      rw [List.mem_cons, not_or] at h
      rw [replaceChar_cons, if_neg (Ne.symm h.1), ih h.2, List.singleton_append]

/-! ## Beginnings -/

/-- What is left of a text behind `front`, if it begins so. -/
def afterFront : Text → Text → Option Text
  | [], t => some t
  | _ :: _, [] => none
  | a :: front, c :: t => if a = c then afterFront front t else none

theorem afterFront_append (front t : Text) : afterFront front (front ++ t) = some t := by
  induction front with
  | nil => rfl
  | cons a front ih => rw [List.cons_append, afterFront, if_pos rfl, ih]

theorem eq_append_of_afterFront {front t r : Text} (h : afterFront front t = some r) :
    t = front ++ r := by
  induction front generalizing t with
  | nil => exact Option.some.inj h
  | cons a front ih =>
      cases t with
      | nil => cases h
      | cons c t =>
          rw [afterFront] at h
          by_cases hac : a = c
          · rw [if_pos hac] at h
            rw [ih h, hac, List.cons_append]
          · rw [if_neg hac] at h
            cases h

/-- The longest beginning with a property is `a` when all of `a` has it and what follows does
not. -/
theorem takeWhile_append_stop {p : Char → Bool} {a b : Text} (ha : ∀ c ∈ a, p c = true)
    (hb : ∀ c ∈ b.head?, p c = false) : (a ++ b).takeWhile p = a := by
  induction a with
  | nil =>
      cases b with
      | nil => rfl
      | cons c b => simp [hb c (by simp)]
  | cons c a ih =>
      rw [List.cons_append, List.takeWhile_cons, if_pos (ha c (by simp)),
        ih fun x hx => ha x (by simp [hx])]

/-- What is left behind the longest beginning with a property. -/
theorem dropWhile_append_stop {p : Char → Bool} {a b : Text} (ha : ∀ c ∈ a, p c = true)
    (hb : ∀ c ∈ b.head?, p c = false) : (a ++ b).dropWhile p = b := by
  induction a with
  | nil =>
      cases b with
      | nil => rfl
      | cons c b => simp [hb c (by simp)]
  | cons c a ih =>
      rw [List.cons_append, List.dropWhile_cons, if_pos (ha c (by simp)),
        ih fun x hx => ha x (by simp [hx])]

/-! ## ASCII case -/

/-- The letters `A` to `Z` in lower case, all else kept. -/
def lowerAscii (t : Text) : Text := t.map Char.toLower

/-- The letters `a` to `z` in upper case, all else kept. -/
def upperAscii (t : Text) : Text := t.map Char.toUpper

theorem toUpper_of_isBlankChar {c : Char} (h : isBlankChar c = true) : c.toUpper = c := by
  have hsmall : ¬(c.toNat ≥ 97 ∧ c.toNat ≤ 122) := by
    simp [isBlankChar] at h
    omega
  exact dif_neg hsmall

theorem upperAscii_of_isBlank {t : Text} (h : isBlank t = true) : upperAscii t = t := by
  refine (List.map_congr_left fun c hc => ?_).trans (List.map_id t)
  exact toUpper_of_isBlankChar (isBlank_iff.mp h c hc)

end Text
end CatalogQuery
