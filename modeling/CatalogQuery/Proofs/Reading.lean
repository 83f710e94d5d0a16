import CatalogQuery.Query.Clause
import CatalogQuery.Query.Formula

/-!
# Formulas read back from their text

A formula is written without a mark where a member of a group ends and the next word begins, and a
negation has no parentheses of its own. It can be read back all the same when its leaves can be
told from what follows them (`Legible`): the text and the place where it ends determine the
formula, but for the operators of single members (`canonical_eq_of_append`). So two formulas have
one text exactly when they have one canonical form (`text_eq_iff`), and what is written as one
text holds or fails together (`value_eq_of_text_eq`).
-/

namespace CatalogQuery
namespace Formula

/-- What may follow a member of a group: nothing, a space or a closing parenthesis. -/
def IsEnd (r : Text) : Prop := ∀ x ∈ r.head?, x = ' ' ∨ x = ')'

theorem isEnd_nil : IsEnd [] := by simp [IsEnd]

theorem isEnd_space (r : Text) : IsEnd (' ' :: r) := by simp [IsEnd]

theorem isEnd_close (r : Text) : IsEnd (')' :: r) := by simp [IsEnd]

theorem IsEnd.isDelimiter {r : Text} (hr : IsEnd r) :
    ∀ x ∈ r.head?, Place.isDelimiter x = true := by
  intro x hx
  rcases hr x hx with rfl | rfl
  · decide
  · decide

/-- Words that begin differently are different words, whatever follows them. -/
theorem connective_eq_of_append {word : Connective → Text}
    (hhead : (word .and ++ [' ']).head? ≠ (word .or ++ [' ']).head?) {c d : Connective} {x y : Text}
    (h : word c ++ ' ' :: x = word d ++ ' ' :: y) : c = d := by
  have head : ∀ (c : Connective) (x : Text),
      (word c ++ ' ' :: x).head? = (word c ++ [' ']).head? := by
    intro c x
    cases word c with
    | nil => rfl
    | cons a w => rfl
  have hcd : (word c ++ [' ']).head? = (word d ++ [' ']).head? := by
    rw [← head c x, h, head d y]
  cases c with
  | and =>
      cases d with
      | and => rfl
      | or => exact absurd hcd hhead
  | or =>
      cases d with
      | and => exact absurd hcd.symm hhead
      | or => rfl

/-- The words for the connectives differ, and a leaf is told from a group, from a negation and from
any other leaf by what stands before an end. -/
structure Legible (word : Connective → Text) (P : Text → Prop) : Prop where
  word_inj : ∀ {c d : Connective} {x y : Text}, word c ++ ' ' :: x = word d ++ ' ' :: y → c = d
  leaf_ne_group : ∀ {l r s : Text}, P l → IsEnd r → l ++ r ≠ '(' :: s
  leaf_ne_negation : ∀ {l r s : Text}, P l → IsEnd r → l ++ r ≠ "NOT ".toList ++ s
  leaf_inj : ∀ {l m r s : Text}, P l → P m → IsEnd r → IsEnd s → l ++ r = m ++ s → l = m

section

variable {word : Connective → Text} {P : Text → Prop}

/-- A formula that is known, with its end, from any text that begins with it. -/
def IsKnown (word : Connective → Text) (P : Text → Prop) (e : Formula Text) : Prop :=
  ∀ e' : Formula Text, e'.Over P → ∀ r s, IsEnd r → IsEnd s →
    text word e ++ r = text word e' ++ s → canonical e = canonical e' ∧ r = s

/-! ## Groups -/

/-- What stands behind the first member of a group: the other members, each with the word for the
connective before it, the closing parenthesis, and what follows the group. -/
def behindFirst (word : Connective → Text) (c : Connective) (r : Text) :
    List (Formula Text) → Text
  | [] => ')' :: r
  | m :: ms => ' ' :: (word c ++ ' ' :: (text word m ++ behindFirst word c r ms))

theorem isEnd_behindFirst (c : Connective) (r : Text) (ms : List (Formula Text)) :
    IsEnd (behindFirst word c r ms) := by
  cases ms with
  | nil => exact isEnd_close r
  | cons m ms => exact isEnd_space _

/-- What is written for a group and what follows it. -/
theorem text_group_append (c : Connective) (m : Formula Text) (ms : List (Formula Text))
    (r : Text) :
    text word (.group c (m :: ms)) ++ r = '(' :: (text word m ++ behindFirst word c r ms) := by
  have members : ∀ (ms : List (Formula Text)) (m : Formula Text),
      Text.join (' ' :: word c ++ [' ']) ((m :: ms).map (text word)) ++ ')' :: r
        = text word m ++ behindFirst word c r ms := by
    intro ms
    induction ms with
    | nil =>
        intro m
        rfl
    | cons n ms ih =>
        intro m
        rw [behindFirst, ← ih n]
        simp [Text.join_cons_cons]
  rw [text_group, Connective.group_eq, ← members ms m]
  simp

/-- Behind the first member, members that are known one by one are known together, with the word
between them if there is one and with what follows the group. -/
theorem members_eq_of_behindFirst (hl : Legible word P) {c d : Connective} {r s : Text}
    {ms : List (Formula Text)} (hms : ∀ m ∈ ms, IsKnown word P m) {ns : List (Formula Text)}
    (hns : ∀ n ∈ ns, n.Over P) (h : behindFirst word c r ms = behindFirst word d s ns) :
    ms.map canonical = ns.map canonical ∧ (ms = [] ∨ c = d) ∧ r = s := by
  -- A parenthesis or a space: the first character says whether there is another member.
  induction ms generalizing ns with
  | nil =>
      cases ns with
      | nil => exact ⟨rfl, Or.inl rfl, (List.cons.inj h).2⟩
      | cons n ns => exact absurd (List.cons.inj h).1 (by decide)
  | cons m ms ih =>
      cases ns with
      | nil => exact absurd (List.cons.inj h).1 (by decide)
      | cons n ns =>
          have hwords : word c ++ ' ' :: (text word m ++ behindFirst word c r ms)
              = word d ++ ' ' :: (text word n ++ behindFirst word d s ns) := (List.cons.inj h).2
          have hcd : c = d := hl.word_inj hwords
          subst hcd
          have hmembers := (List.cons.inj (List.append_cancel_left hwords)).2
          obtain ⟨hmn, hbehind⟩ := hms m List.mem_cons_self n (hns n List.mem_cons_self) _ _
            (isEnd_behindFirst c r ms) (isEnd_behindFirst c s ns) hmembers
          obtain ⟨hmap, -, hrs⟩ := ih (fun x hx => hms x (List.mem_cons_of_mem m hx))
            (fun x hx => hns x (List.mem_cons_of_mem n hx)) hbehind
          exact ⟨by rw [List.map_cons, hmn, hmap, List.map_cons], Or.inr rfl, hrs⟩

/-! ## Whole formulas -/

theorem isKnown_leaf (hl : Legible word P) {t : Text} (ht : P t) :
    IsKnown word P (.leaf t) := by
  intro e' he' r s hr hs h
  cases he' with
  | @leaf t' ht' =>
      rw [text_leaf, text_leaf] at h
      have htt : t = t' := hl.leaf_inj ht ht' hr hs h
      subst htt
      exact ⟨rfl, List.append_cancel_left h⟩
  | negation _ =>
      rw [text_leaf, text_negation, List.append_assoc] at h
      exact absurd h (hl.leaf_ne_negation ht hr)
  | @group d ns hne' _ =>
      obtain ⟨n, ns, rfl⟩ := List.exists_cons_of_ne_nil hne'
      rw [text_leaf, text_group_append] at h
      exact absurd h (hl.leaf_ne_group ht hr)

theorem isKnown_negation (hl : Legible word P) {e : Formula Text} (he : IsKnown word P e) :
    IsKnown word P (.negation e) := by
  intro e' he' r s hr hs h
  cases he' with
  | leaf ht' =>
      rw [text_leaf, text_negation, List.append_assoc] at h
      exact absurd h.symm (hl.leaf_ne_negation ht' hs)
  | @negation e' he' =>
      rw [text_negation, text_negation, List.append_assoc, List.append_assoc] at h
      obtain ⟨hee, hrs⟩ := he e' he' r s hr hs (List.append_cancel_left h)
      exact ⟨by rw [canonical_negation, hee, canonical_negation], hrs⟩
  | @group d ns hne' _ =>
      obtain ⟨n, ns, rfl⟩ := List.exists_cons_of_ne_nil hne'
      rw [text_negation, text_group_append] at h
      exact absurd (List.cons.inj h).1 (by decide)

theorem isKnown_group (hl : Legible word P) {c : Connective} {ms : List (Formula Text)}
    (hne : ms ≠ []) (hms : ∀ m ∈ ms, IsKnown word P m) : IsKnown word P (.group c ms) := by
  intro e' he' r s hr hs h
  obtain ⟨m, ms, rfl⟩ := List.exists_cons_of_ne_nil hne
  rw [text_group_append] at h
  cases he' with
  | leaf ht' =>
      rw [text_leaf] at h
      exact absurd h.symm (hl.leaf_ne_group ht' hs)
  | negation _ =>
      rw [text_negation] at h
      exact absurd (List.cons.inj h).1 (by decide)
  | @group d ns hne' hns =>
      obtain ⟨n, ns, rfl⟩ := List.exists_cons_of_ne_nil hne'
      rw [text_group_append] at h
      obtain ⟨hmn, hbehind⟩ := hms m List.mem_cons_self n (hns n List.mem_cons_self) _ _
        (isEnd_behindFirst c r ms) (isEnd_behindFirst d s ns) (List.cons.inj h).2
      obtain ⟨hmap, hone, hrs⟩ :=
        members_eq_of_behindFirst hl (fun x hx => hms x (List.mem_cons_of_mem m hx))
          (fun x hx => hns x (List.mem_cons_of_mem n hx)) hbehind
      have hlen : ms.length = ns.length := by
        rw [← List.length_map (f := canonical), hmap, List.length_map]
      refine ⟨?_, hrs⟩
      rw [canonical_group, canonical_group, List.map_cons, List.map_cons, hmn, hmap,
        List.length_cons, List.length_cons, hlen]
      rcases hone with rfl | rfl
      · rw [if_pos (by simp [← hlen]), if_pos (by simp [← hlen])]
      · rfl

/-- A text determines the formula at its front and the place where it ends. -/
theorem canonical_eq_of_append (hl : Legible word P) {e : Formula Text} (he : e.Over P) :
    IsKnown word P e := by
  induction he with
  | leaf ht => exact isKnown_leaf hl ht
  | negation _ ih => exact isKnown_negation hl ih
  | group hne _ ih => exact isKnown_group hl hne ih

/-- Two formulas are written alike exactly when they differ in the operators of single members
only. -/
theorem text_eq_iff (hl : Legible word P) {e e' : Formula Text} (he : e.Over P)
    (he' : e'.Over P) : text word e = text word e' ↔ canonical e = canonical e' := by
  constructor
  · intro h
    exact (canonical_eq_of_append hl he e' he' [] [] isEnd_nil isEnd_nil (by rw [h])).1
  · intro h
    rw [← text_canonical word e, h, text_canonical]

/-- Formulas that are written alike hold alike. -/
theorem value_eq_of_text_eq (hl : Legible word P) {e e' : Formula Text} (he : e.Over P)
    (he' : e'.Over P) (h : text word e = text word e') (v : Text → Bool) :
    value v e = value v e' := by
  rw [← value_canonical v e, (text_eq_iff hl he he').mp h, value_canonical]

end

end Formula
end CatalogQuery
