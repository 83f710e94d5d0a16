import CatalogQuery.Geometry.Wkt.Reader

/-!
# The word that a geometry text begins with

A geometry is read from its first word on, and the word tells what kind of geometry it is.

* `infix_of_mem_tokens`: every word stands in the text as it is, and `exists_tokens_of_word`: a
  word in front of a space or a parenthesis is the first token of a text;
* `exists_word_of_read`: a text that is read begins with an ASCII word for a kind of geometry, and
  nothing but a geometry of that kind is read behind it;
* `isBlank_eq_false_of_read`: so a text that is read says something, and
  `exists_pointWord_of_read`: a single point is read only behind a word with `POINT` in it.
-/

namespace CatalogQuery
namespace Wkt

variable {α β : Type} {t w run rest : Text} {ts : List Token} {g : Geometry}

/-! ## Words and tokens -/

theorem infix_of_mem_runToken (h : .word w ∈ runToken run) : w <:+: run := by
  unfold runToken at h
  split at h
  · cases h
  · split at h
    · unfold numberToken at h
      split at h <;> cases List.mem_singleton.mp h
    · cases List.mem_singleton.mp h
      exact List.infix_rfl

/-- A word stands in the text that it is a token of. -/
theorem infix_of_mem_tokensFrom (h : .word w ∈ tokensFrom run t) : w <:+: run ++ t := by
  induction t generalizing run with
  | nil =>
      rw [List.append_nil]
      exact infix_of_mem_runToken h
  | cons c r ih =>
      have hrun : .word w ∈ runToken run → w <:+: run ++ c :: r := fun h =>
        (infix_of_mem_runToken h).trans (List.prefix_append _ _).isInfix
      have hrest : .word w ∈ tokensFrom [] r → w <:+: run ++ c :: r := fun h =>
        (ih h).trans ⟨run ++ [c], [], by simp⟩
      unfold tokensFrom at h
      split at h
      · exact (List.mem_append.mp h).elim hrun hrest
      · split at h
        · next mark hmark =>
          rcases List.mem_append.mp h with h | h
          · exact hrun h
          · rcases List.mem_cons.mp h with rfl | h
            · -- no single character is a word
              unfold punctuation? at hmark
              split at hmark <;> cases hmark
            · exact hrest h
        · simpa using ih h

theorem infix_of_mem_tokens (h : .word w ∈ tokens t) : w <:+: t := infix_of_mem_tokensFrom h

theorem tokensFrom_append {part : Text}
    (h : ∀ c ∈ part, isSpace c = false ∧ (punctuation? c).isNone = true) (run rest : Text) :
    tokensFrom run (part ++ rest) = tokensFrom (run ++ part) rest := by
  induction part generalizing run with
  | nil => simp
  | cons c part ih =>
      obtain ⟨⟨hspace, hmark⟩, hpart⟩ := List.forall_mem_cons.mp h
      have hstep :
          tokensFrom run (c :: (part ++ rest)) = tokensFrom (run ++ [c]) (part ++ rest) := by
        rw [tokensFrom, hspace, if_neg Bool.false_ne_true, Option.isNone_iff_eq_none.mp hmark]
      rw [List.cons_append, hstep, ih hpart, List.append_assoc, List.singleton_append]

/-- A word at the front of a text, if something ends it, is the first token. -/
theorem exists_tokens_of_word {c : Char} (hrun : runToken w = [.word w])
    (hw : ∀ c ∈ w, isSpace c = false ∧ (punctuation? c).isNone = true)
    (hend : isSpace c = true ∨ (punctuation? c).isSome = true) (rest : Text) :
    ∃ ts, tokens (w ++ c :: rest) = .word w :: ts := by
  have hfront : tokens (w ++ c :: rest) = tokensFrom w (c :: rest) := tokensFrom_append hw [] _
  rw [hfront, tokensFrom]
  cases hspace : isSpace c with
  | true =>
      rw [if_pos rfl, hrun]
      exact ⟨_, rfl⟩
  | false =>
      obtain ⟨mark, hmark⟩ := Option.isSome_iff_exists.mp (hend.resolve_left (by simp [hspace]))
      rw [if_neg Bool.false_ne_true, hmark, hrun]
      exact ⟨_, rfl⟩

/-! ## What a reader finds -/

/-- A reader finds a value at the front of the tokens. -/
def Reader.Finds (p : Reader α) (ts : List Token) (a : α) : Prop := (p ts).1 = .ok a

theorem Reader.finds_pure {a b : α} : (pure b : Reader α).Finds ts a ↔ b = a :=
  ⟨fun h => Except.ok.inj h, fun h => congrArg _ h⟩

theorem Reader.finds_bind {p : Reader α} {f : α → Reader β} {b : β} :
    (p >>= f).Finds ts b ↔ ∃ a r, p ts = (.ok a, r) ∧ (f a).Finds r b := by
  simp only [Finds, bind]
  constructor
  · intro h
    split at h
    · next a r ha => exact ⟨a, r, ha, h⟩
    · cases h
  · rintro ⟨a, r, ha, h⟩
    rw [ha]
    exact h

theorem Reader.take_eq_word_iff {r : List Token} :
    take ts = (.ok (some (.word w)), r) ↔ ts = .word w :: r := by
  unfold take
  split <;> simp

/-! ## Kinds of geometries -/

open Reader

theorem geometryRest_of_ne {kind : Kind} (h : kind ≠ .collection) (depth : Nat)
    (axes : List Axis) : geometryRest depth kind axes = simpleGeometry axes kind := by
  cases depth with
  | zero => rfl
  | succ depth =>
      cases kind with
      | collection => exact absurd rfl h
      | _ => rfl

/-- A single point is a geometry of one of two kinds. -/
theorem kind_of_singlePoint? {depth : Nat} {kind : Kind} {axes : List Axis} {p : Coord}
    (h : (geometryRest depth kind axes).Finds ts g) (hp : g.singlePoint? = some p) :
    kind = .point ∨ kind = .multiPoint := by
  cases kind with
  | point => exact Or.inl rfl
  | multiPoint => exact Or.inr rfl
  | lineString | polygon | multiLineString | multiPolygon =>
      rw [geometryRest_of_ne (by decide)] at h
      obtain ⟨a, r, -, h⟩ := finds_bind.mp h
      cases finds_pure.mp h
      cases hp
  | collection =>
      cases depth with
      | zero => cases h
      | succ depth =>
          obtain ⟨a, r, -, h⟩ := finds_bind.mp h
          cases finds_pure.mp h
          cases hp

/-- Behind a word for a kind a geometry of that kind is found. -/
theorem exists_kind_of_finds {rest : Kind → List Axis → Reader Geometry}
    (h : (geometryNamed rest w).Finds ts g) :
    ∃ kind marked axes r, kindOf? w = some (kind, marked) ∧ (rest kind axes).Finds r g := by
  unfold geometryNamed at h
  split at h
  · cases h
  · next kind axes hkind => exact ⟨kind, _, axes, ts, hkind, h⟩
  · next kind hkind =>
    obtain ⟨axes, r, -, h⟩ := finds_bind.mp h
    exact ⟨kind, _, axes, r, hkind, h⟩

/-- A text that is read begins with an ASCII word for a kind of geometry. -/
theorem exists_word_of_read (h : read t = .ok g) :
    ∃ w ts, tokens t = .word w :: ts ∧ (∀ c ∈ w, c.toNat < 0x80) ∧
      ∃ kind marked depth axes r, kindOf? w = some (kind, marked) ∧
        (geometryRest depth kind axes).Finds r g := by
  have hfinds : geometry.Finds (tokens t) g := h
  unfold geometry at hfinds
  obtain ⟨depth, r, hr, hfinds⟩ := finds_bind.mp hfinds
  cases hr
  obtain ⟨first, r, hfirst, hfinds⟩ := finds_bind.mp hfinds
  split at hfinds
  · next w =>
    split at hfinds
    · next hascii =>
      refine ⟨w, r, take_eq_word_iff.mp hfirst, by simpa using hascii, ?_⟩
      obtain ⟨kind, marked, axes, r, hkind, hrest⟩ := exists_kind_of_finds hfinds
      exact ⟨kind, marked, _, axes, r, hkind, hrest⟩
    · cases hfinds
  · cases hfinds

/-- A text with a word at its front is read as a geometry of the kind that the word stands for. -/
theorem exists_kind_of_read {c : Char} (hrun : runToken w = [.word w])
    (hw : ∀ c ∈ w, isSpace c = false ∧ (punctuation? c).isNone = true)
    (hend : isSpace c = true ∨ (punctuation? c).isSome = true) (h : read (w ++ c :: rest) = .ok g) :
    ∃ kind marked depth axes r, kindOf? w = some (kind, marked) ∧
      (geometryRest depth kind axes).Finds r g := by
  obtain ⟨w', ts, hword, -, hkind⟩ := exists_word_of_read h
  obtain ⟨ts', hfront⟩ := exists_tokens_of_word hrun hw hend rest
  rw [hfront] at hword
  cases hword
  exact hkind

/-! ## Words for points -/

theorem mem_words_of_kindOf? {kind : Kind} {marked : Option (List Axis)}
    (h : kindOf? w = some (kind, marked)) : (Text.upperAscii w, kind, marked) ∈ words := by
  obtain ⟨before, after, hwords, -⟩ := List.lookup_eq_some_iff.mp h
  simp [hwords]

/-- A text that is read says something: its first word does. -/
theorem isBlank_eq_false_of_read (h : read t = .ok g) : Text.isBlank t = false := by
  obtain ⟨w, ts, hw, -, kind, marked, -, -, -, hkind, -⟩ := exists_word_of_read h
  have hpart : w <:+: t := infix_of_mem_tokens (hw ▸ List.mem_cons_self)
  have hwords : ∀ entry ∈ words, Text.isBlank entry.1 = false := by decide
  have hword := hwords _ (mem_words_of_kindOf? hkind)
  cases hblank : Text.isBlank t with
  | false => rfl
  | true =>
      have hwblank : Text.isBlank w = true := Text.isBlank_iff.mpr fun c hc =>
        Text.isBlank_iff.mp hblank c (hpart.subset hc)
      rw [Text.upperAscii_of_isBlank hwblank, hwblank] at hword
      cases hword

/-- All words for points have the letters `POINT` in them. -/
theorem infix_of_kindOf? {kind : Kind} {marked : Option (List Axis)}
    (h : kindOf? w = some (kind, marked)) (hkind : kind = .point ∨ kind = .multiPoint) :
    "POINT".toList <:+: Text.upperAscii w := by
  have hwords : ∀ entry ∈ words, entry.2.1 = .point ∨ entry.2.1 = .multiPoint →
      Text.mentions "POINT".toList entry.1 = true := by decide
  exact Text.mentions_iff.mp (hwords _ (mem_words_of_kindOf? h) hkind)

/-- A single point is read only behind a word that has the letters `POINT` in it. -/
theorem exists_pointWord_of_read {p : Coord} (h : read t = .ok g) (hp : g.singlePoint? = some p) :
    ∃ w ts, tokens t = .word w :: ts ∧ (∀ c ∈ w, c.toNat < 0x80) ∧
      "POINT".toList <:+: Text.upperAscii w := by
  obtain ⟨w, ts, hw, hascii, kind, marked, depth, axes, r, hkind, hfinds⟩ := exists_word_of_read h
  exact ⟨w, ts, hw, hascii, infix_of_kindOf? hkind (kind_of_singlePoint? hfinds hp)⟩

end Wkt
end CatalogQuery
