import CatalogQuery.Text.Quoted

/-!
# Covered characters

A backslash covers the character behind it, which then stands for itself. Backslashes are
characters too: one that is covered covers nothing.

* `coversNext`: is the character behind a text covered?
* `EachClose`: the delimiters in a text are all covered or all bare, and what follows it is bare;
* `IsBody`: a text that is read to its own end, whatever follows, which says that all delimiters
  in it are covered (`isBody_iff`).
-/

namespace CatalogQuery
namespace Text
namespace Quoted

variable {close c : Char} {wanted covered : Bool} {t : Text}

/-! ## The character behind a text -/

/-- Is the character behind a text covered, when the first of the text is or is not? -/
def coversNext (covered : Bool) (t : Text) : Bool := t.foldl (fun b c => !b && c == '\\') covered

@[simp] theorem coversNext_nil (covered : Bool) : coversNext covered [] = covered := rfl

theorem coversNext_cons (covered : Bool) (c : Char) (t : Text) :
    coversNext covered (c :: t) = coversNext (!covered && c == '\\') t := rfl

theorem coversNext_append (covered : Bool) (s t : Text) :
    coversNext covered (s ++ t) = coversNext (coversNext covered s) t :=
  List.foldl_append

/-- Another character than a backslash covers nothing. -/
theorem coversNext_of_getLast? (h : t.getLast? ≠ some '\\') : coversNext false t = false := by
  rcases List.eq_nil_or_concat t with rfl | ⟨s, c, rfl⟩
  · rfl
  · have hc : c ≠ '\\' := by simpa using h
    simp [coversNext_append, coversNext_cons, hc]

/-! ## Delimiters in a text -/

/-- Every delimiter in a text is covered, if that is `wanted`, or else none is. In no case is what
follows the text covered. -/
structure EachClose (close : Char) (wanted covered : Bool) (t : Text) : Prop where
  inside : ∀ before after, t = before ++ close :: after → coversNext covered before = wanted
  behind : coversNext covered t = false

theorem eachClose_nil : EachClose close wanted covered [] ↔ covered = false := by
  constructor
  · intro h
    exact h.behind
  · intro h
    exact ⟨fun before after e => absurd e (by simp), h⟩

theorem eachClose_cons : EachClose close wanted covered (c :: t) ↔
    (c = close → covered = wanted) ∧ EachClose close wanted (!covered && c == '\\') t := by
  constructor
  · intro h
    refine ⟨fun hc => h.inside [] t (by rw [hc]; rfl), fun before after e => ?_, h.behind⟩
    exact h.inside (c :: before) after (by rw [e]; rfl)
  · rintro ⟨hfirst, hrest⟩
    refine ⟨fun before after e => ?_, hrest.behind⟩
    rcases List.cons_eq_append_iff.mp e with ⟨rfl, hc⟩ | ⟨before, rfl, ht⟩
    · exact hfirst (List.cons.inj hc).1.symm
    · exact hrest.inside before after ht

instance decidableEachClose (close : Char) (wanted : Bool) :
    (covered : Bool) → (t : Text) → Decidable (EachClose close wanted covered t)
  | _, [] => decidable_of_iff _ eachClose_nil.symm
  | covered, c :: t =>
      have := decidableEachClose close wanted (!covered && c == '\\') t
      decidable_of_iff _ eachClose_cons.symm

/-- A character that is no delimiter and covers nothing. -/
theorem eachClose_plain (hclose : c ≠ close) (hback : c ≠ '\\') :
    EachClose close wanted covered (c :: t) ↔ EachClose close wanted false t := by
  have hstate : (!covered && c == '\\') = false := by simp [hback]
  rw [eachClose_cons, hstate]
  exact and_iff_right fun hc => absurd hc hclose

/-- A character with a backslash put before it is covered, unless that backslash is. -/
theorem eachClose_cover (hclose : close ≠ '\\') (hc : c ≠ '\\') :
    EachClose close true covered ('\\' :: c :: t) ↔
      (c = close → covered = false) ∧ EachClose close true false t := by
  have hback : (!covered && '\\' == '\\') = !covered := by simp
  have hstate : (!!covered && c == '\\') = false := by simp [hc]
  rw [eachClose_cons, hback, eachClose_cons, hstate, Bool.not_eq_true']
  exact and_iff_right fun h => absurd h.symm hclose

/-! ## Reading to the end -/

/-- A text between delimiters: what is read stops at the delimiter right behind it. -/
def IsBody (close : Char) (body : Text) : Prop :=
  ∀ rest, ∃ t, readTo close (body ++ close :: rest) = some (t, rest)

/-- At least the delimiter is read. -/
theorem length_lt_of_readTo {s rest : Text} (h : readTo close s = some (t, rest)) :
    rest.length < s.length := by
  fun_induction readTo close s generalizing t with
  | case1 => cases h
  | case2 c r ih =>
      obtain ⟨p, hp, he⟩ := Option.map_eq_some_iff.mp h
      obtain ⟨-, rfl⟩ := Prod.mk.inj he
      have := ih hp
      simp only [List.length_cons]
      omega
  | case3 r _ =>
      obtain ⟨-, rfl⟩ := Prod.mk.inj (Option.some.inj h)
      simp
  | case4 c r _ hc ih =>
      obtain ⟨p, hp, he⟩ := Option.map_eq_some_iff.mp h
      obtain ⟨-, rfl⟩ := Prod.mk.inj he
      have := ih hp
      simp only [List.length_cons]
      omega

/-- What is read behind a character that was read. -/
theorem exists_map_cons_iff {r rest : Text} :
    (∃ t, (readTo close r).map (fun p => (c :: p.1, p.2)) = some (t, rest)) ↔
      ∃ t, readTo close r = some (t, rest) := by
  constructor
  · rintro ⟨t, ht⟩
    obtain ⟨p, hp, he⟩ := Option.map_eq_some_iff.mp ht
    obtain ⟨-, rfl⟩ := Prod.mk.inj he
    exact ⟨p.1, hp⟩
  · rintro ⟨t, ht⟩
    exact ⟨c :: t, by rw [ht]; rfl⟩

/-- The delimiter behind a text is the first bare one exactly when all in the text are covered. -/
theorem readTo_append_iff (hclose : close ≠ '\\') (covered : Bool) (body rest : Text) :
    (∃ t, readTo close ((if covered then ['\\'] else []) ++ body ++ close :: rest)
      = some (t, rest)) ↔ EachClose close true covered body := by
  induction body generalizing covered with
  | nil =>
      rw [eachClose_nil]
      cases covered with
      | false => simp [readTo_close hclose]
      | true =>
          have hshort : ∀ t, readTo close rest ≠ some (t, rest) := fun t ht =>
            absurd (length_lt_of_readTo ht) (Nat.lt_irrefl _)
          simpa [exists_map_cons_iff] using hshort
  | cons c body ih =>
      cases covered with
      | true =>
          have hback : (!true && c == '\\') = false := rfl
          rw [eachClose_cons, hback, ← ih false, and_iff_right fun _ => rfl]
          exact exists_map_cons_iff
      | false =>
          by_cases hback : c = '\\'
          · subst hback
            have hstate : (!false && '\\' == '\\') = true := by decide
            rw [eachClose_cons, hstate, ← ih true]
            exact (and_iff_right fun h => absurd h.symm hclose).symm
          · by_cases hc : c = close
            · subst hc
              have hlong : body ++ c :: rest ≠ rest := fun e => by
                have := congrArg List.length e
                simp only [List.length_append, List.length_cons] at this
                omega
              simp [readTo_close hclose, eachClose_cons, hlong]
            · rw [eachClose_plain hc hback, ← ih false]
              show (∃ t, readTo close (c :: (body ++ close :: rest)) = some (t, rest)) ↔ _
              rw [readTo_plain hback hc]
              exact exists_map_cons_iff

theorem isBody_iff (hclose : close ≠ '\\') {body : Text} :
    IsBody close body ↔ EachClose close true false body := by
  have hread := fun rest => readTo_append_iff hclose false body rest
  constructor
  · intro h
    exact (hread []).mp (h [])
  · intro h rest
    exact (hread rest).mpr h

/-! ## Delimiters that are covered -/

/-- Every delimiter in a text is covered, whatever that says of what follows the text. -/
def EachCovered (close : Char) (covered : Bool) (t : Text) : Prop :=
  ∀ before after, t = before ++ close :: after → coversNext covered before = true

theorem eachClose_iff : EachClose close true covered t ↔
    EachCovered close covered t ∧ coversNext covered t = false :=
  ⟨fun h => ⟨h.inside, h.behind⟩, fun h => ⟨h.1, h.2⟩⟩

/-- There may be no delimiter at all. -/
theorem eachCovered_of_not_mem (h : close ∉ t) : EachCovered close covered t := by
  rintro before after rfl
  exact absurd (by simp) h

theorem eachCovered_append {s : Text} : EachCovered close covered (s ++ t) ↔
    EachCovered close covered s ∧ EachCovered close (coversNext covered s) t := by
  constructor
  · intro h
    refine ⟨fun before after e => h before (after ++ t) (by simp [e]), fun before after e => ?_⟩
    rw [← coversNext_append]
    exact h (s ++ before) after (by simp [e])
  · rintro ⟨hs, ht⟩ before after e
    rcases List.append_eq_append_iff.mp e with ⟨a, rfl, ha⟩ | ⟨a, rfl, ha⟩
    · rw [coversNext_append]
      exact ht a after ha
    · cases a with
      | nil =>
          rw [List.append_nil] at ht
          exact ht [] after ha.symm
      | cons x a =>
          obtain ⟨rfl, -⟩ := List.cons.inj ha
          exact hs before a rfl

end Quoted
end Text
end CatalogQuery
