import CatalogQuery.Query.Connective

/-!
# Formulas

Predicates are joined to groups, groups to larger groups, and any of them may be negated. What
comes of it is a formula over its leaves. The leaves are predicates, fragments or the bare texts
of paths; the shape is the same.

* `Formula.fold`: what a formula is made into from its leaves up. Everything else is one;
* `text`: how a formula over texts is written, `value`: whether it holds;
* `canonical`: the formula without the operators that have nothing to join. Being written and
  having a value do not depend on these (`text_canonical`, `value_canonical`);
* `Over`: the formulas in which no group is empty and all leaves have a property, `Joined`: those
  of them without negations.
-/

namespace CatalogQuery

/-- Groups and negations over leaves. -/
inductive Formula (α : Type) where
  | leaf (a : α)
  | negation (e : Formula α)
  | group (c : Connective) (members : List (Formula α))
  deriving Repr

namespace Formula

variable {α β : Type}

instance [Inhabited α] : Inhabited (Formula α) := ⟨.leaf default⟩

/-- Induction over a formula: a group has what all its members have. -/
@[elab_as_elim, induction_eliminator]
theorem induct {motive : Formula α → Prop} (leaf : ∀ a, motive (.leaf a))
    (negation : ∀ e, motive e → motive (.negation e))
    (group : ∀ c ms, (∀ m ∈ ms, motive m) → motive (.group c ms)) : ∀ e, motive e := by
  refine Formula.rec (motive_1 := motive) (motive_2 := fun ms => ∀ m ∈ ms, motive m)
    leaf negation group ?nil ?cons
  case nil => simp
  case cons =>
    intro m ms hm hms
    exact List.forall_mem_cons.mpr ⟨hm, hms⟩

/-! ## From the leaves up -/

mutual

/-- Make something of a formula, given what becomes of a leaf, of a negation and of a group. -/
def fold (leaf : α → β) (negation : β → β) (group : Connective → List β → β) : Formula α → β
  | .leaf a => leaf a
  | .negation e => negation (fold leaf negation group e)
  | .group c ms => group c (foldAll leaf negation group ms)

/-- The same for every member of a group. -/
def foldAll (leaf : α → β) (negation : β → β) (group : Connective → List β → β) :
    List (Formula α) → List β
  | [] => []
  | m :: ms => fold leaf negation group m :: foldAll leaf negation group ms

end

theorem foldAll_eq_map (leaf : α → β) (negation : β → β) (group : Connective → List β → β)
    (ms : List (Formula α)) :
    foldAll leaf negation group ms = ms.map (fold leaf negation group) := by
  induction ms with
  | nil => rfl
  | cons m ms ih => rw [foldAll, ih, List.map_cons]

theorem fold_group (leaf : α → β) (negation : β → β) (group : Connective → List β → β)
    (c : Connective) (ms : List (Formula α)) :
    fold leaf negation group (.group c ms) = group c (ms.map (fold leaf negation group)) := by
  rw [fold, foldAll_eq_map]

/-- The same formula over other leaves. -/
def map (f : α → β) : Formula α → Formula β := fold (fun a => .leaf (f a)) .negation .group

/-- A formula over texts as it is written, with a word for each connective. -/
def text (word : Connective → Text) : Formula Text → Text :=
  fold id (fun t => "NOT ".toList ++ t) fun c ts => Connective.group (word c) ts

/-- Does a formula hold, given which of its leaves do? -/
def value (v : α → Bool) : Formula α → Bool := fold v (fun b => !b) Connective.value

/-- The formula in which the groups of one member all have the same operator, which joins
nothing. -/
def canonical : Formula α → Formula α :=
  fold .leaf .negation fun c ms => .group (if ms.length = 1 then .and else c) ms

section equations

variable (f : α → β) (word : Connective → Text) (v : α → Bool) (c : Connective)

@[simp] theorem map_leaf (a : α) : map f (.leaf a) = .leaf (f a) := rfl

@[simp] theorem map_negation (e : Formula α) : map f (.negation e) = .negation (map f e) := rfl

@[simp] theorem map_group (ms : List (Formula α)) :
    map f (.group c ms) = .group c (ms.map (map f)) :=
  fold_group _ _ _ c ms

@[simp] theorem text_leaf (t : Text) : text word (.leaf t) = t := rfl

@[simp] theorem text_negation (e : Formula Text) :
    text word (.negation e) = "NOT ".toList ++ text word e := rfl

@[simp] theorem text_group (ms : List (Formula Text)) :
    text word (.group c ms) = Connective.group (word c) (ms.map (text word)) :=
  fold_group _ _ _ c ms

@[simp] theorem value_leaf (a : α) : value v (.leaf a) = v a := rfl

@[simp] theorem value_negation (e : Formula α) : value v (.negation e) = !value v e := rfl

@[simp] theorem value_group (ms : List (Formula α)) :
    value v (.group c ms) = c.value (ms.map (value v)) :=
  fold_group _ _ _ c ms

@[simp] theorem canonical_leaf (a : α) : canonical (.leaf a) = .leaf a := rfl

@[simp] theorem canonical_negation (e : Formula α) :
    canonical (.negation e) = .negation (canonical e) := rfl

@[simp] theorem canonical_group (ms : List (Formula α)) :
    canonical (.group c ms)
      = .group (if ms.length = 1 then .and else c) (ms.map canonical) := by
  rw [canonical, fold_group, List.length_map]

end equations

/-! ## Formulas over given leaves -/

/-- Every leaf has a property, and no group is empty. -/
inductive Over (P : α → Prop) : Formula α → Prop where
  | leaf {a : α} (h : P a) : Over P (.leaf a)
  | negation {e : Formula α} (h : Over P e) : Over P (.negation e)
  | group {c : Connective} {ms : List (Formula α)} (hne : ms ≠ []) (h : ∀ m ∈ ms, Over P m) :
      Over P (.group c ms)

/-- Every leaf has a property, no group is empty, and nothing is negated. -/
inductive Joined (P : α → Prop) : Formula α → Prop where
  | leaf {a : α} (h : P a) : Joined P (.leaf a)
  | group {c : Connective} {ms : List (Formula α)} (hne : ms ≠ []) (h : ∀ m ∈ ms, Joined P m) :
      Joined P (.group c ms)

theorem Joined.over {P : α → Prop} {e : Formula α} (h : e.Joined P) : e.Over P := by
  induction h with
  | leaf h => exact .leaf h
  | group hne _ ih => exact .group hne ih

theorem Over.mono {P Q : α → Prop} (hPQ : ∀ a, P a → Q a) {e : Formula α} (h : e.Over P) :
    e.Over Q := by
  induction h with
  | leaf h => exact .leaf (hPQ _ h)
  | negation _ ih => exact .negation ih
  | group hne _ ih => exact .group hne ih

theorem Over.map {Q : β → Prop} {f : α → β} {e : Formula α} (h : e.Over fun a => Q (f a)) :
    (e.map f).Over Q := by
  induction h with
  | leaf h => exact .leaf h
  | negation _ ih => exact .negation ih
  | group hne _ ih =>
      rw [map_group]
      refine .group (by simpa using hne) fun m hm => ?_
      obtain ⟨n, hn, rfl⟩ := List.mem_map.mp hm
      exact ih n hn

/-! ## The canonical form -/

/-- A formula is written like its canonical form: a group of one member is written without its
connective. -/
theorem text_canonical (word : Connective → Text) (e : Formula Text) :
    text word (canonical e) = text word e := by
  induction e with
  | leaf a => rfl
  | negation e ih => rw [canonical_negation, text_negation, ih, text_negation]
  | group c ms ih =>
      have texts : (ms.map canonical).map (text word) = ms.map (text word) := by
        rw [List.map_map]
        exact List.map_congr_left ih
      rw [canonical_group, text_group, text_group, texts]
      split
      · next hone =>
        obtain ⟨m, rfl⟩ := List.length_eq_one_iff.mp hone
        simp [Connective.group]
      · rfl

/-- A formula holds when its canonical form does: a group of one member holds when the member
does. -/
theorem value_canonical (v : α → Bool) (e : Formula α) :
    value v (canonical e) = value v e := by
  induction e with
  | leaf a => rfl
  | negation e ih => rw [canonical_negation, value_negation, ih, value_negation]
  | group c ms ih =>
      have values : (ms.map canonical).map (value v) = ms.map (value v) := by
        rw [List.map_map]
        exact List.map_congr_left ih
      rw [canonical_group, value_group, value_group, values]
      split
      · next hone =>
        obtain ⟨m, rfl⟩ := List.length_eq_one_iff.mp hone
        rw [List.map_singleton, Connective.value_singleton, Connective.value_singleton]
      · rfl

end Formula
end CatalogQuery
