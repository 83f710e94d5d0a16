import CatalogQuery.Query.Path

/-!
# Paths without namespaces

Dropping a namespace brings the characters around it together. They never make up another one: what
stands before a namespace is no part of a name, or the name would be longer. So one pass is enough.

* `Path.IsStripped`: no character of a name stands before a single colon;
* `Path.isStripped_dropNamespacesFrom`, `Path.dropNamespacesFrom_of_isStripped`: this is what
  dropping leaves, and it leaves such texts as they are;
* `Path.dropNamespacesFrom_replaceChar`: it does not matter whether quotes are replaced before;
* `Path.isStripped_dropNamespaces_and_normalize`: so dropping and normalizing have normal forms.
-/

namespace CatalogQuery
namespace Path

variable {c : Char} {name r t : Text}

/-! ## Stripped texts -/

/-- Is there a colon at the front, and no other colon behind it? -/
def beginsColon : Text → Bool
  | [] => false
  | c :: r => c == ':' && r.head? != some ':'

/-- No character of a name stands before a single colon. -/
def IsStripped (t : Text) : Prop :=
  ∀ before c after, t = before ++ c :: after → isNameChar c = true → beginsColon after = false

theorem beginsColon_nameChar (h : isNameChar c = true) (r : Text) :
    beginsColon (c :: r) = false := by
  have hc : c ≠ ':' := by
    rintro rfl
    exact absurd h (by decide)
  simp [beginsColon, hc]

theorem beginsColon_colon_eq_false_iff : beginsColon (':' :: r) = false ↔ r.head? = some ':' := by
  simp [beginsColon]

theorem isStripped_nil : IsStripped [] := fun _ _ _ h => absurd h (by simp)

theorem isStripped_cons :
    IsStripped (c :: t) ↔ (isNameChar c = true → beginsColon t = false) ∧ IsStripped t := by
  constructor
  · intro h
    refine ⟨h [] c t rfl, fun before x after e => ?_⟩
    exact h (c :: before) x after (by rw [e]; rfl)
  · rintro ⟨hfirst, hrest⟩ before x after e
    rcases List.cons_eq_append_iff.mp e with ⟨rfl, hx⟩ | ⟨before, rfl, ht⟩
    · obtain ⟨rfl, rfl⟩ := List.cons.inj hx
      exact hfirst
    · exact hrest before x after ht

/-- Another character may stand before anything. -/
theorem isStripped_cons_end (hc : isNameChar c = false) : IsStripped (c :: t) ↔ IsStripped t := by
  rw [isStripped_cons]
  exact and_iff_right fun h => absurd h (by simp [hc])

instance decidableIsStripped : (t : Text) → Decidable (IsStripped t)
  | [] => isTrue isStripped_nil
  | _ :: t =>
      have := decidableIsStripped t
      decidable_of_iff _ isStripped_cons.symm

/-- A name before a stripped text that it does not make a namespace. -/
theorem isStripped_name_append (hname : ∀ x ∈ name, isNameChar x = true) (ht : IsStripped t)
    (hcolon : name ≠ [] → beginsColon t = false) : IsStripped (name ++ t) := by
  induction name with
  | nil => exact ht
  | cons c name ih =>
      obtain ⟨hc, hrest⟩ := List.forall_mem_cons.mp hname
      rw [List.cons_append, isStripped_cons]
      refine ⟨fun _ => ?_, ih hrest fun _ => hcolon (List.cons_ne_nil c name)⟩
      cases name with
      | nil => exact hcolon (List.cons_ne_nil c [])
      | cons d name => exact beginsColon_nameChar (hrest d List.mem_cons_self) _

/-- A name before what is no colon of a namespace. -/
theorem isStripped_name (hname : ∀ x ∈ name, isNameChar x = true) : IsStripped name := by
  rw [← List.append_nil name]
  exact isStripped_name_append hname isStripped_nil fun _ => rfl

theorem IsStripped.of_append_cons {s t : Text} (h : IsStripped (s ++ c :: t)) : IsStripped t :=
  fun before x after e => h (s ++ c :: before) x after (by simp [e])

/-- In a stripped text, two colons follow a name if one does. -/
theorem IsStripped.head?_of_name (h : IsStripped (name ++ ':' :: r)) (hne : name ≠ [])
    (hname : ∀ x ∈ name, isNameChar x = true) : r.head? = some ':' := by
  rw [← beginsColon_colon_eq_false_iff]
  refine h name.dropLast (name.getLast hne) (':' :: r) ?_ (hname _ (List.getLast_mem hne))
  rw [← List.singleton_append (x := name.getLast hne), ← List.append_assoc,
    List.dropLast_concat_getLast]

/-! ## Dropping namespaces -/

/-- What is left behind some characters of a name is stripped. -/
theorem isStripped_dropNamespacesFrom (hname : ∀ x ∈ name, isNameChar x = true) (t : Text) :
    IsStripped (dropNamespacesFrom name t) := by
  fun_induction dropNamespacesFrom name t with
  | case1 name => exact isStripped_name hname
  | case2 name c r hc ih =>
      exact ih (List.forall_mem_append.mpr ⟨hname, List.forall_mem_singleton.mpr hc⟩)
  | case3 name c r hc hcolon hr ih =>
      -- the second colon stays where it is, since no name is before it
      obtain ⟨r, rfl⟩ := List.head?_eq_some_iff.mp hr
      refine isStripped_name_append hname ?_ fun _ => ?_
      · exact (isStripped_cons_end isNameChar_colon).mpr (ih (by simp))
      · rw [dropNamespacesFrom_end isNameChar_colon fun _ => rfl]
        rfl
  | case4 name c r hc hcolon hr ih => exact ih (by simp)
  | case5 name c r hc hcolon ih =>
      have hrest := (isStripped_cons_end (Bool.eq_false_iff.mpr hc)).mpr (ih (by simp))
      refine isStripped_name_append hname hrest fun hne => ?_
      have hc : c ≠ ':' := fun h => hcolon ⟨h, hne⟩
      simp [beginsColon, hc]

/-- A stripped text is left as it is. -/
theorem dropNamespacesFrom_of_isStripped (hname : ∀ x ∈ name, isNameChar x = true)
    (h : IsStripped (name ++ t)) : dropNamespacesFrom name t = name ++ t := by
  fun_induction dropNamespacesFrom name t with
  | case1 name => rw [List.append_nil]
  | case2 name c r hc ih =>
      rw [ih (List.forall_mem_append.mpr ⟨hname, List.forall_mem_singleton.mpr hc⟩) (by simpa),
        List.append_assoc, List.singleton_append]
  | case3 name c r hc hcolon hr ih =>
      obtain ⟨rfl, -⟩ := hcolon
      rw [ih (by simp) h.of_append_cons, List.nil_append]
  | case4 name c r hc hcolon hr ih =>
      obtain ⟨rfl, hne⟩ := hcolon
      exact absurd (h.head?_of_name hne hname) hr
  | case5 name c r hc hcolon ih => rw [ih (by simp) h.of_append_cons, List.nil_append]

theorem isStripped_dropNamespaces (t : Text) : IsStripped (dropNamespaces t) :=
  isStripped_dropNamespacesFrom (by simp) t

theorem dropNamespaces_of_isStripped (h : IsStripped t) : dropNamespaces t = t :=
  dropNamespacesFrom_of_isStripped (by simp) h

/-! ## Quotes -/

/-- Replacing a quote by a quote keeps where there are colons. -/
theorem head?_replaceChar_eq_colon_iff :
    (Text.replaceChar '"' ['\''] r).head? = some ':' ↔ r.head? = some ':' := by
  cases r with
  | nil => rfl
  | cons c r =>
      rw [Text.replaceChar_cons]
      by_cases hc : c = '"' <;> simp [hc]

/-- A quote stands where a quote stood, so it does not matter what is done first. -/
theorem dropNamespacesFrom_replaceChar (hname : '"' ∉ name) (t : Text) :
    dropNamespacesFrom name (Text.replaceChar '"' ['\''] t)
      = Text.replaceChar '"' ['\''] (dropNamespacesFrom name t) := by
  have hcolon : ':' ≠ '"' := by decide
  fun_induction dropNamespacesFrom name t with
  | case1 name =>
      rw [Text.replaceChar_nil, dropNamespacesFrom_nil, Text.replaceChar_of_notMem hname]
  | case2 name c r hc ih =>
      have hquote : c ≠ '"' := by
        rintro rfl
        exact absurd hc (by decide)
      rw [Text.replaceChar_cons, if_neg hquote, List.singleton_append,
        dropNamespacesFrom_nameChar hc]
      exact ih (by simp [hname, hquote.symm])
  | case3 name c r hc haxis hr ih =>
      obtain ⟨rfl, hne⟩ := haxis
      rw [Text.replaceChar_cons, if_neg hcolon, List.singleton_append,
        dropNamespacesFrom_axis hne (head?_replaceChar_eq_colon_iff.mpr hr), ih (by simp),
        Text.replaceChar_append, Text.replaceChar_of_notMem hname, Text.replaceChar_cons,
        if_neg hcolon, List.singleton_append]
  | case4 name c r hc hnamespace hr ih =>
      obtain ⟨rfl, hne⟩ := hnamespace
      rw [Text.replaceChar_cons, if_neg hcolon, List.singleton_append,
        dropNamespacesFrom_namespace hne (mt head?_replaceChar_eq_colon_iff.mp hr)]
      exact ih (by simp)
  | case5 name c r hc hother ih =>
      obtain ⟨d, hd, hdc, hdcolon⟩ : ∃ d, (if c = '"' then ['\''] else [c]) = [d] ∧
          isNameChar d = false ∧ (d = ':' → name = []) := by
        by_cases hquote : c = '"'
        · exact ⟨'\'', if_pos hquote, by decide, fun h => absurd h (by decide)⟩
        · exact ⟨c, if_neg hquote, Bool.eq_false_iff.mpr hc, fun h =>
            Decidable.byContradiction fun hne => hother ⟨h, hne⟩⟩
      rw [Text.replaceChar_append, Text.replaceChar_of_notMem hname, Text.replaceChar_cons,
        Text.replaceChar_cons, hd, List.singleton_append, List.singleton_append,
        dropNamespacesFrom_end hdc hdcolon, ih (by simp)]

/-! ## Normal forms -/

theorem normalize_eq_replaceChar (t : Text) :
    normalize t = Text.replaceChar '"' ['\''] (dropNamespaces t) :=
  dropNamespacesFrom_replaceChar (by simp) t

theorem doubleQuote_notMem_normalize (t : Text) : '"' ∉ normalize t := by
  rw [normalize_eq_replaceChar]
  exact Text.notMem_replaceChar (by decide) _

/-- A path is stripped when its namespaces are dropped, which changes nothing just if it was
stripped before. A normalized path is stripped and without double quotes, normalizing it again
changes nothing, and the quotes may as well be replaced at the end. -/
theorem isStripped_dropNamespaces_and_normalize (t : Text) :
    (IsStripped (dropNamespaces t) ∧ (dropNamespaces t = t ↔ IsStripped t) ∧
      dropNamespaces (dropNamespaces t) = dropNamespaces t) ∧
    IsStripped (normalize t) ∧ '"' ∉ normalize t ∧ normalize (normalize t) = normalize t ∧
      normalize t = Text.replaceChar '"' ['\''] (dropNamespaces t) := by
  have hdropped : IsStripped (dropNamespaces t) := isStripped_dropNamespaces t
  have hnormal : IsStripped (normalize t) := isStripped_dropNamespaces _
  have hquote : '"' ∉ normalize t := doubleQuote_notMem_normalize t
  refine ⟨⟨hdropped, ⟨fun h => h ▸ hdropped, dropNamespaces_of_isStripped⟩,
    dropNamespaces_of_isStripped hdropped⟩, hnormal, hquote, ?_, normalize_eq_replaceChar t⟩
  calc normalize (normalize t)
      = dropNamespaces (normalize t) := by rw [normalize, Text.replaceChar_of_notMem hquote]
    _ = normalize t := dropNamespaces_of_isStripped hnormal

/-- An axis stays between two namespaces. -/
example : ¬IsStripped "a:b::c:d".toList ∧ dropNamespaces "a:b::c:d".toList = "b::d".toList := by
  decide

end Path
end CatalogQuery
