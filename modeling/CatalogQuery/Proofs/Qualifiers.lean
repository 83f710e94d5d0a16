import CatalogQuery.Query.LocationPath
import CatalogQuery.Query.Path
import Mathlib.Data.List.DropRight
import Mathlib.Data.List.Induction

/-!
# Qualifiers of location paths

Namespaces are found without parsing a path: a namespace is what stands before a single colon, as
far back as letters, digits and underscores go. Qualifiers may have hyphens and dots in them, which
are not among these characters.

* `Path.dropNamespaces_append`: up to a colon, all is kept but the end of a name;
* `LocationPath.dropNamespaces_text`: so of a qualifier there remains what its last hyphen or dot
  ends, and nothing but qualifiers is touched;
* `LocationPath.dropNamespaces_text_eq_iff`: the qualifiers are all dropped just if none has a
  hyphen or a dot in it.
-/

namespace CatalogQuery

namespace Path

variable {t rest r : Text} {c : Char}

/-! ## Texts without colons -/

/-- What is left of a qualifier: nothing of the last characters that can be in the name of a
namespace. If there are none, the colon is left too. -/
def remnant (qualifier : Text) : Text :=
  qualifier.rdropWhile isNameChar ++ if qualifier.rtakeWhile isNameChar = [] then [':'] else []

/-- A qualifier is dropped just if it has only such characters. -/
theorem remnant_eq_nil_iff (hne : t ≠ []) : remnant t = [] ↔ ∀ x ∈ t, isNameChar x = true := by
  rw [remnant, List.append_eq_nil_iff, List.rdropWhile_eq_nil_iff]
  refine and_iff_left_of_imp fun h => if_neg ?_
  rwa [List.rtakeWhile_eq_self_iff.mpr h]

/-- Without a colon all is kept, but for the end of a name, which may turn out to be a namespace. -/
theorem dropNamespaces_append (ht : ':' ∉ t) (rest : Text) :
    dropNamespaces (t ++ rest)
      = t.rdropWhile isNameChar ++ dropNamespacesFrom (t.rtakeWhile isNameChar) rest := by
  induction t using List.reverseRecOn generalizing rest with
  | nil => rfl
  | append_singleton t c ih =>
      rw [List.mem_append, not_or, List.mem_singleton] at ht
      rw [List.append_assoc, ih ht.1, List.singleton_append]
      cases hc : isNameChar c with
      | true =>
          rw [dropNamespacesFrom_nameChar hc, List.rdropWhile_concat_pos _ _ _ hc,
            List.rtakeWhile_concat_pos _ _ _ hc]
      | false =>
          have hc' : ¬isNameChar c = true := by simp [hc]
          rw [dropNamespacesFrom_end hc fun h => absurd h.symm ht.2,
            List.rdropWhile_concat_neg _ _ _ hc', List.rtakeWhile_concat_neg _ _ _ hc',
            ← List.append_assoc, List.rdropWhile_append_rtakeWhile, List.append_cons]

/-- The text ends a name that stands before it, and makes no namespace of it. -/
def EndsName (rest : Text) : Prop :=
  ∀ name, dropNamespacesFrom name rest = name ++ dropNamespaces rest

theorem endsName_nil : EndsName [] := fun name => (List.append_nil name).symm

theorem endsName_cons (hc : isNameChar c = false) (hcolon : c ≠ ':') (r : Text) :
    EndsName (c :: r) := by
  intro name
  rw [dropNamespaces, dropNamespacesFrom_end hc fun h => absurd h hcolon,
    dropNamespacesFrom_end hc fun h => absurd h hcolon]
  rfl

theorem dropNamespaces_twoColons (r : Text) :
    dropNamespaces (':' :: ':' :: r) = ':' :: ':' :: dropNamespaces r := by
  rw [dropNamespaces, dropNamespacesFrom_end isNameChar_colon fun _ => rfl,
    dropNamespacesFrom_end isNameChar_colon fun _ => rfl]
  rfl

theorem endsName_twoColons (r : Text) : EndsName (':' :: ':' :: r) := by
  intro name
  rw [dropNamespaces_twoColons]
  by_cases hname : name = []
  · rw [hname]
    exact dropNamespaces_twoColons r
  · rw [dropNamespacesFrom_axis hname rfl, dropNamespacesFrom_end isNameChar_colon fun _ => rfl]
    rfl

/-- A text without colons is kept before such a text. -/
theorem dropNamespaces_append_of_endsName (ht : ':' ∉ t) (hrest : EndsName rest) :
    dropNamespaces (t ++ rest) = t ++ dropNamespaces rest := by
  rw [dropNamespaces_append ht, hrest, ← List.append_assoc, List.rdropWhile_append_rtakeWhile]

/-- Before a single colon, its remnant is kept. -/
theorem dropNamespaces_qualifier (ht : ':' ∉ t) (hr : r.head? ≠ some ':') :
    dropNamespaces (t ++ [':'] ++ r) = remnant t ++ dropNamespaces r := by
  rw [List.append_assoc, dropNamespaces_append ht, remnant, List.append_assoc,
    List.singleton_append]
  by_cases hname : t.rtakeWhile isNameChar = []
  · rw [hname, if_pos rfl, dropNamespacesFrom_end isNameChar_colon fun _ => rfl]
    rfl
  · rw [if_neg hname, dropNamespacesFrom_namespace hname hr]
    rfl

end Path

namespace LocationPath

open CatalogQuery.Path (EndsName dropNamespaces remnant)

variable {rest : Text}

/-! ## Steps -/

theorem Name.head?_append_ne (n : Name) (rest : Text) : (n.text ++ rest).head? ≠ some ':' := by
  intro h
  rw [List.head?_append_of_ne_nil _ n.ne_nil] at h
  exact n.colon_notMem (List.mem_of_mem_head? h)

theorem dropNamespaces_axis (axis : Option Name) (r : Text) :
    dropNamespaces ((axis.elim [] fun n => n.text ++ [':', ':']) ++ r)
      = (axis.elim [] fun n => n.text ++ [':', ':']) ++ dropNamespaces r := by
  cases axis with
  | none => rfl
  | some n =>
      have hdrop := Path.dropNamespaces_append_of_endsName n.colon_notMem
        (Path.endsName_twoColons r)
      simpa [Path.dropNamespaces_twoColons] using hdrop

theorem dropNamespaces_attribute (isAttribute : Bool) (r : Text) :
    dropNamespaces ((if isAttribute then ['@'] else []) ++ r)
      = (if isAttribute then ['@'] else []) ++ dropNamespaces r := by
  cases isAttribute with
  | false => rfl
  | true => exact Path.endsName_cons (by decide) (by decide) r []

/-- A step before the end of a path or before another one keeps all but its qualifier. -/
theorem Step.dropNamespaces_text (s : Step) (hrest : EndsName rest) :
    dropNamespaces (s.text ++ rest)
      = s.textWith (fun q => remnant q.text) ++ dropNamespaces rest := by
  have hname : dropNamespaces (s.name.text ++ rest) = s.name.text ++ dropNamespaces rest :=
    Path.dropNamespaces_append_of_endsName s.name.colon_notMem hrest
  have hqualifier : dropNamespaces ((s.qualifier.elim [] fun q => q.text ++ [':'])
        ++ (s.name.text ++ rest))
      = (s.qualifier.elim [] fun q => remnant q.text) ++ (s.name.text ++ dropNamespaces rest) := by
    rw [← hname]
    cases s.qualifier with
    | none => rfl
    | some q => exact Path.dropNamespaces_qualifier q.colon_notMem (s.name.head?_append_ne rest)
  simp only [text, textWith, List.append_assoc, dropNamespaces_axis, dropNamespaces_attribute,
    hqualifier]

/-! ## Paths -/

theorem endsName_separator (separator : Separator) (r : Text) :
    EndsName (separator.text ++ r) := by
  cases separator with
  | child => exact Path.endsName_cons (by decide) (by decide) r
  | descendant => exact Path.endsName_cons (by decide) (by decide) ('/' :: r)

theorem dropNamespaces_separator (separator : Separator) (r : Text) :
    dropNamespaces (separator.text ++ r) = separator.text ++ dropNamespaces r := by
  have hslash : ∀ r, dropNamespaces ('/' :: r) = '/' :: dropNamespaces r := fun r =>
    Path.endsName_cons (by decide) (by decide) r []
  cases separator with
  | child => exact hslash r
  | descendant => exact (hslash ('/' :: r)).trans (congrArg (List.cons '/') (hslash r))

theorem endsName_furtherWith (write : Name → Text) (further : List (Separator × Step)) :
    EndsName (furtherWith write further) := by
  cases further with
  | nil => exact Path.endsName_nil
  | cons x further =>
      rw [furtherWith_cons]
      exact endsName_separator _ _

theorem dropNamespaces_furtherWith (further : List (Separator × Step)) :
    dropNamespaces (furtherWith (fun q => q.text ++ [':']) further)
      = furtherWith (fun q => remnant q.text) further := by
  induction further with
  | nil => rfl
  | cons x further ih =>
      obtain ⟨separator, s⟩ := x
      rw [furtherWith_cons, furtherWith_cons, dropNamespaces_separator, ← ih]
      exact congrArg _ (s.dropNamespaces_text (endsName_furtherWith _ further))

/-- Of a path without its namespaces, the remnants of the qualifiers are left and all else. -/
theorem dropNamespaces_text (p : LocationPath) :
    dropNamespaces p.text = p.textWith fun q => remnant q.text := by
  have hfurther := dropNamespaces_furtherWith p.further
  rw [text, textWith, textWith, ← hfurther]
  cases p.first with
  | none => rfl
  | some s => exact s.dropNamespaces_text (endsName_furtherWith _ p.further)

/-- Dropping the namespaces of a path leaves the path without its qualifiers just if each of them
has only letters, digits and underscores in it. -/
theorem dropNamespaces_text_eq_iff (p : LocationPath) :
    dropNamespaces p.text = p.unqualified.text ↔
      ∀ q ∈ p.qualifiers, ∀ x ∈ q.text, x.isAlphanum = true ∨ x = '_' := by
  have hchar : ∀ x, Path.isNameChar x = true ↔ x.isAlphanum = true ∨ x = '_' := fun x => by
    simp [Path.isNameChar]
  rw [dropNamespaces_text, textWith_eq_iff]
  refine forall₂_congr fun q _ => ?_
  simp only [Path.remnant_eq_nil_iff q.ne_nil, hchar]

/-- A title whose namespace has a hyphen in its name, behind an axis. -/
def hyphenated : LocationPath :=
  ⟨none, [(.descendant, { axis := some ⟨"child".toList, by decide⟩
                          qualifier := some ⟨"my-ns".toList, by decide⟩
                          name := ⟨"title".toList, by decide⟩ })]⟩

/-- Only the end of the qualifier is dropped, and another name is left. -/
theorem not_dropNamespaces_text :
    hyphenated.text = "//child::my-ns:title".toList ∧
    dropNamespaces hyphenated.text = "//child::my-title".toList ∧
    hyphenated.unqualified.text = "//child::title".toList ∧
    dropNamespaces hyphenated.text ≠ hyphenated.unqualified.text := by decide

end LocationPath
end CatalogQuery
