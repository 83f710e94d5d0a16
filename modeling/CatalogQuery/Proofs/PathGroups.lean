import CatalogQuery.Predicate.Nested
import CatalogQuery.Proofs.Made
import CatalogQuery.Proofs.Reading
import Mathlib.Tactic.Choose

/-!
# Nested groups of paths

A group of searches for paths has one filter, which has been merged from the filters of its
members: these may be merged groups themselves, the same path may come from several of them, and
the paths are put in order before they are joined.

* `Path.IsAtom`: a path that is told from what is around it in a merged path;
* `Path.Says`: however a merged path is read, it says what a formula over paths says;
* `Path.says_merged`: merging keeps this, from the members of a group to the group;
* `Formula.compile_paths`: so the one filter of a nested group says what the group says.
-/

namespace CatalogQuery

/-! ## Reading merged paths -/

namespace Path

/-- A path that starts at the root and has neither white space nor parentheses. -/
def IsAtom (t : Text) : Prop := t.head? = some '/' ∧ t.any Place.isDelimiter = false

instance (t : Text) : Decidable (IsAtom t) := inferInstanceAs (Decidable (_ ∧ _))

theorem IsAtom.exists_cons {t : Text} (h : IsAtom t) : ∃ r, t = '/' :: r :=
  List.head?_eq_some_iff.mp h.1

/-- An atom is what stands before the next delimiter. -/
theorem IsAtom.takeWhile_append {t r : Text} (h : IsAtom t) (hr : Formula.IsEnd r) :
    (t ++ r).takeWhile (fun x => !Place.isDelimiter x) = t := by
  apply Text.takeWhile_append_stop
  · intro x hx
    have hnot : ¬ Place.isDelimiter x = true := List.any_eq_false.mp h.2 x hx
    simp [hnot]
  · intro x hx
    simp [hr.isDelimiter x hx]

theorem legible_atoms : Formula.Legible Connective.pathKeyword IsAtom where
  word_inj := Formula.connective_eq_of_append (by decide)
  leaf_ne_group := by
    intro l r s hl _ h
    obtain ⟨l, rfl⟩ := hl.exists_cons
    exact absurd (List.cons.inj h).1 (by decide)
  leaf_ne_negation := by
    intro l r s hl _ h
    obtain ⟨l, rfl⟩ := hl.exists_cons
    exact absurd (List.cons.inj h).1 (by decide)
  leaf_inj := by
    intro l m r s hl hm hr hs h
    rw [← hl.takeWhile_append hr, h, hm.takeWhile_append hs]

/-- A formula over atoms is written so. -/
def Reads (b : Text) (e : Formula Text) : Prop :=
  e.Joined IsAtom ∧ Formula.text Connective.pathKeyword e = b

/-- A group of paths is written as the group of what they are written as. -/
theorem reads_group (k : Connective) {bs : List Text} (hne : bs ≠ []) {read : Text → Formula Text}
    (hread : ∀ b ∈ bs, Reads b (read b)) :
    Reads (Connective.group k.pathKeyword bs) (.group k (bs.map read)) := by
  constructor
  · refine .group (by simpa using hne) ?_
    intro e he
    obtain ⟨b, hb, rfl⟩ := List.mem_map.mp he
    exact (hread b hb).1
  · have texts : (bs.map read).map (Formula.text Connective.pathKeyword) = bs := by
      calc (bs.map read).map (Formula.text Connective.pathKeyword)
          = bs.map fun b => Formula.text Connective.pathKeyword (read b) := List.map_map
        _ = bs.map id := List.map_congr_left fun b hb => (hread b hb).2
        _ = bs := List.map_id bs
    rw [Formula.text_group, texts]

/-- A path can be read as a formula over atoms, and however it is read, this formula holds when
another one does, of whose paths the atoms are the normalized ones. -/
structure Says (b : Text) (t : Formula Text) : Prop where
  readable : ∃ e, Reads b e
  value_eq : ∀ e, Reads b e → ∀ v, Formula.value v e = Formula.value (fun p => v (normalize p)) t

/-- One reading is enough, since no two of them differ. -/
theorem says_of_reads {b : Text} {e t : Formula Text} (he : Reads b e)
    (hvalue : ∀ v, Formula.value v e = Formula.value (fun p => v (normalize p)) t) : Says b t where
  readable := ⟨e, he⟩
  value_eq := by
    intro e' he' v
    have htext : Formula.text Connective.pathKeyword e'
        = Formula.text Connective.pathKeyword e := he'.2.trans he.2.symm
    rw [Formula.value_eq_of_text_eq legible_atoms he'.1.over he.1.over htext v, hvalue v]

/-! ## Merging -/

/-- A fragment with one filter, a path that says what a formula says. -/
structure Carries (t : Formula Text) (f : Fragment) : Prop where
  query_not_blank : Text.isBlank f.query = false
  filters_eq : ∃ b, f.filters = [.path b] ∧ Says b t

theorem Carries.regular {t : Formula Text} {f : Fragment} (h : Carries t f) : f.Regular := by
  obtain ⟨b, hb, -⟩ := h.filters_eq
  exact ⟨h.query_not_blank, Or.inr ⟨b, hb⟩⟩

section

variable {ms : List (Formula Text)} {made : Formula Text → Fragment}
  (hmade : ∀ m ∈ ms, Carries m (made m))
include hmade

theorem regular_of_carries : ∀ g ∈ ms.map made, g.Regular := by
  intro g hg
  obtain ⟨m, hm, rfl⟩ := List.mem_map.mp hg
  exact (hmade m hm).regular

/-- Every path that is merged comes from a member and says what the member says. -/
theorem exists_says_of_mem_paths {b : Text} (hb : b ∈ Merge.paths (ms.map made)) :
    ∃ m ∈ ms, Says b m := by
  obtain ⟨g, hg, hgb⟩ := (mem_paths_of_regular (regular_of_carries hmade)).mp hb
  obtain ⟨m, hm, rfl⟩ := List.mem_map.mp hg
  obtain ⟨a, ha, hmeans⟩ := (hmade m hm).filters_eq
  rw [hgb] at ha
  cases ha
  exact ⟨m, hm, hmeans⟩

/-- Every member has a path among those that are merged. -/
theorem exists_mem_paths_says {m : Formula Text} (hm : m ∈ ms) :
    ∃ b ∈ Merge.paths (ms.map made), Says b m := by
  obtain ⟨b, hb, hmeans⟩ := (hmade m hm).filters_eq
  have hmem : b ∈ Merge.paths (ms.map made) :=
    (mem_paths_of_regular (regular_of_carries hmade)).mpr ⟨made m, List.mem_map_of_mem hm, hb⟩
  exact ⟨b, hmem, hmeans⟩

/-- The distinct paths, joined, hold when the members do, joined: the same values are joined. -/
theorem value_paths (k : Connective) {read : Text → Formula Text}
    (hread : ∀ b ∈ Merge.paths (ms.map made), Reads b (read b)) (v : Text → Bool) :
    k.value ((Merge.paths (ms.map made)).map fun b => Formula.value v (read b))
      = k.value (ms.map fun m => Formula.value (fun p => v (normalize p)) m) := by
  apply Connective.value_map_congr
  · intro b hb
    obtain ⟨m, hm, hmeans⟩ := exists_says_of_mem_paths hmade hb
    exact ⟨m, hm, (hmeans.value_eq _ (hread b hb) v).symm⟩
  · intro m hm
    obtain ⟨b, hb, hmeans⟩ := exists_mem_paths_says hmade hm
    exact ⟨b, hb, hmeans.value_eq _ (hread b hb) v⟩

/-- A group of members with one path each has one path, which says what the group says. -/
theorem says_merged (k : Connective) (hne : ms ≠ []) :
    ∃ b, Merge.filters (ms.map made) k = [.path b] ∧ Says b (.group k ms) := by
  have hreg := regular_of_carries hmade
  have hsome : Merge.paths (ms.map made) ≠ [] := by
    obtain ⟨m, hm⟩ := List.exists_mem_of_ne_nil ms hne
    obtain ⟨b, hb, -⟩ := exists_mem_paths_says hmade hm
    exact List.ne_nil_of_mem hb
  have readable : ∀ b, b ∈ Merge.paths (ms.map made) → ∃ e, Reads b e := by
    intro b hb
    obtain ⟨m, -, hmeans⟩ := exists_says_of_mem_paths hmade hb
    exact hmeans.readable
  choose! read hread using readable
  have hvalue := value_paths hmade k hread
  obtain ⟨b, hb, hone | hgroup⟩ :=
    Merge.filters_eq_path (fun _ => eq_path_of_regular hreg) hsome k
  · -- All members have the same path, which is kept: joining it with itself changes nothing.
    refine ⟨b, hb, says_of_reads (hread b (by rw [hone]; exact List.mem_singleton_self b)) ?_⟩
    intro v
    rw [Formula.value_group, ← hvalue v, hone, List.map_singleton, Connective.value_singleton]
  · have hreads : Reads b (.group k ((Merge.paths (ms.map made)).map read)) := by
      rw [hgroup]
      exact reads_group k hsome hread
    refine ⟨b, hb, says_of_reads hreads ?_⟩
    intro v
    rw [Formula.value_group, Formula.value_group, List.map_map, ← hvalue v]
    rfl

end

end Path

/-! ## Nested groups -/

namespace Formula

/-- A search for a path has this path as its filter. -/
theorem carries_leaf (c : Compiler) {p : Text} (hp : Path.IsAtom (Path.normalize p)) :
    ∃ f, (c.compile (.pathExists p)).result = .ok f ∧ Path.Carries (.leaf p) f := by
  have hslash : '/' ∈ p :=
    Path.mem_of_mem_normalize (List.mem_of_mem_head? hp.1) (by decide)
  have hblank : Text.isBlank p = false := Text.isBlank_eq_false hslash rfl
  have hresult : (c.compile (.pathExists p)).result
      = .ok ⟨Fragment.matchAll, [.path (Path.normalize p)]⟩ :=
    Compiler.pathSearch_of_phrase?_eq_none (c := c) (s := ⟨p, none, true⟩) hblank rfl
  exact ⟨_, hresult, rfl, _, rfl, Path.says_of_reads ⟨.leaf hp, rfl⟩ fun v => rfl⟩

/-- A nested group of searches for paths that are atoms when normalized is compiled to a fragment
with one filter, a path. It can be read as a formula over atoms, and however it is read, it holds
when the nested group does. -/
theorem compile_paths (c : Compiler) {t : Formula Text}
    (ht : t.Joined fun p => Path.IsAtom (Path.normalize p)) :
    ∃ q b, compile c (fun p => (c.compile (.pathExists p)).result) t = .ok ⟨q, [.path b]⟩ ∧
      Path.Says b t := by
  have carries : ∃ f, compile c (fun p => (c.compile (.pathExists p)).result) t = .ok f ∧
      Path.Carries t f := by
    induction ht with
    | leaf hp => exact carries_leaf c hp
    | @group k ms hne _ ih =>
        obtain ⟨made, hmade, hgroup⟩ := compile_group k ih
        obtain ⟨b, hb, hmeans⟩ := Path.says_merged hmade k hne
        have hquery : ∀ g ∈ ms.map made, Text.isBlank g.query = false :=
          fun g hg => (Path.regular_of_carries hmade g hg).query_not_blank
        have hresult := Group.combine_eq_ok k (by simpa using hne) hquery
        exact ⟨_, hgroup.trans hresult, Text.isBlank_eq_false (c := '(') List.mem_cons_self rfl,
          b, hb, hmeans⟩
  obtain ⟨⟨q, filters⟩, hf, -, b, hb, hmeans⟩ := carries
  cases hb
  exact ⟨q, b, hf, hmeans⟩

/-- A path, which is also a member of a group beside it. -/
def repeatedPath : Formula Text :=
  .group .or [.leaf "//a".toList, .group .and [.leaf "//ns:b".toList, .leaf "//a".toList]]

theorem joined_repeatedPath : repeatedPath.Joined fun p => Path.IsAtom (Path.normalize p) := by
  have inner : (Formula.group .and [.leaf "//ns:b".toList, .leaf "//a".toList]).Joined
      fun p => Path.IsAtom (Path.normalize p) := by
    refine .group (by simp) (List.forall_mem_cons.mpr ⟨.leaf (by decide), ?_⟩)
    exact List.forall_mem_singleton.mpr (.leaf (by decide))
  refine .group (by simp) (List.forall_mem_cons.mpr ⟨.leaf (by decide), ?_⟩)
  exact List.forall_mem_singleton.mpr inner

theorem compile_paths_repeatedPath :
    (repeatedPath.Joined fun p => Path.IsAtom (Path.normalize p)) ∧
      ∃ q b, compile Compiler.direct
          (fun p => (Compiler.direct.compile (.pathExists p)).result) repeatedPath
          = .ok ⟨q, [.path b]⟩ ∧ Path.Says b repeatedPath :=
  ⟨joined_repeatedPath, compile_paths .direct joined_repeatedPath⟩

end Formula
end CatalogQuery
