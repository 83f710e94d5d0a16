import CatalogQuery.Proofs.Made
import CatalogQuery.Query.Meaning

/-!
# What groups find

A fragment finds documents in two ways at once, by its query and by its filters, and a group joins
them apart from each other: the queries in order, the filters after merging.

* `passes_filters`: the merged filters let a document through when there is no path, or the paths,
  joined by the connective, hold;
* `matches_and`: a conjunction finds what all its members find. Both halves of a member have to
  hold, so it does not matter that they are joined apart;
* `matches_or_iff`: a disjunction finds what the query of one member and the path of one member
  find, which need not be the same member, and need not find anything if a member has no path. It
  finds what its members find exactly when they have all pairs of their queries and paths among
  them (`Group.IsProduct`).
-/

namespace CatalogQuery

/-! ## Filters after merging -/

section

variable {Doc : Type} {i : Interpretation Doc} {c : Connective} {operands : List Fragment}

/-- The merged filters hold when there is no path or the paths hold, joined. -/
theorem passes_filters (hi : i.Reads c operands) (d : Doc) :
    (∀ x ∈ Merge.filters operands c, i.Passes x d) ↔
      Merge.paths operands = [] ∨ c.Holds ((Merge.paths operands).map fun b => i.path b d) := by
  cases hf : Merge.isFolded operands with
  | true =>
      have hne : Merge.paths operands ≠ [] := by
        intro h
        simp [Merge.isFolded, h] at hf
      have bodies : ∀ b, b ∈ Merge.paths operands ↔ ∃ f ∈ operands, .path b ∈ f.filters :=
        fun b => Merge.mem_paths.trans Merge.mem_allFilters
      rw [Merge.filters_of_folded hf, List.forall_mem_singleton, Interpretation.passes_path,
        hi.paths _ hne bodies d, or_iff_right hne]
  | false =>
      rw [Merge.filters_of_not_folded hf]
      constructor
      · intro h
        rcases Merge.paths_eq_of_not_folded hf with hnone | ⟨b, hb⟩
        · exact Or.inl hnone
        · have hmem : PathFilter.path b ∈ Merge.allFilters operands :=
            Merge.mem_paths.mp (by rw [hb]; exact List.mem_singleton_self b)
          rw [hb, List.map_singleton, Connective.holds_singleton]
          exact Or.inr ((i.passes_path b d).mp (h _ (List.mem_eraseDups.mpr hmem)))
      · intro h x hx
        cases x with
        | index b => exact i.passes_index b d
        | path b =>
            have hb : b ∈ Merge.paths operands :=
              Merge.mem_paths.mpr (List.mem_eraseDups.mp hx)
            apply (i.passes_path b d).mpr
            rcases Merge.paths_eq_of_not_folded hf with hnone | ⟨a, ha⟩
            · rw [hnone] at hb
              cases hb
            · rw [ha, List.map_singleton, Connective.holds_singleton] at h
              rw [ha, List.mem_singleton] at hb
              subst hb
              exact h.resolve_left (by simp)

/-- A group finds what its queries find, joined, as far as its filters let it through. -/
theorem matches_combine {f : Fragment} (h : Group.combine c operands = .ok f)
    (hi : i.Reads c operands) (d : Doc) :
    f.Matches i d ↔ c.Holds (operands.map fun g => i.query g.query d) ∧
      (Merge.paths operands = [] ∨
        c.Holds ((Merge.paths operands).map fun b => i.path b d)) := by
  obtain ⟨-, -, rfl⟩ := Group.combine_eq_ok_iff.mp h
  rw [Fragment.Matches, passes_filters hi, hi.queries d, List.map_map]
  rfl

end

/-! ## Conjunctions -/

/-- A conjunction of members that all say something finds what all of them find, whatever filters
they have. -/
theorem matches_and (c : Compiler) {operands : List Fragment} (hne : operands ≠ [])
    (hq : ∀ g ∈ operands, Text.isBlank g.query = false) {Doc : Type} (i : Interpretation Doc)
    (hi : i.Reads .and operands) :
    ∃ f, (c.compile (.group .and operands)).result = .ok f ∧
      ∀ d, f.Matches i d ↔ ∀ g ∈ operands, g.Matches i d := by
  have hresult := Group.combine_eq_ok .and hne hq
  refine ⟨_, hresult, fun d => ?_⟩
  rw [matches_combine hresult hi, Connective.holds_and_map, Connective.holds_and_map]
  constructor
  · rintro ⟨hqueries, hpaths⟩ g hg
    refine ⟨hqueries g hg, fun x hx => ?_⟩
    cases x with
    | index b => exact i.passes_index b d
    | path b =>
        have hb : b ∈ Merge.paths operands :=
          Merge.mem_paths.mpr (Merge.mem_allFilters.mpr ⟨g, hg, hx⟩)
        apply (i.passes_path b d).mpr
        rcases hpaths with hnone | hall
        · rw [hnone] at hb
          cases hb
        · exact hall b hb
  · intro hall
    refine ⟨fun g hg => (hall g hg).1, Or.inr fun b hb => ?_⟩
    obtain ⟨g, hg, hbg⟩ := Merge.mem_allFilters.mp (Merge.mem_paths.mp hb)
    exact (i.passes_path b d).mp ((hall g hg).2 _ hbg)

/-- Two fragments with two paths between them, one of them in both, and an index filter. -/
def Group.overlapping : List Fragment :=
  [⟨"a:1".toList, [.path "//x".toList, .index "//x".toList]⟩,
    ⟨"b:2".toList, [.path "//y".toList, .path "//x".toList]⟩]

theorem matches_and_overlapping :
    Group.overlapping ≠ [] ∧ (∀ g ∈ Group.overlapping, Text.isBlank g.query = false) ∧
      (Interpretation.byMarks .and "12xy".toList).Reads .and Group.overlapping ∧
      ∃ f, (Compiler.direct.compile (.group .and Group.overlapping)).result = .ok f ∧
        ∀ d, f.Matches (Interpretation.byMarks .and "12xy".toList) d ↔
          ∀ g ∈ Group.overlapping, g.Matches (Interpretation.byMarks .and "12xy".toList) d := by
  have hi : (Interpretation.byMarks .and "12xy".toList).Reads .and Group.overlapping :=
    Interpretation.reads_byMarks (by simp [Connective.frame, Connective.keyword])
      (by simp [Connective.frame, Connective.pathKeyword]) _
  exact ⟨by decide, by decide, hi, matches_and .direct (by decide) (by decide) _ hi⟩

/-! ## Disjunctions -/

namespace Group

/-- Either every member has a filter or none has, and the query of any member with the filter of
any other is a member as well. -/
def IsProduct (operands : List Fragment) : Prop :=
  ((∀ g ∈ operands, g.filters = []) ∨ ∀ g ∈ operands, g.filters ≠ []) ∧
    ∀ g ∈ operands, ∀ h ∈ operands, ⟨g.query, h.filters⟩ ∈ operands

instance (operands : List Fragment) : Decidable (IsProduct operands) :=
  inferInstanceAs (Decidable (_ ∧ _))

end Group

/-- A disjunction finds what some query finds among its members and, if there are paths, some path
does. -/
def Group.FindsApart {Doc : Type} (i : Interpretation Doc) (operands : List Fragment) (d : Doc) :
    Prop :=
  (∃ g ∈ operands, i.query g.query d) ∧
    ((∀ g ∈ operands, g.filters = []) ∨ ∃ g ∈ operands, ∃ b, g.filters = [.path b] ∧ i.path b d)

theorem matches_or_of_regular {operands : List Fragment} (hreg : ∀ g ∈ operands, g.Regular)
    {f : Fragment} (h : Group.combine .or operands = .ok f) {Doc : Type} {i : Interpretation Doc}
    (hi : i.Reads .or operands) (d : Doc) : f.Matches i d ↔ Group.FindsApart i operands d := by
  rw [matches_combine h hi, Connective.holds_or_map, Connective.holds_or_map,
    paths_eq_nil_of_regular hreg, Group.FindsApart]
  refine and_congr_right fun _ => or_congr_right ?_
  constructor
  · rintro ⟨b, hb, hd⟩
    obtain ⟨g, hg, hgb⟩ := (mem_paths_of_regular hreg).mp hb
    exact ⟨g, hg, b, hgb, hd⟩
  · rintro ⟨g, hg, b, hgb, hd⟩
    exact ⟨b, (mem_paths_of_regular hreg).mpr ⟨g, hg, hgb⟩, hd⟩

/-- A fragment with a path as its only filter finds what its query and its path find. -/
theorem matches_of_filters_eq {Doc : Type} {i : Interpretation Doc} {f : Fragment} {b : Text}
    (h : f.filters = [.path b]) (d : Doc) :
    f.Matches i d ↔ i.query f.query d ∧ i.path b d := by
  rw [Fragment.Matches, h, List.forall_mem_singleton, Interpretation.passes_path]

/-- Its path is then one of a group that it is a member of. -/
theorem exists_path_of_filters_eq {operands : List Fragment} {f : Fragment} {b : Text}
    (hf : f ∈ operands) (h : f.filters = [.path b]) :
    ∃ g ∈ operands, PathFilter.path b ∈ g.filters :=
  ⟨f, hf, by rw [h]; exact List.mem_singleton_self _⟩

/-- A fragment without filters finds what its query finds. -/
theorem matches_of_filters_nil {Doc : Type} {i : Interpretation Doc} {f : Fragment}
    (h : f.filters = []) (d : Doc) : f.Matches i d ↔ i.query f.query d := by
  simp [Fragment.Matches, h]

/-- If all pairs of a query and a path are there, it does not matter that they are looked at
apart. -/
theorem findsApart_of_isProduct {operands : List Fragment} (hreg : ∀ g ∈ operands, g.Regular)
    (hprod : Group.IsProduct operands) {Doc : Type} (i : Interpretation Doc) (d : Doc) :
    Group.FindsApart i operands d ↔ ∃ g ∈ operands, g.Matches i d := by
  obtain ⟨hsame, hpairs⟩ := hprod
  constructor
  · rintro ⟨⟨g, hg, hgd⟩, hnone | ⟨h, hh, b, hb, hbd⟩⟩
    · exact ⟨g, hg, (matches_of_filters_nil (hnone g hg) d).mpr hgd⟩
    · have pair : (⟨g.query, h.filters⟩ : Fragment).filters = [.path b] := hb
      exact ⟨_, hpairs g hg h hh, (matches_of_filters_eq pair d).mpr ⟨hgd, hbd⟩⟩
  · rintro ⟨g, hg, hgd⟩
    refine ⟨⟨g, hg, hgd.1⟩, hsame.imp_right fun hall => ?_⟩
    obtain ⟨b, hb⟩ := (hreg g hg).filters_eq.resolve_left (hall g hg)
    exact ⟨g, hg, b, hb, ((matches_of_filters_eq hb d).mp hgd).2⟩

/-! ### When pairs are missing -/

namespace Interpretation

/-- The reading in which only one query of a disjunction holds, and only one path or none. The
group of the queries holds then, and so do the groups of the paths if one does. -/
def only (operands : List Fragment) (query : Text) (path? : Option Text) : Interpretation Unit where
  query t _ :=
    t = query ∨ t = Connective.group Connective.or.keyword (operands.map Fragment.query)
  path t _ := ∃ b, path? = some b ∧ (t = b ∨ ∃ bodies,
    (∀ x, x ∈ bodies ↔ ∃ f ∈ operands, .path x ∈ f.filters) ∧
      t = Connective.group Connective.or.pathKeyword bodies)

variable {operands : List Fragment} {query : Text} {path? : Option Text}

theorem reads_only (hq : ∃ g ∈ operands, g.query = query)
    (hp : ∀ b, path? = some b → ∃ f ∈ operands, .path b ∈ f.filters) :
    (only operands query path?).Reads .or operands where
  queries _ := by
    refine iff_of_true (Or.inr rfl) ?_
    obtain ⟨g, hg, rfl⟩ := hq
    exact Connective.holds_or_map.mpr ⟨g.query, List.mem_map_of_mem hg, Or.inl rfl⟩
  paths bodies _ hbodies _ := by
    rw [Connective.holds_or_map]
    constructor
    · rintro ⟨b, hb, -⟩
      exact ⟨b, (hbodies b).mpr (hp b hb), b, hb, Or.inl rfl⟩
    · rintro ⟨-, -, b, hb, -⟩
      exact ⟨b, hb, Or.inr ⟨bodies, hbodies, rfl⟩⟩

/-- A group is longer than its members, so that it does not stand for one of them. -/
theorem only_query {g : Fragment} (hg : g ∈ operands) :
    (only operands query path?).query g.query () ↔ g.query = query :=
  or_iff_left (Connective.ne_group _ (List.mem_map_of_mem hg))

theorem only_path {b : Text} (hb : ∃ f ∈ operands, .path b ∈ f.filters) :
    (only operands query path?).path b () ↔ path? = some b := by
  constructor
  · rintro ⟨a, ha, rfl | ⟨bodies, hbodies, h⟩⟩
    · exact ha
    · exact absurd h (Connective.ne_group _ ((hbodies b).mpr hb))
  · intro h
    exact ⟨b, h, Or.inl rfl⟩

end Interpretation

section

variable {operands : List Fragment} (hfinds : ∀ i : Interpretation Unit, i.Reads .or operands →
  (Group.FindsApart i operands () ↔ ∃ g ∈ operands, g.Matches i ()))
include hfinds

/-- A member without a filter is found by its query alone, also where no path holds. So there is no
path beside it if the disjunction finds what its members find. -/
theorem filters_alike_of_findsApart :
    (∀ g ∈ operands, g.filters = []) ∨ ∀ g ∈ operands, g.filters ≠ [] := by
  by_cases hsome : ∃ g ∈ operands, g.filters = []
  · obtain ⟨g, hg, hnone⟩ := hsome
    let i := Interpretation.only operands g.query none
    have hi : i.Reads .or operands :=
      Interpretation.reads_only ⟨g, hg, rfl⟩ fun b hb => by cases hb
    have hgd : g.Matches i () :=
      (matches_of_filters_nil hnone ()).mpr ((Interpretation.only_query hg).mpr rfl)
    refine Or.inl (((hfinds i hi).mpr ⟨g, hg, hgd⟩).2.resolve_right ?_)
    rintro ⟨h, hh, b, hb, hbd⟩
    cases (Interpretation.only_path (exists_path_of_filters_eq hh hb)).mp hbd
  · exact Or.inr fun g hg hnone => hsome ⟨g, hg, hnone⟩

/-- Where only the query of one member and the path of another hold, the member that is found has
both of them. -/
theorem mem_pair_of_findsApart (hpaths : ∀ g ∈ operands, ∃ b, g.filters = [.path b])
    {g h : Fragment} (hg : g ∈ operands) (hh : h ∈ operands) :
    ⟨g.query, h.filters⟩ ∈ operands := by
  obtain ⟨b, hb⟩ := hpaths h hh
  have hpath := exists_path_of_filters_eq hh hb
  let i := Interpretation.only operands g.query (some b)
  have hi : i.Reads .or operands :=
    Interpretation.reads_only ⟨g, hg, rfl⟩ fun a ha => by
      cases ha
      exact hpath
  have happart : Group.FindsApart i operands () :=
    ⟨⟨g, hg, (Interpretation.only_query hg).mpr rfl⟩,
      Or.inr ⟨h, hh, b, hb, (Interpretation.only_path hpath).mpr rfl⟩⟩
  obtain ⟨k, hk, hkd⟩ := (hfinds i hi).mp happart
  obtain ⟨a, ha⟩ := hpaths k hk
  obtain ⟨hquery, hpathd⟩ := (matches_of_filters_eq ha ()).mp hkd
  have hkg : k.query = g.query := (Interpretation.only_query hk).mp hquery
  have hba : some b = some a :=
    (Interpretation.only_path (exists_path_of_filters_eq hk ha)).mp hpathd
  cases hba
  have hpair : (⟨g.query, h.filters⟩ : Fragment) = k := by rw [← hkg, hb, ← ha]
  rw [hpair]
  exact hk

/-- A disjunction that finds what its members find, whatever the reading, has all pairs. -/
theorem isProduct_of_findsApart (hreg : ∀ g ∈ operands, g.Regular) : Group.IsProduct operands := by
  have halike := filters_alike_of_findsApart hfinds
  refine ⟨halike, fun g hg h hh => ?_⟩
  rcases halike with hnone | hsome
  · rw [hnone h hh, ← hnone g hg]
    exact hg
  · have hpaths : ∀ k ∈ operands, ∃ b, k.filters = [.path b] :=
      fun k hk => (hreg k hk).filters_eq.resolve_left (hsome k hk)
    exact mem_pair_of_findsApart hfinds hpaths hg hh

end

/-- A disjunction of fragments that a compiler has made finds what the query of a member and the
path of a member find. That is what its members find, for every reading, just when the members are
all pairs of their queries and paths. -/
theorem matches_or_iff (c : Compiler) (operands : List Fragment) (hne : operands ≠ [])
    (hmade : ∀ g ∈ operands, c.Makes g) :
    ∃ f, (c.compile (.group .or operands)).result = .ok f ∧
      (∀ (Doc : Type) (i : Interpretation Doc), i.Reads .or operands →
        ∀ d, f.Matches i d ↔ Group.FindsApart i operands d) ∧
      ((∀ (Doc : Type) (i : Interpretation Doc), i.Reads .or operands →
        ∀ d, f.Matches i d ↔ ∃ g ∈ operands, g.Matches i d) ↔ Group.IsProduct operands) := by
  have hreg : ∀ g ∈ operands, g.Regular := fun g hg => (hmade g hg).regular
  have hresult := Group.combine_eq_ok .or hne fun g hg => (hreg g hg).query_not_blank
  refine ⟨_, hresult, fun Doc i hi d => matches_or_of_regular hreg hresult hi d, ?_⟩
  constructor
  · intro hmeaning
    refine isProduct_of_findsApart (fun i hi => ?_) hreg
    rw [← matches_or_of_regular hreg hresult hi]
    exact hmeaning Unit i hi ()
  · intro hprod Doc i hi d
    rw [matches_or_of_regular hreg hresult hi]
    exact findsApart_of_isProduct hreg hprod i d

/-- Two searches by path: one query and all its paths. -/
def Group.twoPaths : List Fragment :=
  [⟨Fragment.matchAll, [.path "//a".toList]⟩, ⟨Fragment.matchAll, [.path "//b".toList]⟩]

theorem makes_twoPaths : ∀ g ∈ Group.twoPaths, Compiler.direct.Makes g := by
  refine List.forall_mem_cons.mpr ⟨?_, List.forall_mem_singleton.mpr ?_⟩
  · exact .of (p := .pathExists "//a".toList) (by simp [Predicate.operands]) rfl
  · exact .of (p := .pathExists "//b".toList) (by simp [Predicate.operands]) rfl

theorem matches_or_iff_twoPaths :
    Group.twoPaths ≠ [] ∧ (∀ g ∈ Group.twoPaths, Compiler.direct.Makes g) ∧
      Group.IsProduct Group.twoPaths ∧
      ∃ f, (Compiler.direct.compile (.group .or Group.twoPaths)).result = .ok f ∧
        (∀ (Doc : Type) (i : Interpretation Doc), i.Reads .or Group.twoPaths →
          ∀ d, f.Matches i d ↔ Group.FindsApart i Group.twoPaths d) ∧
        ((∀ (Doc : Type) (i : Interpretation Doc), i.Reads .or Group.twoPaths →
          ∀ d, f.Matches i d ↔ ∃ g ∈ Group.twoPaths, g.Matches i d)
            ↔ Group.IsProduct Group.twoPaths) :=
  ⟨by decide, makes_twoPaths, by decide,
    matches_or_iff .direct Group.twoPaths (by decide) makes_twoPaths⟩

/-- A search for a phrase at a path, and the same phrase anywhere. -/
def Group.phraseTwice : List Fragment :=
  [⟨"metadata:\"x\"".toList, [.path "//a[contains(., 'x')]".toList]⟩,
    ⟨"metadata:\"x\"".toList, []⟩]

theorem makes_phraseTwice : ∀ g ∈ Group.phraseTwice, Compiler.direct.Makes g := by
  refine List.forall_mem_cons.mpr ⟨?_, List.forall_mem_singleton.mpr ?_⟩
  · exact .of (p := .pathLike "//a".toList ['x'] true) (by simp [Predicate.operands]) rfl
  · exact .of (p := .like "metadata".toList ['x'] false) (by simp [Predicate.operands]) rfl

/-- A disjunction need not find what its members find: the path of one member is asked of what the
other finds, too. -/
theorem not_matches_or_iff_exists :
    ¬ ∀ (c : Compiler) (operands : List Fragment), operands ≠ [] →
      (∀ g ∈ operands, c.Makes g) → ∀ (Doc : Type) (i : Interpretation Doc),
        i.Reads .or operands → ∃ f, (c.compile (.group .or operands)).result = .ok f ∧
          ∀ d, f.Matches i d ↔ ∃ g ∈ operands, g.Matches i d := by
  intro h
  let i := Interpretation.byMarks .or "m/".toList
  have hi : i.Reads .or Group.phraseTwice :=
    Interpretation.reads_byMarks (by simp [Connective.frame, Connective.keyword])
      (by simp [Connective.frame, Connective.pathKeyword]) _
  obtain ⟨f, hf, hd⟩ := h .direct Group.phraseTwice (by decide) makes_phraseTwice _ i hi
  rw [Compiler.result_group] at hf
  obtain ⟨-, -, rfl⟩ := Group.combine_eq_ok_iff.mp hf
  -- The document mentions the phrase, but not at the path.
  let d : Char → Prop := fun m => m = 'm'
  have hquery : i.query "metadata:\"x\"".toList d :=
    Connective.holds_or_map.mpr ⟨'m', by decide, rfl⟩
  have hpath : ¬ i.path "//a[contains(., 'x')]".toList d := by
    intro hp
    obtain ⟨m, hm, rfl⟩ := Connective.holds_or_map.mp hp
    exact absurd hm (by decide)
  have hfilters : Merge.filters Group.phraseTwice .or
      = [.path "//a[contains(., 'x')]".toList] := by decide
  have hmember : ∃ g ∈ Group.phraseTwice, g.Matches i d :=
    ⟨⟨"metadata:\"x\"".toList, []⟩, by decide,
      (matches_of_filters_nil rfl d).mpr hquery⟩
  exact hpath ((matches_of_filters_eq hfilters d).mp ((hd d).mpr hmember)).2

end CatalogQuery
