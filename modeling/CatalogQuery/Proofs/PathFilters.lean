import CatalogQuery.Proofs.Runs

/-!
# Paths in filters

A search by path is refused if there is no path. The path is looked at as it is given: it may be
made of namespaces only, and then nothing is left of it when these are dropped.

* `Fragment.HasPaths`, `Group.JoinsPaths`: there is a path in each filter, and in each part of the
  filters that a group has joined;
* `Session.hasPaths_of_searches`: every step of a run keeps this, if each search keeps something of
  its path;
* `Session.hasPaths_iff`: for searches without a phrase this is needed, since their filter is what
  is left of the path (`Session.not_hasPaths`).
-/

namespace CatalogQuery

/-- Every filter has more in it than white space. -/
def Fragment.HasPaths (f : Fragment) : Prop := ∀ x ∈ f.filters, Text.isBlank x.body = false

/-- If there are several paths among the filters of the members, they are joined to the only filter
of the group, and each of them has more in it than white space. -/
def Group.JoinsPaths (k : Connective) (operands : List Fragment) (f : Fragment) : Prop :=
  Merge.HasTwoPaths (Merge.allFilters operands) →
    ∃ parts, f.filters = [.path (Connective.group k.pathKeyword parts)] ∧
      (∀ b, b ∈ parts ↔ .path b ∈ Merge.allFilters operands) ∧
      ∀ b ∈ parts, Text.isBlank b = false

/-- The path of a search has something left without its namespaces, or the search is for a
phrase. -/
def PathSearch.KeepsPath (search : PathSearch) : Prop :=
  search.phrase? = none → Text.isBlank (Path.normalize search.path) = false

/-! ## One step -/

variable {c : Compiler} {f : Fragment} {operands : List Fragment}

/-- A phrase is always looked for in a filter with something in it. -/
theorem PathSearch.isBlank_body {search : PathSearch} (h : search.KeepsPath) :
    Text.isBlank search.body = false := by
  unfold body
  cases hphrase : search.phrase? with
  | none => exact h hphrase
  | some t =>
      have hbracket :
          '[' ∈ Path.containing (Path.normalize search.path) t search.caseSensitive := by
        unfold Path.containing
        split
        · simp
        · simp
      exact Text.isBlank_eq_false hbracket rfl

/-- Joining paths keeps them, and an expression of several paths has parentheses. -/
theorem hasPaths_filters (h : ∀ g ∈ operands, g.HasPaths) (k : Connective) {x : PathFilter}
    (hx : x ∈ Merge.filters operands k) : Text.isBlank x.body = false := by
  cases hf : Merge.isFolded operands with
  | true =>
      rw [Merge.filters_of_folded hf, List.mem_singleton] at hx
      subst hx
      exact Text.isBlank_eq_false (c := '(') List.mem_cons_self rfl
  | false =>
      rw [Merge.filters_of_not_folded hf, List.mem_eraseDups] at hx
      obtain ⟨g, hg, hxg⟩ := Merge.mem_allFilters.mp hx
      exact h g hg x hxg

/-- A predicate keeps that there are paths in all filters. -/
theorem hasPaths_of_result {p : Predicate} (hops : ∀ g ∈ p.operands, g.HasPaths)
    (hpath : ∀ search, p.pathSearch? = some search → Text.isBlank search.path = false →
      search.KeepsPath)
    (h : (c.compile p).result = .ok f) : f.HasPaths := by
  intro x hx
  rcases Compiler.cases_of_result h with ⟨k, operands, rfl, hgroup⟩ | ⟨search, hp, hsearch⟩ | hplain
  · obtain ⟨-, -, rfl⟩ := Group.combine_eq_ok_iff.mp hgroup
    exact hasPaths_filters hops k hx
  · obtain ⟨hblank, hfilters⟩ := Compiler.filters_of_pathSearch hsearch
    rw [hfilters, List.mem_singleton] at hx
    subst hx
    exact PathSearch.isBlank_body (hpath search hp hblank)
  · rw [hplain.filters_eq_nil] at hx
    cases hx

/-- The parts of a joined filter are paths of the members. -/
theorem joinsPaths_of_hasPaths {k : Connective} (hops : ∀ g ∈ operands, g.HasPaths)
    (h : Group.combine k operands = .ok f) : Group.JoinsPaths k operands f := by
  intro htwo
  obtain ⟨-, -, rfl⟩ := Group.combine_eq_ok_iff.mp h
  refine ⟨Merge.paths operands, Merge.filters_of_folded (Merge.isFolded_iff.mpr htwo) k,
    fun b => Merge.mem_paths, fun b hb => ?_⟩
  obtain ⟨g, hg, hbg⟩ := Merge.mem_allFilters.mp (Merge.mem_paths.mp hb)
  exact hops g hg _ hbg

/-! ## Runs -/

namespace Session

variable {steps : List Step}

/-- The searches by path of a run. -/
def searches (steps : List Step) : List PathSearch :=
  (steps.filterMap Step.predicate?).filterMap Predicate.pathSearch?

theorem mem_searches {search : PathSearch} :
    search ∈ searches steps ↔ ∃ p, .predicate p ∈ steps ∧ p.pathSearch? = some search := by
  rw [searches, List.mem_filterMap]
  refine exists_congr fun p => and_congr_left fun _ => ?_
  rw [List.mem_filterMap]
  constructor
  · rintro ⟨step, hstep, hp⟩
    cases step with
    | setSortPolicy sortBy => cases hp
    | predicate q =>
        cases hp
        exact hstep
  · exact fun hp => ⟨_, hp, rfl⟩

/-- If all searches keep something of their paths, there are paths in all filters of a run. -/
theorem hasPaths_of_searches (h : BuildsOnResults c steps)
    (hsearches : ∀ search ∈ searches steps, Text.isBlank search.path = false → search.KeepsPath) :
    ∀ f ∈ results c steps, f.HasPaths := by
  refine forall_results h fun p f hp hops hf => ?_
  have hkeeps : ∀ search, p.pathSearch? = some search →
      Text.isBlank search.path = false → search.KeepsPath := fun search hs =>
    hsearches search (mem_searches.mpr ⟨p, hp, hs⟩)
  exact hasPaths_of_result hops hkeeps hf

/-- If there are paths in all filters of a run, all of its searches keep something of their paths:
the others would have nothing in their filters. -/
theorem keepsPath_of_hasPaths (h : ∀ f ∈ results c steps, f.HasPaths) {search : PathSearch}
    (hsearch : search ∈ searches steps) (hblank : Text.isBlank search.path = false) :
    search.KeepsPath := by
  intro hnone
  obtain ⟨p, hp, hs⟩ := mem_searches.mp hsearch
  have hresult : (c.compile p).result
      = .ok ⟨Fragment.matchAll, [.path (Path.normalize search.path)]⟩ := by
    rw [Compiler.result_of_pathSearch? hs, Compiler.pathSearch_of_phrase?_eq_none hblank hnone]
  exact h _ (mem_results.mpr ⟨p, hp, hresult⟩) _ (List.mem_singleton_self _)

/-- A search by path is refused for want of a path just if its path is nothing but white space as it
is given. In a run that builds on its own results, all filters and all parts of joined filters have
paths in them just if every other search without a phrase has something left of its path when this
is normalized. -/
theorem hasPaths_iff (c : Compiler) :
    (∀ p search, p.pathSearch? = some search →
      ((c.compile p).result = .error .pathRequired ↔ Text.isBlank search.path = true)) ∧
    ∀ steps, BuildsOnResults c steps →
      ((∀ f ∈ results c steps, f.HasPaths) ∧
          (∀ k operands f, .predicate (.group k operands) ∈ steps →
            (c.compile (.group k operands)).result = .ok f → Group.JoinsPaths k operands f) ↔
        ∀ search ∈ searches steps, Text.isBlank search.path = false → search.KeepsPath) := by
  refine ⟨fun p search => Compiler.result_eq_pathRequired_iff, fun steps h => ?_⟩
  constructor
  · rintro ⟨hpaths, -⟩ search
    exact keepsPath_of_hasPaths hpaths
  · intro hsearches
    have hpaths := hasPaths_of_searches h hsearches
    refine ⟨hpaths, fun k operands f hp hf => joinsPaths_of_hasPaths (fun g hg => ?_) hf⟩
    exact hpaths g (mem_results_of_operand h hp hg)

/-- In a run that joins two paths, both searches keep their paths; a path of white space is
refused. -/
theorem hasPaths_iff_pathsJoined :
    ((Compiler.direct.compile (.pathLike "\t\u2003".toList "x".toList true)).result
        = .error .pathRequired ∧ Text.isBlank "\t\u2003".toList = true) ∧
    BuildsOnResults .direct pathsJoined ∧
    (∀ search ∈ searches pathsJoined, Text.isBlank search.path = false → search.KeepsPath) ∧
    (∀ f ∈ results .direct pathsJoined, f.HasPaths) ∧
    Group.JoinsPaths .or [pathFound "//b".toList, pathFound "//a".toList]
      ⟨"(*:* OR *:*)".toList, [.path "(//a or //b)".toList]⟩ := by
  obtain ⟨hrefused, hrun⟩ := hasPaths_iff .direct
  have hblank : Text.isBlank "\t\u2003".toList = true := by decide
  have hsearches : ∀ search ∈ searches pathsJoined, Text.isBlank search.path = false →
      search.KeepsPath := by
    intro search hsearch _ _
    rcases List.mem_pair.mp hsearch with rfl | rfl
    · decide
    · decide
  obtain ⟨hpaths, hjoins⟩ := (hrun pathsJoined buildsOnResults_pathsJoined).mpr hsearches
  refine ⟨⟨(hrefused _ _ rfl).mpr hblank, hblank⟩, buildsOnResults_pathsJoined, hsearches, hpaths,
    hjoins .or _ _ (by simp [pathsJoined]) rfl⟩

/-- A path of a namespace only is not refused, though nothing is left of it. Joined with another
path, it makes a filter that is no expression. -/
theorem not_hasPaths :
    Path.normalize "ns:".toList = [] ∧
    (Compiler.direct.compile (.pathExists "ns:".toList)).result = .ok (pathFound []) ∧
    ¬(pathFound []).HasPaths ∧
    (Compiler.direct.compile (.group .and [pathFound [], pathFound "//a".toList])).result
      = .ok ⟨"(*:* AND *:*)".toList, [.path "( and //a)".toList]⟩ := by
  refine ⟨by decide, rfl, fun h => ?_, rfl⟩
  exact absurd (h (.path []) (List.mem_singleton_self _)) (by decide)

end Session
end CatalogQuery
