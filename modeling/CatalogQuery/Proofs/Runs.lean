import CatalogQuery.Predicate.Transcript
import CatalogQuery.Proofs.Made
import CatalogQuery.Proofs.Merging

/-!
# What holds of every run

A compiler for any schema, with any settings and any library, takes steps that may succeed or fail
in any order.

* `Session.length_filters_le_one`: a run that builds on its own results never has more than one
  filter in a fragment, and that is a path, since groups merge the filters of their members;
* `Session.refuses_iff_isBlank`: groups and negations are refused only for want of something to
  say. What a run results in says something, so it can always be joined and negated again;
* `Session.answers_congr`: what is remembered, and which order is requested when, makes no
  difference to the answers but for what they report of the order.
-/

namespace CatalogQuery

variable {c : Compiler} {p : Predicate} {f : Fragment}

namespace Session

variable {steps : List Step}

/-! ## One filter at most -/

/-- The fragments that a predicate of a run is about are results of steps before it. -/
def BuildsOnResults (c : Compiler) (steps : List Step) : Prop :=
  ∀ i p, steps[i]? = some (.predicate p) → ∀ g ∈ p.operands, g ∈ results c (steps.take i)

/-- What every predicate of such a run keeps, from the fragments that it is about to its result,
holds of all results. -/
theorem forall_results {P : Fragment → Prop} (h : BuildsOnResults c steps)
    (keeps : ∀ p f, .predicate p ∈ steps → (∀ g ∈ p.operands, P g) →
      (c.compile p).result = .ok f → P f) : ∀ f ∈ results c steps, P f := by
  have upTo : ∀ n, ∀ f ∈ results c (steps.take n), P f := by
    intro n
    induction n with
    | zero =>
        intro f hf
        rw [List.take_zero] at hf
        cases hf
    | succ n ih =>
        intro f hf
        rw [List.take_add_one, results_append, List.mem_append] at hf
        rcases hf with hf | hf
        · exact ih f hf
        · obtain ⟨p, hp, hresult⟩ := mem_results.mp hf
          have hstep : steps[n]? = some (.predicate p) := by simpa using hp
          have hoperands : ∀ g ∈ p.operands, P g := fun g hg => ih g (h n p hstep g hg)
          exact keeps p f (List.mem_of_getElem? hstep) hoperands hresult
  intro f hf
  exact upTo steps.length f (by simpa using hf)

/-- A run that builds on its own results only has results that the compiler makes. -/
theorem makes_of_mem_results (h : BuildsOnResults c steps) (hf : f ∈ results c steps) :
    c.Makes f :=
  forall_results h (fun _ _ _ operands result => .of operands result) f hf

/-- What a predicate of such a run is about is a result of the run. -/
theorem mem_results_of_operand (h : BuildsOnResults c steps) (hp : .predicate p ∈ steps)
    (hf : f ∈ p.operands) : f ∈ results c steps := by
  obtain ⟨i, hi⟩ := List.mem_iff_getElem?.mp hp
  obtain ⟨q, hq, hresult⟩ := mem_results.mp (h i p hi f hf)
  exact mem_results.mpr ⟨q, List.mem_of_mem_take hq, hresult⟩

/-- A group has no filter twice, and at most one path, whatever filters its members have. In a run
that builds on its own results, a fragment has at most one filter at all, and no index filter. -/
theorem length_filters_le_one (c : Compiler) :
    (∀ k operands f, (c.compile (.group k operands)).result = .ok f →
      (f.filters.filterMap PathFilter.path?).length ≤ 1 ∧ f.filters.Nodup) ∧
    (∀ steps, BuildsOnResults c steps → ∀ f ∈ results c steps,
      f.filters.length ≤ 1 ∧ ∀ b, .index b ∉ f.filters) := by
  constructor
  · intro k operands f h
    obtain ⟨-, -, rfl⟩ := Group.combine_eq_ok_iff.mp h
    exact ⟨Merge.length_path?_filters_le_one operands k, Merge.nodup_filters operands k⟩
  · intro steps h f hf
    rcases (makes_of_mem_results h hf).regular.filters_eq with hnone | ⟨b, hb⟩
    · simp [hnone]
    · simp [hb]

/-- A search for a path as it is compiled. -/
def pathFound (path : Text) : Fragment := ⟨Fragment.matchAll, [.path path]⟩

/-- Two searches for paths, with a change of the requested order between them; then both joined, and
the group negated. -/
def pathsJoined : List Step :=
  [.predicate (.pathExists "//b".toList), .setSortPolicy (some ⟨"distance".toList, .ascending⟩),
    .predicate (.pathExists "//a".toList),
    .predicate (.group .or [pathFound "//b".toList, pathFound "//a".toList]),
    .predicate (.negation ⟨"(*:* OR *:*)".toList, [.path "(//a or //b)".toList]⟩)]

theorem buildsOnResults_pathsJoined : BuildsOnResults .direct pathsJoined := by
  intro i p hp g hg
  match i with
  | 0 => cases hp; cases hg
  | 1 => cases hp
  | 2 => cases hp; cases hg
  | 3 =>
      cases hp
      rcases List.mem_pair.mp hg with rfl | rfl
      · exact mem_results.mpr ⟨.pathExists "//b".toList, by simp [pathsJoined], rfl⟩
      · exact mem_results.mpr ⟨.pathExists "//a".toList, by simp [pathsJoined], rfl⟩
  | 4 =>
      cases hp
      obtain rfl := List.mem_singleton.mp hg
      exact mem_results.mpr
        ⟨.group .or [pathFound "//b".toList, pathFound "//a".toList], by simp [pathsJoined], rfl⟩
  | i + 5 => cases hp

theorem length_filters_le_one_pathsJoined :
    (∃ f, (Compiler.direct.compile (.group .or Merge.apart)).result = .ok f ∧
      (f.filters.filterMap PathFilter.path?).length ≤ 1 ∧ f.filters.Nodup) ∧
    BuildsOnResults .direct pathsJoined ∧
      ∀ f ∈ results .direct pathsJoined, f.filters.length ≤ 1 ∧ ∀ b, .index b ∉ f.filters := by
  obtain ⟨hgroup, hrun⟩ := length_filters_le_one .direct
  have hfound : Group.combine .or Merge.apart = .ok _ :=
    Group.combine_eq_ok .or (by decide) (by decide)
  exact ⟨⟨_, hfound, hgroup .or Merge.apart _ hfound⟩, buildsOnResults_pathsJoined,
    hrun _ buildsOnResults_pathsJoined⟩

/-! ## Success -/

/-- Some run of some compiler results in the fragment. -/
def IsResult (f : Fragment) : Prop := ∃ c steps, f ∈ results c steps

theorem isResult_of_compile (h : (c.compile p).result = .ok f) : IsResult f :=
  ⟨c, [.predicate p], mem_results.mpr ⟨p, List.mem_singleton_self _, h⟩⟩

/-- Whatever is compiled says something. For groups and negations it does not matter what they are
about. -/
theorem isBlank_query_of_compile (h : (c.compile p).result = .ok f) :
    Text.isBlank f.query = false := by
  rcases Compiler.cases_of_result h with ⟨k, operands, -, hgroup⟩ | ⟨search, -, hpath⟩ | hplain
  · obtain ⟨-, -, rfl⟩ := Group.combine_eq_ok_iff.mp hgroup
    exact (Compiler.plain_parentheses _).query_not_blank
  · exact (Compiler.regular_pathSearch hpath).query_not_blank
  · exact hplain.query_not_blank

theorem IsResult.isBlank_query (h : IsResult f) : Text.isBlank f.query = false := by
  obtain ⟨c, steps, hf⟩ := h
  obtain ⟨p, -, hresult⟩ := mem_results.mp hf
  exact isBlank_query_of_compile hresult

/-- What a run results in can be negated. -/
theorem exists_negation (c : Compiler) (hf : IsResult f) :
    ∃ g, (c.compile (.negation f)).result = .ok g ∧ IsResult g := by
  have hresult : (c.compile (.negation f)).result = .ok { query := "NOT ".toList ++ f.query } :=
    Group.negate_eq_ok_iff.mpr ⟨hf.isBlank_query, rfl⟩
  exact ⟨_, hresult, isResult_of_compile hresult⟩

/-- What runs result in can be joined. -/
theorem exists_group (c : Compiler) (k : Connective) {fs : List Fragment} (hne : fs ≠ [])
    (hfs : ∀ f ∈ fs, IsResult f) :
    ∃ g, (c.compile (.group k fs)).result = .ok g ∧ IsResult g := by
  have hsaid : ∀ f ∈ fs, Text.isBlank f.query = false := fun f hf => (hfs f hf).isBlank_query
  have hresult : (c.compile (.group k fs)).result = .ok _ := Group.combine_eq_ok k hne hsaid
  exact ⟨_, hresult, isResult_of_compile hresult⟩

/-- A group is refused when it has no members or a member that is nothing but white space, and a
negation when its operand is; either is an invalid argument. Whatever a run results in is more than
white space. So the results of runs can be negated and joined, which are results again. -/
theorem refuses_iff_isBlank (c : Compiler) :
    (∀ k operands, (∃ e, (c.compile (.group k operands)).result = .error e) ↔
      operands = [] ∨ ∃ g ∈ operands, ∀ x ∈ g.query, Text.isBlankChar x = true) ∧
    (∀ operand, (∃ e, (c.compile (.negation operand)).result = .error e) ↔
      ∀ x ∈ operand.query, Text.isBlankChar x = true) ∧
    (∀ k operands e, (c.compile (.group k operands)).result = .error e →
      e.kind = .invalidArgument) ∧
    (∀ operand e, (c.compile (.negation operand)).result = .error e →
      e.kind = .invalidArgument) ∧
    (∀ f, IsResult f → (∃ x ∈ f.query, Text.isBlankChar x = false) ∧
      ∃ g, (c.compile (.negation f)).result = .ok g ∧ IsResult g) ∧
    ∀ k fs, fs ≠ [] → (∀ f ∈ fs, IsResult f) →
      ∃ g, (c.compile (.group k fs)).result = .ok g ∧ IsResult g := by
  refine ⟨fun k operands => ?_, fun operand => ?_, fun k operands e => ?_, fun operand e => ?_,
    fun f hf => ⟨?_, exists_negation c hf⟩, fun k fs hne hfs => exists_group c k hne hfs⟩
  · simp only [Compiler.result_group, Group.combine_eq_error_iff, ← Text.isBlank_iff]
    constructor
    · rintro ⟨e, ⟨hnil, -⟩ | ⟨hblank, -⟩⟩
      · exact Or.inl hnil
      · exact Or.inr hblank
    · rintro (hnil | hblank)
      · exact ⟨_, Or.inl ⟨hnil, rfl⟩⟩
      · exact ⟨_, Or.inr ⟨hblank, rfl⟩⟩
  · simp [Group.negate_eq_error_iff, Text.isBlank_iff]
  · exact Group.kind_of_combine_eq_error
  · exact Group.kind_of_negate_eq_error
  · simpa [Text.isBlank] using hf.isBlank_query

/-- A compiler for an index in which all fields are without a name, and there is no free text. -/
def nameless : Compiler where
  schema := {
    field := fun _ _ _ => []
    caseSensitive := fun _ => []
    whitespaceTokenized := fun _ => []
    anyText := []
    variants := fun _ => some [[]] }
  settings := {}
  draw := fun _ _ => []

theorem refuses_iff_isBlank_nameless :
    (∀ f ∈ [⟨"()".toList, []⟩, ⟨":true".toList, []⟩], IsResult f) ∧
      ∃ g, (nameless.compile (.group .and [⟨"()".toList, []⟩, ⟨":true".toList, []⟩])).result
        = .ok g ∧ IsResult g := by
  have hresults : ∀ f ∈ [⟨"()".toList, []⟩, ⟨":true".toList, []⟩], IsResult f := by
    refine List.forall_mem_cons.mpr ⟨?_, List.forall_mem_singleton.mpr ?_⟩
    · have hlike : (nameless.compile (.like "anyText".toList "x".toList true)).result
          = .ok ⟨"()".toList, []⟩ := rfl
      exact isResult_of_compile hlike
    · have htrue : (nameless.compile (.equalsBool "p".toList true)).result
          = .ok ⟨":true".toList, []⟩ := rfl
      exact isResult_of_compile htrue
  obtain ⟨-, -, -, -, -, hgroups⟩ := refuses_iff_isBlank nameless
  exact ⟨hresults, hgroups .and _ (by simp) hresults⟩

/-! ## The requested order -/

/-- Two compilers for the same index, with the same settings and the same library, have the same
answers in runs over the same predicates, but for what these report of the order: whatever each of
them remembers, and whatever order is requested in each run at any time. -/
theorem answers_congr {c d : Compiler} {steps others : List Step} (hschema : c.schema = d.schema)
    (hsettings : c.settings = d.settings) (hdraw : c.draw = d.draw)
    (h : steps.filterMap Step.predicate? = others.filterMap Step.predicate?) :
    (answers c steps).map Answer.apartFromSorting
      = (answers d others).map Answer.apartFromSorting := by
  have hsame := Compiler.apartFromSorting_congr hschema hsettings hdraw
  rw [apartFromSorting_answers, apartFromSorting_answers, h, hsame]

/-- A search by location while the results are sorted by distance. -/
def searchSorted : List Step :=
  [.setSortPolicy (some ⟨"distance".toList, .ascending⟩),
    .predicate (.nearestTo "loc".toList "POINT(1 2)".toList), .setSortPolicy none]

/-- The same search while they are not. -/
def searchUnsorted : List Step := [.predicate (.nearestTo "loc".toList "POINT(1 2)".toList)]

theorem answers_congr_search :
    searchSorted.filterMap Step.predicate? = searchUnsorted.filterMap Step.predicate? ∧
    (answers .direct searchSorted).map Answer.apartFromSorting
      = (answers { Compiler.direct with distancePoint := some ⟨0, 0⟩ } searchUnsorted).map
        Answer.apartFromSorting ∧
    (answers .direct searchSorted).map (·.log.length) = [1] ∧
    (answers { Compiler.direct with distancePoint := some ⟨0, 0⟩ } searchUnsorted).map
      (·.log.length) = [0] := by
  have hsame : (answers .direct searchSorted).map Answer.apartFromSorting
      = (answers { Compiler.direct with distancePoint := some ⟨0, 0⟩ } searchUnsorted).map
        Answer.apartFromSorting :=
    answers_congr rfl rfl rfl rfl
  exact ⟨rfl, hsame, by decide +kernel, by decide +kernel⟩

end Session
end CatalogQuery
