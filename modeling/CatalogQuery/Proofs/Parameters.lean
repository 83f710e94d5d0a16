import CatalogQuery.Predicate.Basic
import CatalogQuery.Proofs.Made

/-!
# Filters as they are sent

Filters go into a request parameter of their own, each between quotes. What is sent can be read
back, whatever stands in a path.

* `Fragment.params_eq_iff`: fragments with one set of parameters have one list of filters;
* `Fragment.filters_of_params`: the parameter is there when there are filters, and its values read
  back as the filters, in order;
* `Compiler.phrase_of_pathLike`: so does a phrase that is looked for within a path, which is a
  string literal of the path language within the quotes of the filter.
-/

namespace CatalogQuery

/-! ## One filter -/

namespace PathFilter

/-- A path is quoted in two steps: a backslash before each backslash, then one before each quote. -/
theorem text_eq_replaceChar (x : PathFilter) :
    x.text = x.opening ++ Text.replaceChar '"' ['\\', '"']
      (Text.replaceChar '\\' ['\\', '\\'] x.body) ++ ['"'] := by
  rw [text, Text.Quoted.encode_eq_replaceChar]

theorem text_inj {x y : PathFilter} : x.text = y.text ↔ x = y := by
  constructor
  · intro h
    have hread : read? x.text = read? y.text := congrArg read? h
    rw [read?_text, read?_text] at hread
    exact Option.some.inj hread
  · rintro rfl
    rfl

end PathFilter

/-! ## All filters of a fragment -/

namespace Fragment

variable {f g : Fragment}

theorem params_of_ne_nil (h : f.filters ≠ []) :
    f.params = [(filterParamName, f.filters.map PathFilter.text)] :=
  if_neg (by simpa using h)

theorem params_eq_nil_iff : f.params = [] ↔ f.filters = [] := by
  constructor
  · intro h
    by_cases hf : f.filters = []
    · exact hf
    · rw [params_of_ne_nil hf] at h
      cases h
  · intro hf
    rw [params, hf]
    rfl

/-- The only parameter is the one for filters, with a value for each filter. -/
theorem eq_of_mem_params {name : Text} {values : List Text} (h : (name, values) ∈ f.params) :
    name = filterParamName ∧ values = f.filters.map PathFilter.text := by
  by_cases hf : f.filters = []
  · rw [params_eq_nil_iff.mpr hf] at h
    cases h
  · rw [params_of_ne_nil hf, List.mem_singleton, Prod.mk.injEq] at h
    exact h

/-- Different lists of filters are never sent alike. -/
theorem params_eq_iff : f.params = g.params ↔ f.filters = g.filters := by
  constructor
  · intro h
    by_cases hf : f.filters = []
    · have hg : g.params = [] := by rw [← h, params_eq_nil_iff, hf]
      rw [hf, params_eq_nil_iff.mp hg]
    · have hg : g.filters ≠ [] := fun hg => hf (by rwa [← params_eq_nil_iff, h, params_eq_nil_iff])
      rw [params_of_ne_nil hf, params_of_ne_nil hg, List.singleton_inj, Prod.mk.injEq] at h
      exact (List.map_inj_right fun _ _ => PathFilter.text_inj.mp).mp h.2
  · intro h
    rw [params, params, h]

/-- The parameter for filters is there exactly when there are filters. Its values read back as the
filters, in order: each is a beginning that tells the kind, and a quoted body in which the first
quote that is not covered is the last character. -/
theorem filters_of_params (f : Fragment) :
    (filterParamName ∈ f.params.map Prod.fst ↔ f.filters ≠ []) ∧
    (∀ name values, (name, values) ∈ f.params →
      name = filterParamName ∧ values.map PathFilter.read? = f.filters.map some) ∧
    (∀ x ∈ f.filters, ∃ quoted,
      quoted = Text.replaceChar '"' ['\\', '"'] (Text.replaceChar '\\' ['\\', '\\'] x.body) ∧
      x.text = x.opening ++ quoted ++ ['"'] ∧
      Text.Quoted.readTo '"' (quoted ++ ['"']) = some (x.body, [])) ∧
    (∀ g : Fragment, f.params = g.params ↔ f.filters = g.filters) := by
  refine ⟨?_, ?_, ?_, fun g => params_eq_iff⟩
  · by_cases hf : f.filters = []
    · simp [params_eq_nil_iff.mpr hf, hf]
    · simp [params_of_ne_nil hf, hf]
  · intro name values h
    obtain ⟨hname, hvalues⟩ := eq_of_mem_params h
    refine ⟨hname, ?_⟩
    rw [hvalues, List.map_map]
    exact List.map_congr_left fun x _ => PathFilter.read?_text x
  · intro x _
    refine ⟨_, rfl, PathFilter.text_eq_replaceChar x, ?_⟩
    rw [← Text.Quoted.encode_eq_replaceChar]
    exact Text.Quoted.readTo_encode x.body []

end Fragment

/-! ## A phrase within a path -/

namespace Compiler

variable {c : Compiler} {path sought : Text}

/-- What a path filter says of the text of a node, up to the phrase. -/
def phraseOpening (caseSensitive : Bool) : Text :=
  if caseSensitive then "[contains(., ".toList else "[contains(lower-case(.), ".toList

/-- The phrase as a path filter has it. -/
def phraseSought (caseSensitive : Bool) (sought : Text) : Text :=
  if caseSensitive then sought else Text.lower sought

theorem containing_eq (path sought : Text) (caseSensitive : Bool) :
    Path.containing path sought caseSensitive = path ++ phraseOpening caseSensitive ++
      (Path.literal (phraseSought caseSensitive sought) ++ ")]".toList) := by
  cases caseSensitive with
  | true => simp [Path.containing, phraseOpening, phraseSought]
  | false => simp [Path.containing, phraseOpening, phraseSought]

/-- A search for a phrase within a path has one filter, which is limited to the phrase. -/
theorem filters_of_pathLike (hm : c.settings.metadataProperty ≠ [])
    (hpath : Text.isBlank path = false) (hsought : Text.isBlank sought = false)
    (caseSensitive : Bool) :
    ∃ f, (c.compile (.pathLike path sought caseSensitive)).result = .ok f ∧
      f.filters = [.path (Path.containing (Path.normalize path) sought caseSensitive)] := by
  have hcompile : (c.compile (.pathLike path sought caseSensitive)).result
      = c.pathSearch path (some sought) caseSensitive := rfl
  rw [hcompile, pathSearch, if_neg (by simp [hpath]), Option.filter_some,
    if_pos (by simp [hsought]), field_of_ne_nil hm]
  exact ⟨_, rfl, rfl⟩

/-- The phrase that is looked for within a path comes through both layers of quoting. -/
theorem phrase_of_pathLike (hm : c.settings.metadataProperty ≠ [])
    (hpath : Text.isBlank path = false) (hsought : Text.isBlank sought = false)
    (caseSensitive : Bool) :
    ∃ f value body rest, (c.compile (.pathLike path sought caseSensitive)).result = .ok f ∧
      f.filters.length = 1 ∧ f.params = [(Fragment.filterParamName, [value])] ∧
      PathFilter.read? value = some (.path body) ∧
      Text.afterFront (Path.normalize path ++ phraseOpening caseSensitive) body = some rest ∧
      Path.readLiteral rest = some (phraseSought caseSensitive sought, ")]".toList) := by
  obtain ⟨f, hf, hfilters⟩ := filters_of_pathLike hm hpath hsought caseSensitive
  have hsome : f.filters ≠ [] := by rw [hfilters]; exact List.cons_ne_nil _ _
  have hparams : f.params = [(Fragment.filterParamName,
      [(PathFilter.path (Path.containing (Path.normalize path) sought caseSensitive)).text])] := by
    rw [Fragment.params_of_ne_nil hsome, hfilters]
    rfl
  refine ⟨f, _, _, _, hf, by rw [hfilters, List.length_singleton], hparams,
    PathFilter.read?_text _, ?_, Path.readLiteral_literal _ (by simp)⟩
  rw [containing_eq]
  exact Text.afterFront_append _ _

/-- A phrase that looks like the end of the filter, for a path with quotes of both kinds. -/
theorem phrase_of_pathLike_closing :
    Compiler.direct.settings.metadataProperty ≠ [] ∧
      ∃ f value body rest,
        (Compiler.direct.compile
          (.pathLike "//g:a[@x=\"y\"]".toList "it''s \"A\\')]\"'".toList false)).result = .ok f ∧
        f.filters.length = 1 ∧ f.params = [(Fragment.filterParamName, [value])] ∧
        PathFilter.read? value = some (.path body) ∧
        Text.afterFront (Path.normalize "//g:a[@x=\"y\"]".toList ++ phraseOpening false) body
          = some rest ∧
        Path.readLiteral rest
          = some (phraseSought false "it''s \"A\\')]\"'".toList, ")]".toList) :=
  ⟨by decide, phrase_of_pathLike (by decide) (by decide) (by decide) false⟩

end Compiler
end CatalogQuery
