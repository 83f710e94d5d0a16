import CatalogQuery.Predicate.Basic

/-!
# The three searches by path

Whether a path shall select a node at all, one with a phrase, or one with a phrase in any letter
case: the path is checked, and it becomes the filter of the result. The schema and the settings
matter for the query only.

* `PathSearch.body`: the path of the filter;
* `Compiler.filters_of_pathSearch`: it is the only filter;
* `Compiler.result_eq_pathRequired_iff`: a path is missing if it is blank as it is given.
-/

namespace CatalogQuery

/-- What is given to a search by path. -/
structure PathSearch where
  path : Text
  sought : Option Text
  caseSensitive : Bool
  deriving DecidableEq, Repr

namespace PathSearch

/-- The phrase that is looked for, if there is more to it than white space. -/
def phrase? (s : PathSearch) : Option Text := s.sought.filter fun t => !Text.isBlank t

/-- The path of the filter: normalized, and limited to the phrase. -/
def body (s : PathSearch) : Text :=
  match s.phrase? with
  | none => Path.normalize s.path
  | some t => Path.containing (Path.normalize s.path) t s.caseSensitive

end PathSearch

/-- The search by path that a predicate is. -/
def Predicate.pathSearch? : Predicate → Option PathSearch
  | pathExists path => some ⟨path, none, true⟩
  | pathLike path phrase caseSensitive => some ⟨path, some phrase, caseSensitive⟩
  | pathFuzzy path phrase => some ⟨path, some phrase, false⟩
  | _ => none

namespace Compiler

variable {c : Compiler} {p : Predicate} {s : PathSearch} {f : Fragment}

theorem result_of_pathSearch? (h : p.pathSearch? = some s) :
    (c.compile p).result = c.pathSearch s.path s.sought s.caseSensitive := by
  cases p with
  | pathExists path => cases h; rfl
  | pathLike path phrase caseSensitive => cases h; rfl
  | pathFuzzy path phrase => cases h; rfl
  | _ => cases h

/-- A search that succeeds has a path, and its only filter is this path. -/
theorem filters_of_pathSearch (h : c.pathSearch s.path s.sought s.caseSensitive = .ok f) :
    Text.isBlank s.path = false ∧ f.filters = [.path s.body] := by
  have hphrase : s.sought.filter (fun t => !Text.isBlank t) = s.phrase? := rfl
  rw [pathSearch, hphrase] at h
  rw [PathSearch.body]
  split at h
  · cases h
  · next hblank =>
    refine ⟨Bool.eq_false_iff.mpr hblank, ?_⟩
    cases hsought : s.phrase? with
    | none =>
        rw [hsought] at h
        cases h
        rfl
    | some t =>
        rw [hsought] at h
        cases hfield : c.field c.settings.metadataProperty .string false with
        | error e =>
            rw [hfield] at h
            cases h
        | ok field =>
            rw [hfield] at h
            cases h
            rfl

/-- Without a phrase it is enough that there is a path. -/
theorem pathSearch_of_phrase?_eq_none (hpath : Text.isBlank s.path = false)
    (h : s.phrase? = none) : c.pathSearch s.path s.sought s.caseSensitive
      = .ok ⟨Fragment.matchAll, [.path (Path.normalize s.path)]⟩ := by
  rw [PathSearch.phrase?] at h
  rw [pathSearch, if_neg (by simp [hpath]), h]

/-- A path is missing just if there is nothing but white space for one. -/
theorem result_eq_pathRequired_iff (h : p.pathSearch? = some s) :
    (c.compile p).result = .error .pathRequired ↔ Text.isBlank s.path = true := by
  rw [result_of_pathSearch? h, pathSearch]
  split
  · next hblank => exact iff_of_true rfl hblank
  · next hblank =>
    refine iff_of_false ?_ hblank
    split
    · exact nofun
    · unfold field
      split
      · exact nofun
      · exact nofun

end Compiler
end CatalogQuery
