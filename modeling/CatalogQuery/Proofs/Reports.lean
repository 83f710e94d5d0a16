import CatalogQuery.Proofs.Made
import CatalogQuery.Proofs.Merging
import Mathlib.Data.Finset.Card

/-!
# What groups report

A group has the filters of its members, or one filter in which their paths are joined. Index filters
cannot be joined, so they are lost then, and this is reported.

* `Group.IsLost`: a member has a filter that the group does not have in any form;
* `Group.isLost_iff`: these are the index filters, where paths are joined;
* `Group.lossReport`: how many filters of each kind there were;
* `Session.log_group`: a group reports how many members it has, and before that a loss, just if
  there is one. A group that is refused reports nothing.
-/

namespace CatalogQuery

/-- Each text is counted once. -/
theorem Text.length_ordered (ts : List Text) : (Text.ordered ts).length = ts.toFinset.card := by
  rw [← List.toFinset_card_of_nodup (Text.nodup_ordered ts)]
  refine congrArg Finset.card (Finset.ext fun t => ?_)
  rw [List.mem_toFinset, List.mem_toFinset, Text.mem_ordered]

namespace Group

variable {k : Connective} {operands : List Fragment} {f : Fragment} {x : PathFilter}

/-! ## Lost filters -/

/-- The filter is a path, and is joined with all other paths of the members to the only filter of
the group. -/
def IsJoined (k : Connective) (operands : List Fragment) (f : Fragment) (x : PathFilter) : Prop :=
  ∃ b parts, x = .path b ∧ b ∈ parts ∧ (∀ a, a ∈ parts ↔ .path a ∈ Merge.allFilters operands) ∧
    f.filters = [.path (Connective.group k.pathKeyword parts)]

/-- A member has the filter, but the group has it neither as it is nor joined with others. -/
def IsLost (k : Connective) (operands : List Fragment) (f : Fragment) (x : PathFilter) : Prop :=
  x ∈ Merge.allFilters operands ∧ x ∉ f.filters ∧ ¬IsJoined k operands f x

/-- Only index filters are lost, and all of them are where paths are joined. -/
theorem isLost_iff (h : combine k operands = .ok f) : IsLost k operands f x ↔
    Merge.isFolded operands = true ∧ ∃ b, x = .index b ∧ b ∈ Merge.indexes operands := by
  obtain ⟨-, -, rfl⟩ := combine_eq_ok_iff.mp h
  cases hf : Merge.isFolded operands with
  | false =>
      refine iff_of_false ?_ (by simp)
      rintro ⟨hx, hnot, -⟩
      refine hnot ?_
      rw [Merge.filters_of_not_folded hf]
      exact List.mem_eraseDups.mpr hx
  | true =>
      have hfilters := Merge.filters_of_folded hf k
      rw [and_iff_right rfl]
      constructor
      · rintro ⟨hx, -, hjoined⟩
        cases x with
        | path b =>
            exact absurd ⟨b, _, rfl, Merge.mem_paths.mpr hx, fun a => Merge.mem_paths, hfilters⟩
              hjoined
        | index b => exact ⟨b, rfl, Merge.mem_indexes.mpr hx⟩
      · rintro ⟨b, rfl, hb⟩
        refine ⟨Merge.mem_indexes.mp hb, ?_, ?_⟩
        · rw [hfilters]
          simp
        · rintro ⟨a, parts, ha, -⟩
          cases ha

theorem exists_isLost_iff (h : combine k operands = .ok f) : (∃ x, IsLost k operands f x) ↔
    (Merge.isFolded operands && !(Merge.indexes operands).isEmpty) = true := by
  rw [Bool.and_eq_true, Bool.not_eq_true', List.isEmpty_eq_false_iff_exists_mem]
  constructor
  · rintro ⟨x, hx⟩
    obtain ⟨hf, b, -, hb⟩ := (isLost_iff h).mp hx
    exact ⟨hf, b, hb⟩
  · rintro ⟨hf, b, hb⟩
    exact ⟨_, (isLost_iff h).mpr ⟨hf, b, rfl, hb⟩⟩

/-! ## Reports -/

/-- The report of lost filters: how many index filters and how many paths there are, each counted
once. -/
def lossReport (operands : List Fragment) : Event :=
  .droppedIndexFilters ((Merge.allFilters operands).filterMap PathFilter.index?).toFinset.card
    ((Merge.allFilters operands).filterMap PathFilter.path?).toFinset.card

/-- A loss is reported before the members are. -/
theorem events_of_isLost (h : combine k operands = .ok f) (hlost : ∃ x, IsLost k operands f x) :
    events k operands = [lossReport operands, .combined operands.length k] := by
  rw [events, Merge.dropped, if_pos ((exists_isLost_iff h).mp hlost), Merge.indexes, Merge.paths,
    Text.length_ordered, Text.length_ordered]
  rfl

theorem events_of_not_isLost (h : combine k operands = .ok f)
    (hnone : ¬∃ x, IsLost k operands f x) :
    events k operands = [.combined operands.length k] := by
  rw [events, Merge.dropped, if_neg (mt (exists_isLost_iff h).mpr hnone)]
  rfl

end Group

namespace Session

theorem log_group_of_error {c : Compiler} {k : Connective} {operands : List Fragment}
    {e : CompileError} (h : Group.combine k operands = .error e) :
    (c.compile (.group k operands)).log = [] :=
  if_neg (by rw [h]; exact Bool.false_ne_true)

theorem log_group_of_ok {c : Compiler} {k : Connective} {operands : List Fragment} {f : Fragment}
    (h : Group.combine k operands = .ok f) :
    (c.compile (.group k operands)).log = Group.events k operands :=
  if_pos (by rw [h]; rfl)

/-- A group that is refused reports nothing. Otherwise each filter of a member is one of the group,
or is a path that is joined to the only filter of the group, or is an index filter that is lost. How
many members there are is the last that is reported. If a filter is lost, the numbers of index
filters and of paths are reported before that, and else there is nothing before it. -/
theorem log_group (c : Compiler) (k : Connective) (operands : List Fragment) :
    (∀ e, (c.compile (.group k operands)).result = .error e →
      (c.compile (.group k operands)).log = []) ∧
    ∀ f, (c.compile (.group k operands)).result = .ok f →
      (∀ x ∈ Merge.allFilters operands, x ∈ f.filters ∨ Group.IsJoined k operands f x ∨
        Group.IsLost k operands f x ∧ ∃ b, x = .index b) ∧
      ((∃ x, Group.IsLost k operands f x) → (c.compile (.group k operands)).log
        = [Group.lossReport operands, .combined operands.length k]) ∧
      ((¬∃ x, Group.IsLost k operands f x) → (c.compile (.group k operands)).log
        = [.combined operands.length k]) := by
  constructor
  · intro e he
    exact log_group_of_error he
  · intro f hf
    have hlog := log_group_of_ok (c := c) hf
    refine ⟨fun x hx => ?_, fun hlost => hlog.trans (Group.events_of_isLost hf hlost),
      fun hnone => hlog.trans (Group.events_of_not_isLost hf hnone)⟩
    by_cases hkept : x ∈ f.filters
    · exact Or.inl hkept
    · by_cases hjoined : Group.IsJoined k operands f x
      · exact Or.inr (Or.inl hjoined)
      · have hlost : Group.IsLost k operands f x := ⟨hx, hkept, hjoined⟩
        obtain ⟨-, b, hb, -⟩ := (Group.isLost_iff hf).mp hlost
        exact Or.inr (Or.inr ⟨hlost, b, hb⟩)

/-- Two paths in two fragments, with an index filter that both have, and one more. -/
def indexTwice : List Fragment :=
  [⟨"a:1".toList, [.path "//a".toList, .index "//a".toList]⟩,
    ⟨"b:2".toList, [.index "//x".toList, .path "//b".toList, .index "//a".toList]⟩]

/-- No members, two paths, and one path between index filters. -/
theorem log_group_indexTwice :
    (Compiler.direct.compile (.group .and [])).log = [] ∧
    (∃ f, (Compiler.direct.compile (.group .and indexTwice)).result = .ok f ∧
      (∃ x, Group.IsLost .and indexTwice f x) ∧
      (Compiler.direct.compile (.group .and indexTwice)).log
        = [.droppedIndexFilters 2 2, .combined 2 .and]) ∧
    ∃ f, (Compiler.direct.compile (.group .or Merge.indexed)).result = .ok f ∧
      (¬∃ x, Group.IsLost .or Merge.indexed f x) ∧
      (Compiler.direct.compile (.group .or Merge.indexed)).log = [.combined 2 .or] := by
  have hlost : Group.combine .and indexTwice = .ok _ :=
    Group.combine_eq_ok .and (by decide) (by decide)
  have hkept : Group.combine .or Merge.indexed = .ok _ :=
    Group.combine_eq_ok .or (by decide) (by decide)
  have hsome := (Group.exists_isLost_iff hlost).mpr (by decide)
  have hnone := mt (Group.exists_isLost_iff hkept).mp (by decide)
  refine ⟨(log_group .direct .and []).1 _ rfl, ⟨_, hlost, hsome, ?_⟩, _, hkept, hnone, ?_⟩
  · exact ((log_group .direct .and indexTwice).2 _ hlost).2.1 hsome
  · exact ((log_group .direct .or Merge.indexed).2 _ hkept).2.2 hnone

end Session
end CatalogQuery
