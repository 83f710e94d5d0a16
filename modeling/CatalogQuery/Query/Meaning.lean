import CatalogQuery.Query.Connective
import CatalogQuery.Query.Fragment

/-!
# What fragments find

The search engine decides which documents a query finds and for which of them a path selects a
node. Given such a reading of the texts, a fragment finds the documents that its query finds and
all its paths select a node in.

* `Interpretation`: a reading of queries and paths;
* `Interpretation.ReadsQueries`, `ReadsPaths`: a joined text is read as its members joined, and
  `Reads`: so it is for the queries and the paths of some fragments;
* `Interpretation.byMarks`: a reading of which both hold, whatever is joined (`reads_byMarks`);
* `Fragment.Matches`: what a fragment finds.
-/

namespace CatalogQuery

/-- A reading of the texts of queries and of path expressions as conditions on documents. -/
structure Interpretation (Doc : Type) where
  query : Text → Doc → Prop
  path : Text → Doc → Prop

/-- Do conditions hold when they are joined? -/
def Connective.Holds (c : Connective) (conditions : List Prop) : Prop :=
  match c with
  | .and => ∀ p ∈ conditions, p
  | .or => ∃ p ∈ conditions, p

namespace Interpretation

variable {Doc : Type}

/-- The group of some queries is read as these queries, joined. -/
def ReadsQueries (i : Interpretation Doc) (c : Connective) (queries : List Text) : Prop :=
  ∀ d, i.query (Connective.group c.keyword queries) d ↔ c.Holds (queries.map fun q => i.query q d)

/-- The group of some paths is read as these paths, joined. -/
def ReadsPaths (i : Interpretation Doc) (c : Connective) (paths : List Text) : Prop :=
  ∀ d, i.path (Connective.group c.pathKeyword paths) d ↔ c.Holds (paths.map fun b => i.path b d)

/-- The group of some fragments is read as their queries, joined, and a group of just their paths,
in whatever order and however often, as these paths, joined. -/
structure Reads (i : Interpretation Doc) (c : Connective) (operands : List Fragment) : Prop where
  queries : i.ReadsQueries c (operands.map Fragment.query)
  paths : ∀ bodies, bodies ≠ [] →
    (∀ b, b ∈ bodies ↔ ∃ f ∈ operands, .path b ∈ f.filters) → i.ReadsPaths c bodies

/-- Does a filter let a document through? An index filter only saves work, so it lets everything
through. -/
def Passes (i : Interpretation Doc) (f : PathFilter) (d : Doc) : Prop :=
  ∀ b, f.path? = some b → i.path b d

end Interpretation

/-- Is a document found? -/
def Fragment.Matches {Doc : Type} (i : Interpretation Doc) (f : Fragment) (d : Doc) : Prop :=
  i.query f.query d ∧ ∀ filter ∈ f.filters, i.Passes filter d

/-! ## Conditions -/

namespace Connective

theorem holds_and_map {α : Type} {as : List α} {p : α → Prop} :
    and.Holds (as.map p) ↔ ∀ a ∈ as, p a :=
  List.forall_mem_map

theorem holds_or_map {α : Type} {as : List α} {p : α → Prop} :
    or.Holds (as.map p) ↔ ∃ a ∈ as, p a := by
  constructor
  · rintro ⟨q, hq, h⟩
    obtain ⟨a, ha, rfl⟩ := List.mem_map.mp hq
    exact ⟨a, ha, h⟩
  · rintro ⟨a, ha, h⟩
    exact ⟨p a, List.mem_map_of_mem ha, h⟩

/-- A single condition is not changed by either connective. -/
theorem holds_singleton (c : Connective) (p : Prop) : c.Holds [p] ↔ p := by
  cases c with
  | and => exact List.forall_mem_singleton
  | or => exact ⟨fun ⟨q, hq, h⟩ => List.mem_singleton.mp hq ▸ h, fun h => ⟨p, by simp, h⟩⟩

end Connective

namespace Interpretation

theorem passes_path {Doc : Type} (i : Interpretation Doc) (b : Text) (d : Doc) :
    i.Passes (.path b) d ↔ i.path b d := by
  simp [Passes, PathFilter.path?]

theorem passes_index {Doc : Type} (i : Interpretation Doc) (b : Text) (d : Doc) :
    i.Passes (.index b) d := by
  simp [Passes, PathFilter.path?]

/-! ## A reading by marks -/

/-- A document has some marks, and a text finds it by the marks that it mentions: all of them for
one connective, any of them for the other. -/
def byMarks (c : Connective) (marks : List Char) : Interpretation (Char → Prop) where
  query t d := c.Holds ((marks.filter fun m => t.contains m).map d)
  path t d := c.Holds ((marks.filter fun m => t.contains m).map d)

/-- A group mentions the marks that its members mention, unless a mark is a part of the way groups
are written. -/
theorem holds_marks_group (c : Connective) {marks : List Char} {word : Text}
    (h : ∀ m ∈ marks, m ∉ Connective.frame word) (parts : List Text) (d : Char → Prop) :
    c.Holds ((marks.filter fun m => (Connective.group word parts).contains m).map d)
      ↔ c.Holds (parts.map fun p => c.Holds ((marks.filter fun m => p.contains m).map d)) := by
  have mentioned : ∀ m ∈ marks, m ∈ Connective.group word parts ↔ ∃ p ∈ parts, m ∈ p :=
    fun m hm => Connective.mem_group (h m hm)
  cases c with
  | and =>
      simp only [Connective.holds_and_map, List.mem_filter, List.contains_iff_mem]
      constructor
      · intro hall p hp m hm
        exact hall m ⟨hm.1, (mentioned m hm.1).mpr ⟨p, hp, hm.2⟩⟩
      · intro hall m hm
        obtain ⟨p, hp, hmp⟩ := (mentioned m hm.1).mp hm.2
        exact hall p hp m ⟨hm.1, hmp⟩
  | or =>
      simp only [Connective.holds_or_map, List.mem_filter, List.contains_iff_mem]
      constructor
      · rintro ⟨m, hm, hd⟩
        obtain ⟨p, hp, hmp⟩ := (mentioned m hm.1).mp hm.2
        exact ⟨p, hp, m, ⟨hm.1, hmp⟩, hd⟩
      · rintro ⟨p, hp, m, hm, hd⟩
        exact ⟨m, ⟨hm.1, (mentioned m hm.1).mpr ⟨p, hp, hm.2⟩⟩, hd⟩

/-- The reading by marks reads every group as its members, joined. -/
theorem reads_byMarks {c : Connective} {marks : List Char}
    (hq : ∀ m ∈ marks, m ∉ Connective.frame c.keyword)
    (hp : ∀ m ∈ marks, m ∉ Connective.frame c.pathKeyword) (operands : List Fragment) :
    (byMarks c marks).Reads c operands where
  queries d := holds_marks_group c hq _ d
  paths bodies _ _ d := holds_marks_group c hp bodies d

end Interpretation

end CatalogQuery
