import CatalogQuery.Predicate.Session

/-!
# What the order of the results is to a session

The requested order and the recorded position are part of the compiler that every operation works
with. Operation by operation, they make no difference to what is compiled.

* `Compiler.Agrees`: an operation comes to the same answer with a compiler that knows of no order,
  but for what the answer reports of the order, and it changes nothing else about the compiler;
* `Compiler.agrees_compile`: every predicate is compiled so;
* `Session.apartFromSorting_answers`: so are the predicates of a session, and its results are those
  of its predicates, one by one (`results_eq`).
-/

namespace CatalogQuery

/-- The predicate that a step compiles, if it compiles one. -/
def Step.predicate? : Step → Option Predicate
  | .setSortPolicy _ => none
  | .predicate p => some p

namespace Answer

variable {a b : Answer}

theorem result_eq_of_apartFromSorting (h : a.apartFromSorting = b.apartFromSorting) :
    a.result = b.result := by
  have hresult : a.apartFromSorting.result = b.apartFromSorting.result := by rw [h]
  exact hresult

/-- Events that happened before an answer stand before its own. -/
theorem apartFromSorting_prepend (events : List Event) (a : Answer) :
    { a with log := events ++ a.log }.apartFromSorting
      = { a.apartFromSorting with
          log := events.filter (!·.isSorting) ++ a.apartFromSorting.log } := by
  simp only [apartFromSorting, List.filter_append]

end Answer

namespace Compiler

/-- What comes of an operation, and what comes of it with a compiler that knows of no order: the
answers are the same but for what they report of the order, and the compiler is changed in what it
remembers of the order only. -/
structure Agrees (c : Compiler) (out apart : Compiled) : Prop where
  answer : out.toAnswer.apartFromSorting = apart.toAnswer.apartFromSorting
  after : out.after.apartFromSorting = c.apartFromSorting

/-! ## Operations that leave the compiler as it is -/

/-- An answer that is found without the order. -/
theorem agrees_answering (c : Compiler) {result apart : Except CompileError Fragment}
    (h : result = apart) : c.Agrees (c.answering result) (c.apartFromSorting.answering apart) where
  answer := by rw [answering, answering, h]
  after := rfl

theorem field_apartFromSorting (c : Compiler) (property : Text) (type : ValueType) (exact : Bool) :
    c.apartFromSorting.field property type exact = c.field property type exact := rfl

/-! ## Searches by location -/

theorem agrees_related (c : Compiler) (r : Relation) (property shape : Text)
    (reference : Option Coord) :
    c.Agrees (c.related r property shape reference)
      (c.apartFromSorting.related r property shape reference) := by
  unfold related
  rw [field_apartFromSorting]
  cases c.field property .geometry false with
  | error e => exact c.agrees_answering rfl
  | ok f =>
      constructor
      · have hlog : ∀ d : Compiler,
            (d.recordReference property reference).1.filter (!·.isSorting) = [] := fun d =>
          d.filter_log_recordReference (fun _ => rfl) reference
        simp only [Answer.apartFromSorting, hlog]
      · exact apartFromSorting_recordReference c property reference

theorem agrees_meetsCircle (c : Compiler) (property : Text) (center : Coord) (radius : Float) :
    c.Agrees (c.meetsCircle property center radius)
      (c.apartFromSorting.meetsCircle property center radius) :=
  c.agrees_related .intersects property (circleText center radius) (some center)

theorem agrees_relatedToText (c : Compiler) (r : Relation) (property wkt : Text) :
    c.Agrees (c.relatedToText r property wkt)
      (c.apartFromSorting.relatedToText r property wkt) := by
  have h := c.agrees_related r property wkt (centroidRead? (Wkt.read wkt))
  constructor
  · show Answer.apartFromSorting _ = Answer.apartFromSorting _
    rw [relatedToText, relatedToText, Answer.apartFromSorting_prepend,
      Answer.apartFromSorting_prepend, h.answer]
  · exact h.after

theorem agrees_spatial (c : Compiler) (r : Relation) (property wkt : Text) :
    c.Agrees (c.spatial r property wkt) (c.apartFromSorting.spatial r property wkt) := by
  unfold spatial
  split
  · exact c.agrees_answering rfl
  · exact c.agrees_relatedToText r property wkt

theorem agrees_intersects (c : Compiler) (property wkt : Text) :
    c.Agrees (c.intersects property wkt) (c.apartFromSorting.intersects property wkt) := by
  unfold intersects
  split
  · exact c.agrees_answering rfl
  · cases pointRead? wkt with
    | some p => exact c.agrees_meetsCircle property p _
    | none => exact c.agrees_relatedToText .intersects property wkt

theorem reach_apartFromSorting (c : Compiler) (wkt : Text) (meters : Float) :
    c.apartFromSorting.reach wkt meters = c.reach wkt meters := rfl

theorem agrees_withinDistance (c : Compiler) (property wkt : Text) (meters : Float) :
    c.Agrees (c.withinDistance property wkt meters)
      (c.apartFromSorting.withinDistance property wkt meters) := by
  unfold withinDistance
  rw [reach_apartFromSorting]
  cases c.reach wkt meters with
  | error e => exact c.agrees_answering rfl
  | ok places =>
      cases places with
      | circle center radius => exact c.agrees_meetsCircle property center radius
      | area g buffered => exact c.agrees_related .intersects property (Wkt.write g) g.centroid?

theorem agrees_nearestTo (c : Compiler) (property wkt : Text) :
    c.Agrees (c.nearestTo property wkt) (c.apartFromSorting.nearestTo property wkt) := by
  unfold nearestTo
  split
  · exact c.agrees_answering rfl
  · cases shape wkt with
    | error e => exact c.agrees_answering rfl
    | ok g =>
        dsimp only
        cases g.anchor? with
        | none => exact c.agrees_answering rfl
        | some p => exact c.agrees_meetsCircle property p _

/-! ## All predicates -/

theorem agrees_compile (c : Compiler) (p : Predicate) :
    c.Agrees (c.compile p) (c.apartFromSorting.compile p) := by
  cases p with
  | group k operands => exact ⟨rfl, rfl⟩
  | contains property wkt => exact c.agrees_spatial _ property wkt
  | within property wkt => exact c.agrees_spatial _ property wkt
  | disjoint property wkt => exact c.agrees_spatial _ property wkt
  | overlaps property wkt => exact c.agrees_spatial _ property wkt
  | intersects property wkt => exact c.agrees_intersects property wkt
  | withinDistance property wkt meters => exact c.agrees_withinDistance property wkt meters
  | nearestTo property wkt => exact c.agrees_nearestTo property wkt
  -- whatever else there is asks for the schema and the settings, if anything
  | _ => exact c.agrees_answering rfl

/-- The order never changes what a predicate is compiled to. -/
theorem result_apartFromSorting (c : Compiler) (p : Predicate) :
    (c.compile p).result = (c.apartFromSorting.compile p).result :=
  Answer.result_eq_of_apartFromSorting (c.agrees_compile p).answer

/-- Compilers that differ by the order compile a predicate to the same. -/
theorem result_compile_congr {c d : Compiler} (h : c.apartFromSorting = d.apartFromSorting)
    (p : Predicate) : (c.compile p).result = (d.compile p).result := by
  rw [result_apartFromSorting, h, ← result_apartFromSorting]

end Compiler

namespace Session

variable {c : Compiler} {steps : List Step} {f : Fragment}

/-! ## One step -/

theorem apartFromSorting_step (c : Compiler) (s : Step) :
    (step c s).2.apartFromSorting = c.apartFromSorting := by
  cases s with
  | setSortPolicy sortBy => rfl
  | predicate p => exact (c.agrees_compile p).after

/-- But for what it reports of the order, a step answers as it does without any order. -/
theorem apartFromSorting_answer_step (c : Compiler) (s : Step) :
    (step c s).1.map Answer.apartFromSorting = s.predicate?.map fun p =>
      (c.apartFromSorting.compile p).toAnswer.apartFromSorting := by
  cases s with
  | setSortPolicy sortBy => rfl
  | predicate p => exact congrArg some (c.agrees_compile p).answer

/-! ## A run -/

/-- But for what they report of the order, the answers of a run are those to its predicates without
any order. -/
theorem apartFromSorting_answers (c : Compiler) (steps : List Step) :
    (answers c steps).map Answer.apartFromSorting
      = (steps.filterMap Step.predicate?).map fun p =>
        (c.apartFromSorting.compile p).toAnswer.apartFromSorting := by
  induction steps generalizing c with
  | nil => rfl
  | cons s steps ih =>
      have hstep : (step c s).1.toList.map Answer.apartFromSorting
          = s.predicate?.toList.map fun p =>
            (c.apartFromSorting.compile p).toAnswer.apartFromSorting := by
        rw [← Option.toList_map, apartFromSorting_answer_step, Option.toList_map]
      have hcons : (s :: steps).filterMap Step.predicate?
          = s.predicate?.toList ++ steps.filterMap Step.predicate? := by
        cases s <;> rfl
      rw [answers, List.map_append, hstep, ih, apartFromSorting_step, hcons, List.map_append]

/-- The results of a run are those of its predicates. -/
theorem results_eq (c : Compiler) (steps : List Step) :
    results c steps
      = (steps.filterMap Step.predicate?).filterMap fun p => (c.compile p).result.toOption := by
  have hanswers : (answers c steps).map (·.result)
      = (steps.filterMap Step.predicate?).map fun p => (c.compile p).result := by
    have h := congrArg (List.map (·.result)) (apartFromSorting_answers c steps)
    simp only [c.result_apartFromSorting]
    simpa [Function.comp_def, Answer.apartFromSorting] using h
  calc results c steps
      = ((answers c steps).map (·.result)).filterMap Except.toOption := by
        rw [List.filterMap_map]
        rfl
    _ = (steps.filterMap Step.predicate?).filterMap fun p => (c.compile p).result.toOption := by
        rw [hanswers, List.filterMap_map]
        rfl

theorem results_append (c : Compiler) (before after : List Step) :
    results c (before ++ after) = results c before ++ results c after := by
  simp [results_eq]

theorem toOption_eq_some_iff {result : Except CompileError Fragment} :
    result.toOption = some f ↔ result = .ok f := by
  cases result with
  | error e => simp [Except.toOption]
  | ok g => simp [Except.toOption]

/-- What a run results in is what its predicates are compiled to. -/
theorem mem_results :
    f ∈ results c steps ↔ ∃ p, .predicate p ∈ steps ∧ (c.compile p).result = .ok f := by
  rw [results_eq, List.mem_filterMap]
  constructor
  · rintro ⟨p, hp, hf⟩
    obtain ⟨s, hs, hpredicate⟩ := List.mem_filterMap.mp hp
    cases s with
    | setSortPolicy sortBy => cases hpredicate
    | predicate q =>
        cases hpredicate
        exact ⟨p, hs, toOption_eq_some_iff.mp hf⟩
  · rintro ⟨p, hp, hf⟩
    exact ⟨p, List.mem_filterMap.mpr ⟨_, hp, rfl⟩, toOption_eq_some_iff.mpr hf⟩

end Session
end CatalogQuery
