import CatalogQuery.Proofs.Targets

/-!
# Searches by location that are refused

What can be wrong with a search by location, and what is said about it.

* A relation to a geometry text is refused for want of a text or of a property. A text that is not
  read goes into the query all the same, with a notice (`result_search_eq_error_iff`,
  `notices_search`).
* A search by distance needs the geometry itself, so that a text that is not read is an error there,
  and so is a geometry without a centroid to search the neighbours of. What is wrong with the text
  and the distance comes before what is wrong with the property
  (`result_withinDistance_eq_error_iff`, `result_nearestTo_eq_error_iff`).
* `Session.refusals_of_location`: the kinds of error and the notices of all of them.
-/

namespace CatalogQuery

/-! ## Answers -/

namespace Answer

/-- There is a result. -/
def Succeeds (a : Answer) : Prop := ∃ f, a.result = .ok f

/-- There is an error of a kind. -/
def FailsWith (a : Answer) (k : ErrorKind) : Prop := ∃ e, a.result = .error e ∧ e.kind = k

/-- The events that are worth a notice to the user. -/
def notices (a : Answer) : List Event := a.log.filter fun e => e.level == "INFO".toList

/-- What does not fail succeeds. -/
theorem succeeds_iff {a : Answer} : a.Succeeds ↔ ∀ k, ¬a.FailsWith k := by
  unfold Succeeds FailsWith
  cases a.result with
  | ok f => simp
  | error e => simp

end Answer

/-- The answer to a predicate. -/
def Compiler.answer (c : Compiler) (p : Predicate) : Answer := (c.compile p).toAnswer

/-! ## Geometries and distances -/

/-- A number that is no distance: it is undefined, infinite or below zero. -/
def IsNoDistance (meters : Float) : Prop :=
  meters.isNaN = true ∨ meters.isInf = true ∨ meters < 0

theorem Compiler.isDistance_eq_false_iff {meters : Float} :
    isDistance meters = false ↔ IsNoDistance meters := by
  have hfinite : meters.isFinite = (!meters.isNaN && !meters.isInf) := by
    simp only [Float.isFinite, Float.isNaN, Float.isInf, Float.Model.isFinite, Float.Model.isNaN,
      Float.Model.isInf]
    cases meters.toModel.unpack <;> rfl
  rw [isDistance, hfinite, IsNoDistance]
  cases meters.isNaN <;> cases meters.isInf <;> simp

/-- There is no position to search the neighbours of when there is no centroid. -/
theorem Geometry.anchor?_eq_none_iff {g : Geometry} : g.anchor? = none ↔ g.centroid? = none := by
  cases g <;> simp [anchor?, point?, centroid?]

/-! ## Relations to a geometry text -/

/-- The search for geometries in a relation with a geometry text. -/
def Relation.search : Relation → Text → Text → Predicate
  | contains => .contains
  | isWithin => .within
  | isDisjointTo => .disjoint
  | overlaps => .overlaps
  | intersects => .intersects

namespace Compiler

variable {c : Compiler} {r : Relation} {property wkt : Text} {meters : Float} {e : CompileError}

/-- How the results are sorted is no notice. -/
theorem notices_related (c : Compiler) (r : Relation) (property shape : Text)
    (reference : Option Coord) : (c.related r property shape reference).notices = [] := by
  unfold related
  split
  · rfl
  · exact c.filter_log_recordReference (fun _ => rfl) reference

theorem notices_relatedToText (c : Compiler) (r : Relation) (property wkt : Text) :
    (c.relatedToText r property wkt).notices = readingEvents wkt (Wkt.read wkt) := by
  have hrelated := c.notices_related r property wkt (centroidRead? (Wkt.read wkt))
  have hreading : (readingEvents wkt (Wkt.read wkt)).filter (fun e => e.level == "INFO".toList)
      = readingEvents wkt (Wkt.read wkt) := by
    cases Wkt.read wkt with
    | ok g => rfl
    | error why => rfl
  rw [Answer.notices] at hrelated ⊢
  rw [relatedToText, List.filter_append, hreading, hrelated, List.append_nil]

/-- A relation to a shape only needs a property. -/
theorem result_related_eq_error_iff {shape : Text} {reference : Option Coord} :
    (c.related r property shape reference).result = .error e ↔
      property = [] ∧ e = .propertyRequired := by
  unfold related field
  by_cases h : property = []
  · simp [h, @eq_comm _ e]
  · simp [h]

theorem compile_search_of_blank (blank : Text.isBlank wkt = true) :
    c.compile (r.search property wkt) = c.answering (.error .wktRequired) := by
  cases r with
  | contains | isWithin | isDisjointTo | overlaps => exact if_pos blank
  | intersects => exact if_pos blank

/-- A search with a text has the result of a relation to a shape, be the text read or not. -/
theorem compile_search_of_said (c : Compiler) (r : Relation) (property : Text)
    (said : Text.isBlank wkt = false) :
    (∃ shape reference, (c.compile (r.search property wkt)).result
      = (c.related r property shape reference).result) ∧
    (c.answer (r.search property wkt)).notices = readingEvents wkt (Wkt.read wkt) := by
  rw [answer]
  cases r with
  | contains | isWithin | isDisjointTo | overlaps =>
      rw [Relation.search, compile, spatial_of_said c _ property said]
      exact ⟨⟨wkt, _, rfl⟩, notices_relatedToText c _ property wkt⟩
  | intersects =>
      rw [Relation.search, compile]
      cases found : pointRead? wkt with
      | none =>
          rw [intersects_of_text c property said found]
          exact ⟨⟨wkt, _, rfl⟩, notices_relatedToText c _ property wkt⟩
      | some p =>
          obtain ⟨g, hread, -⟩ := pointRead?_eq_some_iff.mp found
          rw [intersects_of_point c property said found, hread]
          exact ⟨⟨_, _, rfl⟩, notices_related c _ property _ _⟩

theorem result_search_eq_error_iff :
    (c.compile (r.search property wkt)).result = .error e ↔
      Text.isBlank wkt = true ∧ e = .wktRequired ∨
        Text.isBlank wkt = false ∧ property = [] ∧ e = .propertyRequired := by
  cases said : Text.isBlank wkt with
  | true => simp [compile_search_of_blank said, @eq_comm _ e]
  | false =>
      obtain ⟨⟨shape, reference, h⟩, -⟩ := compile_search_of_said c r property said
      simp [h, result_related_eq_error_iff]

theorem notices_search (c : Compiler) (r : Relation) (property wkt : Text) :
    (c.answer (r.search property wkt)).notices =
      if Text.isBlank wkt then [] else readingEvents wkt (Wkt.read wkt) := by
  cases said : Text.isBlank wkt with
  | true =>
      rw [answer, compile_search_of_blank said, if_pos rfl]
      rfl
  | false => rw [(compile_search_of_said c r property said).2, if_neg (by simp)]

/-! ## Searches by distance -/

theorem shape_eq_error_iff :
    shape wkt = .error e ↔
      ∃ why, Wkt.read wkt = .error why ∧ e = .badShape wkt (.unreadable why) := by
  unfold shape
  cases Wkt.read wkt with
  | ok g => simp
  | error why => simp [@eq_comm _ e]

/-- There are places within a distance when the text can be read and the distance is one. -/
theorem exists_reach {g : Geometry} (said : Text.isBlank wkt = false)
    (distance : isDistance meters = true) (read : Wkt.read wkt = .ok g) :
    ∃ x, c.reach wkt meters = .ok x := by
  cases point : g.point? with
  | some p => exact ⟨_, reach_of_point said distance read point⟩
  | none =>
      rw [reach_of_extended said distance read point]
      split
      · exact ⟨_, rfl⟩
      · exact ⟨_, rfl⟩

theorem reach_eq_error_iff :
    c.reach wkt meters = .error e ↔
      Text.isBlank wkt = true ∧ e = .wktRequired ∨
      Text.isBlank wkt = false ∧ isDistance meters = false ∧ e = .badDistance meters ∨
      Text.isBlank wkt = false ∧ isDistance meters = true ∧
        ∃ why, Wkt.read wkt = .error why ∧ e = .badShape wkt (.unreadable why) := by
  cases said : Text.isBlank wkt with
  | true =>
      rw [reach, if_pos said]
      simp [@eq_comm _ e]
  | false =>
      cases distance : isDistance meters with
      | false =>
          rw [reach, if_neg (by simp [said]), if_pos (by simp [distance])]
          simp [@eq_comm _ e]
      | true =>
          cases read : Wkt.read wkt with
          | error why =>
              have hshape := shape_eq_error_iff.mpr ⟨why, read, rfl⟩
              rw [reach, if_neg (by simp [said]), if_neg (by simp [distance]), hshape]
              simp [@eq_comm _ e]
          | ok g =>
              obtain ⟨x, hx⟩ := exists_reach (c := c) said distance read
              simp [hx]

theorem exists_reach_iff :
    (∃ x, c.reach wkt meters = .ok x) ↔
      Text.isBlank wkt = false ∧ isDistance meters = true ∧ ∃ g, Wkt.read wkt = .ok g := by
  constructor
  · rintro ⟨x, hx⟩
    exact exists_read_of_reach hx
  · rintro ⟨said, distance, g, read⟩
    exact exists_reach said distance read

theorem result_withinDistance_eq_error_iff :
    (c.compile (.withinDistance property wkt meters)).result = .error e ↔
      c.reach wkt meters = .error e ∨
        (∃ x, c.reach wkt meters = .ok x) ∧ property = [] ∧ e = .propertyRequired := by
  rw [compile, withinDistance]
  cases c.reach wkt meters with
  | error e' => simp
  | ok x =>
      cases x with
      | circle center radius => simp [meetsCircle, result_related_eq_error_iff]
      | area g buffered => simp [result_related_eq_error_iff]

theorem result_nearestTo_eq_error_iff :
    (c.compile (.nearestTo property wkt)).result = .error e ↔
      Text.isBlank wkt = true ∧ e = .wktRequired ∨
      Text.isBlank wkt = false ∧
        (∃ why, Wkt.read wkt = .error why ∧ e = .badShape wkt (.unreadable why)) ∨
      Text.isBlank wkt = false ∧ ∃ g, Wkt.read wkt = .ok g ∧
        (g.centroid? = none ∧ e = .badShape wkt .noCentroid ∨
          g.centroid? ≠ none ∧ property = [] ∧ e = .propertyRequired) := by
  rw [compile, nearestTo]
  cases Text.isBlank wkt with
  | true => simp [@eq_comm _ e]
  | false =>
      unfold shape
      cases Wkt.read wkt with
      | error why => simp [@eq_comm _ e]
      | ok g =>
          cases anchored : g.anchor? with
          | none =>
              have hnone := Geometry.anchor?_eq_none_iff.mp anchored
              simp [anchored, hnone, @eq_comm _ e]
          | some p =>
              have hsome : g.centroid? ≠ none := fun h => by
                rw [Geometry.anchor?_eq_none_iff.mpr h] at anchored
                cases anchored
              simp [anchored, hsome, meetsCircle, result_related_eq_error_iff]

/-- A search by distance has no notice. -/
theorem notices_withinDistance (c : Compiler) (property wkt : Text) (meters : Float) :
    (c.answer (.withinDistance property wkt meters)).notices = [] := by
  rw [answer, compile, withinDistance]
  split
  · rfl
  · exact notices_related c _ property _ _
  · exact notices_related c _ property _ _

theorem notices_nearestTo (c : Compiler) (property wkt : Text) :
    (c.answer (.nearestTo property wkt)).notices = [] := by
  rw [answer, compile, nearestTo]
  split
  · rfl
  · split
    · rfl
    · split
      · rfl
      · exact notices_related c _ property _ _

end Compiler

/-! ## Sessions -/

namespace Session

variable {c : Compiler} {p : Predicate} {r : Relation} {property wkt : Text} {meters : Float}
  {k : ErrorKind}

theorem failsWith_answer_iff :
    (c.answer p).FailsWith k ↔ ∃ e, (c.compile p).result = .error e ∧ e.kind = k :=
  Iff.rfl

/-! ### Kinds of error -/

theorem failsWith_search_iff :
    (c.answer (r.search property wkt)).FailsWith k ↔
      (Text.isBlank wkt = true ∨ property = []) ∧ k = .invalidArgument := by
  rw [failsWith_answer_iff]
  simp only [Compiler.result_search_eq_error_iff]
  cases said : Text.isBlank wkt with
  | true => simp [@eq_comm _ k]
  | false => simp [and_assoc, @eq_comm _ k]

theorem failsWith_withinDistance_iff :
    (c.answer (.withinDistance property wkt meters)).FailsWith k ↔
      (Text.isBlank wkt = true ∨ IsNoDistance meters ∨
        (∃ g, Wkt.read wkt = .ok g) ∧ property = []) ∧ k = .invalidArgument ∨
      (Text.isBlank wkt = false ∧ ¬IsNoDistance meters ∧
        ∃ why, Wkt.read wkt = .error why) ∧ k = .geometry := by
  rw [failsWith_answer_iff, ← Compiler.isDistance_eq_false_iff]
  simp only [Compiler.result_withinDistance_eq_error_iff, Compiler.reach_eq_error_iff,
    Compiler.exists_reach_iff]
  cases said : Text.isBlank wkt with
  | true => simp [@eq_comm _ k]
  | false =>
      cases distance : Compiler.isDistance meters with
      | false => simp [@eq_comm _ k]
      | true =>
          cases read : Wkt.read wkt with
          | error why => simp [@eq_comm _ k]
          | ok g => simp [and_assoc, @eq_comm _ k]

theorem failsWith_nearestTo_iff :
    (c.answer (.nearestTo property wkt)).FailsWith k ↔
      (Text.isBlank wkt = true ∨
        (∃ g, Wkt.read wkt = .ok g ∧ g.centroid? ≠ none) ∧ property = []) ∧
          k = .invalidArgument ∨
      (Text.isBlank wkt = false ∧
        ((∃ why, Wkt.read wkt = .error why) ∨ ∃ g, Wkt.read wkt = .ok g ∧ g.centroid? = none)) ∧
          k = .geometry := by
  rw [failsWith_answer_iff]
  simp only [Compiler.result_nearestTo_eq_error_iff]
  cases said : Text.isBlank wkt with
  | true => simp [@eq_comm _ k]
  | false =>
      cases read : Wkt.read wkt with
      | error why => simp [@eq_comm _ k]
      | ok g =>
          cases found : g.centroid? with
          | none => simp [found, @eq_comm _ k]
          | some at_ => simp [found, and_assoc, @eq_comm _ k]

/-! ### Results -/

theorem succeeds_search_iff :
    (c.answer (r.search property wkt)).Succeeds ↔
      Text.isBlank wkt = false ∧ property ≠ [] := by
  simp [Answer.succeeds_iff, failsWith_search_iff]

theorem succeeds_withinDistance_iff :
    (c.answer (.withinDistance property wkt meters)).Succeeds ↔
      Text.isBlank wkt = false ∧ ¬IsNoDistance meters ∧ (∃ g, Wkt.read wkt = .ok g) ∧
        property ≠ [] := by
  simp only [Answer.succeeds_iff, failsWith_withinDistance_iff]
  cases read : Wkt.read wkt with
  | error why =>
      cases said : Text.isBlank wkt with
      | true => simp
      | false => by_cases bad : IsNoDistance meters <;> simp [bad]
  | ok g => simp

theorem succeeds_nearestTo_iff :
    (c.answer (.nearestTo property wkt)).Succeeds ↔
      Text.isBlank wkt = false ∧ (∃ g, Wkt.read wkt = .ok g ∧ g.centroid? ≠ none) ∧
        property ≠ [] := by
  simp only [Answer.succeeds_iff, failsWith_nearestTo_iff]
  cases read : Wkt.read wkt with
  | error why => cases said : Text.isBlank wkt <;> simp
  | ok g =>
      cases said : Text.isBlank wkt with
      | true => simp
      | false => by_cases found : g.centroid? = none <;> simp [found]

/-! ### Notices -/

/-- A relation to a geometry text is noticed once if its text is not read, whatever else is wrong
with it. -/
theorem notices_search_eq_iff :
    (∀ event, (c.answer (r.search property wkt)).notices = [event] ↔
      Text.isBlank wkt = false ∧
        ∃ why, Wkt.read wkt = .error why ∧ event = .unreadableShape wkt why) ∧
    ((c.answer (r.search property wkt)).notices = [] ↔
      Text.isBlank wkt = true ∨ ∃ g, Wkt.read wkt = .ok g) := by
  rw [Compiler.notices_search]
  cases said : Text.isBlank wkt with
  | true => simp
  | false =>
      cases read : Wkt.read wkt with
      | ok g => simp [Compiler.readingEvents]
      | error why => simp [Compiler.readingEvents, eq_comm]

/-! ### All searches -/

/-- A relation to a geometry text succeeds when there are a text and a property, and is an invalid
argument otherwise; a text that is not read is noticed once. A search within a distance is an
invalid argument without a text or a distance, then a matter of geometry if the text is not read,
then an invalid argument without a property, and succeeds otherwise. So does a search for the
nearest, for which a geometry without a centroid is like a text that is not read. Neither of these
two has a notice. -/
theorem refusals_of_location (c : Compiler) (property wkt : Text) :
    (∀ r : Relation,
      ((c.answer (r.search property wkt)).Succeeds ↔
        Text.isBlank wkt = false ∧ property ≠ []) ∧
      (∀ k, (c.answer (r.search property wkt)).FailsWith k ↔
        (Text.isBlank wkt = true ∨ property = []) ∧ k = .invalidArgument) ∧
      (∀ event, (c.answer (r.search property wkt)).notices = [event] ↔
        Text.isBlank wkt = false ∧
          ∃ why, Wkt.read wkt = .error why ∧ event = .unreadableShape wkt why) ∧
      ((c.answer (r.search property wkt)).notices = [] ↔
        Text.isBlank wkt = true ∨ ∃ g, Wkt.read wkt = .ok g)) ∧
    (∀ meters : Float,
      ((c.answer (.withinDistance property wkt meters)).FailsWith .invalidArgument ↔
        Text.isBlank wkt = true ∨ IsNoDistance meters ∨
          (∃ g, Wkt.read wkt = .ok g) ∧ property = []) ∧
      ((c.answer (.withinDistance property wkt meters)).FailsWith .geometry ↔
        Text.isBlank wkt = false ∧ ¬IsNoDistance meters ∧ ∃ why, Wkt.read wkt = .error why) ∧
      ((c.answer (.withinDistance property wkt meters)).Succeeds ↔
        Text.isBlank wkt = false ∧ ¬IsNoDistance meters ∧ (∃ g, Wkt.read wkt = .ok g) ∧
          property ≠ []) ∧
      (c.answer (.withinDistance property wkt meters)).notices = []) ∧
    ((c.answer (.nearestTo property wkt)).FailsWith .invalidArgument ↔
      Text.isBlank wkt = true ∨
        (∃ g, Wkt.read wkt = .ok g ∧ g.centroid? ≠ none) ∧ property = []) ∧
    ((c.answer (.nearestTo property wkt)).FailsWith .geometry ↔
      Text.isBlank wkt = false ∧
        ((∃ why, Wkt.read wkt = .error why) ∨
          ∃ g, Wkt.read wkt = .ok g ∧ g.centroid? = none)) ∧
    ((c.answer (.nearestTo property wkt)).Succeeds ↔
      Text.isBlank wkt = false ∧ (∃ g, Wkt.read wkt = .ok g ∧ g.centroid? ≠ none) ∧
        property ≠ []) ∧
    (c.answer (.nearestTo property wkt)).notices = [] := by
  refine ⟨fun r => ⟨succeeds_search_iff, fun k => failsWith_search_iff, notices_search_eq_iff⟩,
    fun meters => ⟨?_, ?_, succeeds_withinDistance_iff, ?_⟩, ?_, ?_, succeeds_nearestTo_iff, ?_⟩
  · simp [failsWith_withinDistance_iff]
  · simp [failsWith_withinDistance_iff]
  · exact Compiler.notices_withinDistance c property wkt meters
  · simp [failsWith_nearestTo_iff]
  · simp [failsWith_nearestTo_iff]
  · exact Compiler.notices_nearestTo c property wkt

end Session
end CatalogQuery
