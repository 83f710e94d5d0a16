import CatalogQuery.Geometry.Wkt.Leading
import CatalogQuery.Predicate.Target
import CatalogQuery.Proofs.Made

/-!
# Searches by location and their targets

What is found out about a search by location, from its target.

* `Compiler.pointRead?_eq_some_iff`: to look for the letters `POINT` in a geometry text is a
  shortcut that never matters, for a single point cannot be read without them;
* `Compiler.relates_compile`: what comes of a search comes of a relation to its target;
* `Compiler.isAbout_compile`: so a search with a property and a target is compiled, to the query
  about the target, and distances are measured from the target;
* `Compiler.search_cases`, `Compiler.hasTarget_of_result`: nothing else is compiled;
* `Compiler.after_of_error`: what is not compiled changes nothing;
* `Compiler.squares`: a compiler whose library draws squares around points.
-/

namespace CatalogQuery

namespace Compiler

variable {c : Compiler} {p : Predicate} {r : Relation} {t : Target} {property wkt : Text}
  {f : Fragment}

/-! ## Relations to a shape -/

/-- A relation to a shape needs a property. -/
theorem ne_nil_of_related {shape : Text} {reference : Option Coord} {f : Fragment}
    (h : (c.related r property shape reference).result = .ok f) : property ≠ [] := by
  rintro rfl
  have hnil : c.related r [] shape reference = c.answering (.error .propertyRequired) := rfl
  rw [hnil] at h
  cases h

theorem isAbout_related (h : property ≠ []) (r : Relation) (t : Target) :
    c.IsAbout property r t (c.related r property t.text t.reference?) := by
  have hfield := field_of_ne_nil h c .geometry false
  constructor
  · rw [related, hfield]
    rfl
  · rw [related, hfield]

/-- What comes of a search comes of a relation to the target, but for what is reported before. -/
structure Relates (c : Compiler) (property : Text) (r : Relation) (t : Target) (out : Compiled) :
    Prop where
  result : out.result = (c.related r property t.text t.reference?).result
  after : out.after = (c.related r property t.text t.reference?).after

/-- With a property, the relation is compiled, and so is the search. -/
theorem Relates.isAbout {out : Compiled} (h : c.Relates property r t out) (hne : property ≠ []) :
    c.IsAbout property r t out := by
  have hrelated := isAbout_related (c := c) hne r t
  exact ⟨h.result.trans hrelated.result, h.after.trans hrelated.after⟩

theorem relates_meetsCircle (c : Compiler) (property : Text) (center : Coord) (radius : Float) :
    c.Relates property .intersects (.circle center radius) (c.meetsCircle property center radius) :=
  ⟨rfl, rfl⟩

theorem centroidRead?_read (wkt : Text) :
    centroidRead? (Wkt.read wkt) = (Target.given wkt).reference? := by
  rw [Target.reference?]
  cases Wkt.read wkt with
  | ok g => rfl
  | error why => rfl

theorem relates_relatedToText (c : Compiler) (r : Relation) (property wkt : Text) :
    c.Relates property r (.given wkt) (c.relatedToText r property wkt) := by
  have hrelated : c.related r property wkt (centroidRead? (Wkt.read wkt))
      = c.related r property wkt (Target.given wkt).reference? := by rw [centroidRead?_read]
  exact ⟨congrArg (fun out => out.result) hrelated, congrArg (fun out => out.after) hrelated⟩

/-! ## Geometry texts -/

theorem shape_eq_ok_iff {g : Geometry} : shape wkt = .ok g ↔ Wkt.read wkt = .ok g := by
  rw [shape]
  cases Wkt.read wkt with
  | ok g' => simp
  | error why => simp

/-- A single point is read from its letters only, in upper or lower case. -/
theorem mentionsLetters_of_singlePoint? {g : Geometry} {at_ : Coord} (hread : Wkt.read wkt = .ok g)
    (hp : g.singlePoint? = some at_) : Text.mentionsLetters "POINT".toList wkt = true := by
  obtain ⟨w, ts, hw, hascii, hletters⟩ := Wkt.exists_pointWord_of_read hread hp
  have hpart : w <:+: wkt := Wkt.infix_of_mem_tokens (hw ▸ List.mem_cons_self)
  exact Text.mentionsLetters_of_infix hpart hascii hletters

/-- A text is read as a single point whether its letters have been looked at or not. -/
theorem pointRead?_eq_some_iff {p : Coord} :
    pointRead? wkt = some p ↔ ∃ g, Wkt.read wkt = .ok g ∧ g.singlePoint? = some p := by
  constructor
  · intro h
    unfold pointRead? at h
    split at h
    · split at h
      · next g hread => exact ⟨g, hread, h⟩
      · cases h
    · cases h
  · rintro ⟨g, hread, hp⟩
    rw [pointRead?, if_pos (mentionsLetters_of_singlePoint? hread hp), hread]
    exact hp

theorem pointRead?_eq_none_iff : pointRead? wkt = none ↔
    ¬∃ g p, Wkt.read wkt = .ok g ∧ g.singlePoint? = some p := by
  rw [Option.eq_none_iff_forall_ne_some, exists_comm, not_exists]
  exact forall_congr' fun p => not_congr pointRead?_eq_some_iff

theorem spatial_of_said (c : Compiler) (r : Relation) (property : Text)
    (said : Text.isBlank wkt = false) :
    c.spatial r property wkt = c.relatedToText r property wkt :=
  if_neg (by simp [said])

theorem intersects_of_point (c : Compiler) (property : Text) {at_ : Coord}
    (said : Text.isBlank wkt = false) (found : pointRead? wkt = some at_) :
    c.intersects property wkt = c.meetsCircle property at_
      (Distance.metersToDegrees c.settings.pointErrorMeters) := by
  rw [intersects, if_neg (by simp [said]), found]

theorem intersects_of_text (c : Compiler) (property : Text)
    (said : Text.isBlank wkt = false) (found : pointRead? wkt = none) :
    c.intersects property wkt = c.relatedToText .intersects property wkt := by
  rw [intersects, if_neg (by simp [said]), found]

theorem nearestTo_of_anchor (c : Compiler) (property : Text) {g : Geometry}
    {at_ : Coord} (said : Text.isBlank wkt = false) (read : Wkt.read wkt = .ok g)
    (anchored : g.anchor? = some at_) :
    c.nearestTo property wkt = c.meetsCircle property at_ (Distance.metersToDegrees
      (Distance.nauticalMilesToMeters c.settings.nearestNeighborLimitNauticalMiles)) := by
  rw [nearestTo, if_neg (by simp [said]), shape_eq_ok_iff.mpr read]
  dsimp only
  rw [anchored]

/-! ## Places within a distance -/

/-- The target for the places within a distance. -/
def Reach.target : Reach → Target
  | .circle center radius => .circle center radius
  | .area g _ => .area g

theorem relates_withinDistance {meters : Float} {x : Reach} (hx : c.reach wkt meters = .ok x) :
    c.Relates property .intersects x.target (c.withinDistance property wkt meters) := by
  rw [withinDistance, hx]
  cases x with
  | circle center radius => exact ⟨rfl, rfl⟩
  | area g buffered => exact ⟨rfl, rfl⟩

/-- The places within a distance of a geometry that is a point. -/
theorem reach_of_point {meters : Float} {g : Geometry} {p : Coord}
    (said : Text.isBlank wkt = false) (distance : isDistance meters = true)
    (read : Wkt.read wkt = .ok g) (point : g.point? = some p) :
    c.reach wkt meters = .ok (.circle p (Distance.metersToDegrees meters)) := by
  have hshape : shape wkt = .ok g := shape_eq_ok_iff.mpr read
  simp only [reach, said, distance, hshape, point, Bool.not_true, Bool.false_eq_true, if_false]

/-- The places within a distance of a geometry that is no point. -/
theorem reach_of_extended {meters : Float} {g : Geometry}
    (said : Text.isBlank wkt = false) (distance : isDistance meters = true)
    (read : Wkt.read wkt = .ok g) (extended : g.point? = none) :
    c.reach wkt meters =
      if 0 < Distance.metersToDegrees meters then
        .ok (.area (g.buffer c.draw (Distance.metersToDegrees meters)
          c.settings.quadrantSegments) true)
      else .ok (.area g false) := by
  have hshape : shape wkt = .ok g := shape_eq_ok_iff.mpr read
  simp only [reach, said, distance, hshape, extended, Bool.not_true, Bool.false_eq_true, if_false]

/-- There are places within a distance only when the text can be read and the distance is one. -/
theorem exists_read_of_reach {meters : Float} {x : Reach}
    (hx : c.reach wkt meters = .ok x) :
    Text.isBlank wkt = false ∧ isDistance meters = true ∧ ∃ g, Wkt.read wkt = .ok g := by
  unfold reach at hx
  split at hx
  · cases hx
  · next said =>
    split at hx
    · cases hx
    · next distance =>
      split at hx
      · cases hx
      · next g hshape =>
        exact ⟨by simpa using said, by simpa using distance, g, shape_eq_ok_iff.mp hshape⟩

/-! ## Searches with a target -/

/-- What comes of a search with a target comes of the relation to the target. -/
theorem relates_compile (hp : p.location? = some property)
    (ht : p.HasTarget c.settings c.draw r t) : c.Relates property r t (c.compile p) := by
  cases ht with
  | contains said | within said | disjoint said | overlaps said =>
      cases hp
      rw [compile, spatial_of_said c _ property said]
      exact c.relates_relatedToText _ property _
  | intersectsPoint said found =>
      cases hp
      rw [compile, intersects_of_point c property said found]
      exact c.relates_meetsCircle property _ _
  | intersectsText said found =>
      cases hp
      rw [compile, intersects_of_text c property said found]
      exact c.relates_relatedToText _ property _
  | withinDistanceOfPoint said distance read =>
      cases hp
      exact relates_withinDistance (reach_of_point said distance read rfl)
  | withinDistanceOfShape said distance read extended wide =>
      cases hp
      have hreach := reach_of_extended (c := c) said distance read extended
      exact relates_withinDistance (hreach.trans (if_pos wide))
  | withinNoDistanceOfShape said distance read extended narrow =>
      cases hp
      have hreach := reach_of_extended (c := c) said distance read extended
      exact relates_withinDistance (hreach.trans (if_neg narrow))
  | nearestTo said read anchored =>
      cases hp
      rw [compile, nearestTo_of_anchor c property said read anchored]
      exact c.relates_meetsCircle property _ _

/-- A search with a target and a property is compiled, to the query about the target. -/
theorem isAbout_compile (hp : p.location? = some property) (h : property ≠ [])
    (ht : p.HasTarget c.settings c.draw r t) : c.IsAbout property r t (c.compile p) :=
  (relates_compile hp ht).isAbout h

/-! ## Searches without a target -/

theorem spatial_cases (c : Compiler) (r : Relation) (property wkt : Text) :
    (∃ e, c.spatial r property wkt = c.answering (.error e)) ∨ Text.isBlank wkt = false := by
  cases said : Text.isBlank wkt with
  | true => exact Or.inl ⟨_, if_pos said⟩
  | false => exact Or.inr rfl

theorem intersects_cases (c : Compiler) (property wkt : Text) :
    (∃ e, c.intersects property wkt = c.answering (.error e)) ∨
      ∃ t, (Predicate.intersects property wkt).HasTarget c.settings c.draw .intersects t := by
  cases said : Text.isBlank wkt with
  | true => exact Or.inl ⟨_, if_pos said⟩
  | false =>
      cases found : pointRead? wkt with
      | some at_ => exact Or.inr ⟨_, .intersectsPoint said found⟩
      | none => exact Or.inr ⟨_, .intersectsText said found⟩

theorem withinDistance_cases (c : Compiler) (property wkt : Text) (meters : Float) :
    (∃ e, c.withinDistance property wkt meters = c.answering (.error e)) ∨
      ∃ t, (Predicate.withinDistance property wkt meters).HasTarget c.settings c.draw
        .intersects t := by
  cases hx : c.reach wkt meters with
  | error e => exact Or.inl ⟨e, by rw [withinDistance, hx]⟩
  | ok x =>
      obtain ⟨said, distance, g, read⟩ := exists_read_of_reach hx
      refine Or.inr ?_
      cases extended : g.point? with
      | some at_ =>
          cases g with
          | point at' => exact ⟨_, .withinDistanceOfPoint said distance read⟩
          | _ => cases extended
      | none =>
          by_cases wide : 0 < Distance.metersToDegrees meters
          · exact ⟨_, .withinDistanceOfShape said distance read extended wide⟩
          · exact ⟨_, .withinNoDistanceOfShape said distance read extended wide⟩

theorem nearestTo_cases (c : Compiler) (property wkt : Text) :
    (∃ e, c.nearestTo property wkt = c.answering (.error e)) ∨
      ∃ t, (Predicate.nearestTo property wkt).HasTarget c.settings c.draw .intersects t := by
  cases said : Text.isBlank wkt with
  | true => exact Or.inl ⟨_, if_pos said⟩
  | false =>
      have hnear : c.nearestTo property wkt = _ := if_neg (by simp [said])
      cases hshape : shape wkt with
      | error e =>
          rw [hshape] at hnear
          exact Or.inl ⟨_, hnear⟩
      | ok g =>
          cases anchored : g.anchor? with
          | none =>
              rw [hshape] at hnear
              dsimp only at hnear
              rw [anchored] at hnear
              exact Or.inl ⟨_, hnear⟩
          | some at_ => exact Or.inr ⟨_, .nearestTo said (shape_eq_ok_iff.mp hshape) anchored⟩

/-- A search is refused at once, or it has a target. -/
theorem search_cases (c : Compiler) (hp : p.location? = some property) :
    (∃ e, c.compile p = c.answering (.error e)) ∨
      ∃ r t, p.HasTarget c.settings c.draw r t := by
  cases p with
  | contains _ wkt =>
      exact (c.spatial_cases _ _ wkt).imp_right fun said => ⟨_, _, .contains said⟩
  | within _ wkt =>
      exact (c.spatial_cases _ _ wkt).imp_right fun said => ⟨_, _, .within said⟩
  | disjoint _ wkt =>
      exact (c.spatial_cases _ _ wkt).imp_right fun said => ⟨_, _, .disjoint said⟩
  | overlaps _ wkt =>
      exact (c.spatial_cases _ _ wkt).imp_right fun said => ⟨_, _, .overlaps said⟩
  | intersects _ wkt => exact (c.intersects_cases _ wkt).imp_right fun ht => ⟨_, ht⟩
  | withinDistance _ wkt meters =>
      exact (c.withinDistance_cases _ wkt meters).imp_right fun ht => ⟨_, ht⟩
  | nearestTo _ wkt => exact (c.nearestTo_cases _ wkt).imp_right fun ht => ⟨_, ht⟩
  | _ => cases hp

/-- A search that is compiled has a property and a target. -/
theorem hasTarget_of_result (hp : p.location? = some property)
    (h : (c.compile p).result = .ok f) :
    property ≠ [] ∧ ∃ r t, p.HasTarget c.settings c.draw r t := by
  rcases c.search_cases hp with ⟨e, hrefused⟩ | ⟨r, t, ht⟩
  · rw [hrefused] at h
    cases h
  · rw [(relates_compile hp ht).result] at h
    exact ⟨ne_nil_of_related h, r, t, ht⟩

/-! ## What is not compiled -/

/-- A square around a position, from its left corner counterclockwise. -/
def squareAround (p : Coord) (distance : Float) : Polygon :=
  .ofRings [[⟨p.x - distance, p.y⟩, ⟨p.x, p.y - distance⟩, ⟨p.x + distance, p.y⟩,
    ⟨p.x, p.y + distance⟩]]

/-- A quarter circle of one straight piece: around a set of one point the buffer is a square. -/
def squares : Compiler :=
  { direct with
    settings := { quadrantSegments := 1 }
    draw := fun style g =>
      match g with
      | .multiPoint [p] => [squareAround p style.distance]
      | _ => [] }

/-- One degree of arc in meters. -/
def oneDegree : Float := 111195.07973436874

/-- A position for which a set of one point is written. -/
def onePlace : Coord :=
  ⟨(Decimal.Literal.mk false 3 0).toDouble, (Decimal.Literal.mk false 4 0).toDouble⟩

/-- A set of one point. -/
def onePoint : Text := "MULTIPOINT ((3 4))".toList

theorem metersToDegrees_oneDegree_pos : 0 < Distance.metersToDegrees oneDegree := by decide +kernel

theorem read_onePoint : Wkt.read onePoint = .ok (.multiPoint [onePlace]) := by
  have htokens : Wkt.tokens onePoint = [.word "MULTIPOINT".toList, .opening, .opening,
      Wkt.numberToken ['3'], Wkt.numberToken ['4'], .closing, .closing] := rfl
  rw [Wkt.read, htokens, Wkt.numberToken_eq (t := ['3']) (by decide) rfl,
    Wkt.numberToken_eq (t := ['4']) (by decide) rfl]
  rfl

end Compiler
end CatalogQuery
