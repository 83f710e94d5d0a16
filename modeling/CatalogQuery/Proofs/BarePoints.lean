import CatalogQuery.Proofs.Made
import CatalogQuery.Proofs.Refusals

/-!
# Searches by bare points

The index does not compare with a bare point, so a point, or a set of just one, gives way to a
circle or to the area around it.

* `Compiler.searchesCircle_iff`: `intersects` searches a circle for a text that is read so, and of
  all others for those only that spell a circle out themselves;
* `Compiler.not_searchesCircle_iff_spelledOut`: such a text cannot be read;
* `Compiler.avoidsShape_iff`: no search by a single point compares with the point itself, but for
  one: without any distance, the places within it of a set of one point are that set;
* `Compiler.not_avoidsShape`: so one is searched, and it is a bare point.
-/

namespace CatalogQuery

open Wkt.Reader

namespace Compiler

variable {c : Compiler} {property wkt : Text} {g : Geometry} {p : Coord} {f : Fragment}

/-! ## Texts of shapes -/

theorem relationClause_inj {field s t : Text} {r : Relation} :
    relationClause field r s = relationClause field r t ↔ s = t := by
  simp [relationClause, clause, phrase]

/-- A circle is nothing that can be read. -/
theorem read_circleText_ne (center : Coord) (radius : Float) (g : Geometry) :
    Wkt.read (circleText center radius) ≠ .ok g := by
  intro h
  have htext : circleText center radius = "BUFFER".toList ++ '(' :: ("POINT(".toList ++
      center.lonLat ++ "), ".toList ++ Decimal.double radius ++ [')']) := rfl
  have hnone : Wkt.kindOf? "BUFFER".toList = none := by decide
  rw [htext] at h
  obtain ⟨kind, marked, -, -, -, hkind, -⟩ :=
    Wkt.exists_kind_of_read rfl (by simp [Wkt.isSpace, Wkt.punctuation?]) (by decide) h
  rw [hnone] at hkind
  cases hkind

/-- The word that several areas are written behind. -/
theorem exists_write_multiPolygon (areas : List Polygon) : ∃ c rest,
    (Wkt.isSpace c = true ∨ (Wkt.punctuation? c).isSome = true) ∧
      Wkt.write (.multiPolygon areas) = "MULTIPOLYGON".toList ++ c :: rest := by
  unfold Wkt.write Wkt.tagged
  split
  · exact ⟨' ', _, by decide, rfl⟩
  · exact ⟨'(', _, by decide, rfl⟩

/-- Several areas are not written as what is read as a single point. -/
theorem write_multiPolygon_ne (areas : List Polygon) (hread : Wkt.read wkt = .ok g)
    (hp : g.singlePoint? = some p) : Wkt.write (.multiPolygon areas) ≠ wkt := by
  intro hwkt
  obtain ⟨c, rest, hend, htext⟩ := exists_write_multiPolygon areas
  have hword : Wkt.kindOf? "MULTIPOLYGON".toList = some (.multiPolygon, none) := by decide
  rw [← hwkt, htext] at hread
  obtain ⟨kind, marked, _, _, _, hkind, hfinds⟩ :=
    Wkt.exists_kind_of_read rfl (by simp [Wkt.isSpace, Wkt.punctuation?]) hend hread
  rw [hword] at hkind
  cases hkind
  rcases Wkt.kind_of_singlePoint? hfinds hp with h | h <;> cases h

/-- The word that a single point is written behind. -/
theorem exists_write_of_singlePoint? (hp : g.singlePoint? = some p) :
    ∃ rest, Wkt.write g = "POINT".toList ++ rest ∨ Wkt.write g = "MULTIPOINT".toList ++ rest := by
  unfold Geometry.singlePoint? at hp
  split at hp
  · exact ⟨_, Or.inl rfl⟩
  · exact ⟨_, Or.inr rfl⟩
  · cases hp

theorem write_multiPolygon_ne_write (areas : List Polygon) (hp : g.singlePoint? = some p) :
    Wkt.write (.multiPolygon areas) ≠ Wkt.write g := by
  obtain ⟨c, rest, -, hrest⟩ := exists_write_multiPolygon areas
  obtain ⟨rest', hpoint | hpoints⟩ := exists_write_of_singlePoint? hp
  · simp [hrest, hpoint]
  · simp [hrest, hpoints]

theorem circleText_ne_write (center : Coord) (radius : Float) (hp : g.singlePoint? = some p) :
    circleText center radius ≠ Wkt.write g := by
  obtain ⟨rest, hrest⟩ : ∃ rest, circleText center radius = "BUFFER".toList ++ rest := ⟨_, rfl⟩
  obtain ⟨rest', hpoint | hpoints⟩ := exists_write_of_singlePoint? hp
  · simp [hrest, hpoint]
  · simp [hrest, hpoints]

/-! ## Circles for points -/

/-- The text is a circle as the index knows it, `BUFFER(POINT(x y), r)`. -/
def SpellsCircle (t : Text) : Prop := ∃ x y r : Float, t = "BUFFER(POINT(".toList ++
  Decimal.double x ++ ' ' :: Decimal.double y ++ "), ".toList ++ Decimal.double r ++ [')']

/-- The query asks for what meets a circle, `field:"Intersects(BUFFER(POINT(x y), r))"`. -/
def circleQuery (field : Text) (x y r : Float) : Text := field ++
  ":\"Intersects(BUFFER(POINT(".toList ++ Decimal.double x ++ ' ' :: Decimal.double y ++
    "), ".toList ++ Decimal.double r ++ "))\"".toList

/-- To meet a geometry text is compiled to meet a circle. -/
def SearchesCircle (c : Compiler) (property wkt : Text) : Prop :=
  ∃ x y r : Float, (c.compile (.intersects property wkt)).result
    = .ok ⟨circleQuery (c.schema.field property .geometry false) x y r, []⟩

theorem relationClause_circleText (field : Text) (center : Coord) (radius : Float) :
    relationClause field .intersects (circleText center radius)
      = circleQuery field center.x center.y radius := by
  have hopen : ":\"Intersects(BUFFER(POINT(".toList
      = ':' :: '"' :: (Relation.intersects.name ++ '(' :: "BUFFER(POINT(".toList) := rfl
  have hclose : "))\"".toList = [')', ')', '"'] := rfl
  unfold circleQuery circleText Coord.lonLat
  rw [hopen, hclose]
  simp [relationClause, clause, phrase]

/-- Whatever the letters are, a single point gives way to a circle around it. -/
theorem result_intersects_of_singlePoint? (hproperty : property ≠ [])
    (said : Text.isBlank wkt = false) (hread : Wkt.read wkt = .ok g)
    (hp : g.singlePoint? = some p) :
    (c.compile (.intersects property wkt)).result = .ok
      ⟨circleQuery (c.schema.field property .geometry false) p.x p.y
        (Distance.metersToDegrees c.settings.pointErrorMeters), []⟩ := by
  rw [← relationClause_circleText]
  exact (isAbout_compile rfl hproperty
    (.intersectsPoint said (pointRead?_eq_some_iff.mpr ⟨g, hread, hp⟩))).result

/-- A text that is not read as a single point is searched as it is. It is a circle when it spells
one out. -/
theorem searchesCircle_iff_of_pointRead?_eq_none (hproperty : property ≠ [])
    (said : Text.isBlank wkt = false) (hnone : pointRead? wkt = none) :
    c.SearchesCircle property wkt ↔ SpellsCircle wkt := by
  have hresult := (isAbout_compile (c := c) rfl hproperty (.intersectsText said hnone)).result
  rw [SearchesCircle, hresult]
  refine exists_congr fun x => exists_congr fun y => exists_congr fun r => ?_
  have hcircle := relationClause_circleText (c.schema.field property .geometry false) ⟨x, y⟩ r
  constructor
  · intro h
    have hquery := congrArg Fragment.query (Except.ok.inj h)
    exact relationClause_inj.mp (hquery.trans hcircle.symm)
  · rintro rfl
    rw [← hcircle]
    rfl

/-- A circle that is spelled out is nothing that can be read. -/
theorem read_ne_of_spellsCircle (h : SpellsCircle wkt) (g : Geometry) : Wkt.read wkt ≠ .ok g := by
  obtain ⟨x, y, r, rfl⟩ := h
  exact read_circleText_ne ⟨x, y⟩ r g

theorem pointRead?_eq_none_of_spellsCircle (h : SpellsCircle wkt) : pointRead? wkt = none := by
  refine pointRead?_eq_none_iff.mpr ?_
  rintro ⟨g, p, hread, -⟩
  exact read_ne_of_spellsCircle h g hread

/-- To meet a geometry text is compiled to meet a circle exactly when the text is read as a single
point or is a circle that is spelled out. A text that is read never is one, so for it the search is
for a circle exactly when the geometry is a single point. This is then the center, and the letters
that are looked for are there. -/
theorem searchesCircle_iff (hproperty : property ≠ []) (said : Text.isBlank wkt = false) :
    (c.SearchesCircle property wkt ↔
      (∃ g p, Wkt.read wkt = .ok g ∧ g.singlePoint? = some p) ∨ SpellsCircle wkt) ∧
    ∀ g, Wkt.read wkt = .ok g →
      (c.SearchesCircle property wkt ↔ ∃ p, g.singlePoint? = some p) ∧
      ∀ p, g.singlePoint? = some p → Text.mentionsLetters "POINT".toList wkt = true ∧
        (c.compile (.intersects property wkt)).result = .ok
          ⟨circleQuery (c.schema.field property .geometry false) p.x p.y
            (Distance.metersToDegrees c.settings.pointErrorMeters), []⟩ := by
  have hiff : c.SearchesCircle property wkt ↔
      (∃ g p, Wkt.read wkt = .ok g ∧ g.singlePoint? = some p) ∨ SpellsCircle wkt := by
    by_cases hsingle : ∃ g p, Wkt.read wkt = .ok g ∧ g.singlePoint? = some p
    · obtain ⟨g, p, hread, hp⟩ := hsingle
      exact iff_of_true ⟨_, _, _, result_intersects_of_singlePoint? hproperty said hread hp⟩
        (Or.inl ⟨g, p, hread, hp⟩)
    · have hnone : pointRead? wkt = none := pointRead?_eq_none_iff.mpr hsingle
      rw [searchesCircle_iff_of_pointRead?_eq_none hproperty said hnone, or_iff_right hsingle]
  refine ⟨hiff, fun g hread => ⟨?_, fun p hp => ⟨?_, ?_⟩⟩⟩
  · rw [hiff]
    constructor
    · rintro (⟨g', p, hread', hp⟩ | hspelled)
      · rw [hread] at hread'
        cases hread'
        exact ⟨p, hp⟩
      · exact absurd hread (read_ne_of_spellsCircle hspelled g)
    · rintro ⟨p, hp⟩
      exact Or.inl ⟨g, p, hread, hp⟩
  · exact mentionsLetters_of_singlePoint? hread hp
  · exact result_intersects_of_singlePoint? hproperty said hread hp

theorem searchesCircle_iff_onePoint :
    "loc".toList ≠ [] ∧ Text.isBlank onePoint = false ∧
    Wkt.read onePoint = .ok (.multiPoint [onePlace]) ∧
    direct.SearchesCircle "loc".toList onePoint := by
  have hproperty : "loc".toList ≠ [] := by decide
  have hsaid : Text.isBlank onePoint = false := by decide
  obtain ⟨hiff, -⟩ := searchesCircle_iff (c := direct) hproperty hsaid
  exact ⟨hproperty, hsaid, read_onePoint, hiff.mpr (Or.inl ⟨_, _, read_onePoint, rfl⟩)⟩

/-- The circle that a point is searched with, around longitude 3 and latitude 4. -/
def spelledOut : Text := "BUFFER(POINT(3 4), 0.000008993203677616636)".toList

theorem spellsCircle_spelledOut :
    circleText onePlace (Distance.metersToDegrees 1) = spelledOut ∧ SpellsCircle spelledOut := by
  have hshape : circleText onePlace (Distance.metersToDegrees 1) = spelledOut := by decide +kernel
  exact ⟨hshape, _, _, _, hshape.symm⟩

/-- A circle is searched for a text that cannot be read, the same as for a single point. -/
theorem not_searchesCircle_iff_spelledOut :
    "loc".toList ≠ [] ∧ Text.isBlank spelledOut = false ∧
    (direct.compile (.intersects "loc".toList spelledOut)).result
      = (direct.compile (.intersects "loc".toList onePoint)).result ∧
    ¬(direct.SearchesCircle "loc".toList spelledOut ↔
      ∃ g p, Wkt.read spelledOut = .ok g ∧ g.singlePoint? = some p) := by
  have hproperty : "loc".toList ≠ [] := by decide
  have hsaid : Text.isBlank spelledOut = false := by decide
  obtain ⟨hshape, hspelled⟩ := spellsCircle_spelledOut
  have hnone : pointRead? spelledOut = none := pointRead?_eq_none_of_spellsCircle hspelled
  have hsearched :=
    (isAbout_compile (c := direct) rfl hproperty (.intersectsText hsaid hnone)).result
  have hpoint := result_intersects_of_singlePoint? (c := direct) hproperty
    (by decide : Text.isBlank onePoint = false) read_onePoint rfl
  rw [← relationClause_circleText] at hpoint
  refine ⟨hproperty, hsaid, ?_, ?_⟩
  · rw [hsearched, hpoint, ← hshape]
    rfl
  · intro hiff
    have hcircle := (searchesCircle_iff_of_pointRead?_eq_none (c := direct) hproperty hsaid
      hnone).mpr hspelled
    obtain ⟨g, p, hread, -⟩ := hiff.mp hcircle
    exact read_ne_of_spellsCircle hspelled g hread

/-! ## Shapes that are not points -/

/-- A query for what meets a circle, or the buffer of a geometry, and not for what meets the
geometry itself, be it written anew or as it was given. -/
structure AvoidsShape (c : Compiler) (property wkt : Text) (g : Geometry) (f : Fragment) :
    Prop where
  isWide : (∃ center radius, f = c.targetQuery property .intersects (.circle center radius)) ∨
    ∃ degrees, f = c.targetQuery property .intersects
      (.area (g.buffer c.draw degrees c.settings.quadrantSegments))
  ne_written : f ≠ c.targetQuery property .intersects (.area g)
  ne_given : f ≠ c.targetQuery property .intersects (.given wkt)

theorem targetQuery_inj {r : Relation} {s t : Target} :
    c.targetQuery property r s = c.targetQuery property r t ↔ s.text = t.text := by
  simp [targetQuery, relationClause_inj]

section

variable (hread : Wkt.read wkt = .ok g) (hp : g.singlePoint? = some p)
include hread hp

theorem avoidsShape_circle (center : Coord) (radius : Float) : c.AvoidsShape property wkt g
    (c.targetQuery property .intersects (.circle center radius)) where
  isWide := Or.inl ⟨center, radius, rfl⟩
  ne_written h := circleText_ne_write center radius hp (targetQuery_inj.mp h)
  ne_given h := by
    have htext : circleText center radius = wkt := targetQuery_inj.mp h
    exact read_circleText_ne center radius g (htext ▸ hread)

theorem avoidsShape_buffer (degrees : Float) : c.AvoidsShape property wkt g
    (c.targetQuery property .intersects
      (.area (g.buffer c.draw degrees c.settings.quadrantSegments))) where
  isWide := Or.inr ⟨degrees, rfl⟩
  ne_written h := write_multiPolygon_ne_write _ hp (targetQuery_inj.mp h)
  ne_given h := write_multiPolygon_ne _ hread hp (targetQuery_inj.mp h)

end

/-- A single point has a position to search the neighbours of. -/
theorem exists_anchor (hp : g.singlePoint? = some p) : ∃ center, g.anchor? = some center := by
  unfold Geometry.singlePoint? at hp
  split at hp
  · exact ⟨_, rfl⟩
  · exact ⟨_, rfl⟩
  · cases hp

/-- The places within a distance of a single point are a circle around a point, the buffer of a
set of one point, and that set itself when the buffer would have no width. -/
theorem avoidsShape_withinDistance {meters : Float} (hproperty : property ≠ [])
    (hread : Wkt.read wkt = .ok g) (hp : g.singlePoint? = some p)
    (hdistance : isDistance meters = true) :
    ∃ close, (c.compile (.withinDistance property wkt meters)).result = .ok close ∧
      (g.point? = none ∧ ¬0 < Distance.metersToDegrees meters →
        close = c.targetQuery property .intersects (.area g)) ∧
      (¬(g.point? = none ∧ ¬0 < Distance.metersToDegrees meters) →
        c.AvoidsShape property wkt g close) := by
  have said : Text.isBlank wkt = false := Wkt.isBlank_eq_false_of_read hread
  cases hpoint : g.point? with
  | some q =>
      have hg : g = .point q := by
        cases g with
        | point at_ => exact congrArg Geometry.point (Option.some.inj hpoint)
        | _ => cases hpoint
      subst hg
      have hresult := (isAbout_compile (c := c) rfl hproperty
        (.withinDistanceOfPoint said hdistance hread)).result
      exact ⟨_, hresult, fun h => absurd h.1 (by simp), fun _ => avoidsShape_circle hread hp _ _⟩
  | none =>
      by_cases hwide : 0 < Distance.metersToDegrees meters
      · have hresult := (isAbout_compile (c := c) rfl hproperty
          (.withinDistanceOfShape said hdistance hread hpoint hwide)).result
        exact ⟨_, hresult, fun h => absurd hwide h.2, fun _ => avoidsShape_buffer hread hp _⟩
      · have hresult := (isAbout_compile (c := c) rfl hproperty
          (.withinNoDistanceOfShape said hdistance hread hpoint hwide)).result
        exact ⟨_, hresult, fun _ => rfl, fun h => absurd ⟨rfl, hwide⟩ h⟩

/-- The searches by a single point avoid the point, but for the places within a distance of a set
of one point, when the distance is nothing in degrees: then that set itself is searched. -/
theorem avoidsShape_iff {meters : Float} (hproperty : property ≠ [])
    (hread : Wkt.read wkt = .ok g) (hp : g.singlePoint? = some p)
    (hfinite : meters.isFinite = true) (hnonneg : ¬meters < 0) :
    ∃ meeting near close,
      (c.compile (.intersects property wkt)).result = .ok meeting ∧
      (c.compile (.nearestTo property wkt)).result = .ok near ∧
      (c.compile (.withinDistance property wkt meters)).result = .ok close ∧
      c.AvoidsShape property wkt g meeting ∧ c.AvoidsShape property wkt g near ∧
      (c.AvoidsShape property wkt g close ↔
        ¬(g.point? = none ∧ ¬0 < Distance.metersToDegrees meters)) ∧
      (close = c.targetQuery property .intersects (.area g) ↔
        g.point? = none ∧ ¬0 < Distance.metersToDegrees meters) := by
  have said : Text.isBlank wkt = false := Wkt.isBlank_eq_false_of_read hread
  have hdistance : isDistance meters = true := by simp [isDistance, hfinite, hnonneg]
  have hmeeting := (isAbout_compile (c := c) rfl hproperty
    (.intersectsPoint said (pointRead?_eq_some_iff.mpr ⟨g, hread, hp⟩))).result
  obtain ⟨center, hcenter⟩ := exists_anchor hp
  have hnear := (isAbout_compile (c := c) rfl hproperty (.nearestTo said hread hcenter)).result
  obtain ⟨close, hclose, hbare, havoids⟩ :=
    avoidsShape_withinDistance (c := c) hproperty hread hp hdistance
  refine ⟨_, _, close, hmeeting, hnear, hclose, avoidsShape_circle hread hp _ _,
    avoidsShape_circle hread hp _ _, ⟨?_, havoids⟩, ⟨?_, hbare⟩⟩
  · intro h hnarrow
    exact h.ne_written (hbare hnarrow)
  · intro h
    exact Classical.byContradiction fun hwide => (havoids hwide).ne_written h

theorem avoidsShape_iff_onePoint :
    "loc".toList ≠ [] ∧ Wkt.read onePoint = .ok (.multiPoint [onePlace]) ∧
    (Geometry.multiPoint [onePlace]).singlePoint? = some onePlace ∧
    oneDegree.isFinite = true ∧ ¬oneDegree < 0 ∧
    ∃ close, (squares.compile (.withinDistance "loc".toList onePoint oneDegree)).result
        = .ok close ∧
      squares.AvoidsShape "loc".toList onePoint (.multiPoint [onePlace]) close := by
  have hproperty : "loc".toList ≠ [] := by decide
  have hfinite : oneDegree.isFinite = true := by decide +kernel
  have hnonneg : ¬oneDegree < 0 := by decide +kernel
  obtain ⟨-, -, close, -, -, hclose, -, -, havoids, -⟩ :=
    avoidsShape_iff (c := squares) hproperty read_onePoint rfl hfinite hnonneg
  refine ⟨hproperty, read_onePoint, rfl, hfinite, hnonneg, close, hclose, ?_⟩
  exact havoids.mpr fun h => h.2 metersToDegrees_oneDegree_pos

/-- A set of one point as it is written. -/
theorem write_onePlace : Wkt.write (.multiPoint [onePlace]) = "MULTIPOINT((3 4))".toList := by
  have htagged : Wkt.write (.multiPoint [onePlace])
      = "MULTIPOINT".toList ++ Wkt.tuple [Wkt.tuple [onePlace.lonLat]] := rfl
  have hplace : onePlace.lonLat = "3 4".toList := by decide +kernel
  rw [htagged, hplace]
  rfl

/-- A set of one point is searched as it is when the distance is zero. -/
theorem not_avoidsShape :
    Wkt.read onePoint = .ok (.multiPoint [onePlace]) ∧
    (Geometry.multiPoint [onePlace]).singlePoint? = some onePlace ∧
    (0 : Float).isFinite = true ∧ ¬(0 : Float) < 0 ∧
    (direct.compile (.withinDistance "loc".toList onePoint 0)).result
      = .ok ⟨"loc:\"Intersects(MULTIPOINT((3 4)))\"".toList, []⟩ ∧
    ¬direct.AvoidsShape "loc".toList onePoint (.multiPoint [onePlace])
      ⟨"loc:\"Intersects(MULTIPOINT((3 4)))\"".toList, []⟩ := by
  have hfinite : (0 : Float).isFinite = true := by decide +kernel
  have hnonneg : ¬(0 : Float) < 0 := by decide +kernel
  have hdistance : isDistance 0 = true := by simp [isDistance, hfinite, hnonneg]
  have hnarrow : ¬0 < Distance.metersToDegrees 0 := by decide +kernel
  have hwritten : direct.targetQuery "loc".toList .intersects (.area (.multiPoint [onePlace]))
      = ⟨"loc:\"Intersects(MULTIPOINT((3 4)))\"".toList, []⟩ := by
    rw [targetQuery, Target.text, write_onePlace]
    rfl
  have hproperty : "loc".toList ≠ [] := by decide
  have hsaid : Text.isBlank onePoint = false := by decide
  have hresult := (isAbout_compile (c := direct) rfl hproperty
    (.withinNoDistanceOfShape hsaid hdistance read_onePoint rfl hnarrow)).result
  rw [hwritten] at hresult
  refine ⟨read_onePoint, rfl, hfinite, hnonneg, hresult, ?_⟩
  intro h
  exact h.ne_written hwritten.symm

end Compiler
end CatalogQuery
