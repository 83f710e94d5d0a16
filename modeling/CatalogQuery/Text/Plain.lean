import CatalogQuery.Decimal.Characters
import CatalogQuery.Geometry.Wkt.Writer
import CatalogQuery.Text.Cover

/-!
# Plain texts

A text without quotes and backslashes can be put between quotes as it is: there is nothing in it to
be covered, and nothing that covers.

* `IsPlain`, kept when texts are put together (`isPlain_append`, `isPlain_join`);
* `isPlain_double`, `isPlain_write`: numbers and geometries are written as plain texts.
-/

namespace CatalogQuery
namespace Text

variable {c : Char} {s t sep : Text}

/-- Neither a quote nor a backslash is in the text. -/
def IsPlain (t : Text) : Prop := ∀ c ∈ t, c ≠ '"' ∧ c ≠ '\\'

instance (t : Text) : Decidable (IsPlain t) :=
  List.decidableBAll (fun c => c ≠ '"' ∧ c ≠ '\\') t

/-! ## Parts -/

@[simp] theorem isPlain_nil : IsPlain [] := fun _ h => absurd h (by simp)

@[simp] theorem isPlain_cons : IsPlain (c :: t) ↔ (c ≠ '"' ∧ c ≠ '\\') ∧ IsPlain t :=
  List.forall_mem_cons

@[simp] theorem isPlain_append : IsPlain (s ++ t) ↔ IsPlain s ∧ IsPlain t :=
  List.forall_mem_append

theorem isPlain_join {parts : List Text} (hsep : IsPlain sep) (h : ∀ p ∈ parts, IsPlain p) :
    IsPlain (join sep parts) := by
  intro c hc
  rcases mem_join hc with hc | ⟨p, hp, hc⟩
  · exact hsep c hc
  · exact h p hp c hc

/-! ## Between quotes -/

/-- Behind a plain text nothing is covered. -/
theorem IsPlain.coversNext (h : IsPlain t) : Quoted.coversNext false t = false :=
  Quoted.coversNext_of_getLast? fun hlast => (h '\\' (List.mem_of_getLast? hlast)).2 rfl

/-- Not even if the first character of it is covered. -/
theorem IsPlain.coversNext_cons (h : IsPlain (c :: t)) (covered : Bool) :
    Quoted.coversNext covered (c :: t) = false := by
  obtain ⟨⟨-, hback⟩, ht⟩ := isPlain_cons.mp h
  have hstate : (!covered && c == '\\') = false := by simp [hback]
  rw [Quoted.coversNext_cons, hstate]
  exact ht.coversNext

theorem IsPlain.eachCovered (h : IsPlain t) (covered : Bool) :
    Quoted.EachCovered '"' covered t :=
  Quoted.eachCovered_of_not_mem fun hmem => (h '"' hmem).1 rfl

/-- The first quote behind a plain text is read. -/
theorem IsPlain.readTo (h : IsPlain s) (rest : Text) :
    Quoted.readTo '"' (s ++ '"' :: rest) = some (s, rest) := by
  induction s with
  | nil => exact Quoted.readTo_close (by decide) rest
  | cons c s ih =>
      obtain ⟨⟨hquote, hback⟩, hs⟩ := isPlain_cons.mp h
      rw [List.cons_append, Quoted.readTo_plain hback hquote, ih hs]
      rfl

/-- Between plain texts, of which the one behind says something, a text stays within quotes when
all quotes in it are covered. -/
theorem isBody_between_iff {before after : Text} (hbefore : IsPlain before)
    (hafter : IsPlain (c :: after)) :
    Quoted.IsBody '"' (before ++ t ++ c :: after) ↔ Quoted.EachCovered '"' false t := by
  have hbehind : Quoted.coversNext false (before ++ t ++ c :: after) = false := by
    rw [Quoted.coversNext_append, hafter.coversNext_cons]
  rw [Quoted.isBody_iff (by decide), Quoted.eachClose_iff, and_iff_left hbehind,
    Quoted.eachCovered_append, and_iff_left (hafter.eachCovered _), Quoted.eachCovered_append,
    and_iff_right (hbefore.eachCovered _), hbefore.coversNext]

/-! ## Numbers -/

/-- Neither a quote nor a backslash is among the characters of numbers. -/
theorem isPlain_of_isNumeral (h : Decimal.IsNumeral t) : IsPlain t := by
  intro c hc
  constructor
  · rintro rfl
    exact absurd (h _ hc) (by decide)
  · rintro rfl
    exact absurd (h _ hc) (by decide)

theorem isPlain_double (x : Float) : IsPlain (Decimal.double x) :=
  isPlain_of_isNumeral (Decimal.isNumeral_double x)

/-! ## Geometries -/

theorem isPlain_lonLat (p : Coord) : IsPlain p.lonLat := by
  simp [Coord.lonLat, isPlain_double]

theorem isPlain_tuple {parts : List Text} (h : ∀ p ∈ parts, IsPlain p) :
    IsPlain (Wkt.tuple parts) := by
  have hparts : IsPlain (join [','] parts) := isPlain_join (by decide) h
  simp [Wkt.tuple, hparts]

theorem isPlain_tagged {word : Text} {parts : List Text} (hword : IsPlain word)
    (h : ∀ p ∈ parts, IsPlain p) : IsPlain (Wkt.tagged word parts) := by
  unfold Wkt.tagged
  split
  · simp [hword]
  · simp [hword, isPlain_tuple h]

theorem isPlain_lineText (line : List Coord) : IsPlain (Wkt.lineText line) :=
  isPlain_tuple (List.forall_mem_map.mpr fun p _ => isPlain_lonLat p)

theorem isPlain_polygonText (p : Polygon) : IsPlain (Wkt.polygonText p) := by
  unfold Wkt.polygonText
  split
  · decide
  · exact isPlain_tagged (by decide) (List.forall_mem_map.mpr fun l _ => isPlain_lineText l)

mutual

/-- A geometry is written as a plain text. -/
theorem isPlain_write : (g : Geometry) → IsPlain (Wkt.write g)
  | .point p =>
      isPlain_append.mpr ⟨by decide, isPlain_tuple (by simpa using isPlain_lonLat p)⟩
  | .lineString l =>
      isPlain_tagged (by decide) (List.forall_mem_map.mpr fun p _ => isPlain_lonLat p)
  | .polygon p => isPlain_polygonText p
  | .multiPoint ps =>
      isPlain_tagged (by decide) (List.forall_mem_map.mpr fun p _ =>
        isPlain_tuple (by simpa using isPlain_lonLat p))
  | .multiLineString ls =>
      isPlain_tagged (by decide) (List.forall_mem_map.mpr fun l _ => isPlain_lineText l)
  | .multiPolygon ps =>
      isPlain_tagged (by decide) (List.forall_mem_map.mpr fun _ _ =>
        isPlain_tuple (List.forall_mem_map.mpr fun l _ => isPlain_lineText l))
  | .collection gs => isPlain_tagged (by decide) (isPlain_of_mem_writeAll gs)

theorem isPlain_of_mem_writeAll :
    (gs : List Geometry) → ∀ t ∈ Wkt.write.writeAll gs, IsPlain t
  | [] => fun _ h => absurd h List.not_mem_nil
  | g :: gs => List.forall_mem_cons.mpr ⟨isPlain_write g, isPlain_of_mem_writeAll gs⟩

end

end Text
end CatalogQuery
