import CatalogQuery.Text.Basic

/-!
# Ordered sets of texts

Texts are ordered by the code points of their characters. `ordered` is the strictly ascending list
of the texts that occur in a list: it has the same members (`mem_ordered`) in strictly ascending
order (`pairwise_ordered`), so it depends on nothing else (`ordered_congr`).
-/

namespace CatalogQuery
namespace Text

/-- Put a text at its place in an ascending list, unless it is there. -/
def insertOrdered (t : Text) : List Text → List Text
  | [] => [t]
  | u :: r => if t = u then u :: r else if t < u then t :: u :: r else u :: insertOrdered t r

/-- The texts of a list in ascending order, each once. -/
def ordered : List Text → List Text
  | [] => []
  | t :: r => insertOrdered t (ordered r)

/-! ## Members -/

theorem mem_insertOrdered {s t : Text} {us : List Text} :
    s ∈ insertOrdered t us ↔ s = t ∨ s ∈ us := by
  induction us with
  | nil => simp [insertOrdered]
  | cons u r ih =>
      unfold insertOrdered
      split
      · next h => subst h; simp
      · split
        · simp
        · rw [List.mem_cons, List.mem_cons, ih]
          constructor
          · rintro (h | h | h)
            · exact Or.inr (Or.inl h)
            · exact Or.inl h
            · exact Or.inr (Or.inr h)
          · rintro (h | h | h)
            · exact Or.inr (Or.inl h)
            · exact Or.inl h
            · exact Or.inr (Or.inr h)

theorem mem_ordered {s : Text} {ts : List Text} : s ∈ ordered ts ↔ s ∈ ts := by
  induction ts with
  | nil => simp [ordered]
  | cons t r ih => rw [ordered, mem_insertOrdered, ih, List.mem_cons]

/-! ## Order -/

theorem pairwise_insertOrdered {t : Text} {us : List Text} (h : us.Pairwise (· < ·)) :
    (insertOrdered t us).Pairwise (· < ·) := by
  induction us with
  | nil => simp [insertOrdered]
  | cons u r ih =>
      rw [List.pairwise_cons] at h
      unfold insertOrdered
      split
      · exact List.pairwise_cons.2 h
      · next hne =>
        split
        · next hlt =>
            refine List.pairwise_cons.2 ⟨fun x hx => ?_, List.pairwise_cons.2 h⟩
            rcases List.mem_cons.1 hx with rfl | hx
            · exact hlt
            · exact List.lt_trans hlt (h.1 x hx)
        · next hnlt =>
            refine List.pairwise_cons.2 ⟨fun x hx => ?_, ih h.2⟩
            rcases mem_insertOrdered.1 hx with rfl | hx
            · exact Decidable.byContradiction fun hux =>
                hne (List.le_antisymm (List.not_lt.1 hux) (List.not_lt.1 hnlt))
            · exact h.1 x hx

theorem pairwise_ordered (ts : List Text) : (ordered ts).Pairwise (· < ·) := by
  induction ts with
  | nil => exact List.Pairwise.nil
  | cons t r ih => exact pairwise_insertOrdered ih

theorem nodup_ordered (ts : List Text) : (ordered ts).Nodup := by
  refine (pairwise_ordered ts).imp ?_
  rintro a _ hlt rfl
  exact List.lt_irrefl a hlt

/-- Lists with the same members have the same members in ascending order. -/
theorem ordered_congr {ts us : List Text} (h : ∀ t, t ∈ ts ↔ t ∈ us) : ordered ts = ordered us := by
  have hmem : ∀ t, t ∈ ordered ts ↔ t ∈ ordered us := fun t => by
    rw [mem_ordered, mem_ordered, h]
  have hperm : (ordered ts).Perm (ordered us) :=
    (List.perm_ext_iff_of_nodup (nodup_ordered ts) (nodup_ordered us)).mpr hmem
  refine List.Perm.eq_of_pairwise ?_ (pairwise_ordered ts) (pairwise_ordered us) hperm
  intro a b _ _ hab hba
  exact absurd (List.lt_trans hab hba) (List.lt_irrefl a)

end Text
end CatalogQuery
