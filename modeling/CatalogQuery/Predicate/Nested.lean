import CatalogQuery.Predicate.Basic
import CatalogQuery.Query.Formula

/-!
# Nested predicates

A formula over predicates is compiled from its leaves up: first the members of a group, in order,
and then the group of what they were compiled to.
-/

namespace CatalogQuery
namespace Formula

variable {α : Type}

/-- Compile a formula, given how its leaves are compiled. -/
def compile (c : Compiler) (leaf : α → Except CompileError Fragment) :
    Formula α → Except CompileError Fragment :=
  fold leaf (fun result => result.bind fun f => (c.compile (.negation f)).result)
    fun k results => (results.mapM id).bind fun fs => (c.compile (.group k fs)).result

variable {c : Compiler} {leaf : α → Except CompileError Fragment}

theorem compile_negation {e : Formula α} {f : Fragment} (h : compile c leaf e = .ok f) :
    compile c leaf (.negation e) = Group.negate f := by
  have hfold : compile c leaf (.negation e)
      = (compile c leaf e).bind fun f => (c.compile (.negation f)).result := rfl
  rw [hfold, h]
  rfl

/-- A group whose members are all compiled is the group of what they are compiled to. -/
theorem compile_group (k : Connective) {ms : List (Formula α)} {R : Formula α → Fragment → Prop}
    (h : ∀ m ∈ ms, ∃ f, compile c leaf m = .ok f ∧ R m f) :
    ∃ made : Formula α → Fragment, (∀ m ∈ ms, R m (made m)) ∧
      compile c leaf (.group k ms) = Group.combine k (ms.map made) := by
  let made : Formula α → Fragment := fun m => (compile c leaf m).toOption.getD .empty
  have hmade : ∀ m ∈ ms, compile c leaf m = .ok (made m) ∧ R m (made m) := by
    intro m hm
    obtain ⟨f, hf, hR⟩ := h m hm
    have hmf : made m = f := by simp only [made, hf, Except.toOption, Option.getD_some]
    rw [hmf]
    exact ⟨hf, hR⟩
  have hmembers : (ms.map (compile c leaf)).mapM id = .ok (ms.map made) := by
    clear h
    induction ms with
    | nil => rfl
    | cons m ms ih =>
        rw [List.map_cons, List.mapM_cons, ih fun x hx => hmade x (List.mem_cons_of_mem m hx),
          (hmade m List.mem_cons_self).1]
        rfl
  have hfold : compile c leaf (.group k ms) = ((ms.map (compile c leaf)).mapM id).bind
      fun fs => (c.compile (.group k fs)).result :=
    fold_group _ _ _ k ms
  refine ⟨made, fun m hm => (hmade m hm).2, ?_⟩
  rw [hfold, hmembers]
  rfl

end Formula
end CatalogQuery
