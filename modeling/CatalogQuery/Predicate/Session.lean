import CatalogQuery.Predicate.Basic

/-!
# Sessions

A compiler is at work for a whole session: predicates are compiled one after another, and the
requested order of the results may change between them.
-/

namespace CatalogQuery

/-- One step of a session. -/
inductive Step where
  | setSortPolicy (sortBy : Option SortBy)
  | predicate (p : Predicate)

namespace Session

/-- One step of a session. A change of the requested order has no answer. -/
def step (c : Compiler) : Step → Option Answer × Compiler
  | .setSortPolicy sortBy => (none, { c with sortBy })
  | .predicate p =>
    let out := c.compile p
    (some out.toAnswer, out.after)

/-- The compiler after several steps. -/
def run (c : Compiler) (steps : List Step) : Compiler :=
  steps.foldl (fun c s => (step c s).2) c

/-- The answers to the predicates among several steps, in order. -/
def answers (c : Compiler) : List Step → List Answer
  | [] => []
  | s :: steps => (step c s).1.toList ++ answers (step c s).2 steps

/-- The fragments that several steps result in. -/
def results (c : Compiler) (steps : List Step) : List Fragment :=
  (answers c steps).filterMap fun answer => answer.result.toOption

end Session
end CatalogQuery
