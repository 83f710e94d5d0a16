import CatalogQuery.Predicate.Values
import CatalogQuery.Query.Path

/-!
# Searches by path

A path predicate is a path filter. With a phrase, the query itself also looks for the phrase in
the field of the whole document, so that the filter has fewer documents to test.
-/

namespace CatalogQuery
namespace Compiler

/-- The path selects a node, one with a phrase in its text if there is a phrase. A blank phrase
counts for none. -/
def pathSearch (c : Compiler) (path : Text) (sought : Option Text) (caseSensitive : Bool) :
    Except CompileError Fragment :=
  if Text.isBlank path then .error .pathRequired
  else
    match sought.filter fun t => !Text.isBlank t with
    | none => .ok { query := Fragment.matchAll, filters := [.path (Path.normalize path)] }
    | some t =>
      (c.field c.settings.metadataProperty .string false).map fun f =>
        { query := clause f (phrase (Text.replaceChar '"' ['\\', '"'] t))
          filters := [.path (Path.containing (Path.normalize path) t caseSensitive)] }

end Compiler
end CatalogQuery
