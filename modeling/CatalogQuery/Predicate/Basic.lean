import CatalogQuery.Predicate.Groups
import CatalogQuery.Predicate.Paths
import CatalogQuery.Predicate.Places
import CatalogQuery.Predicate.Words

/-!
# Predicates

Every predicate that can be compiled, with what it is about. Groups and negations are about
fragments: a tree of predicates is compiled from its leaves up.
-/

namespace CatalogQuery

/-- A predicate on documents. -/
inductive Predicate where
  | group (connective : Connective) (operands : List Fragment)
  | negation (operand : Fragment)
  | equalsText (property literal : Text) (caseSensitive : Bool)
  | equalsDate (property : Text) (date : Instant)
  | equalsNumber (property : Text) (literal : Number)
  | equalsBool (property : Text) (literal : Bool)
  | compareDate (how : Comparison) (property : Text) (date : Instant)
  | compareNumber (how : Comparison) (property : Text) (literal : Number)
  | betweenDates (property : Text) (lower upper : Instant)
  | betweenNumbers (property : Text) (lower upper : Number)
  | before (property : Text) (date : Instant)
  | after (property : Text) (date : Instant)
  | during (property : Text) (start stop : Instant)
  | relative (property : Text) (millis : Int64) (now : Instant)
  | like (property pattern : Text) (caseSensitive : Bool)
  | fuzzy (property phrase : Text)
  | isNull (property : Text)
  | contains (property wkt : Text)
  | within (property wkt : Text)
  | disjoint (property wkt : Text)
  | overlaps (property wkt : Text)
  | intersects (property wkt : Text)
  | withinDistance (property wkt : Text) (meters : Float)
  | nearestTo (property wkt : Text)
  | pathExists (path : Text)
  | pathLike (path phrase : Text) (caseSensitive : Bool)
  | pathFuzzy (path phrase : Text)

namespace Predicate

/-- The property that a search by location is about. -/
def location? : Predicate → Option Text
  | contains p _ => some p
  | within p _ => some p
  | disjoint p _ => some p
  | overlaps p _ => some p
  | intersects p _ => some p
  | withinDistance p _ _ => some p
  | nearestTo p _ => some p
  | _ => none

end Predicate

namespace Compiler

/-- Compile a predicate. Path expressions have no fuzzy search, so a search for a phrase in any
letter case stands for it. -/
def compile (c : Compiler) : Predicate → Compiled
  | .group k operands =>
      let result := Group.combine k operands
      { result, log := if result.isOk then Group.events k operands else [], after := c }
  | .negation f => c.answering (Group.negate f)
  | .equalsText p l cs => c.answering (c.equalsText p l cs)
  | .equalsDate p d => c.answering (c.equalsDate p d)
  | .equalsNumber p n => c.answering (c.equalsNumber p n)
  | .equalsBool p b => c.answering (c.equalsBool p b)
  | .compareDate how p d => c.answering (c.compareDate how p d)
  | .compareNumber how p n => c.answering (c.compareNumber how p n)
  | .betweenDates p l u => c.answering (c.betweenDates p l u)
  | .betweenNumbers p l u => c.answering (c.betweenNumbers p l u)
  | .before p d => c.answering (c.compareDate .below p d)
  | .after p d => c.answering (c.compareDate .above p d)
  | .during p s e => c.answering (c.during p s e)
  | .relative p ms now => c.answering (c.relativeTo p ms now)
  | .like p t cs => c.answering (c.like p t cs)
  | .fuzzy p t => c.answering (c.fuzzy p t)
  | .isNull p => c.answering (c.isNull p)
  | .contains p w => c.spatial .contains p w
  | .within p w => c.spatial .isWithin p w
  | .disjoint p w => c.spatial .isDisjointTo p w
  | .overlaps p w => c.spatial .overlaps p w
  | .intersects p w => c.intersects p w
  | .withinDistance p w m => c.withinDistance p w m
  | .nearestTo p w => c.nearestTo p w
  | .pathExists x => c.answering (c.pathSearch x none true)
  | .pathLike x t cs => c.answering (c.pathSearch x (some t) cs)
  | .pathFuzzy x t => c.answering (c.pathSearch x (some t) false)

/-- Groups and negations know nothing of the schema and the settings. -/
@[simp] theorem result_group (c : Compiler) (k : Connective) (operands : List Fragment) :
    (c.compile (.group k operands)).result = Group.combine k operands := rfl

@[simp] theorem result_negation (c : Compiler) (operand : Fragment) :
    (c.compile (.negation operand)).result = Group.negate operand := rfl

end Compiler
end CatalogQuery
