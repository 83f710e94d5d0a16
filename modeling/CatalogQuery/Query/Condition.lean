import CatalogQuery.Query.PathToken

/-!
# Path conditions

Conditions in the path language: `and` binds tighter than `or`, and parentheses group. The grammar
is the data: a disjunction of conjunctions of paths and of conditions in parentheses.

* `Disjunction.tokens`: how a condition is written, `Disjunction.value`: whether it holds, given
  which paths select something;
* `Reads`: a text is written as a condition, which is the only one (`Reads.unique`);
* `Disjunction.join`: what texts of two conditions with a connective between them are read as
  (`reads_join`). For `or` it is their disjunction (`value_join_or`). For `and` it is a conjunction
  of the last part of the one with the first part of the other;
* `exists_reads_group`: a group of texts is read as a condition, and when it holds as the group of
  their conditions does.
-/

namespace CatalogQuery
namespace Condition

mutual

/-- A path of one part or more, or a condition in parentheses. -/
inductive Operand where
  | path (x : Lexeme) (more : List Lexeme)
  | group (d : Disjunction)

/-- Operands with `and` between them. -/
inductive Conjunction where
  | single (o : Operand)
  | and (c : Conjunction) (o : Operand)

/-- Conjunctions with `or` between them. -/
inductive Disjunction where
  | single (c : Conjunction)
  | or (d : Disjunction) (c : Conjunction)

end

instance : Inhabited Disjunction := ⟨.single (.single (.path (.name []) []))⟩

/-! ## Writing -/

mutual

/-- An operand as it is written. -/
def Operand.tokens : Operand → List PathToken
  | .path x xs => .first x :: xs.map .further
  | .group d => .opening :: d.tokens ++ [.closing]

/-- A conjunction as it is written. -/
def Conjunction.tokens : Conjunction → List PathToken
  | .single o => o.tokens
  | .and c o => c.tokens ++ .connective .and :: o.tokens

/-- A condition as it is written. -/
def Disjunction.tokens : Disjunction → List PathToken
  | .single c => c.tokens
  | .or d c => d.tokens ++ .connective .or :: c.tokens

end

/-- A text is written as a condition. -/
def Reads (t : Text) (d : Disjunction) : Prop := PathToken.tokens t = some d.tokens

instance (t : Text) (d : Disjunction) : Decidable (Reads t d) :=
  inferInstanceAs (Decidable (_ = _))

/-! ## Values -/

section

-- Which paths, by their parts, select something.
variable (v : List Lexeme → Bool)

mutual

/-- Does an operand hold? -/
def Operand.value : Operand → Bool
  | .path x xs => v (x :: xs)
  | .group d => d.value

/-- Does a conjunction hold? -/
def Conjunction.value : Conjunction → Bool
  | .single o => o.value
  | .and c o => c.value && o.value

/-- Does a condition hold? -/
def Disjunction.value : Disjunction → Bool
  | .single c => c.value
  | .or d c => d.value || c.value

end

end

/-! ## Reading -/

/-- The parts of a condition that have been read on one level of parentheses: the conjunctions that
are complete, and the one that may go on. -/
structure Level where
  complete : Option Disjunction := none
  current : Option Conjunction := none

namespace Level

/-- An operand behind what has been read. -/
def add (l : Level) (o : Operand) : Level :=
  match l.current with
  | none => { l with current := some (.single o) }
  | some c => { l with current := some (.and c o) }

/-- The condition that has been read. -/
def whole? (l : Level) : Option Disjunction :=
  match l.complete, l.current with
  | d, none => d
  | none, some c => some (.single c)
  | some d, some c => some (.or d c)

/-- What has been read up to the end of a condition. -/
def upTo : Disjunction → Level
  | .single c => { current := some c }
  | .or d c => { complete := some d, current := some c }

@[simp] theorem whole?_upTo (d : Disjunction) : (upTo d).whole? = some d := by
  cases d <;> rfl

end Level

/-- An operand with one more part. -/
def Operand.extend (y : Lexeme) : Operand → Operand
  | .path x xs => .path x (xs ++ [y])
  | o => o

/-- A conjunction with one more part in its last operand. -/
def Conjunction.extend (y : Lexeme) : Conjunction → Conjunction
  | .single o => .single (o.extend y)
  | .and c o => .and c (o.extend y)

/-- A level and those around it, from the inside out. -/
abbrev Levels := Level × List Level

/-- Read a token. -/
def read (s : Levels) : PathToken → Levels
  | .first x => (s.1.add (.path x []), s.2)
  | .further y => ({ s.1 with current := s.1.current.map (·.extend y) }, s.2)
  | .connective .and => s
  | .connective .or => ({ complete := s.1.whole? }, s.2)
  | .opening => ({}, s.1 :: s.2)
  | .closing =>
    match s.2, s.1.whole? with
    | l :: outer, some d => (l.add (.group d), outer)
    | _, _ => s

/-- Read tokens. -/
def readAll (s : Levels) (ts : List PathToken) : Levels := ts.foldl read s

theorem readAll_append (s : Levels) (ts us : List PathToken) :
    readAll s (ts ++ us) = readAll (readAll s ts) us :=
  List.foldl_append

theorem readAll_cons (s : Levels) (t : PathToken) (ts : List PathToken) :
    readAll s (t :: ts) = readAll (read s t) ts := rfl

theorem readAll_further (l : Level) (outer : List Level) (x : Lexeme) (xs ys : List Lexeme) :
    readAll (l.add (.path x xs), outer) (ys.map .further)
      = (l.add (.path x (xs ++ ys)), outer) := by
  induction ys generalizing xs with
  | nil => simp [readAll]
  | cons y ys ih =>
      have hstep : read (l.add (.path x xs), outer) (.further y)
          = (l.add (.path x (xs ++ [y])), outer) := by
        simp only [read, Level.add]
        split <;> rfl
      rw [List.map_cons, readAll_cons, hstep, ih]
      simp

mutual

/-- What is written for an operand is read as it. -/
theorem readAll_operand : (o : Operand) → (l : Level) → (outer : List Level) →
    readAll (l, outer) o.tokens = (l.add o, outer)
  | .path x xs, l, outer => by
      rw [Operand.tokens, readAll_cons]
      exact readAll_further l outer x [] xs
  | .group d, l, outer => by
      rw [Operand.tokens, List.cons_append, readAll_cons, readAll_append]
      show readAll (readAll ({}, l :: outer) d.tokens) [.closing] = _
      rw [readAll_disjunction d (l :: outer)]
      simp [readAll, read]

/-- What is written for a conjunction is read as it. -/
theorem readAll_conjunction : (c : Conjunction) → (complete : Option Disjunction) →
    (outer : List Level) →
    readAll ({ complete }, outer) c.tokens = ({ complete, current := some c }, outer)
  | .single o, complete, outer => by
      rw [Conjunction.tokens, readAll_operand o]
      rfl
  | .and c o, complete, outer => by
      rw [Conjunction.tokens, readAll_append, readAll_conjunction c complete outer, readAll_cons]
      show readAll ({ complete, current := some c }, outer) o.tokens = _
      rw [readAll_operand o]
      rfl

/-- What is written for a condition is read as it. -/
theorem readAll_disjunction : (d : Disjunction) → (outer : List Level) →
    readAll ({}, outer) d.tokens = (Level.upTo d, outer)
  | .single c, outer => readAll_conjunction c none outer
  | .or d c, outer => by
      rw [Disjunction.tokens, readAll_append, readAll_disjunction d outer, readAll_cons]
      show readAll ({ complete := (Level.upTo d).whole? }, outer) c.tokens = _
      rw [Level.whole?_upTo, readAll_conjunction c (some d) outer]
      rfl

end

theorem tokens_injective {d e : Disjunction} (h : d.tokens = e.tokens) : d = e := by
  have hlevels : (Level.upTo d, ([] : List Level)) = (Level.upTo e, []) := by
    rw [← readAll_disjunction d [], h, readAll_disjunction e []]
  have hwhole := congrArg Level.whole? (Prod.mk.inj hlevels).1
  simpa using hwhole

/-- A text is written as one condition at most. -/
theorem Reads.unique {t : Text} {d e : Disjunction} (hd : Reads t d) (he : Reads t e) : d = e :=
  tokens_injective (Option.some.inj (hd.symm.trans he))

theorem Reads.iff_eq {t : Text} {d e : Disjunction} (hd : Reads t d) : Reads t e ↔ e = d :=
  ⟨fun he => he.unique hd, fun he => he ▸ hd⟩

/-! ## Joining -/

/-- Two conjunctions as one. -/
def Conjunction.append (c : Conjunction) : Conjunction → Conjunction
  | .single o => .and c o
  | .and c' o => .and (c.append c') o

/-- A condition with a conjunction behind it, which goes on with its last part. -/
def Disjunction.andThen (c : Conjunction) : Disjunction → Disjunction
  | .single c' => .single (c'.append c)
  | .or d c' => .or d (c'.append c)

/-- Two conditions with a connective between them, as they are read. -/
def Disjunction.join (k : Connective) (d : Disjunction) : Disjunction → Disjunction
  | .single c =>
    match k with
    | .and => d.andThen c
    | .or => .or d c
  | .or e c => .or (d.join k e) c

theorem Conjunction.tokens_append (c : Conjunction) : (c' : Conjunction) →
    (c.append c').tokens = c.tokens ++ .connective .and :: c'.tokens
  | .single o => by rw [append, tokens, tokens]
  | .and c' o => by
      rw [append, tokens, tokens_append c c', tokens, List.append_assoc, List.cons_append]

theorem Disjunction.tokens_andThen (c : Conjunction) (d : Disjunction) :
    (d.andThen c).tokens = d.tokens ++ .connective .and :: c.tokens := by
  cases d with
  | single c' => rw [andThen, tokens, tokens, Conjunction.tokens_append]
  | or d c' =>
      rw [andThen, tokens, tokens, Conjunction.tokens_append, List.append_assoc, List.cons_append]

theorem Disjunction.tokens_join (k : Connective) (d : Disjunction) : (e : Disjunction) →
    (d.join k e).tokens = d.tokens ++ .connective k :: e.tokens
  | .single c => by
      cases k with
      | and => rw [join, tokens_andThen, tokens]
      | or => rw [join, tokens, tokens]
  | .or e c => by
      rw [join, tokens, tokens_join k d e, tokens, List.append_assoc, List.cons_append]

/-- Texts with a connective between them are read as the conditions, joined. -/
theorem reads_join {s t : Text} {d e : Disjunction} (hs : Reads s d) (ht : Reads t e)
    (k : Connective) : Reads (s ++ (' ' :: k.pathKeyword ++ [' ']) ++ t) (d.join k e) := by
  rw [Reads, PathToken.tokens_connective hs, ht, Disjunction.tokens_join]
  rfl

example : Reads "a or b and not(c or d)".toList
    (.or (.single (.single (.path (.name "a".toList) [])))
      (.and (.single (.path (.name "b".toList) []))
        (.path (.name "not".toList) [.symbol '(', .name "c".toList, .name "or".toList,
          .name "d".toList, .symbol ')']))) := by decide

/-- A text in parentheses is read as a group. -/
theorem reads_parentheses {t : Text} {d : Disjunction} (h : Reads t d) :
    Reads ('(' :: t ++ [')']) (.single (.single (.group d))) := by
  rw [Reads, PathToken.tokens_parentheses h]
  rfl

/-- Several conditions with a connective between them, as they are read. -/
def Disjunction.joinAll (k : Connective) (d : Disjunction) : List Disjunction → Disjunction
  | [] => d
  | e :: es => d.join k (e.joinAll k es)

theorem reads_joinAll (k : Connective) {t : Text} {ts : List Text} {read : Text → Disjunction}
    (h : ∀ s ∈ t :: ts, Reads s (read s)) :
    Reads (Text.join (' ' :: k.pathKeyword ++ [' ']) (t :: ts))
      ((read t).joinAll k (ts.map read)) := by
  induction ts generalizing t with
  | nil => exact h t (List.mem_singleton_self t)
  | cons u us ih =>
      obtain ⟨ht, hrest⟩ := List.forall_mem_cons.mp h
      rw [Text.join_cons_cons]
      exact reads_join ht (ih hrest) k

/-! ## Values of joined conditions -/

/-- Has a condition no `or` outside of parentheses? -/
def Disjunction.IsConjunction (d : Disjunction) : Prop := ∃ c, d = .single c

section

variable {v : List Lexeme → Bool}

theorem value_append (c : Conjunction) : (c' : Conjunction) →
    (c.append c').value v = (c.value v && c'.value v)
  | .single o => by rw [Conjunction.append, Conjunction.value, Conjunction.value]
  | .and c' o => by
      rw [Conjunction.append, Conjunction.value, value_append c c', Conjunction.value,
        Bool.and_assoc]

/-- A disjunction of conditions holds when one of them does. -/
theorem value_join_or (d : Disjunction) : (e : Disjunction) →
    (d.join .or e).value v = (d.value v || e.value v)
  | .single c => by rw [Disjunction.join, Disjunction.value, Disjunction.value]
  | .or e c => by
      rw [Disjunction.join, Disjunction.value, value_join_or d e, Disjunction.value, Bool.or_assoc]

theorem value_joinAll_or (d : Disjunction) (ds : List Disjunction) :
    (d.joinAll .or ds).value v = (d.value v || ds.any (·.value v)) := by
  induction ds generalizing d with
  | nil => simp [Disjunction.joinAll]
  | cons e es ih => rw [Disjunction.joinAll, value_join_or, ih, List.any_cons]

/-- Conjunctions joined by `and` are a conjunction, which holds when all of them do. -/
theorem exists_joinAll_and (c : Conjunction) {ds : List Disjunction}
    (h : ∀ e ∈ ds, e.IsConjunction) :
    ∃ c', (Disjunction.single c).joinAll .and ds = .single c' ∧
      c'.value v = (c.value v && ds.all (·.value v)) := by
  induction ds generalizing c with
  | nil => exact ⟨c, rfl, by simp⟩
  | cons e es ih =>
      obtain ⟨⟨c₁, rfl⟩, hes⟩ := List.forall_mem_cons.mp h
      obtain ⟨c₂, hc₂, hvalue⟩ := ih c₁ hes
      refine ⟨c.append c₂, ?_, ?_⟩
      · rw [Disjunction.joinAll, hc₂]
        rfl
      · rw [value_append, hvalue, List.all_cons, Disjunction.value]

/-- Joined conditions hold when the conditions do, joined, if the connective is `or` or none of them
has an `or` outside of parentheses. -/
theorem value_joinAll {k : Connective} {d : Disjunction} {ds : List Disjunction}
    (h : k = .or ∨ ∀ e ∈ d :: ds, e.IsConjunction) :
    (d.joinAll k ds).value v = k.value ((d :: ds).map (·.value v)) := by
  cases k with
  | or =>
      rw [value_joinAll_or]
      simp [Connective.value]
  | and =>
      obtain ⟨⟨c, rfl⟩, hds⟩ := List.forall_mem_cons.mp (h.resolve_left (by decide))
      obtain ⟨c', hc', hvalue⟩ := exists_joinAll_and (v := v) c hds
      rw [hc', Disjunction.value, hvalue]
      simp [Connective.value, Disjunction.value]

end

/-- A group of texts is read as a condition, which holds when theirs do, joined, if the connective
is `or` or none of them has an `or` outside of parentheses. -/
theorem exists_reads_group (k : Connective) {ts : List Text} (hne : ts ≠ [])
    {read : Text → Disjunction} (h : ∀ s ∈ ts, Reads s (read s)) :
    ∃ d, Reads (Connective.group k.pathKeyword ts) d ∧
      (k = .or ∨ (∀ s ∈ ts, (read s).IsConjunction) →
        ∀ v, d.value v = k.value (ts.map fun s => (read s).value v)) := by
  obtain ⟨t, ts, rfl⟩ := List.exists_cons_of_ne_nil hne
  refine ⟨_, reads_parentheses (reads_joinAll k h), fun hk v => ?_⟩
  have hall : k = .or ∨ ∀ e ∈ read t :: ts.map read, e.IsConjunction := by
    refine hk.imp_right fun hconj => ?_
    rw [← List.map_cons]
    exact List.forall_mem_map.mpr hconj
  rw [Disjunction.value, Conjunction.value, Operand.value, value_joinAll hall]
  simp [Function.comp_def]

end Condition
end CatalogQuery
