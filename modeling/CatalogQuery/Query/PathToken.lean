import CatalogQuery.Query.Connective

/-!
# Tokens of path conditions

A condition in the path language is made of paths, the words `and` and `or`, and parentheses. A path
may have white space in it, and what is in its brackets belongs to it, as do the parentheses behind
the name of a function.

The same word may be a connective or the name of an element. As in the path language, what comes
before decides: a name is an operator only behind something that a path can end with. So `/ and //b`
is a single path.

* `PathToken.lexemes`: names, literals and single characters;
* `PathToken.tokens`: connectives and parentheses of groups, told from the parts of paths;
* `PathToken.tokens_connective`, `tokens_parentheses`: a connective between texts and parentheses
  around a text stand between and around their tokens.
-/

namespace CatalogQuery

/-- What a condition consists of. -/
inductive Lexeme where
  /-- A name or a number. -/
  | name (w : Text)
  /-- A text between quotes. -/
  | literal (w : Text)
  | symbol (c : Char)
  deriving DecidableEq, Repr

/-- A token of a condition. -/
inductive PathToken where
  | opening
  | closing
  | connective (k : Connective)
  /-- The first part of a path. -/
  | first (x : Lexeme)
  /-- Another part of the same path. -/
  | further (x : Lexeme)
  deriving DecidableEq, Repr

namespace PathToken

/-! ## Lexemes -/

/-- White space of the path language. -/
def isSpace (c : Char) : Bool := c == ' ' || c == '\t' || c == '\r' || c == '\n'

/-- Does a name go on with a character? It does not begin with a hyphen. -/
def goesOn (name : Text) (c : Char) : Bool :=
  c.isAlphanum || c == '_' || c == '.' || decide (0x80 ≤ c.toNat) || (c == '-' && !name.isEmpty)

/-- A name, if it has any characters. -/
def nameLexeme : Text → List Lexeme
  | [] => []
  | c :: r => [.name (c :: r)]

/-- A character that is not in a name nor in a literal. -/
def symbolLexeme (c : Char) : List Lexeme := if isSpace c then [] else [.symbol c]

/-- The lexemes of a text behind the beginning of a literal or of a name. There are none if a
literal does not end. -/
def lexemesFrom : Option Char → Text → Text → Option (List Lexeme)
  | none, name, [] => some (nameLexeme name)
  | some _, _, [] => none
  | none, name, c :: r =>
    if goesOn name c then lexemesFrom none (name ++ [c]) r
    else if c = '\'' ∨ c = '"' then (lexemesFrom (some c) [] r).map (nameLexeme name ++ ·)
    else (lexemesFrom none [] r).map (nameLexeme name ++ symbolLexeme c ++ ·)
  | some quote, literal, c :: r =>
    if c = quote then (lexemesFrom none [] r).map (.literal literal :: ·)
    else lexemesFrom (some quote) (literal ++ [c]) r

/-- The lexemes of a text. -/
def lexemes (t : Text) : Option (List Lexeme) := lexemesFrom none [] t

/-- A character that is never in a name and begins no literal. -/
def IsBreak (c : Char) : Prop := (∀ name, goesOn name c = false) ∧ c ≠ '\'' ∧ c ≠ '"'

/-- Such a character stands between the lexemes before and behind it. -/
theorem lexemesFrom_append {quote : Option Char} {begun t r : Text} {c : Char} {xs : List Lexeme}
    (hc : IsBreak c) (ht : lexemesFrom quote begun t = some xs) :
    lexemesFrom quote begun (t ++ c :: r) = (lexemes r).map (xs ++ symbolLexeme c ++ ·) := by
  have hquote : ¬(c = '\'' ∨ c = '"') := not_or.mpr hc.2
  fun_induction lexemesFrom quote begun t generalizing xs with
  | case1 name =>
      cases ht
      rw [List.nil_append, lexemesFrom, if_neg (by simp [hc.1]), if_neg hquote]
      rfl
  | case2 => cases ht
  | case3 name x t hx ih =>
      rw [List.cons_append, lexemesFrom, if_pos hx]
      exact ih ht
  | case4 name x t hx hq ih =>
      obtain ⟨ys, hys, rfl⟩ := Option.map_eq_some_iff.mp ht
      rw [List.cons_append, lexemesFrom, if_neg hx, if_pos hq, ih hys, Option.map_map]
      simp [Function.comp_def]
  | case5 name x t hx hq ih =>
      obtain ⟨ys, hys, rfl⟩ := Option.map_eq_some_iff.mp ht
      rw [List.cons_append, lexemesFrom, if_neg hx, if_neg hq, ih hys, Option.map_map]
      simp [Function.comp_def]
  | case6 quote literal t ih =>
      obtain ⟨ys, hys, rfl⟩ := Option.map_eq_some_iff.mp ht
      rw [List.cons_append, lexemesFrom, if_pos rfl, ih hys, Option.map_map]
      simp [Function.comp_def]
  | case7 quote literal x t hx ih =>
      rw [List.cons_append, lexemesFrom, if_neg hx]
      exact ih ht

theorem isBreak_space : IsBreak ' ' := ⟨fun _ => rfl, by decide, by decide⟩

theorem isBreak_closing : IsBreak ')' := ⟨fun _ => rfl, by decide, by decide⟩

theorem lexemes_space {t r : Text} {xs : List Lexeme} (ht : lexemes t = some xs) :
    lexemes (t ++ ' ' :: r) = (lexemes r).map (xs ++ ·) := by
  rw [lexemes, lexemesFrom_append isBreak_space ht]
  simp [symbolLexeme, isSpace]

theorem lexemes_closing {t : Text} {xs : List Lexeme} (ht : lexemes t = some xs) :
    lexemes (t ++ [')']) = some (xs ++ [.symbol ')']) := by
  have hnil : lexemes [] = some [] := rfl
  rw [lexemes, lexemesFrom_append isBreak_closing ht, hnil]
  simp [symbolLexeme, isSpace]

theorem lexemes_opening (r : Text) : lexemes ('(' :: r) = (lexemes r).map (.symbol '(' :: ·) := rfl

theorem lexemes_word (k : Connective) : lexemes k.pathKeyword = some [.name k.pathKeyword] := by
  cases k <;> rfl

/-! ## Tokens -/

/-- Where a lexeme stands. -/
inductive Spot where
  /-- Where a path begins. -/
  | start
  /-- Within a path that goes on. -/
  | within
  /-- Behind a path that may have ended. -/
  | behind
  /-- In brackets within a path, inside of so many others. -/
  | bracketed (depth : Nat)
  deriving DecidableEq, Repr

/-- The spot behind a part of a path. A name behind a path is an operator, and so is a star. -/
def Spot.after : Spot → Lexeme → Spot
  | .bracketed d, .symbol c =>
    if c = '(' ∨ c = '[' then .bracketed (d + 1)
    else if c = ')' ∨ c = ']' then
      match d with
      | 0 => .behind
      | d + 1 => .bracketed d
    else .bracketed d
  | .bracketed d, _ => .bracketed d
  | s, .symbol c =>
    if c = '(' ∨ c = '[' then .bracketed 0
    else if c = '*' ∧ s ≠ .behind then .behind
    else .within
  | .behind, .name _ => .within
  | _, _ => .behind

/-- A lexeme as a token, and the spot behind it. -/
def ofLexeme : Spot → Lexeme → PathToken × Spot
  | .start, x => if x = .symbol '(' then (.opening, .start) else (.first x, Spot.start.after x)
  | .behind, .symbol c =>
    if c = ')' then (.closing, .behind) else (.further (.symbol c), Spot.behind.after (.symbol c))
  | .behind, .name w =>
    match Connective.ofName? w with
    | some k => (.connective k, .start)
    | none => (.further (.name w), .within)
  | s, x => (.further x, s.after x)

/-- The tokens of lexemes from some spot on. There are none if a path is missing at the end or goes
on there. -/
def ofLexemes : Spot → List Lexeme → Option (List PathToken)
  | s, [] => if s = .behind then some [] else none
  | s, x :: xs => (ofLexemes (ofLexeme s x).2 xs).map ((ofLexeme s x).1 :: ·)

/-- The tokens of a condition. -/
def tokens (t : Text) : Option (List PathToken) := (lexemes t).bind (ofLexemes .start)

theorem ofLexemes_append {s : Spot} {xs ys : List Lexeme} {ts : List PathToken}
    (h : ofLexemes s xs = some ts) :
    ofLexemes s (xs ++ ys) = (ofLexemes .behind ys).map (ts ++ ·) := by
  induction xs generalizing s ts with
  | nil =>
      rw [ofLexemes] at h
      split at h
      · next hs =>
        cases h
        rw [hs]
        simp
      · cases h
  | cons x xs ih =>
      rw [ofLexemes] at h
      obtain ⟨us, hus, rfl⟩ := Option.map_eq_some_iff.mp h
      rw [List.cons_append, ofLexemes, ih hus, Option.map_map]
      rfl

/-- A connective behind a condition is read as one, and a condition is read behind it. -/
theorem tokens_connective {t : Text} {ts : List PathToken} (ht : tokens t = some ts)
    (k : Connective) (r : Text) :
    tokens (t ++ (' ' :: k.pathKeyword ++ [' ']) ++ r)
      = (tokens r).map (ts ++ .connective k :: ·) := by
  obtain ⟨xs, hxs, hts⟩ := Option.bind_eq_some_iff.mp ht
  have hword : lexemes (k.pathKeyword ++ ' ' :: r)
      = (lexemes r).map (.name k.pathKeyword :: ·) := lexemes_space (lexemes_word k)
  have hlexemes : lexemes (t ++ (' ' :: k.pathKeyword ++ [' ']) ++ r)
      = (lexemes r).map (xs ++ .name k.pathKeyword :: ·) := by
    have htext : t ++ (' ' :: k.pathKeyword ++ [' ']) ++ r
        = t ++ ' ' :: (k.pathKeyword ++ ' ' :: r) := by simp
    rw [htext, lexemes_space hxs, hword, Option.map_map]
    rfl
  have hrest : ∀ ys, ofLexemes .start (xs ++ .name k.pathKeyword :: ys)
      = (ofLexemes .start ys).map (ts ++ .connective k :: ·) := by
    intro ys
    rw [ofLexemes_append hts, ofLexemes, ofLexeme, Connective.ofName?_pathKeyword,
      Option.map_map]
    rfl
  rw [tokens, hlexemes, tokens]
  cases lexemes r with
  | none => rfl
  | some ys => exact hrest ys

/-- The name of an element may be the word for a connective. -/
example : tokens "and and//b[x or y]/ or".toList = some
    [.first (.name "and".toList), .connective .and, .first (.symbol '/'), .further (.symbol '/'),
      .further (.name "b".toList), .further (.symbol '['), .further (.name "x".toList),
      .further (.name "or".toList), .further (.name "y".toList), .further (.symbol ']'),
      .further (.symbol '/'), .further (.name "or".toList)] := by decide

/-- Parentheses around a condition are read as a group. -/
theorem tokens_parentheses {t : Text} {ts : List PathToken} (ht : tokens t = some ts) :
    tokens ('(' :: t ++ [')']) = some (.opening :: ts ++ [.closing]) := by
  obtain ⟨xs, hxs, hts⟩ := Option.bind_eq_some_iff.mp ht
  have hlexemes : lexemes ('(' :: t ++ [')']) = some (.symbol '(' :: (xs ++ [.symbol ')'])) := by
    rw [List.cons_append, lexemes_opening, lexemes_closing hxs]
    rfl
  have hclosing : ofLexemes .start (xs ++ [.symbol ')'])
      = (ofLexemes .behind [.symbol ')']).map (ts ++ ·) := ofLexemes_append hts
  rw [tokens, hlexemes, Option.bind_some, ofLexemes, ofLexeme, if_pos rfl, hclosing]
  rfl

end PathToken
end CatalogQuery
