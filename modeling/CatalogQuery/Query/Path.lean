import CatalogQuery.Text.Case

/-!
# Path expressions

A path selects nodes of a structured document. Documents are indexed without namespaces, so paths
are searched without them too.

* `dropNamespaces`: the path without its `name:` prefixes; the name of an axis, which two colons
  follow, is kept. A name between quotes is not protected;
* `normalize`: in addition, only one kind of quote;
* `literal`: a text as a string literal of the path language, read back by `readLiteral`;
* `containing`: the path, limited to nodes with a phrase in their text.
-/

namespace CatalogQuery
namespace Path

/-! ## Namespaces -/

/-- The characters a namespace name is made of. -/
def isNameChar (c : Char) : Bool := c.isAlphanum || c == '_'

theorem isNameChar_colon : isNameChar ':' = false := by decide

/-- The rest of a path without namespaces, after the characters `name` that may turn out to be
one: a colon ends them, and they are dropped with it unless another colon follows. -/
def dropNamespacesFrom (name : Text) : Text → Text
  | [] => name
  | c :: r =>
    if isNameChar c then dropNamespacesFrom (name ++ [c]) r
    else if c = ':' ∧ name ≠ [] then
      if r.head? = some ':' then name ++ ':' :: dropNamespacesFrom [] r
      else dropNamespacesFrom [] r
    else name ++ c :: dropNamespacesFrom [] r

/-- A path without its namespace prefixes. -/
def dropNamespaces (path : Text) : Text := dropNamespacesFrom [] path

/-- A path as it is searched: with single quotes only, and without namespaces. -/
def normalize (path : Text) : Text := dropNamespaces (Text.replaceChar '"' ['\''] path)

variable {c : Char} {name r : Text}

@[simp] theorem dropNamespacesFrom_nil (name : Text) : dropNamespacesFrom name [] = name := rfl

/-- A name goes on. -/
theorem dropNamespacesFrom_nameChar (h : isNameChar c = true) (name r : Text) :
    dropNamespacesFrom name (c :: r) = dropNamespacesFrom (name ++ [c]) r := by
  rw [dropNamespacesFrom, if_pos h]

/-- Two colons behind a name: it is an axis. -/
theorem dropNamespacesFrom_axis (h : name ≠ []) (hr : r.head? = some ':') :
    dropNamespacesFrom name (':' :: r) = name ++ ':' :: dropNamespacesFrom [] r := by
  rw [dropNamespacesFrom, if_neg (by decide), if_pos ⟨rfl, h⟩, if_pos hr]

/-- One colon behind a name: it is a namespace. -/
theorem dropNamespacesFrom_namespace (h : name ≠ []) (hr : r.head? ≠ some ':') :
    dropNamespacesFrom name (':' :: r) = dropNamespacesFrom [] r := by
  rw [dropNamespacesFrom, if_neg (by decide), if_pos ⟨rfl, h⟩, if_neg hr]

/-- Any other character ends a name, and so does a colon that has no name before it. -/
theorem dropNamespacesFrom_end (hc : isNameChar c = false) (h : c = ':' → name = []) (r : Text) :
    dropNamespacesFrom name (c :: r) = name ++ c :: dropNamespacesFrom [] r := by
  rw [dropNamespacesFrom, if_neg (by simp [hc]), if_neg fun hcolon => hcolon.2 (h hcolon.1)]

/-- Nothing is added when namespaces are dropped. -/
theorem mem_of_mem_dropNamespacesFrom {x : Char} {name path : Text}
    (h : x ∈ dropNamespacesFrom name path) : x ∈ name ∨ x ∈ path := by
  induction path generalizing name with
  | nil => exact Or.inl h
  | cons c r ih =>
      unfold dropNamespacesFrom at h
      split at h
      · rcases ih h with hname | hr
        · rcases List.mem_append.mp hname with hname | hc
          · exact Or.inl hname
          · exact Or.inr (List.mem_singleton.mp hc ▸ List.mem_cons_self)
        · exact Or.inr (List.mem_cons_of_mem c hr)
      · have later : x ∈ dropNamespacesFrom [] r → x ∈ c :: r := fun hx =>
          List.mem_cons_of_mem c ((ih hx).resolve_left (by simp))
        split at h
        · next hcolon =>
          split at h
          · rcases List.mem_append.mp h with hname | htail
            · exact Or.inl hname
            · rcases List.mem_cons.mp htail with rfl | hx
              · exact Or.inr (hcolon.1 ▸ List.mem_cons_self)
              · exact Or.inr (later hx)
          · exact Or.inr (later h)
        · rcases List.mem_append.mp h with hname | htail
          · exact Or.inl hname
          · rcases List.mem_cons.mp htail with rfl | hx
            · exact Or.inr List.mem_cons_self
            · exact Or.inr (later hx)

/-- A character of a normalized path is a character of the path, if it is not a quote. -/
theorem mem_of_mem_normalize {x : Char} {path : Text} (h : x ∈ normalize path) (hx : x ≠ '\'') :
    x ∈ path :=
  (Text.mem_replaceChar ((mem_of_mem_dropNamespacesFrom h).resolve_left (by simp))).resolve_left
    (by simpa using hx)

/-! ## Literals -/

/-- A string literal: between single quotes, each single quote inside written twice. -/
def literal (t : Text) : Text := '\'' :: Text.replaceChar '\'' ['\'', '\''] t ++ ['\'']

/-- The inside of a string literal up to its closing quote, and what follows. -/
def readLiteralBody : Text → Option (Text × Text)
  | [] => none
  | '\'' :: '\'' :: r => (readLiteralBody r).map fun p => ('\'' :: p.1, p.2)
  | c :: r =>
    if c = '\'' then some ([], r) else (readLiteralBody r).map fun p => (c :: p.1, p.2)

/-- A string literal at the front of a text, and what follows. -/
def readLiteral : Text → Option (Text × Text)
  | '\'' :: r => readLiteralBody r
  | _ => none

/-! ## Phrases -/

/-- The path, limited to nodes whose text contains a phrase. -/
def containing (path phrase : Text) (caseSensitive : Bool) : Text :=
  if caseSensitive then path ++ "[contains(., ".toList ++ literal phrase ++ ")]".toList
  else path ++ "[contains(lower-case(.), ".toList ++ literal (Text.lower phrase) ++ ")]".toList

/-! ## Reading a literal back -/

theorem readLiteralBody_plain {c : Char} (h : c ≠ '\'') (r : Text) :
    readLiteralBody (c :: r) = (readLiteralBody r).map fun p => (c :: p.1, p.2) := by
  rw [readLiteralBody.eq_def]
  split <;> simp_all

theorem readLiteralBody_close {r : Text} (h : r.head? ≠ some '\'') :
    readLiteralBody ('\'' :: r) = some ([], r) := by
  cases r with
  | nil => rfl
  | cons c r =>
      have hc : c ≠ '\'' := by simpa using h
      rw [readLiteralBody.eq_def]
      split
      · next heq => exact absurd heq (by simp)
      · next heq => exact absurd (List.cons.inj (List.cons.inj heq).2).1 hc
      · next heq =>
          obtain ⟨rfl, rfl⟩ := List.cons.inj heq
          rw [if_pos rfl]

/-- A string literal reads back, unless another single quote follows it. -/
theorem readLiteral_literal (t : Text) {rest : Text} (h : rest.head? ≠ some '\'') :
    readLiteral (literal t ++ rest) = some (t, rest) := by
  have body : ∀ t : Text, readLiteralBody
      (Text.replaceChar '\'' ['\'', '\''] t ++ ('\'' :: rest)) = some (t, rest) := by
    intro t
    induction t with
    | nil => exact readLiteralBody_close h
    | cons c t ih =>
        rw [Text.replaceChar_cons, List.append_assoc]
        by_cases hc : c = '\''
        · subst hc
          rw [if_pos rfl]
          simp only [List.cons_append, List.nil_append, readLiteralBody, ih, Option.map_some]
        · rw [if_neg hc, List.cons_append, List.nil_append, readLiteralBody_plain hc, ih]
          rfl
  have e : literal t ++ rest
      = '\'' :: (Text.replaceChar '\'' ['\'', '\''] t ++ ('\'' :: rest)) := by simp [literal]
  rw [e]
  exact body t

end Path
end CatalogQuery
