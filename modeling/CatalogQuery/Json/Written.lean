import CatalogQuery.Json.Reader
import CatalogQuery.Json.Writer

/-!
# Reading what was written

A text is written for a value when the reader finds the value at the front of it, whatever follows.
A string is written so, whatever characters it has; an array and an object are, if their items and
their members are.

* `readString_string`: a string reads back;
* `Writes`: a text is written for a value;
* `writes_string`, `writes_array`, `writes_object`: the three ways to write a value;
* `read?_of_writes`: what is written for a value is a document of that value.
-/

namespace CatalogQuery
namespace Json

variable {c d e : Char} {n : Nat} {r s t : Text} {v : Value}

/-! ## Characters -/

/-- A character is written by a short escape, by its number, or as it is. -/
theorem encodeChar_cases (c : Char) :
    (∃ e, encodeChar c = ['\\', e] ∧ e ≠ 'u' ∧ shortEscape? e = some c) ∨
    (c.toNat < 0x20 ∧ encodeChar c =
      ['\\', 'u', '0', '0', hexChar (c.toNat / 16), hexChar (c.toNat % 16)]) ∨
    (0x20 ≤ c.toNat ∧ c ≠ '"' ∧ c ≠ '\\' ∧ encodeChar c = [c]) := by
  unfold encodeChar
  split
  · next h => exact Or.inl ⟨'"', rfl, by decide, by rw [h]; rfl⟩
  split
  · next h => exact Or.inl ⟨'\\', rfl, by decide, by rw [h]; rfl⟩
  split
  · next h => exact Or.inl ⟨'b', rfl, by decide, by rw [h]; rfl⟩
  split
  · next h => exact Or.inl ⟨'f', rfl, by decide, by rw [h]; rfl⟩
  split
  · next h => exact Or.inl ⟨'n', rfl, by decide, by rw [h]; rfl⟩
  split
  · next h => exact Or.inl ⟨'r', rfl, by decide, by rw [h]; rfl⟩
  split
  · next h => exact Or.inl ⟨'t', rfl, by decide, by rw [h]; rfl⟩
  split
  · next h => exact Or.inr (Or.inl ⟨h, rfl⟩)
  · next hquote hslash _ _ _ _ _ h =>
      exact Or.inr (Or.inr ⟨Nat.le_of_not_lt h, hquote, hslash, rfl⟩)

theorem hexDigit?_hexChar : ∀ n < 16, hexDigit? (hexChar n) = some n := by
  decide

/-- The number of a control character has two digits that matter. -/
theorem hexUnit?_hexChar (h : n < 0x20) :
    hexUnit? '0' '0' (hexChar (n / 16)) (hexChar (n % 16)) = some n := by
  have hzero : hexDigit? '0' = some 0 := rfl
  have hfirst := hexDigit?_hexChar (n / 16) (by omega)
  have hsecond := hexDigit?_hexChar (n % 16) (by omega)
  have hsum : ((0 * 16 + 0) * 16 + n / 16) * 16 + n % 16 = n := by omega
  simp only [hexUnit?, hzero, hfirst, hsecond, Option.bind_eq_bind, Option.bind_some, hsum]
  rfl

theorem readPieces_short (hu : e ≠ 'u') (h : shortEscape? e = some c) (r : Text) :
    readPieces ('\\' :: e :: r) = (readPieces r).map fun p => (.char c :: p.1, p.2) := by
  rw [readPieces, h]
  · cases readPieces r with
    | none => rfl
    | some p => rfl
  · intro _ _ _ _ _ he
    exact absurd he hu

theorem readPieces_unit (h : hexUnit? '0' '0' d e = some n) (r : Text) :
    readPieces ('\\' :: 'u' :: '0' :: '0' :: d :: e :: r) =
      (readPieces r).map fun p => (.unit n :: p.1, p.2) := by
  rw [readPieces, h]
  cases readPieces r with
  | none => rfl
  | some p => rfl

theorem readPieces_plain (hc : 0x20 ≤ c.toNat) (hquote : c ≠ '"') (hslash : c ≠ '\\') (r : Text) :
    readPieces (c :: r) = (readPieces r).map fun p => (.char c :: p.1, p.2) := by
  rw [readPieces, if_neg]
  · cases readPieces r with
    | none => rfl
    | some p => rfl
  · rintro (h | h)
    · omega
    · exact hslash h
  · exact hquote
  · intro _ _ _ _ _ h
    exact absurd h hslash
  · intro _ _ h
    exact absurd h hslash

/-- A unit that is no half of a surrogate pair is a character of its own. -/
theorem assemble_unit (h : n < 0xD800) (ps : List Piece) :
    assemble (.unit n :: ps) = (assemble ps).map (Char.ofNat n :: ·) := by
  have hhigh : ¬(0xD800 ≤ n ∧ n < 0xDC00) := by omega
  have hlow : ¬(0xDC00 ≤ n ∧ n < 0xE000) := by omega
  have hhalf : ¬(0xD800 ≤ n ∧ n < 0xE000) := by omega
  cases ps with
  | nil => simp only [assemble, if_neg hhalf]
  | cons p ps =>
      cases p with
      | char x => simp only [assemble, if_neg hhalf]
      | unit m => simp only [assemble, if_neg hhigh, if_neg hlow]

/-! ## Strings -/

/-- A piece that stands for one character puts it in front of the rest of the string. -/
theorem readString_of_readPieces {p : Piece}
    (hassemble : ∀ ps, assemble (p :: ps) = (assemble ps).map (c :: ·))
    (hread : readPieces t = (readPieces r).map fun q => (p :: q.1, q.2)) :
    readString t = (readString r).map fun q => (q.1.map (c :: ·), q.2) := by
  rw [readString, readString, hread, Option.map_map, Option.map_map]
  refine Option.map_congr fun q _ => ?_
  simp [hassemble]

/-- A character that was written is read, and the string goes on behind it. -/
theorem readString_encodeChar (c : Char) (r : Text) :
    readString (encodeChar c ++ r) =
      (readString r).map fun p => (p.1.map (c :: ·), p.2) := by
  rcases encodeChar_cases c with ⟨e, hc, hu, he⟩ | ⟨hlt, hc⟩ | ⟨hle, hquote, hslash, hc⟩
  · rw [hc]
    exact readString_of_readPieces (fun _ => rfl) (readPieces_short hu he r)
  · refine readString_of_readPieces (p := .unit c.toNat) (fun ps => ?_) ?_
    · rw [assemble_unit (by omega), Char.ofNat_toNat]
    · rw [hc]
      exact readPieces_unit (hexUnit?_hexChar hlt) r
  · rw [hc]
    exact readString_of_readPieces (fun _ => rfl) (readPieces_plain hle hquote hslash r)

/-- A string reads back, behind its opening quote. -/
theorem readString_string (t r : Text) :
    readString (t.flatMap encodeChar ++ '"' :: r) = some (some t, r) := by
  induction t with
  | nil => rfl
  | cons c t ih =>
      rw [List.flatMap_cons, List.append_assoc, readString_encodeChar, ih]
      rfl

/-! ## Values -/

/-- The value is read from the text, whatever follows, with as many levels as the text has
characters. -/
def Writes (t : Text) (v : Value) : Prop :=
  ∀ n r, t.length ≤ n → readValue n (t ++ r) = some (v, r)

theorem skipSpace_cons (h : isSpace c = false) (t : Text) : skipSpace (c :: t) = c :: t :=
  List.dropWhile_cons_of_neg (Bool.eq_false_iff.mp h)

theorem string_append (t r : Text) : string t ++ r = '"' :: (t.flatMap encodeChar ++ '"' :: r) := by
  simp [string]

theorem writes_string (t : Text) : Writes (string t) (.string (some t)) := by
  intro n r hn
  obtain ⟨m, rfl⟩ : ∃ m, n = m + 1 := Nat.exists_eq_succ_of_ne_zero (by
    rintro rfl
    cases hn)
  rw [string_append, readValue, skipSpace_cons rfl]
  simp only [readString_string, Option.map_some]

/-! ## Arrays -/

theorem readItems_last (h : readValue n t = some (v, ']' :: s)) :
    readItems (n + 1) t = some ([v], s) := by
  rw [readItems, h]
  simp only [Option.bind_eq_bind, Option.bind_some, skipSpace_cons (c := ']') rfl]

theorem readItems_further (h : readValue n t = some (v, ',' :: s)) :
    readItems (n + 1) t = (readItems n s).map fun p => (v :: p.1, p.2) := by
  rw [readItems, h]
  simp only [Option.bind_eq_bind, Option.bind_some, skipSpace_cons (c := ',') rfl]

/-- No item begins with the closing bracket. -/
theorem readItems_closing (h : skipSpace t = ']' :: s) : readItems n t = none := by
  have hvalue : ∀ n, readValue n t = none := by
    intro n
    cases n with
    | zero => rfl
    | succ n =>
        rw [readValue, h]
        rfl
  cases n with
  | zero => rfl
  | succ n =>
      rw [readItems, hvalue n]
      rfl

/-- An array with items in it. -/
theorem readValue_array {vs : List Value} (h : readItems n t = some (vs, r)) :
    readValue (n + 1) ('[' :: t) = some (.array vs, r) := by
  have hbracket : skipSpace ('[' :: t) = '[' :: t := skipSpace_cons rfl t
  simp only [readValue, hbracket]
  split
  · next s hs =>
      rw [readItems_closing hs] at h
      cases h
  · rw [h, Option.map_some]

section

variable {α : Type} {text : α → Text} {value : α → Value} {x : α} {xs : List α}

/-- The items of an array, each written for its value, are read up to the closing bracket. -/
theorem readItems_join (h : ∀ y ∈ x :: xs, Writes (text y) (value y))
    (hn : (Text.join [','] ((x :: xs).map text)).length ≤ n) (r : Text) :
    readItems (n + 1) (Text.join [','] ((x :: xs).map text) ++ ']' :: r) =
      some ((x :: xs).map value, r) := by
  induction xs generalizing x n with
  | nil => exact readItems_last (h x List.mem_cons_self n (']' :: r) hn)
  | cons y ys ih =>
      obtain ⟨hx, hxs⟩ := List.forall_mem_cons.mp h
      have hjoin : Text.join [','] ((x :: y :: ys).map text) =
          text x ++ ',' :: Text.join [','] ((y :: ys).map text) := by
        simp [Text.join_cons_cons]
      rw [hjoin, List.length_append, List.length_cons] at hn
      obtain ⟨m, rfl⟩ : ∃ m, n = m + 1 := Nat.exists_eq_succ_of_ne_zero (by omega)
      rw [hjoin, List.append_assoc, List.cons_append,
        readItems_further (hx (m + 1) _ (by omega)), ih hxs (by omega)]
      rfl

/-- An array is written with its items. -/
theorem writes_array (h : ∀ y ∈ xs, Writes (text y) (value y)) :
    Writes (array (xs.map text)) (.array (xs.map value)) := by
  intro n r hn
  rw [array, List.cons_append, List.length_cons, List.length_append, List.length_singleton] at hn
  obtain ⟨m, rfl⟩ : ∃ m, n = m + 2 := ⟨n - 2, by omega⟩
  rw [array, List.cons_append, List.cons_append, List.append_assoc]
  cases xs with
  | nil => rfl
  | cons x xs =>
      refine readValue_array (readItems_join h ?_ r)
      omega

end

/-! ## Objects -/

/-- A member of an object, with the text that is written for its value. -/
structure WrittenMember where
  name : Text
  text : Text
  value : Value
  writes : Writes text value

namespace WrittenMember

/-- The member as it stands in the object. -/
def memberText (m : WrittenMember) : Text := string m.name ++ ':' :: m.text

/-- The member as it is read. -/
def member (m : WrittenMember) : Option Text × Value := (some m.name, m.value)

end WrittenMember

theorem readName_string (name t : Text) :
    readName (string name ++ ':' :: t) = some (some name, t) := by
  rw [string_append, readName, skipSpace_cons rfl]
  simp only [readString_string, Option.bind_eq_bind, Option.bind_some,
    skipSpace_cons (c := ':') rfl]
  rfl

theorem readMembers_last (name : Text) (h : readValue n t = some (v, '\x7d' :: s)) :
    readMembers (n + 1) (string name ++ ':' :: t) = some ([(some name, v)], s) := by
  rw [readMembers, readName_string]
  simp only [Option.bind_eq_bind, Option.bind_some, h, skipSpace_cons (c := '\x7d') rfl]

theorem readMembers_further (name : Text) (h : readValue n t = some (v, ',' :: s)) :
    readMembers (n + 1) (string name ++ ':' :: t) =
      (readMembers n s).map fun p => ((some name, v) :: p.1, p.2) := by
  rw [readMembers, readName_string]
  simp only [Option.bind_eq_bind, Option.bind_some, h, skipSpace_cons (c := ',') rfl]

/-- No member begins with the closing bracket. -/
theorem readMembers_closing (h : skipSpace t = '\x7d' :: s) : readMembers n t = none := by
  have hname : readName t = none := by
    rw [readName, h]
    rfl
  cases n with
  | zero => rfl
  | succ n =>
      rw [readMembers, hname]
      rfl

/-- An object with members in it. -/
theorem readValue_object {ms : List (Option Text × Value)} (h : readMembers n t = some (ms, r)) :
    readValue (n + 1) ('\x7b' :: t) = some (.object ms, r) := by
  have hbrace : skipSpace ('\x7b' :: t) = '\x7b' :: t := skipSpace_cons rfl t
  simp only [readValue, hbrace]
  split
  · next s hs =>
      rw [readMembers_closing hs] at h
      cases h
  · rw [h, Option.map_some]

/-- The members of an object are read up to the closing bracket. -/
theorem readMembers_join {m : WrittenMember} {ms : List WrittenMember}
    (hn : (Text.join [','] ((m :: ms).map WrittenMember.memberText)).length ≤ n) (r : Text) :
    readMembers (n + 1)
        (Text.join [','] ((m :: ms).map WrittenMember.memberText) ++ '\x7d' :: r) =
      some ((m :: ms).map WrittenMember.member, r) := by
  induction ms generalizing m n with
  | nil =>
      rw [List.map_singleton, Text.join_singleton, WrittenMember.memberText] at hn ⊢
      rw [List.length_append, List.length_cons] at hn
      rw [List.append_assoc, List.cons_append]
      exact readMembers_last m.name (m.writes n _ (by omega))
  | cons l ls ih =>
      have hjoin : Text.join [','] ((m :: l :: ls).map WrittenMember.memberText) =
          string m.name ++ ':' :: (m.text ++
            ',' :: Text.join [','] ((l :: ls).map WrittenMember.memberText)) := by
        simp [Text.join_cons_cons, WrittenMember.memberText]
      rw [hjoin, List.length_append, List.length_cons, List.length_append, List.length_cons] at hn
      obtain ⟨k, rfl⟩ : ∃ k, n = k + 1 := Nat.exists_eq_succ_of_ne_zero (by omega)
      rw [hjoin, List.append_assoc, List.cons_append, List.append_assoc, List.cons_append,
        readMembers_further m.name (m.writes (k + 1) _ (by omega)), ih (by omega)]
      rfl

/-- An object is written with its members. -/
theorem writes_object (ms : List WrittenMember) :
    Writes (object (ms.map fun m => (m.name, m.text))) (.object (ms.map WrittenMember.member)) := by
  intro n r hn
  have htext : object (ms.map fun m => (m.name, m.text)) =
      '\x7b' :: Text.join [','] (ms.map WrittenMember.memberText) ++ ['\x7d'] := by
    rw [object, List.map_map]
    rfl
  rw [htext, List.cons_append, List.length_cons, List.length_append, List.length_singleton] at hn
  obtain ⟨k, rfl⟩ : ∃ k, n = k + 2 := ⟨n - 2, by omega⟩
  rw [htext, List.cons_append, List.cons_append, List.append_assoc]
  cases ms with
  | nil => rfl
  | cons m ms =>
      refine readValue_object (readMembers_join ?_ r)
      omega

/-- What is written for a value is a document of that value. -/
theorem read?_of_writes (h : Writes t v) : read? t = some v := by
  have hread := h (t.length + 1) [] (by omega)
  rw [List.append_nil] at hread
  rw [read?, hread]
  rfl

end Json
end CatalogQuery
