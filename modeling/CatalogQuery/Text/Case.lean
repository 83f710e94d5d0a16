import CatalogQuery.Text.Basic
import CatalogQuery.Text.CaseTable

/-!
# Letter case

`lower` is the full lowercase mapping of the Unicode character database. It looks at one
character at a time but for the capital sigma, which takes its final form at the end of a word,
and it makes two characters out of one only for the capital `I` with a dot above.

`mentionsLetters` looks for a word of capital ASCII letters in the upper case form of a text.
-/

namespace CatalogQuery
namespace Text

/-! ## Lower case -/

/-- A letter with a case that does not merely modify its neighbours. -/
def isCased (c : Char) : Bool := inRanges casedRanges c.toNat

/-- A character that the search for the end of a word passes over. -/
def isIgnorable (c : Char) : Bool := inRanges ignorableRanges c.toNat

/-- Is the first character that is not passed over a letter with a case? -/
def meetsCased (t : Text) : Bool :=
  match t.dropWhile isIgnorable with
  | [] => false
  | c :: _ => isCased c

/-- The capital sigma. -/
def capitalSigma : Char := Char.ofNat 0x3A3

/-- The small sigma as it is written at the end of a word. -/
def finalSigma : Char := Char.ofNat 0x3C2

/-- The small sigma as it is written elsewhere. -/
def innerSigma : Char := Char.ofNat 0x3C3

/-- The lowercase form of a character by itself. -/
def lowerChar (c : Char) : Text :=
  let n := c.toNat
  if n < 0x80 then [c.toLower]
  else if n = 0x130 then ['i', Char.ofNat 0x307]
  else
    match lowerRuns.find? (·.holds n) with
    | none => [c]
    | some r => [Char.ofNat ((n : Int) + r.shift).toNat]

/-- The lowercase form of the text that follows `before`, which is held in reverse. A capital
sigma is final when a letter stands before it and none after it. -/
def lowerFrom (before : Text) : Text → Text
  | [] => []
  | c :: r =>
      (if c = capitalSigma then
        [if meetsCased before && !meetsCased r then finalSigma else innerSigma]
      else lowerChar c) ++ lowerFrom (c :: before) r

/-- The lowercase form of a text. -/
def lower (t : Text) : Text := lowerFrom [] t

/-! ## Upper case letters -/

/-- The characters outside ASCII whose upper case form has ASCII letters, with that form. -/
def capitalForms : List (Nat × List Nat) :=
  [(0xDF, [0x53, 0x53]), (0x131, [0x49]), (0x149, [0x2BC, 0x4E]), (0x17F, [0x53]),
   (0x1F0, [0x4A, 0x30C]), (0x1E96, [0x48, 0x331]), (0x1E97, [0x54, 0x308]),
   (0x1E98, [0x57, 0x30A]), (0x1E99, [0x59, 0x30A]), (0x1E9A, [0x41, 0x2BE]),
   (0xFB00, [0x46, 0x46]), (0xFB01, [0x46, 0x49]), (0xFB02, [0x46, 0x4C]),
   (0xFB03, [0x46, 0x46, 0x49]), (0xFB04, [0x46, 0x46, 0x4C]), (0xFB05, [0x53, 0x54]),
   (0xFB06, [0x53, 0x54])]

/-- The upper case form of a character as far as ASCII letters go: a character whose form has
none of them stands for itself. -/
def capitals (c : Char) : Text :=
  match capitalForms.find? (·.1 == c.toNat) with
  | none => [c.toUpper]
  | some form => form.2.map Char.ofNat

/-- Does the upper case form of `t` have the word of capital ASCII letters `word` in it? -/
def mentionsLetters (word t : Text) : Bool := mentions word (t.flatMap capitals)

/-- An ASCII character has the upper case form that ASCII gives it. -/
theorem capitals_of_lt {c : Char} (h : c.toNat < 0x80) : capitals c = [c.toUpper] := by
  have hnone : capitalForms.find? (·.1 == c.toNat) = none := by
    have hforms : ∀ form ∈ capitalForms, 0x80 ≤ form.1 := by decide
    refine List.find?_eq_none.mpr ?_
    intro form hform
    have := hforms form hform
    simp only [beq_iff_eq]
    omega
  rw [capitals, hnone]

theorem flatMap_capitals {t : Text} (h : ∀ c ∈ t, c.toNat < 0x80) :
    t.flatMap capitals = upperAscii t := by
  induction t with
  | nil => rfl
  | cons c t ih =>
      obtain ⟨hc, ht⟩ := List.forall_mem_cons.mp h
      rw [List.flatMap_cons, capitals_of_lt hc, ih ht]
      rfl

/-- A word within an ASCII part of a text is found, in whatever case it is written. -/
theorem mentionsLetters_of_infix {word part t : Text} (hpart : part <:+: t)
    (hascii : ∀ c ∈ part, c.toNat < 0x80) (h : word <:+: upperAscii part) :
    mentionsLetters word t = true := by
  obtain ⟨before, after, rfl⟩ := hpart
  refine mentions_iff.mpr (h.trans ?_)
  rw [← flatMap_capitals hascii, List.flatMap_append, List.flatMap_append]
  exact List.infix_append _ _ _

end Text
end CatalogQuery
