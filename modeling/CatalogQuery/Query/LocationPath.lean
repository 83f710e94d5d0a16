import CatalogQuery.Text.Basic

/-!
# Location paths

A location path selects the nodes that several steps lead to. A step leads to the nodes of a name.
It may say where they are (an axis), that they are attributes, and in which namespace the name is
meant (a qualifier).

* `LocationPath.text`: a path as it is written, with a single colon behind each qualifier and two
  behind each axis;
* `LocationPath.unqualified`: the same path without qualifiers;
* `LocationPath.textWith_eq_iff`: what is written for the qualifiers can be told from the text.
-/

namespace CatalogQuery

namespace LocationPath

/-! ## Names -/

/-- A character that a name may go on with. -/
def continuesName (c : Char) : Bool := c.isAlphanum || c == '_' || c == '-' || c == '.'

/-- A letter or an underscore, and behind it letters, digits, underscores, hyphens and dots. -/
def isName : Text → Bool
  | [] => false
  | c :: r => (c.isAlpha || c == '_') && r.all continuesName

/-- A name of ASCII characters. -/
structure Name where
  text : Text
  isName : isName text = true := by decide

/-- What names are made of. -/
theorem Name.continuesName_of_mem {n : Name} {c : Char} (h : c ∈ n.text) :
    continuesName c = true := by
  obtain ⟨t, ht⟩ := n
  cases t with
  | nil => cases h
  | cons d r =>
      obtain ⟨hd, hr⟩ := (Bool.and_eq_true _ _).mp ht
      rcases List.mem_cons.mp h with rfl | h
      · rcases (Bool.or_eq_true _ _).mp hd with hd | hd
        · simp [LocationPath.continuesName, Char.isAlphanum, hd]
        · simp [LocationPath.continuesName, hd]
      · exact List.all_eq_true.mp hr c h

theorem Name.ne_nil (n : Name) : n.text ≠ [] := by
  obtain ⟨t, ht⟩ := n
  rintro rfl
  cases ht

/-- A name has no colon in it. -/
theorem Name.colon_notMem (n : Name) : ':' ∉ n.text := fun h =>
  absurd (Name.continuesName_of_mem h) (by decide)

/-! ## Steps -/

/-- What stands before a step: it leads to children, or to nodes anywhere below. -/
inductive Separator where
  | child
  | descendant

def Separator.text : Separator → Text
  | child => ['/']
  | descendant => ['/', '/']

structure Step where
  axis : Option Name := none
  isAttribute : Bool := false
  qualifier : Option Name := none
  name : Name

namespace Step

/-- A step as it is written, given how its qualifier is. -/
def textWith (write : Name → Text) (s : Step) : Text :=
  (s.axis.elim [] fun axis => axis.text ++ [':', ':']) ++ (if s.isAttribute then ['@'] else []) ++
    s.qualifier.elim [] write ++ s.name.text

/-- A step as it is written. -/
def text (s : Step) : Text := s.textWith fun qualifier => qualifier.text ++ [':']

def unqualified (s : Step) : Step := { s with qualifier := none }

end Step

end LocationPath

/-- A path of several steps. The first one has nothing before it in a path that starts where it is
used, and is missing in one that starts at the root. -/
structure LocationPath where
  first : Option LocationPath.Step := none
  further : List (LocationPath.Separator × LocationPath.Step)

namespace LocationPath

variable {p : LocationPath} {write other : Name → Text}

def steps (p : LocationPath) : List Step := p.first.toList ++ p.further.map Prod.snd

/-- The qualifiers of a path, in order. -/
def qualifiers (p : LocationPath) : List Name := p.steps.filterMap Step.qualifier

/-- Steps behind separators, given how qualifiers are written. -/
def furtherWith (write : Name → Text) (further : List (Separator × Step)) : Text :=
  further.flatMap fun x => x.1.text ++ x.2.textWith write

/-- A path as it is written, given how its qualifiers are. -/
def textWith (write : Name → Text) (p : LocationPath) : Text :=
  p.first.elim [] (Step.textWith write) ++ furtherWith write p.further

/-- A path as it is written. -/
def text (p : LocationPath) : Text := p.textWith fun qualifier => qualifier.text ++ [':']

/-- The path without its qualifiers, all else as it is. -/
def unqualified (p : LocationPath) : LocationPath :=
  ⟨p.first.map Step.unqualified, p.further.map fun x => (x.1, x.2.unqualified)⟩

/-! ## What is written for qualifiers -/

theorem furtherWith_cons (write : Name → Text) (separator : Separator) (s : Step)
    (further : List (Separator × Step)) :
    furtherWith write ((separator, s) :: further)
      = separator.text ++ (s.textWith write ++ furtherWith write further) := by
  simp [furtherWith]

theorem Step.text_unqualified (s : Step) : s.unqualified.text = s.textWith fun _ => [] := by
  obtain ⟨axis, isAttribute, qualifier, name⟩ := s
  cases qualifier with
  | none => rfl
  | some q => rfl

/-- Nothing is written for the qualifiers that are left out. -/
theorem text_unqualified (p : LocationPath) : p.unqualified.text = p.textWith fun _ => [] := by
  have hstep : ∀ s : Step, s.unqualified.textWith (fun q => q.text ++ [':'])
      = s.textWith fun _ => [] := Step.text_unqualified
  obtain ⟨first, further⟩ := p
  cases first with
  | none => simp [text, textWith, unqualified, furtherWith, List.flatMap_map, hstep]
  | some s => simp [text, textWith, unqualified, furtherWith, List.flatMap_map, hstep]

theorem Step.textWith_congr {s : Step} (h : ∀ q, s.qualifier = some q → write q = other q) :
    s.textWith write = s.textWith other := by
  obtain ⟨axis, isAttribute, qualifier, name⟩ := s
  cases qualifier with
  | none => rfl
  | some q => simp only [textWith, Option.elim_some, h q rfl]

/-- The text depends only on what is written for the qualifiers that are there. -/
theorem textWith_congr (h : ∀ q ∈ p.qualifiers, write q = other q) :
    p.textWith write = p.textWith other := by
  have hstep : ∀ s ∈ p.steps, s.textWith write = s.textWith other := fun s hs =>
    Step.textWith_congr fun q hq => h q (List.mem_filterMap.mpr ⟨s, hs, hq⟩)
  have hfurther : furtherWith write p.further = furtherWith other p.further := by
    rw [furtherWith, furtherWith, List.flatMap_def, List.flatMap_def]
    refine congrArg List.flatten (List.map_congr_left fun x hx => ?_)
    rw [hstep x.2 (List.mem_append_right _ (List.mem_map_of_mem hx))]
  rw [textWith, textWith, hfurther]
  cases hfirst : p.first with
  | none => rfl
  | some s =>
      rw [Option.elim_some, Option.elim_some, hstep s (by simp [steps, hfirst])]

theorem Step.length_textWith (write : Name → Text) (s : Step) :
    (s.textWith write).length
      = (s.textWith fun _ => []).length + (s.qualifier.toList.flatMap write).length := by
  obtain ⟨axis, isAttribute, qualifier, name⟩ := s
  cases qualifier with
  | none => rfl
  | some q =>
      simp only [textWith, Option.elim_some, Option.toList_some, List.flatMap_singleton,
        List.length_append, List.length_nil]
      omega

theorem length_furtherWith (write : Name → Text) (further : List (Separator × Step)) :
    (furtherWith write further).length = (furtherWith (fun _ => []) further).length
      + (((further.map Prod.snd).filterMap Step.qualifier).flatMap write).length := by
  induction further with
  | nil => rfl
  | cons x further ih =>
      obtain ⟨separator, s⟩ := x
      have hcons : ((((separator, s) :: further).map Prod.snd).filterMap Step.qualifier)
          = s.qualifier.toList ++ (further.map Prod.snd).filterMap Step.qualifier := by
        cases h : s.qualifier <;> simp [h]
      rw [hcons, furtherWith_cons, furtherWith_cons, List.flatMap_append]
      simp only [List.length_append, Step.length_textWith write s, ih]
      omega

/-- What is written for the qualifiers makes the text so much longer. -/
theorem length_textWith (write : Name → Text) (p : LocationPath) :
    (p.textWith write).length
      = (p.textWith fun _ => []).length + (p.qualifiers.flatMap write).length := by
  have hfurther := length_furtherWith write p.further
  rw [textWith, textWith, qualifiers, steps, List.filterMap_append, List.flatMap_append]
  cases p.first with
  | none => simpa using hfurther
  | some s =>
      have hfirst := Step.length_textWith write s
      have hone : [s].filterMap Step.qualifier = s.qualifier.toList := by
        cases h : s.qualifier <;> simp [h]
      simp only [Option.elim_some, Option.toList_some, hone, List.length_append]
      omega

/-- So a text is the one without qualifiers just if nothing is written for any of them. -/
theorem textWith_eq_iff :
    p.textWith write = p.unqualified.text ↔ ∀ q ∈ p.qualifiers, write q = [] := by
  rw [text_unqualified]
  constructor
  · intro h
    have hlength := length_textWith write p
    rw [h, Nat.left_eq_add, List.length_eq_zero_iff] at hlength
    exact List.flatMap_eq_nil_iff.mp hlength
  · exact textWith_congr

end LocationPath
end CatalogQuery
