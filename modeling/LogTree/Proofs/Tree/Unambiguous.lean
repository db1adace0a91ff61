import LogTree.Tree.Render

/-!
# Rendering without ambiguity

Trees that are built from texts and sequences are rendered differently if they are different. A
backslash stands before every quotation mark of a text, but not before other backslashes, so the
mark that closes a text which ends with a backslash looks like one inside of the text. Wherever two
ways of reading the same characters take such a mark differently, one of them goes on inside of a
text and the other one outside of all texts. Since no backslash stands outside of texts, every
further mark lets the two change places, and so one of them is still inside of a text when the
characters end.
-/

namespace LogTree

namespace Reading

mutual

/-- Characters that can be read from a place outside of all texts. -/
inductive Outside : List Char → Prop where
  /-- The characters end. -/
  | done : Outside []
  /-- A bracket, a comma or a blank. -/
  | plain {character : Char} {rest : List Char} : character ≠ '"' → character ≠ '\\' →
      Outside rest → Outside (character :: rest)
  /-- A text begins. -/
  | opening {rest : List Char} : Inside rest → Outside ('"' :: rest)

/-- Characters that can be read from a place inside of a text. -/
inductive Inside : List Char → Prop where
  /-- The text ends. -/
  | closing {rest : List Char} : Outside rest → Inside ('"' :: rest)
  /-- A quotation mark of the text. -/
  | mark {rest : List Char} : Inside rest → Inside ('\\' :: '"' :: rest)
  /-- Another character of the text, which may be a backslash. -/
  | plain {character : Char} {rest : List Char} : character ≠ '"' →
      Inside rest → Inside (character :: rest)

end

/-- No characters can be read both from outside of all texts and from inside of one. -/
theorem Outside.not_inside {rest : List Char} (outside : Outside rest) : ¬ Inside rest := by
  intro inside
  induction rest with
  | nil => cases inside
  | cons character rest induction =>
    cases outside with
    | plain unmarked unescaped outside =>
      cases inside with
      | closing => exact unmarked rfl
      | mark => exact unescaped rfl
      | plain _ inside => exact induction outside inside
    | opening inner =>
      cases inside with
      | closing outer => exact induction outer inner
      | plain unmarked _ => exact unmarked rfl

/-- The characters of a text as they stand between its quotation marks. -/
def spelled (content : List Char) : List Char :=
  content.flatMap Scalar.quoted.escaped

theorem toList_quoted (content : String) :
    (Scalar.quoted content).toList = '"' :: (spelled content.toList ++ ['"']) := by
  rw [Scalar.quoted, String.toList_ofList]
  rfl

theorem spelled_cons (character : Char) (content : List Char) :
    spelled (character :: content) =
      if character = '"' then '\\' :: '"' :: spelled content else character :: spelled content := by
  rw [spelled, List.flatMap_cons, Scalar.quoted.escaped]
  split <;> rfl

theorem inside_spelled (content : List Char) {rest : List Char} (outside : Outside rest) :
    Inside (spelled content ++ '"' :: rest) := by
  induction content with
  | nil => exact .closing outside
  | cons character content induction =>
    rw [spelled_cons]
    split
    · exact .mark induction
    · rename_i unmarked
      exact .plain unmarked induction

/-- A text that is not empty does not begin like one that is closed at once. -/
theorem spelled_cons_ne (character : Char) (content rest other : List Char) :
    spelled (character :: content) ++ rest ≠ '"' :: other := by
  rw [spelled_cons]
  split
  · exact fun same => absurd (List.cons.inj same).1 (by decide)
  · rename_i unmarked
    exact fun same => unmarked (List.cons.inj same).1

/-- A text that goes on with a quotation mark is no text that goes on with another character, even
if that is a backslash at the end of the text. -/
theorem spelled_mark_ne (character : Char) {content longer rest other : List Char}
    (outside : Outside rest) (outsideOther : Outside other) :
    character :: (spelled content ++ '"' :: rest) ≠
      '\\' :: '"' :: (spelled longer ++ '"' :: other) := by
  intro same
  obtain ⟨-, behind⟩ := List.cons.inj same
  cases content with
  | nil =>
    -- What stands behind the mark would be read from outside of the text and from inside of it.
    obtain ⟨-, rfl⟩ := List.cons.inj behind
    exact outside.not_inside (inside_spelled longer outsideOther)
  | cons next content => exact spelled_cons_ne next content _ _ behind

/-- A text ends at the one mark behind which the characters can be read from outside of it. -/
theorem eq_of_spelled_append {left right rest other : List Char} (outside : Outside rest)
    (outsideOther : Outside other)
    (same : spelled left ++ '"' :: rest = spelled right ++ '"' :: other) :
    left = right ∧ rest = other := by
  induction left generalizing right with
  | nil =>
    cases right with
    | nil => exact ⟨rfl, (List.cons.inj same).2⟩
    | cons next right => exact absurd same.symm (spelled_cons_ne next right _ _)
  | cons character left induction =>
    cases right with
    | nil => exact absurd same (spelled_cons_ne character left _ _)
    | cons next right =>
      rw [spelled_cons, spelled_cons] at same
      by_cases marked : character = '"' <;> by_cases markedNext : next = '"'
      · rw [if_pos marked, if_pos markedNext] at same
        obtain ⟨-, behind⟩ := List.cons.inj (List.cons.inj same).2
        obtain ⟨rfl, rest⟩ := induction behind
        exact ⟨by rw [marked, markedNext], rest⟩
      · rw [if_pos marked, if_neg markedNext] at same
        exact absurd same.symm (spelled_mark_ne next outsideOther outside)
      · rw [if_neg marked, if_pos markedNext] at same
        exact absurd same (spelled_mark_ne character outside outsideOther)
      · rw [if_neg marked, if_neg markedNext] at same
        obtain ⟨rfl, behind⟩ := List.cons.inj same
        obtain ⟨rfl, rest⟩ := induction behind
        exact ⟨rfl, rest⟩

end Reading

namespace Tree

open Reading

/-- A tree is built from texts and sequences alone. -/
inductive OfTexts : Tree → Prop where
  /-- A text. -/
  | text (content : String) : OfTexts (text content)
  /-- A sequence of such trees. -/
  | sequence {elements : List Tree} : (∀ element ∈ elements, OfTexts element) →
      OfTexts (sequence elements)

section Characters

variable (provider : Option Separators)

/-- The characters of a tree without a format. -/
def characters (tree : Tree) : List Char :=
  (tree.render none provider).toList

/-- What stands before an element of a sequence. -/
def separator (first : Bool) : List Char :=
  if first then [] else [',', ' ']

/-- The elements of a sequence from the first one or a later one on, and the closing bracket. -/
def closing (first : Bool) : List Tree → List Char
  | [] => [']']
  | element :: elements =>
    separator first ++ (element.characters provider ++ closing false elements)

theorem characters_text (content : String) :
    (text content).characters provider = '"' :: (spelled content.toList ++ ['"']) :=
  toList_quoted content

theorem closing_true (elements : List Tree) :
    closing provider true elements =
      (", ".intercalate (render.renderElements none provider elements)).toList ++ [']'] := by
  cases elements with
  | nil => rfl
  | cons element elements =>
    rw [render.renderElements]
    induction elements generalizing element with
    | nil => simp [closing, separator, render.renderElements, characters]
    | cons next elements induction =>
      have further := induction next
      rw [closing] at further
      rw [closing, closing, render.renderElements, String.intercalate_cons_cons,
        String.toList_append, String.toList_append, List.append_assoc, ← further]
      simp [separator, characters]

theorem characters_sequence (elements : List Tree) :
    (sequence elements).characters provider = '[' :: closing provider true elements := by
  rw [closing_true, characters, render]
  simp

end Characters

variable {provider : Option Separators}

theorem outside_closing {elements : List Tree} {rest : List Char} (first : Bool)
    (readable : ∀ element ∈ elements, ∀ rest, Outside rest →
      Outside (element.characters provider ++ rest)) (outside : Outside rest) :
    Outside (closing provider first elements ++ rest) := by
  induction elements generalizing first with
  | nil => exact .plain (by decide) (by decide) outside
  | cons element elements induction =>
    obtain ⟨here, later⟩ := List.forall_mem_cons.mp readable
    have behind := here _ (induction false later)
    rw [closing, List.append_assoc, List.append_assoc]
    cases first with
    | true => exact behind
    | false => exact .plain (by decide) (by decide) (.plain (by decide) (by decide) behind)

/-- The characters of a tree are read from outside of all texts, and leave there what follows. -/
theorem OfTexts.outside {tree : Tree} (texts : tree.OfTexts) {rest : List Char}
    (outside : Outside rest) : Outside (tree.characters provider ++ rest) := by
  induction texts generalizing rest with
  | text content =>
    rw [characters_text, List.cons_append, List.append_assoc]
    exact .opening (inside_spelled content.toList outside)
  | sequence _ induction =>
    rw [characters_sequence, List.cons_append]
    exact .plain (by decide) (by decide)
      (outside_closing true (fun element inside rest => induction element inside) outside)

/-- An element does not begin like the end of a sequence. -/
theorem OfTexts.closing_ne {element : Tree} (texts : element.OfTexts) (first : Bool)
    (elements : List Tree) (rest other : List Char) :
    closing provider first (element :: elements) ++ rest ≠ ']' :: other := by
  intro same
  cases first with
  | false => exact absurd (List.cons.inj same).1 (by decide)
  | true =>
    cases texts with
    | text content =>
      rw [closing, characters_text] at same
      exact absurd (List.cons.inj same).1 (by decide)
    | sequence =>
      rw [closing, characters_sequence] at same
      exact absurd (List.cons.inj same).1 (by decide)

variable (provider) in
/-- Where the characters of a tree begin no other tree can be read, and the tree ends where they
end. -/
def Legible (tree : Tree) : Prop :=
  ∀ {other : Tree} {rest further : List Char}, other.OfTexts → Outside rest → Outside further →
    tree.characters provider ++ rest = other.characters provider ++ further →
      tree = other ∧ rest = further

theorem eq_of_closing {elements others : List Tree} {rest further : List Char} {first : Bool}
    (legible : ∀ element ∈ elements, element.Legible provider)
    (texts : ∀ element ∈ elements, element.OfTexts) (textsOther : ∀ other ∈ others, other.OfTexts)
    (outside : Outside rest) (outsideFurther : Outside further)
    (same : closing provider first elements ++ rest = closing provider first others ++ further) :
    elements = others ∧ rest = further := by
  induction elements generalizing others first with
  | nil =>
    cases others with
    | nil => exact ⟨rfl, (List.cons.inj same).2⟩
    | cons other others =>
      exact absurd same.symm ((textsOther other List.mem_cons_self).closing_ne first others _ _)
  | cons element elements induction =>
    cases others with
    | nil => exact absurd same ((texts element List.mem_cons_self).closing_ne first elements _ _)
    | cons other others =>
      obtain ⟨here, later⟩ := List.forall_mem_cons.mp legible
      obtain ⟨-, textsLater⟩ := List.forall_mem_cons.mp texts
      obtain ⟨text, textsOthers⟩ := List.forall_mem_cons.mp textsOther
      rw [closing, closing, List.append_assoc, List.append_assoc, List.append_assoc,
        List.append_assoc] at same
      obtain ⟨rfl, behind⟩ := here text
        (outside_closing false (fun _ inside _ => (textsLater _ inside).outside) outside)
        (outside_closing false (fun _ inside _ => (textsOthers _ inside).outside) outsideFurther)
        (List.append_cancel_left same)
      obtain ⟨rfl, rest⟩ := induction later textsLater textsOthers behind
      exact ⟨rfl, rest⟩

theorem OfTexts.legible {tree : Tree} (texts : tree.OfTexts) : tree.Legible provider := by
  induction texts with
  | text content =>
    intro other rest further textsOther outside outsideFurther same
    cases textsOther with
    | sequence =>
      rw [characters_text, characters_sequence] at same
      exact absurd (List.cons.inj same).1 (by decide)
    | text contentOther =>
      rw [characters_text, characters_text, List.cons_append, List.cons_append,
        List.append_assoc, List.append_assoc] at same
      obtain ⟨spelling, rest⟩ := eq_of_spelled_append outside outsideFurther (List.cons.inj same).2
      exact ⟨by rw [String.toList_inj.mp spelling], rest⟩
  | sequence texts induction =>
    intro other rest further textsOther outside outsideFurther same
    cases textsOther with
    | text =>
      rw [characters_text, characters_sequence] at same
      exact absurd (List.cons.inj same).1 (by decide)
    | sequence textsOther =>
      rw [characters_sequence, characters_sequence] at same
      obtain ⟨rfl, rest⟩ := eq_of_closing induction texts textsOther outside outsideFurther
        (List.cons.inj same).2
      exact ⟨rfl, rest⟩

/-- Trees that are built from texts and sequences are rendered alike without a format only if they
are the same, whatever the texts are. -/
theorem render_none_eq_iff {left right : Tree} (texts : left.OfTexts) (textsRight : right.OfTexts)
    (provider : Option Separators) :
    left.render none provider = right.render none provider ↔ left = right := by
  refine ⟨fun same => ?_, fun same => by rw [same]⟩
  have characters : left.characters provider ++ [] = right.characters provider ++ [] := by
    rw [Tree.characters, Tree.characters, same]
  exact (texts.legible textsRight .done .done characters).1

/-- What closes a text that ends with a backslash may stand inside of a longer text as well, but the
characters that follow tell the two apart. -/
theorem render_none_eq_iff_backslash :
    (sequence [text "a\\", text "b"]).OfTexts ∧ (sequence [text "a\", "]).OfTexts ∧
      (sequence [text "a\\", text "b"]).render none none = "[\"a\\\", \"b\"]" ∧
      (sequence [text "a\", "]).render none none = "[\"a\\\", \"]" ∧
      (sequence [text "a\\", text "b"]).render none none ≠
        (sequence [text "a\", "]).render none none := by
  have pair : (sequence [text "a\\", text "b"]).OfTexts :=
    .sequence (List.forall_mem_cons.mpr ⟨.text _, List.forall_mem_singleton.mpr (.text _)⟩)
  have single : (sequence [text "a\", "]).OfTexts :=
    .sequence (List.forall_mem_singleton.mpr (.text _))
  refine ⟨pair, single, by decide, by decide, fun same => ?_⟩
  simpa using (render_none_eq_iff pair single none).mp same

end Tree

end LogTree
