import LogTree.Proofs.Scalar.Understanding
import LogTree.Proofs.Tree.Rendering

/-!
# Formats in trees

A format reaches scalars through sequences only. A tree inside of another one is seen as what fills
a hole in a context; the text of the whole is the text of what fills the hole between two texts that
are due to the context. What is in the hole gets the format of the whole if nothing but sequences
stands around it, and no format otherwise. Dictionaries and records have no use for a format, so
they have the same text in any case.
-/

namespace LogTree.Tree

/-- A composite tree with a hole in one of its places. -/
inductive Frame where
  /-- A sequence with a hole between elements. -/
  | element (before after : List Tree)
  /-- A dictionary with a hole under a key. -/
  | entry (before : List (Scalar × Tree)) (key : Scalar) (after : List (Scalar × Tree))
  /-- A record with a hole under a name. -/
  | property (tag : Option String) (before : List (String × Tree)) (name : String)
      (after : List (String × Tree))

namespace Frame

/-- The tree that fills the hole with a tree. -/
def plug : Frame → Tree → Tree
  | element before after, tree => sequence (before ++ tree :: after)
  | entry before key after, tree => dictionary (before ++ (key, tree) :: after)
  | property tag before name after, tree => record tag (before ++ (name, tree) :: after)

/-- What is left for the hole of the format that the frame is rendered in. -/
def handedOn (format : Option String) : Frame → Option String
  | element _ _ => format
  | entry _ _ _ => none
  | property _ _ _ _ => none

theorem mem_children_plug (frame : Frame) (tree : Tree) : tree ∈ (frame.plug tree).children := by
  cases frame <;> simp [plug, children]

theorem exists_plug_of_mem_children {tree child : Tree} (below : child ∈ tree.children) :
    ∃ frame : Frame, frame.plug child = tree := by
  cases tree with
  | scalar value => exact absurd below List.not_mem_nil
  | sequence elements =>
    obtain ⟨before, after, rfl⟩ := List.append_of_mem below
    exact ⟨element before after, rfl⟩
  | dictionary entries =>
    obtain ⟨⟨key, value⟩, among, rfl⟩ := List.mem_map.mp below
    obtain ⟨before, after, rfl⟩ := List.append_of_mem among
    exact ⟨entry before key after, rfl⟩
  | record tag properties =>
    obtain ⟨⟨name, value⟩, among, rfl⟩ := List.mem_map.mp below
    obtain ⟨before, after, rfl⟩ := List.append_of_mem among
    exact ⟨property tag before name after, rfl⟩

end Frame

/-- Frames inside of one another, the outermost one first. -/
abbrev Context := List Frame

namespace Context

/-- The tree that fills the innermost hole with a tree. -/
def plug : Context → Tree → Tree
  | [], tree => tree
  | frame :: context, tree => frame.plug (plug context tree)

/-- What is left for the innermost hole of the format that the whole is rendered in. -/
def handedOn (format : Option String) : Context → Option String
  | [] => format
  | frame :: context => handedOn (frame.handedOn format) context

/-- The trees inside of a tree are what is in the holes of its contexts. -/
theorem contains_iff_exists_plug {outer inner : Tree} :
    outer.Contains inner ↔ ∃ context : Context, context.plug inner = outer := by
  constructor
  · intro contained
    induction contained using Relation.ReflTransGen.head_induction_on with
    | refl => exact ⟨[], rfl⟩
    | head below _ induction =>
      obtain ⟨context, rfl⟩ := induction
      obtain ⟨frame, rfl⟩ := Frame.exists_plug_of_mem_children below
      exact ⟨frame :: context, rfl⟩
  · rintro ⟨context, rfl⟩
    induction context with
    | nil => exact .refl inner
    | cons frame context induction => exact .head (frame.mem_children_plug _) induction

end Context

/-- Joined texts are any one of them between what is due to the others. -/
private theorem exists_intercalate_middle (separator : String) (before after : List String) :
    ∃ front back, ∀ middle,
      separator.intercalate (before ++ middle :: after) = front ++ middle ++ back := by
  have ending : ∃ back, ∀ middle, separator.intercalate (middle :: after) = middle ++ back := by
    cases after with
    | nil => exact ⟨"", fun middle => by simp⟩
    | cons next after =>
      refine ⟨separator ++ separator.intercalate (next :: after), fun middle => ?_⟩
      rw [String.intercalate_cons_cons, String.append_assoc]
  obtain ⟨back, joined⟩ := ending
  by_cases first : before = []
  · exact ⟨"", back, fun middle => by simp [first, joined]⟩
  · refine ⟨separator.intercalate before ++ separator, back, fun middle => ?_⟩
    rw [String.intercalate_append_of_ne_nil first (List.cons_ne_nil middle after), joined]
    simp only [String.append_assoc]

/-- The text of a record is due to its tag up to the properties. -/
private theorem exists_render_record (tag : Option String) :
    ∃ opening, ∀ (properties : List (String × Tree)) (format : Option String)
      (provider : Option Separators), (record tag properties).render format provider =
        opening ++ ", ".intercalate (properties.map fun property =>
          property.1 ++ ": " ++ property.2.render none provider) ++ " \x7d" := by
  cases tag with
  | none =>
    refine ⟨"" ++ "\x7b ", fun properties format provider => ?_⟩
    rw [render, renderProperties_eq_map]
  | some typeName =>
    refine ⟨typeName ++ " " ++ "\x7b ", fun properties format provider => ?_⟩
    rw [render, renderProperties_eq_map]

theorem Frame.exists_render_plug (frame : Frame) (format : Option String)
    (provider : Option Separators) :
    ∃ front back, ∀ tree, (frame.plug tree).render format provider =
      front ++ tree.render (frame.handedOn format) provider ++ back := by
  cases frame with
  | element before after =>
    obtain ⟨front, back, joined⟩ := exists_intercalate_middle ", "
      (before.map (render format provider)) (after.map (render format provider))
    refine ⟨"[" ++ front, back ++ "]", fun tree => ?_⟩
    rw [plug, render, renderElements_eq_map, List.map_append, List.map_cons, joined]
    simp only [handedOn, String.append_assoc]
  | entry before key after =>
    obtain ⟨front, back, joined⟩ := exists_intercalate_middle ", "
      (render.renderEntries provider before) (render.renderEntries provider after)
    refine ⟨"[" ++ front ++ "(" ++ key.render none provider ++ ": ", ")" ++ back ++ "]",
      fun tree => ?_⟩
    simp only [renderEntries_eq_map] at joined
    rw [plug, render, renderEntries_eq_map, List.map_append, List.map_cons, joined]
    simp only [handedOn, String.append_assoc]
  | property tag before name after =>
    obtain ⟨opening, shown⟩ := exists_render_record tag
    obtain ⟨front, back, joined⟩ := exists_intercalate_middle ", "
      (render.renderProperties provider before) (render.renderProperties provider after)
    refine ⟨opening ++ front ++ name ++ ": ", back ++ " \x7d", fun tree => ?_⟩
    simp only [renderProperties_eq_map] at joined
    rw [plug, shown, List.map_append, List.map_cons, joined]
    simp only [handedOn, String.append_assoc]

/-- The text of a tree in a context is the text of the tree, in the format that is left for it,
between two texts that are due to the context. -/
theorem Context.exists_render_plug (context : Context) (format : Option String)
    (provider : Option Separators) :
    ∃ front back, ∀ tree, (context.plug tree).render format provider =
      front ++ tree.render (context.handedOn format) provider ++ back := by
  induction context generalizing format with
  | nil => exact ⟨"", "", fun tree => by simp [plug, handedOn]⟩
  | cons frame context induction =>
    obtain ⟨outerFront, outerBack, outside⟩ := frame.exists_render_plug format provider
    obtain ⟨front, back, inside⟩ := induction (frame.handedOn format)
    refine ⟨outerFront ++ front, back ++ outerBack, fun tree => ?_⟩
    rw [plug, handedOn, outside, inside]
    simp only [String.append_assoc]

/-- A tree is a dictionary or a record, which hold trees under keys or names. -/
inductive IsKeyed : Tree → Prop where
  | dictionary (entries : List (Scalar × Tree)) : IsKeyed (dictionary entries)
  | record (tag : Option String) (properties : List (String × Tree)) :
      IsKeyed (record tag properties)

theorem IsKeyed.render_eq {tree : Tree} (keyed : tree.IsKeyed) (format : Option String)
    (provider : Option Separators) : tree.render format provider = tree.render none provider := by
  cases keyed <;> rfl

/-- A tree is another one, or it is reached from it through sequences alone. -/
inductive Lists : Tree → Tree → Prop where
  | refl (tree : Tree) : Lists tree tree
  | element {elements : List Tree} {element inner : Tree} : element ∈ elements →
      Lists element inner → Lists (sequence elements) inner

theorem Lists.of_scalar {value : Scalar} {inner : Tree} (listed : (scalar value).Lists inner) :
    scalar value = inner := by
  cases listed
  rfl

theorem Lists.of_isKeyed {tree inner : Tree} (listed : tree.Lists inner) (keyed : tree.IsKeyed) :
    tree = inner := by
  cases keyed <;> cases listed <;> rfl

theorem Lists.of_sequence {elements : List Tree} {inner : Tree}
    (listed : (sequence elements).Lists inner) (inside : sequence elements ≠ inner) :
    ∃ element ∈ elements, element.Lists inner := by
  cases listed with
  | refl => exact absurd rfl inside
  | element among rest => exact ⟨_, among, rest⟩

/-- Two formats in which the scalars that are reached through sequences look alike make no
difference. -/
theorem render_congr {tree : Tree} {format other : Option String} {provider : Option Separators}
    (alike : ∀ value, tree.Lists (scalar value) →
      value.render format provider = value.render other provider) :
    tree.render format provider = tree.render other provider := by
  induction tree using children_induction with
  | step tree induction =>
    cases tree with
    | scalar value => exact alike value (.refl _)
    | sequence elements =>
      have same : elements.map (render format provider) = elements.map (render other provider) :=
        List.map_congr_left fun element among =>
          induction element among fun value listed => alike value (.element among listed)
      rw [render, render, renderElements_eq_map, renderElements_eq_map, same]
    | dictionary entries => rfl
    | record tag properties => rfl

/-- A format reaches scalars through sequences only. Wherever a tree stands inside of another one,
the text of the whole has the text of the tree in its place; that of a dictionary or a record is the
one it has without a format. A sequence renders its elements in its own format. So a format that no
scalar understands which is reached through sequences alone changes nothing. -/
theorem render_format :
    (∀ outer inner : Tree, outer.Contains inner ↔ ∃ context : Context, context.plug inner = outer) ∧
    (∀ (context : Context) (format : Option String) (provider : Option Separators),
      ∃ front back, ∀ tree : Tree,
        (context.plug tree).render format provider =
            front ++ tree.render (context.handedOn format) provider ++ back ∧
          (tree.IsKeyed → (context.plug tree).render format provider =
            front ++ tree.render none provider ++ back)) ∧
    (∀ (elements : List Tree) (format : Option String) (provider : Option Separators),
      (sequence elements).render format provider =
        "[" ++ ", ".intercalate (elements.map fun element => element.render format provider) ++
          "]") ∧
    ∀ (tree : Tree) (format : String) (provider : Option Separators),
      (∀ value, tree.Lists (scalar value) → ¬ value.Understands format) →
        tree.render (some format) provider = tree.render none provider := by
  refine ⟨fun outer inner => Context.contains_iff_exists_plug, fun context format provider => ?_,
    fun elements format provider => ?_, fun tree format provider strange => ?_⟩
  · obtain ⟨front, back, placed⟩ := context.exists_render_plug format provider
    refine ⟨front, back, fun tree => ⟨placed tree, fun keyed => ?_⟩⟩
    rw [placed, keyed.render_eq]
  · rw [render, renderElements_eq_map]
  · exact render_congr fun value listed =>
      Scalar.render_of_not_understands (strange value listed) provider

/-- The number seven. -/
def number : Tree :=
  scalar (.atom (.integer ⟨.int .bits32, 7, by decide⟩))

/-- The ninth of March 2024. -/
def day : Tree :=
  scalar (.atom (.date ⟨19791⟩))

/-- A number, a date and a dictionary in a sequence. The number is filled with zeros and the one in
the dictionary is not. The date has a year and no hours, so a pattern that asks for both is not
understood, and the year that stands before the hours is not shown. -/
theorem render_format_hours :
    (dictionary [(.text "k", number)]).IsKeyed ∧
    (∃ front back, (sequence [number, dictionary [(.text "k", number)]]).render (some "D3") none =
      front ++ "[(\"k\": 7)]" ++ back) ∧
    (sequence [number, dictionary [(.text "k", number)]]).render (some "D3") none =
      "[007, [(\"k\": 7)]]" ∧
    (∀ value, (sequence [day, dictionary [(.text "k", number)]]).Lists (scalar value) →
      ¬ value.Understands "%Y-%H") ∧
    (sequence [day, dictionary [(.text "k", number)]]).render (some "%Y-%H") none =
      "[2024-03-09, [(\"k\": 7)]]" := by
  have keyed : (dictionary [(.text "k", number)]).IsKeyed := .dictionary _
  have strange (value : Scalar)
      (listed : (sequence [day, dictionary [(.text "k", number)]]).Lists (scalar value)) :
      ¬ value.Understands "%Y-%H" := by
    obtain ⟨element, among, rest⟩ := listed.of_sequence Tree.noConfusion
    rcases List.mem_pair.mp among with rfl | rfl
    · obtain rfl : Scalar.atom (.date ⟨19791⟩) = value := by simpa [day] using rest.of_scalar
      rw [← Scalar.isSome_formatted?_iff_understands _ _ none]
      decide
    · exact absurd (rest.of_isKeyed keyed) Tree.noConfusion
  obtain ⟨-, placed, -, unchanged⟩ := render_format
  obtain ⟨front, back, shown⟩ := placed [.element [number] []] (some "D3") none
  have kept := (shown (dictionary [(.text "k", number)])).2 keyed
  refine ⟨keyed, ⟨front, back, kept⟩, by decide, strange, ?_⟩
  exact (unchanged _ "%Y-%H" none strange).trans (by decide)

end LogTree.Tree
