import LogTree.Capture.DepthLimiter
import LogTree.Proofs.Capture.Limits
import LogTree.Proofs.Capture.Outline

/-!
# Nesting of captured trees

On a way down a captured tree each composite tree takes up a level of the conversion, except for
the pairs of a mapping, which stand inside of the level of their mapping. No way takes up more
levels than may be taken apart, so a tree is nested deeper than that only where pairs are on the
way.
-/

namespace LogTree

/-- A composite tree on a way down. -/
inductive Rung where
  /-- It takes up a level. -/
  | level
  /-- It is the pair of a key and a value, inside of the level of its mapping. -/
  | pair
deriving DecidableEq, Repr

/-- The composite trees on a way down, the uppermost one first. -/
abbrev Route := List Rung

namespace Layer

variable {Child : Type}

/-- The composite trees between a place and what surrounds the layer. -/
def rungs : Layer Child → Route
  | pairs _ => [.level, .pair]
  | _ => [.level]

/-- The ways from a layer down. -/
def routes (below : Child → List Route) : Layer Child → List Route
  | scalar _ => [[]]
  | other => [.level] :: (other.children.flatMap below).map (other.rungs ++ ·)

/-- Whether a layer is more than a scalar. -/
def IsComposite : Layer Child → Prop
  | scalar _ => False
  | _ => True

theorem eq_scalar_of_not_isComposite {layer : Layer Child} (simple : ¬ layer.IsComposite) :
    ∃ value, layer = scalar value := by
  cases layer with
  | scalar value => exact ⟨value, rfl⟩
  | _ => exact absurd trivial simple

theorem forall_routes_iff {below : Child → List Route} {layer : Layer Child}
    (composite : layer.IsComposite) (good : Route → Prop) :
    (∀ route ∈ layer.routes below, good route) ↔
      good [.level] ∧
        ∀ child ∈ layer.children, ∀ rest ∈ below child, good (layer.rungs ++ rest) := by
  have ways : layer.routes below =
      [.level] :: (layer.children.flatMap below).map (layer.rungs ++ ·) := by
    cases layer with
    | scalar value => exact composite.elim
    | _ => rfl
  rw [ways, List.forall_mem_cons, List.forall_mem_map]
  simp only [List.mem_flatMap, forall_exists_index, and_imp]
  exact and_congr_right fun _ =>
    ⟨fun each child member rest way => each rest child member way,
      fun each rest child member way => each child member rest way⟩

theorem nesting_tree_le_iff {layer : Layer Tree} (composite : layer.IsComposite) (bound : Nat) :
    layer.tree.nesting ≤ bound ↔
      1 ≤ bound ∧ ∀ child ∈ layer.children, layer.rungs.length + child.nesting ≤ bound := by
  cases layer with
  | scalar value => exact composite.elim
  | pairs entries =>
    rw [tree, Tree.nesting_le_iff rfl, Tree.children, List.forall_mem_map, children,
      List.forall_mem_flatMap]
    simp only [Tree.nesting_sequence, rungs, List.forall_mem_cons, List.length_cons,
      List.length_nil, List.map_cons, List.map_nil, List.foldr_cons, List.foldr_nil]
    refine and_congr_right fun _ => forall₂_congr fun entry _ => ?_
    simp
    omega
  | _ => exact Tree.nesting_le_iff rfl bound

@[simp]
theorem rungs_map {Other : Type} (change : Child → Other) (layer : Layer Child) :
    (layer.map change).rungs = layer.rungs := by
  cases layer <;> rfl

@[simp]
theorem rungs_merged (layer : Layer Child) : layer.merged.rungs = layer.rungs := by
  cases layer <;> rfl

theorem isComposite_map {Other : Type} {change : Child → Other} {layer : Layer Child}
    (composite : layer.IsComposite) : (layer.map change).IsComposite := by
  cases layer with
  | scalar value => exact composite.elim
  | _ => trivial

theorem count_level_rungs (layer : Layer Child) : layer.rungs.count .level = 1 := by
  cases layer <;> rfl

theorem count_pair_rungs_le (layer : Layer Child) : layer.rungs.count .pair ≤ 1 := by
  cases layer <;> simp [rungs]

end Layer

/-- A way down is as long as there are levels and pairs on it. -/
theorem Route.length_eq (route : Route) :
    route.length = route.count .level + route.count .pair := by
  induction route with
  | nil => rfl
  | cons rung route induction => cases rung <;> simp [induction] <;> omega

namespace Outline

variable {levels : Nat}

/-- The ways down an outline. -/
def routes : {levels : Nat} → Outline levels → List Route
  | 0, _ => [[]]
  | _ + 1, layer => Layer.routes routes layer

@[simp]
theorem routes_ofScalar (value : Scalar) : (ofScalar value).routes = [[]] := rfl

@[simp]
theorem routes_ofLayer (layer : Layer (Outline levels)) :
    (ofLayer layer).routes = layer.routes routes := rfl

theorem exists_route (outline : Outline levels) : ∃ route, route ∈ outline.routes := by
  induction outline using layer_induction with
  | scalar value => exact ⟨[], List.mem_singleton_self []⟩
  | layer layer _ =>
    cases layer with
    | scalar value => exact ⟨[], List.mem_singleton_self []⟩
    | _ => exact ⟨[.level], List.mem_cons_self⟩

/-- The nesting of a tree is the length of the longest way down its outline. -/
theorem nesting_tree_le_iff (outline : Outline levels) (bound : Nat) :
    outline.tree.nesting ≤ bound ↔ ∀ route ∈ outline.routes, route.length ≤ bound := by
  induction outline using layer_induction generalizing bound with
  | scalar value => simp
  | layer layer induction =>
    rw [tree_ofLayer, routes_ofLayer]
    by_cases composite : layer.IsComposite
    · rw [Layer.nesting_tree_le_iff (Layer.isComposite_map composite),
        Layer.forall_routes_iff composite, Layer.children_map, List.forall_mem_map,
        Layer.rungs_map]
      refine and_congr_right fun _ => forall₂_congr fun child _ => ?_
      constructor
      · intro nested rest way
        have shorter := (induction child child.tree.nesting).mp (Nat.le_refl _) rest way
        rw [List.length_append]
        omega
      · intro short
        obtain ⟨rest, way⟩ := child.exists_route
        have first := short rest way
        have below := (induction child (bound - layer.rungs.length)).mpr fun other way => by
          have := short other way
          rw [List.length_append] at this
          omega
        rw [List.length_append] at first
        omega
    · obtain ⟨value, rfl⟩ := Layer.eq_scalar_of_not_isComposite composite
      simp [Layer.map, Layer.tree, Layer.routes]

/-- A way down takes up no more levels than there are, and holds no more pairs than levels. -/
theorem count_le (outline : Outline levels) :
    ∀ route ∈ outline.routes,
      route.count .level ≤ levels ∧ route.count .pair ≤ route.count .level := by
  induction outline using layer_induction with
  | scalar value => simp
  | layer layer induction =>
    rw [routes_ofLayer]
    by_cases composite : layer.IsComposite
    · rw [Layer.forall_routes_iff composite]
      refine ⟨by simp, fun child _ rest way => ?_⟩
      obtain ⟨few_levels, few_pairs⟩ := induction child rest way
      have one_pair := layer.count_pair_rungs_le
      rw [List.count_append, List.count_append, Layer.count_level_rungs]
      omega
    · obtain ⟨value, rfl⟩ := Layer.eq_scalar_of_not_isComposite composite
      simp [Layer.routes]

end Outline

namespace Value

/-- Every mapping that can be reached from a value has keys that can be those of a dictionary. -/
def DictionaryKeyed (objects : Objects) (value : Value) : Prop :=
  ∀ inner mapping, Reaches objects value inner → inner.mapping? = some mapping →
    mapping.key.isDictionaryKey = true

theorem DictionaryKeyed.of_reaches {objects : Objects} {value inner : Value}
    (keyed : DictionaryKeyed objects value) (reached : Reaches objects value inner) :
    DictionaryKeyed objects inner :=
  fun other mapping further mapped => keyed other mapping (reached.trans further) mapped

/-- A value is keyed like a dictionary if it is no other mapping and all that it holds is. -/
theorem DictionaryKeyed.of_holds {objects : Objects} {value : Value}
    (here : ∀ mapping, value.mapping? = some mapping → mapping.key.isDictionaryKey = true)
    (inside : ∀ inner, Holds objects value inner → DictionaryKeyed objects inner) :
    DictionaryKeyed objects value := by
  intro inner mapping reached mapped
  rcases Relation.ReflTransGen.cases_head reached with same | ⟨middle, held, rest⟩
  · exact here mapping (same ▸ mapped)
  · exact inside middle held inner mapping rest mapped

theorem dictionaryKeyed_collection {objects : Objects} {fullName : String} {brackets : Brackets}
    {elements : List Value} (keyed : ∀ element ∈ elements, DictionaryKeyed objects element) :
    DictionaryKeyed objects (.collection fullName brackets elements) := by
  refine .of_holds (fun mapping mapped => ?_) (fun inner held => ?_)
  · simp [mapping?] at mapped
  · exact keyed inner held.mem_collection

/-- A value of a type that can be no key of a dictionary. -/
def towerKey : Value :=
  .object "Token" { typeName := "Token", text := "Token(9)", debug := "Token(9)" }

/-- Mappings inside of one another that are kept as pairs. -/
def tower : Nat → Value
  | 0 => .unit
  | height + 1 => .mapping "MultiMap" ⟨.named "Token", false⟩ [(towerKey, tower height)]

theorem dictionaryKeyed_ring : ring.DictionaryKeyed fun _ => ring := by
  intro inner mapping reached mapped
  rw [eq_ring_of_reaches reached] at mapped
  simp [mapping?, ring] at mapped

end Value

namespace Converter

variable (converter : Converter) (objects : Objects) (mode : Mode)

theorem rungs_layer_of_dictionaryKeyed {value : Value}
    (keyed : value.DictionaryKeyed objects) :
    (converter.layer objects mode value).rungs = [.level] := by
  rcases layer_cases value with ⟨scalar, layered⟩ | ⟨inner, reached, layered⟩
  · rw [layered]
    rfl
  · rw [layered]
    rcases formLayer_cases inner with
      ⟨mapping, mapped, form⟩ | ⟨elements, -, form⟩ | ⟨members, -, form⟩ | form
    · rw [form, mappingLayer, if_pos (keyed inner mapping reached mapped)]
      rfl
    · rw [form]
      rfl
    · rw [form]
      rfl
    · rw [form]
      rfl

/-- A value whose mappings all become dictionaries is captured without pairs. -/
theorem count_pair_eq_zero (levels : Nat) (request : Request)
    (keyed : request.Satisfies (Value.DictionaryKeyed objects)) :
    ∀ route ∈ (converter.outlineWithin objects mode levels request).routes,
      route.count .pair = 0 := by
  induction levels generalizing request with
  | zero => cases request <;> simp [outlineWithin]
  | succ levels induction =>
    cases request with
    | unreadable owner member message => simp [outlineWithin, Layer.routes]
    | value content =>
      have content_keyed := keyed content rfl
      rw [outlineWithin, Outline.routes_ofLayer]
      -- The rungs are those of the layer itself: neither filling its places nor writing its entries
      -- makes pairs of a dictionary.
      by_cases composite : (Layer.map (converter.outlineWithin objects mode levels)
          (converter.layer objects mode content)).merged.IsComposite
      · rw [Layer.forall_routes_iff composite, Layer.rungs_merged, Layer.rungs_map,
          converter.rungs_layer_of_dictionaryKeyed objects mode content_keyed]
        refine ⟨rfl, fun child found rest way => ?_⟩
        obtain ⟨place, inside, rfl⟩ := Layer.exists_of_mem_children found
        have below := induction place
          (satisfies_of_mem_layer (fun _ reached => content_keyed.of_reaches reached) inside)
        rw [List.count_append, below rest way]
        rfl
      · obtain ⟨scalar, simple⟩ := Layer.eq_scalar_of_not_isComposite composite
        simp [simple, Layer.routes]

/-- What is built in a number of levels is not nested deeper than that, unless there are pairs. -/
theorem nesting_outlineWithin_le (levels : Nat) {value : Value}
    (keyed : value.DictionaryKeyed objects) :
    (converter.outlineWithin objects mode levels (.value value)).tree.nesting ≤ levels := by
  rw [Outline.nesting_tree_le_iff]
  intro route way
  have few_levels := (Outline.count_le _ route way).1
  have no_pairs := converter.count_pair_eq_zero objects mode levels (.value value)
    (Request.satisfies_value keyed) route way
  rw [Route.length_eq, no_pairs]
  exact few_levels

/-- A captured tree is nested deeper than there are levels exactly if some way down holds more pairs
than it leaves levels unused. Dictionaries hold no pairs, and pairs at most double the nesting. -/
theorem nesting_convert (free : converter.PolicyFree) (value : Value) :
    ((converter.convert objects mode value).value.nesting ≤ converter.depth + 1 ↔
      ∀ route ∈ (converter.outline objects mode value).routes,
        route.count .pair ≤ converter.depth + 1 - route.count .level) ∧
    (value.DictionaryKeyed objects →
      (converter.convert objects mode value).value.nesting ≤ converter.depth + 1) ∧
    (converter.convert objects mode value).value.nesting ≤ 2 * (converter.depth + 1) := by
  rw [value_convert objects mode free]
  refine ⟨?_, converter.nesting_outlineWithin_le objects mode (converter.depth + 1), ?_⟩
  · rw [Outline.nesting_tree_le_iff]
    refine forall₂_congr fun route way => ?_
    have few_levels := (Outline.count_le _ route way).1
    rw [Route.length_eq]
    omega
  · rw [Outline.nesting_tree_le_iff]
    intro route way
    have few := Outline.count_le _ route way
    rw [Route.length_eq]
    omega

theorem nesting_convert_ring :
    (ofLimits { depth := 2 } (by decide)).PolicyFree ∧
      Value.ring.DictionaryKeyed (fun _ => .ring) ∧
        ((ofLimits { depth := 2 } (by decide)).convert (fun _ => .ring) .destructure
          .ring).value.nesting ≤ 3 := by
  have free := policyFree_ofLimits { depth := 2 } (by decide)
  have bounds := nesting_convert _ (fun _ => .ring) .destructure free .ring
  exact ⟨free, Value.dictionaryKeyed_ring, bounds.2.1 Value.dictionaryKeyed_ring⟩

/-- The pairs of a mapping stand deeper than the greatest depth. -/
theorem not_forall_nesting_convert_le :
    ¬ ∀ converter : Converter, converter.PolicyFree → ∀ objects mode value,
      (converter.convert objects mode value).value.nesting ≤ converter.depth + 1 := by
  intro bounded
  have shallow := bounded (ofLimits { depth := 0 } (by decide))
    (policyFree_ofLimits { depth := 0 } (by decide)) (fun _ => .unit) .default (.tower 1)
  exact absurd shallow (by decide)

/-- A greatest number of elements is at least one. -/
theorem collectionCount_pos {count : Nat} (limited : converter.collectionCount = some count) :
    0 < count := by
  obtain ⟨limit, given, rfl⟩ := Option.map_eq_some_iff.mp limited
  exact converter.usable .collectionCount limit given

theorem kept_singleton {Item : Type} (item : Item) : converter.kept [item] = [item] := by
  rw [kept]
  cases limited : converter.collectionCount with
  | none => rfl
  | some count => exact List.take_of_length_le (converter.collectionCount_pos limited)

theorem layer_towerKey (unregistered : converter.registered = []) :
    converter.layer objects .default .towerKey = .scalar (.text "Token(9)") := by
  cases converter
  subst unregistered
  rfl

theorem layer_tower (unregistered : converter.registered = []) (height : Nat) :
    converter.layer objects .default (.tower (height + 1)) =
      .pairs [(.value .towerKey, .value (.tower height))] := by
  have settled : converter.settle .default (.tower (height + 1)) =
      .form (.tower (height + 1)) := by
    cases converter
    subst unregistered
    rfl
  rw [layer, settled]
  simp only [formLayer, Value.tower, Value.mapping?, mappingLayer, kept_singleton]
  rfl

theorem nesting_answer_tower (free : converter.PolicyFree)
    (unregistered : converter.registered = []) (levels : Nat) :
    (converter.answer objects .default levels (.value (.tower levels))).value.nesting =
      2 * levels := by
  induction levels with
  | zero => rfl
  | succ levels induction =>
    have key : (converter.answer objects .default levels (.value .towerKey)).value.nesting = 0 := by
      cases levels with
      | zero => rfl
      | succ levels =>
        rw [answer, answerBy, nested_succ_eq_run objects .default free,
          layer_towerKey converter objects unregistered]
        rfl
    rw [answer, answerBy, nested_succ_eq_run objects .default free,
      layer_tower converter objects unregistered, Layer.value_run]
    simp only [Layer.map, Layer.merged, Layer.tree, List.map_cons, List.map_nil,
      Tree.nesting_sequence, key, induction, List.foldr_cons, List.foldr_nil]
    omega

/-- A tower holds a pair at each level, so it is nested twice as deep as there are levels. -/
theorem nesting_convert_tower (free : converter.PolicyFree)
    (unregistered : converter.registered = []) :
    (converter.convert objects .default (.tower (converter.depth + 1))).value.nesting =
      2 * (converter.depth + 1) :=
  converter.nesting_answer_tower objects free unregistered (converter.depth + 1)

end Converter

namespace DepthLimiter

/-- What a limiter makes of a value that is keyed like a dictionary is nested no deeper than there
are levels left of its converter. -/
theorem nesting_create_le (limiter : DepthLimiter) (free : limiter.converter.PolicyFree)
    (objects : Objects) (mode : Mode) (value : Option Value)
    (keyed : ∀ present, value = some present → present.DictionaryKeyed objects) :
    ((limiter.factory objects).create value mode).value.nesting ≤
      limiter.converter.depth - limiter.current + 1 := by
  cases value with
  | none => exact Nat.zero_le _
  | some present =>
    change (limiter.nested objects mode present).value.nesting ≤ _
    rw [nested]
    split
    · exact Nat.zero_le _
    · have left : limiter.converter.depth + 1 - (limiter.current + 1) + 1 =
          limiter.converter.depth - limiter.current + 1 := by omega
      rw [Converter.value_createAt objects mode free, left]
      exact limiter.converter.nesting_outlineWithin_le objects mode _ (keyed present rfl)

/-- A collection inside of a collection. -/
def shelf : Value :=
  .collection "Vec" .square [.collection "Vec" .square []]

theorem dictionaryKeyed_shelf (objects : Objects) : shelf.DictionaryKeyed objects := by
  refine Value.dictionaryKeyed_collection fun element member => ?_
  obtain rfl := List.mem_singleton.mp member
  exact Value.dictionaryKeyed_collection fun _ none => absurd none List.not_mem_nil

theorem nesting_create_shelf :
    (Converter.ofLimits { depth := 5 } (by decide)).PolicyFree ∧
      shelf.DictionaryKeyed (fun _ => .unit) ∧
        (((⟨Converter.ofLimits { depth := 5 } (by decide), 4, 4⟩ : DepthLimiter).factory
          fun _ => .unit).create (some shelf) .default).value.nesting ≤ 2 := by
  have free := Converter.policyFree_ofLimits { depth := 5 } (by decide)
  have keyed := dictionaryKeyed_shelf fun _ => .unit
  exact ⟨free, keyed,
    nesting_create_le ⟨_, 4, 4⟩ free _ .default (some shelf)
      fun _ same => Option.some.inj same ▸ keyed⟩

/-- Below the values that it hands over, the greatest depth of a limiter is not minded. -/
theorem not_forall_nesting_create_le :
    ¬ ∀ limiter : DepthLimiter, limiter.converter.PolicyFree →
      limiter.current ≤ limiter.maximum → limiter.maximum ≤ limiter.converter.depth →
        ∀ (objects : Objects) (mode : Mode) (value : Value), value.DictionaryKeyed objects →
          ((limiter.factory objects).create (some value) mode).value.nesting ≤
            limiter.maximum - limiter.current + 1 := by
  intro bounded
  have shallow := bounded ⟨Converter.ofLimits { depth := 5 } (by decide), 1, 1⟩
    (Converter.policyFree_ofLimits { depth := 5 } (by decide)) (by decide) (by decide)
    (fun _ => .unit) .default shelf (dictionaryKeyed_shelf _)
  exact absurd shallow (by decide)

end DepthLimiter

end LogTree
