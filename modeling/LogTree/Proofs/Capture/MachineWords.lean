import LogTree.Capture.DepthLimiter
import LogTree.Proofs.Capture.Limits

/-!
# Limits in machine words

Lengths and depths are counted in machine words. Zero has no word before it, and the greatest word
has none behind it. Wherever a conversion takes the word before or behind another one, there is one,
because limits can be used and because values are not met below the level that follows the deepest
one. So counting in words gives what counting in natural numbers does.
-/

namespace LogTree

attribute [local instance (high)] instPowNat

namespace MachineWord

/-- The word before another one; zero has none. -/
def before? (word : UInt64) : Option UInt64 :=
  if word = 0 then none else some (word - 1)

/-- The word behind another one; the greatest has none. -/
def behind? (word : UInt64) : Option UInt64 :=
  if word.toNat + 1 < 2 ^ (64 : Nat) then some (word + 1) else none

theorem before?_of_pos {word : UInt64} (positive : 0 < word.toNat) :
    ∃ before, before? word = some before ∧ before.toNat = word.toNat - 1 := by
  have nonzero : word ≠ 0 := by
    rintro rfl
    exact absurd positive (by decide)
  have least : (1 : UInt64) ≤ word := UInt64.le_iff_toNat_le.mpr positive
  exact ⟨word - 1, if_neg nonzero, UInt64.toNat_sub_of_le _ _ least⟩

theorem toNat_of_behind? {word behind : UInt64} (next : behind? word = some behind) :
    behind.toNat = word.toNat + 1 := by
  rw [behind?] at next
  split at next
  next small =>
    obtain rfl := Option.some.inj next
    rw [UInt64.toNat_add]
    exact Nat.mod_eq_of_lt small
  next => cases next

end MachineWord

open MachineWord

namespace Limits

/-- The depth as a machine word, in two's complement. -/
def depthWord (limits : Limits) : UInt64 :=
  limits.depth.toInt64.toUInt64

theorem toNat_depthWord {limits : Limits} (usable : Field.depth.Usable limits) :
    (limits.depthWord.toNat : Int) = limits.depth.toInt := by
  have widened : limits.depth.toInt64.toInt = limits.depth.toInt := Int32.toInt_toInt64 _
  have natural : 0 ≤ limits.depth.toInt64 :=
    Int64.le_iff_toInt_le.mpr (widened.symm ▸ usable)
  calc (limits.depthWord.toNat : Int)
    _ = limits.depth.toInt64.toInt.toNat := congrArg _ (Int64.toNat_toUInt64_of_le natural)
    _ = limits.depth.toInt := by rw [widened, Int.toNat_of_nonneg usable]

/-- A text cut to the greatest length, the room for it being counted in machine words; nothing if
there is no such room. -/
def cut? (limits : Limits) (text : String) : Option String :=
  match limits.textLength with
  | none => some text
  | some length =>
    if text.length ≤ length.toNat then some text
    else (before? length).map fun room =>
      String.ofList (text.toList.take room.toNat ++ [Converter.cutMark])

/-- Values are met at a depth: at the outermost one, and one deeper than others, as long as those
are not below the deepest one. -/
inductive Meets (limits : Limits) : UInt64 → Prop where
  | outermost : Meets limits 1
  | deeper {depth deeper : UInt64} : Meets limits depth → ¬ limits.depthWord < depth →
      behind? depth = some deeper → Meets limits deeper

end Limits

namespace Converter

section Words

variable (converter : Converter)

/-- The conversion of values inside of a value at a depth, the depth being counted in machine words.
Where there is no word for the next depth, `overflow` is what comes of it. -/
def nestedInWords (objects : Objects) (overflow : Mode → Value → Logged Tree) (depth : UInt64) :
    Mode → Value → Logged Tree := fun mode value =>
  if converter.limits.depthWord < depth then
    converter.flattened converter.limits.depthWord.toNat value
  else
    match _ : behind? depth with
    | none => overflow mode value
    | some deeper =>
      converter.level objects (nestedInWords objects overflow deeper) mode value
termination_by 2 ^ (64 : Nat) - depth.toNat
decreasing_by
  have counted := toNat_of_behind? ‹behind? depth = some deeper›
  have bounded := deeper.toNat_lt
  omega

/-- The tree of a value, depths being counted in machine words. -/
def convertInWords (objects : Objects) (overflow : Mode → Value → Logged Tree) (mode : Mode)
    (value : Value) : Logged Tree :=
  converter.level objects (converter.nestedInWords objects overflow 1) mode value

theorem cut?_eq (text : String) : converter.limits.cut? text = some (converter.cut text) := by
  rw [Limits.cut?, cut, textLength]
  cases limited : converter.limits.textLength with
  | none => rfl
  | some length =>
    have room : 0 < length.toNat :=
      Nat.lt_of_lt_of_le Nat.zero_lt_two (converter.usable .textLength length limited)
    obtain ⟨before, taken, counted⟩ := before?_of_pos room
    simp only [Option.map_some, taken, counted]
    split <;> rfl

example : ({ textLength := some 0 } : Limits).cut? "a" = none := by decide

theorem toNat_depthWord : converter.limits.depthWord.toNat = converter.depth := by
  rw [depth, ← Limits.toNat_depthWord (converter.usable .depth), Int.toNat_natCast]

theorem depthWord_lt_iff (depth : UInt64) :
    converter.limits.depthWord < depth ↔ converter.depth < depth.toNat := by
  rw [UInt64.lt_iff_toNat_lt, toNat_depthWord]

/-- The deepest level is far from the greatest word. -/
theorem depth_lt : converter.depth < 2 ^ (31 : Nat) := by
  have bounded : converter.limits.depth.toInt < 2 ^ (31 : Nat) := converter.limits.depth.toInt_lt
  rw [depth]
  omega

variable {converter} {depth : UInt64}

theorem le_of_meets (met : converter.limits.Meets depth) : depth.toNat ≤ converter.depth + 1 := by
  induction met with
  | outermost => exact Nat.le_add_left 1 converter.depth
  | deeper met within next _ =>
    rw [depthWord_lt_iff] at within
    have counted := toNat_of_behind? next
    omega

/-- Behind every depth at which values are met there is a word for the next one. -/
theorem exists_behind_of_meets (met : converter.limits.Meets depth) :
    ∃ deeper, behind? depth = some deeper ∧ deeper.toNat = depth.toNat + 1 := by
  have least := le_of_meets met
  have greatest := converter.depth_lt
  have next : behind? depth = some (depth + 1) := if_pos (by omega)
  exact ⟨_, next, toNat_of_behind? next⟩

/-- Where values are met, counting in words gives what the depth limiter there does. -/
theorem nestedInWords_eq (objects : Objects) (overflow : Mode → Value → Logged Tree)
    (met : converter.limits.Meets depth) :
    converter.nestedInWords objects overflow depth =
      (converter.limiterAt depth.toNat).nested objects := by
  rw [← nested_eq_limiter]
  generalize counted : converter.depth + 1 - depth.toNat = levels
  induction levels generalizing depth with
  | zero =>
    have below : converter.limits.depthWord < depth :=
      (converter.depthWord_lt_iff depth).mpr (by omega)
    funext mode value
    rw [nestedInWords, if_pos below, toNat_depthWord, nested]
  | succ levels induction =>
    have within : ¬ converter.limits.depthWord < depth := by
      rw [depthWord_lt_iff]
      omega
    obtain ⟨deeper, next, one_more⟩ := exists_behind_of_meets met
    have further := induction (.deeper met within next) (by omega)
    funext mode value
    rw [nestedInWords, if_neg within, nested, ← further]
    split
    next nothing => exact absurd (next.symm.trans nothing) (Option.some_ne_none deeper)
    next other same =>
      obtain rfl := Option.some.inj (next.symm.trans same)
      rfl

theorem convertInWords_eq (objects : Objects) (overflow : Mode → Value → Logged Tree) (mode : Mode)
    (value : Value) :
    converter.convertInWords objects overflow mode value =
      converter.convert objects mode value := by
  have met : converter.limits.Meets 1 := .outermost
  rw [convertInWords, convert, createAt, nested_eq_limiter, nestedInWords_eq objects overflow met]
  rfl

end Words

/-- All that conversions count is there in machine words, and is what it is in natural numbers. -/
structure ExactInWords (converter : Converter) : Prop where
  /-- A text is cut before a room that there is. -/
  cut (text : String) : converter.limits.cut? text = some (converter.cut text)
  /-- The greatest depth is the same number as a machine word. -/
  depth : (converter.limits.depthWord.toNat : Int) = converter.limits.depth.toInt
  /-- Behind every depth at which values are met there is a word, which is one more. -/
  deeper (depth : UInt64) : converter.limits.Meets depth →
    ∃ deeper, behind? depth = some deeper ∧ deeper.toNat = depth.toNat + 1
  /-- At every such depth policies are given what the depth limiter is for them, whatever comes of
  a depth that is too great. -/
  factory (objects : Objects) (overflow : Mode → Value → Logged Tree) (depth : UInt64) :
    converter.limits.Meets depth →
      converter.factory objects (converter.nestedInWords objects overflow depth) =
        (converter.limiterAt depth.toNat).factory objects
  /-- Values have the trees that they have, whatever comes of a depth that is too great. -/
  convert (objects : Objects) (overflow : Mode → Value → Logged Tree) (mode : Mode)
    (value : Value) :
    converter.convertInWords objects overflow mode value = converter.convert objects mode value

theorem exactInWords (converter : Converter) : converter.ExactInWords where
  cut := converter.cut?_eq
  depth := Limits.toNat_depthWord (converter.usable .depth)
  deeper _ := exists_behind_of_meets
  factory objects overflow _ met :=
    congrArg (converter.factory objects) (nestedInWords_eq objects overflow met)
  convert := convertInWords_eq

end Converter

end LogTree
