import LogTree.Scalar.Hash

/-!
# Sameness of scalars

The comparison of atoms tells apart whatever is not equal, with two exceptions: a moment is the same
at every offset, and paths are the same if they run through the same components. So comparing
scalars is symmetric and transitive, and every scalar is the same as itself but for the values of
registered types that are not. Scalars that are the same have the same hash.
-/

namespace LogTree

namespace Atom

/-- Two atoms count as one. -/
inductive Same : Atom → Atom → Prop where
  /-- They are equal; floating point numbers are if their bit patterns are. -/
  | refl (atom : Atom) : Same atom atom
  /-- They are one moment, shown at some offsets. -/
  | moment {left right : OffsetDateTime} : left.universal = right.universal →
      Same (.offsetDateTime left) (.offsetDateTime right)
  /-- They are paths through the same components. -/
  | path {left right : PathName} : left.components = right.components →
      Same (.path left) (.path right)

theorem Same.symm {left right : Atom} (alike : left.Same right) : right.Same left := by
  cases alike with
  | refl => exact .refl left
  | moment same => exact .moment same.symm
  | path same => exact .path same.symm

theorem Same.trans {left middle right : Atom} (first : left.Same middle)
    (second : middle.Same right) : left.Same right := by
  cases first with
  | refl => exact second
  | moment same =>
    cases second with
    | refl => exact .moment same
    | moment other => exact .moment (same.trans other)
  | path same =>
    cases second with
    | refl => exact .path same
    | path other => exact .path (same.trans other)

theorem same_of_beq {left right : Atom} (alike : left == right) : left.Same right := by
  change instBEqAtom.beq left right = true at alike
  revert alike
  -- One case for each pair of atoms of one kind, and a last one for atoms of different kinds.
  fun_cases instBEqAtom.beq left right with
  | case7 moment other => exact fun alike => .moment (eq_of_beq alike)
  | case16 path other => exact fun alike => .path (eq_of_beq alike)
  | case17 => exact nofun
  | _ =>
    intro alike
    rw [eq_of_beq alike]
    exact .refl _

theorem beq_self (atom : Atom) : atom == atom := by
  change instBEqAtom.beq atom atom = true
  cases atom with
  | offsetDateTime moment => exact beq_self_eq_true moment.universal
  | path value => exact beq_self_eq_true value.components
  | _ => exact beq_self_eq_true _

theorem beq_iff_same {left right : Atom} : left == right ↔ left.Same right := by
  constructor
  · exact same_of_beq
  · intro alike
    cases alike with
    | refl => exact beq_self left
    | @moment left right same =>
      change (left.universal == right.universal) = true
      exact beq_of_eq same
    | @path left right same =>
      change (left.components == right.components) = true
      exact beq_of_eq same

instance : EquivBEq Atom where
  rfl := beq_self _
  symm alike := beq_iff_same.mpr (beq_iff_same.mp alike).symm
  trans first second := beq_iff_same.mpr ((beq_iff_same.mp first).trans (beq_iff_same.mp second))

end Atom

theorem CustomScalar.beq_iff {left right : CustomScalar} :
    left == right ↔ left.typeName = right.typeName ∧ left.key = right.key ∧ left.key ≠ "" := by
  change (left.typeName == right.typeName && left.key == right.key && left.key != "") = true ↔ _
  rw [Bool.and_eq_true, Bool.and_eq_true, beq_iff_eq, beq_iff_eq, bne_iff_ne, and_assoc]

instance : PartialEquivBEq CustomScalar where
  symm alike := by
    obtain ⟨type, key, own⟩ := CustomScalar.beq_iff.mp alike
    exact CustomScalar.beq_iff.mpr ⟨type.symm, key.symm, key ▸ own⟩
  trans first second := by
    obtain ⟨type, key, own⟩ := CustomScalar.beq_iff.mp first
    obtain ⟨further, last, -⟩ := CustomScalar.beq_iff.mp second
    exact CustomScalar.beq_iff.mpr ⟨type.trans further, key.trans last, own⟩

namespace Scalar

/-- Two scalars count as one: they are of one kind, and what they hold does. -/
inductive Same : Scalar → Scalar → Prop where
  | null : Same .null .null
  | atom {left right : Atom} : left == right → Same (.atom left) (.atom right)
  | text (content : String) : Same (.text content) (.text content)
  | constant (value : EnumConstant) : Same (.constant value) (.constant value)
  | custom {left right : CustomScalar} : left == right → Same (.custom left) (.custom right)

theorem beq_iff_same {left right : Scalar} : left == right ↔ left.Same right := by
  constructor
  · change instBEqScalar.beq left right = true → _
    fun_cases instBEqScalar.beq left right with
    | case1 => exact fun _ => .null
    | case2 => exact .atom
    | case3 content other =>
      intro alike
      rw [eq_of_beq alike]
      exact .text other
    | case4 value other =>
      intro alike
      rw [eq_of_beq alike]
      exact .constant other
    | case5 => exact .custom
    | case6 => exact nofun
  · intro alike
    cases alike with
    | null => rfl
    | atom same => exact same
    | text content => exact beq_self_eq_true content
    | constant value => exact beq_self_eq_true value
    | custom same => exact same

instance : PartialEquivBEq Scalar where
  symm alike := by
    refine beq_iff_same.mpr ?_
    cases beq_iff_same.mp alike with
    | null => exact .null
    | atom same => exact .atom (BEq.symm same)
    | text content => exact .text content
    | constant value => exact .constant value
    | custom same => exact .custom (BEq.symm same)
  trans first second := by
    refine beq_iff_same.mpr ?_
    cases beq_iff_same.mp first with
    | atom same =>
      cases beq_iff_same.mp second with
      | atom other => exact .atom (BEq.trans same other)
    | custom same =>
      cases beq_iff_same.mp second with
      | custom other => exact .custom (BEq.trans same other)
    | _ => exact beq_iff_same.mp second

/-- A scalar is the same as itself, as the values of lawfully compared types are. -/
def Lawful (scalar : Scalar) : Prop :=
  ∀ value, scalar = custom value → value == value

theorem lawful_iff {scalar : Scalar} : scalar.Lawful ↔ scalar == scalar := by
  constructor
  · intro lawful
    refine beq_iff_same.mpr ?_
    cases scalar with
    | null => exact .null
    | atom value => exact .atom (beq_self_eq_true value)
    | text content => exact .text content
    | constant value => exact .constant value
    | custom value => exact .custom (lawful value rfl)
  · rintro alike value rfl
    cases beq_iff_same.mp alike with
    | custom same => exact same

theorem Same.hashed_eq {left right : Scalar} (alike : left.Same right) :
    left.hashed = right.hashed := by
  cases alike with
  | null => rfl
  | text => rfl
  | constant => rfl
  | atom same =>
    cases Atom.beq_iff_same.mp same with
    | refl => rfl
    | moment universal => rw [hashed, hashed, Atom.hashed, Atom.hashed, universal]; rfl
    | path components => rw [hashed, hashed, Atom.hashed, Atom.hashed, components]; rfl
  | custom same =>
    obtain ⟨type, key, -⟩ := CustomScalar.beq_iff.mp same
    rw [hashed, hashed, type, key]

/-- Scalars that are the same have the same hash, whatever the hasher makes of what it is given. -/
theorem hashed_eq_of_beq {left right : Scalar} (alike : left == right) :
    left.hashed = right.hashed :=
  (beq_iff_same.mp alike).hashed_eq

/-- Comparing only keys that have the same hash finds the same keys as comparing all of them. -/
theorem probing_eq (hasher : List HashInput → UInt64) : probing hasher = instBEqScalar := by
  refine congrArg BEq.mk (funext fun left => funext fun right => ?_)
  change (hasher left.hashed == hasher right.hashed && left == right) = (left == right)
  rcases Bool.eq_false_or_eq_true (left == right) with alike | apart
  · rw [alike, hashed_eq_of_beq alike, beq_self_eq_true, Bool.and_true]
  · rw [apart, Bool.and_false]

end Scalar

end LogTree
