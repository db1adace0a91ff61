import LogTree.Value.Basic

/-!
# Notices

What happens to a value while it is captured and is no error is put down as a notice. A computation
that may do so gives a result together with its notices in order.
-/

namespace LogTree

/-- Something worth knowing about a capture. -/
inductive Notice where
  /-- A value of a type was too deep and was kept as text. -/
  | depthReached (maximum : Nat) (typeName : String)
  /-- A member that cannot be read without arguments was left out. -/
  | indexerSkipped (typeName member : String)
  /-- A member with a blank name was left out. -/
  | namelessSkipped (typeName : String)
  /-- A member could not be read. -/
  | accessorFailed (typeName member message : String)
  /-- A policy had something to say. -/
  | remark (message : String)
deriving DecidableEq, Repr

namespace Notice

/-- Text of the notice. -/
def message : Notice → String
  | depthReached maximum typeName =>
    "Maximum destructuring depth " ++ String.ofList (Digits.decimal maximum) ++
      " reached, flattening " ++ typeName
  | indexerSkipped typeName member =>
    "The property accessor " ++ typeName ++ "." ++ member ++
      " is a non-default indexer and was skipped"
  | namelessSkipped typeName => "A member of " ++ typeName ++ " has no name and was skipped"
  | accessorFailed typeName member message =>
    "The property accessor " ++ typeName ++ "." ++ member ++ " threw an exception: " ++ message
  | remark message => message

end Notice

/-- A result with the notices that were put down on the way to it. -/
@[ext]
structure Logged (Result : Type) where
  /-- The result. -/
  value : Result
  /-- The notices in order. -/
  notices : List Notice

namespace Logged

/-- Nothing but a notice. -/
def note (notice : Notice) : Logged Unit :=
  ⟨(), [notice]⟩

instance : Monad Logged where
  pure value := ⟨value, []⟩
  bind first next :=
    let second := next first.value
    ⟨second.value, first.notices ++ second.notices⟩

@[simp]
theorem value_pure {Result : Type} (value : Result) : (pure value : Logged Result).value = value :=
  rfl

@[simp]
theorem notices_pure {Result : Type} (value : Result) : (pure value : Logged Result).notices = [] :=
  rfl

@[simp]
theorem value_bind {First Second : Type} (first : Logged First) (next : First → Logged Second) :
    (first >>= next).value = (next first.value).value :=
  rfl

@[simp]
theorem notices_bind {First Second : Type} (first : Logged First) (next : First → Logged Second) :
    (first >>= next).notices = first.notices ++ (next first.value).notices :=
  rfl

@[simp]
theorem value_map {First Second : Type} (change : First → Second) (first : Logged First) :
    (change <$> first).value = change first.value :=
  rfl

@[simp]
theorem notices_map {First Second : Type} (change : First → Second) (first : Logged First) :
    (change <$> first).notices = first.notices :=
  List.append_nil first.notices

instance : LawfulMonad Logged :=
  LawfulMonad.mk'
    Logged
    (fun computation => by
      ext : 1
      · rfl
      · simp)
    (fun value next => by
      ext : 1
      · rfl
      · simp)
    (fun first second third => by
      ext : 1
      · rfl
      · simp [List.append_assoc])

/-- The results for the items of a list, one after the other. -/
def traverse {Item Result : Type} (act : Item → Logged Result) : List Item → Logged (List Result)
  | [] => pure []
  | item :: items => do
    let result ← act item
    let results ← traverse act items
    return result :: results

@[simp]
theorem value_traverse {Item Result : Type} (act : Item → Logged Result) (items : List Item) :
    (traverse act items).value = items.map fun item => (act item).value := by
  induction items with
  | nil => rfl
  | cons item items induction => simp [traverse, induction]

@[simp]
theorem notices_traverse {Item Result : Type} (act : Item → Logged Result) (items : List Item) :
    (traverse act items).notices = items.flatMap fun item => (act item).notices := by
  induction items with
  | nil => rfl
  | cons item items induction => simp [traverse, induction]

/-- The first answer that asking the items of a list gives; items behind it are not asked. -/
def firstAnswer {Item Result : Type} (ask : Item → Logged (Option Result)) :
    List Item → Logged (Option Result)
  | [] => pure none
  | item :: items => do
    match ← ask item with
    | some result => return some result
    | none => firstAnswer ask items

end Logged

end LogTree
