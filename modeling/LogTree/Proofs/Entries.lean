import LogTree.Entries

/-!
# Entries in order of insertion, as lists

Writing pairs in order leaves no more entries than there are pairs, and no value that was not among
them. Under each key the value is found that was written last, and pairs with different keys are
left as they are. Keys stand in the order in which they were written first. What is done to every
value may be done before or after the writing. Pairs that are written under the same text are
merged.
-/

namespace LogTree.Entries

variable {Key Value : Type} [BEq Key]

theorem length_insert_le (key : Key) (value : Value) (entries : List (Key × Value)) :
    (insert key value entries).length ≤ entries.length + 1 := by
  induction entries with
  | nil => exact Nat.le_refl _
  | cons entry entries induction =>
    rw [insert]
    split
    · simp
    · simpa using induction

theorem length_insertAll_le (pairs entries : List (Key × Value)) :
    (insertAll pairs entries).length ≤ entries.length + pairs.length := by
  induction pairs generalizing entries with
  | nil => exact Nat.le_refl _
  | cons pair pairs induction =>
    have written := length_insert_le pair.1 pair.2 entries
    have rest := induction (insert pair.1 pair.2 entries)
    rw [insertAll, List.foldl_cons, ← insertAll, List.length_cons]
    omega

theorem length_ofList_le (pairs : List (Key × Value)) : (ofList pairs).length ≤ pairs.length := by
  simpa [ofList] using length_insertAll_le pairs []

theorem mem_insert {key : Key} {value content : Value} {entries : List (Key × Value)}
    (found : content ∈ (insert key value entries).map (·.2)) :
    content = value ∨ content ∈ entries.map (·.2) := by
  induction entries with
  | nil => exact Or.inl (by simpa [insert] using found)
  | cons entry entries induction =>
    rw [insert] at found
    split at found
    · rcases List.mem_cons.mp found with here | later
      · exact Or.inl here
      · exact Or.inr (List.mem_cons_of_mem entry.2 later)
    · rcases List.mem_cons.mp found with here | later
      · exact Or.inr (List.mem_cons.mpr (Or.inl here))
      · rcases induction later with new | old
        · exact Or.inl new
        · exact Or.inr (List.mem_cons_of_mem entry.2 old)

theorem mem_insertAll {pairs entries : List (Key × Value)} {content : Value}
    (found : content ∈ (insertAll pairs entries).map (·.2)) :
    content ∈ entries.map (·.2) ∨ content ∈ pairs.map (·.2) := by
  induction pairs generalizing entries with
  | nil => exact Or.inl found
  | cons pair pairs induction =>
    rcases induction found with first | later
    · rcases mem_insert first with new | old
      · exact Or.inr (List.mem_cons.mpr (Or.inl new))
      · exact Or.inl old
    · exact Or.inr (List.mem_cons_of_mem pair.2 later)

/-- A value among the entries was written. -/
theorem mem_ofList {pairs : List (Key × Value)} {content : Value}
    (found : content ∈ (ofList pairs).map (·.2)) : content ∈ pairs.map (·.2) := by
  rcases mem_insertAll found with initial | written
  · simp at initial
  · exact written

section Keys

variable [LawfulBEq Key]

theorem keys_insert (key : Key) (value : Value) (entries : List (Key × Value)) :
    (insert key value entries).map (·.1) =
      if key ∈ entries.map (·.1) then entries.map (·.1) else entries.map (·.1) ++ [key] := by
  induction entries with
  | nil => rfl
  | cons entry entries induction =>
    rw [insert]
    by_cases same : entry.1 = key
    · simp [same]
    · have apart : (entry.1 == key) = false := beq_false_of_ne same
      simp only [apart, Bool.false_eq_true, if_false, List.map_cons, induction, List.mem_cons,
        Ne.symm same, false_or]
      split <;> rfl

theorem nodup_insert (key : Key) (value : Value) {entries : List (Key × Value)}
    (distinct : (entries.map (·.1)).Nodup) : ((insert key value entries).map (·.1)).Nodup := by
  rw [keys_insert]
  split
  next => exact distinct
  next new =>
    refine List.nodup_append.mpr ⟨distinct, List.pairwise_singleton _ key, ?_⟩
    intro old present other added same
    rw [same, List.mem_singleton.mp added] at present
    exact new present

theorem nodup_insertAll (pairs : List (Key × Value)) {entries : List (Key × Value)}
    (distinct : (entries.map (·.1)).Nodup) : ((insertAll pairs entries).map (·.1)).Nodup := by
  induction pairs generalizing entries with
  | nil => exact distinct
  | cons pair pairs induction => exact induction (nodup_insert pair.1 pair.2 distinct)

/-- However often a key is written, it occurs once. -/
theorem nodup_ofList (pairs : List (Key × Value)) : ((ofList pairs).map (·.1)).Nodup :=
  nodup_insertAll pairs List.nodup_nil

end Keys

theorem find?_eq (key : Key) (entries : List (Key × Value)) :
    find? key entries = (entries.find? fun entry => entry.1 == key).map (·.2) := by
  induction entries with
  | nil => rfl
  | cons entry entries induction =>
    rw [find?, List.find?_cons]
    cases entry.1 == key with
    | true => rfl
    | false => exact induction

theorem find?_append (key : Key) (front back : List (Key × Value)) :
    find? key (front ++ back) = (find? key front).or (find? key back) := by
  induction front with
  | nil => rfl
  | cons entry front induction =>
    rw [List.cons_append, find?, find?, induction]
    split <;> rfl

theorem find?_map {Other : Type} (change : Value → Other) (key : Key)
    (entries : List (Key × Value)) :
    find? key (entries.map fun entry => (entry.1, change entry.2)) =
      (find? key entries).map change := by
  induction entries with
  | nil => rfl
  | cons entry entries induction =>
    rw [List.map_cons, find?, find?, induction]
    split <;> rfl

theorem isSome_find? [ReflBEq Key] {key : Key} {entries : List (Key × Value)}
    (written : key ∈ entries.map (·.1)) : (find? key entries).isSome := by
  induction entries with
  | nil => exact absurd written List.not_mem_nil
  | cons entry entries induction =>
    rw [find?]
    rcases List.mem_cons.mp written with rfl | later
    · rw [beq_self_eq_true, if_pos rfl]
      rfl
    · split
      · rfl
      · exact induction later

/-- Only the key that a value is written under is changed by the writing. -/
theorem find?_insert [PartialEquivBEq Key] (key other : Key) (value : Value)
    (entries : List (Key × Value)) :
    find? other (insert key value entries) =
      if key == other then some value else find? other entries := by
  induction entries with
  | nil => rfl
  | cons entry entries induction =>
    rw [insert]
    by_cases here : entry.1 == key
    · have alike : (entry.1 == other) = (key == other) := BEq.congr_left here
      rw [if_pos here, find?, find?, alike]
      split <;> rfl
    · rw [if_neg here, find?, find?, induction]
      by_cases found : entry.1 == other
      · have apart : ¬ (key == other) := fun same => here (BEq.trans found (BEq.symm same))
        rw [if_pos found, if_neg apart, if_pos found]
      · rw [if_neg found, if_neg found]

/-- Of the pairs that are written the last one of a key is found, and what was there before only if
there is none. -/
theorem find?_insertAll [PartialEquivBEq Key] (key : Key) (pairs entries : List (Key × Value)) :
    find? key (insertAll pairs entries) = find? key (pairs.reverse ++ entries) := by
  induction pairs generalizing entries with
  | nil => rfl
  | cons pair pairs induction =>
    have rest := induction (insert pair.1 pair.2 entries)
    rw [insertAll, List.foldl_cons, ← insertAll, rest, List.reverse_cons, List.append_assoc,
      find?_append, find?_append, find?_insert]
    rfl

theorem find?_ofList [PartialEquivBEq Key] (key : Key) (pairs : List (Key × Value)) :
    find? key (ofList pairs) = find? key pairs.reverse := by
  rw [ofList, find?_insertAll, List.append_nil]

/-- No two entries have the same key. -/
def Distinct (entries : List (Key × Value)) : Prop :=
  entries.Pairwise fun first second => (first.1 == second.1) = false

theorem insert_of_new {key : Key} (value : Value) {entries : List (Key × Value)}
    (new : ∀ entry ∈ entries, (entry.1 == key) = false) :
    insert key value entries = entries ++ [(key, value)] := by
  induction entries with
  | nil => rfl
  | cons entry entries induction =>
    obtain ⟨here, later⟩ := List.forall_mem_cons.mp new
    rw [insert, here, induction later]
    rfl

theorem insertAll_of_distinct {pairs entries : List (Key × Value)}
    (distinct : Distinct (entries ++ pairs)) : insertAll pairs entries = entries ++ pairs := by
  induction pairs generalizing entries with
  | nil => exact (List.append_nil entries).symm
  | cons pair pairs induction =>
    have new : ∀ entry ∈ entries, (entry.1 == pair.1) = false := fun entry member =>
      (List.pairwise_append.mp distinct).2.2 entry member pair List.mem_cons_self
    rw [List.append_cons] at distinct
    rw [insertAll, List.foldl_cons, ← insertAll, insert_of_new pair.2 new, induction distinct,
      List.append_cons entries pair pairs]

/-- Pairs with different keys are the entries that they leave. -/
theorem ofList_of_distinct {pairs : List (Key × Value)} (distinct : Distinct pairs) :
    ofList pairs = pairs :=
  insertAll_of_distinct distinct

/-- Of entries with different keys each is found whose key is the same as itself. -/
theorem find?_of_distinct {entries : List (Key × Value)} (distinct : Distinct entries)
    {entry : Key × Value} (member : entry ∈ entries) (own : entry.1 == entry.1) :
    find? entry.1 entries = some entry.2 := by
  induction entries with
  | nil => exact absurd member List.not_mem_nil
  | cons first entries induction =>
    obtain ⟨apart, distinct⟩ := List.pairwise_cons.mp distinct
    rw [find?]
    rcases List.mem_cons.mp member with rfl | later
    · rw [own, if_pos rfl]
    · rw [apart entry later, if_neg Bool.false_ne_true, induction distinct later]

theorem find?_reverse_of_distinct [PartialEquivBEq Key] (key : Key)
    {entries : List (Key × Value)} (distinct : Distinct entries) :
    find? key entries.reverse = find? key entries := by
  rw [← find?_ofList, ofList_of_distinct distinct]

theorem key_of_mem_insert {key : Key} {value : Value} {entries : List (Key × Value)}
    {entry : Key × Value} (found : entry ∈ insert key value entries) :
    entry.1 = key ∨ entry.1 ∈ entries.map (·.1) := by
  induction entries with
  | nil => exact Or.inl (congrArg Prod.fst (List.mem_singleton.mp found))
  | cons first entries induction =>
    rw [insert] at found
    split at found
    · rcases List.mem_cons.mp found with rfl | later
      · exact Or.inr List.mem_cons_self
      · exact Or.inr (List.mem_cons_of_mem _ (List.mem_map_of_mem later))
    · rcases List.mem_cons.mp found with rfl | later
      · exact Or.inr List.mem_cons_self
      · exact (induction later).imp_right (List.mem_cons_of_mem _)

theorem distinct_insert (key : Key) (value : Value) {entries : List (Key × Value)}
    (distinct : Distinct entries) : Distinct (insert key value entries) := by
  induction entries with
  | nil => exact List.pairwise_singleton _ _
  | cons first entries induction =>
    obtain ⟨apart, distinct⟩ := List.pairwise_cons.mp distinct
    rw [insert]
    by_cases here : first.1 == key
    · rw [if_pos here]
      exact List.pairwise_cons.mpr ⟨apart, distinct⟩
    · rw [if_neg here]
      refine List.pairwise_cons.mpr ⟨fun entry found => ?_, induction distinct⟩
      rcases key_of_mem_insert found with new | old
      · rw [new]
        exact Bool.eq_false_iff.mpr here
      · obtain ⟨other, member, same⟩ := List.mem_map.mp old
        rw [← same]
        exact apart other member

/-- However often keys are written, no two entries that are left have the same key. -/
theorem distinct_ofList (pairs : List (Key × Value)) : Distinct (ofList pairs) := by
  have written (entries : List (Key × Value)) (distinct : Distinct entries) :
      Distinct (insertAll pairs entries) := by
    induction pairs generalizing entries with
    | nil => exact distinct
    | cons pair pairs induction => exact induction _ (distinct_insert pair.1 pair.2 distinct)
  exact written [] List.Pairwise.nil

section Map

variable {Other : Type} (change : Value → Other)

theorem insert_map (key : Key) (value : Value) (entries : List (Key × Value)) :
    insert key (change value) (entries.map fun entry => (entry.1, change entry.2)) =
      (insert key value entries).map fun entry => (entry.1, change entry.2) := by
  induction entries with
  | nil => rfl
  | cons entry entries induction =>
    rw [List.map_cons, insert, insert]
    split
    · rfl
    · rw [induction, List.map_cons]

theorem insertAll_map (pairs entries : List (Key × Value)) :
    insertAll (pairs.map fun pair => (pair.1, change pair.2))
        (entries.map fun entry => (entry.1, change entry.2)) =
      (insertAll pairs entries).map fun entry => (entry.1, change entry.2) := by
  induction pairs generalizing entries with
  | nil => rfl
  | cons pair pairs induction =>
    simp only [insertAll, List.map_cons, List.foldl_cons]
    rw [insert_map]
    exact induction (insert pair.1 pair.2 entries)

theorem ofList_map (pairs : List (Key × Value)) :
    ofList (pairs.map fun pair => (pair.1, change pair.2)) =
      (ofList pairs).map fun entry => (entry.1, change entry.2) :=
  insertAll_map change pairs []

omit [BEq Key] in
/-- Entries may be rewritten in two ways that agree on their values. -/
theorem map_congr_values {Name : Type} (written : Key → Name) {change other : Value → Other}
    {entries : List (Key × Value)}
    (same : ∀ content ∈ entries.map (·.2), change content = other content) :
    (entries.map fun entry => (written entry.1, change entry.2)) =
      entries.map fun entry => (written entry.1, other entry.2) := by
  refine List.map_congr_left fun entry among => ?_
  rw [same entry.2 (List.mem_map_of_mem among)]

end Map

section Merging

variable {Name : Type} [BEq Name]

/-- The entries whose keys are written as a name. -/
def under (written : Key → Name) (name : Name) (entries : List (Key × Value)) :
    List (Key × Value) :=
  entries.filter fun entry => name == written entry.1

/-- The entries whose keys are written in another way. -/
def besides (written : Key → Name) (name : Name) (entries : List (Key × Value)) :
    List (Key × Value) :=
  entries.filter fun entry => !(name == written entry.1)

/-- The first entry keeps its place when others are written, and takes the last value that is
written under its key. -/
theorem insertAll_cons (pairs entries : List (Key × Value)) (first : Key × Value) :
    insertAll pairs (first :: entries) =
      (first.1, ((under id first.1 pairs).getLastD first).2) ::
        insertAll (besides id first.1 pairs) entries := by
  induction pairs generalizing first entries with
  | nil => rfl
  | cons pair pairs induction =>
    simp only [insertAll, List.foldl_cons, insert, under, besides, List.filter_cons, id_eq]
      at induction ⊢
    by_cases same : first.1 == pair.1
    · simp only [same, if_true, Bool.not_true, Bool.false_eq_true, if_false, induction,
        List.getLastD_cons]
      cases pairs.filter fun pair => first.1 == pair.1 with
      | nil => rfl
      | cons later further => rfl
    · simp only [same, if_false, Bool.not_false, if_true, induction, List.foldl_cons,
        Bool.false_eq_true]

omit [BEq Key]

theorem length_besides_le (written : Key → Name) (name : Name) (entries : List (Key × Value)) :
    (besides written name entries).length ≤ entries.length :=
  List.length_filter_le _ entries

/-- The entries in which each written key occurs once, at the place of the first entry that has it
and with the value of the last one. -/
def merged (written : Key → Name) : List (Key × Value) → List (Key × Value)
  | [] => []
  | entry :: entries =>
    (entry.1, ((under written (written entry.1) entries).getLastD entry).2) ::
      merged written (besides written (written entry.1) entries)
termination_by entries => entries.length
decreasing_by exact Nat.lt_succ_of_le (length_besides_le written _ entries)

/-- Writing entries under names merges those that are written alike. -/
theorem ofList_map_key (written : Key → Name) (entries : List (Key × Value)) :
    ofList (entries.map fun entry => (written entry.1, entry.2)) =
      (merged written entries).map fun entry => (written entry.1, entry.2) := by
  fun_induction merged written entries with
  | case1 => rfl
  | case2 entry entries induction =>
    have last := List.getLastD_map (f := fun entry => (written entry.1, entry.2))
      (l := under written (written entry.1) entries) (a := entry)
    have alike : under id (written entry.1)
        (entries.map fun entry => (written entry.1, entry.2)) =
        (under written (written entry.1) entries).map
          fun entry => (written entry.1, entry.2) := List.filter_map
    have others : besides id (written entry.1)
        (entries.map fun entry => (written entry.1, entry.2)) =
        (besides written (written entry.1) entries).map
          fun entry => (written entry.1, entry.2) := List.filter_map
    rw [List.map_cons, List.map_cons, ← induction, ofList, insertAll, List.foldl_cons, ← insertAll,
      insert, insertAll_cons, alike, others, last]
    rfl

theorem ofList_map_written {Other : Type} (written : Key → Name) (change : Value → Other)
    (entries : List (Key × Value)) :
    ofList (entries.map fun entry => (written entry.1, change entry.2)) =
      (merged written entries).map fun entry => (written entry.1, change entry.2) := by
  have changed := ofList_map change (entries.map fun entry => (written entry.1, entry.2))
  rwa [ofList_map_key, List.map_map, List.map_map] at changed

theorem nodup_merged [LawfulBEq Name] (written : Key → Name) (entries : List (Key × Value)) :
    ((merged written entries).map fun entry => written entry.1).Nodup := by
  have distinct := nodup_ofList (entries.map fun entry => (written entry.1, entry.2))
  rwa [ofList_map_key, List.map_map] at distinct

theorem mem_merged (written : Key → Name) {entries : List (Key × Value)} {content : Value}
    (found : content ∈ (merged written entries).map (·.2)) : content ∈ entries.map (·.2) := by
  have placed : content ∈
      (ofList (entries.map fun entry => (written entry.1, entry.2))).map (·.2) := by
    rwa [ofList_map_key, List.map_map]
  have among := mem_ofList placed
  rwa [List.map_map] at among

theorem merged_cons_of_not_mem [LawfulBEq Name] (written : Key → Name) {entry : Key × Value}
    {entries : List (Key × Value)}
    (new : written entry.1 ∉ entries.map fun other => written other.1) :
    merged written (entry :: entries) = entry :: merged written entries := by
  have differs : ∀ later ∈ entries, (written entry.1 == written later.1) = false := by
    intro later among
    exact beq_false_of_ne fun same => new (List.mem_map.mpr ⟨later, among, same.symm⟩)
  have others : besides written (written entry.1) entries = entries :=
    List.filter_eq_self.mpr fun later among => by rw [differs later among]; rfl
  have alike : under written (written entry.1) entries = [] :=
    List.filter_eq_nil_iff.mpr fun later among => by simp [differs later among]
  rw [merged, others, alike]
  rfl

/-- Nothing is merged if no key is written twice. -/
theorem merged_of_nodup [LawfulBEq Name] (written : Key → Name) (entries : List (Key × Value))
    (distinct : (entries.map fun entry => written entry.1).Nodup) :
    merged written entries = entries := by
  induction entries with
  | nil => rw [merged]
  | cons entry entries induction =>
    obtain ⟨new, distinct⟩ := List.nodup_cons.mp distinct
    rw [merged_cons_of_not_mem written new, induction distinct]

/-- Written as they are, entries are the merged ones. -/
theorem ofList_eq_merged [BEq Key] (pairs : List (Key × Value)) :
    ofList pairs = merged id pairs := by
  simpa using ofList_map_key id pairs

end Merging

/-- Each key that is written stands once among the entries, and the keys are in the order in which
they were written first. -/
theorem keys_ofList [PartialEquivBEq Key] (pairs : List (Key × Value)) :
    (ofList pairs).map (·.1) = (pairs.map (·.1)).eraseDups := by
  rw [ofList_eq_merged]
  fun_induction merged id pairs with
  | case1 => rfl
  | case2 entry entries induction =>
    have others : (besides id entry.1 entries).map (·.1) =
        (entries.map (·.1)).filter fun key => !key == entry.1 := by
      rw [List.filter_map, besides]
      congr 2
      funext other
      exact congrArg Bool.not BEq.comm
    rw [List.map_cons, List.map_cons, List.eraseDups_cons, ← others]
    exact congrArg (entry.1 :: ·) induction

end LogTree.Entries
