import BrokerTenancy.Sorted.Map

/-!
Looking keys up in sorted maps. A map is told by its look-ups: what `find?` says after each
operation, and that the listed entries are exactly the entries that can be looked up.
-/

namespace BrokerTenancy.SortedMap

section Lookup

variable {Key Value : Type} [DecidableEq Key]

theorem lookup_cons_if (key head : Key) (held : Value) (rest : List (Key × Value)) :
    ((head, held) :: rest).lookup key = if key = head then some held else rest.lookup key := by
  by_cases same : key = head
  · simp [same]
  · have test : (key == head) = false := beq_eq_false_iff_ne.mpr same
    simp only [List.lookup_cons, test, if_neg same]

/-- Looking up a key in a list of entries that items were made into. -/
theorem lookup_map {Item : Type} (keyOf : Item → Key) (valueOf : Item → Value) (key : Key)
    (items : List Item) :
    (items.map fun item => (keyOf item, valueOf item)).lookup key =
      (items.find? fun item => keyOf item == key).map valueOf := by
  induction items with
  | nil => rfl
  | cons item rest induction =>
      rw [List.map_cons, lookup_cons_if, induction, List.find?_cons]
      by_cases same : key = keyOf item
      · simp [same]
      · have test : (keyOf item == key) = false := beq_eq_false_iff_ne.mpr (Ne.symm same)
        rw [if_neg same, test]

theorem lookup_filter_ne (key other : Key) (entries : List (Key × Value)) :
    (entries.filter fun entry => entry.1 != key).lookup other =
      if other = key then none else entries.lookup other := by
  induction entries with
  | nil => simp
  | cons head rest induction =>
      obtain ⟨headKey, held⟩ := head
      by_cases dropped : headKey = key
      · subst dropped
        rw [List.filter_cons_of_neg (by simp), induction, lookup_cons_if]
        split <;> rfl
      · rw [List.filter_cons_of_pos (by simpa using dropped), lookup_cons_if, lookup_cons_if,
          induction]
        by_cases atHead : other = headKey
        · have notKey : other ≠ key := fun same => dropped (atHead.symm.trans same)
          rw [if_pos atHead, if_pos atHead, if_neg notKey]
        · rw [if_neg atHead, if_neg atHead]

end Lookup

variable {Key Value : Type} [Ord Key] [DecidableEq Key]

omit [DecidableEq Key] in
theorem eq_of_entries {left right : SortedMap Key Value} (same : left.entries = right.entries) :
    left = right := by
  cases left
  cases right
  cases same
  rfl

@[simp]
theorem find_empty (key : Key) : (empty : SortedMap Key Value).find? key = none := rfl

@[simp]
theorem find_erase (map : SortedMap Key Value) (key other : Key) :
    (map.erase key).find? other = if other = key then none else map.find? other :=
  lookup_filter_ne key other map.entries

theorem lookup_insert_entry [Std.LawfulEqOrd Key] (key other : Key) (value : Value)
    (entries : List (Key × Value)) :
    (insertEntry key value entries).lookup other =
      if other = key then some value else entries.lookup other := by
  induction entries with
  | nil => simp only [insertEntry, lookup_cons_if]
  | cons head rest induction =>
      obtain ⟨headKey, held⟩ := head
      simp only [insertEntry]
      split
      · simp only [lookup_cons_if]
      · next equal =>
          have same := Std.LawfulEqOrd.eq_of_compare equal
          subst same
          simp only [lookup_cons_if]
          split <;> rfl
      · next larger =>
          have different : headKey ≠ key := by
            intro same
            rw [same, Std.ReflOrd.compare_self] at larger
            exact absurd larger (by decide)
          simp only [lookup_cons_if, induction]
          by_cases atHead : other = headKey
          · have notKey : other ≠ key := fun same => different (atHead.symm.trans same)
            rw [if_pos atHead, if_pos atHead, if_neg notKey]
          · rw [if_neg atHead, if_neg atHead]

variable [Std.TransOrd Key] [Std.LawfulEqOrd Key]

@[simp]
theorem find_insert (map : SortedMap Key Value) (key other : Key) (value : Value) :
    (map.insert key value).find? other = if other = key then some value else map.find? other :=
  lookup_insert_entry key other value map.entries

omit [Std.TransOrd Key] in
theorem mem_to_list (map : SortedMap Key Value) (key : Key) (value : Value) :
    (key, value) ∈ map.toList ↔ map.find? key = some value := by
  obtain ⟨entries, increasing⟩ := map
  simp only [toList, find?]
  induction entries with
  | nil => simp
  | cons head rest induction =>
      obtain ⟨headKey, held⟩ := head
      have first := (List.pairwise_cons.mp increasing).1
      rw [lookup_cons_if, List.mem_cons, Prod.mk.injEq]
      by_cases atHead : key = headKey
      · subst atHead
        have absent : (key, value) ∉ rest := by
          intro member
          have larger := first _ member
          rw [Std.ReflOrd.compare_self] at larger
          exact absurd larger (by decide)
        simp [absent, eq_comm]
      · simp [atHead, induction increasing.of_cons]

omit [Std.TransOrd Key] in
theorem mem_values (map : SortedMap Key Value) (value : Value) :
    value ∈ map.values ↔ ∃ key, map.find? key = some value := by
  simp only [← mem_to_list, values, toList, List.mem_map, Prod.exists, exists_eq_right]

/-- What is put under a new key joins the values. -/
theorem mem_values_insert {map : SortedMap Key Value} {key : Key} (free : map.find? key = none)
    (added value : Value) :
    value ∈ (map.insert key added).values ↔ value = added ∨ value ∈ map.values := by
  simp only [mem_values, find_insert]
  constructor
  · rintro ⟨other, found⟩
    split at found
    · exact .inl (Option.some.inj found).symm
    · exact .inr ⟨other, found⟩
  · rintro (rfl | ⟨other, found⟩)
    · exact ⟨key, if_pos rfl⟩
    · have different : other ≠ key := by
        rintro rfl
        rw [free] at found
        exact nomatch found
      exact ⟨other, (if_neg different).trans found⟩

/-! ## Leaving out a key -/

omit [Std.TransOrd Key] in
theorem filter_insert_entry (key : Key) (value : Value) (entries : List (Key × Value)) :
    (insertEntry key value entries).filter (fun entry => entry.1 != key) =
      entries.filter fun entry => entry.1 != key := by
  induction entries with
  | nil => simp [insertEntry]
  | cons head rest induction =>
      simp only [insertEntry]
      split
      · simp
      · next equal =>
        have same := Std.LawfulEqOrd.eq_of_compare equal
        simp [same]
      · simp only [List.filter_cons, induction]

/-- Whatever was put under a key, the rest of the map is as it was. -/
theorem erase_insert (map : SortedMap Key Value) (key : Key) (value : Value) :
    (map.insert key value).erase key = map.erase key :=
  eq_of_entries (filter_insert_entry key value map.entries)

omit [Std.TransOrd Key] [Std.LawfulEqOrd Key] in
theorem erase_erase (map : SortedMap Key Value) (key : Key) :
    (map.erase key).erase key = map.erase key := by
  apply eq_of_entries
  simp [erase, List.filter_filter]

/-! ## Listing and building -/

omit [DecidableEq Key] [Std.TransOrd Key] [Std.LawfulEqOrd Key] in
theorem insert_entry_last [Std.OrientedOrd Key] {key : Key} {value : Value}
    {entries : List (Key × Value)} (last : ∀ entry ∈ entries, compare entry.1 key = .lt) :
    insertEntry key value entries = entries ++ [(key, value)] := by
  induction entries with
  | nil => rfl
  | cons head rest induction =>
      have larger : compare key head.1 = .gt :=
        Std.OrientedCmp.gt_of_lt (last head List.mem_cons_self)
      have behind := induction fun entry member => last entry (List.mem_cons_of_mem _ member)
      rw [insertEntry, larger, behind]
      rfl

omit [DecidableEq Key] in
/-- A map is told by its list. -/
theorem of_list_to_list (map : SortedMap Key Value) : ofList map.toList = map := by
  -- Each entry is larger than those that are in already, so it goes to the end.
  have behind (done : SortedMap Key Value) (rest : List (Key × Value))
      (increasing : (done.entries ++ rest).Pairwise
        (fun left right => compare left.1 right.1 = .lt)) :
      (rest.foldl (fun map entry => map.insert entry.1 entry.2) done).entries =
        done.entries ++ rest := by
    induction rest generalizing done with
    | nil => simp
    | cons entry rest induction =>
        have last : ∀ earlier ∈ done.entries, compare earlier.1 entry.1 = .lt := by
          intro earlier member
          exact (List.pairwise_append.mp increasing).2.2 earlier member entry List.mem_cons_self
        have grown : (done.insert entry.1 entry.2).entries = done.entries ++ [entry] :=
          insert_entry_last last
        rw [List.foldl_cons, induction, grown, List.append_assoc]
        · rfl
        · rw [grown, List.append_assoc]
          exact increasing
  exact eq_of_entries (behind empty map.entries map.increasing)

/-- Of several entries of a key the last one stays. -/
theorem find_of_list (entries : List (Key × Value)) (key : Key) :
    (ofList entries).find? key = entries.reverse.lookup key := by
  have folded (map : SortedMap Key Value) :
      (entries.foldl (fun map entry => map.insert entry.1 entry.2) map).find? key =
        (entries.reverse.lookup key).or (map.find? key) := by
    induction entries generalizing map with
    | nil => rfl
    | cons entry rest induction =>
        rw [List.foldl_cons, induction, find_insert, List.reverse_cons, List.lookup_append,
          Option.or_assoc, lookup_cons_if]
        split <;> rfl
  exact (folded empty).trans Option.or_none

omit [DecidableEq Key] [Std.TransOrd Key] in
theorem keys_nodup (map : SortedMap Key Value) : map.keys.Nodup := by
  apply List.Pairwise.map _ _ map.increasing
  intro left right smaller same
  rw [same, Std.ReflOrd.compare_self] at smaller
  exact absurd smaller (by decide)

end BrokerTenancy.SortedMap
