import BrokerTenancy.Sorted.Set
import Mathlib.Data.List.Basic
import Mathlib.Data.Set.Basic

/-!
Sorted sets by their members. What an operation makes of a set is told by membership, and a list
that comes out of a set has its members in increasing order.
-/

namespace BrokerTenancy.SortedSet

variable {Item : Type} [Ord Item]

theorem mem_items (set : SortedSet Item) (item : Item) : item ∈ set.items ↔ item ∈ set :=
  Iff.rfl

@[simp]
theorem mem_to_list (set : SortedSet Item) (item : Item) : item ∈ set.toList ↔ item ∈ set :=
  Iff.rfl

@[simp]
theorem not_mem_empty (item : Item) : item ∉ (empty : SortedSet Item) :=
  List.not_mem_nil

@[simp]
theorem mem_filter (set : SortedSet Item) (keep : Item → Bool) (item : Item) :
    item ∈ set.filter keep ↔ item ∈ set ∧ keep item = true :=
  List.mem_filter

@[simp]
theorem to_list_filter (set : SortedSet Item) (keep : Item → Bool) :
    (set.filter keep).toList = set.toList.filter keep := rfl

@[simp]
theorem is_empty_iff (set : SortedSet Item) : set.isEmpty = true ↔ set.toList = [] :=
  List.isEmpty_iff

section Decided

variable [DecidableEq Item]

instance (item : Item) (set : SortedSet Item) : Decidable (item ∈ set) :=
  inferInstanceAs (Decidable (item ∈ set.items))

@[simp]
theorem contains_iff (set : SortedSet Item) (item : Item) :
    set.contains item = true ↔ item ∈ set := by
  rw [contains, List.contains_iff_mem, mem_items]

@[simp]
theorem mem_difference (set other : SortedSet Item) (item : Item) :
    item ∈ set.difference other ↔ item ∈ set ∧ item ∉ other := by
  rw [difference, mem_filter, Bool.not_eq_true', ← Bool.not_eq_true, contains_iff]

@[simp]
theorem mem_erase (set : SortedSet Item) (item other : Item) :
    other ∈ set.erase item ↔ other ∈ set ∧ other ≠ item := by
  rw [erase, mem_filter, bne_iff_ne]

end Decided

@[simp]
theorem mem_of_list [Std.TransOrd Item] [Std.LawfulEqOrd Item] (items : List Item) (item : Item) :
    item ∈ ofList items ↔ item ∈ items := by
  rw [ofList, mem_insert_all]
  simp only [not_mem_empty, or_false]

theorem to_list_nodup [Std.ReflOrd Item] (set : SortedSet Item) : set.toList.Nodup := by
  apply set.increasing.imp
  intro left right before same
  rw [same, Std.ReflOrd.compare_self] at before
  cases before

theorem size_filter (set : SortedSet Item) (keep : Item → Bool) :
    (set.filter keep).size + (set.filter fun item => !keep item).size = set.size :=
  (List.length_eq_length_filter_add keep).symm

theorem length_insert_item [Std.LawfulEqOrd Item] {item : Item} {items : List Item}
    (fresh : item ∉ items) : (insertItem item items).length = items.length + 1 := by
  induction items with
  | nil => rfl
  | cons head rest induction =>
      rw [List.mem_cons, not_or] at fresh
      rw [insertItem]
      split
      · rfl
      · next equal => exact absurd (Std.LawfulEqOrd.eq_of_compare equal) fresh.1
      · rw [List.length_cons, induction fresh.2, List.length_cons]

theorem size_insert_all [Std.TransOrd Item] [Std.LawfulEqOrd Item] {set : SortedSet Item}
    {items : List Item} (distinct : items.Nodup) (fresh : ∀ item ∈ items, item ∉ set) :
    (set.insertAll items).size = set.size + items.length := by
  induction items generalizing set with
  | nil => rfl
  | cons head rest induction =>
      obtain ⟨headFresh, distinctRest⟩ := List.nodup_cons.mp distinct
      have grown : (set.insert head).size = set.size + 1 :=
        length_insert_item (fresh head List.mem_cons_self)
      have restFresh : ∀ item ∈ rest, item ∉ set.insert head := by
        intro item member
        rw [mem_insert, not_or]
        refine ⟨?_, fresh item (List.mem_cons_of_mem _ member)⟩
        rintro rfl
        exact headFresh member
      have grownAll := @induction (set.insert head) distinctRest restFresh
      rw [grown] at grownAll
      rw [List.length_cons]
      exact grownAll.trans (by omega)

/-- The members of a sorted set, as a set in the sense of logic. -/
def members (set : SortedSet Item) : Set Item := {item | item ∈ set}

@[simp]
theorem mem_members (set : SortedSet Item) (item : Item) : item ∈ set.members ↔ item ∈ set :=
  Iff.rfl

theorem members_eq_empty {set : SortedSet Item} (nothing : set.isEmpty = true) :
    set.members = ∅ := by
  ext item
  rw [mem_members, ← mem_to_list, (is_empty_iff set).mp nothing]
  exact iff_of_false List.not_mem_nil (Set.notMem_empty item)

theorem is_empty_of_members {set : SortedSet Item} (none : set.members = ∅) :
    set.isEmpty = true := by
  rw [is_empty_iff, List.eq_nil_iff_forall_not_mem]
  intro item member
  exact Set.eq_empty_iff_forall_notMem.mp none item member

/-- A sorted set is determined by its members. -/
theorem eq_of_members [Std.OrientedOrd Item] {left right : SortedSet Item}
    (same : left.members = right.members) : left = right := by
  have listed (item : Item) : item ∈ left.items ↔ item ∈ right.items := Set.ext_iff.mp same item
  have shuffled : left.items.Perm right.items :=
    (List.perm_ext_iff_of_nodup left.to_list_nodup right.to_list_nodup).mpr listed
  have ordered : left.items = right.items := by
    refine shuffled.eq_of_pairwise ?_ left.increasing right.increasing
    intro first second _ _ before behind
    rw [Std.OrientedOrd.eq_swap, before] at behind
    cases behind
  cases left
  cases right
  cases ordered
  rfl

/-- What two sets have in common makes up each of them with its difference from the other. -/
theorem size_difference_balance [DecidableEq Item] [Std.OrientedOrd Item]
    (left right : SortedSet Item) :
    ∃ common, (left.difference right).size + common = left.size ∧
      (right.difference left).size + common = right.size := by
  have parts (one other : SortedSet Item) :
      (one.difference other).size + (one.filter other.contains).size = one.size := by
    rw [Nat.add_comm]
    exact one.size_filter other.contains
  have same : left.filter right.contains = right.filter left.contains := by
    apply eq_of_members
    ext item
    simp only [mem_members, mem_filter, contains_iff]
    exact and_comm
  refine ⟨(left.filter right.contains).size, parts left right, ?_⟩
  rw [same]
  exact parts right left

/-- The list has the items of a set and no others, each once and in increasing order. -/
structure Lists (items : List Item) (wanted : Set Item) : Prop where
  increasing : items.Pairwise (fun left right => compare left right = .lt)
  complete : ∀ item, item ∈ items ↔ item ∈ wanted

theorem to_list_lists (set : SortedSet Item) : Lists set.toList set.members :=
  ⟨set.increasing, fun _ => Iff.rfl⟩

end BrokerTenancy.SortedSet
