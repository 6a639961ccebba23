/-!
Finite sets kept as strictly increasing lists. A set has exactly one such list, so equality of
sets is equality of lists, and listing a set is listing it in order.
-/

namespace BrokerTenancy

/-- A finite set, listed in increasing order and without repetition. -/
structure SortedSet (Item : Type) [Ord Item] where
  items : List Item
  increasing : items.Pairwise (fun left right => compare left right = .lt)

namespace SortedSet

variable {Item : Type} [Ord Item]

instance : Inhabited (SortedSet Item) := ⟨⟨[], .nil⟩⟩

instance [DecidableEq Item] : DecidableEq (SortedSet Item) := fun left right =>
  decidable_of_iff (left.items = right.items) (by
    cases left; cases right; simp)

instance : Membership Item (SortedSet Item) := ⟨fun set item => item ∈ set.items⟩

def empty : SortedSet Item := ⟨[], .nil⟩

def toList (set : SortedSet Item) : List Item := set.items

def size (set : SortedSet Item) : Nat := set.items.length

def isEmpty (set : SortedSet Item) : Bool := set.items.isEmpty

def contains [DecidableEq Item] (set : SortedSet Item) (item : Item) : Bool :=
  set.items.contains item

def filter (set : SortedSet Item) (keep : Item → Bool) : SortedSet Item where
  items := set.items.filter keep
  increasing := set.increasing.filter _

/-- The members of the first set that are not in the second. -/
def difference [DecidableEq Item] (set other : SortedSet Item) : SortedSet Item :=
  set.filter fun item => !other.contains item

def erase [DecidableEq Item] (set : SortedSet Item) (item : Item) : SortedSet Item :=
  set.filter fun other => other != item

/-- Puts an item before the first larger one; an equal item is left alone. -/
def insertItem (item : Item) : List Item → List Item
  | [] => [item]
  | head :: rest =>
      match compare item head with
      | .lt => item :: head :: rest
      | .eq => head :: rest
      | .gt => head :: insertItem item rest

theorem mem_insert_item [Std.LawfulEqOrd Item] (item other : Item) (items : List Item) :
    other ∈ insertItem item items ↔ other = item ∨ other ∈ items := by
  induction items with
  | nil => simp [insertItem]
  | cons head rest induction =>
      simp only [insertItem]
      split
      · simp
      · next equal =>
          have same := Std.LawfulEqOrd.eq_of_compare equal
          subst same
          simp
      · simp only [List.mem_cons, induction]
        grind

theorem insert_item_increasing [Std.TransOrd Item] [Std.LawfulEqOrd Item] (item : Item)
    (items : List Item)
    (increasing : items.Pairwise (fun left right => compare left right = .lt)) :
    (insertItem item items).Pairwise (fun left right => compare left right = .lt) := by
  induction items with
  | nil => simp [insertItem]
  | cons head rest induction =>
      have headFirst := (List.pairwise_cons.mp increasing).1
      simp only [insertItem]
      split
      · next smaller =>
          refine List.pairwise_cons.mpr ⟨?_, increasing⟩
          intro other member
          rcases List.mem_cons.mp member with rfl | member
          · exact smaller
          · exact Std.TransCmp.lt_trans smaller (headFirst _ member)
      · exact increasing
      · next larger =>
          refine List.pairwise_cons.mpr ⟨?_, induction increasing.of_cons⟩
          intro other member
          rcases (mem_insert_item item other rest).mp member with rfl | member
          · exact Std.OrientedCmp.lt_of_gt larger
          · exact headFirst _ member

variable [Std.TransOrd Item] [Std.LawfulEqOrd Item]

def insert (set : SortedSet Item) (item : Item) : SortedSet Item where
  items := insertItem item set.items
  increasing := insert_item_increasing item set.items set.increasing

def insertAll (set : SortedSet Item) (items : List Item) : SortedSet Item :=
  items.foldl insert set

def ofList (items : List Item) : SortedSet Item := empty.insertAll items

theorem mem_insert (set : SortedSet Item) (item other : Item) :
    other ∈ set.insert item ↔ other = item ∨ other ∈ set :=
  mem_insert_item item other set.items

theorem mem_insert_all (set : SortedSet Item) (items : List Item) (other : Item) :
    other ∈ set.insertAll items ↔ other ∈ items ∨ other ∈ set := by
  induction items generalizing set with
  | nil => simp [insertAll]
  | cons head rest induction =>
      have step := induction (set.insert head)
      simp only [insertAll, List.foldl_cons] at step ⊢
      rw [step, mem_insert, List.mem_cons]
      grind

end SortedSet

end BrokerTenancy
