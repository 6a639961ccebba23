/-!
Finite maps kept as association lists with strictly increasing keys. A map has exactly one such
list, so two maps with the same bindings are equal, and listing a map goes in key order.
-/

namespace BrokerTenancy

/-- A finite map, listed in increasing order of its keys. -/
structure SortedMap (Key Value : Type) [Ord Key] where
  entries : List (Key × Value)
  increasing : entries.Pairwise (fun left right => compare left.1 right.1 = .lt)

namespace SortedMap

variable {Key Value : Type} [Ord Key]

instance : Inhabited (SortedMap Key Value) := ⟨⟨[], .nil⟩⟩

instance [DecidableEq Key] [DecidableEq Value] : DecidableEq (SortedMap Key Value) :=
  fun left right => decidable_of_iff (left.entries = right.entries) (by
    cases left; cases right; simp)

def empty : SortedMap Key Value := ⟨[], .nil⟩

def toList (map : SortedMap Key Value) : List (Key × Value) := map.entries

def keys (map : SortedMap Key Value) : List Key := map.entries.map (·.1)

def values (map : SortedMap Key Value) : List Value := map.entries.map (·.2)

def find? [DecidableEq Key] (map : SortedMap Key Value) (key : Key) : Option Value :=
  map.entries.lookup key

/-- Drops the entry of a key, if there is one. -/
def erase [DecidableEq Key] (map : SortedMap Key Value) (key : Key) : SortedMap Key Value where
  entries := map.entries.filter fun entry => entry.1 != key
  increasing := map.increasing.filter _

/-- Puts an entry before the first larger key; an entry of an equal key gives way to it. -/
def insertEntry (key : Key) (value : Value) : List (Key × Value) → List (Key × Value)
  | [] => [(key, value)]
  | (head, held) :: rest =>
      match compare key head with
      | .lt => (key, value) :: (head, held) :: rest
      | .eq => (key, value) :: rest
      | .gt => (head, held) :: insertEntry key value rest

theorem key_of_mem_insert_entry (key : Key) (value : Value) (entry : Key × Value)
    (entries : List (Key × Value)) (member : entry ∈ insertEntry key value entries) :
    entry = (key, value) ∨ entry ∈ entries := by
  induction entries with
  | nil => simpa [insertEntry] using member
  | cons head rest induction =>
      obtain ⟨headKey, held⟩ := head
      simp only [insertEntry] at member
      split at member
      · simpa using member
      · rcases List.mem_cons.mp member with same | member
        · exact .inl same
        · exact .inr (List.mem_cons_of_mem _ member)
      · rcases List.mem_cons.mp member with same | member
        · exact .inr (same ▸ List.mem_cons_self)
        · exact (induction member).imp_right (List.mem_cons_of_mem _)

theorem insert_entry_increasing [Std.TransOrd Key] [Std.LawfulEqOrd Key] (key : Key)
    (value : Value) (entries : List (Key × Value))
    (increasing : entries.Pairwise (fun left right => compare left.1 right.1 = .lt)) :
    (insertEntry key value entries).Pairwise
      (fun left right => compare left.1 right.1 = .lt) := by
  induction entries with
  | nil => simp [insertEntry]
  | cons head rest induction =>
      obtain ⟨headKey, held⟩ := head
      have headFirst := (List.pairwise_cons.mp increasing).1
      simp only [insertEntry]
      split
      · next smaller =>
          refine List.pairwise_cons.mpr ⟨?_, increasing⟩
          intro entry member
          rcases List.mem_cons.mp member with rfl | member
          · exact smaller
          · exact Std.TransCmp.lt_trans smaller (headFirst _ member)
      · next equal =>
          have same := Std.LawfulEqOrd.eq_of_compare equal
          subst same
          exact List.pairwise_cons.mpr ⟨fun entry member => headFirst _ member, increasing.of_cons⟩
      · next larger =>
          refine List.pairwise_cons.mpr ⟨?_, induction increasing.of_cons⟩
          intro entry member
          rcases key_of_mem_insert_entry key value entry rest member with rfl | member
          · exact Std.OrientedCmp.lt_of_gt larger
          · exact headFirst _ member

variable [Std.TransOrd Key] [Std.LawfulEqOrd Key]

def insert (map : SortedMap Key Value) (key : Key) (value : Value) : SortedMap Key Value where
  entries := insertEntry key value map.entries
  increasing := insert_entry_increasing key value map.entries map.increasing

/-- Sets each entry of a list in turn, so that the last entry of a key stays. -/
def ofList (entries : List (Key × Value)) : SortedMap Key Value :=
  entries.foldl (fun map entry => map.insert entry.1 entry.2) empty

end SortedMap

end BrokerTenancy
