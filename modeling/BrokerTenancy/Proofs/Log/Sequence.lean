import BrokerTenancy.Log.Record
import Mathlib.Data.List.Basic
import Mathlib.Data.List.Iterate
import Mathlib.Data.Nat.SuccPred

/-!
Sequences of records: offsets without a gap, and the last record of a key.
-/

namespace BrokerTenancy.Record

/-- The last record of a key. -/
def latest (records : List Record) (key : String) : Option Record :=
  records.reverse.find? fun record => record.key == key

/-- The records stand at offsets that go up by one from `position`. -/
def Gapless (position : Nat) (records : List Record) : Prop :=
  records.map (·.offset) = List.range' position records.length

theorem gapless_nil (position : Nat) : Gapless position [] := rfl

theorem gapless_cons (position : Nat) (record : Record) (rest : List Record) :
    Gapless position (record :: rest) ↔ record.offset = position ∧ Gapless (position + 1) rest := by
  simp [Gapless, List.range'_succ]

theorem gapless_append (position : Nat) (left right : List Record) :
    Gapless position (left ++ right) ↔
      Gapless position left ∧ Gapless (position + left.length) right := by
  induction left generalizing position with
  | nil => simp [gapless_nil]
  | cons record rest induction =>
      have places : position + 1 + rest.length = position + (rest.length + 1) := by omega
      simp only [List.cons_append, gapless_cons, induction, List.length_cons, places, and_assoc]

theorem gapless_of_prefix {position : Nat} {front records : List Record}
    (gapless : Gapless position records) (isFront : front <+: records) :
    Gapless position front := by
  rcases isFront with ⟨rest, rfl⟩
  exact ((gapless_append position front rest).mp gapless).1

theorem gapless_drop {position : Nat} {records : List Record} (gapless : Gapless position records)
    (count : Nat) : Gapless (position + count) (records.drop count) := by
  rcases Nat.le_total records.length count with beyond | inside
  · rw [List.drop_eq_nil_of_le beyond]
    exact gapless_nil _
  · rw [← List.take_append_drop count records, gapless_append, List.length_take_of_le inside]
      at gapless
    exact gapless.2

theorem gapless_offset {position index : Nat} {records : List Record} {record : Record}
    (gapless : Gapless position records) (found : records[index]? = some record) :
    record.offset = position + index := by
  obtain ⟨inside, same⟩ := List.getElem?_eq_some_iff.mp found
  have offsets := congrArg (fun list : List Nat => list[index]?) gapless
  simp only [List.getElem?_map, found, Option.map_some, List.getElem?_range' inside] at offsets
  simpa using offsets

/-- The records stand at offsets each of which is `succ` to the one before, from `position` on. -/
def Consecutive (succ : Nat → Nat) (position : Nat) (records : List Record) : Prop :=
  records.map (·.offset) = List.iterate succ position records.length

theorem consecutive_nil (succ : Nat → Nat) (position : Nat) : Consecutive succ position [] := rfl

theorem consecutive_cons (succ : Nat → Nat) (position : Nat) (record : Record)
    (rest : List Record) :
    Consecutive succ position (record :: rest) ↔
      record.offset = position ∧ Consecutive succ (succ position) rest := by
  simp [Consecutive, List.iterate]

theorem consecutive_offset {succ : Nat → Nat} {position index : Nat} {records : List Record}
    {record : Record} (consecutive : Consecutive succ position records)
    (found : records[index]? = some record) : record.offset = succ^[index] position := by
  obtain ⟨inside, -⟩ := List.getElem?_eq_some_iff.mp found
  have offsets := congrArg (fun list : List Nat => list[index]?) consecutive
  simp only [List.getElem?_map, found, Option.map_some,
    List.getElem?_iterate succ position _ index inside] at offsets
  exact Option.some_inj.mp offsets

theorem iterate_succ (count position : Nat) : (· + 1)^[count] position = position + count :=
  Nat.succ_iterate position count

/-- Where each of the records is followed by the number above its own, the count has not begun
again. -/
theorem Consecutive.counted {succ : Nat → Nat} {position : Nat} {records : List Record}
    (consecutive : Consecutive succ position records)
    (rising : ∀ record ∈ records, succ record.offset = record.offset + 1) :
    Gapless position records ∧
      ∀ count ≤ records.length, succ^[count] position = position + count := by
  induction records generalizing position with
  | nil =>
      refine ⟨gapless_nil position, fun count inside => ?_⟩
      rw [Nat.le_zero.mp inside]
      rfl
  | cons record rest induction =>
      obtain ⟨atPlace, following⟩ := (consecutive_cons ..).mp consecutive
      have rises := rising record List.mem_cons_self
      rw [atPlace] at rises
      rw [rises] at following
      obtain ⟨gapless, counted⟩ := induction following fun other member =>
        rising other (List.mem_cons_of_mem record member)
      refine ⟨(gapless_cons ..).mpr ⟨atPlace, gapless⟩, fun count inside => ?_⟩
      cases count with
      | zero => rfl
      | succ count =>
          rw [Function.iterate_succ_apply, rises, counted count (Nat.le_of_succ_le_succ inside)]
          omega

theorem mem_of_latest {records : List Record} {key : String} {record : Record}
    (found : latest records key = some record) : record ∈ records ∧ record.key = key := by
  have member := List.mem_of_find?_eq_some found
  have holds := List.find?_some found
  exact ⟨List.mem_reverse.mp member, by simpa using holds⟩

/-- The last record of a key, and no record of the key behind it. -/
theorem latest_split {records : List Record} {key : String} {record : Record}
    (found : latest records key = some record) :
    ∃ before after, records = before ++ record :: after ∧ ∀ other ∈ after, other.key ≠ key := by
  obtain ⟨-, front, back, split, others⟩ := List.find?_eq_some_iff_append.mp found
  refine ⟨back.reverse, front.reverse, ?_, ?_⟩
  · rw [← List.reverse_inj, split]
    simp
  · intro other member
    simpa using others other (List.mem_reverse.mp member)

/-- Among gapless records the last one of a key has the greatest offset. -/
theorem latest_of_mem {position : Nat} {records : List Record} {record : Record}
    (gapless : Gapless position records) (member : record ∈ records) :
    ∃ last, latest records record.key = some last ∧ record.offset ≤ last.offset := by
  have found : (latest records record.key).isSome :=
    List.find?_isSome.mpr ⟨record, List.mem_reverse.mpr member, by simp⟩
  obtain ⟨last, isLast⟩ := Option.isSome_iff_exists.mp found
  obtain ⟨before, after, split, others⟩ := latest_split isLast
  refine ⟨last, isLast, ?_⟩
  rw [split, List.mem_append, List.mem_cons] at member
  rw [split, gapless_append, gapless_cons] at gapless
  obtain earlier | same | later := member
  · obtain ⟨index, found⟩ := List.mem_iff_getElem?.mp earlier
    have inside := (List.getElem?_eq_some_iff.mp found).choose
    have place := gapless_offset gapless.1 found
    omega
  · exact Nat.le_of_eq (congrArg Record.offset same)
  · exact absurd rfl (others record later)

theorem latest_append (left right : List Record) (key : String) :
    latest (left ++ right) key = (latest right key).or (latest left key) := by
  simp [latest, List.find?_append]

theorem latest_singleton (record : Record) (key : String) :
    latest [record] key = if key = record.key then some record else none := by
  by_cases same : record.key = key
  · simp [latest, same]
  · simp [latest, same, Ne.symm same]

end BrokerTenancy.Record
