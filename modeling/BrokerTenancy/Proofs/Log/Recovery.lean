import BrokerTenancy.Log.Recovery
import BrokerTenancy.Proofs.Log.Codec
import BrokerTenancy.Proofs.Log.Sequence

/-!
Reading a log file back after it was cut off at any byte: the records whose whole frames are left
come back, and nothing else.
-/

namespace BrokerTenancy

open Record (Gapless)

/-- The bytes of a file that holds records. -/
def frames (records : List Record) : List UInt8 := records.flatMap Frame.encode

/-- The records whose whole frames lie within the first bytes of their file. -/
def fitting : List Record → Nat → List Record
  | [], _ => []
  | record :: rest, size =>
      if (Frame.encode record).length ≤ size then
        record :: fitting rest (size - (Frame.encode record).length)
      else []

theorem frames_cons (record : Record) (rest : List Record) :
    frames (record :: rest) = Frame.encode record ++ frames rest := List.flatMap_cons

theorem frames_append (left right : List Record) :
    frames (left ++ right) = frames left ++ frames right := List.flatMap_append

theorem frames_singleton (record : Record) : frames [record] = Frame.encode record := by
  rw [frames_cons, frames, List.flatMap_nil, List.append_nil]

theorem fitting_prefix (records : List Record) (size : Nat) : fitting records size <+: records := by
  induction records generalizing size with
  | nil => exact List.prefix_refl _
  | cons record rest induction =>
      rw [fitting]
      split
      · exact List.prefix_cons_inj record |>.mpr (induction _)
      · exact List.nil_prefix

/-- What is left of a file starts with the frames of the records that come back. -/
theorem frames_fitting_length (records : List Record) (size : Nat) :
    (frames (fitting records size)).length ≤ size := by
  induction records generalizing size with
  | nil => exact Nat.zero_le size
  | cons record rest induction =>
      rw [fitting]
      split
      · next inside =>
        have behind := induction (size - (Frame.encode record).length)
        rw [frames_cons, List.length_append]
        omega
      · exact Nat.zero_le size

/-- The records whose frames end within what is left come back. -/
theorem prefix_fitting {front records : List Record} {size : Nat} (isFront : front <+: records)
    (inside : (frames front).length ≤ size) : front <+: fitting records size := by
  induction front generalizing records size with
  | nil => exact List.nil_prefix
  | cons record rest induction =>
      obtain ⟨behind, split⟩ := isFront
      subst split
      rw [frames_cons, List.length_append] at inside
      rw [List.cons_append, fitting, if_pos (by omega)]
      exact List.prefix_cons_inj record |>.mpr (induction (List.prefix_append _ _) (by omega))

theorem recover_from_torn (path : String) {bytes : List UInt8} (position count : Nat)
    (torn : Frame.front bytes = .torn) :
    recoverFrom path bytes position count = .ok { records := [], validLength := position } := by
  rw [recoverFrom]
  split
  · rfl
  · next damaged => simp [damaged] at torn
  · next whole => simp [whole] at torn

/-- What is read behind some records. -/
def Recovered.behind (records : List Record) (following : Recovered) : Recovered :=
  { following with records := records ++ following.records }

/-- What a whole frame at the front of a file comes to. -/
theorem recover_from_payload (path : String) {bytes payload rest : List UInt8}
    (position count : Nat) (whole : Frame.front bytes = .whole payload rest) :
    recoverFrom path bytes position count =
      match Record.decode payload with
      | none => .error (.data .malformed)
      | some (record, _) =>
          if record.offset = count then
            (recoverFrom path rest (position + Frame.headerSize + payload.length) (count + 1)).map
              (.behind [record])
          else .error (.data (.offsetGap record.offset path count)) := by
  rw [recoverFrom]
  split
  · next torn => simp [torn] at whole
  · next damaged => simp [damaged] at whole
  · next payload' rest' front =>
    rw [front] at whole
    obtain ⟨rfl, rfl⟩ := Frame.Front.whole.inj whole
    cases Record.decode payload' with
    | none => rfl
    | some parts =>
        simp only [ne_eq, ite_not]
        rfl

theorem recover_from_record (path : String) {bytes payload rest leftover : List UInt8}
    {record : Record} (position count : Nat) (whole : Frame.front bytes = .whole payload rest)
    (decoded : Record.decode payload = some (record, leftover)) (atPlace : record.offset = count) :
    recoverFrom path bytes position count =
      (recoverFrom path rest (position + Frame.headerSize + payload.length) (count + 1)).map
        (Recovered.behind [record]) := by
  rw [recover_from_payload path position count whole, decoded]
  exact if_pos atPlace

theorem recover_from_whole (path : String) {bytes payload rest : List UInt8} {record : Record}
    {following : Recovered} (position count : Nat) (whole : Frame.front bytes = .whole payload rest)
    (decoded : Record.decode payload = some (record, [])) (atPlace : record.offset = count)
    (recovered : recoverFrom path rest (position + Frame.headerSize + payload.length) (count + 1) =
      .ok following) :
    recoverFrom path bytes position count =
      .ok { following with records := record :: following.records } := by
  rw [recover_from_record path position count whole decoded atPlace, recovered]
  rfl

theorem recover_from_frames (path : String) (records : List Record) (size position count : Nat)
    (dense : Gapless count records) (fits : ∀ record ∈ records, record.Fits) :
    recoverFrom path ((frames records).take size) position count =
      .ok
        { records := fitting records size
          validLength := position + (frames (fitting records size)).length } := by
  induction records generalizing size position count with
  | nil =>
      have torn : Frame.front ((frames []).take size) = .torn := by
        rw [frames, List.flatMap_nil, List.take_nil]
        rfl
      exact recover_from_torn path position count torn
  | cons record rest induction =>
      obtain ⟨atPlace, following⟩ := (Record.gapless_cons ..).mp dense
      have recordFits := fits record List.mem_cons_self
      rw [frames_cons, fitting]
      -- The cut is behind the first frame or inside it; a torn frame ends the recovery.
      by_cases inside : (Frame.encode record).length ≤ size
      · have cut : (Frame.encode record ++ frames rest).take size =
            Frame.encode record ++ (frames rest).take (size - (Frame.encode record).length) := by
          rw [List.take_append, List.take_of_length_le inside]
        have decoded := Record.decode_encode record recordFits []
        rw [List.append_nil] at decoded
        have whole := Frame.front_encode recordFits
          ((frames rest).take (size - (Frame.encode record).length))
        have recovered := induction (size - (Frame.encode record).length)
          (position + Frame.headerSize + record.encode.length) (count + 1) following
          fun other member => fits other (List.mem_cons_of_mem _ member)
        rw [if_pos inside, cut,
          recover_from_whole path position count whole decoded atPlace recovered, frames_cons,
          List.length_append, Frame.encode_length]
        simp only [Nat.add_assoc]
      · have cut : (Frame.encode record ++ frames rest).take size =
            (Frame.encode record).take size := List.take_append_of_le_length (by omega)
        have torn := Frame.front_encode_take recordFits (Nat.lt_of_not_le inside)
        rw [if_neg inside, cut]
        exact recover_from_torn path position count torn

/-- A file that was cut off anywhere opens with the records whose frames are whole. -/
theorem recover_frames (path : String) (records : List Record) (size : Nat)
    (dense : Gapless 0 records) (fits : ∀ record ∈ records, record.Fits) :
    recoverLog path ((frames records).take size) =
      .ok
        { records := fitting records size
          validLength := (frames (fitting records size)).length } := by
  have recovered := recover_from_frames path records size 0 0 dense fits
  rw [Nat.zero_add] at recovered
  exact recovered

/-- Reading a file of records that was cut off at any byte succeeds. It gives the longest front of
the records whose frames are left as a whole and the length of those frames: all records if nothing
is missing, and never a record that was not there. -/
theorem recover_longest_front (path : String) (records : List Record) (size : Nat)
    (dense : Gapless 0 records) (fits : ∀ record ∈ records, record.Fits) :
    ∃ front,
      recoverLog path ((frames records).take size) =
        .ok { records := front, validLength := (frames front).length } ∧
      front <+: records ∧ (frames front).length ≤ size ∧
      (∀ other, other <+: records → (frames other).length ≤ size → other <+: front) ∧
      ((frames records).length ≤ size → front = records) := by
  have isFront := fitting_prefix records size
  refine ⟨fitting records size, recover_frames path records size dense fits, isFront,
    frames_fitting_length records size, fun other => prefix_fitting, ?_⟩
  intro whole
  have all : records <+: fitting records size := prefix_fitting (List.prefix_refl _) whole
  exact isFront.eq_of_length_le all.length_le

/-- A value and then the tombstone of its key. -/
def setAndUnset : List Record := [⟨0, "left", some [55], -5⟩, ⟨1, "left", none, 6⟩]

theorem set_and_unset_fit : ∀ record ∈ setAndUnset, record.Fits := by
  intro record member
  obtain rfl | rfl := List.mem_pair.mp member
  · exact ⟨by decide, by decide, by decide, by decide⟩
  · exact ⟨by decide, by decide, by decide, by decide⟩

theorem recover_longest_front_torn :
    Gapless 0 setAndUnset ∧ (∀ record ∈ setAndUnset, record.Fits) ∧
      recoverLog "counts.log" ((frames setAndUnset).take 60) =
        .ok { records := [⟨0, "left", some [55], -5⟩], validLength := 46 } ∧
      recoverLog "counts.log" (frames setAndUnset) =
        .ok { records := setAndUnset, validLength := 83 } := by
  have dense : Gapless 0 setAndUnset := rfl
  have size : (frames setAndUnset).length = 83 := by decide
  refine ⟨dense, set_and_unset_fit, ?_, ?_⟩
  · obtain ⟨front, recovered, isFront, inside, longest, -⟩ :=
      recover_longest_front "counts.log" setAndUnset 60 dense set_and_unset_fit
    have first := longest [⟨0, "left", some [55], -5⟩] (by decide) (by decide)
    have short : front.length ≤ 1 := by
      by_contra longer
      have whole := isFront.eq_of_length_le (Nat.lt_of_not_le longer)
      rw [whole, size] at inside
      omega
    obtain rfl := first.eq_of_length_le short
    exact recovered
  · obtain ⟨front, recovered, -, -, -, complete⟩ :=
      recover_longest_front "counts.log" setAndUnset 83 dense set_and_unset_fit
    rw [complete (Nat.le_of_eq size), size, List.take_of_length_le (Nat.le_of_eq size)] at recovered
    exact recovered

end BrokerTenancy
