import BrokerTenancy.Proofs.Wire.Codec

/-!
Replies of a broker. They come back from their bytes with any texts, any time to wait and any
grouping of the bindings by their resources, as long as they are no longer than a message can be.
-/

namespace BrokerTenancy.Wire

/-! ## Replies -/

/-- A verdict whose code has sixteen bits. -/
structure Ruling where
  verdict : Verdict
  above : -(bytePower 2 : Int) ≤ 2 * verdict.code
  below : 2 * verdict.code < bytePower 2

/-- Bindings on the same resources, which are written once for all of them. -/
structure Holding where
  first : Binding
  others : List Binding
  shared : ∀ other ∈ others, resourceOf other = resourceOf first

/-- What a broker says about a filter and about each binding that matched it. -/
structure FilterRuling where
  ruling : Ruling
  matched : List (Ruling × Binding)

inductive Results where
  | described (ruling : Ruling) (holdings : List Holding)
  | created (rulings : List Ruling)
  | deleted (rulings : List FilterRuling)

/-- What a broker answers, after the time that it asks its client to wait. -/
structure Reply where
  throttle : Int
  results : Results

namespace Ruling

def isSuccess (ruling : Ruling) : Bool := ruling.verdict.isSuccess

def write (ruling : Ruling) : Option (List UInt8) := ruling.verdict.write

end Ruling

namespace Holding

def bindings (holding : Holding) : List Binding := holding.first :: holding.others

def write (holding : Holding) : Option (List UInt8) := do
  let resource ← writeResource holding.first
  let grants ← writeList writeGrant holding.bindings
  some (resource ++ grants)

end Holding

def writeRuled (ruled : Ruling × Binding) : Option (List UInt8) := do
  let ruling ← ruled.1.write
  let binding ← writeBinding ruled.2
  some (ruling ++ binding)

namespace FilterRuling

/-- Neither the filter nor a binding that matched it was refused. -/
def Succeeds (ruling : FilterRuling) : Prop :=
  ruling.ruling.isSuccess = true ∧ ∀ ruled ∈ ruling.matched, ruled.1.isSuccess = true

def bindings (ruling : FilterRuling) : List Binding := ruling.matched.map (·.2)

/-- What a client reads of it. -/
def removal (ruling : FilterRuling) : Removal where
  verdict := ruling.ruling.verdict
  matched := ruling.matched.map fun ruled => (ruled.1.verdict, some ruled.2)

def write (ruling : FilterRuling) : Option (List UInt8) := do
  let verdict ← ruling.ruling.write
  let matched ← writeList writeRuled ruling.matched
  some (verdict ++ matched)

end FilterRuling

def Results.write : Results → Option (List UInt8)
  | .described ruling holdings => do
      let verdict ← ruling.write
      let resources ← writeList Holding.write holdings
      some (verdict ++ resources)
  | .created rulings => writeList Ruling.write rulings
  | .deleted rulings => writeList FilterRuling.write rulings

/-- The message of a response. -/
def Reply.message (reply : Reply) (correlation : Int) : Option (List UInt8) := do
  let results ← reply.results.write
  some (writeInteger 4 correlation ++ (writeInteger 4 reply.throttle ++ results))

/-! ## Reading replies -/

theorem read_ruling_write {ruling : Ruling} {bytes : List UInt8}
    (written : ruling.write = some bytes) (rest : List UInt8) :
    Verdict.read (bytes ++ rest) = some (ruling.verdict, rest) := by
  obtain ⟨text, textWritten, whole⟩ := Option.bind_eq_some_iff.mp written
  cases whole
  simp only [Verdict.read, List.append_assoc, Option.bind_eq_bind,
    read_integer_write _ ruling.above ruling.below, Option.bind_some,
    read_optional_text_write textWritten]

theorem ruling_room {ruling : Ruling} {bytes : List UInt8}
    (written : ruling.write = some bytes) : 0 < bytes.length := by
  obtain ⟨text, textWritten, whole⟩ := Option.bind_eq_some_iff.mp written
  cases whole
  rw [List.length_append, write_integer_length]
  omega

theorem read_ruled_write {ruled : Ruling × Binding} {bytes : List UInt8}
    (written : writeRuled ruled = some bytes) (rest : List UInt8) :
    readMatched (bytes ++ rest) = some ((ruled.1.verdict, some ruled.2), rest) := by
  obtain ⟨ruling, binding, first, second, rfl⟩ := written_parts written
  simp only [readMatched, List.append_assoc, Option.bind_eq_bind, read_ruling_write first,
    Option.bind_some, read_binding_write second]

theorem ruled_room {ruled : Ruling × Binding} {bytes : List UInt8}
    (written : writeRuled ruled = some bytes) : 0 < bytes.length := by
  obtain ⟨ruling, binding, first, second, rfl⟩ := written_parts written
  rw [List.length_append]
  exact Nat.add_pos_left (ruling_room first) _

theorem grant_room {binding : Binding} {bytes : List UInt8}
    (written : writeGrant binding = some bytes) : 0 < bytes.length := by
  simp only [writeGrant, Option.bind_eq_bind, Option.bind_eq_some_iff] at written
  obtain ⟨principal, principalWritten, host, hostWritten, whole⟩ := written
  cases whole
  simp only [List.length_append, write_integer_length]
  omega

theorem resource_room {binding : Binding} {bytes : List UInt8}
    (written : writeResource binding = some bytes) : 0 < bytes.length := by
  obtain ⟨name, named, whole⟩ := Option.bind_eq_some_iff.mp written
  cases whole
  simp only [List.length_append, write_integer_length]
  omega

theorem holding_room {holding : Holding} {bytes : List UInt8}
    (written : holding.write = some bytes) : 0 < bytes.length := by
  obtain ⟨resource, grants, resourceWritten, grantsWritten, rfl⟩ := written_parts written
  rw [List.length_append]
  exact Nat.add_pos_left (resource_room resourceWritten) _

theorem filter_ruling_room {ruling : FilterRuling} {bytes : List UInt8}
    (written : ruling.write = some bytes) : 0 < bytes.length := by
  obtain ⟨verdict, matched, verdictWritten, matchedWritten, rfl⟩ := written_parts written
  rw [List.length_append]
  exact Nat.add_pos_left (ruling_room verdictWritten) _

theorem Holding.on_resource (holding : Holding) :
    holding.bindings.map (onResource (resourceOf holding.first)) = holding.bindings := by
  rw [Holding.bindings, List.map_cons, on_own_resource, List.map_congr_left, List.map_id]
  intro other member
  rw [← holding.shared other member, on_own_resource]
  rfl

section Sized

variable {size : Nat} (bounded : 2 * size < bytePower 4)

include bounded

theorem holding_reads_back : ReadsBack size Holding.write readDescribed Holding.bindings := by
  intro holding bytes written small rest
  obtain ⟨resource, grants, resourceWritten, grantsWritten, rfl⟩ := written_parts written
  rw [List.length_append] at small
  have back : ReadsBack size writeGrant (readGrant (some (resourceOf holding.first)))
      (fun binding => some (onResource (resourceOf holding.first) binding)) :=
    fun _ _ written _ rest => read_grant_write _ written rest
  have read := back.list (fun _ _ => grant_room) bounded holding.bindings grants grantsWritten
    (by omega) rest
  have listed : (holding.bindings.map
      (fun binding => some (onResource (resourceOf holding.first) binding))).filterMap id =
      holding.bindings := by
    rw [List.filterMap_map]
    exact (congrFun List.filterMap_eq_map _).trans holding.on_resource
  simp only [readDescribed, List.append_assoc, Option.bind_eq_bind,
    read_resource_write resourceWritten, Option.bind_some, read, listed]

theorem filter_ruling_reads_back :
    ReadsBack size FilterRuling.write readRemoval FilterRuling.removal := by
  intro ruling bytes written small rest
  obtain ⟨verdict, matched, verdictWritten, matchedWritten, rfl⟩ := written_parts written
  rw [List.length_append] at small
  have back : ReadsBack size writeRuled readMatched
      (fun ruled => (ruled.1.verdict, some ruled.2)) :=
    fun _ _ written _ rest => read_ruled_write written rest
  have read := back.list (fun _ _ => ruled_room) bounded ruling.matched matched matchedWritten
    (by omega) rest
  simp only [readRemoval, List.append_assoc, Option.bind_eq_bind,
    read_ruling_write verdictWritten, Option.bind_some, read]
  rfl

end Sized

theorem skip_throttle_write (throttle : Int) (rest : List UInt8) :
    skipThrottle (writeInteger 4 throttle ++ rest) = some rest := by
  simp [skipThrottle, read_integer_word 4 throttle rest (by decide)]

section Messages

variable {bytes : List UInt8} (bounded : 2 * bytes.length < bytePower 4) (throttle : Int)

include bounded

theorem read_description_write {ruling : Ruling} {holdings : List Holding}
    (written : (Results.described ruling holdings).write = some bytes) :
    readDescription (writeInteger 4 throttle ++ bytes) =
      some ⟨ruling.verdict, holdings.flatMap Holding.bindings⟩ := by
  obtain ⟨verdict, resources, verdictWritten, resourcesWritten, rfl⟩ := written_parts written
  rw [List.length_append] at bounded
  have short : 2 * resources.length < bytePower 4 := by omega
  have read := (holding_reads_back short).list (fun _ _ => holding_room) short holdings resources
    resourcesWritten (Nat.le_refl _) []
  rw [List.append_nil] at read
  simp only [readDescription, Option.bind_eq_bind, skip_throttle_write, Option.bind_some,
    read_ruling_write verdictWritten, read, List.flatMap_def]

theorem read_verdicts_write {rulings : List Ruling}
    (written : (Results.created rulings).write = some bytes) :
    readVerdicts (writeInteger 4 throttle ++ bytes) = some (rulings.map Ruling.verdict) := by
  have back : ReadsBack bytes.length Ruling.write Verdict.read Ruling.verdict :=
    fun _ _ written _ rest => read_ruling_write written rest
  have read := back.list (fun _ _ => ruling_room) bounded rulings bytes written (Nat.le_refl _) []
  rw [List.append_nil] at read
  simp only [readVerdicts, Option.bind_eq_bind, skip_throttle_write, Option.bind_some, read]

theorem read_removals_write {rulings : List FilterRuling}
    (written : (Results.deleted rulings).write = some bytes) :
    readRemovals (writeInteger 4 throttle ++ bytes) = some (rulings.map FilterRuling.removal) := by
  have read := (filter_ruling_reads_back bounded).list (fun _ _ => filter_ruling_room) bounded
    rulings bytes written (Nat.le_refl _) []
  rw [List.append_nil] at read
  simp only [readRemovals, Option.bind_eq_bind, skip_throttle_write, Option.bind_some, read]

end Messages

end BrokerTenancy.Wire
