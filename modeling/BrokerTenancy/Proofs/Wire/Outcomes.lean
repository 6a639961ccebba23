import BrokerTenancy.Proofs.Wire.Course

/-!
What a response says about the items of a batch. Items and results are matched by their positions,
however many results there are: every item gets one outcome, and it succeeds exactly if there is a
result at its own position and that one tells of success. A removal succeeds if besides no binding
that matched its filter has failed, and it gives those of them whose codes are known.
-/

namespace BrokerTenancy.Wire

/-! ## Matching by position -/

section PairUp

variable {Item Result Value : Type} (judge : Item → Option Result → Outcome Value)

/-- Each item has the outcome that the result at its own position gives it. -/
structure Paired (items : List Item) (results : List Result) (outcomes : List (Outcome Value)) :
    Prop where
  length : outcomes.length = items.length
  own : ∀ (index : Nat) item outcome, items[index]? = some item →
    outcomes[index]? = some outcome → outcome = judge item results[index]?

theorem pair_up_eq (items : List Item) (results : List Result) :
    ∃ outcomes, Paired judge items results outcomes ∧
      pairUp judge items results = items.zip outcomes := by
  induction items generalizing results with
  | nil =>
      refine ⟨[], ⟨rfl, ?_⟩, rfl⟩
      intro index item outcome found
      cases found
  | cons item items induction =>
      rcases induction results.tail with ⟨outcomes, paired, same⟩
      refine ⟨judge item results.head? :: outcomes, ⟨?_, ?_⟩, ?_⟩
      · rw [List.length_cons, List.length_cons, paired.length]
      · intro index other outcome found told
        cases index with
        | zero =>
            cases found
            cases told
            rw [List.head?_eq_getElem?]
        | succ index =>
            rw [List.getElem?_cons_succ] at found told
            rw [paired.own index other outcome found told, List.getElem?_tail]
      · rw [pairUp, same, List.zip_cons_cons]

end PairUp

/-! ## Results about filters -/

/-- A binding that matched a filter as a response tells of it, with codes for its choices. -/
structure MatchedAcl where
  verdict : Verdict
  typeCode : Int
  resourceName : String
  patternCode : Int
  principal : String
  host : String
  operationCode : Int
  effectCode : Int
  deriving DecidableEq

/-- The binding, if its codes are known. -/
def MatchedAcl.binding (matched : MatchedAcl) : Option Binding := do
  let resourceType ← ResourceType.ofCode matched.typeCode
  let patternType ← PatternType.ofCode matched.patternCode
  let operation ← Operation.ofCode matched.operationCode
  let effect ← Effect.ofCode matched.effectCode
  some {
    resourceType
    resourceName := matched.resourceName
    patternType
    principal := matched.principal
    host := matched.host
    operation
    effect }

def MatchedAcl.read (bytes : List UInt8) : Option (MatchedAcl × List UInt8) := do
  let (verdict, rest) ← Verdict.read bytes
  let (typeCode, rest) ← readInteger 1 rest
  let (resourceName, rest) ← readText rest
  let (patternCode, rest) ← readInteger 1 rest
  let (principal, rest) ← readText rest
  let (host, rest) ← readText rest
  let (operationCode, rest) ← readInteger 1 rest
  let (effectCode, rest) ← readInteger 1 rest
  some ({
    verdict
    typeCode
    resourceName
    patternCode
    principal
    host
    operationCode
    effectCode }, rest)

/-- What a response tells of a filter. -/
structure FilterResult where
  verdict : Verdict
  matched : List MatchedAcl
  deriving DecidableEq

def FilterResult.read (bytes : List UInt8) : Option (FilterResult × List UInt8) := do
  let (verdict, rest) ← Verdict.read bytes
  let (matched, rest) ← readList MatchedAcl.read rest
  some ({ verdict, matched }, rest)

def readFilterResults (bytes : List UInt8) : Option (List FilterResult) := do
  let rest ← skipThrottle bytes
  let (results, _) ← readList FilterResult.read rest
  some results

def FilterResult.removal (result : FilterResult) : Removal where
  verdict := result.verdict
  matched := result.matched.map fun matched => (matched.verdict, matched.binding)

/-- One reader reads what the other does, and gives its view of it. -/
def ReadsAs {Value View : Type} (read : List UInt8 → Option (Value × List UInt8))
    (view : Value → View) (readView : List UInt8 → Option (View × List UInt8)) : Prop :=
  ∀ bytes, readView bytes = (read bytes).map (Prod.map view id)

section ReadsAs

variable {Value View : Type} {read : List UInt8 → Option (Value × List UInt8)}
  {view : Value → View} {readView : List UInt8 → Option (View × List UInt8)}

theorem ReadsAs.many (reads : ReadsAs read view readView) (count : Nat) :
    ReadsAs (readMany read count) (List.map view) (readMany readView count) := by
  induction count with
  | zero =>
      intro bytes
      rfl
  | succ count induction =>
      intro bytes
      simp only [readMany, reads bytes]
      cases read bytes with
      | none => rfl
      | some first =>
          simp only [Option.map_some, Prod.map, Option.bind_eq_bind, Option.bind_some,
            induction first.2, id]
          cases readMany read count first.2 with
          | none => rfl
          | some others => rfl

theorem ReadsAs.list (reads : ReadsAs read view readView) :
    ReadsAs (readList read) (List.map view) (readList readView) := by
  intro bytes
  simp only [readList]
  cases readInteger 4 bytes with
  | none => rfl
  | some counted =>
      rcases counted with ⟨length, rest⟩
      cases length with
      | ofNat count => exact reads.many count rest
      | negSucc count => rfl

end ReadsAs

theorem bind_eq_map_bind {First Value View : Type} {first : Option First}
    {next : First → Option Value} {nextView : First → Option View} {view : Value → View}
    (same : ∀ value, nextView value = (next value).map view) :
    first.bind nextView = (first.bind next).map view := by
  cases first with
  | none => rfl
  | some value => exact same value

theorem matched_reads_as :
    ReadsAs MatchedAcl.read (fun matched => (matched.verdict, matched.binding)) readMatched := by
  intro bytes
  simp only [readMatched, MatchedAcl.read, Option.bind_eq_bind]
  -- Field by field both readers take the same off the front.
  apply bind_eq_map_bind
  rintro ⟨verdict, rest⟩
  simp only [readBinding, readResource, Option.bind_eq_bind, Option.bind_assoc]
  apply bind_eq_map_bind
  rintro ⟨typeCode, rest⟩
  apply bind_eq_map_bind
  rintro ⟨resourceName, rest⟩
  apply bind_eq_map_bind
  rintro ⟨patternCode, rest⟩
  simp only [readGrant, Option.bind_some, Option.bind_eq_bind, Option.bind_assoc]
  apply bind_eq_map_bind
  rintro ⟨principal, rest⟩
  apply bind_eq_map_bind
  rintro ⟨host, rest⟩
  apply bind_eq_map_bind
  rintro ⟨operationCode, rest⟩
  apply bind_eq_map_bind
  rintro ⟨effectCode, rest⟩
  rfl

theorem filter_result_reads_as :
    ReadsAs FilterResult.read FilterResult.removal readRemoval := by
  intro bytes
  simp only [readRemoval, FilterResult.read, Option.bind_eq_bind]
  apply bind_eq_map_bind
  rintro ⟨verdict, rest⟩
  simp only [matched_reads_as.list rest]
  cases readList MatchedAcl.read rest with
  | none => rfl
  | some matched => rfl

/-- A response about filters is decodable if its fields can be read, whatever codes they hold. -/
theorem read_removals_eq (body : List UInt8) :
    readRemovals body = (readFilterResults body).map (List.map FilterResult.removal) := by
  simp only [readRemovals, readFilterResults, Option.bind_eq_bind]
  apply bind_eq_map_bind
  intro rest
  simp only [filter_result_reads_as.list rest]
  cases readList FilterResult.read rest with
  | none => rfl
  | some results => rfl

namespace FilterResult

/-- Neither the filter nor a binding that matched it has failed. -/
def Succeeds (result : FilterResult) : Prop :=
  result.verdict.code = 0 ∧ ∀ matched ∈ result.matched, matched.verdict.code = 0

instance (result : FilterResult) : Decidable result.Succeeds :=
  inferInstanceAs (Decidable (_ ∧ _))

/-- The bindings that matched and whose codes are known, in order. -/
def bindings (result : FilterResult) : List Binding := result.matched.filterMap MatchedAcl.binding

end FilterResult

/-- A binding is created exactly if there is a result for it and its code is zero. -/
structure CreationTold (binding : Binding) (result : Option Verdict) (outcome : Outcome Unit) :
    Prop where
  succeeds : outcome = .ok () ↔ ∃ verdict, result = some verdict ∧ verdict.code = 0
  fails : outcome ≠ .ok () → ∃ cause, outcome = .error (.item binding.shown cause)

/-- A filter removes exactly if there is a result for it that succeeds, and what it removes is what
this one tells. -/
structure RemovalTold (filter : BindingFilter) (result : Option FilterResult)
    (outcome : Outcome (List Binding)) : Prop where
  succeeds : ∀ removed, outcome = .ok removed ↔
    ∃ told, result = some told ∧ told.Succeeds ∧ removed = told.bindings
  fails : (∀ removed, outcome ≠ .ok removed) →
    ∃ cause, outcome = .error (.item filter.shown cause)

theorem judge_creation_told (binding : Binding) (result : Option Verdict) :
    CreationTold binding result (judgeCreation binding result) := by
  cases result with
  | none =>
      constructor
      · constructor
        · intro created
          cases created
        · rintro ⟨verdict, none, -⟩
          cases none
      · intro failed
        exact ⟨.noResult, rfl⟩
  | some verdict =>
      rw [judgeCreation]
      by_cases success : verdict.isSuccess = true
      · rw [if_pos success]
        constructor
        · have zero : verdict.code = 0 := eq_of_beq success
          exact ⟨fun _ => ⟨verdict, rfl, zero⟩, fun _ => rfl⟩
        · intro failed
          exact absurd rfl failed
      · rw [if_neg success]
        constructor
        · constructor
          · intro created
            cases created
          · rintro ⟨other, same, zero⟩
            cases same
            exact absurd (beq_iff_eq.mpr zero) success
        · intro failed
          exact ⟨_, rfl⟩

namespace FilterResult

variable (result : FilterResult)

theorem find_failed_eq_none :
    (result.removal.matched.find? fun matched => !matched.1.isSuccess) = none ↔
      ∀ matched ∈ result.matched, matched.verdict.code = 0 := by
  rw [List.find?_eq_none, removal, List.forall_mem_map]
  apply forall₂_congr
  intro matched member
  rw [Bool.not_eq_true', Bool.not_eq_false]
  exact beq_iff_eq

theorem removal_bindings : result.removal.matched.filterMap (·.2) = result.bindings := by
  rw [removal, List.filterMap_map]
  rfl

theorem judge_removal (filter : BindingFilter) :
    (result.Succeeds ∧ judgeRemoval filter (some result.removal) = .ok result.bindings) ∨
      ¬result.Succeeds ∧
        ∃ cause, judgeRemoval filter (some result.removal) = .error (.item filter.shown cause) := by
  rw [judgeRemoval]
  by_cases success : result.verdict.isSuccess = true
  · have accepted : ¬(!result.removal.verdict.isSuccess) = true := by
      rw [Bool.not_eq_true', Bool.not_eq_false]
      exact success
    rw [if_neg accepted]
    cases failing : result.removal.matched.find? fun matched => !matched.1.isSuccess with
    | none =>
        left
        constructor
        · exact ⟨eq_of_beq success, result.find_failed_eq_none.mp failing⟩
        · exact congrArg Except.ok result.removal_bindings
    | some failed =>
        right
        constructor
        · intro succeeds
          rw [result.find_failed_eq_none.mpr succeeds.2] at failing
          cases failing
        · exact ⟨_, rfl⟩
  · have rejected : (!result.removal.verdict.isSuccess) = true := by
      rw [Bool.not_eq_true']
      exact Bool.eq_false_of_not_eq_true success
    rw [if_pos rejected]
    right
    constructor
    · intro succeeds
      exact success (beq_iff_eq.mpr succeeds.1)
    · exact ⟨_, rfl⟩

end FilterResult

theorem judge_removal_told (filter : BindingFilter) (result : Option FilterResult) :
    RemovalTold filter result (judgeRemoval filter (result.map FilterResult.removal)) := by
  cases result with
  | none =>
      constructor
      · intro removed
        constructor
        · intro done
          cases done
        · rintro ⟨told, none, -⟩
          cases none
      · intro failed
        exact ⟨.noResult, rfl⟩
  | some result =>
      rw [Option.map_some]
      rcases result.judge_removal filter with ⟨succeeds, judged⟩ | ⟨fails, cause, judged⟩
      · rw [judged]
        constructor
        · intro removed
          constructor
          · intro done
            cases done
            exact ⟨result, rfl, succeeds, rfl⟩
          · rintro ⟨told, same, -, rfl⟩
            cases same
            rfl
        · intro failed
          exact absurd rfl (failed result.bindings)
      · rw [judged]
        constructor
        · intro removed
          constructor
          · intro done
            cases done
          · rintro ⟨told, same, succeeds, -⟩
            cases same
            exact absurd succeeds fails
        · intro failed
          exact ⟨cause, rfl⟩

/-! ## Batches -/

namespace Client

/-- The response to a call has this body: the request was sent on a connection, and what has arrived
there begins with a response that carries its number. -/
structure Hears (client : Client) (peer : Peer) (call : AdminCall) (body : List UInt8) : Prop where
  exchanged : ∃ link events request rest,
    client.connected peer = .done (link, events) ∧
      writeRequest (correlationOf client.requests) call = some request ∧
      peer.takes link.number request = .whole ∧
      (link.receive (peer.deliver link.number request)).unread =
        framed (writeInteger 4 (correlationOf client.requests) ++ body) ++ rest
  small : ((writeInteger 4 (correlationOf client.requests) ++ body).length : Int) ≤ responseLimit

theorem creation_asks {bindings : List Binding} (something : bindings ≠ []) :
    emptyAnswer (.create bindings) = none := by
  cases bindings with
  | nil => exact absurd rfl something
  | cons binding rest => rfl

theorem removal_asks {filters : List BindingFilter} (something : filters ≠ []) :
    emptyAnswer (.delete filters) = none := by
  cases filters with
  | nil => exact absurd rfl something
  | cons filter rest => rfl

theorem answer_of_hears {client : Client} {peer : Peer} {call : AdminCall} {body : List UInt8}
    {answer : AdminAnswer} (asks : emptyAnswer call = none) (hears : client.Hears peer call body)
    (read : readAnswer client.cluster call body = some answer) :
    (client.call peer call).answer = some answer := by
  rcases hears with ⟨⟨link, events, request, rest, connected, requested, taken, arrived⟩, small⟩
  rcases correlation_in_range client.requests with ⟨above, below⟩
  have understood : (link.receive (peer.deliver link.number request)).readAnswer client.cluster
      (correlationOf client.requests) call = .done (answer,
        { link.receive (peer.deliver link.number request) with unread := rest }) :=
    (Link.read_answer_eq_done above below).mpr ⟨_, rest, ⟨small, body, rfl, read⟩, arrived, rfl⟩
  simp only [Client.call, asks, connected, Client.exchange, requested, taken, understood,
    Client.conclude]

section Heard

variable {client : Client} {peer : Peer} {body : List UInt8}

theorem creations_of_hears {bindings : List Binding} {verdicts : List Verdict}
    (asks : emptyAnswer (.create bindings) = none)
    (hears : client.Hears peer (.create bindings) body)
    (read : readVerdicts body = some verdicts) :
    ∃ outcomes, Paired judgeCreation bindings verdicts outcomes ∧
      (client.call peer (.create bindings)).answer =
        some (.created (.ok (bindings.zip outcomes))) := by
  rcases pair_up_eq judgeCreation bindings verdicts with ⟨outcomes, paired, same⟩
  have answered : readAnswer client.cluster (.create bindings) body =
      some (.created (.ok (bindings.zip outcomes))) := by
    rw [readAnswer, read, Option.map_some, same]
  exact ⟨outcomes, paired, answer_of_hears asks hears answered⟩

theorem deletions_of_hears {filters : List BindingFilter} {removals : List Removal}
    (asks : emptyAnswer (.delete filters) = none)
    (hears : client.Hears peer (.delete filters) body)
    (read : readRemovals body = some removals) :
    ∃ outcomes, Paired judgeRemoval filters removals outcomes ∧
      (client.call peer (.delete filters)).answer =
        some (.deleted (.ok (filters.zip outcomes))) := by
  rcases pair_up_eq judgeRemoval filters removals with ⟨outcomes, paired, same⟩
  have answered : readAnswer client.cluster (.delete filters) body =
      some (.deleted (.ok (filters.zip outcomes))) := by
    rw [readAnswer, read, Option.map_some, same]
  exact ⟨outcomes, paired, answer_of_hears asks hears answered⟩

end Heard

end Client

section Batches

variable {Value : Type}

/-- The bindings whose outcome is a success, or is none. -/
def withOutcome (success : Bool) (bindings : List Binding) (outcomes : List (Outcome Value)) :
    List Binding :=
  ((bindings.zip outcomes).filter fun entry => entry.2.isOk == success).map (·.1)

/-- Every binding is in one of the two lists, as often as it was asked for. -/
theorem with_outcome_perm {bindings : List Binding} {outcomes : List (Outcome Value)}
    (length : outcomes.length = bindings.length) :
    (withOutcome true bindings outcomes ++ withOutcome false bindings outcomes).Perm bindings := by
  have parts := List.filter_append_perm (fun entry : Binding × Outcome Value => entry.2.isOk)
    (bindings.zip outcomes)
  have names := parts.map (·.1)
  rw [List.map_append, List.map_fst_zip (Nat.le_of_eq length.symm)] at names
  simpa [withOutcome] using names

theorem with_outcome_cons (success : Bool) (binding : Binding) (bindings : List Binding)
    (outcome : Outcome Value) (outcomes : List (Outcome Value)) :
    withOutcome success (binding :: bindings) (outcome :: outcomes) =
      (if outcome.isOk == success then [binding] else []) ++
        withOutcome success bindings outcomes := by
  rw [withOutcome, List.zip_cons_cons, List.filter_cons]
  split <;> rfl

theorem of_creations_zip (bindings : List Binding) (outcomes : List (Outcome Unit)) :
    Batch.ofCreations (bindings.zip outcomes) =
      { succeeded := withOutcome true bindings outcomes
        failed := withOutcome false bindings outcomes } := by
  induction bindings generalizing outcomes with
  | nil => rfl
  | cons binding bindings induction =>
      cases outcomes with
      | nil => rfl
      | cons outcome outcomes =>
          have parts := induction outcomes
          simp only [Batch.ofCreations, Batch.mk.injEq] at parts ⊢
          rw [List.zip_cons_cons, List.filterMap_cons, List.filterMap_cons, parts.1, parts.2,
            with_outcome_cons, with_outcome_cons]
          cases outcome with
          | ok created => exact ⟨rfl, rfl⟩
          | error fault => exact ⟨rfl, rfl⟩

/-- The bindings that were removed, binding after binding. -/
def removedBy (outcomes : List (Outcome (List Binding))) : List Binding :=
  outcomes.flatMap fun outcome => outcome.toOption.getD []

/-- The filters of a batch stand for one binding each, so the outcome of a filter is that of its
binding. -/
theorem of_deletions_zip (bindings : List Binding) (outcomes : List (Outcome (List Binding)))
    (length : outcomes.length = bindings.length) :
    Batch.ofDeletions bindings ((bindings.map BindingFilter.exactly).zip outcomes) =
      { succeeded := removedBy outcomes
        failed := withOutcome false bindings outcomes } := by
  induction bindings generalizing outcomes with
  | nil =>
      rw [List.length_nil, List.length_eq_zero_iff] at length
      rw [length]
      rfl
  | cons binding bindings induction =>
      cases outcomes with
      | nil => cases length
      | cons outcome outcomes =>
          have parts := induction outcomes (Nat.succ.inj length)
          simp only [Batch.ofDeletions, Batch.mk.injEq] at parts ⊢
          rw [List.map_cons, List.zip_cons_cons, List.zip_cons_cons, List.flatMap_cons,
            List.filterMap_cons, parts.1, parts.2, with_outcome_cons]
          cases outcome with
          | ok removed => exact ⟨rfl, rfl⟩
          | error fault => exact ⟨rfl, rfl⟩

end Batches

namespace Client

/-- Whatever a decodable response says, every item of a batch has one outcome, at its own position.
A binding is created, or a filter removes, exactly if there is a result for it that says so, and
every other item has a fault of its own. So each binding that the calls of a cycle send is in its
batch once, by its own outcome. A batch of nothing is not sent. -/
theorem batch_has_outcomes (client : Client) (peer : Peer) :
    (client.call peer (.create [])).answer = some (.created (.ok [])) ∧
    (client.call peer (.delete [])).answer = some (.deleted (.ok [])) ∧
    (∀ bindings body verdicts, bindings ≠ [] → client.Hears peer (.create bindings) body →
      readVerdicts body = some verdicts →
      ∃ outcomes, outcomes.length = bindings.length ∧
        (client.call peer (.create bindings)).answer =
          some (.created (.ok (bindings.zip outcomes))) ∧
        (∀ (index : Nat) binding outcome, bindings[index]? = some binding →
          outcomes[index]? = some outcome → CreationTold binding verdicts[index]? outcome) ∧
        Batch.ofCreations (bindings.zip outcomes) =
          { succeeded := withOutcome true bindings outcomes
            failed := withOutcome false bindings outcomes } ∧
        (withOutcome true bindings outcomes ++ withOutcome false bindings outcomes).Perm
          bindings) ∧
    ∀ filters body results, filters ≠ [] → client.Hears peer (.delete filters) body →
      readFilterResults body = some results →
      ∃ outcomes, outcomes.length = filters.length ∧
        (client.call peer (.delete filters)).answer =
          some (.deleted (.ok (filters.zip outcomes))) ∧
        (∀ (index : Nat) filter outcome, filters[index]? = some filter →
          outcomes[index]? = some outcome → RemovalTold filter results[index]? outcome) ∧
        ∀ bindings : List Binding, filters = bindings.map BindingFilter.exactly →
          Batch.ofDeletions bindings (filters.zip outcomes) =
            { succeeded := removedBy outcomes
              failed := withOutcome false bindings outcomes } ∧
          (withOutcome true bindings outcomes ++ withOutcome false bindings outcomes).Perm
            bindings := by
  refine ⟨rfl, rfl, ?_, ?_⟩
  · intro bindings body verdicts something hears read
    rcases creations_of_hears (creation_asks something) hears read with
      ⟨outcomes, paired, answered⟩
    refine ⟨outcomes, paired.length, answered, ?_, of_creations_zip bindings outcomes,
      with_outcome_perm paired.length⟩
    intro index binding outcome found told
    rw [paired.own index binding outcome found told]
    exact judge_creation_told binding verdicts[index]?
  · intro filters body results something hears read
    have removals : readRemovals body = some (results.map FilterResult.removal) := by
      rw [read_removals_eq, read, Option.map_some]
    rcases deletions_of_hears (removal_asks something) hears removals with
      ⟨outcomes, paired, answered⟩
    refine ⟨outcomes, paired.length, answered, ?_, ?_⟩
    · intro index filter outcome found told
      rw [paired.own index filter outcome found told, List.getElem?_map]
      exact judge_removal_told filter results[index]?
    · intro bindings exactly
      have length : outcomes.length = bindings.length := by
        rw [paired.length, exactly, List.length_map]
      rw [exactly]
      exact ⟨of_deletions_zip bindings outcomes length, with_outcome_perm length⟩

/-- A far side that answers the first request on a connection with a body. -/
def responding (body : List UInt8) : Peer where
  dial _ := .accepted
  deliver _ _ := { bytes := framed (writeInteger 4 0 ++ body), outlook := .flowing }

def newClient : Client := { cluster := "east", servers := ["one:9092"] }

theorem hears_responding {call : AdminCall} {body : List UInt8}
    (fits : ∀ text ∈ call.texts, FitsText text)
    (small : ((writeInteger 4 0 ++ body).length : Int) ≤ responseLimit) :
    newClient.Hears (responding body) call body := by
  rcases exists_write_request (correlationOf 0) fits with ⟨request, requested⟩
  refine ⟨⟨{ number := 0 }, [.connected 0], request, [], rfl, requested, rfl, ?_⟩, small⟩
  exact (List.append_nil _).symm

open Conversation (tillReads tillWrites audits)

def verdictBytes (code : Int) : List UInt8 := writeInteger 2 code ++ writeInteger 2 (-1)

/-- Two results: a success about a binding and one of an unknown type, and a binding that failed. -/
def shortRemovals : List UInt8 :=
  let reads := (writeBinding tillReads).getD []
  let writes := (writeBinding tillWrites).getD []
  writeInteger 4 0 ++ writeInteger 4 2 ++
    (verdictBytes 0 ++ writeInteger 4 2 ++ (verdictBytes 0 ++ reads) ++
      (verdictBytes 0 ++ 99 :: reads.tail)) ++
    (verdictBytes 0 ++ writeInteger 4 1 ++ (verdictBytes 7 ++ writes))

/-- A binding as a response tells that it matched. -/
def matchedAs (code : Int) (binding : Binding) : MatchedAcl where
  verdict := ⟨code, none⟩
  typeCode := binding.resourceType.code
  resourceName := binding.resourceName
  patternCode := binding.patternType.code
  principal := binding.principal
  host := binding.host
  operationCode := binding.operation.code
  effectCode := binding.effect.code

theorem read_short_removals : readFilterResults shortRemovals = some [
    ⟨⟨0, none⟩, [matchedAs 0 tillReads, { matchedAs 0 tillReads with typeCode := 99 }]⟩,
    ⟨⟨0, none⟩, [matchedAs 7 tillWrites]⟩] := by
  decide +kernel

/-- One result too much, with a failure in front. -/
def longVerdicts : List UInt8 :=
  writeInteger 4 0 ++ writeInteger 4 3 ++ verdictBytes 44 ++ verdictBytes 0 ++ verdictBytes 0

theorem read_long_verdicts :
    readVerdicts longVerdicts = some [⟨44, none⟩, ⟨0, none⟩, ⟨0, none⟩] := by
  decide +kernel

theorem batch_has_outcomes_uneven :
    (∃ outcomes, (newClient.call (responding longVerdicts) (.create [tillReads, audits])).answer =
        some (.created (.ok ([tillReads, audits].zip outcomes))) ∧
      (∃ cause, outcomes[0]? = some (.error (.item tillReads.shown cause))) ∧
      outcomes[1]? = some (.ok ())) ∧
    ∃ outcomes, (newClient.call (responding shortRemovals)
        (.delete [.exactly tillReads, .exactly tillWrites, .exactly audits])).answer =
          some (.deleted (.ok ([.exactly tillReads, .exactly tillWrites,
            .exactly audits].zip outcomes))) ∧
      outcomes[0]? = some (.ok [tillReads]) ∧
      (∃ cause, outcomes[1]? =
        some (.error (.item (BindingFilter.exactly tillWrites).shown cause))) ∧
      ∃ cause, outcomes[2]? = some (.error (.item (BindingFilter.exactly audits).shown cause)) := by
  constructor
  · have hears : newClient.Hears (responding longVerdicts) (.create [tillReads, audits])
        longVerdicts := hears_responding (by decide +kernel) (by decide +kernel)
    rcases (batch_has_outcomes newClient (responding longVerdicts)).2.2.1 _ _ _
      (List.cons_ne_nil _ _) hears read_long_verdicts with ⟨outcomes, length, answered, told, -⟩
    rcases outcomes with _ | ⟨first, _ | ⟨second, _ | ⟨third, rest⟩⟩⟩ <;> cases length
    have refused := told 0 tillReads first rfl rfl
    have accepted := told 1 audits second rfl rfl
    have failed : first ≠ .ok () := by
      intro created
      rcases refused.succeeds.mp created with ⟨verdict, found, zero⟩
      cases found
      cases zero
    rcases refused.fails failed with ⟨cause, rfl⟩
    have created : second = .ok () := accepted.succeeds.mpr ⟨⟨0, none⟩, rfl, rfl⟩
    exact ⟨_, answered, ⟨cause, rfl⟩, congrArg some created⟩
  · have hears : newClient.Hears (responding shortRemovals)
        (.delete [.exactly tillReads, .exactly tillWrites, .exactly audits]) shortRemovals :=
      hears_responding (by decide +kernel) (by decide +kernel)
    rcases (batch_has_outcomes newClient (responding shortRemovals)).2.2.2 _ _ _
      (List.cons_ne_nil _ _) hears read_short_removals with ⟨outcomes, length, answered, told, -⟩
    rcases outcomes with _ | ⟨first, _ | ⟨second, _ | ⟨third, _ | ⟨fourth, rest⟩⟩⟩⟩ <;>
      cases length
    have removed := told 0 (.exactly tillReads) first rfl rfl
    have failing := told 1 (.exactly tillWrites) second rfl rfl
    have missing := told 2 (.exactly audits) third rfl rfl
    have reads : first = .ok [tillReads] :=
      (removed.succeeds [tillReads]).mpr ⟨_, rfl, by decide, by decide⟩
    have failed : ∀ bindings, second ≠ .ok bindings := by
      intro bindings done
      rcases (failing.succeeds bindings).mp done with ⟨result, found, succeeds, -⟩
      cases found
      exact absurd succeeds (by decide)
    have untold : ∀ bindings, third ≠ .ok bindings := by
      intro bindings done
      rcases (missing.succeeds bindings).mp done with ⟨result, found, -⟩
      cases found
    rcases failing.fails failed with ⟨cause, rfl⟩
    rcases missing.fails untold with ⟨none, rfl⟩
    exact ⟨_, answered, congrArg some reads, ⟨cause, rfl⟩, ⟨none, rfl⟩⟩

end Client

end BrokerTenancy.Wire
