import BrokerTenancy.Proofs.Broker.Batches
import BrokerTenancy.Proofs.Wire.Reply
import Mathlib.Data.List.Forall2
import Mathlib.Data.Set.Insert

/-!
What a broker may make of a call, as a relation on the set of its bindings: it goes through the
items one after the other and says something about each. Whatever it says, its bindings become those
of a broker that keeps them in memory, and what a client reads agrees with the answer of that one.
-/

namespace BrokerTenancy

/-! ## Agreement -/

/-- Both succeed, with values that agree, or both fail. -/
inductive Outcome.Agrees {Value : Type} (same : Value → Value → Prop) :
    Outcome Value → Outcome Value → Prop
  | succeeded {left right : Value} (agree : same left right) : Agrees same (.ok left) (.ok right)
  | failed (left right : Fault) : Agrees same (.error left) (.error right)

/-- Results for the same item that agree. -/
def ItemAgrees {Item Value : Type} (same : Value → Value → Prop)
    (left right : Item × Outcome Value) : Prop :=
  left.1 = right.1 ∧ Outcome.Agrees same left.2 right.2

def SameBindings (left right : List Binding) : Prop := ∀ binding, binding ∈ left ↔ binding ∈ right

/-- Answers to one call that tell the same: the same bindings, or for every item, at its position,
the same success or failure and the same removed bindings. -/
inductive AdminAnswer.Agrees : AdminAnswer → AdminAnswer → Prop
  | described {left right : List Binding} (same : SameBindings left right) :
      Agrees (.described (.ok left)) (.described (.ok right))
  | created {left right : List Creation} (each : List.Forall₂ (ItemAgrees Eq) left right) :
      Agrees (.created (.ok left)) (.created (.ok right))
  | deleted {left right : List Deletion}
      (each : List.Forall₂ (ItemAgrees SameBindings) left right) :
      Agrees (.deleted (.ok left)) (.deleted (.ok right))

/-- The broker when it refuses just the given bindings. -/
def Broker.refusing (broker : Broker) (refused : List Binding) : Broker := { broker with refused }

namespace Wire

/-! ## Performing a call -/

/-- Items that are done one after the other, each in the state that the one before it left. -/
inductive Each {State Item Said : Type} (one : State → Item → Said → State → Prop) :
    State → List Item → List Said → State → Prop
  | none (state : State) : Each one state [] [] state
  | more {before between after : State} {item : Item} {items : List Item} {said : Said}
      {others : List Said} (first : one before item said between)
      (rest : Each one between items others after) :
      Each one before (item :: items) (said :: others) after

inductive Creates (refused held : Set Binding) (binding : Binding) : Ruling → Set Binding → Prop
  | rejected {ruling : Ruling} (unwelcome : binding ∈ refused)
      (fails : ruling.isSuccess = false) : Creates refused held binding ruling held
  | stored {ruling : Ruling} (welcome : binding ∉ refused) (succeeds : ruling.isSuccess = true) :
      Creates refused held binding ruling (insert binding held)

/-- A filter is refused as a whole for one binding that matches it, else what matches is removed. -/
inductive Deletes (refused held : Set Binding) (filter : BindingFilter) :
    FilterRuling → Set Binding → Prop
  | rejected {ruling : FilterRuling} {binding : Binding} (there : binding ∈ held)
      (matching : filter.isMatch binding = true) (unwelcome : binding ∈ refused)
      (fails : ¬ruling.Succeeds) : Deletes refused held filter ruling held
  | removed {ruling : FilterRuling}
      (free : ∀ binding ∈ held, filter.isMatch binding = true → binding ∉ refused)
      (succeeds : ruling.Succeeds)
      (complete : ∀ binding,
        binding ∈ ruling.bindings ↔ binding ∈ held ∧ filter.isMatch binding = true) :
      Deletes refused held filter ruling {binding ∈ held | filter.isMatch binding = false}

/-- What a broker that refuses some bindings may answer to a call, and hold after it. -/
inductive Performs (refused held : Set Binding) : AdminCall → Results → Set Binding → Prop
  | described {filter : BindingFilter} {ruling : Ruling} {holdings : List Holding}
      (succeeds : ruling.isSuccess = true)
      (complete : ∀ binding, binding ∈ holdings.flatMap Holding.bindings ↔
        binding ∈ held ∧ filter.isMatch binding = true) :
      Performs refused held (.describe filter) (.described ruling holdings) held
  | created {bindings : List Binding} {rulings : List Ruling} {after : Set Binding}
      (each : Each (Creates refused) held bindings rulings after) :
      Performs refused held (.create bindings) (.created rulings) after
  | deleted {filters : List BindingFilter} {rulings : List FilterRuling} {after : Set Binding}
      (each : Each (Deletes refused) held filters rulings after) :
      Performs refused held (.delete filters) (.deleted rulings) after

/-- A result for every item. -/
theorem Each.length_eq {State Item Said : Type} {one : State → Item → Said → State → Prop}
    {before after : State} {items : List Item} {said : List Said}
    (each : Each one before items said after) : said.length = items.length := by
  induction each with
  | none => rfl
  | more first rest induction => rw [List.length_cons, List.length_cons, induction]

/-! ## Against a broker in memory -/

theorem Creates.judged {broker : Broker} {held after : Set Binding} {binding : Binding}
    {ruling : Ruling} (creates : Creates broker.rejects held binding ruling after) :
    ItemAgrees Eq (binding, judgeCreation binding (some ruling.verdict))
      (broker.creation binding) := by
  cases creates with
  | rejected unwelcome fails =>
      have listed : binding ∈ broker.refused := unwelcome
      have fails : ruling.verdict.isSuccess = false := fails
      simp only [judgeCreation, fails, Broker.creation, List.contains_eq_mem, listed]
      exact ⟨rfl, .failed _ _⟩
  | stored welcome succeeds =>
      have listed : binding ∉ broker.refused := welcome
      have succeeds : ruling.verdict.isSuccess = true := succeeds
      simp only [judgeCreation, succeeds, Broker.creation, List.contains_eq_mem, listed]
      exact ⟨rfl, .succeeded rfl⟩

theorem creations_agree {broker : Broker} {held after : Set Binding} {bindings : List Binding}
    {rulings : List Ruling} (each : Each (Creates broker.rejects) held bindings rulings after) :
    List.Forall₂ (ItemAgrees Eq) (pairUp judgeCreation bindings (rulings.map Ruling.verdict))
      (bindings.map broker.creation) := by
  induction each with
  | none => exact .nil
  | more first rest induction => exact .cons first.judged induction

theorem mem_created {refused held after : Set Binding} {bindings : List Binding}
    {rulings : List Ruling} (each : Each (Creates refused) held bindings rulings after)
    (binding : Binding) :
    binding ∈ after ↔ binding ∈ held ∨ binding ∈ bindings ∧ binding ∉ refused := by
  induction each with
  | none => simp
  | more first rest induction =>
      rw [induction]
      cases first with
      | rejected unwelcome fails =>
          rw [List.mem_cons]
          constructor
          · rintro (there | ⟨later, welcome⟩)
            · exact .inl there
            · exact .inr ⟨.inr later, welcome⟩
          · rintro (there | ⟨rfl | later, welcome⟩)
            · exact .inl there
            · exact absurd unwelcome welcome
            · exact .inr ⟨later, welcome⟩
      | stored accepted succeeds =>
          rw [Set.mem_insert_iff, List.mem_cons]
          constructor
          · rintro ((rfl | there) | ⟨later, welcome⟩)
            · exact .inr ⟨.inl rfl, accepted⟩
            · exact .inl there
            · exact .inr ⟨.inr later, welcome⟩
          · rintro (there | ⟨rfl | later, welcome⟩)
            · exact .inl (.inr there)
            · exact .inl (.inl rfl)
            · exact .inr ⟨later, welcome⟩

theorem judge_removal_fails (filter : BindingFilter) {ruling : FilterRuling}
    (fails : ¬ruling.Succeeds) :
    ∃ fault, judgeRemoval filter (some ruling.removal) = .error fault := by
  simp only [judgeRemoval]
  split
  · exact ⟨_, rfl⟩
  · next succeeds =>
      split
      · exact ⟨_, rfl⟩
      · next all =>
          exfalso
          apply fails
          constructor
          · exact eq_true_of_ne_false fun failed => succeeds (congrArg not failed)
          · intro ruled member
            have passed := List.find?_eq_none.mp all _ (List.mem_map.mpr ⟨ruled, member, rfl⟩)
            exact eq_true_of_ne_false fun failed => passed (congrArg not failed)

theorem judge_removal_succeeds (filter : BindingFilter) {ruling : FilterRuling}
    (succeeds : ruling.Succeeds) :
    judgeRemoval filter (some ruling.removal) = .ok ruling.bindings := by
  have whole : ruling.removal.verdict.isSuccess = true := succeeds.1
  have all : ruling.removal.matched.find? (fun matched => !matched.1.isSuccess) = none := by
    rw [List.find?_eq_none]
    intro matched member
    rcases List.mem_map.mp member with ⟨ruled, inside, rfl⟩
    have passed : ruled.1.verdict.isSuccess = true := succeeds.2 ruled inside
    simp [passed]
  have listed : ruling.removal.matched.filterMap (·.2) = ruling.bindings := by
    unfold FilterRuling.removal FilterRuling.bindings
    rw [List.filterMap_map]
    exact congrFun List.filterMap_eq_map _
  simp only [judgeRemoval, whole, Bool.not_true, Bool.false_eq_true, if_false, all, listed]

theorem Deletes.judged {refused : List Binding} {bindings : BindingSet} {after : Set Binding}
    {filter : BindingFilter} {ruling : FilterRuling}
    (deletes : Deletes {binding | binding ∈ refused} bindings.members filter ruling after) :
    ItemAgrees SameBindings (filter, judgeRemoval filter (some ruling.removal))
        (Broker.deleteMatching refused bindings filter).2 ∧
      after = (Broker.deleteMatching refused bindings filter).1.members := by
  cases deletes with
  | rejected there matching unwelcome fails =>
      obtain ⟨blocked, deleted⟩ := Broker.delete_matching_blocked there matching unwelcome
      obtain ⟨fault, judged⟩ := judge_removal_fails filter fails
      rw [deleted, judged]
      exact ⟨⟨rfl, .failed _ _⟩, rfl⟩
  | removed free succeeds complete =>
      rw [Broker.delete_matching_free free, judge_removal_succeeds filter succeeds]
      refine ⟨⟨rfl, .succeeded fun binding => ?_⟩, ?_⟩
      · rw [complete binding, SortedSet.mem_to_list, SortedSet.mem_filter]
        rfl
      · ext binding
        simp

theorem deletions_agree {refused : List Binding} {held after : Set Binding}
    {filters : List BindingFilter} {rulings : List FilterRuling}
    (each : Each (Deletes {binding | binding ∈ refused}) held filters rulings after)
    {bindings : BindingSet} (same : held = bindings.members) :
    List.Forall₂ (ItemAgrees SameBindings)
        (pairUp judgeRemoval filters (rulings.map FilterRuling.removal))
        (Broker.deleteAll refused bindings filters).2 ∧
      after = (Broker.deleteAll refused bindings filters).1.members := by
  -- The bindings in memory change with every filter, as those of the broker do.
  induction each generalizing bindings with
  | none => exact ⟨.nil, same⟩
  | more first rest induction =>
      subst same
      obtain ⟨judged, left⟩ := first.judged
      obtain ⟨others, last⟩ := induction left
      exact ⟨.cons judged others, last⟩

/-- The bindings of a broker become those of the broker in memory, and a client reads an answer that
agrees with its answer. -/
theorem Performs.agrees {broker : Broker} (available : broker.available = true) {call : AdminCall}
    {results : Results} {after : Set Binding}
    (performs : Performs broker.rejects broker.bindings.members call results after)
    {bytes : List UInt8} (written : results.write = some bytes)
    (bounded : 2 * bytes.length < bytePower 4) (cluster : String) (throttle : Int) :
    after = (broker.perform call).1.bindings.members ∧
      ∃ answer, readAnswer cluster call (writeInteger 4 throttle ++ bytes) = some answer ∧
        answer.Agrees (broker.perform call).2 := by
  simp only [Broker.perform, available, Bool.not_true, Bool.false_eq_true, if_false]
  cases performs with
  | @described filter ruling holdings succeeds complete =>
      have read := read_description_write bounded throttle written
      have succeeds : ruling.verdict.isSuccess = true := succeeds
      refine ⟨rfl, .described (.ok (holdings.flatMap Holding.bindings)), ?_, ?_⟩
      · simp [readAnswer, read, judgeDescription, succeeds]
      · apply AdminAnswer.Agrees.described
        intro binding
        rw [complete binding, SortedSet.mem_to_list, SortedSet.mem_filter]
        rfl
  | @created bindings rulings after each =>
      have read := read_verdicts_write bounded throttle written
      refine ⟨?_, .created (.ok (pairUp judgeCreation bindings (rulings.map Ruling.verdict))),
        ?_, .created (creations_agree each)⟩
      · ext binding
        rw [mem_created each binding]
        exact (Broker.mem_create_all (broker.recordCall (.create bindings)) bindings binding).symm
      · simp [readAnswer, read]
  | @deleted filters rulings after each =>
      have read := read_removals_write bounded throttle written
      obtain ⟨agree, left⟩ := deletions_agree each rfl
      refine ⟨left, .deleted (.ok (pairUp judgeRemoval filters
        (rulings.map FilterRuling.removal))), ?_, .deleted agree⟩
      simp [readAnswer, read]

/-! ## Services -/

/-- A broker that is reached over the wire. What it keeps may be anything that tells its bindings,
and the bindings that it refuses may be others at every call. -/
structure Service (State : Type) where
  holds : State → Set Binding
  perform : List Binding → State → AdminCall → State × Reply

namespace Service

variable {State : Type}

def Serves (service : Service State) : Prop :=
  ∀ refused state call, Performs {binding | binding ∈ refused} (service.holds state) call
    (service.perform refused state call).2.results
    (service.holds (service.perform refused state call).1)

/-- Reads a request, does what it asks, and answers with its correlation. -/
def serve (service : Service State) (refused : List Binding) (state : State)
    (request : List UInt8) : State × Option (List UInt8) :=
  match readRequest request with
  | none => (state, none)
  | some (correlation, call) =>
      let (after, reply) := service.perform refused state call
      (after, (reply.message correlation).map framed)

end Service

/-! ## The broker in memory as a service -/

def Ruling.success : Ruling := ⟨.success, by decide, by decide⟩

def Ruling.refusal : Ruling := ⟨.refusal, by decide, by decide⟩

def Ruling.ofOutcome {Value : Type} : Outcome Value → Ruling
  | .ok _ => .success
  | .error _ => .refusal

/-- A binding alone on its resources. -/
def Holding.single (binding : Binding) : Holding := ⟨binding, [], by simp⟩

def FilterRuling.ofDeletion (deletion : Deletion) : FilterRuling where
  ruling := .ofOutcome deletion.2
  matched := (deletion.2.toOption.getD []).map fun binding => (.success, binding)

def Results.ofAnswer : AdminAnswer → Results
  | .described answer => .described .success ((answer.toOption.getD []).map .single)
  | .created answer =>
      .created ((answer.toOption.getD []).map fun creation => .ofOutcome creation.2)
  | .deleted answer => .deleted ((answer.toOption.getD []).map .ofDeletion)

theorem FilterRuling.of_deletion_bindings (filter : BindingFilter) (removed : List Binding) :
    (ofDeletion (filter, .ok removed)).bindings = removed := by
  unfold bindings ofDeletion
  rw [List.map_map]
  exact List.map_id _

theorem creations_performed (broker : Broker) (bindings : List Binding) (held : BindingSet) :
    Each (Creates broker.rejects) held.members bindings
      (bindings.map fun binding => Ruling.ofOutcome (broker.creation binding).2)
      (held.insertAll
        (bindings.filter fun binding => !broker.refused.contains binding)).members := by
  induction bindings generalizing held with
  | nil => exact .none _
  | cons binding others induction =>
      by_cases listed : binding ∈ broker.refused
      · have unstored : (!broker.refused.contains binding) = false := by simpa using listed
        rw [List.filter_cons, unstored]
        refine .more (.rejected listed ?_) (induction held)
        simp [Broker.creation, listed]
        rfl
      · have stored : (!broker.refused.contains binding) = true := by simpa using listed
        have members : (held.insert binding).members = insert binding held.members := by
          ext other
          exact SortedSet.mem_insert held binding other
        rw [List.filter_cons, stored]
        have following := induction (held.insert binding)
        rw [members] at following
        refine .more (.stored listed ?_) following
        simp [Broker.creation, listed]
        rfl

theorem deletion_performed (refused : List Binding) (bindings : BindingSet)
    (filter : BindingFilter) :
    Deletes {binding | binding ∈ refused} bindings.members filter
      (.ofDeletion (Broker.deleteMatching refused bindings filter).2)
      (Broker.deleteMatching refused bindings filter).1.members := by
  by_cases blocked : ∃ binding ∈ bindings, filter.isMatch binding = true ∧ binding ∈ refused
  · rcases blocked with ⟨binding, held, matching, rejected⟩
    obtain ⟨first, deleted⟩ := Broker.delete_matching_blocked held matching rejected
    rw [deleted]
    apply Deletes.rejected held matching rejected
    rintro ⟨success, -⟩
    cases success
  · have free : ∀ binding ∈ bindings, filter.isMatch binding = true → binding ∉ refused :=
      fun binding held matching rejected => blocked ⟨binding, held, matching, rejected⟩
    have left : (bindings.filter fun binding => !filter.isMatch binding).members =
        {binding ∈ bindings.members | filter.isMatch binding = false} := by
      ext binding
      simp
    rw [Broker.delete_matching_free free, left]
    apply Deletes.removed free
    · refine ⟨rfl, ?_⟩
      intro ruled member
      rcases List.mem_map.mp member with ⟨binding, _, rfl⟩
      rfl
    · intro binding
      rw [FilterRuling.of_deletion_bindings, SortedSet.mem_to_list, SortedSet.mem_filter]
      rfl

theorem deletions_performed (refused : List Binding) (filters : List BindingFilter)
    (bindings : BindingSet) :
    Each (Deletes {binding | binding ∈ refused}) bindings.members filters
      ((Broker.deleteAll refused bindings filters).2.map .ofDeletion)
      (Broker.deleteAll refused bindings filters).1.members := by
  induction filters generalizing bindings with
  | nil => exact .none _
  | cons filter others induction =>
      exact .more (deletion_performed refused bindings filter) (induction _)

theorem performs_memory (broker : Broker) (available : broker.available = true)
    (call : AdminCall) :
    Performs broker.rejects broker.bindings.members call (.ofAnswer (broker.perform call).2)
      (broker.perform call).1.bindings.members := by
  simp only [Broker.perform, available, Bool.not_true, Bool.false_eq_true, if_false]
  cases call with
  | describe filter =>
      apply Performs.described rfl
      intro binding
      have listed : ((broker.bindings.filter filter.isMatch).toList.map Holding.single).flatMap
          Holding.bindings = (broker.bindings.filter filter.isMatch).toList := by
        rw [List.flatMap_map]
        exact List.flatMap_singleton' _
      change binding ∈ ((broker.bindings.filter filter.isMatch).toList.map
        Holding.single).flatMap Holding.bindings ↔ _
      rw [listed, SortedSet.mem_to_list, SortedSet.mem_filter]
      rfl
  | create bindings =>
      have each := creations_performed broker bindings broker.bindings
      have said : (bindings.map broker.creation).map
          (fun creation => Ruling.ofOutcome creation.2) =
          bindings.map fun binding => Ruling.ofOutcome (broker.creation binding).2 :=
        List.map_map
      rw [← said] at each
      exact .created each
  | delete filters => exact .deleted (deletions_performed broker.refused filters broker.bindings)

namespace Service

def ofMemory : Service { broker : Broker // broker.available = true } where
  holds broker := broker.1.bindings.members
  perform refused broker call :=
    let performed := (broker.1.refusing refused).perform call
    have alike := Broker.perform_alike (broker.1.refusing refused) call
    (⟨performed.1, alike.available.trans broker.2⟩, ⟨0, .ofAnswer performed.2⟩)

theorem memory_serves : ofMemory.Serves := by
  rintro refused ⟨broker, available⟩ call
  exact performs_memory (broker.refusing refused) available call

end Service

theorem write_list_map {Item Other : Type} (write : Other → Option (List UInt8))
    (change : Item → Other) (items : List Item) :
    writeList write (items.map change) = writeList (fun item => write (change item)) items := by
  simp only [writeList, List.mapM_map, List.length_map]
  rfl

theorem write_ruling_of_outcome {Value : Type} (outcome : Outcome Value) :
    (Ruling.ofOutcome outcome).write = (Verdict.ofOutcome outcome).write := by
  cases outcome <;> rfl

theorem write_filter_ruling_of_deletion (deletion : Deletion) :
    (FilterRuling.ofDeletion deletion).write = writeRemoval deletion := by
  unfold FilterRuling.write FilterRuling.ofDeletion writeRemoval
  simp only [write_ruling_of_outcome, write_list_map]
  rfl

theorem write_results_memory {broker : Broker} (available : broker.available = true)
    (call : AdminCall) :
    (Results.ofAnswer (broker.perform call).2).write = writeResults (broker.perform call).2 := by
  simp only [Broker.perform, available, Bool.not_true, Bool.false_eq_true, if_false]
  cases call with
  | describe filter =>
      simp only [Results.ofAnswer, Results.write, write_list_map]
      rfl
  | create bindings =>
      simp only [Results.ofAnswer, Results.write, write_list_map, write_ruling_of_outcome]
      rfl
  | delete filters =>
      simp only [Results.ofAnswer, Results.write, write_list_map, write_filter_ruling_of_deletion]
      rfl

/-- The broker in memory and the service made of it answer every request with the same bytes. -/
theorem serve_memory (broker : { broker : Broker // broker.available = true })
    (request : List UInt8) :
    ((Service.ofMemory.serve broker.1.refused broker request).1.1,
      (Service.ofMemory.serve broker.1.refused broker request).2) = serve broker.1 request := by
  unfold Service.serve serve
  cases readRequest request with
  | none => rfl
  | some told =>
      rcases told with ⟨correlation, call⟩
      have written := write_results_memory broker.2 call
      simp only [Service.ofMemory, Broker.refusing, Reply.message, writeResponse, written]
      cases writeResults (broker.1.perform call).2 <;> simp

end Wire

end BrokerTenancy
