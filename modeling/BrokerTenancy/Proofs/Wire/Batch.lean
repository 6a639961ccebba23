import BrokerTenancy.Proofs.Cycle.Interruption
import BrokerTenancy.Proofs.Wire.Outcomes

/-!
When a batch is sent. The wire has sixteen bits for the length of a text, and a request is written
before any of it is sent, so one text that is too long keeps the whole batch from the broker and
ends the cycle that makes the call. A batch whose texts all fit is sent with all its items, and
what the broker refuses of it fails alone.
-/

namespace BrokerTenancy

/-- Every text of the call has room on the wire. -/
def AdminCall.Sendable (call : AdminCall) : Prop := ∀ text ∈ call.texts, Wire.FitsText text

instance (call : AdminCall) : Decidable call.Sendable :=
  inferInstanceAs (Decidable (∀ text ∈ call.texts, Wire.FitsText text))

namespace Wire

/-! ## Writing calls -/

section Writing

variable {Item : Type} {write : Item → Option (List UInt8)}

theorem exists_write_of_list {items : List Item} {bytes : List UInt8}
    (written : writeList write items = some bytes) :
    ∀ item ∈ items, ∃ part, write item = some part := by
  rcases write_list_eq written with ⟨parts, each, -⟩
  clear written
  induction items generalizing parts with
  | nil =>
      intro item member
      cases member
  | cons first items induction =>
      rcases map_m_cons_eq each with ⟨part, others, firstWritten, following, -⟩
      intro item member
      rcases List.mem_cons.mp member with rfl | later
      · exact ⟨part, firstWritten⟩
      · exact induction others following item later

end Writing

theorem fits_of_write_binding {binding : Binding} {bytes : List UInt8}
    (written : writeBinding binding = some bytes) : ∀ text ∈ binding.texts, FitsText text := by
  rcases written_parts written with ⟨resource, grant, resourceWritten, grantWritten, -⟩
  rcases Option.bind_eq_some_iff.mp resourceWritten with ⟨name, named, -⟩
  rcases Option.bind_eq_some_iff.mp grantWritten with ⟨principal, principalWritten, behind⟩
  rcases Option.bind_eq_some_iff.mp behind with ⟨host, hostWritten, -⟩
  intro text member
  simp only [Binding.texts, List.mem_cons, List.not_mem_nil, or_false] at member
  rcases member with rfl | rfl | rfl
  · exact fits_of_write_text named
  · exact fits_of_write_text principalWritten
  · exact fits_of_write_text hostWritten

theorem fits_of_write_filter {filter : BindingFilter} {bytes : List UInt8}
    (written : writeFilter filter = some bytes) : ∀ text ∈ filter.texts, FitsText text := by
  rcases Option.bind_eq_some_iff.mp written with ⟨name, nameWritten, afterName⟩
  rcases Option.bind_eq_some_iff.mp afterName with ⟨principal, principalWritten, afterPrincipal⟩
  rcases Option.bind_eq_some_iff.mp afterPrincipal with ⟨host, hostWritten, -⟩
  intro text member
  rcases List.mem_filterMap.mp member with ⟨field, asked, given⟩
  change field = some text at given
  subst given
  simp only [List.mem_cons, List.not_mem_nil, or_false] at asked
  rcases asked with same | same | same
  · rw [← same] at nameWritten
    exact fits_of_write_text nameWritten
  · rw [← same] at principalWritten
    exact fits_of_write_text principalWritten
  · rw [← same] at hostWritten
    exact fits_of_write_text hostWritten

theorem sendable_of_write_call {call : AdminCall} {bytes : List UInt8}
    (written : writeCall call = some bytes) : call.Sendable := by
  cases call with
  | describe filter => exact fits_of_write_filter written
  | create bindings =>
      intro text member
      rcases List.mem_flatMap.mp member with ⟨binding, wanted, inside⟩
      rcases exists_write_of_list written binding wanted with ⟨part, bindingWritten⟩
      exact fits_of_write_binding bindingWritten text inside
  | delete filters =>
      intro text member
      rcases List.mem_flatMap.mp member with ⟨filter, wanted, inside⟩
      rcases exists_write_of_list written filter wanted with ⟨part, filterWritten⟩
      exact fits_of_write_filter filterWritten text inside

theorem write_request_iff (correlation : Int) (call : AdminCall) :
    (∃ request, writeRequest correlation call = some request) ↔ call.Sendable := by
  constructor
  · rintro ⟨request, written⟩
    simp only [writeRequest, Option.bind_eq_bind, Option.bind_eq_some_iff] at written
    rcases written with ⟨header, -, body, bodyWritten, -⟩
    exact sendable_of_write_call bodyWritten
  · exact exists_write_request correlation

theorem write_request_eq_none (correlation : Int) {call : AdminCall}
    (unsendable : ¬call.Sendable) : writeRequest correlation call = none := by
  rw [Option.eq_none_iff_forall_ne_some]
  intro request written
  exact unsendable ((write_request_iff correlation call).mp ⟨request, written⟩)

/-! ## Calls -/

namespace Client

variable {client : Client} {peer : Peer} {call : AdminCall} {link : Link}
  {events : List LinkEvent}

theorem goes_of_connected (connected : client.connected peer = .done (link, events)) :
    client.Goes link events := by
  unfold Client.connected at connected
  split at connected
  · next held =>
      cases connected
      exact .inl ⟨held, rfl⟩
  · next unlinked =>
      rcases Progress.bind_eq_done.mp connected with ⟨-, -, made⟩
      cases made
      exact .inr ⟨unlinked, rfl, rfl⟩

/-- What becomes of a call that cannot be written, on a connection. -/
def unwritten (client : Client) (call : AdminCall) (link : Link) (events : List LinkEvent) :
    Exchange where
  client := client.spend link.number
  events := events ++ [.closed link.number]
  answer := some (call.failedWith
    (.brokerUnavailable client.cluster (.requestNotEncodable (client.encoderText call))))

theorem call_unsendable (asks : emptyAnswer call = none)
    (connected : client.connected peer = .done (link, events)) (unsendable : ¬call.Sendable) :
    client.call peer call = client.unwritten call link events := by
  simp only [Client.call, asks, connected, Client.exchange,
    write_request_eq_none (correlationOf client.requests) unsendable, Client.conclude,
    Client.spend, Client.unwritten]

/-- Whatever the far side does, a call that cannot be written is not sent, and fails as a whole if
it is answered. -/
theorem unsendable_fails (peer : Peer) (asks : emptyAnswer call = none)
    (unsendable : ¬call.Sendable) :
    (∀ number request, .sent number request ∉ (client.call peer call).events) ∧
      ∀ answer, (client.call peer call).answer = some answer →
        ∃ fault, answer = call.failedWith fault := by
  cases connected : client.connected peer with
  | done taken =>
      rcases taken with ⟨link, events⟩
      rw [call_unsendable asks connected unsendable]
      constructor
      · intro number request sent
        rcases List.mem_append.mp sent with opening | closing
        · cases (goes_of_connected connected).link_of_event _ opening
        · cases List.mem_singleton.mp closing
      · intro answer answered
        cases answered
        exact ⟨_, rfl⟩
  | failed fault =>
      simp only [Client.call, asks, connected]
      constructor
      · intro number request sent
        cases sent
      · intro answer answered
        cases answered
        exact ⟨_, rfl⟩
  | waiting =>
      simp only [Client.call, asks, connected]
      constructor
      · intro number request sent
        cases sent
      · intro answer answered
        cases answered

theorem mem_events_of_conclude {event : LinkEvent} (member : event ∈ events) (number : Nat)
    (told : Progress (AdminAnswer × Link)) :
    event ∈ (client.conclude call number events told).events := by
  cases told with
  | done taken => exact member
  | failed fault => exact List.mem_append_left _ member
  | waiting => exact List.mem_append_left _ member

theorem call_sendable (asks : emptyAnswer call = none)
    (connected : client.connected peer = .done (link, events)) (sendable : call.Sendable)
    (takes : ∀ request, peer.takes link.number request = .whole) :
    ∃ request, .sent link.number request ∈ (client.call peer call).events ∧
      writeRequest (correlationOf client.requests) call = some request := by
  rcases (write_request_iff (correlationOf client.requests) call).mpr sendable with
    ⟨request, requested⟩
  refine ⟨request, ?_, requested⟩
  simp only [Client.call, asks, connected, Client.exchange, requested, takes, Link.receive_number]
  apply mem_events_of_conclude
  exact List.mem_append_right _ (List.mem_singleton_self _)

end Client

end Wire

namespace Cycle

/-- Where a cycle is to remove, it goes on to its removals after any outcomes of its creations. -/
theorem created_goes_on {settings : ClusterSettings} {plan : Plan} (tally : Tally)
    (creations : List Creation) (drops : settings.dropUnsynced = true)
    (more : plan.toDelete.isEmpty = false) :
    ((creating plan).answered settings tally (.created (.ok creations))).1 =
      .continues (.deleting plan (.ofCreations creations)) := by
  simp only [answered, afterCreating, drops, more, if_true, Bool.false_eq_true, if_false]

end Cycle

namespace Wire.Client

/-- A batch is sent exactly if all its texts have room on the wire, and then with every item. One
text without room keeps all of it from the broker, whatever the far side does, and ends the cycle
that makes the call. Of a batch that is answered each item has the outcome that its own result
tells, and refusals neither end the cycle nor keep it from its removals. -/
theorem batch_sent_whole (client : Client) (peer : Peer) (call : AdminCall)
    (asks : emptyAnswer call = none) :
    (¬call.Sendable →
      (∀ number request, .sent number request ∉ (client.call peer call).events) ∧
      (∀ link events, client.connected peer = .done (link, events) →
        client.call peer call = client.unwritten call link events) ∧
      ∀ answer, (client.call peer call).answer = some answer →
        ∀ settings tally (cycle : Cycle), cycle.call = call →
          ∃ fault, cycle.answered settings tally answer = Cycle.abort fault tally) ∧
    (call.Sendable → ∀ link events, client.connected peer = .done (link, events) →
      (∀ request, peer.takes link.number request = .whole) →
      ∃ request, .sent link.number request ∈ (client.call peer call).events ∧
        (2 * call.size < bytePower 4 →
          readRequest request = some (correlationOf client.requests, call))) ∧
    (∀ bindings body verdicts, call = .create bindings → client.Hears peer call body →
      readVerdicts body = some verdicts →
      ∃ outcomes, Paired judgeCreation bindings verdicts outcomes ∧
        (client.call peer call).answer = some (.created (.ok (bindings.zip outcomes))) ∧
        ∀ settings tally plan,
          let turned := (Cycle.creating plan).answered settings tally
            (.created (.ok (bindings.zip outcomes)))
          Proceeds tally turned ∧
            (settings.dropUnsynced = true → plan.toDelete.isEmpty = false →
              turned.1 = .continues (.deleting plan (.ofCreations (bindings.zip outcomes))))) ∧
    ∀ filters body removals, call = .delete filters → client.Hears peer call body →
      readRemovals body = some removals →
      ∃ outcomes, Paired judgeRemoval filters removals outcomes ∧
        (client.call peer call).answer = some (.deleted (.ok (filters.zip outcomes))) ∧
        ∀ settings tally plan creations, Proceeds tally
          ((Cycle.deleting plan creations).answered settings tally
            (.deleted (.ok (filters.zip outcomes)))) := by
  refine ⟨?_, ?_, ?_, ?_⟩
  · intro unsendable
    rcases unsendable_fails peer asks unsendable with ⟨unsent, fails⟩
    refine ⟨unsent, ?_, ?_⟩
    · intro link events connected
      exact call_unsendable asks connected unsendable
    · intro answer answered settings tally cycle calls
      rcases fails answer answered with ⟨fault, rfl⟩
      rw [← calls]
      exact ⟨fault, cycle.answered_failed settings tally fault⟩
  · intro sendable link events connected takes
    rcases call_sendable asks connected sendable takes with ⟨request, sent, requested⟩
    rcases correlation_in_range client.requests with ⟨above, below⟩
    refine ⟨request, sent, ?_⟩
    intro countFits
    exact read_request_write above below countFits requested
  · rintro bindings body verdicts rfl hears read
    rcases creations_of_hears asks hears read with ⟨outcomes, paired, answered⟩
    refine ⟨outcomes, paired, answered, ?_⟩
    intro settings tally plan
    exact ⟨Cycle.created_proceeds plan _, Cycle.created_goes_on tally _⟩
  · rintro filters body removals rfl hears read
    rcases deletions_of_hears asks hears read with ⟨outcomes, paired, answered⟩
    refine ⟨outcomes, paired, answered, ?_⟩
    intro settings tally plan creations
    exact Cycle.deleted_proceeds plan creations _

open Conversation (tillReads tillWrites audits)

def longName (count : Nat) : String := String.ofList (List.replicate count 'a')

theorem encode_long_name (count : Nat) : (encodeText (longName count)).length = count := by
  have size (chars : List Char) :
      (encodeText (String.ofList chars)).length = chars.utf8Encode.size := by
    simp [encodeText]
  rw [longName, size]
  induction count with
  | zero => rfl
  | succ count induction =>
      have single : (['a'] : List Char).utf8Encode.size = 1 := by decide
      rw [List.replicate_succ, ← List.singleton_append, List.utf8Encode_append,
        ByteArray.size_append, single, induction, Nat.add_comm]

theorem long_name_fits_iff (count : Nat) : FitsText (longName count) ↔ count ≤ textLimit := by
  rw [FitsText, encode_long_name]

/-- A stored entry to read a topic. -/
def readingEntry (name : String) : AccessControlEntry :=
  { Site.ordersEntry "reading" .read with resource := name }

def readingBinding (name : String) : Binding := .allow .topic name .literal "User:till" .read

theorem expand_reading_entry (name : String) :
    expandEntry (readingEntry name) Site.shopTenant = .ok [readingBinding name] := rfl

/-- A binding whose name has one byte too much for the wire. -/
def longReads : Binding := readingBinding (longName (textLimit + 1))

theorem unsendable_of_long {bindings : List Binding} (member : longReads ∈ bindings) :
    ¬(AdminCall.create bindings).Sendable := by
  intro sendable
  have fits : FitsText (longName (textLimit + 1)) :=
    sendable _ (List.mem_flatMap.mpr ⟨longReads, member, List.mem_cons_self⟩)
  exact absurd ((long_name_fits_iff _).mp fits) (Nat.not_succ_le_self textLimit)

theorem batch_sent_whole_mixed :
    (∀ number request, .sent number request ∉
      (newClient.call (responding longVerdicts) (.create [longReads, tillReads])).events) ∧
    (∃ request, .sent 0 request ∈
        (newClient.call (responding longVerdicts) (.create [tillReads, audits])).events ∧
      readRequest request = some (0, .create [tillReads, audits])) ∧
    (∃ outcomes, (newClient.call (responding longVerdicts) (.create [tillReads, audits])).answer =
        some (.created (.ok ([tillReads, audits].zip outcomes))) ∧
      outcomes.map Except.isOk = [false, true]) ∧
    ∃ outcomes, (newClient.call (responding shortRemovals)
        (.delete [.exactly tillReads, .exactly tillWrites])).answer =
          some (.deleted (.ok ([.exactly tillReads, .exactly tillWrites].zip outcomes))) ∧
      ∀ settings tally plan creations, Proceeds tally
        ((Cycle.deleting plan creations).answered settings tally
          (.deleted (.ok ([.exactly tillReads, .exactly tillWrites].zip outcomes)))) := by
  have sendable : (AdminCall.create [tillReads, audits]).Sendable := by decide +kernel
  rcases batch_sent_whole newClient (responding longVerdicts) (.create [tillReads, audits]) rfl with
    ⟨-, sent, created, -⟩
  refine ⟨?_, ?_, ?_, ?_⟩
  · exact ((batch_sent_whole newClient (responding longVerdicts)
      (.create [longReads, tillReads]) rfl).1 (unsendable_of_long List.mem_cons_self)).1
  · rcases sent sendable { number := 0 } [.connected 0] rfl (fun request => rfl) with
      ⟨request, told, carries⟩
    exact ⟨request, told, carries (by decide)⟩
  · rcases created _ longVerdicts _ rfl (hears_responding sendable (by decide +kernel))
      read_long_verdicts with ⟨outcomes, paired, answered, -⟩
    refine ⟨outcomes, answered, ?_⟩
    rcases outcomes with _ | ⟨first, _ | ⟨second, _ | ⟨third, rest⟩⟩⟩ <;> cases paired.length
    rw [paired.own 0 tillReads first rfl rfl, paired.own 1 audits second rfl rfl]
    rfl
  · have read := read_removals_eq shortRemovals
    rw [read_short_removals, Option.map_some] at read
    rcases (batch_sent_whole newClient (responding shortRemovals)
      (.delete [.exactly tillReads, .exactly tillWrites]) rfl).2.2.2 _ shortRemovals _ rfl
      (hears_responding (by decide +kernel) (by decide +kernel)) read with
        ⟨outcomes, -, answered, proceeds⟩
    exact ⟨outcomes, answered, proceeds⟩

theorem long_name_aborts (plan : Plan) (member : longReads ∈ plan.toCreate) :
    let exchange := newClient.call (responding longVerdicts) (Cycle.creating plan).call
    exchange.events = [.connected 0, .closed 0] ∧
      ∃ answer, exchange.answer = some answer ∧
        ∀ settings tally, ∃ fault,
          (Cycle.creating plan).answered settings tally answer = Cycle.abort fault tally := by
  have asks : emptyAnswer (Cycle.creating plan).call = none :=
    creation_asks (List.ne_nil_of_mem member)
  have connected : newClient.connected (responding longVerdicts) =
      .done ({ number := 0 }, [.connected 0]) := rfl
  have unsendable : ¬(Cycle.creating plan).call.Sendable := unsendable_of_long member
  rw [call_unsendable asks connected unsendable]
  exact ⟨rfl, _, rfl, fun settings tally => ⟨_, Cycle.answered_failed settings tally _ _⟩⟩

/-- One stored entry keeps the bindings of others from being created. -/
theorem long_name_keeps_others :
    ∃ entry, ∃ plan : Plan, expandEntry entry Site.shopTenant = .ok [longReads] ∧
      longReads ∈ plan.toCreate ∧ tillReads ∈ plan.toCreate ∧
      (AdminCall.create [tillReads]).Sendable ∧
      let exchange := newClient.call (responding longVerdicts) (Cycle.creating plan).call
      exchange.events = [.connected 0, .closed 0] ∧
        ∃ answer, exchange.answer = some answer ∧
          ∀ settings tally, ∃ fault,
            (Cycle.creating plan).answered settings tally answer = Cycle.abort fault tally := by
  have wanted (binding : Binding) (member : binding ∈ [longReads, tillReads]) :
      binding ∈ (SortedSet.ofList [longReads, tillReads]).difference .empty :=
    (SortedSet.mem_difference _ _ _).mpr
      ⟨(SortedSet.mem_of_list _ _).mpr member, SortedSet.not_mem_empty _⟩
  have long := wanted longReads List.mem_cons_self
  have short := wanted tillReads (List.mem_cons_of_mem _ List.mem_cons_self)
  exact ⟨readingEntry _, ⟨.ofList [longReads, tillReads], .empty, .empty⟩,
    expand_reading_entry _, long, short, by decide +kernel, long_name_aborts _ long⟩

end Wire.Client

end BrokerTenancy
