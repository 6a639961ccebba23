import BrokerTenancy.Proofs.Wire.Service

/-!
A client and a broker at the far end of its connections. Over any sequence of calls the client's
answers and the broker's bindings are those of a broker that keeps its bindings in memory.
-/

namespace BrokerTenancy

/-- A call, and the bindings that are refused while it is performed. -/
structure Occasion where
  refused : List Binding
  call : AdminCall

/-- A broker after each of the calls, with its answer. -/
def Broker.performEach (broker : Broker) : List Occasion → List (Broker × AdminAnswer)
  | [] => []
  | occasion :: rest =>
      let performed := (broker.refusing occasion.refused).perform occasion.call
      performed :: performEach performed.1 rest

namespace Wire

/-! ## Reading a response -/

@[simp]
theorem Progress.done_bind {First Second : Type} (value : First)
    (next : First → Progress Second) : (Progress.done value >>= next) = next value := rfl

/-- A connection that waits for nothing. -/
structure Link.Idle (link : Link) : Prop where
  unread : link.unread = []
  flowing : link.outlook = .flowing

namespace Link

theorem receive_number (link : Link) (delivery : Delivery) :
    (link.receive delivery).number = link.number := by
  unfold receive
  split <;> rfl

theorem read_front (number : Nat) (front rest : List UInt8) (outlook : Outlook)
    (atEnd : SystemFault) :
    Link.read ⟨number, front ++ rest, outlook⟩ front.length atEnd =
      .done (front, ⟨number, rest, outlook⟩) := by
  simp [Link.read]

theorem length_of_written (length : Nat) (fits : 2 * length < bytePower 4) :
    intOfWord 4 (decodeBig (writeInteger 4 length)) = length := by
  rw [writeInteger, decode_big_encode (word_of_int_lt 4 length (by decide)),
    int_of_word_of_int 4 length (by omega) (by omega)]

theorem read_framed (number : Nat) {message : List UInt8}
    (small : (message.length : Int) ≤ responseLimit) :
    Link.readFramed ⟨number, framed message, .flowing⟩ =
      .done (message, ⟨number, [], .flowing⟩) := by
  have limit : responseLimit = 67108864 := rfl
  have wide : bytePower 4 = 4294967296 := rfl
  have length := length_of_written message.length (by omega)
  have prefixed := read_front number (writeInteger 4 message.length) message .flowing .unexpectedEnd
  have behind := read_front number message [] .flowing .earlyEnd
  rw [write_integer_length] at prefixed
  rw [List.append_nil] at behind
  have passes : ¬((message.length : Int) < 0 ∨ responseLimit < message.length) := by omega
  simp only [readFramed, framed, prefixed, Progress.done_bind, length, passes, if_false,
    Int.toNat_natCast, behind]

theorem read_answer_framed {link : Link} (idle : link.Idle) {cluster : String} {call : AdminCall}
    {correlation : Int} {body : List UInt8} {answer : AdminAnswer}
    (above : -(bytePower 4 : Int) ≤ 2 * correlation) (below : 2 * correlation < bytePower 4)
    (small : ((writeInteger 4 correlation ++ body).length : Int) ≤ responseLimit)
    (read : Wire.readAnswer cluster call body = some answer) :
    (link.receive ⟨framed (writeInteger 4 correlation ++ body), .flowing⟩).readAnswer cluster
      correlation call = .done (answer, link) := by
  rcases link with ⟨number, unread, outlook⟩
  cases idle.unread
  cases idle.flowing
  have header := read_integer_write body above below
  change Link.readAnswer ⟨number, framed (writeInteger 4 correlation ++ body), .flowing⟩ cluster
    correlation call = _
  simp only [readAnswer, read_framed number small, Progress.done_bind, bodyOf, header,
    Progress.require, if_true, read]

end Link

/-! ## Conversations -/

/-- Some server accepts, and those before it refuse at once. -/
def Reached (dial : String → Dial) (servers : List String) : Prop :=
  ∃ before server behind, servers = before ++ server :: behind ∧ dial server = .accepted ∧
    ∀ other ∈ before, ∃ cause, dial other = .refused cause

theorem dial_first_reached {dial : String → Dial} {servers : List String}
    (reached : Reached dial servers) (last : BrokerFault) :
    dialFirst dial last servers = .done () := by
  obtain ⟨before, server, behind, rfl, accepts, refuses⟩ := reached
  induction before generalizing last with
  | nil => simp [dialFirst, accepts]
  | cons other before induction =>
      obtain ⟨cause, refused⟩ := refuses other List.mem_cons_self
      simp only [List.cons_append, dialFirst, refused]
      exact induction _ fun later member => refuses later (List.mem_cons_of_mem other member)

namespace Service

variable {State : Type} (service : Service State)

/-- The broker in a state, as what a client meets. It ends a connection on which it cannot
answer. -/
def peer (dial : String → Dial) (refused : List Binding) (state : State) : Peer where
  dial
  deliver _ request :=
    match (service.serve refused state request).2 with
    | some response => { bytes := response, outlook := .flowing }
    | none => { bytes := [], outlook := .ended }

/-- What the requests among the events make of the broker. -/
def after (refused : List Binding) (state : State) (events : List LinkEvent) : State :=
  events.foldl (fun state event =>
    match event with
    | .sent _ request => (service.serve refused state request).1
    | _ => state) state

/-- Performs a call with a reply, if it asks for something; no other call is sent. -/
def ask (state : State) (occasion : Occasion) : State × List Reply :=
  match emptyAnswer occasion.call with
  | some _ => (state, [])
  | none =>
      let (after, reply) := service.perform occasion.refused state occasion.call
      (after, [reply])

def replies : State → List Occasion → List Reply
  | _, [] => []
  | state, occasion :: rest =>
      (service.ask state occasion).2 ++ replies (service.ask state occasion).1 rest

/-- It holds what the broker in memory does, and its client has answered as that one has. -/
def Matches (wired : State × Option AdminAnswer) (direct : Broker × AdminAnswer) : Prop :=
  service.holds wired.1 = direct.1.bindings.members ∧
    ∃ answer, wired.2 = some answer ∧ answer.Agrees direct.2

end Service

/-- The response can be written and is not too long for the client. -/
def Reply.Small (reply : Reply) : Prop :=
  ∀ correlation, ∃ message, reply.message correlation = some message ∧
    (message.length : Int) ≤ responseLimit

/-- A client with the broker at the far end. -/
structure Conversation (State : Type) where
  client : Client
  state : State

namespace Conversation

variable {State : Type} (service : Service State) (dial : String → Dial)

def call (conversation : Conversation State) (occasion : Occasion) :
    Conversation State × Option AdminAnswer :=
  let peer := service.peer dial occasion.refused conversation.state
  let exchange := conversation.client.call peer occasion.call
  (⟨exchange.client, service.after occasion.refused conversation.state exchange.events⟩,
    exchange.answer)

/-- The broker and the client's answer after each of the calls. -/
def calls (conversation : Conversation State) : List Occasion → List (State × Option AdminAnswer)
  | [] => []
  | occasion :: rest =>
      let (next, answer) := conversation.call service dial occasion
      (next.state, answer) :: calls next rest

end Conversation

/-! ## One call -/

theorem correlation_in_range (count : Nat) :
    -(bytePower 4 : Int) ≤ 2 * correlationOf count ∧ 2 * correlationOf count < bytePower 4 := by
  have wide : bytePower 4 = 4294967296 := rfl
  have bits : twoPower 32 = 4294967296 := rfl
  have word : count % twoPower 32 < twoPower 32 := Nat.mod_lt count (by decide)
  unfold correlationOf intOfWord
  split <;> omega

theorem exists_write_request (correlation : Int) {call : AdminCall}
    (fits : ∀ text ∈ call.texts, FitsText text) :
    ∃ request, writeRequest correlation call = some request := by
  obtain ⟨body, written⟩ := exists_write_call fits
  have named := write_text_fits (show FitsText clientName by decide +kernel)
  simp [writeRequest, writeHeader, named, written]

/-- A response within the limit has room for less items than a length can tell. -/
theorem Performs.size_fits {refused held after : Set Binding} {call : AdminCall}
    {results : Results} (performs : Performs refused held call results after) {bytes : List UInt8}
    (written : results.write = some bytes) (bounded : 2 * bytes.length < bytePower 4) :
    2 * call.size < bytePower 4 := by
  cases performs with
  | described succeeds complete => exact Nat.zero_lt_succ _
  | created each =>
      have few := count_fits (fun _ _ => ruling_room) written bounded
      rw [each.length_eq] at few
      exact few
  | deleted each =>
      have few := count_fits (fun _ _ => filter_ruling_room) written bounded
      rw [each.length_eq] at few
      exact few

theorem Reply.Small.written {reply : Reply} (small : reply.Small) (correlation : Int) :
    ∃ results, reply.results.write = some results ∧ 2 * results.length < bytePower 4 ∧
      reply.message correlation =
        some (writeInteger 4 correlation ++ (writeInteger 4 reply.throttle ++ results)) ∧
      ((writeInteger 4 correlation ++ (writeInteger 4 reply.throttle ++ results)).length : Int) ≤
        responseLimit := by
  obtain ⟨message, told, short⟩ := small correlation
  obtain ⟨results, written, whole⟩ := Option.bind_eq_some_iff.mp told
  cases whole
  refine ⟨results, written, ?_, told, short⟩
  have limit : responseLimit = 67108864 := rfl
  have wide : bytePower 4 = 4294967296 := rfl
  rw [List.length_append, List.length_append] at short
  omega

theorem Reply.small_iff (reply : Reply) :
    reply.Small ↔ (reply.results.write.any fun results =>
      decide ((8 + results.length : Nat) ≤ responseLimit)) = true := by
  rw [Option.any_eq_true]
  constructor
  · intro small
    obtain ⟨results, written, -, -, short⟩ := small.written 0
    rw [List.length_append, List.length_append, write_integer_length, write_integer_length] at short
    exact ⟨results, written, decide_eq_true (by omega)⟩
  · rintro ⟨results, written, short⟩ correlation
    have short := of_decide_eq_true short
    refine ⟨writeInteger 4 correlation ++ (writeInteger 4 reply.throttle ++ results), ?_, ?_⟩
    · simp [Reply.message, written]
    · rw [List.length_append, List.length_append, write_integer_length, write_integer_length]
      omega

instance (reply : Reply) : Decidable reply.Small := decidable_of_iff _ reply.small_iff.symm

/-- A request is understood, and its response is. -/
theorem Service.round_trip {State : Type} {service : Service State} (serves : service.Serves)
    {broker : Broker} (available : broker.available = true) {state : State}
    (same : service.holds state = broker.bindings.members) {refused : List Binding}
    {call : AdminCall} (fits : ∀ text ∈ call.texts, FitsText text)
    (small : (service.perform refused state call).2.Small) (cluster : String)
    {correlation : Int} (above : -(bytePower 4 : Int) ≤ 2 * correlation)
    (below : 2 * correlation < bytePower 4) :
    let performed := (broker.refusing refused).perform call
    ∃ request body answer, writeRequest correlation call = some request ∧
      service.serve refused state request = ((service.perform refused state call).1,
        some (framed (writeInteger 4 correlation ++ body))) ∧
      ((writeInteger 4 correlation ++ body).length : Int) ≤ responseLimit ∧
      readAnswer cluster call body = some answer ∧ answer.Agrees performed.2 ∧
      service.holds (service.perform refused state call).1 = performed.1.bindings.members := by
  obtain ⟨request, requested⟩ := exists_write_request correlation fits
  obtain ⟨results, written, bounded, told, short⟩ := small.written correlation
  have performs : Performs (broker.refusing refused).rejects
      (broker.refusing refused).bindings.members call _ _ := same ▸ serves refused state call
  have reachable : (broker.refusing refused).available = true := available
  obtain ⟨held, answer, read, agrees⟩ := performs.agrees reachable written bounded cluster
    (service.perform refused state call).2.throttle
  have decoded : readRequest request = some (correlation, call) :=
    read_request_write above below (performs.size_fits written bounded) requested
  refine ⟨request, _, answer, requested, ?_, short, read, agrees, held⟩
  simp only [Service.serve, decoded, told, Option.map_some]

theorem connected_idle {client : Client} (peer : Peer) (reached : Reached peer.dial client.servers)
    (idle : ∀ link, client.link = some link → link.Idle) :
    ∃ link events, client.connected peer = .done (link, events) ∧ link.Idle ∧
      (events = [] ∨ events = [.connected client.connections]) := by
  unfold Client.connected
  split
  · next link held => exact ⟨link, [], rfl, idle link held, .inl rfl⟩
  · rw [dial_first_reached reached]
    exact ⟨_, _, rfl, ⟨rfl, rfl⟩, .inr rfl⟩

namespace Conversation

variable {State : Type} {service : Service State} {dial : String → Dial}

/-- The client can reach its broker, and the broker holds what the one in memory does. -/
structure Follows (service : Service State) (dial : String → Dial)
    (conversation : Conversation State) (broker : Broker) : Prop where
  reached : Reached dial conversation.client.servers
  idle : ∀ link, conversation.client.link = some link → link.Idle
  available : broker.available = true
  same : service.holds conversation.state = broker.bindings.members

section Steps

variable {conversation : Conversation State} {broker : Broker}
  (follows : conversation.Follows service dial broker)

include follows

theorem call_nothing {occasion : Occasion} {answer : AdminAnswer}
    (nothing : emptyAnswer occasion.call = some answer) :
    let performed := (broker.refusing occasion.refused).perform occasion.call
    conversation.call service dial occasion = (conversation, some answer) ∧
      answer.Agrees performed.2 ∧ performed.1.bindings = broker.bindings := by
  rcases occasion with ⟨refused, call⟩
  change emptyAnswer call = some answer at nothing
  have available : (broker.refusing refused).available = true := follows.available
  have answered : conversation.call service dial ⟨refused, call⟩ = (conversation, some answer) := by
    simp only [Conversation.call, Client.call, nothing, Service.after, List.foldl_nil]
  refine ⟨answered, ?_⟩
  unfold emptyAnswer at nothing
  simp only [Broker.perform, available, Bool.not_true, Bool.false_eq_true, if_false]
  split at nothing
  · cases nothing
    exact ⟨.created .nil, rfl⟩
  · cases nothing
    exact ⟨.deleted .nil, rfl⟩
  · cases nothing

theorem call_something (serves : service.Serves) {occasion : Occasion}
    (something : emptyAnswer occasion.call = none)
    (fits : ∀ text ∈ occasion.call.texts, FitsText text)
    (small : (service.perform occasion.refused conversation.state occasion.call).2.Small) :
    let performed := (broker.refusing occasion.refused).perform occasion.call
    ∃ answer next, conversation.call service dial occasion =
        (⟨next, (service.perform occasion.refused conversation.state occasion.call).1⟩,
          some answer) ∧
      answer.Agrees performed.2 ∧
      Follows service dial
        ⟨next, (service.perform occasion.refused conversation.state occasion.call).1⟩
        performed.1 := by
  rcases conversation with ⟨client, state⟩
  rcases occasion with ⟨refused, call⟩
  rcases follows with ⟨reached, idle, available, same⟩
  obtain ⟨above, below⟩ := correlation_in_range client.requests
  obtain ⟨link, events, connected, waiting, before⟩ :=
    connected_idle (service.peer dial refused state) reached idle
  obtain ⟨request, body, answer, requested, served, short, read, agrees, held⟩ :=
    service.round_trip serves available same fits small client.cluster above below
  have delivered : (service.peer dial refused state).deliver link.number request =
      ⟨framed (writeInteger 4 (correlationOf client.requests) ++ body), .flowing⟩ := by
    simp only [Service.peer, served]
  have taken : (service.peer dial refused state).takes link.number request = .whole := rfl
  have understood := Link.read_answer_framed waiting above below short read
  let next : Client := { client with
    link := some link
    connections := max client.connections (link.number + 1)
    requests := client.requests + 1 }
  have exchanged : client.call (service.peer dial refused state) call =
      ⟨next, events ++ [.sent link.number request], some answer⟩ := by
    simp only [Client.call, something, connected, Client.exchange, requested, taken, delivered,
      understood, Client.conclude, Link.receive_number, next]
  have moved : service.after refused state (events ++ [.sent link.number request]) =
      (service.perform refused state call).1 := by
    rcases before with rfl | rfl <;> simp [Service.after, served]
  have alike := Broker.perform_alike (broker.refusing refused) call
  refine ⟨answer, next, ?_, agrees, reached, ?_, alike.available.trans available, held⟩
  · simp only [Conversation.call, exchanged, moved]
  · intro kept same
    cases same
    exact waiting

theorem call_follows (serves : service.Serves) {occasion : Occasion}
    (fits : ∀ text ∈ occasion.call.texts, FitsText text)
    (small : ∀ reply ∈ (service.ask conversation.state occasion).2, reply.Small) :
    let performed := (broker.refusing occasion.refused).perform occasion.call
    ∃ answer next, conversation.call service dial occasion =
        (⟨next, (service.ask conversation.state occasion).1⟩, some answer) ∧
      answer.Agrees performed.2 ∧
      Follows service dial ⟨next, (service.ask conversation.state occasion).1⟩ performed.1 := by
  unfold Service.ask at small ⊢
  cases asked : emptyAnswer occasion.call with
  | some answer =>
      obtain ⟨called, agrees, unchanged⟩ := call_nothing follows asked
      have alike := Broker.perform_alike (broker.refusing occasion.refused) occasion.call
      refine ⟨answer, conversation.client, called, agrees, follows.reached, follows.idle, ?_, ?_⟩
      · exact alike.available.trans follows.available
      · rw [unchanged]
        exact follows.same
  | none =>
      rw [asked] at small
      exact call_something follows serves asked fits (small _ (List.mem_singleton.mpr rfl))

theorem calls_follow (serves : service.Serves) {occasions : List Occasion}
    (fits : ∀ occasion ∈ occasions, ∀ text ∈ occasion.call.texts, FitsText text)
    (small : ∀ reply ∈ service.replies conversation.state occasions, reply.Small) :
    List.Forall₂ service.Matches (conversation.calls service dial occasions)
      (broker.performEach occasions) := by
  induction occasions generalizing conversation broker with
  | nil => exact .nil
  | cons occasion rest induction =>
      have now : ∀ reply ∈ (service.ask conversation.state occasion).2, reply.Small :=
        fun reply member => small reply (List.mem_append_left _ member)
      obtain ⟨answer, next, called, agrees, onward⟩ :=
        call_follows follows serves (fits occasion List.mem_cons_self) now
      have later := induction onward
        (fun other member => fits other (List.mem_cons_of_mem _ member))
        (fun reply member => small reply (List.mem_append_right _ member))
      simp only [calls, called]
      exact .cons ⟨onward.same, answer, rfl, agrees⟩ later

end Steps

/-- After each call of a sequence the broker behind the wire holds what a broker in memory does
after that call, and its client has answered as that one has. -/
theorem refines_memory (service : Service State) (serves : service.Serves)
    (dial : String → Dial) (cluster servers : String) (client : Client)
    (made : Client.ofServers cluster servers = .ok client)
    (reached : Reached dial client.servers) (broker : Broker)
    (available : broker.available = true) (state : State)
    (same : service.holds state = broker.bindings.members) (occasions : List Occasion)
    (fits : ∀ occasion ∈ occasions, ∀ text ∈ occasion.call.texts, FitsText text)
    (small : ∀ reply ∈ service.replies state occasions, reply.Small) :
    List.Forall₂ service.Matches (Conversation.calls service dial ⟨client, state⟩ occasions)
      (broker.performEach occasions) := by
  have unconnected : client.link = none := by
    unfold Client.ofServers at made
    split at made
    · cases made
    · cases made
      rfl
  have follows : Follows service dial ⟨client, state⟩ broker := by
    refine ⟨reached, ?_, available, same⟩
    intro link held
    cases unconnected.symm.trans held
  exact calls_follow follows serves fits small

section Mixed

def tillReads : Binding := .allow .topic "orders" .prefixed "User:till" .read

def tillWrites : Binding := .allow .topic "orders" .prefixed "User:till" .write

def audits : Binding := .allow .topic "audit" .literal "User:audit" .read

/-- Creates with a refused one among them, a call that is not sent, a listing, and removals of
which the second meets a binding that is refused by now. -/
def mixed : List Occasion := [
  ⟨[audits], .create [tillWrites, audits]⟩,
  ⟨[], .delete []⟩,
  ⟨[], .describe { principal := some "User:till" }⟩,
  ⟨[tillWrites], .delete [.exactly tillReads, { resourceType := some .topic }]⟩]

def shop : Broker := { cluster := "east", bindings := .ofList [tillReads] }

def secondServer (server : String) : Dial :=
  if server = "two:9092" then .accepted else .refused .connectionRefused

theorem refines_memory_mixed :
    (shop.performEach mixed).map (·.1.bindings.toList) =
        [[tillReads, tillWrites], [tillReads, tillWrites], [tillReads, tillWrites],
          [tillWrites]] ∧
      List.Forall₂ Service.ofMemory.Matches
        (Conversation.calls Service.ofMemory secondServer
          ⟨{ cluster := "east", servers := ["one:9092", "two:9092"] }, ⟨shop, rfl⟩⟩ mixed)
        (shop.performEach mixed) := by
  constructor
  · decide +kernel
  · apply refines_memory Service.ofMemory Service.memory_serves secondServer "east"
      "one:9092, two:9092" _ rfl
    · refine ⟨["one:9092"], "two:9092", [], rfl, rfl, ?_⟩
      intro other member
      cases List.mem_singleton.mp member
      exact ⟨.connectionRefused, rfl⟩
    · rfl
    · rfl
    · decide +kernel
    · decide +kernel

end Mixed

end Conversation

end Wire

end BrokerTenancy
