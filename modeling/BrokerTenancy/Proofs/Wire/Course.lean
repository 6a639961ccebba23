import BrokerTenancy.Proofs.Wire.Refinement

/-!
How one call of a client can go, whatever the far side does. A response is taken exactly if the
bytes that have arrived begin with it as a whole; every other way to end closes the connection.
-/

namespace BrokerTenancy

/-- The broker was reached, and it has rejected the call as a whole. -/
def BrokerFault.IsRejection : BrokerFault → Prop
  | .describeRejected _ _ => True
  | _ => False

/-- An answer that only a response gives. -/
def AdminAnswer.OfResponse : AdminAnswer → Prop
  | .described (.error (.brokerUnavailable _ cause)) => cause.IsRejection
  | .described (.error _) | .created (.error _) | .deleted (.error _) => False
  | .described (.ok _) | .created (.ok _) | .deleted (.ok _) => True

theorem AdminCall.not_of_response {fault : BrokerFault} (plain : ¬fault.IsRejection)
    (call : AdminCall) (cluster : String) :
    ¬(call.failedWith (.brokerUnavailable cluster fault)).OfResponse := by
  cases call with
  | describe filter => exact plain
  | create bindings => exact not_false
  | delete filters => exact not_false

namespace Wire

theorem read_answer_of_response {cluster : String} {call : AdminCall} {body : List UInt8}
    {answer : AdminAnswer} (read : readAnswer cluster call body = some answer) :
    answer.OfResponse := by
  cases call with
  | describe filter =>
      rcases Option.map_eq_some_iff.mp read with ⟨description, -, rfl⟩
      unfold judgeDescription
      split
      · exact trivial
      · exact trivial
  | create bindings =>
      rcases Option.map_eq_some_iff.mp read with ⟨verdicts, -, rfl⟩
      exact trivial
  | delete filters =>
      rcases Option.map_eq_some_iff.mp read with ⟨removals, -, rfl⟩
      exact trivial

/-! ## Taking a response -/

namespace Progress

variable {First Second : Type}

theorem bind_eq_done {first : Progress First} {next : First → Progress Second} {value : Second} :
    (first >>= next) = .done value ↔
      ∃ middle, first = .done middle ∧ next middle = .done value := by
  constructor
  · intro whole
    cases first with
    | done middle => exact ⟨middle, rfl, whole⟩
    | failed fault => cases whole
    | waiting => cases whole
  · rintro ⟨middle, rfl, behind⟩
    exact behind

theorem require_eq_done {fault : BrokerFault} {found : Option First} {value : First} :
    require fault found = .done value ↔ found = some value := by
  cases found <;> simp [require]

/-- A step fails for other reasons than that the broker rejects the call. -/
def FailsPlainly (progress : Progress First) : Prop :=
  ∀ fault, progress = .failed fault → ¬fault.IsRejection

theorem FailsPlainly.bind {first : Progress First} {next : First → Progress Second}
    (before : first.FailsPlainly) (behind : ∀ middle, (next middle).FailsPlainly) :
    (first >>= next).FailsPlainly := by
  intro fault failed
  cases first with
  | done middle => exact behind middle fault failed
  | failed cause =>
      cases failed
      exact before fault rfl
  | waiting => cases failed

theorem done_plainly (value : First) : (done value).FailsPlainly := by
  intro fault failed
  cases failed

theorem failed_plainly {cause : BrokerFault} (plain : ¬cause.IsRejection) :
    (failed cause : Progress First).FailsPlainly := by
  intro fault failed
  cases failed
  exact plain

theorem require_plainly {cause : BrokerFault} (plain : ¬cause.IsRejection)
    (found : Option First) : (require cause found).FailsPlainly := by
  cases found with
  | none => exact failed_plainly plain
  | some value => exact done_plainly value

end Progress

/-- A message is a response to the request of a number: it carries that number, and what stands
behind it reads as an answer to the call. -/
structure Responds (cluster : String) (call : AdminCall) (correlation : Int)
    (message : List UInt8) (answer : AdminAnswer) : Prop where
  small : (message.length : Int) ≤ responseLimit
  told : ∃ body, message = writeInteger 4 correlation ++ body ∧
    readAnswer cluster call body = some answer

theorem body_of_eq_done {correlation : Int} {message body : List UInt8} :
    bodyOf correlation message = .done body ↔
      readInteger 4 message = some (correlation, body) := by
  unfold bodyOf
  rw [Progress.bind_eq_done]
  constructor
  · rintro ⟨⟨received, rest⟩, found, told⟩
    rw [Progress.require_eq_done.mp found]
    dsimp only at told
    by_cases same : received = correlation
    · rw [if_pos same] at told
      cases told
      rw [same]
    · rw [if_neg same] at told
      cases told
  · intro read
    exact ⟨(correlation, body), Progress.require_eq_done.mpr read, if_pos rfl⟩

namespace Link

theorem read_eq_done {link kept : Link} {count : Nat} {atEnd : SystemFault}
    {front : List UInt8} :
    link.read count atEnd = .done (front, kept) ↔
      ∃ rest, link.unread = front ++ rest ∧ front.length = count ∧
        kept = { link with unread := rest } := by
  unfold read
  constructor
  · intro taken
    split at taken
    · next within =>
        cases taken
        refine ⟨link.unread.drop count, ?_, List.length_take_of_le within, rfl⟩
        rw [List.take_append_drop]
    · split at taken <;> cases taken
  · rintro ⟨rest, arrived, rfl, rfl⟩
    rw [arrived, if_pos (by simp), List.take_left, List.drop_left]

theorem read_framed_eq_done {link kept : Link} {message : List UInt8} :
    link.readFramed = .done (message, kept) ↔
      ∃ rest, link.unread = framed message ++ rest ∧ (message.length : Int) ≤ responseLimit ∧
        kept = { link with unread := rest } := by
  have limit : responseLimit = 67108864 := rfl
  have wide : bytePower 4 = 4294967296 := rfl
  unfold readFramed
  rw [Progress.bind_eq_done]
  constructor
  · rintro ⟨⟨lengthBytes, link⟩, counted, taken⟩
    rcases read_eq_done.mp counted with ⟨behind, arrived, size, rfl⟩
    simp only at taken
    split at taken
    · cases taken
    · next passes =>
        rcases read_eq_done.mp taken with ⟨rest, following, length, rfl⟩
        change behind = message ++ rest at following
        have written := write_integer_decode lengthBytes
        rw [size] at written
        have counts : intOfWord 4 (decodeBig lengthBytes) = message.length := by omega
        rw [counts] at written
        refine ⟨rest, ?_, by omega, rfl⟩
        rw [arrived, following, framed, written, List.append_assoc]
  · rintro ⟨rest, arrived, small, rfl⟩
    refine ⟨(writeInteger 4 message.length, { link with unread := message ++ rest }), ?_, ?_⟩
    · apply read_eq_done.mpr
      refine ⟨message ++ rest, ?_, write_integer_length 4 _, rfl⟩
      rw [arrived, framed, List.append_assoc]
    · have length := length_of_written message.length (by omega)
      have passes : ¬((message.length : Int) < 0 ∨ responseLimit < message.length) := by omega
      simp only [length, if_neg passes, Int.toNat_natCast]
      exact read_eq_done.mpr ⟨rest, rfl, rfl, rfl⟩

/-- A response is taken exactly if what has arrived begins with all of it. -/
theorem read_answer_eq_done {link kept : Link} {cluster : String} {call : AdminCall}
    {correlation : Int} {answer : AdminAnswer} (above : -(bytePower 4 : Int) ≤ 2 * correlation)
    (below : 2 * correlation < bytePower 4) :
    link.readAnswer cluster correlation call = .done (answer, kept) ↔
      ∃ message rest, Responds cluster call correlation message answer ∧
        link.unread = framed message ++ rest ∧ kept = { link with unread := rest } := by
  unfold Link.readAnswer
  rw [Progress.bind_eq_done]
  constructor
  · rintro ⟨⟨message, behind⟩, whole, told⟩
    rcases read_framed_eq_done.mp whole with ⟨rest, arrived, small, rfl⟩
    rcases Progress.bind_eq_done.mp told with ⟨body, own, told⟩
    rcases Progress.bind_eq_done.mp told with ⟨found, read, told⟩
    cases told
    have carried := read_integer_ok (body_of_eq_done.mp own)
    exact ⟨message, rest, ⟨small, body, carried, Progress.require_eq_done.mp read⟩, arrived, rfl⟩
  · rintro ⟨message, rest, ⟨small, body, carried, read⟩, arrived, rfl⟩
    refine ⟨(message, { link with unread := rest }), ?_, ?_⟩
    · exact read_framed_eq_done.mpr ⟨rest, arrived, small, rfl⟩
    · apply Progress.bind_eq_done.mpr
      refine ⟨body, ?_, ?_⟩
      · apply body_of_eq_done.mpr
        rw [carried]
        exact read_integer_write body above below
      · exact Progress.bind_eq_done.mpr ⟨answer, Progress.require_eq_done.mpr read, rfl⟩

theorem read_plainly (link : Link) (count : Nat) (atEnd : SystemFault) :
    (link.read count atEnd).FailsPlainly := by
  unfold read
  split
  · exact Progress.done_plainly _
  · split
    · intro fault failed
      cases failed
    · exact Progress.failed_plainly not_false
    · exact Progress.failed_plainly not_false

theorem read_answer_plainly (link : Link) (cluster : String) (correlation : Int)
    (call : AdminCall) : (link.readAnswer cluster correlation call).FailsPlainly := by
  have framing : link.readFramed.FailsPlainly := by
    apply (link.read_plainly 4 _).bind
    intro counted
    dsimp only
    split
    · exact Progress.failed_plainly not_false
    · exact read_plainly _ _ _
  have carrying (message : List UInt8) : (bodyOf correlation message).FailsPlainly := by
    apply Progress.FailsPlainly.bind
    · apply Progress.require_plainly
      exact not_false
    · intro received
      dsimp only
      split
      · exact Progress.done_plainly _
      · exact Progress.failed_plainly not_false
  apply framing.bind
  intro taken
  apply (carrying taken.1).bind
  intro body
  apply Progress.FailsPlainly.bind
  · apply Progress.require_plainly
    exact not_false
  · intro answer
    exact Progress.done_plainly _

end Link

theorem dial_first_plainly (dial : String → Dial) (servers : List String) (last : BrokerFault)
    (plain : ¬last.IsRejection) : (dialFirst dial last servers).FailsPlainly := by
  induction servers generalizing last with
  | nil => exact Progress.failed_plainly plain
  | cons server rest induction =>
      rw [dialFirst]
      cases dial server with
      | accepted => exact Progress.done_plainly ()
      | refused cause => exact induction _ not_false
      | silent =>
          intro fault failed
          cases failed

/-! ## The courses of a call -/

/-- The connection that an event happens on. -/
def LinkEvent.link : LinkEvent → Nat
  | .connected link | .sent link _ | .closed link => link

namespace Client

/-- The connection that a call goes over: the kept one, or else a new one. -/
def Goes (client : Client) (link : Link) (events : List LinkEvent) : Prop :=
  client.link = some link ∧ events = [] ∨
    client.link = none ∧ link = { number := client.connections } ∧
      events = [.connected client.connections]

/-- The client after a request of it was numbered, with its connection in use. -/
def spend (client : Client) (link : Nat) : Client :=
  { client with
    link := none
    connections := max client.connections (link + 1)
    requests := client.requests + 1 }

/-- No answer, or one that no response gives. -/
def Unanswered (answer : Option AdminAnswer) : Prop :=
  ∀ told, answer = some told → ¬told.OfResponse

inductive Course (client : Client) (peer : Peer) (call : AdminCall) : Exchange → Prop where
  | nothing (answer : AdminAnswer) (asks : emptyAnswer call = some answer) :
      Course client peer call ⟨client, [], some answer⟩
  | unreached (answer : Option AdminAnswer) (asks : emptyAnswer call = none)
      (unlinked : client.link = none) (unanswered : Unanswered answer) :
      Course client peer call ⟨client, [], answer⟩
  | unsent (link : Link) (events : List LinkEvent) (answer : Option AdminAnswer)
      (asks : emptyAnswer call = none) (goes : client.Goes link events)
      (unanswered : Unanswered answer) :
      Course client peer call
        ⟨client.spend link.number, events ++ [.closed link.number], answer⟩
  | missed (link : Link) (events : List LinkEvent) (request : List UInt8)
      (answer : Option AdminAnswer) (asks : emptyAnswer call = none)
      (goes : client.Goes link events)
      (requested : writeRequest (correlationOf client.requests) call = some request)
      (nothing : ∀ told kept, (link.receive (peer.deliver link.number request)).readAnswer
        client.cluster (correlationOf client.requests) call ≠ .done (told, kept))
      (unanswered : Unanswered answer) :
      Course client peer call ⟨client.spend link.number,
        events ++ [.sent link.number request] ++ [.closed link.number], answer⟩
  | answered (link kept : Link) (events : List LinkEvent) (request : List UInt8)
      (answer : AdminAnswer) (asks : emptyAnswer call = none) (goes : client.Goes link events)
      (requested : writeRequest (correlationOf client.requests) call = some request)
      (read : (link.receive (peer.deliver link.number request)).readAnswer
        client.cluster (correlationOf client.requests) call = .done (answer, kept)) :
      Course client peer call ⟨{ client.spend link.number with link := some kept },
        events ++ [.sent link.number request], some answer⟩

theorem unanswered_none : Unanswered none := by
  intro told same
  cases same

theorem unanswered_failed {fault : BrokerFault} (plain : ¬fault.IsRejection) (call : AdminCall)
    (cluster : String) :
    Unanswered (some (call.failedWith (.brokerUnavailable cluster fault))) := by
  intro told same
  cases same
  exact call.not_of_response plain cluster

theorem exchange_course (client : Client) (peer : Peer) (call : AdminCall)
    (asks : emptyAnswer call = none) {link : Link} {events : List LinkEvent}
    (goes : client.Goes link events) :
    Course client peer call (client.exchange peer call link events) := by
  unfold exchange
  dsimp only
  cases requested : writeRequest (correlationOf client.requests) call with
  | none =>
      apply Course.unsent link events _ asks goes
      apply unanswered_failed
      exact not_false
  | some request =>
      dsimp only
      cases peer.takes link.number request with
      | broken cause =>
          apply Course.unsent link events _ asks goes
          apply unanswered_failed
          exact not_false
      | stalled => exact .unsent link events _ asks goes unanswered_none
      | whole =>
          simp only [Link.receive_number]
          cases read : (link.receive (peer.deliver link.number request)).readAnswer
              client.cluster (correlationOf client.requests) call with
          | done taken =>
              rcases taken with ⟨answer, kept⟩
              exact .answered link kept events request answer asks goes requested read
          | failed fault =>
              have plain := Link.read_answer_plainly _ _ _ _ fault read
              apply Course.missed link events request _ asks goes requested
              · rw [read]
                intro told kept same
                cases same
              · exact unanswered_failed plain call _
          | waiting =>
              apply Course.missed link events request _ asks goes requested
              · rw [read]
                intro told kept same
                cases same
              · exact unanswered_none

theorem call_course (client : Client) (peer : Peer) (call : AdminCall) :
    Course client peer call (client.call peer call) := by
  unfold Client.call
  cases asks : emptyAnswer call with
  | some answer => exact .nothing answer asks
  | none =>
      dsimp only
      cases held : client.link with
      | some link =>
          have goes : client.Goes link [] := .inl ⟨held, rfl⟩
          simp only [connected, held]
          exact exchange_course client peer call asks goes
      | none =>
          simp only [connected, held]
          have plainly := dial_first_plainly peer.dial client.servers
            (.other "no bootstrap server") not_false
          cases reached : dialFirst peer.dial (.other "no bootstrap server") client.servers with
          | done =>
              have goes : client.Goes { number := client.connections }
                  [.connected client.connections] := .inr ⟨held, rfl, rfl⟩
              exact exchange_course client peer call asks goes
          | failed fault =>
              exact .unreached _ asks held (unanswered_failed (plainly fault reached) call _)
          | waiting => exact .unreached _ asks held unanswered_none

theorem Goes.link_of_event {client : Client} {link : Link} {events : List LinkEvent}
    (goes : client.Goes link events) : ∀ event ∈ events, event = .connected link.number := by
  rcases goes with ⟨-, rfl⟩ | ⟨-, rfl, rfl⟩
  · intro event member
    cases member
  · intro event member
    exact List.mem_singleton.mp member

/-! ## Which connection a call touches -/

/-- The call does nothing on any connection. -/
structure Rests (client : Client) (call : AdminCall) (exchange : Exchange) : Prop where
  client_same : exchange.client = client
  silent : exchange.events = []
  unlinked : emptyAnswer call = none → client.link = none ∧ Unanswered exchange.answer

/-- The call goes over a connection, and what it does happens on this one. -/
structure Uses (client : Client) (link : Link) (exchange : Exchange) : Prop where
  connections : exchange.client.connections = max client.connections (link.number + 1)
  requests : exchange.client.requests = client.requests + 1
  kept : ∀ held, exchange.client.link = some held → held.number = link.number
  course : ∃ opening rest, client.Goes link opening ∧ rest ≠ [] ∧
    exchange.events = opening ++ rest ∧
    ∀ event ∈ rest, event.link = link.number ∧ event ≠ .connected link.number

section Touched

variable {client : Client} {peer : Peer} {call : AdminCall} {exchange : Exchange}

theorem Course.rests_or_uses (course : Course client peer call exchange) :
    client.Rests call exchange ∨ ∃ link, client.Uses link exchange := by
  cases course with
  | nothing answer asks =>
      left
      refine ⟨rfl, rfl, ?_⟩
      intro other
      rw [asks] at other
      cases other
  | unreached answer asks unlinked unanswered =>
      left
      exact ⟨rfl, rfl, fun _ => ⟨unlinked, unanswered⟩⟩
  | unsent link events answer asks goes unanswered =>
      right
      refine ⟨link, rfl, rfl, ?_, events, _, goes, List.cons_ne_nil _ _, rfl, ?_⟩
      · intro held same
        cases same
      · simp [LinkEvent.link]
  | missed link events request answer asks goes requested nothing unanswered =>
      right
      refine ⟨link, rfl, rfl, ?_, events, _, goes, List.cons_ne_nil _ _,
        List.append_assoc _ _ _, ?_⟩
      · intro held same
        cases same
      · simp [LinkEvent.link]
  | answered link kept events request answer asks goes requested read =>
      right
      refine ⟨link, rfl, rfl, ?_, events, _, goes, List.cons_ne_nil _ _, rfl, ?_⟩
      · intro held same
        cases same
        rcases correlation_in_range client.requests with ⟨above, below⟩
        rcases (Link.read_answer_eq_done above below).mp read with ⟨message, rest, -, -, rfl⟩
        exact Link.receive_number _ _
      · simp [LinkEvent.link]

namespace Uses

variable {link : Link}

theorem exists_event (uses : client.Uses link exchange) :
    ∃ event ∈ exchange.events, event.link = link.number := by
  rcases uses.course with ⟨opening, rest, -, some, whole, own⟩
  rcases List.exists_mem_of_ne_nil rest some with ⟨event, member⟩
  refine ⟨event, ?_, (own event member).1⟩
  rw [whole]
  exact List.mem_append_right _ member

theorem event_link (uses : client.Uses link exchange) :
    ∀ event ∈ exchange.events, event.link = link.number := by
  rcases uses.course with ⟨opening, rest, goes, -, whole, own⟩
  intro event happened
  rw [whole] at happened
  rcases List.mem_append.mp happened with early | late
  · rw [goes.link_of_event event early]
    rfl
  · exact (own event late).1

theorem within (uses : client.Uses link exchange) : link.number < exchange.client.connections := by
  rw [uses.connections]
  exact Nat.lt_of_lt_of_le (Nat.lt_succ_self _) (Nat.le_max_right _ _)

end Uses

theorem Course.connections_le (course : Course client peer call exchange) :
    client.connections ≤ exchange.client.connections := by
  rcases course.rests_or_uses with rests | ⟨link, uses⟩
  · rw [rests.client_same]
  · rw [uses.connections]
    exact Nat.le_max_left _ _

theorem Course.requests_le (course : Course client peer call exchange) :
    client.requests ≤ exchange.client.requests := by
  rcases course.rests_or_uses with rests | ⟨link, uses⟩
  · rw [rests.client_same]
  · rw [uses.requests]
    exact Nat.le_succ _

end Touched

end Client

end Wire

end BrokerTenancy
