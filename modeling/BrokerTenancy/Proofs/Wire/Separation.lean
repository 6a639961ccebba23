import BrokerTenancy.Proofs.Wire.Course

/-!
Many calls of one client, whatever the far side does at each of them. A connection outlives a call
only if the call has taken a whole response to its own request from it. So the messages on a
connection belong to the calls that sent on it, one each and in order, and what is left of a call
that ended in any other way is read by nobody.
-/

namespace BrokerTenancy.Wire

/-- A call, with the client that makes it and the far side that it meets. -/
structure Round where
  client : Client
  peer : Peer
  call : AdminCall

/-- The request that an event sends on the connection of a number. -/
def LinkEvent.requestOn (number : Nat) : LinkEvent → Option (List UInt8)
  | .sent link request => if link = number then some request else none
  | _ => none

namespace Round

variable (round : Round)

def exchange : Exchange := round.client.call round.peer round.call

/-- The number that the request of the round carries. -/
def correlation : Int := correlationOf round.client.requests

def Asks : Prop := emptyAnswer round.call = none

def Touches (number : Nat) : Prop := ∃ event ∈ round.exchange.events, event.link = number

def requests (number : Nat) : List (List UInt8) :=
  round.exchange.events.filterMap (LinkEvent.requestOn number)

def sends (number : Nat) : Bool := !(round.requests number).isEmpty

/-- A message is a response to the request of the round. -/
def Gets (message : List UInt8) (answer : AdminAnswer) : Prop :=
  Responds round.client.cluster round.call round.correlation message answer

/-- The round is answered with something that only a response can tell. -/
def Told (answer : AdminAnswer) : Prop :=
  round.exchange.answer = some answer ∧ answer.OfResponse

end Round

/-- A round has sent its request on a connection, and its answer is what a message says that is a
response to this request. -/
structure Takes (number : Nat) (round : Round) (message : List UInt8) : Prop where
  request : ∃ request, writeRequest round.correlation round.call = some request ∧
    .sent number request ∈ round.exchange.events
  response : ∃ answer, round.exchange.answer = some answer ∧ round.Gets message answer

/-- All that has arrived on a connection, as it would stand if nothing had been read. -/
def arrived (number : Nat) (rounds : List Round) : Link :=
  (rounds.flatMap fun round => (round.requests number).map (round.peer.deliver number)).foldl
    Link.receive { number }

/-- The calls of a client one after the other, each with the far side that it meets. -/
def Client.rounds (client : Client) : List (Peer × AdminCall) → List Round
  | [] => []
  | (peer, call) :: rest =>
      let round : Round := ⟨client, peer, call⟩
      round :: rounds round.exchange.client rest

/-- The rounds before have taken a message each from the connection, and it is answered from what
is left exactly if that begins with a response to this round. -/
def Round.TakesNext (round : Round) (before : List Round) (number : Nat) : Prop :=
  ∃ taken left,
    List.Forall₂ (Takes number) (before.filter (·.sends number)) taken ∧
      (arrived number (before ++ [round])).unread = (taken.map framed).flatten ++ left ∧
      ∀ answer, round.Told answer ↔
        ∃ message rest, left = framed message ++ rest ∧ round.Gets message answer

/-- The next round that asks for something goes on with the connection. -/
def GoesOn (number : Nat) (after : List Round) : Prop :=
  ∀ idle next rest, after = idle ++ next :: rest → (∀ other ∈ idle, ¬other.Asks) → next.Asks →
    next.Touches number ∧
      ∀ event ∈ next.exchange.events, event.link = number ∧ event ≠ .connected number

namespace Link

theorem receive_behind (link : Link) (front : List UInt8) (delivery : Delivery) :
    receive { link with unread := front ++ link.unread } delivery =
      { link.receive delivery with unread := front ++ (link.receive delivery).unread } := by
  rcases link with ⟨number, unread, outlook⟩
  cases outlook with
  | flowing => simp only [receive, List.append_assoc]
  | ended => rfl
  | broken cause => rfl

end Link

theorem arrived_append (number : Nat) (before : List Round) (round : Round) :
    arrived number (before ++ [round]) =
      ((round.requests number).map (round.peer.deliver number)).foldl Link.receive
        (arrived number before) := by
  simp only [arrived, List.flatMap_append, List.flatMap_singleton, List.foldl_append]

namespace Round

variable {round : Round}

theorem course (round : Round) :
    Client.Course round.client round.peer round.call round.exchange :=
  Client.call_course _ _ _

theorem requests_eq {events : List LinkEvent} {answer : Option AdminAnswer} {client : Client}
    (done : round.exchange = ⟨client, events, answer⟩) (number : Nat) :
    round.requests number = events.filterMap (LinkEvent.requestOn number) := by
  rw [requests, done]

theorem touches_of_sends {number : Nat} (sends : round.sends number = true) :
    round.Touches number := by
  unfold Round.sends at sends
  cases sent : round.requests number with
  | nil =>
      rw [sent] at sends
      cases sends
  | cons request rest =>
      have member : request ∈ round.requests number := sent ▸ List.mem_cons_self
      rcases List.mem_filterMap.mp member with ⟨event, happened, told⟩
      refine ⟨event, happened, ?_⟩
      cases event with
      | sent link other =>
          simp only [LinkEvent.requestOn, Option.ite_none_right_eq_some] at told
          exact told.1
      | connected link => cases told
      | closed link => cases told

end Round

namespace Client

theorem Goes.no_request {client : Client} {link : Link} {events : List LinkEvent}
    (goes : client.Goes link events) (number : Nat) :
    events.filterMap (LinkEvent.requestOn number) = [] := by
  rw [List.filterMap_eq_nil_iff]
  intro event member
  rw [goes.link_of_event event member]
  rfl

end Client

theorem filter_map_sent (link number : Nat) (request : List UInt8) :
    [LinkEvent.sent link request].filterMap (LinkEvent.requestOn number) =
      if link = number then [request] else [] := by
  by_cases own : link = number <;> simp [LinkEvent.requestOn, own]

theorem filter_map_closed (link number : Nat) :
    [LinkEvent.closed link].filterMap (LinkEvent.requestOn number) = [] :=
  rfl

/-! ## What holds between the calls -/

/-- The connection holds what is left of all that has arrived, once every round that sent on it has
taken its message. -/
def InStep (before : List Round) (link : Link) : Prop :=
  ∃ taken, List.Forall₂ (Takes link.number) (before.filter (·.sends link.number)) taken ∧
    arrived link.number before =
      { link with unread := (taken.map framed).flatten ++ link.unread }

structure Standing (before : List Round) (client : Client) : Prop where
  below : ∀ round ∈ before, ∀ number, round.Touches number → number < client.connections
  counted : ∀ round ∈ before, ∀ number, round.sends number = true →
    round.client.requests < client.requests
  kept : ∀ link, client.link = some link →
    link.number < client.connections ∧ InStep before link

theorem standing_fresh {cluster servers : String} {client : Client}
    (made : Client.ofServers cluster servers = .ok client) : Standing [] client := by
  have unlinked : client.link = none := by
    unfold Client.ofServers at made
    split at made
    · cases made
    · cases made
      rfl
  refine ⟨?_, ?_, ?_⟩
  · intro round member
    cases member
  · intro round member
    cases member
  · intro link held
    rw [unlinked] at held
    cases held

namespace Standing

variable {before : List Round} {client : Client}

theorem in_step_new (standing : Standing before client) :
    InStep before { number := client.connections } := by
  have untouched : ∀ round ∈ before, round.requests client.connections = [] := by
    intro round member
    by_contra some
    have sends : round.sends client.connections = true := by simpa [Round.sends] using some
    exact Nat.lt_irrefl _ (standing.below round member _ (Round.touches_of_sends sends))
  refine ⟨[], ?_, ?_⟩
  · have nobody : before.filter (·.sends client.connections) = [] := by
      rw [List.filter_eq_nil_iff]
      intro round member
      simp [Round.sends, untouched round member]
    rw [nobody]
    exact .nil
  · have nothing : (before.flatMap fun round =>
        (round.requests client.connections).map (round.peer.deliver client.connections)) = [] := by
      rw [List.flatMap_eq_nil_iff]
      intro round member
      rw [untouched round member, List.map_nil]
    rw [arrived, nothing]
    rfl

theorem in_step_goes (standing : Standing before client) {link : Link}
    {events : List LinkEvent} (goes : client.Goes link events) : InStep before link := by
  rcases goes with ⟨held, -⟩ | ⟨-, rfl, -⟩
  · exact (standing.kept link held).2
  · exact standing.in_step_new

end Standing

theorem InStep.quiet {before : List Round} {link : Link} (inStep : InStep before link)
    {round : Round} (quiet : round.requests link.number = []) :
    InStep (before ++ [round]) link := by
  rcases inStep with ⟨taken, each, whole⟩
  have silent : round.sends link.number = false := by rw [Round.sends, quiet]; rfl
  refine ⟨taken, ?_, ?_⟩
  · rw [List.filter_append, List.filter_cons_of_neg (by simp [silent]), List.filter_nil,
      List.append_nil]
    exact each
  · rw [arrived_append, quiet]
    exact whole

section Sent

variable {before : List Round} {round : Round} {link : Link} {request : List UInt8}

/-- What has arrived by the time that the round reads. -/
theorem arrived_sent {taken : List (List UInt8)} (sent : round.requests link.number = [request])
    (whole : arrived link.number before =
      { link with unread := (taken.map framed).flatten ++ link.unread }) :
    arrived link.number (before ++ [round]) =
      { link.receive (round.peer.deliver link.number request) with
        unread := (taken.map framed).flatten ++
          (link.receive (round.peer.deliver link.number request)).unread } := by
  rw [arrived_append, sent, whole]
  exact link.receive_behind _ _

theorem InStep.answered (inStep : InStep before link)
    (sent : round.requests link.number = [request]) {message rest : List UInt8}
    (takes : Takes link.number round message)
    (left : (link.receive (round.peer.deliver link.number request)).unread =
      framed message ++ rest) :
    InStep (before ++ [round])
      { link.receive (round.peer.deliver link.number request) with unread := rest } := by
  rcases inStep with ⟨taken, each, whole⟩
  have sends : round.sends link.number = true := by rw [Round.sends, sent]; rfl
  refine ⟨taken ++ [message], ?_, ?_⟩
  · simp only [Link.receive_number, List.filter_append, List.filter_cons, sends, if_true,
      List.filter_nil]
    exact List.rel_append each (.cons takes .nil)
  · have standing := arrived_sent sent whole
    rw [Link.receive_number, standing, left, List.map_append, List.flatten_append]
    simp only [List.map_cons, List.map_nil, List.flatten_cons, List.flatten_nil, List.append_nil,
      List.append_assoc, Link.receive_number]

end Sent

/-! ## One round -/

section Round

variable {before : List Round} {round : Round}

theorem read_response {link kept : Link} {answer : AdminAnswer} :
    link.readAnswer round.client.cluster round.correlation round.call = .done (answer, kept) ↔
      ∃ message rest, round.Gets message answer ∧ link.unread = framed message ++ rest ∧
        kept = { link with unread := rest } := by
  rcases correlation_in_range round.client.requests with ⟨above, below⟩
  exact Link.read_answer_eq_done above below

theorem untouched_of_rests (rests : round.client.Rests round.call round.exchange) (number : Nat) :
    ¬round.Touches number := by
  rintro ⟨event, happened, -⟩
  rw [rests.silent] at happened
  cases happened

theorem link_of_touches {link : Link} (uses : round.client.Uses link round.exchange) {number : Nat}
    (touches : round.Touches number) : number = link.number := by
  rcases touches with ⟨event, happened, rfl⟩
  exact uses.event_link event happened

theorem takes_of_read {link kept : Link} {events : List LinkEvent} {request : List UInt8}
    {answer : AdminAnswer}
    (done : round.exchange =
      ⟨{ round.client.spend link.number with link := some kept },
        events ++ [.sent link.number request], some answer⟩)
    (requested : writeRequest round.correlation round.call = some request)
    {message : List UInt8} (gets : round.Gets message answer) :
    Takes link.number round message := by
  refine ⟨⟨request, requested, ?_⟩, answer, ?_, gets⟩
  · rw [done]
    exact List.mem_append_right _ List.mem_cons_self
  · rw [done]

/-- A connection that the client keeps holds what is left behind the messages that were taken. -/
theorem Standing.in_step_kept (standing : Standing before round.client) {link : Link}
    (held : round.exchange.client.link = some link) : InStep (before ++ [round]) link := by
  have course := round.course
  generalize done : round.exchange = exchange at course held
  cases course with
  | nothing answer asks => exact (standing.kept link held).2.quiet (Round.requests_eq done _)
  | unreached answer asks unlinked unanswered =>
      rw [unlinked] at held
      cases held
  | unsent old events answer asks goes unanswered => cases held
  | missed old events request answer asks goes requested nothing unanswered => cases held
  | answered old kept events request answer asks goes requested read =>
      cases held
      have sent : round.requests old.number = [request] := by
        rw [Round.requests_eq done, List.filterMap_append, goes.no_request]
        simp [LinkEvent.requestOn]
      rcases read_response.mp read with ⟨message, rest, gets, left, rfl⟩
      have takes := takes_of_read done requested gets
      exact (standing.in_step_goes goes).answered sent takes left

theorem Standing.step (standing : Standing before round.client) :
    Standing (before ++ [round]) round.exchange.client := by
  refine ⟨?_, ?_, ?_⟩
  · intro other member number touches
    rcases List.mem_append.mp member with earlier | last
    · exact Nat.lt_of_lt_of_le (standing.below other earlier number touches)
        round.course.connections_le
    · cases List.mem_singleton.mp last
      rcases round.course.rests_or_uses with rests | ⟨link, uses⟩
      · cases untouched_of_rests rests number touches
      · rw [link_of_touches uses touches]
        exact uses.within
  · intro other member number sends
    rcases List.mem_append.mp member with earlier | last
    · exact Nat.lt_of_lt_of_le (standing.counted other earlier number sends)
        round.course.requests_le
    · cases List.mem_singleton.mp last
      rcases round.course.rests_or_uses with rests | ⟨link, uses⟩
      · cases untouched_of_rests rests number (Round.touches_of_sends sends)
      · rw [uses.requests]
        exact Nat.lt_succ_self _
  · intro link held
    refine ⟨?_, standing.in_step_kept held⟩
    rcases round.course.rests_or_uses with rests | ⟨old, uses⟩
    · rw [rests.client_same] at held ⊢
      exact (standing.kept link held).1
    · rw [uses.kept link held]
      exact uses.within

theorem of_response_of_gets {message : List UInt8} {answer : AdminAnswer}
    (gets : round.Gets message answer) : answer.OfResponse := by
  rcases gets.told with ⟨body, -, read⟩
  exact read_answer_of_response read

theorem Standing.takes_next_of (standing : Standing before round.client) {link : Link}
    {events : List LinkEvent} (goes : round.client.Goes link events) {request : List UInt8}
    (sent : round.requests link.number = [request])
    (told : ∀ answer, round.Told answer ↔
      ∃ kept, (link.receive (round.peer.deliver link.number request)).readAnswer
        round.client.cluster round.correlation round.call = .done (answer, kept)) :
    round.TakesNext before link.number := by
  rcases standing.in_step_goes goes with ⟨taken, each, whole⟩
  refine ⟨taken, (link.receive (round.peer.deliver link.number request)).unread, each, ?_, ?_⟩
  · rw [arrived_sent sent whole]
  · intro answer
    rw [told answer]
    constructor
    · rintro ⟨kept, read⟩
      rcases read_response.mp read with ⟨message, rest, gets, left, -⟩
      exact ⟨message, rest, left, gets⟩
    · rintro ⟨message, rest, left, gets⟩
      exact ⟨_, read_response.mpr ⟨message, rest, gets, left, rfl⟩⟩

/-- A round that sends is answered by the next message of the connection or by none. -/
theorem Standing.takes_next (standing : Standing before round.client) {number : Nat}
    (sends : round.sends number = true) : round.TakesNext before number := by
  have touches := Round.touches_of_sends sends
  have course := round.course
  generalize done : round.exchange = exchange at course
  have requests := Round.requests_eq done number
  cases course with
  | nothing answer asks => simp [Round.sends, requests] at sends
  | unreached answer asks unlinked unanswered => simp [Round.sends, requests] at sends
  | unsent link events answer asks goes unanswered =>
      simp [Round.sends, requests, goes.no_request, LinkEvent.requestOn] at sends
  | missed link events request answer asks goes requested nothing unanswered =>
      simp only [List.filterMap_append, goes.no_request, filter_map_sent, filter_map_closed,
        List.nil_append, List.append_nil] at requests
      split at requests
      · next own =>
          subst own
          apply standing.takes_next_of goes requests
          intro told
          constructor
          · rintro ⟨same, ofResponse⟩
            rw [done] at same
            cases unanswered told same ofResponse
          · rintro ⟨kept, read⟩
            cases nothing told kept read
      · simp [Round.sends, requests] at sends
  | answered link kept events request answer asks goes requested read =>
      simp only [List.filterMap_append, goes.no_request, filter_map_sent,
        List.nil_append] at requests
      split at requests
      · next own =>
          subst own
          apply standing.takes_next_of goes requests
          intro told
          constructor
          · rintro ⟨same, -⟩
            rw [done] at same
            cases same
            exact ⟨kept, read⟩
          · rintro ⟨other, again⟩
            rcases read_response.mp again with ⟨message, rest, gets, -, -⟩
            have same := read.symm.trans again
            cases same
            refine ⟨?_, of_response_of_gets gets⟩
            rw [done]
      · simp [Round.sends, requests] at sends

/-- Only a round that sends its request is told what a response says. -/
theorem exists_takes_of_told (asks : round.Asks) {answer : AdminAnswer}
    (told : round.Told answer) :
    ∃ number message, round.sends number = true ∧ Takes number round message := by
  rcases told with ⟨answered, ofResponse⟩
  have course := round.course
  generalize done : round.exchange = exchange at course answered
  cases course with
  | nothing other none => cases asks.symm.trans none
  | unreached other none unlinked unanswered => cases unanswered answer answered ofResponse
  | unsent link events other none goes unanswered => cases unanswered answer answered ofResponse
  | missed link events request other none goes requested nothing unanswered =>
      cases unanswered answer answered ofResponse
  | answered link kept events request other none goes requested read =>
      rcases read_response.mp read with ⟨message, rest, gets, -, -⟩
      refine ⟨link.number, message, ?_, takes_of_read done requested gets⟩
      rw [Round.sends, Round.requests_eq done]
      simp [goes.no_request, filter_map_sent]

/-- A connection that a round has touched is kept after an answer that a response tells, and closed
after any other end. -/
theorem told_or_closed {number : Nat} (touches : round.Touches number) :
    (∃ answer link, round.Told answer ∧ round.exchange.client.link = some link ∧
        link.number = number) ∨
      Client.Unanswered round.exchange.answer ∧ .closed number ∈ round.exchange.events ∧
        round.exchange.client.link = none := by
  rcases round.course.rests_or_uses with rests | ⟨used, uses⟩
  · cases untouched_of_rests rests number touches
  rcases touches with ⟨event, happened, rfl⟩
  have course := round.course
  generalize done : round.exchange = exchange at course uses happened ⊢
  have own := uses.event_link event happened
  cases course with
  | nothing answer asks => cases happened
  | unreached answer asks unlinked unanswered => cases happened
  | unsent link events answer asks goes unanswered =>
      right
      have last := uses.event_link (.closed link.number) (by simp)
      rw [own, ← last]
      exact ⟨unanswered, by simp [LinkEvent.link], rfl⟩
  | missed link events request answer asks goes requested nothing unanswered =>
      right
      have last := uses.event_link (.closed link.number) (by simp)
      rw [own, ← last]
      exact ⟨unanswered, by simp [LinkEvent.link], rfl⟩
  | answered link kept events request answer asks goes requested read =>
      left
      rcases read_response.mp read with ⟨message, rest, gets, -, -⟩
      refine ⟨answer, kept, ⟨?_, of_response_of_gets gets⟩, rfl, ?_⟩
      · rw [done]
      · rw [own]
        exact uses.kept kept rfl

end Round

/-! ## The rounds of a client -/

section Rounds

variable {client : Client} {before after : List Round} {round : Round}

theorem Standing.run {past : List Round} (standing : Standing past client)
    {calls : List (Peer × AdminCall)} (split : client.rounds calls = before ++ round :: after) :
    Standing (past ++ before) round.client ∧
      ∃ later, after = round.exchange.client.rounds later := by
  induction calls generalizing client past before with
  | nil => cases before <;> cases split
  | cons occasion calls induction =>
      rcases occasion with ⟨peer, call⟩
      cases before with
      | nil =>
          cases split
          rw [List.append_nil]
          exact ⟨standing, calls, rfl⟩
      | cons first before =>
          rcases List.cons.inj split with ⟨rfl, rest⟩
          have stepped : Standing (past ++ [⟨client, peer, call⟩]) _ := standing.step
          have carried := induction stepped rest
          rw [List.append_assoc] at carried
          exact carried

/-- A connection that is neither kept nor still to be made. -/
def Gone (number : Nat) (client : Client) : Prop :=
  number < client.connections ∧ ∀ link, client.link = some link → link.number ≠ number

theorem Gone.step {number : Nat} (gone : Gone number round.client) :
    ¬round.Touches number ∧ Gone number round.exchange.client := by
  rcases gone with ⟨made, lost⟩
  rcases round.course.rests_or_uses with rests | ⟨link, uses⟩
  · refine ⟨untouched_of_rests rests number, ?_⟩
    rw [rests.client_same]
    exact ⟨made, lost⟩
  · have other : link.number ≠ number := by
      rcases uses.course with ⟨opening, rest, goes, -⟩
      rcases goes with ⟨held, -⟩ | ⟨-, rfl, -⟩
      · exact lost link held
      · exact Nat.ne_of_gt made
    refine ⟨?_, Nat.lt_of_lt_of_le made round.course.connections_le, ?_⟩
    · intro touches
      exact other (link_of_touches uses touches).symm
    · intro kept held
      rw [uses.kept kept held]
      exact other

theorem Gone.run {number : Nat} (gone : Gone number client) (calls : List (Peer × AdminCall)) :
    ∀ later ∈ client.rounds calls, ¬later.Touches number := by
  induction calls generalizing client with
  | nil =>
      intro later member
      cases member
  | cons occasion calls induction =>
      rcases occasion with ⟨peer, call⟩
      have step : ¬(Round.mk client peer call).Touches number ∧ _ := Gone.step gone
      intro later member
      rcases List.mem_cons.mp member with rfl | behind
      · exact step.1
      · exact induction step.2 later behind

theorem client_of_idle (idle : ¬round.Asks) : round.exchange.client = round.client := by
  have course := round.course
  generalize round.exchange = exchange at course
  cases course with
  | nothing answer asks => rfl
  | unreached answer asks unlinked unanswered => rfl
  | unsent link events answer asks goes unanswered => cases idle asks
  | missed link events request answer asks goes requested nothing unanswered => cases idle asks
  | answered link kept events request answer asks goes requested read => cases idle asks

/-- The client goes on with a connection that it keeps. -/
theorem goes_on {link : Link} (held : client.link = some link) (calls : List (Peer × AdminCall)) :
    GoesOn link.number (client.rounds calls) := by
  intro idle next rest split quiet asks
  induction idle generalizing client calls with
  | nil =>
      have same : next.client = client := by
        cases calls with
        | nil => cases split
        | cons occasion calls =>
            cases split
            rfl
      rcases next.course.rests_or_uses with rests | ⟨used, uses⟩
      · have unlinked := (rests.unlinked asks).1
        rw [same, held] at unlinked
        cases unlinked
      · rcases uses.course with ⟨opening, behind, goes, -, whole, own⟩
        rcases goes with ⟨kept, rfl⟩ | ⟨unlinked, -⟩
        · rw [same, held] at kept
          cases kept
          refine ⟨uses.exists_event, ?_⟩
          rw [whole]
          exact own
        · rw [same, held] at unlinked
          cases unlinked
  | cons first idle induction =>
      cases calls with
      | nil => cases split
      | cons occasion calls =>
          rcases List.cons.inj split with ⟨rfl, behind⟩
          have unchanged := client_of_idle (quiet _ List.mem_cons_self)
          apply induction _ calls behind
          · intro other member
            exact quiet other (List.mem_cons_of_mem _ member)
          · rw [unchanged]
            exact held

theorem correlation_eq {first second : Nat} (same : correlationOf first = correlationOf second) :
    first % twoPower 32 = second % twoPower 32 := by
  have wide : bytePower 4 = 4294967296 := rfl
  have bits : twoPower 32 = 4294967296 := rfl
  have firstWord : first % twoPower 32 < twoPower 32 := Nat.mod_lt first (by decide)
  have secondWord : second % twoPower 32 < twoPower 32 := Nat.mod_lt second (by decide)
  unfold correlationOf at same
  generalize first % twoPower 32 = one at same firstWord ⊢
  generalize second % twoPower 32 = other at same secondWord ⊢
  unfold intOfWord at same
  split at same <;> split at same <;> omega

/-- A message carries one number only, and these come back after all others were used. -/
theorem turns_between {earlier : Round} {number : Nat} (standing : Standing before round.client)
    (member : earlier ∈ before) (sends : earlier.sends number = true) {message : List UInt8}
    {first second : AdminAnswer} (old : earlier.Gets message first)
    (new : round.Gets message second) :
    ∃ turns, 0 < turns ∧
      round.client.requests = earlier.client.requests + turns * twoPower 32 := by
  have counted := standing.counted earlier member number sends
  rcases old.told with ⟨oldBody, oldMessage, -⟩
  rcases new.told with ⟨newBody, newMessage, -⟩
  have same : earlier.correlation = round.correlation := by
    rcases correlation_in_range earlier.client.requests with ⟨oldAbove, oldBelow⟩
    rcases correlation_in_range round.client.requests with ⟨newAbove, newBelow⟩
    have oldRead := read_integer_write oldBody oldAbove oldBelow
    have newRead := read_integer_write newBody newAbove newBelow
    change readInteger 4 (writeInteger 4 earlier.correlation ++ oldBody) =
      some (earlier.correlation, oldBody) at oldRead
    rw [← oldMessage, newMessage] at oldRead
    have both := Option.some.inj (oldRead.symm.trans newRead)
    exact congrArg Prod.fst both
  have words := correlation_eq same
  have bits : twoPower 32 = 4294967296 := rfl
  rw [bits] at words ⊢
  refine ⟨(round.client.requests - earlier.client.requests) / 4294967296, ?_, ?_⟩ <;> omega

end Rounds

/-! ## Many calls of one client -/

/-- A round takes part in no other one's answer, and no other one in its own. -/
structure Round.Apart (round : Round) (before after : List Round) : Prop where
  sent : round.Asks → ∀ answer, round.Told answer →
    ∃ number message, round.sends number = true ∧ Takes number round message
  /-- The response stands on the connection behind those to the earlier requests on it. -/
  next : ∀ number, round.sends number = true → round.TakesNext before number
  /-- A connection is kept after a response, and never touched again after any other end. -/
  kept_or_left : ∀ number, round.Touches number →
    (∃ answer, round.Told answer) ∧ GoesOn number after ∨
      Client.Unanswered round.exchange.answer ∧ .closed number ∈ round.exchange.events ∧
        ∀ later ∈ after, ¬later.Touches number
  /-- A new connection is nobody else's. -/
  fresh : ∀ number, .connected number ∈ round.exchange.events →
    ∀ earlier ∈ before, ¬earlier.Touches number
  /-- A response to this round is one to an earlier round only if all numbers were used since. -/
  turns : ∀ earlier ∈ before, ∀ number, earlier.sends number = true →
    ∀ message first second, earlier.Gets message first → round.Gets message second →
      ∃ turns, 0 < turns ∧
        round.client.requests = earlier.client.requests + turns * twoPower 32

namespace Client

theorem rounds_apart {cluster servers : String} {client : Client}
    (made : Client.ofServers cluster servers = .ok client) {calls : List (Peer × AdminCall)}
    {before after : List Round} {round : Round}
    (split : client.rounds calls = before ++ round :: after) : round.Apart before after := by
  rcases (standing_fresh made).run split with ⟨standing, later, rfl⟩
  rw [List.nil_append] at standing
  refine ⟨?_, ?_, ?_, ?_, ?_⟩
  · intro asks answer told
    exact exists_takes_of_told asks told
  · intro number sends
    exact standing.takes_next sends
  · intro number touches
    rcases told_or_closed touches with ⟨answer, link, told, held, rfl⟩ | ⟨missed, closed, unlinked⟩
    · left
      exact ⟨⟨answer, told⟩, goes_on held later⟩
    · right
      refine ⟨missed, closed, ?_⟩
      apply Gone.run
      rcases round.course.rests_or_uses with rests | ⟨link, uses⟩
      · cases untouched_of_rests rests number touches
      · refine ⟨?_, ?_⟩
        · rw [link_of_touches uses touches]
          exact uses.within
        · intro other held
          rw [unlinked] at held
          cases held
  · intro number connected earlier member touches
    have made := standing.below earlier member number touches
    rcases round.course.rests_or_uses with rests | ⟨link, uses⟩
    · rw [rests.silent] at connected
      cases connected
    · rcases uses.course with ⟨opening, rest, goes, -, whole, own⟩
      rw [whole] at connected
      rcases List.mem_append.mp connected with early | late
      · rcases goes with ⟨-, rfl⟩ | ⟨-, -, rfl⟩
        · cases early
        · cases List.mem_singleton.mp early
          exact Nat.lt_irrefl _ made
      · rcases own _ late with ⟨rfl, other⟩
        exact other rfl
  · intro earlier member number sends message first second old new
    exact turns_between standing member sends old new

section Leftover

def eastern : Client := { cluster := "east", servers := ["one:9092"] }

/-- A response that lists no binding. -/
def emptyListing (correlation : Int) : List UInt8 :=
  framed (writeInteger 4 correlation ++ writeInteger 4 0 ++ writeInteger 2 0 ++
    writeInteger 2 (-1) ++ writeInteger 4 0)

def answering (bytes : List UInt8) : Peer × AdminCall :=
  (⟨fun _ => .accepted, fun _ _ => ⟨bytes, .flowing⟩, fun _ _ => .whole⟩, .describe {})

/-- A server that answers the first call twice, the second one never, the third one with half a
response and the last one as it should. -/
def visits : List (Peer × AdminCall) := [
  answering (emptyListing 0 ++ emptyListing 0), answering [],
  answering ((emptyListing 2).take 10), answering (emptyListing 3)]

theorem rounds_apart_leftover :
    Client.ofServers "east" "one:9092" = .ok eastern ∧
      (eastern.rounds visits).map (·.exchange.events.map LinkEvent.link) =
        [[0, 0], [0, 0], [1, 1, 1], [2, 2]] ∧
      ∃ first second rest, eastern.rounds visits = first :: second :: rest ∧
        second.Apart [first] rest := by
  have made : Client.ofServers "east" "one:9092" = .ok eastern := rfl
  refine ⟨made, by decide +kernel, ?_⟩
  rcases shape : eastern.rounds visits with _ | ⟨first, _ | ⟨second, rest⟩⟩
  · cases shape
  · cases shape
  · exact ⟨first, second, rest, rfl, rounds_apart made shape⟩

end Leftover

end Client

end BrokerTenancy.Wire
