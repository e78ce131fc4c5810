import FrameLink.Proofs.Encoding.Header
import FrameLink.Proofs.Encoding.Wire
import FrameLink.Proofs.Histories
import FrameLink.Transport.Udp

/-!
# The two kinds of endpoint do the same

Their receive buffers differ in size, but both hold a byte more than a datagram may have, so
whatever is cut off was too long before (`UdpEndpoint.hear_ok`). What a receive gives is therefore
told by the datagrams of the peer alone, what a send is answered by the sizes and by what the socket
makes of the sends, and what is on the wire by the datagrams that were accepted
(`UdpLink.Traffic.Faithful.run`).
-/

namespace FrameLink.Transport

/-! ## Receiving -/

theorem UdpEndpoint.maxDatagramSize_lt_bufferSize (endpoint : UdpEndpoint) :
    endpoint.config.maxDatagramSize < endpoint.bufferSize := by
  unfold bufferSize
  cases endpoint.waiting with
  | blocking => exact Nat.lt_succ_of_le (Nat.le_max_left _ _)
  | suspending => exact Nat.lt_succ_self _

/-- Nothing is lost of what fits, and what does not fit is still too long once it was cut. -/
theorem UdpEndpoint.hear_ok (endpoint : UdpEndpoint) (raw : Bytes) :
    endpoint.hear (.ok raw) = endpoint.readBuffer raw := by
  have room := endpoint.maxDatagramSize_lt_bufferSize
  rcases Nat.lt_or_ge endpoint.config.maxDatagramSize raw.length with long | short
  · have still : endpoint.config.maxDatagramSize < (raw.take endpoint.bufferSize).length := by
      rw [List.length_take]
      exact Nat.lt_min.mpr ⟨room, long⟩
    rw [hear, readBuffer, readBuffer, if_pos still, if_pos long]
  · rw [hear, List.take_of_length_le (Nat.le_trans short (Nat.le_of_lt room))]

/-- The sequence number of a datagram that fits and can be read. -/
def number? (most : Nat) (raw : Bytes) : Option UInt16 :=
  if most < raw.length then none
  else (CarrierHeader.decode raw).toOption.map (·.1.sequence)

/-- The sequence numbers of the datagrams that fit and can be read. -/
def heard (most : Nat) (raws : List Bytes) : List UInt16 :=
  raws.filterMap (number? most)

/-- A tracker that has seen the last of the datagrams that fit and can be read. -/
def trackerBehind (most : Nat) (raws : List Bytes) : SequenceTracker :=
  ⟨(heard most raws).getLast?⟩

/-- What comes of a datagram behind the earlier ones. -/
def outcome (most : Nat) (earlier : List Bytes) (raw : Bytes) : Except TransportError Datagram :=
  if most < raw.length then .error (.datagramTruncated most)
  else ((trackerBehind most earlier).receive raw).1

theorem heard_concat (most : Nat) (earlier : List Bytes) (raw : Bytes) :
    heard most (earlier ++ [raw]) = heard most earlier ++ (number? most raw).toList := by
  rw [heard, List.filterMap_append, ← heard, List.filterMap_cons]
  cases number? most raw with
  | none => rfl
  | some sequence => rfl

/-- Only a datagram that fits and can be read moves the tracker on. -/
theorem trackerBehind_concat (most : Nat) (earlier : List Bytes) (raw : Bytes) :
    trackerBehind most (earlier ++ [raw]) =
      if most < raw.length then trackerBehind most earlier
      else ((trackerBehind most earlier).receive raw).2 := by
  rw [trackerBehind, heard_concat, number?]
  split
  next => rw [Option.toList_none, List.append_nil, trackerBehind]
  next =>
    rw [SequenceTracker.receive]
    cases CarrierHeader.decode raw with
    | error => rw [Except.toOption, Option.map_none, Option.toList_none, List.append_nil,
        trackerBehind]
    | ok pair =>
        rw [Except.toOption, Option.map_some, Option.toList_some, List.getLast?_concat]
        rfl

theorem UdpEndpoint.readBuffer_behind {endpoint : UdpEndpoint} {earlier : List Bytes}
    (behind : endpoint.tracker = trackerBehind endpoint.config.maxDatagramSize earlier)
    (raw : Bytes) :
    endpoint.readBuffer raw = (outcome endpoint.config.maxDatagramSize earlier raw,
      { endpoint with
        tracker := trackerBehind endpoint.config.maxDatagramSize (earlier ++ [raw]) }) := by
  rw [readBuffer, outcome, trackerBehind_concat, ← behind]
  split
  next => rfl
  next => rfl

/-- What an endpoint hears of the datagrams that arrive: one with a peer hears those of the peer. -/
def heardFrom (peer : Option Address) (arrivals : List Arrival) : List Bytes :=
  (arrivals.filter fun arrival => peer.all (· = arrival.sender)).map Arrival.raw

theorem UdpEndpoint.heardFrom_cons (endpoint : UdpEndpoint) (arrival : Arrival)
    (rest : List Arrival) :
    heardFrom endpoint.peer (arrival :: rest) =
      if endpoint.ignores arrival.sender then heardFrom endpoint.peer rest
      else arrival.raw :: heardFrom endpoint.peer rest := by
  unfold ignores
  cases endpoint.peer with
  | none => simp [heardFrom]
  | some peer =>
      by_cases own : peer = arrival.sender
      · simp [heardFrom, own]
      · simp [heardFrom, own]

/-- A receive passes over what others sent, up to the next datagram of the peer. -/
theorem UdpEndpoint.exists_receiveWith (endpoint : UdpEndpoint) (passes : IoError → Bool)
    (arrivals : List Arrival) :
    ∃ rest, heardFrom endpoint.peer rest = (heardFrom endpoint.peer arrivals).tail ∧
      Socket.receiveWith passes endpoint.ignores (arrivals.map .ok) =
        (((heardFrom endpoint.peer arrivals).head?.elim (.error (.ofKind .wouldBlock)) .ok),
          rest.map .ok) := by
  induction arrivals with
  | nil => exact ⟨[], rfl, rfl⟩
  | cons arrival arrivals ih =>
      rw [heardFrom_cons, List.map_cons, Socket.receiveWith]
      split
      next => exact ih
      next => exact ⟨arrivals, rfl, rfl⟩

/-! ## Sending -/

/-- What the sends of an endpoint come to: one that blocks makes an interrupted send again. -/
def settled : Waiting → List (Option IoError) → List (Option IoError)
  | .blocking, results => results.filter fun result => !result.any (·.kind = .interrupted)
  | .suspending, results => results

theorem UdpEndpoint.settled_cons (endpoint : UdpEndpoint) (result : Option IoError)
    (rest : List (Option IoError)) :
    settled endpoint.waiting (result :: rest) =
      if result.any endpoint.retries then settled endpoint.waiting rest
      else result :: settled endpoint.waiting rest := by
  unfold retries
  cases endpoint.waiting with
  | blocking =>
      cases result with
      | none => rfl
      | some failure =>
          by_cases interrupted : failure.kind = .interrupted
          · simp [settled, interrupted]
          · simp [settled, interrupted]
  | suspending =>
      cases result with
      | none => rfl
      | some failure => rfl

/-- A send comes to the next of what the sends come to, and puts the datagram on the wire unless
that is a failure. -/
theorem UdpEndpoint.exists_sendWith (endpoint : UdpEndpoint) (raw : Bytes) (wire : List Bytes)
    (results : List (Option IoError)) :
    ∃ rest, settled endpoint.waiting rest = (settled endpoint.waiting results).tail ∧
      Socket.sendWith endpoint.retries raw wire results =
        match (settled endpoint.waiting results).head?.join with
        | none => (none, rest, wire ++ [raw])
        | some failure => (some failure, rest, wire) := by
  induction results with
  | nil =>
      have nothing : settled endpoint.waiting [] = [] := by
        cases endpoint.waiting with
        | blocking => rfl
        | suspending => rfl
      rw [nothing]
      exact ⟨[], nothing, rfl⟩
  | cons result rest ih =>
      rw [settled_cons]
      cases result with
      | none => exact ⟨rest, rfl, rfl⟩
      | some failure =>
          rw [Socket.sendWith, Option.any_some]
          split
          next => exact ih
          next => exact ⟨rest, rfl, rfl⟩

namespace UdpLink

/-- What a send can come to: the datagram is refused for its size, fails at the socket, or goes out;
only then does the sequence number go on. -/
inductive Sends (datagram : Datagram) (link : UdpLink) : Except TransportError Unit × UdpLink → Prop
  | refused (large : link.endpoint.config.maxDatagramSize < datagram.wireSize) :
      Sends datagram link (.error (.datagramTooLarge datagram.wireSize
        link.endpoint.config.maxDatagramSize), link)
  | failed {failure : IoError} {sendResults : List (Option IoError)}
      (fits : datagram.wireSize ≤ link.endpoint.config.maxDatagramSize)
      (next : (settled link.endpoint.waiting link.socket.sendResults).head?.join = some failure)
      (rest : settled link.endpoint.waiting sendResults =
        (settled link.endpoint.waiting link.socket.sendResults).tail) :
      Sends datagram link (.error (.io failure),
        { link with socket := { link.socket with sendResults } })
  | gone {sendResults : List (Option IoError)}
      (fits : datagram.wireSize ≤ link.endpoint.config.maxDatagramSize)
      (next : (settled link.endpoint.waiting link.socket.sendResults).head?.join = none)
      (rest : settled link.endpoint.waiting sendResults =
        (settled link.endpoint.waiting link.socket.sendResults).tail) :
      Sends datagram link (.ok (), ⟨link.endpoint.advance, { link.socket with
        sendResults
        wire := link.socket.wire ++ [datagram.wire link.endpoint.config.payloadType
          link.endpoint.next link.endpoint.config.streamId] }⟩)

theorem sends_send (datagram : Datagram) (link : UdpLink) :
    Sends datagram link (link.send datagram) := by
  rw [send, UdpEndpoint.wire]
  split
  next _ refused =>
    split at refused
    next large =>
      cases refused
      exact .refused large
    next => cases refused
  next raw made =>
    split at made
    next => cases made
    next fits =>
      cases made
      obtain ⟨sendResults, rest, sent⟩ := link.endpoint.exists_sendWith _ link.socket.wire
        link.socket.sendResults
      rw [sent]
      cases next : (settled link.endpoint.waiting link.socket.sendResults).head?.join with
      | none => exact .gone (Nat.le_of_not_lt fits) next rest
      | some failure => exact .failed (Nat.le_of_not_lt fits) next rest

/-- A receive gives the next datagram of the peer, whatever else has arrived. -/
theorem exists_receive {link : UdpLink} {arrivals : List Arrival}
    (inbox : link.socket.inbox = arrivals.map .ok) :
    ∃ rest, heardFrom link.endpoint.peer rest = (heardFrom link.endpoint.peer arrivals).tail ∧
      link.receive = match (heardFrom link.endpoint.peer arrivals).head? with
        | none => (.error (.io (.ofKind .wouldBlock)),
            ⟨link.endpoint, { link.socket with inbox := rest.map .ok }⟩)
        | some raw => ((link.endpoint.readBuffer raw).1,
            ⟨(link.endpoint.readBuffer raw).2, { link.socket with inbox := rest.map .ok }⟩) := by
  obtain ⟨rest, behind, found⟩ := link.endpoint.exists_receiveWith link.endpoint.retries arrivals
  refine ⟨rest, behind, ?_⟩
  simp only [receive, inbox, found]
  cases (heardFrom link.endpoint.peer arrivals).head? with
  | none => rfl
  | some raw => rw [Option.elim, UdpEndpoint.hear_ok]

/-! ## Runs -/

/-- A call to an endpoint. -/
inductive Call where
  | send (datagram : Datagram)
  | receive
  deriving DecidableEq, Repr

/-- A link with what came of the calls so far. -/
structure Traffic where
  link : UdpLink
  /-- The datagrams that were to be sent, with what came of each. -/
  sent : List (Datagram × Except TransportError Unit)
  received : List (Except TransportError Datagram)

namespace Traffic

/-- A fresh endpoint of either kind, with what its socket will find. -/
def start (waiting : Waiting) (peer : Option Address) (config : UdpConfig)
    (arrivals : List Arrival) (sendResults : List (Option IoError)) : Traffic where
  link := ⟨.create waiting peer config, ⟨arrivals.map .ok, sendResults, []⟩⟩
  sent := []
  received := []

/-- Makes a call. -/
def perform (traffic : Traffic) : Call → Traffic
  | .send datagram => { traffic with
      link := (traffic.link.send datagram).2
      sent := traffic.sent ++ [(datagram, (traffic.link.send datagram).1)] }
  | .receive => { traffic with
      link := traffic.link.receive.2
      received := traffic.received ++ [traffic.link.receive.1] }

/-- Makes calls in order. -/
def run (traffic : Traffic) (calls : List Call) : Traffic :=
  calls.foldl perform traffic

/-- The datagrams whose send succeeded. -/
def accepted (sent : List (Datagram × Except TransportError Unit)) : List Datagram :=
  sent.filterMap fun entry => entry.2.toOption.map fun _ => entry.1

/-- What comes of a receive; where nothing has arrived, none would come. -/
def answer (most : Nat) (raws : List Bytes) (position : Nat) : Except TransportError Datagram :=
  match raws[position]? with
  | none => .error (.io (.ofKind .wouldBlock))
  | some raw => outcome most (raws.take position) raw

/-- How many datagrams are small enough to get to the socket. -/
def reaching (config : UdpConfig) (datagrams : List Datagram) : Nat :=
  datagrams.countP (·.wireSize ≤ config.maxDatagramSize)

/-- The failure that the next send meets at the socket, if any, behind the earlier ones. -/
def failure? (waiting : Waiting) (config : UdpConfig) (sendResults : List (Option IoError))
    (earlier : List Datagram) : Option IoError :=
  (settled waiting sendResults)[reaching config earlier]?.join

/-- What comes of a send behind the earlier ones. -/
def verdict (waiting : Waiting) (config : UdpConfig) (sendResults : List (Option IoError))
    (earlier : List Datagram) (datagram : Datagram) : Except TransportError Unit :=
  if config.maxDatagramSize < datagram.wireSize then
    .error (.datagramTooLarge datagram.wireSize config.maxDatagramSize)
  else
    match failure? waiting config sendResults earlier with
    | none => .ok ()
    | some failure => .error (.io failure)

/-- Datagrams on the wire, numbered from 0. -/
def numbered (config : UdpConfig) (datagrams : List Datagram) : List Bytes :=
  datagrams.mapIdx fun position datagram =>
    datagram.wire config.payloadType (UInt16.ofNat position) config.streamId

/-- An endpoint of either kind that did what its setup, the datagrams of its peer and what its
socket makes of the sends tell. -/
structure Faithful (waiting : Waiting) (peer : Option Address) (config : UdpConfig)
    (raws : List Bytes) (sendResults : List (Option IoError)) (traffic : Traffic) : Prop where
  endpoint : traffic.link.endpoint = {
    waiting, peer, config
    next := UInt16.ofNat (accepted traffic.sent).length
    tracker := trackerBehind config.maxDatagramSize (raws.take traffic.received.length) }
  inbox : ∃ rest, traffic.link.socket.inbox = rest.map .ok ∧
    heardFrom peer rest = raws.drop traffic.received.length
  received : traffic.received =
    (List.range traffic.received.length).map (answer config.maxDatagramSize raws)
  ahead : settled waiting traffic.link.socket.sendResults =
    (settled waiting sendResults).drop (reaching config (traffic.sent.map Prod.fst))
  answered : ∀ front entry back, traffic.sent = front ++ entry :: back →
    entry.2 = verdict waiting config sendResults (front.map Prod.fst) entry.1
  wire : traffic.link.socket.wire = numbered config (accepted traffic.sent)

section Step

variable {waiting : Waiting} {peer : Option Address} {config : UdpConfig} {raws : List Bytes}
  {sendResults : List (Option IoError)} {traffic : Traffic}

theorem accepted_ok (sent : List (Datagram × Except TransportError Unit)) (datagram : Datagram) :
    accepted (sent ++ [(datagram, .ok ())]) = accepted sent ++ [datagram] := by
  rw [accepted, List.filterMap_append]
  rfl

theorem accepted_error (sent : List (Datagram × Except TransportError Unit)) (datagram : Datagram)
    (error : TransportError) : accepted (sent ++ [(datagram, .error error)]) = accepted sent := by
  rw [accepted, List.filterMap_append]
  exact List.append_nil _

theorem numbered_concat (config : UdpConfig) (datagrams : List Datagram) (datagram : Datagram) :
    numbered config (datagrams ++ [datagram]) = numbered config datagrams ++
      [datagram.wire config.payloadType (UInt16.ofNat datagrams.length) config.streamId] :=
  List.mapIdx_concat

theorem reaching_of_large {datagram : Datagram} (large : config.maxDatagramSize < datagram.wireSize)
    (earlier : List Datagram) :
    reaching config (earlier ++ [datagram]) = reaching config earlier := by
  simp [reaching, Nat.not_le_of_lt large]

theorem reaching_of_fits {datagram : Datagram} (fits : datagram.wireSize ≤ config.maxDatagramSize)
    (earlier : List Datagram) :
    reaching config (earlier ++ [datagram]) = reaching config earlier + 1 := by
  simp [reaching, fits]

theorem verdict_of_large {datagram : Datagram} (large : config.maxDatagramSize < datagram.wireSize)
    (earlier : List Datagram) : verdict waiting config sendResults earlier datagram =
      .error (.datagramTooLarge datagram.wireSize config.maxDatagramSize) :=
  if_pos large

theorem verdict_of_failure {datagram : Datagram} {earlier : List Datagram} {failure : IoError}
    (fits : datagram.wireSize ≤ config.maxDatagramSize)
    (meets : failure? waiting config sendResults earlier = some failure) :
    verdict waiting config sendResults earlier datagram = .error (.io failure) := by
  rw [verdict, if_neg (Nat.not_lt_of_le fits), meets]

theorem verdict_of_success {datagram : Datagram} {earlier : List Datagram}
    (fits : datagram.wireSize ≤ config.maxDatagramSize)
    (meets : failure? waiting config sendResults earlier = none) :
    verdict waiting config sendResults earlier datagram = .ok () := by
  rw [verdict, if_neg (Nat.not_lt_of_le fits), meets]

/-- What the next send meets is the first of what is left. -/
theorem Faithful.failure?_eq (faithful : Faithful waiting peer config raws sendResults traffic) :
    failure? waiting config sendResults (traffic.sent.map Prod.fst) =
      (settled waiting traffic.link.socket.sendResults).head?.join := by
  rw [failure?, faithful.ahead, List.head?_drop]

/-- What is left behind a send that got to the socket. -/
theorem Faithful.ahead_tail (faithful : Faithful waiting peer config raws sendResults traffic)
    {datagram : Datagram} (fits : datagram.wireSize ≤ config.maxDatagramSize) :
    (settled waiting traffic.link.socket.sendResults).tail =
      (settled waiting sendResults).drop
        (reaching config (traffic.sent.map Prod.fst ++ [datagram])) := by
  rw [faithful.ahead, List.tail_drop, reaching_of_fits fits]

/-- A send that does not succeed leaves the numbers and the wire as they were. -/
theorem Faithful.error (faithful : Faithful waiting peer config raws sendResults traffic)
    {link : UdpLink} {datagram : Datagram} {error : TransportError}
    (endpoint : link.endpoint = traffic.link.endpoint)
    (inbox : link.socket.inbox = traffic.link.socket.inbox)
    (wire : link.socket.wire = traffic.link.socket.wire)
    (ahead : settled waiting link.socket.sendResults = (settled waiting sendResults).drop
      (reaching config (traffic.sent.map Prod.fst ++ [datagram])))
    (told : .error error = verdict waiting config sendResults (traffic.sent.map Prod.fst)
      datagram) :
    Faithful waiting peer config raws sendResults
      { traffic with link, sent := traffic.sent ++ [(datagram, .error error)] } where
  endpoint := by rw [endpoint, accepted_error, faithful.endpoint]
  inbox := inbox ▸ faithful.inbox
  received := faithful.received
  ahead := by rw [ahead, List.map_append, List.map_singleton]
  answered := History.forall_concat faithful.answered told
  wire := by rw [wire, accepted_error, faithful.wire]

theorem Faithful.send (faithful : Faithful waiting peer config raws sendResults traffic)
    (datagram : Datagram) :
    Faithful waiting peer config raws sendResults (traffic.perform (.send datagram)) := by
  have meets := faithful.failure?_eq
  have sends := sends_send datagram traffic.link
  rw [perform]
  generalize traffic.link.send datagram = after at sends
  cases sends with
  | refused large =>
      rw [faithful.endpoint] at large ⊢
      apply faithful.error rfl rfl rfl
      case ahead => rw [faithful.ahead, reaching_of_large large]
      case told => exact (verdict_of_large large _).symm
  | failed fits next rest =>
      rw [faithful.endpoint] at fits next rest
      apply faithful.error
      case endpoint => rfl
      case inbox => rfl
      case wire => rfl
      case ahead => exact rest.trans (faithful.ahead_tail fits)
      case told => exact (verdict_of_failure fits (meets.trans next)).symm
  | gone fits next rest =>
      rw [faithful.endpoint] at fits next rest ⊢
      constructor
      case endpoint =>
        rw [accepted_ok, List.length_append, UdpEndpoint.advance]
        simp
      case inbox => exact faithful.inbox
      case received => exact faithful.received
      case ahead =>
        rw [List.map_append, List.map_singleton]
        exact rest.trans (faithful.ahead_tail fits)
      case answered =>
        exact History.forall_concat faithful.answered
          (verdict_of_success fits (meets.trans next)).symm
      case wire => rw [accepted_ok, numbered_concat, faithful.wire]

theorem answers_concat {most : Nat} {received : List (Except TransportError Datagram)}
    {result : Except TransportError Datagram}
    (earlier : received = (List.range received.length).map (answer most raws))
    (last : result = answer most raws received.length) :
    received ++ [result] =
      (List.range (received ++ [result]).length).map (answer most raws) := by
  rw [List.length_append, List.length_singleton, List.range_succ, List.map_append, ← earlier,
    List.map_singleton, last]

/-- A receive leaves what was sent as it was, and goes one datagram of the peer further. -/
theorem Faithful.taken (faithful : Faithful waiting peer config raws sendResults traffic)
    {rest : List Arrival} {endpoint : UdpEndpoint} {result : Except TransportError Datagram}
    (left : heardFrom peer rest = raws.drop (traffic.received.length + 1))
    (tracked : endpoint = { traffic.link.endpoint with
      tracker := trackerBehind config.maxDatagramSize
        (raws.take (traffic.received.length + 1)) })
    (told : result = answer config.maxDatagramSize raws traffic.received.length) :
    Faithful waiting peer config raws sendResults { traffic with
      link := ⟨endpoint, { traffic.link.socket with inbox := rest.map .ok }⟩
      received := traffic.received ++ [result] } := by
  have grown : (traffic.received ++ [result]).length = traffic.received.length + 1 :=
    List.length_append
  constructor
  case endpoint => rw [grown, tracked, faithful.endpoint]
  case inbox => exact ⟨rest, rfl, grown ▸ left⟩
  case received => exact answers_concat faithful.received told
  case ahead => exact faithful.ahead
  case answered => exact faithful.answered
  case wire => exact faithful.wire

theorem Faithful.receive (faithful : Faithful waiting peer config raws sendResults traffic) :
    Faithful waiting peer config raws sendResults (traffic.perform .receive) := by
  obtain ⟨arrivals, inbox, ahead⟩ := faithful.inbox
  obtain ⟨rest, behind, receives⟩ := exists_receive inbox
  rw [faithful.endpoint, ahead, List.tail_drop] at behind
  rw [faithful.endpoint, ahead, List.head?_drop] at receives
  rw [perform, receives]
  cases arrived : raws[traffic.received.length]? with
  | none =>
      have beyond := List.getElem?_eq_none_iff.mp arrived
      apply faithful.taken behind
      case tracked =>
        rw [faithful.endpoint, List.take_of_length_le beyond,
          List.take_of_length_le (Nat.le_succ_of_le beyond)]
      case told => rw [answer, arrived]
  | some raw =>
      have front : raws.take (traffic.received.length + 1) =
          raws.take traffic.received.length ++ [raw] := by
        rw [List.take_add_one, arrived]
        rfl
      dsimp only
      rw [UdpEndpoint.readBuffer_behind rfl raw, ← front]
      apply faithful.taken behind
      case tracked => rw [faithful.endpoint]
      case told => rw [answer, arrived]

theorem Faithful.run (faithful : Faithful waiting peer config raws sendResults traffic)
    (calls : List Call) :
    Faithful waiting peer config raws sendResults (traffic.run calls) := by
  induction calls generalizing traffic with
  | nil => exact faithful
  | cons call calls ih =>
      apply ih
      cases call with
      | send datagram => exact faithful.send datagram
      | receive => exact faithful.receive

end Step

/-- Where a datagram may have two bytes, two are no header and three are too many; what another one
than the peer sent is nowhere. -/
example (waiting : Waiting) :
    let peer : Address := .v4 [127, 0, 0, 1] 4000
    let other : Address := .v4 [127, 0, 0, 1] 4001
    ((start waiting (some peer) { UdpConfig.default with maxDatagramSize := 2 }
      [⟨peer, [1, 2]⟩, ⟨other, [0]⟩, ⟨peer, [1, 2, 3]⟩] []).run [.receive, .receive]).received =
        [.error (.datagramTooShort 2 12), .error (.datagramTruncated 2)] := by
  cases waiting with
  | blocking => rfl
  | suspending => rfl

end Traffic

end UdpLink

end FrameLink.Transport
