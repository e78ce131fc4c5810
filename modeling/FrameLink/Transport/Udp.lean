import FrameLink.Carrier.Sequence
import FrameLink.Transport.Endpoint

/-!
# UDP endpoints

An endpoint numbers the datagrams that it sends and tracks those that it receives. A socket cuts
what does not fit the receive buffer, so the buffer has a byte to spare: a datagram that fills it
was too long. An endpoint that is connected has a peer and passes over what others send. There are
two kinds of endpoint, one that blocks and one that waits; they differ in the size of the buffer and
in what an interruption does.
-/

namespace FrameLink.Transport

/-- The most bytes of a UDP datagram. -/
def greatestUdpDatagram : Nat := 65507

/-- How an endpoint is set up. -/
structure UdpConfig where
  /-- The most bytes of a datagram, carrier header included. -/
  maxDatagramSize : Nat
  payloadType : UInt8
  streamId : UInt32
  deriving DecidableEq, Repr

/-- The setup where nothing is configured. -/
def UdpConfig.default : UdpConfig where
  maxDatagramSize := greatestUdpDatagram
  payloadType := CarrierHeader.defaultPayloadType
  streamId := 0

/-- The two kinds of endpoint. -/
inductive Waiting where
  | blocking
  | suspending
  deriving DecidableEq, Repr

/-- The state of an endpoint. -/
structure UdpEndpoint where
  waiting : Waiting
  /-- The address that the endpoint is connected to; one that is only bound has none. -/
  peer : Option Address
  config : UdpConfig
  /-- The sequence number of the next datagram. -/
  next : UInt16
  tracker : SequenceTracker
  deriving DecidableEq, Repr

namespace UdpEndpoint

/-- A fresh endpoint. -/
def create (waiting : Waiting) (peer : Option Address) (config : UdpConfig) : UdpEndpoint where
  waiting := waiting
  peer := peer
  config := config
  next := 0
  tracker := .fresh

/-- The size of the receive buffer. -/
def bufferSize (endpoint : UdpEndpoint) : Nat :=
  match endpoint.waiting with
  | .blocking => max endpoint.config.maxDatagramSize CarrierHeader.size + 1
  | .suspending => endpoint.config.maxDatagramSize + 1

/-- Whether a failure is passed over and the call made again. -/
def retries (endpoint : UdpEndpoint) (failure : IoError) : Bool :=
  match endpoint.waiting with
  | .blocking => failure.kind = .interrupted
  | .suspending => false

/-- Whether a datagram from an address is passed over: one with a peer hears nobody else. -/
def ignores (endpoint : UdpEndpoint) (sender : Address) : Bool :=
  endpoint.peer.any (· ≠ sender)

/-- The bytes that a datagram is sent as. -/
def wire (endpoint : UdpEndpoint) (datagram : Datagram) : Except TransportError Bytes :=
  if endpoint.config.maxDatagramSize < datagram.wireSize then
    .error (.datagramTooLarge datagram.wireSize endpoint.config.maxDatagramSize)
  else
    .ok (datagram.wire endpoint.config.payloadType endpoint.next endpoint.config.streamId)

/-- The endpoint once a datagram has gone out. -/
def advance (endpoint : UdpEndpoint) : UdpEndpoint :=
  { endpoint with next := endpoint.next + 1 }

/-- Reads what the socket put into the receive buffer. -/
def readBuffer (endpoint : UdpEndpoint) (buffer : Bytes) :
    Except TransportError Datagram × UdpEndpoint :=
  if endpoint.config.maxDatagramSize < buffer.length then
    (.error (.datagramTruncated endpoint.config.maxDatagramSize), endpoint)
  else
    let (result, tracker) := endpoint.tracker.receive buffer
    (result, { endpoint with tracker })

/-- Makes a result of what a receive found, of which as much fits as the buffer holds. -/
def hear (endpoint : UdpEndpoint) :
    Except IoError Bytes → Except TransportError Datagram × UdpEndpoint
  | .error failure => (.error (.io failure), endpoint)
  | .ok raw => endpoint.readBuffer (raw.take endpoint.bufferSize)

/-- Forgets the sequence of the datagrams received so far. -/
def resetTracking (endpoint : UdpEndpoint) : UdpEndpoint :=
  { endpoint with tracker := .fresh }

end UdpEndpoint

/-! ## Sockets -/

/-- A datagram as a socket finds it, with the address that it came from. -/
structure Arrival where
  sender : Address
  raw : Bytes
  deriving DecidableEq, Repr

/-- A socket as its endpoint meets it: what the coming calls will find, and what has gone out. -/
structure Socket where
  /-- What the coming receives find. -/
  inbox : List (Except IoError Arrival)
  /-- What the coming sends find; behind the list every send succeeds. -/
  sendResults : List (Option IoError)
  /-- The bytes that went out, in order. -/
  wire : List Bytes
  deriving Repr

namespace Socket

/-- The socket that nothing has come to or gone from. -/
def idle : Socket := ⟨[], [], []⟩

/-- Makes sends until one is not passed over. -/
def sendWith (passes : IoError → Bool) (raw : Bytes) (wire : List Bytes) :
    List (Option IoError) → Option IoError × List (Option IoError) × List Bytes
  | [] => (none, [], wire ++ [raw])
  | none :: rest => (none, rest, wire ++ [raw])
  | some failure :: rest =>
      if passes failure then sendWith passes raw wire rest else (some failure, rest, wire)

/-- Makes receives until one is not passed over, be it for its failure or for its sender; where
nothing is left, none would come. -/
def receiveWith (passes : IoError → Bool) (ignores : Address → Bool) :
    List (Except IoError Arrival) → Except IoError Bytes × List (Except IoError Arrival)
  | [] => (.error (.ofKind .wouldBlock), [])
  | .ok arrival :: rest =>
      if ignores arrival.sender then receiveWith passes ignores rest else (.ok arrival.raw, rest)
  | .error failure :: rest =>
      if passes failure then receiveWith passes ignores rest else (.error failure, rest)

/-- A datagram that is received was in the inbox. -/
theorem length_of_receiveWith {passes : IoError → Bool} {ignores : Address → Bool}
    {inbox rest : List (Except IoError Arrival)} {raw : Bytes}
    (received : receiveWith passes ignores inbox = (.ok raw, rest)) :
    rest.length < inbox.length := by
  induction inbox with
  | nil => simp [receiveWith] at received
  | cons result inbox ih =>
      cases result with
      | ok arrival =>
          simp only [receiveWith] at received
          split at received
          next => exact Nat.lt_succ_of_lt (ih received)
          next =>
            simp only [Prod.mk.injEq] at received
            simp [received.2]
      | error failure =>
          simp only [receiveWith] at received
          split at received
          next => exact Nat.lt_succ_of_lt (ih received)
          next => simp at received

end Socket

/-- An endpoint with its socket. -/
structure UdpLink where
  endpoint : UdpEndpoint
  socket : Socket
  deriving Repr

namespace UdpLink

/-- Sends a datagram. Only one that goes out uses up a sequence number. -/
def send (datagram : Datagram) (link : UdpLink) : Except TransportError Unit × UdpLink :=
  match link.endpoint.wire datagram with
  | .error error => (.error error, link)
  | .ok raw =>
      match Socket.sendWith link.endpoint.retries raw link.socket.wire link.socket.sendResults with
      | (some failure, sendResults, wire) =>
          (.error (.io failure), { link with socket := { link.socket with sendResults, wire } })
      | (none, sendResults, wire) =>
          (.ok (), ⟨link.endpoint.advance, { link.socket with sendResults, wire }⟩)

/-- Receives a datagram. -/
def receive (link : UdpLink) : Except TransportError Datagram × UdpLink :=
  let (found, inbox) :=
    Socket.receiveWith link.endpoint.retries link.endpoint.ignores link.socket.inbox
  let (result, endpoint) := link.endpoint.hear found
  (result, ⟨endpoint, { link.socket with inbox }⟩)

instance : DatagramSink UdpLink where
  send := send

instance : DatagramSource UdpLink where
  receive := receive
  backlog link := link.socket.inbox.length
  backlog_receive := by
    intro link used
    simp only [receive] at used ⊢
    cases found : Socket.receiveWith link.endpoint.retries link.endpoint.ignores
      link.socket.inbox with
    | mk result inbox =>
        cases result with
        | error failure =>
            simp [found, UdpEndpoint.hear, consumes, TransportError.isMalformed] at used
        | ok raw => exact Socket.length_of_receiveWith found

end UdpLink

end FrameLink.Transport
