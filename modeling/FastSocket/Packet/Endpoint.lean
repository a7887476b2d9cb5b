import FastSocket.Packet.Transmit

/-!
# Prepared endpoints

An endpoint fixes the destination and the metadata of the datagrams that are sent through
it.  A generic endpoint is for sockets without a way of their own: it moves the packets of
its leading valid slots to a batch for the socket's plain send, and moves those that the
socket does not accept back to their slots.
-/

namespace FastSocket.Packet

/-- A request for an endpoint.  A segment size is not zero. -/
structure UdpEndpointSpec where
  destination : SocketAddr
  sourceIp : Option IpAddr
  sourcePort : Option Word
  ecn : Option EcnCodepoint
  gsoSegmentSize : Option Word
  payloadLen : Option Nat
deriving DecidableEq, Repr

structure UdpEndpointInfo where
  mtu : Nat
  payloadLen : Option Nat
  gsoSegmentSize : Option Word
deriving DecidableEq, Repr

/-- What a UDP socket can do. -/
structure UdpCapabilities where
  gso : Bool
  gro : Bool
  maxGsoSegments : Option Word
deriving DecidableEq, Repr

/-- The capabilities of a socket that does not state any. -/
def UdpCapabilities.default : UdpCapabilities :=
  { gso := false, gro := false, maxGsoSegments := none }

structure GenericUdpEndpoint where
  spec : UdpEndpointSpec
  info : UdpEndpointInfo
deriving DecidableEq, Repr

/-! ## Validation -/

def SocketAddr.ip : SocketAddr → IpAddr
  | .v4 addr => .v4 addr.ip
  | .v6 addr => .v6 addr.ip

def sameIpFamily : IpAddr → IpAddr → Bool
  | .v4 _, .v4 _ => true
  | .v6 _, .v6 _ => true
  | _, _ => false

/-- The number of segments of a payload is within the limit of the socket, as far as both
are known. -/
def segmentsFit (payloadLen : Option Nat) (maxSegments : Option Word) (segmentSize : Nat) : Bool :=
  match payloadLen, maxSegments with
  | some payloadLen, some maxSegments =>
    (payloadLen + segmentSize - 1) / segmentSize ≤ maxSegments.toNat
  | _, _ => true

def validateUdpEndpointSpec (mtu : Nat) (capabilities : UdpCapabilities)
    (spec : UdpEndpointSpec) : Except Error UdpEndpointInfo :=
  let info : UdpEndpointInfo :=
    { mtu := mtu, payloadLen := spec.payloadLen, gsoSegmentSize := spec.gsoSegmentSize }
  if spec.sourceIp.any fun source => !sameIpFamily source spec.destination.ip then
    .error .invalidPacket
  else
    match spec.gsoSegmentSize with
    | some segmentSize =>
      if !capabilities.gso then
        .error .invalidPacket
      else if segmentSize.toNat > mtu then
        .error .oversizeForMtu
      else if !segmentsFit spec.payloadLen capabilities.maxGsoSegments segmentSize.toNat then
        .error .oversizeForMtu
      else
        .ok info
    | none =>
      if spec.payloadLen.any (· > mtu) then .error .oversizeForMtu else .ok info

def prepareGenericUdpEndpoint (mtu : Nat) (capabilities : UdpCapabilities)
    (spec : UdpEndpointSpec) : Except Error GenericUdpEndpoint :=
  (validateUdpEndpointSpec mtu capabilities spec).map fun info => { spec := spec, info := info }

def validateUdpEndpointPacket (info : UdpEndpointInfo) (payloadLen : Nat) : Except Error Unit :=
  if info.payloadLen.any fun expected => payloadLen ≠ expected then
    .error .invalidPacket
  else if info.gsoSegmentSize = none ∧ payloadLen > info.mtu then
    .error .oversizeForMtu
  else
    .ok ()

/-! ## Sending -/

variable {σ α β : Type}

/-- A send call of a socket with its state: the result, and the batch as it is left.  A
call without an outcome stops the program. -/
abbrev SendCall (σ α : Type) :=
  List (TxSlot α) → StateT σ Option (Except SendError Nat × List (TxSlot α))

/-- The datagram of an endpoint with a packet. -/
def UdpEndpointSpec.toTransmit (spec : UdpEndpointSpec) (packet : β) : UdpTransmit β :=
  { packet := packet
    destination := spec.destination
    sourceIp := spec.sourceIp
    sourcePort := spec.sourcePort
    ecn := spec.ecn
    gsoSegmentSize := spec.gsoSegmentSize.map BitVec.toNat }

section Send

variable (len : β → Nat)

/-- The number of leading valid slots, and the error of the slot behind them. -/
def readyPrefix (info : UdpEndpointInfo) :
    List (TxSlot (UdpEndpointTransmit β)) → Nat × Option Error
  | [] => (0, none)
  | .taken :: _ => (0, some .invalidBatch)
  | .ready tx :: rest =>
    match validateUdpEndpointPacket info (len tx.packet) with
    | .error kind => (0, some kind)
    | .ok _ =>
      let (prefixLen, deferred) := readyPrefix info rest
      (prefixLen + 1, deferred)

/-- Takes the packets out of leading slots; a slot without one would stop the program. -/
def convertSlots (spec : UdpEndpointSpec) :
    (prefixLen : Nat) → List (TxSlot (UdpEndpointTransmit β)) →
      Option (List (TxSlot (UdpTransmit β)) × List (TxSlot (UdpEndpointTransmit β)))
  | 0, batch => some ([], batch)
  | _ + 1, [] => some ([], [])
  | _ + 1, .taken :: _ => none
  | prefixLen + 1, .ready tx :: rest =>
    (convertSlots spec prefixLen rest).map fun moved =>
      (.ready (spec.toTransmit tx.packet) :: moved.1, .taken :: moved.2)

/-- Puts packets back into the slots at their positions. -/
def restoreSlots :
    List (TxSlot (UdpEndpointTransmit β)) → List (TxSlot (UdpTransmit β)) →
      List (TxSlot (UdpEndpointTransmit β))
  | slot :: batch, .taken :: converted => slot :: restoreSlots batch converted
  | _ :: batch, .ready tx :: converted =>
    .ready { packet := tx.packet } :: restoreSlots batch converted
  | batch, _ => batch

def restoreUnacceptedEndpointSlots (batch : List (TxSlot (UdpEndpointTransmit β)))
    (converted : List (TxSlot (UdpTransmit β))) (accepted : Nat) :
    List (TxSlot (UdpEndpointTransmit β)) :=
  batch.take accepted ++ restoreSlots (batch.drop accepted) (converted.drop accepted)

/-- Sends a batch through a generic endpoint. -/
def sendGenericUdpEndpoint (send : SendCall σ (UdpTransmit β)) (endpoint : GenericUdpEndpoint) :
    SendCall σ (UdpEndpointTransmit β) :=
  fun batch => do
    let (prefixLen, deferred) := readyPrefix len endpoint.info batch
    if prefixLen = 0 then
      return (sendResult 0 (deferredResult deferred), batch)
    else
      let (converted, batch) ← StateT.lift (convertSlots endpoint.spec prefixLen batch)
      let (result, converted) ← send converted
      match result with
      | .ok accepted =>
        let batch := restoreUnacceptedEndpointSlots batch converted accepted
        if accepted < prefixLen then
          return (.ok accepted, batch)
        else
          return (sendResult prefixLen (deferredResult deferred), batch)
      | .error failure =>
        return (.error failure, restoreUnacceptedEndpointSlots batch converted failure.accepted)

end Send

end FastSocket.Packet
