import FastSocket.Os.Sender
import FastSocket.Transition.Fallible

/-!
# The options of a transmit slot

A socket hands its datagrams to the kernel without control data, so the kernel fills in all
the metadata of the datagrams that leave.  A send has to reject a slot that asks for anything
else.  It does so for every option but the source port, which it does not look at.
-/

namespace FastSocket.Os

open Packet Transition

/-! ## Datagrams on the wire -/

/-- A datagram that leaves the host. -/
structure WireDatagram where
  source : IpAddr
  sourcePort : Word
  destination : SocketAddr
  ecn : EcnCodepoint
  segmentSize : Option Nat
  payload : List Byte
deriving DecidableEq, Repr

/-- The datagram that leaves for a message without control data: from the port that the
socket is bound to and an address that the kernel selects for the destination, with the
default codepoint and in one piece. -/
def Datagram.wire (message : Datagram) (selectSource : SocketAddr → IpAddr) (port : Word) :
    WireDatagram :=
  { source := selectSource message.destination
    sourcePort := port
    destination := message.destination
    ecn := .notEct
    segmentSize := none
    payload := message.payload }

/-- A datagram is the one that a slot asks for. -/
structure WireDatagram.Honours (wire : WireDatagram) (tx : UdpTransmit (List Byte)) : Prop where
  payload : wire.payload = tx.packet
  destination : wire.destination = tx.destination
  sourcePort : ∀ port ∈ tx.sourcePort, wire.sourcePort = port
  sourceIp : ∀ ip ∈ tx.sourceIp, wire.source = ip
  ecn : ∀ codepoint ∈ tx.ecn, wire.ecn = codepoint
  segmented : ∀ size ∈ tx.gsoSegmentSize, wire.segmentSize = some size

/-- A socket on a port can do what a slot asks for. -/
structure CanHonour (port : Word) (tx : UdpTransmit (List Byte)) : Prop where
  sourcePort : ∀ asked ∈ tx.sourcePort, asked = port
  sourceIp : tx.sourceIp = none
  ecn : tx.ecn = none
  segmented : tx.gsoSegmentSize = none

/-- The slots that pass the checks ask for no other source port. -/
def AskForPort (port : Word) (mtu : Nat) (batch : List Slot) : Prop :=
  ∀ tx, .ready tx ∈ batch.takeWhile (passes mtu) → ∀ asked ∈ tx.sourcePort, asked = port

variable {tx : UdpTransmit (List Byte)} {count : Nat} {result : Except SendError Nat}

section Honoured

variable {α : Type} (port : Word) (selectSource : SocketAddr → IpAddr)
  (options : α → UdpTransmit (List Byte))

/-- What becomes of a batch: the accepted slots leave as one datagram each with the options
that they ask for, a slot that cannot be honoured is ready as before, and a send that gets
to one reports an error. -/
structure Honoured (batch left : List (TxSlot α)) (result : Except SendError Nat)
    (messages : List Datagram) : Prop where
  accepted : List.Forall₂
    (fun slot message => ∃ tx, slot = .ready tx ∧
      (message.wire selectSource port).Honours (options tx))
    (batch.take (acceptedCount result)) messages
  refused : ∀ (index : Nat) (tx : α), batch[index]? = some (.ready tx) → ¬CanHonour port (options tx) →
    left[index]? = some (.ready tx)
  reported : ∀ tx, batch[acceptedCount result]? = some (.ready tx) →
    ¬CanHonour port (options tx) → errorKind result ≠ none

variable {port selectSource options} {batch : List (TxSlot α)}

theorem Datagram.honours_of_canHonour (can : CanHonour port tx)
    (selectSource : SocketAddr → IpAddr) :
    (Datagram.wire ⟨tx.destination, tx.packet⟩ selectSource port).Honours tx where
  payload := rfl
  destination := rfl
  sourcePort asked member := (can.sourcePort asked member).symm
  sourceIp := by
    rw [can.sourceIp]
    rintro _ ⟨⟩
  ecn := by
    rw [can.ecn]
    rintro _ ⟨⟩
  segmented := by
    rw [can.segmented]
    rintro _ ⟨⟩

theorem getElem?_takeSlots_of_le {index : Nat} (behind : count ≤ index) :
    (Packet.takeSlots count batch)[index]? = batch[index]? := by
  rw [Packet.takeSlots, List.getElem?_append_right (by rwa [List.length_replicate]),
    List.length_replicate, List.getElem?_drop, Nat.add_sub_cancel' behind]

/-- It is enough that every accepted slot can be honoured. -/
theorem Honoured.of_canHonour {messages : List Datagram} {accepted : Nat}
    (count : acceptedCount result = accepted) (can : List.Forall₂
      (fun slot message => ∃ tx, slot = .ready tx ∧ CanHonour port (options tx) ∧
        message = ⟨(options tx).destination, (options tx).packet⟩)
      (batch.take accepted) messages) (reported : ∀ tx, batch[accepted]? = some (.ready tx) →
      ¬CanHonour port (options tx) → errorKind result ≠ none) :
    Honoured port selectSource options batch (Packet.takeSlots accepted batch) result
      messages where
  accepted := by
    rw [count]
    apply can.imp
    rintro slot message ⟨tx, ready, canHonour, rfl⟩
    exact ⟨tx, ready, Datagram.honours_of_canHonour canHonour selectSource⟩
  refused index tx ready cannot := by
    by_cases taken : index < accepted
    · have member : .ready tx ∈ batch.take accepted := by
        apply List.mem_of_getElem? (i := index)
        rw [List.getElem?_take_of_lt taken, ready]
      obtain ⟨message, _, tx', same, canHonour, _⟩ := exists_of_mem_forall₂ can.flip member
      cases same
      exact absurd canHonour cannot
    · rw [getElem?_takeSlots_of_le (Nat.le_of_not_lt taken), ready]
  reported := by
    rw [count]
    exact reported

end Honoured

/-! ## Slots that pass the checks -/

section Passes

variable {port : Word} {mtu : Nat} {batch : List Slot} {messages : List Datagram}
  {stop : Except Error Unit} {slot : Slot} {message : Datagram}

theorem validate_eq_ok (valid : validate mtu slot = .ok message) :
    ∃ tx, slot = .ready tx ∧ hasUnsupportedTxOptions tx = false ∧
      message = ⟨tx.destination, tx.packet⟩ := by
  cases slot with
  | taken => cases valid
  | ready tx =>
    rw [validate] at valid
    split at valid
    · cases valid
    · split at valid
      case isTrue => cases valid
      case isFalse supported =>
        cases valid
        exact ⟨tx, rfl, Bool.eq_false_iff.mpr supported, rfl⟩

theorem passes_of_validate (valid : validate mtu slot = .ok message) : passes mtu slot = true := by
  rw [passes, valid]
  rfl

theorem canHonour_of_supported (supported : hasUnsupportedTxOptions tx = false)
    (sourcePort : ∀ asked ∈ tx.sourcePort, asked = port) : CanHonour port tx := by
  simp only [hasUnsupportedTxOptions, Bool.or_eq_false_iff, Option.isSome_eq_false_iff,
    Option.isNone_iff_eq_none] at supported
  exact ⟨sourcePort, supported.1.1, supported.1.2, supported.2⟩

/-- The messages of a send are those of the slots that it takes. -/
theorem Delivers.forall₂ (delivers : Delivers mtu batch messages stop) :
    List.Forall₂ (fun slot message => validate mtu slot = .ok message)
      (batch.take messages.length) messages := by
  have same : List.Forall₂ (· = ·) ((batch.take messages.length).map (validate mtu))
      (messages.map .ok) := by
    rw [delivers.valid]
    exact List.forall₂_refl _
  rwa [List.forall₂_map_left_iff, List.forall₂_map_right_iff] at same

theorem Delivers.passes_of_mem (delivers : Delivers mtu batch messages stop)
    (member : slot ∈ batch.take messages.length) : passes mtu slot = true := by
  obtain ⟨message, _, valid⟩ := exists_of_mem_forall₂ delivers.forall₂.flip member
  exact passes_of_validate valid

theorem mem_takeWhile_of_mem_take (pass : ∀ slot ∈ batch.take count, passes mtu slot = true)
    (member : slot ∈ batch.take count) : slot ∈ batch.takeWhile (passes mtu) := by
  rw [← List.take_append_drop count batch, List.takeWhile_append_of_pos pass]
  exact List.mem_append_left _ member

/-- What a send takes can be honoured if it asks for the port of the socket. -/
theorem Delivers.canHonour (delivers : Delivers mtu batch messages stop)
    (asks : AskForPort port mtu batch) :
    List.Forall₂
      (fun slot message => ∃ tx, slot = .ready tx ∧ CanHonour port tx ∧
        message = ⟨tx.destination, tx.packet⟩)
      (batch.take messages.length) messages := by
  have members : ∀ slot ∈ batch.take messages.length, slot ∈ batch.takeWhile (passes mtu) :=
    fun slot => mem_takeWhile_of_mem_take fun _ => delivers.passes_of_mem
  apply ((List.forall₂_and_left _ _).mpr ⟨members, delivers.forall₂⟩).imp
  rintro slot message ⟨member, valid⟩
  obtain ⟨tx, rfl, supported, isMessage⟩ := validate_eq_ok valid
  exact ⟨tx, rfl, canHonour_of_supported supported (asks tx member), isMessage⟩

/-- A send that gets to a slot that cannot be honoured stops with an error. -/
theorem Delivers.stops_of_cannot (delivers : Delivers mtu batch messages stop)
    (asks : AskForPort port mtu batch) (next : batch[messages.length]? = some (.ready tx))
    (cannot : ¬CanHonour port tx) : ∃ kind, stop = .error kind := by
  cases valid : validate mtu (.ready tx) with
  | error kind => exact ⟨kind, delivers.stops _ kind next valid⟩
  | ok message =>
    have pass : ∀ slot ∈ batch.take (messages.length + 1), passes mtu slot = true := by
      intro slot member
      rw [List.take_add_one, next] at member
      rcases List.mem_append.mp member with taken | last
      · exact delivers.passes_of_mem taken
      · rw [List.mem_singleton.mp last]
        exact passes_of_validate valid
    have member : .ready tx ∈ batch.take (messages.length + 1) := by
      rw [List.take_add_one, next]
      exact List.mem_append_right _ (List.mem_singleton_self _)
    obtain ⟨_, ⟨⟩, supported, _⟩ := validate_eq_ok valid
    exact absurd (canHonour_of_supported supported
      (asks tx (mem_takeWhile_of_mem_take pass member))) cannot

end Passes

/-! ## Sends that honour or reject -/

section Send

variable {α : Type}

/-- Whatever the kernel does with a batch, the options of its slots are honoured or
rejected. -/
def HonoursOptions (port : Word) (options : α → UdpTransmit (List Byte))
    (send : Delivery → SendCall Kernel α) (batch : List (TxSlot α)) : Prop :=
  ∀ selectSource delivery, delivery.Answers → ∀ kernel, ∃ result left later messages,
    (send delivery batch).run kernel = some ((result, left), ⟨later, kernel.sent ++ messages⟩) ∧
      Honoured port selectSource options batch left result messages

theorem answers_reliable : reliable.Answers where
  never message := by rintro ⟨⟩
  limit := by decide

/-- The accepted slots of a call that honours its options ask for the port of the socket. -/
theorem HonoursOptions.asked_eq {port : Word} {options : α → UdpTransmit (List Byte)}
    {send : Delivery → SendCall Kernel α} {batch left : List (TxSlot α)}
    {result : Except SendError Nat} {after : Kernel}
    (honours : HonoursOptions port options send batch)
    (run : (send reliable batch).run ⟨[], []⟩ = some ((result, left), after)) {tx : α}
    (member : .ready tx ∈ batch.take (acceptedCount result)) :
    ∀ asked ∈ (options tx).sourcePort, asked = port := by
  obtain ⟨_, _, _, messages, honoured, outcome⟩ :=
    honours (fun _ => .v4 0#32) reliable answers_reliable ⟨[], []⟩
  rw [run] at honoured
  cases honoured
  obtain ⟨message, _, tx', same, sent⟩ := exists_of_mem_forall₂ outcome.accepted.flip member
  cases same
  exact fun asked isAsked => (sent.sourcePort asked isAsked).symm

variable (sender : Sender) (system : System)

/-- A send honours or rejects the options of its slots exactly when the slots that pass its
checks ask for the port of the socket. -/
theorem honoursOptions_send_iff (batch : List Slot) :
    HonoursOptions sender.localPort id (sender.send system) batch ↔
      AskForPort sender.localPort sender.mtu batch := by
  constructor
  · intro honours tx member
    obtain ⟨messages, stop, later, length, run⟩ :=
      sender.run_send_of_sends system answers_reliable (fun _ => rfl) batch
    apply honours.asked_eq run
    rw [acceptedCount_sendResult, length,
      ← List.prefix_iff_eq_take.mp (List.takeWhile_prefix _)]
    exact member
  · intro asks selectSource delivery answers kernel
    obtain ⟨messages, stop, later, delivers, run⟩ := sender.run_send system answers batch kernel
    refine ⟨_, _, later, messages, run, ?_⟩
    apply Honoured.of_canHonour (acceptedCount_sendResult _ _) (delivers.canHonour asks)
    intro tx next cannot
    obtain ⟨kind, rfl⟩ := delivers.stops_of_cannot asks next cannot
    rintro ⟨⟩

variable (endpoint : GenericUdpEndpoint) (batch : List (TxSlot (UdpEndpointTransmit (List Byte))))

/-- What the slots that an endpoint hands to the socket ask for. -/
def EndpointAsksForPort : Prop :=
  AskForPort sender.localPort sender.mtu
    ((validSlots List.length endpoint.info batch).map (transmitSlot endpoint.spec))

variable {sender endpoint batch}

theorem EndpointAsksForPort.of_honours
    (honours : HonoursOptions sender.localPort (fun tx => endpoint.spec.toTransmit tx.packet)
      (sender.sendToUdpEndpoint system endpoint) batch) :
    EndpointAsksForPort sender endpoint batch := by
  intro tx member
  have nonempty : validSlots List.length endpoint.info batch ≠ [] := by
    rintro empty
    rw [empty] at member
    cases member
  obtain ⟨messages, stop, later, length, run⟩ := sender.run_send_of_sends system
    answers_reliable (fun _ => rfl)
    ((validSlots List.length endpoint.info batch).map (transmitSlot endpoint.spec))
  have leading := List.prefix_iff_eq_take.mp (@List.takeWhile_prefix _
    ((validSlots List.length endpoint.info batch).map (transmitSlot endpoint.spec))
    (passes sender.mtu))
  have few : messages.length ≤ (validSlots List.length endpoint.info batch).length := by
    rw [length, ← List.length_map (transmitSlot endpoint.spec)]
    exact (List.takeWhile_prefix _).length_le
  rw [leading, ← length, take_map_validSlots _ few] at member
  obtain ⟨result, endpointRun, accepted, _⟩ := run_sendGenericUdpEndpoint_of_sent
    (acceptedCount_sendResult messages.length stop) nonempty run few
  obtain ⟨slot, isSlot, same⟩ := List.mem_map.mp member
  cases slot with
  | taken => cases same
  | ready tx' =>
    cases same
    rw [← accepted] at isSlot
    exact honours.asked_eq endpointRun isSlot

theorem EndpointAsksForPort.honours (asks : EndpointAsksForPort sender endpoint batch) :
    HonoursOptions sender.localPort (fun tx => endpoint.spec.toTransmit tx.packet)
      (sender.sendToUdpEndpoint system endpoint) batch := by
  intro selectSource delivery answers kernel
  by_cases empty : validSlots List.length endpoint.info batch = []
  · refine ⟨sendResult 0 (deferredResult (firstError List.length endpoint.info batch)),
      Packet.takeSlots 0 batch, kernel.interruptions, [], ?_, ?_⟩
    · rw [List.append_nil]
      exact run_sendGenericUdpEndpoint_of_nil empty kernel
    · apply Honoured.of_canHonour (acceptedCount_sendResult 0 _) .nil
      intro tx next _
      rw [errorKind_sendResult]
      apply @firstError_ne_none _ _ _ (.ready tx)
      rw [empty]
      exact next
  · obtain ⟨messages, stop, later, delivers, run⟩ := sender.run_send system answers
      ((validSlots List.length endpoint.info batch).map (transmitSlot endpoint.spec)) kernel
    have few := delivers.length_le
    have can := delivers.canHonour asks
    rw [List.length_map] at few
    rw [take_map_validSlots _ few] at can
    obtain ⟨result, endpointRun, accepted, error⟩ := run_sendGenericUdpEndpoint_of_sent
      (acceptedCount_sendResult messages.length stop) empty run few
    refine ⟨_, _, later, messages, endpointRun, ?_⟩
    apply Honoured.of_canHonour accepted
    · rw [List.forall₂_map_left_iff] at can
      apply can.imp
      rintro (tx | _) message ⟨_, ⟨⟩, canHonour, isMessage⟩
      exact ⟨tx, rfl, canHonour, isMessage⟩
    · intro tx next cannot
      rw [error]
      by_cases all : messages.length = (validSlots List.length endpoint.info batch).length
      · rw [if_pos all]
        have refused := firstError_ne_none (all ▸ next)
        exact fun noError => refused (Option.or_eq_none_iff.mp noError).2
      · have inside : messages.length < (validSlots List.length endpoint.info batch).length :=
          Nat.lt_of_le_of_ne few all
        obtain ⟨kind, rfl⟩ := delivers.stops_of_cannot asks
          (getElem?_map_validSlots (transmitSlot endpoint.spec) inside next) cannot
        rintro ⟨⟩

end Send

/-- Sends honour or reject the options of the slots exactly when the slots that pass the
checks ask for the port of the socket, with or without an endpoint. -/
theorem transmit_options_honoured_iff (sender : Sender) (system : System) :
    (∀ batch, HonoursOptions sender.localPort id (sender.send system) batch ↔
      AskForPort sender.localPort sender.mtu batch) ∧
    ∀ (endpoint : GenericUdpEndpoint) batch,
      HonoursOptions sender.localPort (fun tx => endpoint.spec.toTransmit tx.packet)
          (sender.sendToUdpEndpoint system endpoint) batch ↔
        EndpointAsksForPort sender endpoint batch := by
  constructor
  · exact honoursOptions_send_iff sender system
  · intro endpoint batch
    constructor
    · exact EndpointAsksForPort.of_honours system
    · exact EndpointAsksForPort.honours system

def sampleSender : Sender where
  localPort := 9#16
  mtu := 1500
  maxBatch := 64
  positive := by decide

/-- A request for datagrams from another port than the one of the socket. -/
def otherPortSpec : UdpEndpointSpec where
  destination := .v4 ⟨1#32, 9#16⟩
  sourceIp := none
  sourcePort := some 10#16
  ecn := none
  gsoSegmentSize := none
  payloadLen := none

def otherPortEndpoint : GenericUdpEndpoint where
  spec := otherPortSpec
  info := { mtu := 1500, payloadLen := none, gsoSegmentSize := none }

/-- A slot that asks for another port is accepted, and its datagram leaves from the port of
the socket.  So is one that is sent through an endpoint for the other port, which can be
prepared. -/
theorem other_port_accepted :
    (sampleSender.send .linux reliable [.ready (otherPortSpec.toTransmit [1#8])]).run ⟨[], []⟩ =
        some ((.ok 1, [.taken]), ⟨[], [⟨.v4 ⟨1#32, 9#16⟩, [1#8]⟩]⟩) ∧
      ¬HonoursOptions sampleSender.localPort id (sampleSender.send .linux)
        [.ready (otherPortSpec.toTransmit [1#8])] ∧
      prepareGenericUdpEndpoint sampleSender.mtu .default otherPortSpec =
        .ok otherPortEndpoint ∧
      (sampleSender.sendToUdpEndpoint .linux otherPortEndpoint reliable
          [.ready ⟨[1#8]⟩]).run ⟨[], []⟩ =
        some ((.ok 1, [.taken]), ⟨[], [⟨.v4 ⟨1#32, 9#16⟩, [1#8]⟩]⟩) ∧
      ¬HonoursOptions sampleSender.localPort (fun tx => otherPortSpec.toTransmit tx.packet)
        (sampleSender.sendToUdpEndpoint .linux otherPortEndpoint) [.ready ⟨[1#8]⟩] := by
  have otherPort : ¬∀ asked ∈ otherPortSpec.sourcePort, asked = sampleSender.localPort := by
    intro same
    exact absurd (same 10#16 rfl) (by decide)
  refine ⟨rfl, ?_, rfl, rfl, ?_⟩
  · intro honours
    have asked := @HonoursOptions.asked_eq _ _ _ _ _ [.taken] (.ok 1) _ honours rfl
      (otherPortSpec.toTransmit [1#8]) List.mem_cons_self
    exact otherPort asked
  · intro honours
    have asked := @HonoursOptions.asked_eq _ _ _ _ _ [.taken] (.ok 1) _ honours rfl ⟨[1#8]⟩
      List.mem_cons_self
    exact otherPort asked

end FastSocket.Os
