import FastSocket.Os.ReceiveSlots

/-!
# The packets of a receive call

A message is handed on when it is not truncated and has a source that can be read.  A call
hands on the packets of these messages in their order, takes exactly their buffers from the
slots, and never stops the program.
-/

namespace FastSocket.Os

open Packet Buffer Transition

/-! ## Stale bytes -/

variable {stale name : List Byte} {offset size : Nat}

theorem drop_take_copyAt (inside : offset + size ≤ name.length) :
    ((copyAt stale 0 name).drop offset).take size = (name.drop offset).take size := by
  rw [copyAt, List.take_zero, List.nil_append, List.drop_append_of_le_length (by omega),
    List.take_append_of_le_length]
  rw [List.length_drop]
  omega

theorem readNe_copyAt (inside : offset + size ≤ name.length) :
    readNe (copyAt stale 0 name) offset size = readNe name offset size := by
  rw [readNe, readNe, drop_take_copyAt inside]

theorem readBeU16_copyAt (inside : offset + 2 ≤ name.length) :
    readBeU16 (copyAt stale 0 name) offset = readBeU16 name offset := by
  simp only [readBeU16, copyAt, List.take_zero, List.nil_append, List.getD_eq_getElem?_getD]
  rw [List.getElem?_append_left (by omega), List.getElem?_append_left (by omega)]

/-- The source of a message does not depend on what its slot held before. -/
theorem socketaddrFromRaw_copyAt (stale name : List Byte) :
    socketaddrFromRaw (copyAt stale 0 name) name.length = socketaddrFromRaw name name.length := by
  rw [socketaddrFromRaw, socketaddrFromRaw]
  by_cases short : name.length < sockaddrInLen
  · have below : name.length < sockaddrIn6Len := Nat.lt_trans short (by decide)
    simp only [Nat.not_le_of_lt short, Nat.not_le_of_lt below, and_false, if_false]
  · have long : 16 ≤ name.length := Nat.not_lt.mp short
    have fields : readNe (copyAt stale 0 name) 0 2 = readNe name 0 2 ∧
        readBeU16 (copyAt stale 0 name) 2 = readBeU16 name 2 ∧
        ((copyAt stale 0 name).drop 4).take 4 = (name.drop 4).take 4 :=
      ⟨readNe_copyAt (by omega), readBeU16_copyAt (by omega), drop_take_copyAt (by omega)⟩
    rw [fields.1, fields.2.1, fields.2.2]
    by_cases long6 : sockaddrIn6Len ≤ name.length
    · have bound : 28 ≤ name.length := long6
      rw [drop_take_copyAt (by omega), readNe_copyAt (by omega), readNe_copyAt (by omega)]
    · simp only [ge_iff_le, long6, and_false, if_false]

/-! ## Accepted messages -/

/-- The source of a message that is handed on. -/
def KernelMessage.accepted (message : KernelMessage) : Option SocketAddr :=
  if message.truncated then none else socketaddrFromRaw message.name message.name.length

/-- What the application is told about a message. -/
def KernelMessage.info (localPort : Word) (message : KernelMessage) (source : SocketAddr) :
    UdpRecvMeta :=
  { source := source
    destination := parsePktinfoDestination message.control
    destinationPort := some localPort
    ecn := none
    len := message.data.length
    groStride := none }

/-- A buffer with received data as its packet. -/
def RxBuffer.received (buffer : RxBuffer) (data : List Byte) : RxBuffer :=
  { buffer with
    packet := { (buffer.copyData data).packet with
      start := buffer.packet.layout.dataOffset
      stop := buffer.packet.layout.dataOffset + data.length } }

/-- The packet of a slot and its message, if it is handed on. -/
def deliver? (localPort : Word) (pair : RecvSlot × KernelMessage) : Option UdpReceive :=
  pair.2.accepted.bind fun source =>
    pair.1.buffer.map fun buffer =>
      { packet := buffer.received pair.2.data, info := pair.2.info localPort source }

/-- A slot after its message was handed on or dropped. -/
def afterMessage (pair : RecvSlot × KernelMessage) : RecvSlot :=
  match pair.2.accepted with
  | none => pair.1.received pair.2
  | some _ => { pair.1.received pair.2 with buffer := none }

section Receive

variable {layout : BufferLayout} {buffer : RxBuffer} {data : List Byte}
  {pair : RecvSlot × KernelMessage} {slot : RecvSlot} {message : KernelMessage} {localPort : Word}
  {pairs : List (RecvSlot × KernelMessage)}

/-- The bytes of a packet are the data of its message. -/
theorem RxBuffer.asSlice_received (wellFormed : layout.WellFormed)
    (isLayout : buffer.packet.layout = layout)
    (sized : PacketStorage.capacity buffer.packet.storage = layout.chunkSize)
    (fits : data.length ≤ layout.payloadCapacity) :
    (buffer.received data).packet.asSlice = .ok data := by
  subst isLayout
  have inside : buffer.packet.layout.dataOffset ≤ buffer.packet.storage.vec.length := by
    change buffer.packet.storage.vec.length = _ at sized
    rw [sized]
    exact Nat.le_of_add_right_le wellFormed.dataOffset_bounds.2
  have occupies : Window.Occupies (buffer.received data).packet.storage.vec
      (buffer.received data).packet.start (buffer.received data).packet.stop data :=
    ⟨_, _, rfl, List.length_take_of_le inside, rfl⟩
  have within := @PacketInner.within_of_occupies OsStorage _ (buffer.received data).packet data
    wellFormed.dataOffset_bounds.1 occupies
  rw [within.asSlice_eq, PacketInner.room_eq occupies]

/-- A posted slot and the message for it. -/
structure Arrives (layout : BufferLayout) (pair : RecvSlot × KernelMessage) : Prop where
  sized : pair.1.Sized layout
  posted : pair.1.Posted layout
  fits : pair.2.Fits pair.1

theorem Arrives.length_le (arrives : Arrives layout pair) :
    pair.2.data.length ≤ layout.payloadCapacity := by
  rw [← arrives.posted.len]
  exact arrives.fits.1

theorem source_received (slot : RecvSlot) (message : KernelMessage) :
    socketaddrFromRaw (slot.received message).name (slot.received message).hdr.namelen =
      socketaddrFromRaw message.name message.name.length :=
  socketaddrFromRaw_copyAt slot.name message.name

theorem setReceivedLen_copyData (fits : data.length ≤ buffer.packet.layout.payloadCapacity) :
    OsPacketBufMut.setReceivedLen (buffer.copyData data).packet data.length =
      (.ok (), (buffer.received data).packet) :=
  if_neg (Nat.not_lt.mpr fits)

theorem afterMessage_of_none (rejected : message.accepted = none) :
    afterMessage (slot, message) = slot.received message := by
  rw [afterMessage, rejected]

theorem deliver?_of_none (rejected : message.accepted = none) :
    deliver? localPort (slot, message) = none := by
  rw [deliver?, rejected]
  rfl

section Loop

variable {rest : List RecvSlot} {room : Nat}

theorem receiveSlots_cons_of_truncated (truncated : slot.hdr.truncated) :
    receiveSlots localPort (slot :: rest) room =
      let later := receiveSlots localPort rest room
      { later with slots := slot :: later.slots, hadTruncation := true } := by
  rw [receiveSlots, if_pos truncated]

theorem receiveSlots_cons_of_none (whole : ¬ slot.hdr.truncated)
    (unusable : socketaddrFromRaw slot.name slot.hdr.namelen = none) :
    receiveSlots localPort (slot :: rest) room =
      let later := receiveSlots localPort rest room
      { later with slots := slot :: later.slots } := by
  rw [receiveSlots, if_neg whole, unusable]

theorem receiveSlots_cons_of_some {source : SocketAddr} {packet : OsPacketBufMut}
    (whole : ¬ slot.hdr.truncated)
    (isSource : socketaddrFromRaw slot.name slot.hdr.namelen = some source)
    (kept : slot.buffer = some buffer)
    (received : buffer.packet.setReceivedLen slot.hdr.len = (.ok (), packet)) :
    receiveSlots localPort (slot :: rest) (room + 1) =
      let later := receiveSlots localPort rest room
      { later with
        slots := { slot with buffer := none } :: later.slots
        packets := {
          packet := { buffer with packet := packet }
          info := {
            source := source
            destination := parsePktinfoDestination slot.hdr.control
            destinationPort := some localPort
            ecn := none
            len := slot.hdr.len
            groStride := none } } :: later.packets } := by
  rw [receiveSlots, if_neg whole, isSource]
  simp only [kept, received]

end Loop

/-- The loop over the received slots hands on the accepted messages. -/
theorem receiveSlots_eq (localPort : Word) {room : Nat}
    (arrive : ∀ pair ∈ pairs, Arrives layout pair) (fits : pairs.length ≤ room) :
    receiveSlots localPort (pairs.map fun pair => pair.1.received pair.2) room =
      { slots := pairs.map afterMessage
        packets := pairs.filterMap (deliver? localPort)
        hadTruncation := pairs.any fun pair => pair.2.truncated
        stop := none
        dropped := none } := by
  induction pairs generalizing room with
  | nil => rfl
  | cons pair rest ih =>
    obtain ⟨first, others⟩ := List.forall_mem_cons.mp arrive
    obtain ⟨slot, message⟩ := pair
    obtain ⟨room, rfl⟩ := Nat.exists_eq_add_of_le' (Nat.le_of_add_left_le fits)
    have later := ih others (Nat.le_of_succ_le fits)
    have isSource := source_received slot message
    rw [List.map_cons, List.map_cons, List.any_cons]
    dsimp only
    by_cases truncated : message.truncated
    · have rejected : message.accepted = none := if_pos truncated
      rw [@receiveSlots_cons_of_truncated (slot.received message) _ _ _ truncated, later,
        afterMessage_of_none rejected, List.filterMap_cons_none (deliver?_of_none rejected),
        truncated, Bool.true_or]
    · have isAccepted : message.accepted =
          socketaddrFromRaw message.name message.name.length := if_neg truncated
      rw [Bool.eq_false_iff.mpr truncated, Bool.false_or]
      rw [← isAccepted] at isSource
      cases accepted : message.accepted with
      | none =>
        rw [receiveSlots_cons_of_none truncated (isSource.trans accepted), later,
          afterMessage_of_none accepted, List.filterMap_cons_none (deliver?_of_none accepted)]
      | some source =>
        obtain ⟨buffer, kept⟩ := Option.isSome_iff_exists.mp first.posted.ready
        have bound : message.data.length ≤ buffer.packet.layout.payloadCapacity := by
          rw [(first.sized.buffer buffer kept).1]
          exact first.length_le
        have keptData : (slot.received message).buffer = some (buffer.copyData message.data) :=
          congrArg (Option.map (RxBuffer.copyData · message.data)) kept
        have after : afterMessage (slot, message) =
            { slot.received message with buffer := none } := by
          rw [afterMessage, accepted]
        have delivered : deliver? localPort (slot, message) = some
            ⟨buffer.received message.data, message.info localPort source⟩ := by
          rw [deliver?, accepted, kept]
          rfl
        rw [receiveSlots_cons_of_some truncated (isSource.trans accepted) keptData
            (setReceivedLen_copyData bound), ih others (Nat.le_of_succ_le_succ fits), after,
          List.filterMap_cons_some delivered]
        rfl

/-- What the application reads of a packet: its bytes and its source. -/
def UdpReceive.content (receive : UdpReceive) : Except BufferFault (List Byte) × SocketAddr :=
  (receive.packet.packet.asSlice, receive.info.source)

/-- The bytes and the source of a message that is handed on. -/
def KernelMessage.content (message : KernelMessage) : Option (List Byte × SocketAddr) :=
  message.accepted.map (message.data, ·)

theorem content_deliver? (wellFormed : layout.WellFormed) (arrives : Arrives layout pair) :
    (deliver? localPort pair).map UdpReceive.content =
      pair.2.content.map (Prod.map .ok id) := by
  obtain ⟨slot, message⟩ := pair
  obtain ⟨buffer, kept⟩ := Option.isSome_iff_exists.mp arrives.posted.ready
  obtain ⟨isLayout, sized⟩ := arrives.sized.buffer buffer kept
  rw [deliver?, KernelMessage.content, kept]
  cases message.accepted with
  | none => rfl
  | some source =>
    have bytes := RxBuffer.asSlice_received wellFormed isLayout sized arrives.length_le
    exact congrArg (fun slice => some (slice, source)) bytes

/-- The packets of a call have the bytes and the sources of the accepted messages, in
order. -/
theorem map_content_deliver? (localPort : Word) (wellFormed : layout.WellFormed)
    (arrive : ∀ pair ∈ pairs, Arrives layout pair) :
    (pairs.filterMap (deliver? localPort)).map UdpReceive.content =
      ((pairs.map Prod.snd).filterMap KernelMessage.content).map (Prod.map .ok id) := by
  rw [List.map_filterMap, List.map_filterMap, List.filterMap_map]
  apply List.filterMap_congr
  intro pair member
  exact content_deliver? wellFormed (arrive pair member)

/-! ## What a call does -/

/-- The result of a loop that came to its end. -/
def receivedResult (packets : List UdpReceive) (messages : List KernelMessage) :
    Except (Stop Error) Nat :=
  if packets.length = 0 ∧ messages.any KernelMessage.truncated then
    .error (.failed .truncated)
  else
    .ok packets.length

/-- A call that has handed over messages. -/
def OsUdpSocket.afterMessages (socket : OsUdpSocket) (posted : List RecvSlot)
    (messages : List KernelMessage) : RecvOutcome :=
  let packets := (posted.zip messages).filterMap (deliver? socket.localPort)
  { result := receivedResult packets messages
    packets := packets
    requested := some posted.length
    socket := { socket with
      slots := (posted.zip messages).map afterMessage ++ posted.drop messages.length ++
        socket.slots.drop posted.length } }

/-- With posted slots of their own, the messages of a call are handed on or dropped one by
one. -/
theorem receivePosted_of_messages {socket : OsUdpSocket} {calls : List RecvResult}
    {remaining : Nat} {posted : List RecvSlot} {messages : List KernelMessage}
    (answered : retryRecv calls = some (.ok messages)) (few : messages.length ≤ posted.length)
    (arrive : ∀ pair ∈ posted.zip messages, Arrives layout pair)
    (isPosted : ∀ slot ∈ posted, slot.Posted layout) (distinct : (prepared posted).Nodup)
    (room : posted.length ≤ remaining) :
    socket.receivePosted calls remaining posted = some (socket.afterMessages posted messages) := by
  have fits : messages.length ≤ posted.length ∧
      ∀ pair ∈ posted.zip messages, pair.2.Fits pair.1 :=
    ⟨few, fun pair member => (arrive pair member).fits⟩
  have short : (posted.zip messages).length ≤ remaining := by
    rw [List.length_zip]
    omega
  have slots : recvmmsg posted messages =
      (posted.zip messages).map (fun pair => pair.1.received pair.2) ++
        posted.drop messages.length := by
    rw [recvmmsg_eq messages isPosted distinct, List.map_zip_eq_zipWith]
    rfl
  have length : ((posted.zip messages).map fun pair => pair.1.received pair.2).length =
      messages.length := by
    rw [List.length_map, List.length_zip]
    omega
  rw [OsUdpSocket.receivePosted, answered]
  simp only [if_pos fits]
  rw [slots, List.take_left' length, List.drop_left' length,
    receiveSlots_eq socket.localPort arrive short]
  have truncations : (posted.zip messages).any (fun pair => pair.2.truncated) =
      messages.any KernelMessage.truncated := by
    have seconds := List.map_snd_zip few
    conv_rhs => rw [← seconds, List.any_map]
    rfl
  rw [OsUdpSocket.afterMessages, receivedResult, ← truncations]
  rfl

end Receive

end FastSocket.Os
