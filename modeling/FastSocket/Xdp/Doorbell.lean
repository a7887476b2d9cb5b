import FastSocket.Xdp.SocketFrames

/-!
# The TX doorbell

A kernel that has parked the TX ring asks for a doorbell.  A send that publishes a
frame rings it, and also makes up for a doorbell that failed.  A send that finds the
ring full returns before it comes to the doorbell.
-/

namespace FastSocket.Xdp

open Packet Spsc Transition

variable {κ α : Type}

/-- The ring has descriptors that the kernel has not taken, and the kernel asks for a
doorbell or missed one. -/
def XdpSocket.Parked (socket : XdpSocket) : Prop :=
  socket.tx.entries ≠ [] ∧ (socket.txWakePending = true ∨ socket.txNeedWakeup = true)

instance (socket : XdpSocket) : Decidable socket.Parked :=
  inferInstanceAs (Decidable (_ ∧ _))

/-- A doorbell is due, and stays so under the rest of the script. -/
def XdpSocket.Asks (socket : XdpSocket) : Prop :=
  socket.txWakePending = true ∨ socket.txNeedWakeup = true ∧
    ∀ turn ∈ socket.turns, .setTxNeedWakeup false ∉ turn.actions

/-! ## Reservation -/

/-- What the kernel does between two points of a call: it may take descriptors, and it
rings no doorbell. -/
structure Waits (source target : XdpSocket) : Prop where
  doorbells : target.doorbells = source.doorbells
  capacity : target.tx.capacity = source.tx.capacity
  entries : target.tx.entries.length ≤ source.tx.entries.length
  asks : source.Asks → target.Asks

variable {socket source middle target next : XdpSocket}

instance : Std.Refl Waits :=
  ⟨fun _ => ⟨rfl, rfl, le_refl _, id⟩⟩

instance : IsTrans XdpSocket Waits := by
  constructor
  intro source middle target first second
  exact ⟨second.doorbells.trans first.doorbells, second.capacity.trans first.capacity,
    le_trans second.entries first.entries, second.asks ∘ first.asks⟩

/-- What the environment does: the script and the missed doorbell are not its own, and
only it clears the flag that asks for a doorbell. -/
structure Signals (cleared : Prop) (source target : XdpSocket) : Prop where
  doorbells : target.doorbells = source.doorbells
  capacity : target.tx.capacity = source.tx.capacity
  entries : target.tx.entries.length ≤ source.tx.entries.length
  pending : target.txWakePending = source.txWakePending
  turns : target.turns = source.turns
  flag : ¬ cleared → source.txNeedWakeup = true → target.txNeedWakeup = true

namespace Signals

variable {cleared clearedLater : Prop}

theorem refl (socket : XdpSocket) : Signals cleared socket socket :=
  ⟨rfl, rfl, le_refl _, rfl, rfl, fun _ => id⟩

theorem trans (first : Signals cleared source middle)
    (second : Signals clearedLater middle target) :
    Signals (cleared ∨ clearedLater) source target where
  doorbells := second.doorbells.trans first.doorbells
  capacity := second.capacity.trans first.capacity
  entries := le_trans second.entries first.entries
  pending := second.pending.trans first.pending
  turns := second.turns.trans first.turns
  flag kept asked := by
    rw [not_or] at kept
    exact second.flag kept.2 (first.flag kept.1 asked)

theorem environmentStep {action : EnvironmentAction}
    (taken : socket.environmentStep action = some next) :
    Signals (.setTxNeedWakeup false = action) socket next := by
  cases action with
  | takeTx count =>
    cases taken
    refine ⟨rfl, rfl, ?_, rfl, rfl, fun _ => id⟩
    simp [ProducerQueue.entries_consume]
  | deliver index desc =>
    simp only [XdpSocket.environmentStep, Option.bind_eq_bind, Option.bind_eq_some_iff] at taken
    obtain ⟨frame, _, rx, _, taken⟩ := taken
    obtain ⟨_, ⟨⟩⟩ := Option.ite_none_right_eq_some.mp taken
    exact ⟨rfl, rfl, le_refl _, rfl, rfl, fun _ => id⟩
  | complete index =>
    simp only [XdpSocket.environmentStep, Option.bind_eq_bind, Option.bind_eq_some_iff] at taken
    obtain ⟨addr, _, completion, _, ⟨⟩⟩ := taken
    exact ⟨rfl, rfl, le_refl _, rfl, rfl, fun _ => id⟩
  | dropRemote index =>
    simp only [XdpSocket.environmentStep, Option.bind_eq_bind, Option.bind_eq_some_iff] at taken
    obtain ⟨⟨kind, frame⟩, _, reclaim, _, ⟨⟩⟩ := taken
    cases kind <;> exact ⟨rfl, rfl, le_refl _, rfl, rfl, fun _ => id⟩
  | setTxNeedWakeup value =>
    cases taken
    refine ⟨rfl, rfl, le_refl _, rfl, rfl, ?_⟩
    intro kept _
    cases value with
    | true => rfl
    | false => exact absurd rfl kept
  | takeFill count =>
    cases taken
    exact ⟨rfl, rfl, le_refl _, rfl, rfl, fun _ => id⟩
  | setFillNeedWakeup value =>
    cases taken
    exact ⟨rfl, rfl, le_refl _, rfl, rfl, fun _ => id⟩

theorem environmentSteps (actions : List EnvironmentAction) (socket : XdpSocket) :
    Signals (.setTxNeedWakeup false ∈ actions) socket (socket.environmentSteps actions) := by
  induction actions generalizing socket with
  | nil => exact .refl socket
  | cons action rest ih =>
    have first : Signals (.setTxNeedWakeup false = action) socket
        ((socket.environmentStep action).getD socket) := by
      cases taken : socket.environmentStep action with
      | none => exact .refl socket
      | some next => exact .environmentStep taken
    rw [List.mem_cons]
    exact first.trans (ih _)

end Signals

theorem waits_takeTurn (socket : XdpSocket) : Waits socket socket.takeTurn.2 := by
  rw [XdpSocket.takeTurn]
  split
  · exact refl_of Waits socket
  · next turn rest script =>
      have signals := Signals.environmentSteps turn.actions { socket with turns := rest }
      refine ⟨signals.doorbells, signals.capacity, signals.entries, ?_⟩
      rintro (missed | ⟨asked, kept⟩)
      · exact .inl (signals.pending.trans missed)
      · rw [script, List.forall_mem_cons] at kept
        refine .inr ⟨signals.flag kept.1 asked, ?_⟩
        rw [signals.turns]
        exact kept.2

theorem reserving_waits : Reserving Waits where
  turn := waits_takeTurn
  drain socket := by
    obtain ⟨_, _, _, _, _, drained⟩ := socket.reclaimCompletions_frame
    rw [drained]
    exact ⟨rfl, rfl, le_refl _, id⟩
  count socket := ⟨rfl, rfl, le_refl _, id⟩

/-- In a sound state drains find no corrupt completion. -/
theorem triple_drainTxCompletionsInner :
    Triple XdpSocket.Sound drainTxCompletionsInner
      fun result socket => socket.Sound ∧ ∃ count, result = .ok count := by
  have turned : Triple XdpSocket.Sound interleave fun _ socket => socket.Sound :=
    .modifyGet fun socket sound => (socket.shuffles_takeTurn.evolves sound).1
  refine .bind turned fun _ => .modifyGet ?_
  intro socket sound
  refine ⟨(socket.evolves_reclaimCompletions sound).1, ?_⟩
  rw [XdpSocket.reclaimCompletions_eq sound]
  exact ⟨_, rfl⟩

/-- In a sound state draining under pressure succeeds. -/
theorem triple_drainCompletionsIfTxPressure :
    Triple XdpSocket.Sound drainCompletionsIfTxPressure
      fun result socket => socket.Sound ∧ ∃ done, result = .ok done := by
  refine .bind (.get fun _ sound => sound) fun _ => .ite (fun _ => ?_) fun _ =>
    .pure fun _ sound => ⟨sound, (), rfl⟩
  refine .bind triple_drainTxCompletionsInner ?_
  rintro result socket ⟨sound, count, rfl⟩
  exact ⟨sound, (), rfl⟩

/-- In a sound state a reservation succeeds. -/
theorem triple_reserveBatch_ok :
    Triple XdpSocket.Sound reserveBatch fun result _ => ∃ available, result = .ok available := by
  have turned : Triple XdpSocket.Sound interleave fun _ socket => socket.Sound :=
    .modifyGet fun socket sound => (socket.shuffles_takeTurn.evolves sound).1
  have counted : Triple XdpSocket.Sound (modifyGet XdpSocket.txAvailable : StateM XdpSocket Nat)
      fun _ socket => socket.Sound :=
    .modifyGet fun socket sound => ((shuffles_txAvailable socket).evolves sound).1
  have reserved : Triple XdpSocket.Sound reserveTx
      fun result _ => ∃ available, result = .ok available := by
    refine .bind turned fun _ => .bind counted fun available => .ite (fun _ => ?_) fun _ =>
      .pure fun _ _ => ⟨_, rfl⟩
    refine .bind triple_drainTxCompletionsInner ?_
    rintro (kind | drained)
    · rintro socket ⟨_, count, failed⟩
      cases failed
    · exact .skip fun _ => .skip fun available => .pure fun _ _ => ⟨available, rfl⟩
  refine .bind triple_drainCompletionsIfTxPressure ?_
  rintro (kind | _)
  · rintro socket ⟨_, done, failed⟩
    cases failed
  · exact fun socket holds => reserved socket holds.1

/-! ## Sends -/

/-- A doorbell that is due is rung behind a submission. -/
theorem doorbells_wakeTxIfNeeded (asks : socket.Asks) {accepted : Nat} (someAccepted : 0 < accepted) :
    ((wakeTxIfNeeded accepted).run socket).2.doorbells = socket.doorbells + 1 := by
  have waits := waits_takeTurn socket
  have due : (socket.takeTurn.2.txWakePending ||
      (accepted > 0 && socket.takeTurn.2.txNeedWakeup)) = true := by
    rcases waits.asks asks with missed | ⟨asked, _⟩
    · rw [missed, Bool.true_or]
    · rw [asked, decide_eq_true someAccepted, Bool.true_and, Bool.or_true]
  have rung := (waits_takeTurn socket.takeTurn.2).doorbells
  rw [wakeTxIfNeeded, interleave, run_bind, run_modifyGet, run_bind]
  change ((if socket.takeTurn.2.txWakePending ||
      (accepted > 0 && socket.takeTurn.2.txNeedWakeup) then wakeTx else pure (.ok ()) :
        StateM XdpSocket (Except Error Unit)).run socket.takeTurn.2).2.doorbells = _
  rw [if_pos due, wakeTx, interleave, run_bind, run_modifyGet]
  change socket.takeTurn.2.takeTurn.2.doorbells + 1 = _
  rw [rung, waits.doorbells]

/-- The first packet of a batch can be prepared. -/
def FirstReady (prepare : κ → α → Prepared κ α) (cache : κ) (batch : List (TxSlot α)) : Prop :=
  ∃ item rest frame, batch = .ready item :: rest ∧ (prepare cache item).frame = .ok frame

variable {prepare : κ → α → Prepared κ α} {cache : κ} {batch : List (TxSlot α)}

theorem FirstReady.frames (ready : FirstReady prepare cache batch) {available : Nat}
    (room : 0 < available) : (prepareSlots prepare cache (batch.take available)).frames ≠ [] := by
  obtain ⟨item, rest, frame, rfl, prepared⟩ := ready
  obtain ⟨fewer, rfl⟩ := Nat.exists_eq_succ_of_ne_zero (Nat.ne_of_gt room)
  rw [List.take_succ_cons, prepareSlots]
  cases step : prepare cache item with
  | mk next left result =>
    rw [step] at prepared
    dsimp only at prepared
    rw [prepared]
    exact List.cons_ne_nil _ _

/-- A send into a ring with a free slot rings a doorbell that is due and accepts a
packet. -/
theorem doorbells_sendBatch (sound : socket.Sound) (asks : socket.Asks)
    (room : socket.tx.entries.length < socket.tx.capacity)
    (ready : FirstReady prepare cache batch) :
    ((sendBatch prepare cache batch).run socket).2.doorbells = socket.doorbells + 1 ∧
      ∃ outcome, ((sendBatch prepare cache batch).run socket).1 = some outcome ∧
        0 < acceptedCount outcome.result := by
  obtain ⟨outcome, returned, sends⟩ := sends_sendBatch prepare cache batch socket
  obtain ⟨reservation, succeeds⟩ := triple_reserveBatch_ok socket sound
  have waits := reserving_waits.reserveBatch socket
  have free : ∀ {available : Nat} {reserved : XdpSocket},
      reserveBatch.run socket = (.ok available, reserved) → 0 < available := by
    intro available reserved reserve
    obtain ⟨_, counted⟩ := counted_reserveBatch reserve
    rw [reserve] at waits
    have capacity := waits.capacity
    have entries := waits.entries
    dsimp only at capacity entries
    omega
  cases sends with
  | failed reserve =>
    rw [reserve] at succeeds
    cases succeeds
  | nothing reserve loop noFrames =>
    rw [← loop] at noFrames
    exact absurd noFrames (ready.frames (free reserve))
  | @sent available reserved target prepared woken reserve loop someFrames fits wake =>
    rw [reserve] at waits
    have asking : (reserved.commitTx (prepared.frames.map XdpTxFrame.desc)).Asks :=
      waits.asks asks
    have accepted := List.length_pos_of_ne_nil someFrames
    have rung := doorbells_wakeTxIfNeeded asking accepted
    rw [wake] at rung
    refine ⟨rung.trans (congrArg (· + 1) waits.doorbells), _, returned, ?_⟩
    rwa [acceptedCount_sendResult]

/-- A send call of a socket. -/
inductive SendCall where
  | send (ifindex : IfIndex) (queueId : QueueId) (mtu : Nat)
      (batch : List (TxSlot (IpPacketTransmit XdpPacketBuf XdpEgress)))
  | sendUdp (udp : XdpUdpConfig) (batch : List (TxSlot (UdpTransmit XdpPacketBuf)))
  | sendToUdpEndpoint (udp : XdpUdpConfig) (endpoint : XdpUdpEndpoint)
      (batch : List (TxSlot (UdpEndpointTransmit XdpPacketBuf)))

namespace SendCall

/-- The result of the call. -/
def program : SendCall → StateM XdpSocket (Option (Except SendError Nat))
  | .send ifindex queueId mtu batch => do
      let outcome ← sendInner ifindex queueId mtu batch
      return outcome.map SendOutcome.result
  | .sendUdp udp batch => do
      let outcome ← sendUdpInner udp batch
      return outcome.map SendOutcome.result
  | .sendToUdpEndpoint udp endpoint batch => do
      let outcome ← sendUdpEndpointInner udp endpoint batch
      return outcome.map SendOutcome.result

/-- The endpoint resolves, if there is one, and the first packet can be prepared. -/
def FirstReady : SendCall → Prop
  | .send ifindex queueId mtu batch =>
    Xdp.FirstReady (fun _ => prepareIpTransmit ifindex queueId mtu) () batch
  | .sendUdp udp batch =>
    Xdp.FirstReady (fun _ =>
      prepareUdpTransmit udp.resolveUdpL2 udp.localAddr udp.ttl udp.routeContext) () batch
  | .sendToUdpEndpoint udp endpoint batch =>
    ∃ refreshed cache, refreshUdpEndpointCache udp endpoint = (refreshed, .ok cache) ∧
      Xdp.FirstReady (prepareEndpointTransmit refreshed.info) cache batch

end SendCall

/-- A parked TX ring of an opened socket is kicked by the next send whose first packet
can be prepared, unless the ring is full or the kernel itself takes its request back
while the call runs.  Such a send accepts a packet, so that a loop of sends goes on. -/
theorem parked_ring_kicked {config : XdpSocketConfig} {opened socket : XdpSocket}
    {actions : List SocketAction} (opening : config.openLive = some opened)
    (reached : run XdpSocket.step opened actions = some socket) (parked : socket.Parked)
    (call : SendCall) (turns : List Turn) (ready : call.FirstReady)
    (room : socket.tx.entries.length < socket.tx.capacity)
    (asks : socket.txWakePending = true ∨
      ∀ turn ∈ turns, .setTxNeedWakeup false ∉ turn.actions) :
    let ended := call.program.run { socket with turns := turns }
    ended.2.doorbells = socket.doorbells + 1 ∧
      ∃ result, ended.1 = some result ∧ 0 < acceptedCount result := by
  have sound := ((socket.shuffles_turns turns).evolves (sound_of_reached opening reached)).1
  have asking : { socket with turns := turns }.Asks := by
    rcases asks with missed | kept
    · exact .inl missed
    · rcases parked.2 with missed | asked
      · exact .inl missed
      · exact .inr ⟨asked, kept⟩
  cases call with
  | send ifindex queueId mtu batch =>
    have firstReady : FirstReady (fun _ => prepareIpTransmit ifindex queueId mtu) () batch := ready
    obtain ⟨rung, outcome, returned, accepted⟩ :=
      doorbells_sendBatch sound asking room firstReady
    exact ⟨rung, outcome.result, congrArg (Option.map SendOutcome.result) returned, accepted⟩
  | sendUdp udp batch =>
    have firstReady : FirstReady (fun _ => prepareUdpTransmit udp.resolveUdpL2 udp.localAddr
        udp.ttl udp.routeContext) () batch := ready
    obtain ⟨rung, outcome, returned, accepted⟩ :=
      doorbells_sendBatch sound asking room firstReady
    exact ⟨rung, outcome.result, congrArg (Option.map SendOutcome.result) returned, accepted⟩
  | sendToUdpEndpoint udp endpoint batch =>
    obtain ⟨refreshed, cache, refresh, firstReady⟩ := ready
    obtain ⟨rung, outcome, returned, accepted⟩ :=
      doorbells_sendBatch sound asking room firstReady
    dsimp only
    rw [SendCall.program, sendUdpEndpointInner, refresh]
    exact ⟨rung, outcome.result, congrArg (fun outcome =>
      (Option.map (SendOutcome.intoEndpoint refreshed) outcome).map SendOutcome.result) returned,
      accepted⟩

/-! ## A run -/

/-- The buffer of an allocated frame, with a payload of one byte. -/
def allocatedBuffer (frameAddr : Addr) : XdpPacketBuf :=
  { receivedBuffer 0 frameAddr with pool := .tx }

/-- The kernel asks for a doorbell once the frames are published, and the doorbell
fails. -/
def failingDoorbell : List Turn :=
  [⟨[], true⟩, ⟨[.setTxNeedWakeup true], true⟩, ⟨[], false⟩]

/-- A received packet and `more` are sent, and the doorbell fails. -/
def missedDoorbell (more : List (TxSlot (UdpTransmit XdpPacketBuf))) : List SocketAction :=
  (receiveOne 0 0).map .call ++
    [.call (.allocateTxBatch 0 1 []),
      .call (.sendUdp 0 sampleUdpConfig
        (.ready (sampleTransmit (receivedBuffer 0 0)) :: more) failingDoorbell)]

/-- An allocated packet is sent. -/
def sampleCall : SendCall :=
  .sendUdp sampleUdpConfig [.ready (sampleTransmit (allocatedBuffer 64))]

theorem parked_ring_kicked_sample :
    ∃ opened socket, smallConfig.openLive = some opened ∧
      run XdpSocket.step opened (missedDoorbell []) = some socket ∧
      (sampleCall.program.run { socket with turns := [] }).2.doorbells = socket.doorbells + 1 := by
  have parked : ∀ socket ∈ smallConfig.openLive.bind fun opened =>
      run XdpSocket.step opened (missedDoorbell []),
      socket.Parked ∧ socket.tx.entries.length < socket.tx.capacity := by decide +kernel
  have finishes : (smallConfig.openLive.bind fun opened =>
      run XdpSocket.step opened (missedDoorbell [])).isSome = true := by decide +kernel
  obtain ⟨socket, finished⟩ := Option.isSome_iff_exists.mp finishes
  obtain ⟨opened, opening, reached⟩ := Option.bind_eq_some_iff.mp finished
  obtain ⟨isParked, room⟩ := parked socket finished
  have ready : sampleCall.FirstReady := ⟨_, _, _, rfl, rfl⟩
  exact ⟨opened, socket, opening, reached, (parked_ring_kicked opening reached isParked sampleCall
    [] ready room (.inr (List.forall_mem_nil _))).1⟩

end FastSocket.Xdp
