import FastSocket.Xdp.Doorbell

/-!
# A full ring that nobody kicks

While the kernel leaves a full TX ring alone and no completion comes in, sends and
drains change nothing, and none of them rings the doorbell.  A loop that sends until
its batch is accepted spins.
-/

namespace FastSocket.Xdp

open Packet Spsc Transition

variable {κ α : Type}

/-- The default `send_all` of a UDP socket: sends and drains until the batch is accepted
or a send fails.  The result is `none` when the loop has not ended after `fuel`
rounds. -/
def sendAll (udp : XdpUdpConfig) :
    (fuel total : Nat) → List (TxSlot (UdpTransmit XdpPacketBuf)) →
      StateM XdpSocket (Option (Except SendError Nat))
  | 0, _, _ => return none
  | fuel + 1, total, batch => do
      if total < batch.length then
        match ← sendUdpInner udp (batch.drop total) with
        | none => return none
        | some outcome =>
          let batch := batch.take total ++ outcome.batch
          match outcome.result with
          | .ok 0 =>
            match ← drainTxCompletionsInner with
            | .error kind => return some (.error { accepted := total, kind := kind })
            | .ok _ => sendAll udp fuel total batch
          | .ok (accepted + 1) => sendAll udp fuel (total + (accepted + 1)) batch
          | .error failure =>
            return some (.error
              { accepted := total + failure.accepted, kind := failure.kind })
      else
        return some (.ok total)

/-- The ring is full, there is no completion, and the environment does nothing more. -/
structure XdpSocket.Stuck (socket : XdpSocket) : Prop where
  sound : socket.Sound
  quiet : socket.turns = []
  full : socket.tx.entries.length = socket.tx.capacity
  drained : socket.completion.entries = []

/-- The socket stays stuck, and no doorbell is rung. -/
def StaysStuck (source target : XdpSocket) : Prop :=
  source.Stuck → target.Stuck ∧ target.doorbells = source.doorbells

variable {socket : XdpSocket}

instance : Std.Refl StaysStuck :=
  ⟨fun _ stuck => ⟨stuck, rfl⟩⟩

instance : IsTrans XdpSocket StaysStuck := by
  constructor
  intro source middle target first second stuck
  obtain ⟨middleStuck, doorbells⟩ := first stuck
  obtain ⟨targetStuck, targetDoorbells⟩ := second middleStuck
  exact ⟨targetStuck, targetDoorbells.trans doorbells⟩

theorem XdpSocket.Stuck.takeTurn (stuck : socket.Stuck) : socket.takeTurn = (true, socket) := by
  rw [XdpSocket.takeTurn, stuck.quiet]

theorem reserving_staysStuck : Reserving StaysStuck where
  turn socket stuck := by
    rw [stuck.takeTurn]
    exact ⟨stuck, rfl⟩
  drain socket stuck := by
    have sound := (socket.evolves_reclaimCompletions stuck.sound).1
    have append := socket.completion.sync.consumeMany_append socket.completion.capacity
    rw [ConsumerQueue.entries_sync, stuck.drained, List.append_eq_nil_iff] at append
    rw [XdpSocket.reclaimCompletions_eq stuck.sound] at sound ⊢
    exact ⟨⟨sound, stuck.quiet, stuck.full, append.2⟩, rfl⟩
  count socket stuck := by
    have sound := ((shuffles_txAvailable socket).evolves stuck.sound).1
    exact ⟨⟨sound, stuck.quiet, stuck.full, stuck.drained⟩, rfl⟩

/-- A send finds no free slot. -/
theorem reserveBatch_of_stuck (stuck : socket.Stuck) :
    ∃ target, reserveBatch.run socket = (.ok 0, target) ∧ target.Stuck ∧
      target.doorbells = socket.doorbells := by
  obtain ⟨available, succeeds⟩ := triple_reserveBatch_ok socket stuck.sound
  obtain ⟨targetStuck, doorbells⟩ := reserving_staysStuck.reserveBatch socket stuck
  have reserve : reserveBatch.run socket = (.ok available, (reserveBatch.run socket).2) :=
    Prod.ext succeeds rfl
  obtain ⟨_, counted⟩ := counted_reserveBatch reserve
  rw [targetStuck.full, Nat.sub_self] at counted
  rw [counted] at reserve
  exact ⟨_, reserve, targetStuck, doorbells⟩

theorem sendBatch_of_stuck (stuck : socket.Stuck) (prepare : κ → α → Prepared κ α) (cache : κ)
    (batch : List (TxSlot α)) :
    ∃ target, (sendBatch prepare cache batch).run socket =
        (some (.unsent (.ok ()) cache batch), target) ∧
      target.Stuck ∧ target.doorbells = socket.doorbells := by
  obtain ⟨target, reserve, targetStuck, doorbells⟩ := reserveBatch_of_stuck stuck
  refine ⟨target, ?_, targetStuck, doorbells⟩
  rw [sendBatch, run_bind, reserve]
  rfl

/-- A stuck socket makes the loop spin, and the doorbell is never rung. -/
theorem sendAll_of_stuck (udp : XdpUdpConfig) (stuck : socket.Stuck)
    {batch : List (TxSlot (UdpTransmit XdpPacketBuf))} (someSlots : batch ≠ []) (fuel : Nat) :
    ((sendAll udp fuel 0 batch).run socket).1 = none ∧
      ((sendAll udp fuel 0 batch).run socket).2.doorbells = socket.doorbells := by
  induction fuel generalizing socket with
  | zero => exact ⟨rfl, rfl⟩
  | succ fuel ih =>
    obtain ⟨sent, sending, sentStuck, sentDoorbells⟩ := sendBatch_of_stuck stuck
      (fun _ => prepareUdpTransmit udp.resolveUdpL2 udp.localAddr udp.ttl udp.routeContext) ()
      batch
    have draining := reserving_staysStuck.drainTxCompletionsInner sent sentStuck
    obtain ⟨_, count, drained⟩ := triple_drainTxCompletionsInner sent sentStuck.sound
    obtain ⟨spins, doorbells⟩ := ih draining.1
    have round : (sendAll udp (fuel + 1) 0 batch).run socket =
        (sendAll udp fuel 0 batch).run (drainTxCompletionsInner.run sent).2 := by
      rw [sendAll, if_pos (List.length_pos_of_ne_nil someSlots), List.drop_zero, sendUdpInner,
        run_bind, sending]
      change ((drainTxCompletionsInner >>= _ : StateM XdpSocket _).run sent) = _
      rw [run_bind, drained]
      rfl
    rw [round]
    exact ⟨spins, doorbells.trans (draining.2.trans sentDoorbells)⟩

/-- Two packets fill the ring and the doorbell fails.  The next send returns without a
doorbell, and the loop of sends never rings it. -/
theorem full_ring_not_kicked :
    ∃ opened socket, smallConfig.openLive = some opened ∧
      run XdpSocket.step opened
        (missedDoorbell [.ready (sampleTransmit (allocatedBuffer 64))]) = some socket ∧
      socket.Parked ∧
      (sampleCall.program.run { socket with turns := [] }).1 = some (.ok 0) ∧
      (sampleCall.program.run { socket with turns := [] }).2.doorbells = socket.doorbells ∧
      ∀ fuel, ((sendAll sampleUdpConfig fuel 0
          [.ready (sampleTransmit (allocatedBuffer 64))]).run { socket with turns := [] }).1 = none ∧
        ((sendAll sampleUdpConfig fuel 0 [.ready (sampleTransmit (allocatedBuffer 64))]).run
          { socket with turns := [] }).2.doorbells = socket.doorbells := by
  have finishes : (smallConfig.openLive.bind fun opened => run XdpSocket.step opened
      (missedDoorbell [.ready (sampleTransmit (allocatedBuffer 64))])).isSome = true := by
    decide +kernel
  have full : ∀ socket ∈ smallConfig.openLive.bind fun opened => run XdpSocket.step opened
      (missedDoorbell [.ready (sampleTransmit (allocatedBuffer 64))]),
      socket.Parked ∧ socket.tx.entries.length = socket.tx.capacity ∧
        socket.completion.entries = [] := by
    decide +kernel
  obtain ⟨socket, finished⟩ := Option.isSome_iff_exists.mp finishes
  obtain ⟨opened, opening, reached⟩ := Option.bind_eq_some_iff.mp finished
  obtain ⟨parked, isFull, drained⟩ := full socket finished
  have sound := ((socket.shuffles_turns []).evolves (sound_of_reached opening reached)).1
  have stuck : { socket with turns := [] }.Stuck := ⟨sound, rfl, isFull, drained⟩
  obtain ⟨target, sending, _, doorbells⟩ := sendBatch_of_stuck stuck
    (fun _ => prepareUdpTransmit sampleUdpConfig.resolveUdpL2 sampleUdpConfig.localAddr
      sampleUdpConfig.ttl sampleUdpConfig.routeContext) ()
    [.ready (sampleTransmit (allocatedBuffer 64))]
  have called : sampleCall.program.run { socket with turns := [] } = (some (.ok 0), target) := by
    rw [sampleCall, SendCall.program, sendUdpInner, run_bind, sending]
    rfl
  refine ⟨opened, socket, opening, reached, parked, ?_, ?_, ?_⟩
  · rw [called]
  · rw [called]
    exact doorbells
  · exact sendAll_of_stuck sampleUdpConfig stuck (List.cons_ne_nil _ _)

end FastSocket.Xdp
