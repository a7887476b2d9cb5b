import FastSocket.Os.ReceivePool

/-!
# When a receive call asks the kernel

The transition system of a socket whose application receives packets and drops them on
any thread.  A call posts the slots from the first one on.  It asks the kernel unless the
first slot has no buffer and the pool has none for it, which can be the case while later
slots keep buffers that the application does not hold.
-/

namespace FastSocket.Os

open Packet Buffer Transition

/-- A socket and the buffers of the packets that its application holds. -/
structure ReceiveSystem where
  socket : OsUdpSocket
  held : List Buffer

/-- The steps of the owner thread and of the threads that drop packets. -/
inductive ReceiveAction where
  /-- A receive call for a batch with room for `remaining` packets. -/
  | recv (contents : Buffer → List Byte) (calls : List RecvResult) (remaining : Nat)
  /-- The owner thread drops a packet. -/
  | dropLocal (buffer : Buffer)
  /-- Another thread begins to drop a packet. -/
  | announceRemote (buffer : Buffer)
  /-- That thread completes the drop. -/
  | pushRemote (buffer : Buffer)

variable {remaining : Nat}

namespace ReceiveSystem

def new (layout : BufferLayout) (localPort : Word) (maxBatch rxPoolMaxBuffers : Nat) :
    ReceiveSystem :=
  { socket := .new layout localPort maxBatch rxPoolMaxBuffers, held := [] }

variable (system : ReceiveSystem)

/-- A step of the pool. -/
def poolStep (action : PoolAction) (held : List Buffer) : Option ReceiveSystem :=
  (system.socket.rxPool.step action).map fun pool =>
    { socket := { system.socket with rxPool := pool }, held := held }

def step : ReceiveAction → Option ReceiveSystem
  | .recv contents calls remaining =>
    (system.socket.recvImpl contents calls remaining).map fun outcome =>
      { socket := outcome.socket, held := OsUdpSocket.vectors outcome.packets ++ system.held }
  | .dropLocal buffer =>
    if buffer ∈ system.held then
      system.poolStep (.dropLocal buffer) (system.held.erase buffer)
    else
      none
  | .announceRemote buffer =>
    if buffer ∈ system.held then
      system.poolStep (.announceRemote buffer) (system.held.erase buffer)
    else
      none
  | .pushRemote buffer => system.poolStep (.pushRemote buffer) system.held

/-- The number of receive buffers that the application holds.  A buffer whose drop has not
finished is still one of them. -/
def holds : Nat :=
  system.held.length + system.socket.rxPool.remote.announced.length

/-- The application and the slots have all buffers that the pool may have, and the first
slot has none of them. -/
def Stuck (maxBuffers : Nat) : Prop :=
  (∀ slot ∈ system.socket.slots.head?, slot.buffer = none) ∧
    system.holds + (prepared system.socket.slots).length = maxBuffers

/-! ## Runs -/

/-- What every run keeps. -/
structure Keeps (layout : BufferLayout) (maxBatch maxBuffers : Nat) (system : ReceiveSystem) :
    Prop where
  accounted : system.socket.Accounted maxBuffers system.held
  layout : system.socket.layout = layout
  maxBatch : system.socket.maxBatch = maxBatch

variable {system} {target : ReceiveSystem} {layout : BufferLayout} {maxBatch maxBuffers : Nat}

theorem keeps_new (layout : BufferLayout) (localPort : Word) (maxBatch maxBuffers : Nat) :
    (new layout localPort maxBatch maxBuffers).Keeps layout maxBatch maxBuffers :=
  ⟨OsUdpSocket.accounted_new layout localPort maxBatch maxBuffers, rfl, rfl⟩

/-- A dropped packet was not kept by a slot. -/
theorem Keeps.perm_erase (keeps : system.Keeps layout maxBatch maxBuffers) {buffer : Buffer}
    (isHeld : buffer ∈ system.held) :
    (system.socket.rxPool.inFlight.erase buffer).Perm
      (prepared system.socket.slots ++ system.held.erase buffer) := by
  have distinct := keeps.accounted.lent.nodup_iff.mp keeps.accounted.conserved.nodup_inFlight
  have elsewhere : buffer ∉ prepared system.socket.slots :=
    fun kept => (List.disjoint_of_nodup_append distinct) kept isHeld
  have erased := keeps.accounted.lent.erase buffer
  rwa [List.erase_append_right _ elsewhere] at erased

theorem Keeps.step (wellFormed : layout.WellFormed)
    (keeps : system.Keeps layout maxBatch maxBuffers) {action : ReceiveAction}
    (taken : system.step action = some target) : target.Keeps layout maxBatch maxBuffers := by
  have accounted := keeps.accounted
  cases action with
  | recv contents calls remaining =>
    obtain ⟨outcome, returned, rfl⟩ := Option.map_eq_some_iff.mp taken
    rw [← keeps.layout] at wellFormed
    obtain ⟨after, same⟩ := accounted.recvImpl wellFormed returned
    exact ⟨after, same.layout.trans keeps.layout, same.maxBatch.trans keeps.maxBatch⟩
  | dropLocal buffer =>
    obtain ⟨isHeld, taken⟩ := Option.ite_none_right_eq_some.mp taken
    obtain ⟨pool, stepped, rfl⟩ := Option.map_eq_some_iff.mp taken
    have conserved := accounted.conserved.step stepped
    obtain ⟨_, ⟨⟩⟩ := Option.ite_none_right_eq_some.mp stepped
    exact ⟨⟨conserved, accounted.idle, accounted.length, accounted.sized,
      keeps.perm_erase isHeld⟩, keeps.layout, keeps.maxBatch⟩
  | announceRemote buffer =>
    obtain ⟨isHeld, taken⟩ := Option.ite_none_right_eq_some.mp taken
    obtain ⟨pool, stepped, rfl⟩ := Option.map_eq_some_iff.mp taken
    have conserved := accounted.conserved.step stepped
    obtain ⟨_, ⟨⟩⟩ := Option.ite_none_right_eq_some.mp stepped
    exact ⟨⟨conserved, accounted.idle, accounted.length, accounted.sized,
      keeps.perm_erase isHeld⟩, keeps.layout, keeps.maxBatch⟩
  | pushRemote buffer =>
    obtain ⟨pool, stepped, rfl⟩ := Option.map_eq_some_iff.mp taken
    have conserved := accounted.conserved.step stepped
    obtain ⟨announced, pushed⟩ := Option.ite_none_right_eq_some.mp stepped
    obtain ⟨remote, enqueued⟩ := accounted.conserved.exists_enqueue announced
    rw [enqueued] at pushed
    cases pushed
    exact ⟨⟨conserved, accounted.idle, accounted.length, accounted.sized, accounted.lent⟩,
      keeps.layout, keeps.maxBatch⟩

theorem keeps_run (wellFormed : layout.WellFormed) {localPort : Word}
    {actions : List ReceiveAction}
    (reached : run step (new layout localPort maxBatch maxBuffers) actions = some system) :
    system.Keeps layout maxBatch maxBuffers :=
  run_invariant_of_step (fun _ _ _ keeps taken => keeps.step wellFormed taken)
    (keeps_new layout localPort maxBatch maxBuffers) reached

/-! ## Stalls -/

/-- A call can post no slot exactly when the socket is stuck. -/
theorem Keeps.postable_eq_zero_iff (keeps : system.Keeps layout maxBatch maxBuffers)
    (positive : 0 < maxBatch) (room : 0 < remaining) (contents : Buffer → List Byte) :
    system.socket.postable contents remaining = 0 ↔ system.Stuck maxBuffers := by
  have accounted := keeps.accounted
  have length := accounted.length
  have lent := accounted.lent.length_eq
  rw [List.length_append] at lent
  rw [keeps.maxBatch] at length
  obtain ⟨count, isCount⟩ := Nat.exists_eq_add_one.mpr
    (Nat.lt_min.mpr ⟨room, keeps.maxBatch ▸ positive⟩)
  rw [OsUdpSocket.postable, isCount, Stuck, holds]
  cases isSlots : system.socket.slots with
  | nil =>
    rw [isSlots, List.length_nil] at length
    exact absurd length (Nat.ne_of_lt positive)
  | cons slot rest =>
    rw [count_fillSlots_eq_zero_iff,
      accounted.conserved.allocate_eq_none_iff accounted.idle, lent, isSlots]
    constructor
    · rintro ⟨empty, full⟩
      refine ⟨?_, by omega⟩
      rintro _ ⟨⟩
      exact empty
    · rintro ⟨empty, full⟩
      exact ⟨empty slot rfl, by omega⟩

end ReceiveSystem

theorem OsUdpSocket.recvImpl_of_postable {socket : OsUdpSocket} {contents : Buffer → List Byte}
    (nothing : socket.postable contents remaining = 0) (calls : List RecvResult) :
    ∃ outcome, socket.recvImpl contents calls remaining = some outcome ∧
      outcome.requested = none := by
  rw [postable] at nothing
  rw [recvImpl]
  simp only
  split
  case isTrue => exact ⟨_, rfl, rfl⟩
  case isFalse => exact ⟨_, rfl, rfl⟩

/-- In every state that receive calls and drops lead to, a call for a batch with room asks
the kernel for messages, if the application holds fewer buffers than the pool may have,
exactly when the socket is not stuck. -/
theorem recv_asks_kernel_iff {layout : BufferLayout} (constructed : layout.Constructed)
    (localPort : Word) {maxBatch rxPoolMaxBuffers : Nat} (positive : 0 < maxBatch)
    {actions : List ReceiveAction} {system : ReceiveSystem}
    (reached : run ReceiveSystem.step (.new layout localPort maxBatch rxPoolMaxBuffers) actions =
      some system)
    {remaining : Nat} (room : 0 < remaining) (contents : Buffer → List Byte) :
    (system.holds < rxPoolMaxBuffers →
      ∀ calls outcome, system.socket.recvImpl contents calls remaining = some outcome →
        ∃ count, 0 < count ∧ outcome.requested = some count) ↔
      (system.holds < rxPoolMaxBuffers → ¬ system.Stuck rxPoolMaxBuffers) := by
  have keeps := ReceiveSystem.keeps_run constructed.wellFormed reached
  have stuck := keeps.postable_eq_zero_iff positive room contents
  constructor
  · intro asks few isStuck
    obtain ⟨outcome, returned, silent⟩ :=
      OsUdpSocket.recvImpl_of_postable (stuck.mpr isStuck) []
    obtain ⟨count, _, asked⟩ := asks few [] outcome returned
    cases silent.symm.trans asked
  · intro free few calls outcome returned
    have some : system.socket.postable contents remaining ≠ 0 :=
      fun nothing => free few (stuck.mp nothing)
    have requested := keeps.accounted.requested_eq returned
    rw [if_neg some] at requested
    exact ⟨_, Nat.pos_of_ne_zero some, requested⟩

/-- Buffers of four bytes. -/
def sampleRxLayout : BufferLayout :=
  { payloadCapacity := 4, headroom := 0, tailroom := 0, chunkSize := 4, dataOffset := 0, align := 1
    stride := 4, maxSegments := 1, l2Headroom := 0, chunkFixed := false }

/-- One byte from 192.0.2.1, port 4433. -/
def sampleMessage : KernelMessage :=
  { data := [7#8]
    truncated := false
    name := [2#8, 0#8, 0x11#8, 0x51#8, 192#8, 0#8, 2#8, 1#8] ++ List.replicate 8 0#8
    control := [] }

/-- With a pool of two buffers, a call posts both slots and receives one packet.  While the
application holds that packet, the next call returns no packet without asking the kernel,
although the second slot keeps the other buffer. -/
theorem recv_silent_with_kept_buffer :
    ∃ system outcome,
      run ReceiveSystem.step (.new sampleRxLayout 4433#16 2 2)
        [.recv (fun _ => []) [.ok [sampleMessage]] 2] = some system ∧
      system.holds = 1 ∧
      system.socket.recvImpl (fun _ => []) [.ok [sampleMessage]] 2 = some outcome ∧
      outcome.result = .ok 0 ∧ outcome.requested = none :=
  ⟨_, _, rfl, rfl, rfl, rfl, rfl⟩

/-- With a pool of three buffers, the next call asks for two messages. -/
theorem recv_asks_kernel_with_third_buffer :
    ∃ system,
      run ReceiveSystem.step (.new sampleRxLayout 4433#16 2 3)
        [.recv (fun _ => []) [.ok [sampleMessage]] 2] = some system ∧
      system.holds = 1 ∧
      ∀ calls outcome, system.socket.recvImpl (fun _ => []) calls 2 = some outcome →
        ∃ count, 0 < count ∧ outcome.requested = some count := by
  have constructed : sampleRxLayout.Constructed := @BufferLayout.Constructed.new 4 _ rfl
  refine ⟨_, rfl, rfl, ?_⟩
  refine (@recv_asks_kernel_iff sampleRxLayout constructed 4433#16 2 3 (by decide)
    [.recv (fun _ => []) [.ok [sampleMessage]] 2] _ rfl 2 (by decide) (fun _ => [])).mpr ?_ ?_
  · rintro _ ⟨_, full⟩
    exact absurd (show 2 = 3 from full) (by decide)
  · exact show 1 < 3 by decide

end FastSocket.Os
