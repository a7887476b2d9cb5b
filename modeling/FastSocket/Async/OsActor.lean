import FastSocket.Async.ActorResult
import FastSocket.Os.ReceiveStall

/-!
# An actor over an OS socket

The actor task drives an OS socket at which datagrams of any size arrive.  All calls but
the receive calls succeed.  The socket drops a datagram that is too long for its buffers,
but a receive call that hands over such a datagram and no other one returns an error, and
the actor ends with it.
-/

namespace FastSocket.Async

open Packet Buffer Os Transition

/-! ## Datagrams -/

/-- A datagram that has arrived at the socket, with the address of its sender as the kernel
reports it. -/
structure Incoming where
  payload : List Byte
  name : List Byte
  control : List ControlMessage
deriving DecidableEq, Repr

namespace Incoming

/-- The message of a datagram, for a buffer with a capacity. -/
def message (capacity : Nat) (incoming : Incoming) : KernelMessage :=
  { data := incoming.payload.take capacity
    truncated := decide (capacity < incoming.payload.length)
    name := incoming.name
    control := incoming.control }

/-- The payload and the source of a datagram that fits the buffers and has a source that
can be read. -/
def content (capacity : Nat) (incoming : Incoming) : Option (List Byte × SocketAddr) :=
  if incoming.payload.length ≤ capacity then
    (socketaddrFromRaw incoming.name incoming.name.length).map (incoming.payload, ·)
  else
    none

theorem content_message (capacity : Nat) (incoming : Incoming) :
    (incoming.message capacity).content = incoming.content capacity := by
  rw [KernelMessage.content, KernelMessage.accepted, content, message]
  by_cases fits : incoming.payload.length ≤ capacity
  · simp only [Nat.not_lt.mpr fits, decide_false, if_pos fits, List.take_of_length_le fits]
    rfl
  · simp only [Nat.not_le.mp fits, decide_true, if_neg fits]
    rfl

end Incoming

/-- No datagram of a batch is too long, or one of them is handed on. -/
def Spares (capacity : Nat) (batch : List Incoming) : Prop :=
  (∃ incoming ∈ batch, capacity < incoming.payload.length) →
    ∃ incoming ∈ batch, (incoming.content capacity).isSome

/-! ## The system -/

/-- An actor with its socket.  The datagrams that were taken from the kernel and the
packets that the receive calls gave to the actor are recorded. -/
structure OsActor where
  system : ActorSystem RxBuffer
  receiver : ReceiveSystem
  waiting : List Incoming
  taken : List Incoming
  received : List UdpReceive
  panicked : Bool

inductive OsActorAction where
  /-- A datagram arrives. -/
  | arrive (incoming : Incoming)
  /-- The actor makes a receive call, for which the kernel hands over a batch. -/
  | recv (contents : Os.Buffer → List Byte) (batch : List Incoming)
  /-- Another step of the actor or of an application. -/
  | system (action : SystemAction RxBuffer)
  /-- A packet is dropped. -/
  | drop (action : ReceiveAction)

/-- A step of the receiver that is no receive call. -/
def isDrop : ReceiveAction → Bool
  | .recv _ _ _ => false
  | _ => true

/-- The kernel hands over the oldest datagrams, at least one if there is one, when it is
asked. -/
def HandsOver (requested : Option Nat) (waiting batch : List Incoming) : Prop :=
  match requested with
  | none => batch = []
  | some _ => batch <+: waiting ∧ (batch = [] → waiting = [])

instance (requested : Option Nat) (waiting batch : List Incoming) :
    Decidable (HandsOver requested waiting batch) := by
  cases requested with
  | none => exact inferInstanceAs (Decidable (_ = _))
  | some _ => exact inferInstanceAs (Decidable (_ ∧ _))

namespace OsActor

def spawn (config : ActorConfig) (layout : BufferLayout) (localPort : Word)
    (maxBatch rxPoolMaxBuffers : Nat) : OsActor :=
  { system := .spawn config
    receiver := .new layout localPort maxBatch rxPoolMaxBuffers
    waiting := []
    taken := []
    received := []
    panicked := false }

variable (state : OsActor)

/-- What `recvmmsg` returns for a batch. -/
def recvmmsgResults (batch : List Incoming) : List RecvResult :=
  if batch.isEmpty then
    [.error .wouldBlock]
  else
    [.ok (batch.map (Incoming.message state.receiver.socket.layout.payloadCapacity))]

/-- The actor gets the outcome of a receive call. -/
def afterRecv (batch : List Incoming) (outcome : RecvOutcome) : Option OsActor :=
  let state := { state with
    receiver := {
      socket := outcome.socket
      held := OsUdpSocket.vectors outcome.packets ++ state.receiver.held }
    waiting := state.waiting.drop batch.length
    taken := state.taken ++ batch
    received := state.received ++ outcome.packets }
  let packets := outcome.packets.map UdpReceive.packet
  match outcome.result with
  | .error .panicked => some { state with panicked := true }
  | .error (.failed error) =>
    (state.system.step (.actor (.recv packets (.error error)))).map
      fun system => { state with system := system }
  | .ok count =>
    (state.system.step (.actor (.recv packets (.ok count)))).map
      fun system => { state with system := system }

def step : OsActorAction → Option OsActor
  | .arrive incoming =>
    if incoming.name.length ≤ sockaddrStorageLen then
      some { state with waiting := state.waiting ++ [incoming] }
    else
      none
  | .recv contents batch =>
    match state.receiver.socket.recvImpl contents (state.recvmmsgResults batch)
        state.system.config.recvBatchSize with
    | none => none
    | some outcome =>
      if HandsOver outcome.requested state.waiting batch then
        state.afterRecv batch outcome
      else
        none
  | .system action =>
    if action.Succeeds then
      (state.system.step action).map fun system => { state with system := system }
    else
      none
  | .drop action =>
    if isDrop action then
      (state.receiver.step action).map fun receiver => { state with receiver := receiver }
    else
      none

/-- `run_actor_inner` has returned an error, or the program was stopped. -/
def Failed : Prop :=
  (∃ error, state.system.actor.phase.result? = some (.error error)) ∨ state.panicked

end OsActor

/-- The batches that receive calls hand over are spared. -/
def OsActorAction.Spares (capacity : Nat) : OsActorAction → Prop
  | .recv _ batch => Async.Spares capacity batch
  | _ => True

end FastSocket.Async
