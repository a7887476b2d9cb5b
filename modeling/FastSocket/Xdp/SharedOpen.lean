import FastSocket.Ebpf.SocketProgram
import FastSocket.Transition.Fallible
import FastSocket.Xdp.OpenSocket

/-!
# Opening a shared aggregate

The members of an aggregate share one UMEM and one program.  Opening them creates a
socket for each queue, registers all of the sockets and binds the UDP port once, and takes
its registrations back when one of these steps fails.  Each member cleans up after itself
when it is dropped, and the first one unbinds the port.
-/

namespace FastSocket.Xdp

open Ebpf Packet Transition

/-- What opening reads of the configuration of the members. -/
structure SharedOpenConfig where
  ifindex : IfIndex
  /-- The interface of the program that the members are given, if they are given one. -/
  attachedProgram : Option IfIndex
  rxChunkSize : Nat
  txChunkSize : Nat
  rxL2Headroom : Nat
  /-- The frames of one member. -/
  frameCount : Nat
  bindUdpPort : Option Word
deriving DecidableEq, Repr

inductive SliceError where
  | frameSize (size : Nat)
  | framesPerMember (frames : Nat)
  | rxFramesPerMember (frames : Nat)
  | rxFramesExceed (rxFrames frames : Nat)
deriving DecidableEq, Repr

inductive OpenError where
  | duplicateQueue (queue : QueueId)
  | numaNode
  /-- The program is attached to another interface. -/
  | otherInterface (program socket : IfIndex)
  | load
  | frameSize
  /-- The frame count must be a power of two and two at least. -/
  | frameCount (count : Nat)
  | totalFrames
  | headroom
  | umem
  | socket (queue : QueueId)
  | program (error : ProgramError)
  | slices (error : SliceError)
deriving DecidableEq, Repr

/-- What the host answers: the descriptors of the members' sockets by position, and the
fate of the map writes. -/
structure OpenHost where
  numaNode : Bool
  loads : Bool
  mapsUmem : Bool
  socket : Nat → Option Nat
  registers : Nat → Bool
  binds : PortWrites
  unregisters : QueueId → Bool

/-- What a member holds of the program. -/
structure LiveMember where
  queue : QueueId
  socket : Nat
  boundPort : Option Word
deriving DecidableEq, Repr

/-- `CompletionReclaim::shared_member_slices`. -/
def CompletionReclaim.ofMemberSlices (frameSize framesPerMember rxFramesPerMember
    activeFrames : Nat) : Except SliceError CompletionReclaim :=
  if ¬ frameSize.isPowerOfTwo then
    .error (.frameSize frameSize)
  else if framesPerMember = 0 ∨ ¬ framesPerMember.isPowerOfTwo then
    .error (.framesPerMember framesPerMember)
  else if rxFramesPerMember = 0 ∨ ¬ rxFramesPerMember.isPowerOfTwo then
    .error (.rxFramesPerMember rxFramesPerMember)
  else if rxFramesPerMember > framesPerMember then
    .error (.rxFramesExceed rxFramesPerMember framesPerMember)
  else
    .ok (.sharedMemberSlices (BitVec.ofNat 64 (framesPerMember * frameSize - 1))
      (BitVec.ofNat 64 (rxFramesPerMember * frameSize))
      (BitVec.ofNat 64 (activeFrames * frameSize)))

/-- The first queue that occurs among those before it. -/
def firstRepeated (seen : List QueueId) : List QueueId → Option QueueId
  | [] => none
  | queue :: rest => if queue ∈ seen then some queue else firstRepeated (seen ++ [queue]) rest

/-- The sockets of the members, from a position on. -/
def newSockets (host : OpenHost) : Nat → List QueueId → Except OpenError (List Nat)
  | _, [] => .ok []
  | index, queue :: rest =>
    match host.socket index with
    | none => .error (.socket queue)
    | some socket => (newSockets host (index + 1) rest).map (socket :: ·)

/-- Removes the sockets of queues, whatever their map writes do. -/
def unregisterAll (host : OpenHost) (queues : List QueueId) (loaded : SocketProgram) :
    SocketProgram :=
  queues.foldl (fun loaded queue =>
    (loaded.unregisterSocket queue (host.unregisters queue)).2) loaded

/-- Registers sockets from a position on.  When one cannot be registered, those that are
registered already are removed. -/
def registerAll (host : OpenHost) : (index : Nat) → List (QueueId × Nat) →
    (registered : List QueueId) → SocketProgram →
    Except ProgramError (List QueueId) × SocketProgram
  | _, [], registered, loaded => (.ok registered, loaded)
  | index, (queue, socket) :: rest, registered, loaded =>
    match loaded.registerSocket queue socket (host.registers index) with
    | (.error error, loaded) => (.error error, unregisterAll host registered loaded)
    | (.ok _, loaded) => registerAll host (index + 1) rest (registered ++ [queue]) loaded

namespace SharedOpenConfig

variable (config : SharedOpenConfig) (host : OpenHost)

/-- The size of a frame: the larger of the buffer layouts, rounded up to a power of two
that has to fit into 32 bits. -/
def umemFrameSize : Except OpenError Nat :=
  let frameSize := nextPowerOfTwo (max config.rxChunkSize config.txChunkSize)
  if frameSize < 2 ^ 32 then .ok frameSize else .error .frameSize

/-- The number of receive frames of a member. -/
def rxFrames : Nat :=
  config.frameCount / 2

def totalFrames (queues : List QueueId) : Nat :=
  config.frameCount * queues.length

/-- No queue is named twice. -/
def checkQueues (queues : List QueueId) : Except OpenError Unit :=
  match firstRepeated [] queues with
  | some queue => .error (.duplicateQueue queue)
  | none => .ok ()

/-- A handle of the program of the interface. -/
def takeProgram : Except OpenError Unit :=
  match config.attachedProgram with
  | some program => ensure (program = config.ifindex) (.otherInterface program config.ifindex)
  | none => ensure (host.loads = true) .load

/-- Everything before the sockets are registered: the frame size and the sockets. -/
def newMembers (queues : List QueueId) : Except (Stop OpenError) (Nat × List Nat) := do
  ensure (queues ≠ []) .panicked
  (checkQueues queues).mapError .failed
  ensure (host.numaNode = true) (.failed .numaNode)
  (config.takeProgram host).mapError .failed
  let frameSize ← config.umemFrameSize.mapError .failed
  ensure (2 ≤ config.frameCount ∧ config.frameCount.isPowerOfTwo)
    (.failed (.frameCount config.frameCount))
  ensure (config.totalFrames queues < 2 ^ 32) (.failed .totalFrames)
  ensure (config.rxL2Headroom < 2 ^ 32) (.failed .headroom)
  -- The rounded frame count wraps to zero above 2 ^ 31, which the UMEM does not accept.
  ensure (config.totalFrames queues ≤ 2 ^ 31 ∧ host.mapsUmem = true) (.failed .umem)
  let sockets ← (newSockets host 0 queues).mapError .failed
  return (frameSize, sockets)

/-- The members, of which the first one records the bound port. -/
def liveMembers (queues : List QueueId) (sockets : List Nat) : List LiveMember :=
  (queues.zip sockets).mapIdx fun index pair =>
    { queue := pair.1
      socket := pair.2
      boundPort := if index = 0 then config.bindUdpPort else none }

/-- Registers the sockets and binds the port. -/
def registerMembers (queues : List QueueId) (sockets : List Nat) (loaded : SocketProgram) :
    Except ProgramError Unit × SocketProgram :=
  match registerAll host 0 (queues.zip sockets) [] loaded with
  | (.error error, loaded) => (.error error, loaded)
  | (.ok registered, loaded) =>
    match config.bindUdpPort with
    | none => (.ok (), loaded)
    | some port =>
      match loaded.bindPort port host.binds with
      | (.error error, loaded) => (.error error, unregisterAll host registered loaded)
      | (.ok _, loaded) => (.ok (), loaded)

/-- `LiveXdpState::open_shared_members`: the members, and how the completions of their
frames are sorted. -/
def openSharedMembers (queues : List QueueId) (loaded : SocketProgram) :
    Except (Stop OpenError) (CompletionReclaim × List LiveMember) × SocketProgram :=
  match config.newMembers host queues with
  | .error stop => (.error stop, loaded)
  | .ok (frameSize, sockets) =>
    match config.registerMembers host queues sockets loaded with
    | (.error error, loaded) => (.error (.failed (.program error)), loaded)
    | (.ok _, loaded) =>
      match CompletionReclaim.ofMemberSlices frameSize config.frameCount config.rxFrames
          (config.totalFrames queues) with
      -- An error here would leave the registrations behind.
      | .error error => (.error (.failed (.slices error)), loaded)
      | .ok reclaim => (.ok (reclaim, config.liveMembers queues sockets), loaded)

end SharedOpenConfig

/-- The fate of the map writes of a drop. -/
structure DropWrites where
  port : PortWrites
  queue : Bool
deriving DecidableEq, Repr

/-- The entries that a drop has to clear can be written. -/
def DropWrites.Clears (writes : DropWrites) : Prop :=
  writes.port.port = true ∧ writes.queue = true

/-- A member is dropped. -/
def LiveMember.drop (member : LiveMember) (writes : DropWrites) (loaded : SocketProgram) :
    SocketProgram :=
  let unbound :=
    match member.boundPort with
    | some port => (loaded.unbindPort port writes.port).2
    | none => loaded
  (unbound.unregisterSocket member.queue writes.queue).2

/-- Members are dropped one after the other. -/
def dropMembers (writes : LiveMember → DropWrites) (order : List LiveMember)
    (loaded : SocketProgram) : SocketProgram :=
  order.foldl (fun loaded member => member.drop (writes member) loaded) loaded

end FastSocket.Xdp
