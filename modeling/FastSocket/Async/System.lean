import FastSocket.Async.Actor

/-!
# An actor and its applications

The transition system of one actor task and any number of application threads.  A send
of a command first waits for a place in the queue and then uses it; when the actor has
closed the queue, a waiting send fails and hands its buffers back, while a send that has
its place completes.
-/

namespace FastSocket.Async

open Packet Transition

universe u

variable {β : Type u} [DecidableEq β]

/-- The steps of the application threads. -/
inductive ClientAction (β : Type u) where
  | allocTxBatch (max : Nat)
  | sendTxBuffers (buffers : List β) (info : ActorTxMeta)
  | sendTxPackets (packets : List (UdpTransmit β))
  | shutdown
  /-- A send gets a place in the command queue. -/
  | reserve (command : ActorCommand β)
  /-- A send puts its command into its place. -/
  | push (command : ActorCommand β)
  /-- A waiting send finds the queue closed and fails. -/
  | reject (command : ActorCommand β)
  /-- The future of a waiting send is dropped. -/
  | cancel (command : ActorCommand β)
  | takeReply (reply : Nat) (result : Except Error (List β))
  /-- The receiving half of a reply channel is dropped. -/
  | dropReply (reply : Nat)
  | freeze (buffer : β) (destination : SocketAddr)
  | intoTransmit (packet : β) (destination : SocketAddr)
  | recvBatch
  | dropRx
  | cloneHandle
  | dropHandle
  /-- An application begins to drop a wrapped buffer. -/
  | drop (wrapped : Wrapped β)
  /-- The lease of a buffer that is dropped is released. -/
  | release (wrapped : Wrapped β)
  | notifyWaiters
deriving DecidableEq

inductive SystemAction (β : Type u) where
  | actor (action : ActorAction β)
  | client (action : ClientAction β)
deriving DecidableEq

def batchWrapped (batch : List β) : Multiset (Wrapped β) :=
  ↑(batch.map Wrapped.rxPacket)

def replyWrapped : Nat × Except Error (List β) → Multiset (Wrapped β)
  | (_, .ok buffers) => ↑(buffers.map Wrapped.txBuffer)
  | (_, .error _) => 0

namespace ActorSystem

/-- `spawn_udp_actor`. -/
def spawn (config : ActorConfig) : ActorSystem β :=
  { config := config.normalize
    outstandingBuffers := 0
    waiter := .checking
    notifying := 0
    handles := 1
    sends := 0
    commands := []
    commandsClosed := false
    nextReply := 0
    awaiting := []
    replies := 0
    batches := []
    rxAlive := true
    held := 0
    drops := 0
    actor := .initial }

variable (system : ActorSystem β)

def permits : Nat :=
  system.sends.countP fun sending => sending.permitted

/-- No command is left and none can come any more. -/
def commandsEnded : Bool :=
  system.commands.isEmpty &&
    (system.handles == 0 || system.commandsClosed && system.permits == 0)

/-- The actor takes the oldest command and begins to handle it. -/
def receiveCommand (actor : Actor β) : Option (ActorSystem β) :=
  match system.commands with
  | [] => none
  | command :: rest =>
    some { system with
      commands := rest
      commandsClosed := system.commandsClosed || command.isShutdown
      actor := actor.handleCommand command }

/-- A step of the actor task, apart from drops. -/
def taskStep (action : ActorAction β) : Option (ActorSystem β) :=
  match action, system.actor.phase with
  | .takeCommand, .polling =>
    if system.actor.takesCommands system.config then
      system.receiveCommand { system.actor with progressed := true }
    else
      none
  | .stopPolling, .polling =>
    if system.actor.takesCommands system.config then
      if system.commands.isEmpty then
        some { system with
          actor := { system.actor with
            phase := .flushing false false
            commandsOpen := !system.commandsEnded } }
      else
        none
    else
      some { system with actor := { system.actor with phase := .flushing false false } }
  | .wrapNext, .wrapping reply left wrapped =>
    match left with
    | [] =>
      some { system with
        actor := { system.actor with phase := .replying reply (.ok wrapped) } }
    | buffer :: left =>
      some { system with
        outstandingBuffers := system.outstandingBuffers + 1
        actor := { system.actor with phase := .wrapping reply left (wrapped ++ [buffer]) } }
  | .reply, .replying reply result =>
    if reply ∈ system.awaiting then
      some { system with
        replies := (reply, result) ::ₘ system.replies
        actor := { system.actor with phase := .polling } }
    else
      some { system with
        actor := { system.actor with phase := .polling, drops := system.actor.phase.wrapped } }
  | .unwrapNext, .unwrapping left =>
    match left with
    | [] => some { system with actor := { system.actor with phase := .polling } }
    | transmit :: left =>
      some { system with
        outstandingBuffers := system.outstandingBuffers - 1
        actor := { system.actor with
          phase := .unwrapping left
          pendingTx := system.actor.pendingTx ++ [.ready transmit] } }
  | .wrapNextRx, .wrappingRx wrapped =>
    match system.actor.recvBatch with
    | [] => some { system with actor := { system.actor with phase := .delivering wrapped } }
    | packet :: rest =>
      some { system with
        outstandingBuffers := system.outstandingBuffers + 1
        actor := { system.actor with
          phase := .wrappingRx (wrapped ++ [packet])
          recvBatch := rest } }
  | .deliver, .delivering batch =>
    if system.rxAlive then
      if system.batches.length < system.config.rxQueueCapacity then
        some { system with
          batches := system.batches ++ [batch]
          actor := { system.actor with phase := .deciding } }
      else
        none
    else
      some { system with
        actor := { system.actor with
          phase := .deciding
          rxOpen := false
          drops := system.actor.phase.wrapped } }
  | .takeCommand, .waiting =>
    if system.actor.commandsOpen ∧ ¬ system.actor.shutdownRequested then
      system.receiveCommand system.actor.nextRound
    else
      none
  | .commandsEnd, .waiting =>
    if system.actor.commandsOpen ∧ ¬ system.actor.shutdownRequested ∧ system.commandsEnded then
      some { system with actor := { system.actor.nextRound with commandsOpen := false } }
    else
      none
  | .closeCommands, .closing result =>
    some { system with
      commandsClosed := true
      actor := { system.actor with phase := .discarding result } }
  | .discardCommand, .discarding _ =>
    match system.commands with
    | [] => none
    | command :: rest =>
      some { system with
        commands := rest
        actor := { system.actor with drops := command.wrapped } }
  | .stopDiscarding, .discarding result =>
    if system.commandsEnded then
      some { system with
        waiter := .checking
        actor := { system.actor with phase := .releasing result } }
    else
      none
  | .load, .releasing result =>
    if system.waiter = .checking then
      if system.outstandingBuffers = 0 then
        some { system with
          waiter := .returned
          actor := { system.actor with phase := .returned result } }
      else
        some { system with waiter := .loaded }
    else
      none
  | .createNotified, .releasing _ =>
    if system.waiter = .loaded then some { system with waiter := .created } else none
  | .poll, .releasing _ =>
    match system.waiter with
    | .created => some { system with waiter := .parked }
    | .notified => some { system with waiter := .checking }
    | _ => none
  | action, _ =>
    (system.actor.step system.config action).map fun actor => { system with actor := actor }

/-- A step of the actor task.  What the task drops is dropped before it goes on. -/
def actorStep : ActorAction β → Option (ActorSystem β)
  | .release wrapped =>
    if wrapped ∈ system.actor.drops then
      some { system with
        outstandingBuffers := system.outstandingBuffers - 1
        actor := { system.actor with drops := system.actor.drops.erase wrapped } }
    else
      none
  | action => if system.actor.drops = 0 then system.taskStep action else none

/-- An application starts to send a command through a handle. -/
def startSend (command : ActorCommand β) : Option (ActorSystem β) :=
  if 0 < system.handles ∧ command.wrapped ≤ system.held then
    some { system with
      sends := ⟨command, false⟩ ::ₘ system.sends
      held := system.held - command.wrapped }
  else
    none

/-- A step of an application thread. -/
def clientStep : ClientAction β → Option (ActorSystem β)
  | .allocTxBatch max =>
    if max = 0 then
      none
    else
      { system with
        nextReply := system.nextReply + 1
        awaiting := system.nextReply :: system.awaiting }.startSend
          (.allocate max system.nextReply)
  | .sendTxBuffers buffers info =>
    if buffers.isEmpty then none else system.startSend (.sendBuffers buffers info)
  | .sendTxPackets packets =>
    if packets.isEmpty then none else system.startSend (.sendPackets packets)
  | .shutdown => system.startSend .shutdown
  | .reserve command =>
    if ⟨command, false⟩ ∈ system.sends ∧ ¬ system.commandsClosed ∧
        system.commands.length + system.permits < system.config.commandQueueCapacity then
      some { system with sends := ⟨command, true⟩ ::ₘ system.sends.erase ⟨command, false⟩ }
    else
      none
  | .push command =>
    if ⟨command, true⟩ ∈ system.sends then
      some { system with
        sends := system.sends.erase ⟨command, true⟩
        commands := system.commands ++ [command] }
    else
      none
  | .reject command =>
    if ⟨command, false⟩ ∈ system.sends ∧ system.commandsClosed then
      some { system with
        sends := system.sends.erase ⟨command, false⟩
        awaiting := system.awaiting.filter (some · ≠ command.reply?)
        held := system.held + command.wrapped }
    else
      none
  | .cancel command =>
    if ⟨command, false⟩ ∈ system.sends then
      some { system with
        sends := system.sends.erase ⟨command, false⟩
        awaiting := system.awaiting.filter (some · ≠ command.reply?)
        drops := system.drops + command.wrapped }
    else
      none
  | .takeReply reply result =>
    if (reply, result) ∈ system.replies then
      some { system with
        awaiting := system.awaiting.erase reply
        replies := system.replies.erase (reply, result)
        held := system.held + replyWrapped (reply, result) }
    else
      none
  | .dropReply reply =>
    if reply ∈ system.awaiting then
      some { system with
        awaiting := system.awaiting.erase reply
        replies := system.replies.filter (·.1 ≠ reply)
        drops := system.drops + (system.replies.filter (·.1 = reply)).bind replyWrapped }
    else
      none
  | .freeze buffer destination =>
    if .txBuffer buffer ∈ system.held then
      some { system with
        held := .txPacket ((ActorTxMeta.new destination).transmit buffer) ::ₘ
          system.held.erase (.txBuffer buffer) }
    else
      none
  | .intoTransmit packet destination =>
    if .rxPacket packet ∈ system.held then
      some { system with
        held := .txPacket ((ActorTxMeta.new destination).transmit packet) ::ₘ
          system.held.erase (.rxPacket packet) }
    else
      none
  | .recvBatch =>
    match system.rxAlive, system.batches with
    | true, batch :: rest =>
      some { system with batches := rest, held := system.held + batchWrapped batch }
    | _, _ => none
  | .dropRx =>
    if system.rxAlive then
      some { system with
        rxAlive := false
        batches := []
        drops := system.drops + (↑system.batches : Multiset (List β)).bind batchWrapped }
    else
      none
  | .cloneHandle =>
    if 0 < system.handles then some { system with handles := system.handles + 1 } else none
  | .dropHandle =>
    -- A future of `alloc_tx_batch` or of a send borrows its handle.
    if 1 < system.handles ∨ system.handles = 1 ∧ system.sends = 0 ∧ system.awaiting = [] then
      some { system with handles := system.handles - 1 }
    else
      none
  | .drop wrapped =>
    if wrapped ∈ system.held then
      some { system with
        held := system.held.erase wrapped
        drops := wrapped ::ₘ system.drops }
    else
      none
  | .release wrapped =>
    if wrapped ∈ system.drops then
      some { system with
        outstandingBuffers := system.outstandingBuffers - 1
        notifying := system.notifying + if system.outstandingBuffers = 1 then 1 else 0
        drops := system.drops.erase wrapped }
    else
      none
  | .notifyWaiters =>
    if 0 < system.notifying then
      some { system with
        waiter := system.waiter.notifyWaiters
        notifying := system.notifying - 1 }
    else
      none

def step : SystemAction β → Option (ActorSystem β)
  | .actor action => system.actorStep action
  | .client action => system.clientStep action

variable {system} {target : ActorSystem β}

/-- A step of an application keeps the variables of the actor and takes no lease. -/
theorem actor_clientStep {action : ClientAction β}
    (stepped : system.clientStep action = some target) :
    target.actor = system.actor ∧ target.outstandingBuffers ≤ system.outstandingBuffers := by
  have kept : ∀ {source : ActorSystem β} {command : ActorCommand β},
      source.actor = system.actor → source.outstandingBuffers = system.outstandingBuffers →
        source.startSend command = some target →
          target.actor = system.actor ∧
            target.outstandingBuffers ≤ system.outstandingBuffers := by
    intro source command sameActor sameCount started
    obtain ⟨_, ⟨⟩⟩ := Option.ite_none_right_eq_some.mp started
    exact ⟨sameActor, sameCount.le⟩
  revert stepped
  fun_cases clientStep system action
  case case2 => exact kept (by rfl) (by rfl)
  case case4 => exact kept rfl rfl
  case case6 => exact kept rfl rfl
  case case7 => exact kept rfl rfl
  all_goals rintro ⟨⟩
  all_goals first
    | exact ⟨rfl, le_rfl⟩
    | exact ⟨rfl, Nat.sub_le _ _⟩

end ActorSystem

end FastSocket.Async
