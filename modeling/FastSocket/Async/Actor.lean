import FastSocket.Async.Command

/-!
# The actor task

The steps of `run_actor`, `run_actor_inner`, `handle_command`, `flush_pending_tx` and
`wrap_rx_batch`.  Every access to the counter of leases and every use of a channel is a
step of its own, with the work on local variables that goes with it: a buffer is wrapped
in the step that takes its lease and unwrapped in the step that releases it.

The socket is part of the environment.  The results of its calls are in the actions, and
all that is asked of it is the contract of a send: it takes a leading part of the slots
and leaves the others alone.
-/

namespace FastSocket.Async

open Packet

universe u

variable {β : Type u}

/-- The packets in the slots that are ready. -/
def readyItems {α : Type u} (slots : List (TxSlot α)) : List α :=
  slots.filterMap fun slot =>
    match slot with
    | .ready item => some item
    | .taken => none

/-- The steps of the actor task, with the results of the calls it makes. -/
inductive ActorAction (β : Type u) where
  | takeCommand
  /-- The loop that takes commands ends. -/
  | stopPolling
  /-- The buffers that the socket has added to the vector, and its result. -/
  | allocateTxBatch (buffers : List β) (result : Except Error Nat)
  | wrapNext
  | reply
  | unwrapNext
  /-- A send of the first `front` pending slots, which are stored in one piece. -/
  | send (front : Nat) (result : Except SendError Nat)
  | stopFlushing
  | notifyTx (result : Except Error Unit)
  | drainTxCompletions (result : Except Error Nat)
  /-- The packets that the socket has added to the receive batch, and its result. -/
  | recv (packets : List β) (result : Except Error Nat)
  | skipRecv
  | wrapNextRx
  | deliver
  | decide
  /-- The command queue reports its end to a waiting actor. -/
  | commandsEnd
  /-- The descriptor of the socket becomes readable, or waiting for it fails. -/
  | readable (result : Except Unit Unit)
  | closeCommands
  | discardCommand
  | stopDiscarding
  /-- One of the wrapped buffers that the actor drops is released. -/
  | release (wrapped : Wrapped β)
  | load
  | createNotified
  | poll
deriving DecidableEq

namespace Actor

/-- The actor before its first step. -/
def initial : Actor β :=
  { phase := .polling
    progressed := false
    rxOpen := true
    commandsOpen := true
    shutdownRequested := false
    pendingTx := []
    recvBatch := []
    drops := 0
    handled := []
    accepted := [] }

variable (actor : Actor β)

/-- `run_actor_inner` returns, and its local variables are dropped. -/
def finish (result : Except AsyncUdpError Unit) : Actor β :=
  { actor with phase := .closing result, pendingTx := [], recvBatch := [] }

/-- The next round of the main loop. -/
def nextRound : Actor β :=
  { actor with phase := .polling, progressed := false }

/-- The command loop goes on when it can take and queue another command. -/
def takesCommands (config : ActorConfig) : Bool :=
  actor.commandsOpen && !actor.shutdownRequested &&
    decide (actor.pendingTx.length < config.pendingTxCapacity)

/-- Begins to handle a command. -/
def handleCommand (command : ActorCommand β) : Actor β :=
  let actor := { actor with handled := actor.handled ++ [command] }
  match command with
  | .allocate max reply => { actor with phase := .allocating max reply }
  | .sendBuffers buffers info => { actor with phase := .unwrapping (buffers.map info.transmit) }
  | .sendPackets packets => { actor with phase := .unwrapping packets }
  | .shutdown =>
    { actor with phase := .polling, shutdownRequested := true, commandsOpen := false }

/-- The effect of a send on the pending slots. -/
def send (second sent : Bool) (result : Except SendError Nat) : Actor β :=
  let accepted := acceptedCount result
  let actor := { actor with
    accepted := actor.accepted ++ readyItems (actor.pendingTx.take accepted)
    pendingTx := actor.pendingTx.drop accepted }
  match result with
  | .ok 0 => { actor with phase := .flushed second sent }
  | .ok _ => { actor with phase := .flushing second true }
  | .error error => actor.finish (.error (.send error))

/-- The end of `flush_pending_tx`, with the doorbell that it rings after progress. -/
def notifyTx (second sent : Bool) (result : Except Error Unit) : Actor β :=
  match sent, result with
  | true, .error error => actor.finish (.error (.socket error))
  | _, _ =>
    { actor with
      phase := if second then .receiving else .draining
      progressed := actor.progressed || sent }

def drainTxCompletions (result : Except Error Nat) : Actor β :=
  match result with
  | .ok drained =>
    { actor with
      phase := .flushing true false
      progressed := actor.progressed || drained != 0 }
  | .error error => actor.finish (.error (.socket error))

def recv (packets : List β) (result : Except Error Nat) : Actor β :=
  let actor := { actor with recvBatch := packets }
  match result with
  | .ok 0 => { actor with phase := .deciding }
  | .ok _ => { actor with phase := .wrappingRx [], progressed := true }
  | .error .wouldBlock => { actor with phase := .deciding }
  | .error error => actor.finish (.error (.socket error))

/-- The end of a round: the actor returns, goes on or waits. -/
def endRound : Actor β :=
  if (actor.shutdownRequested || !actor.commandsOpen && !actor.rxOpen) &&
      actor.pendingTx.isEmpty then
    actor.finish (.ok ())
  else if actor.progressed then
    actor.nextRound
  else
    { actor with phase := .waiting }

/-- The steps that concern the local variables and the socket only. -/
def step (config : ActorConfig) (action : ActorAction β) : Option (Actor β) :=
  match action, actor.phase with
  | .allocateTxBatch buffers result, .allocating _ reply =>
    match result with
    | .ok _ => some { actor with phase := .wrapping reply buffers [] }
    | .error error => some { actor with phase := .replying reply (.error error) }
  | .send front result, .flushing second sent =>
    if 0 < front ∧ front ≤ actor.pendingTx.length ∧ acceptedCount result ≤ front then
      some (actor.send second sent result)
    else
      none
  | .stopFlushing, .flushing second sent =>
    if actor.pendingTx.isEmpty then
      some { actor with phase := .flushed second sent }
    else
      none
  | .notifyTx result, .flushed second sent => some (actor.notifyTx second sent result)
  | .drainTxCompletions result, .draining => some (actor.drainTxCompletions result)
  | .recv packets result, .receiving =>
    if actor.rxOpen ∧ ¬ actor.shutdownRequested ∧ packets.length ≤ config.recvBatchSize then
      some (actor.recv packets result)
    else
      none
  | .skipRecv, .receiving =>
    if actor.rxOpen ∧ ¬ actor.shutdownRequested then
      none
    else
      some { actor with phase := .deciding }
  | .decide, .deciding => some actor.endRound
  | .readable result, .waiting =>
    match result with
    | .ok _ => some actor.nextRound
    | .error _ => some (actor.finish (.error .io))
  | _, _ => none

/-- The packets that were queued: those that the socket has accepted and those that
are pending. -/
def queued : List (UdpTransmit β) :=
  actor.accepted ++ readyItems actor.pendingTx

/-- The actor goes on with the packets it has. -/
structure Continues (target : Actor β) : Prop where
  quiet : target.phase.Quiet
  queued : target.queued = actor.queued

/-- `run_actor_inner` returns.  Pending packets are lost unless it succeeds. -/
structure Ends (target : Actor β) (result : Except AsyncUdpError Unit) : Prop where
  phase : target.phase = .closing result
  pendingTx : target.pendingTx = []
  recvBatch : target.recvBatch = []
  accepted : target.accepted <+: actor.queued
  complete : result = .ok () → target.accepted = actor.queued

/-- What a local step can do. -/
structure LocalMove (target : Actor β) : Prop where
  quiet : actor.phase.Quiet
  drops : target.drops = actor.drops
  handled : target.handled = actor.handled
  outcome : actor.Continues target ∨ ∃ result, actor.Ends target result

variable {actor}

theorem ends_finish {result : Except AsyncUdpError Unit}
    (complete : result = .ok () → actor.pendingTx = []) :
    actor.Ends (actor.finish result) result := by
  refine ⟨rfl, rfl, rfl, List.prefix_append _ _, ?_⟩
  intro succeeded
  rw [queued, complete succeeded]
  exact (List.append_nil _).symm

variable {target : Actor β}

theorem localMove_continue (source : actor.phase.Quiet) (quiet : target.phase.Quiet)
    (queued : target.queued = actor.queued) (drops : target.drops = actor.drops)
    (handled : target.handled = actor.handled) : actor.LocalMove target :=
  ⟨source, drops, handled, .inl ⟨quiet, queued⟩⟩

theorem localMove_fail (source : actor.phase.Quiet) (error : AsyncUdpError) :
    actor.LocalMove (actor.finish (.error error)) :=
  ⟨source, rfl, rfl, .inr ⟨_, ends_finish nofun⟩⟩

/-- A send moves packets from the pending slots to the accepted ones. -/
theorem queued_take (count : Nat) :
    actor.accepted ++ readyItems (actor.pendingTx.take count) ++
      readyItems (actor.pendingTx.drop count) = actor.queued := by
  rw [List.append_assoc, readyItems, readyItems, ← List.filterMap_append, List.take_append_drop]
  rfl

theorem localMove_send (source : actor.phase.Quiet) (second sent : Bool)
    (result : Except SendError Nat) : actor.LocalMove (actor.send second sent result) := by
  fun_cases send actor second sent result
  · exact localMove_continue source ⟨rfl, rfl, rfl⟩ (queued_take _) rfl rfl
  · exact localMove_continue source ⟨rfl, rfl, rfl⟩ (queued_take _) rfl rfl
  · exact ⟨source, rfl, rfl, .inr ⟨_, rfl, rfl, rfl, ⟨_, queued_take _⟩, nofun⟩⟩

theorem localMove_notifyTx (source : actor.phase.Quiet) (second sent : Bool)
    (result : Except Error Unit) : actor.LocalMove (actor.notifyTx second sent result) := by
  fun_cases notifyTx actor second sent result
  · exact localMove_fail source _
  · refine localMove_continue source ?_ rfl rfl rfl
    cases second <;> exact ⟨rfl, rfl, rfl⟩

theorem localMove_drainTxCompletions (source : actor.phase.Quiet) (result : Except Error Nat) :
    actor.LocalMove (actor.drainTxCompletions result) := by
  fun_cases drainTxCompletions actor result
  · exact localMove_continue source ⟨rfl, rfl, rfl⟩ rfl rfl rfl
  · exact localMove_fail source _

theorem localMove_recv (source : actor.phase.Quiet) (packets : List β)
    (result : Except Error Nat) : actor.LocalMove (actor.recv packets result) := by
  fun_cases recv actor packets result
  · exact localMove_continue source ⟨rfl, rfl, rfl⟩ rfl rfl rfl
  · exact localMove_continue source ⟨rfl, rfl, rfl⟩ rfl rfl rfl
  · exact localMove_continue source ⟨rfl, rfl, rfl⟩ rfl rfl rfl
  · exact localMove_fail source _

theorem localMove_endRound (source : actor.phase.Quiet) : actor.LocalMove actor.endRound := by
  fun_cases endRound actor
  · rename_i finished
    refine ⟨source, rfl, rfl, .inr ⟨_, ends_finish fun _ => ?_⟩⟩
    exact List.isEmpty_iff.mp (Bool.and_eq_true_iff.mp finished).2
  · exact localMove_continue source ⟨rfl, rfl, rfl⟩ rfl rfl rfl
  · exact localMove_continue source ⟨rfl, rfl, rfl⟩ rfl rfl rfl

theorem localMove_step {config : ActorConfig} {action : ActorAction β}
    (stepped : actor.step config action = some target) : actor.LocalMove target := by
  revert stepped
  fun_cases step actor config action
  all_goals rintro ⟨⟩
  all_goals
    rename actor.phase = _ => isPhase
    have quiet : actor.phase.Quiet := by
      rw [isPhase]
      exact ⟨rfl, rfl, rfl⟩
  case case3 => exact localMove_send quiet ..
  case case7 => exact localMove_notifyTx quiet ..
  case case8 => exact localMove_drainTxCompletions quiet _
  case case9 => exact localMove_recv quiet ..
  case case13 => exact localMove_endRound quiet
  case case15 => exact localMove_fail quiet _
  all_goals exact localMove_continue quiet ⟨rfl, rfl, rfl⟩ rfl rfl rfl

theorem LocalMove.wrapped_eq_zero (moved : actor.LocalMove target) : target.phase.wrapped = 0 := by
  rcases moved.outcome with continues | ⟨result, ends⟩
  · exact continues.quiet.1
  · rw [ends.phase]
    rfl

end Actor

end FastSocket.Async
