import FastSocket.Packet.Ipv4Udp
import FastSocket.Spsc.Queue
import FastSocket.Transition.Program
import FastSocket.Xdp.FrameReclaim

/-!
# A live socket and its environment

The state of an AF_XDP socket: its four rings, the free frames of its two pools
and its transmit counters, together with what the kernel and the application hold
of its frames.  The rings are queues here, as they implement them.

The socket is driven by one thread.  The kernel and other threads act at the
points where that thread reads something they share; what they do at each point
is scripted in `turns`, so that a theorem for every script is a theorem for every
interleaving.
-/

namespace FastSocket.Xdp

open Packet Spsc

/-- A step of the kernel, or of a thread that drops a buffer. -/
inductive EnvironmentAction where
  | takeFill (count : Nat)
  | deliver (index : Nat) (desc : XdpDesc)
  | takeTx (count : Nat)
  | complete (index : Nat)
  | setFillNeedWakeup (value : Bool)
  | setTxNeedWakeup (value : Bool)
  | dropRemote (index : Nat)
deriving DecidableEq, Repr

/-- What happens at one point where the socket's thread reads shared state, and
whether the system call made there succeeds. -/
structure Turn where
  actions : List EnvironmentAction
  succeeds : Bool
deriving DecidableEq, Repr

/-- A frame in an application buffer, and the pool that the buffer is dropped to. -/
structure HeldFrame where
  pool : PoolKind
  frame : Addr
deriving DecidableEq, Repr

/-- A live socket.  After the socket's own state come the frames that the kernel has
taken from the FILL and TX rings, the application buffers, the script of the
environment and the number of TX doorbells rung. -/
structure XdpSocket where
  umem : Umem
  fill : ProducerQueue Addr
  rx : ConsumerQueue XdpDesc
  tx : ProducerQueue XdpDesc
  completion : ConsumerQueue Addr
  fillNeedWakeup : Bool
  txNeedWakeup : Bool
  rxReclaim : FrameReclaim
  txReclaim : FrameReclaim
  rxL2Headroom : Nat
  txDataOffset : Nat
  completionReclaim : CompletionReclaim
  txInFlight : Nat
  txSinceCompletionDrain : Nat
  txCompletionDrainThreshold : Nat
  txCompletionDrainInterval : Nat
  txWakePending : Bool
  kernelRx : List Addr
  kernelTx : List Addr
  held : List HeldFrame
  turns : List Turn
  doorbells : Nat

namespace XdpSocket

variable (socket : XdpSocket)

/-- The pool that a dropped buffer goes to. -/
def pool : PoolKind → FrameReclaim
  | .rx => socket.rxReclaim
  | .tx => socket.txReclaim

def setPool (kind : PoolKind) (reclaim : FrameReclaim) : XdpSocket :=
  match kind with
  | .rx => { socket with rxReclaim := reclaim }
  | .tx => { socket with txReclaim := reclaim }

/-! ## The environment -/

/-- A step of the environment, if it is enabled.  The kernel returns each frame that
it takes from the FILL ring in at most one RX descriptor, and each descriptor that
it takes from the TX ring in one completion. -/
def environmentStep : EnvironmentAction → Option XdpSocket
  | .takeFill count =>
    some { socket with
      fill := socket.fill.consume count
      kernelRx := socket.kernelRx ++ socket.fill.entries.take count }
  | .deliver index desc => do
      let frame ← socket.kernelRx[index]?
      let rx ← socket.rx.publish desc
      if socket.umem.frameOf desc.addr = frame then
        some { socket with rx := rx, kernelRx := socket.kernelRx.eraseIdx index }
      else
        none
  | .takeTx count =>
    some { socket with
      tx := socket.tx.consume count
      kernelTx := socket.kernelTx ++ (socket.tx.entries.take count).map XdpDesc.addr }
  | .complete index => do
      let addr ← socket.kernelTx[index]?
      let completion ← socket.completion.publish addr
      some { socket with completion := completion, kernelTx := socket.kernelTx.eraseIdx index }
  | .setFillNeedWakeup value => some { socket with fillNeedWakeup := value }
  | .setTxNeedWakeup value => some { socket with txNeedWakeup := value }
  | .dropRemote index => do
      let buffer ← socket.held[index]?
      let reclaim ← (socket.pool buffer.pool).pushRemote buffer.frame
      some { socket.setPool buffer.pool reclaim with held := socket.held.eraseIdx index }

/-- The environment leaves everything but the rings, the flags, the pools and the frames
in the hands of the kernel and of the application. -/
theorem environmentStep_frame {action : EnvironmentAction} {next : XdpSocket}
    (taken : socket.environmentStep action = some next) :
    ∃ fill rx tx completion fillNeedWakeup txNeedWakeup rxReclaim txReclaim kernelRx kernelTx held,
      next = { socket with
        fill := fill
        rx := rx
        tx := tx
        completion := completion
        fillNeedWakeup := fillNeedWakeup
        txNeedWakeup := txNeedWakeup
        rxReclaim := rxReclaim
        txReclaim := txReclaim
        kernelRx := kernelRx
        kernelTx := kernelTx
        held := held } := by
  cases action with
  | deliver index desc =>
    simp only [environmentStep, Option.bind_eq_bind, Option.bind_eq_some_iff] at taken
    obtain ⟨frame, _, rx, _, taken⟩ := taken
    obtain ⟨_, ⟨⟩⟩ := Option.ite_none_right_eq_some.mp taken
    exact ⟨_, _, _, _, _, _, _, _, _, _, _, rfl⟩
  | complete index =>
    simp only [environmentStep, Option.bind_eq_bind, Option.bind_eq_some_iff] at taken
    obtain ⟨addr, _, completion, _, ⟨⟩⟩ := taken
    exact ⟨_, _, _, _, _, _, _, _, _, _, _, rfl⟩
  | dropRemote index =>
    simp only [environmentStep, Option.bind_eq_bind, Option.bind_eq_some_iff] at taken
    obtain ⟨⟨kind, frame⟩, _, reclaim, _, ⟨⟩⟩ := taken
    cases kind <;> exact ⟨_, _, _, _, _, _, _, _, _, _, _, rfl⟩
  | _ =>
    cases taken
    exact ⟨_, _, _, _, _, _, _, _, _, _, _, rfl⟩

/-- The steps of the environment that are enabled, one after the other. -/
def environmentSteps (actions : List EnvironmentAction) : XdpSocket :=
  actions.foldl (fun socket action => (socket.environmentStep action).getD socket) socket

/-- The environment's next turn. -/
def takeTurn : Bool × XdpSocket :=
  match socket.turns with
  | [] => (true, socket)
  | turn :: rest => (turn.succeeds, { socket with turns := rest }.environmentSteps turn.actions)

/-- A preorder that the environment's steps respect is respected by its turns. -/
theorem respects_takeTurn {R : XdpSocket → XdpSocket → Prop} [Std.Refl R] [IsTrans XdpSocket R]
    (script : ∀ (socket : XdpSocket) (turns : List Turn), R socket { socket with turns := turns })
    (step : ∀ (socket next : XdpSocket) (action : EnvironmentAction),
      socket.environmentStep action = some next → R socket next)
    (socket : XdpSocket) : R socket socket.takeTurn.2 := by
  have steps : ∀ (actions : List EnvironmentAction) (socket : XdpSocket),
      R socket (socket.environmentSteps actions) := by
    intro actions
    induction actions with
    | nil => exact fun socket => refl_of R socket
    | cons action rest ih =>
      intro socket
      have first : R socket ((socket.environmentStep action).getD socket) := by
        cases taken : socket.environmentStep action with
        | none => exact refl_of R socket
        | some next => exact step socket next action taken
      exact trans_of R first (ih _)
  rw [takeTurn]
  split
  · exact refl_of R socket
  · exact trans_of R (script socket _) (steps _ _)

end XdpSocket

/-- Lets the environment run; the result is that of the system call made here. -/
def interleave : StateM XdpSocket Bool :=
  modifyGet XdpSocket.takeTurn

end FastSocket.Xdp
