import FastSocket.Xdp.FactoryBuild
import FastSocket.Xdp.ReceiveLoop
import FastSocket.Xdp.SharedRollback

/-!
# Opening the plans of a factory

The second phase of opening aggregate sockets.  Each worker opens its plan as a UDP
aggregate.  The port filter of the factory decides which port the members bind and which
ports they accept.
-/

namespace FastSocket.Xdp

open Ebpf Packet Transition

namespace XdpUdpAcceptedPorts

/-- A list of ports, sorted and without repetitions; it must not be empty. -/
def ofPorts (ports : List Word) : Except (Stop OpenError) XdpUdpAcceptedPorts := do
  ensure (ports ≠ []) .panicked
  return .ports (ports.insertionSort (· ≤ ·)).dedup

/-- An inclusive range of ports; it must not start behind its end. -/
def ofRange (start stop : Word) : Except (Stop OpenError) XdpUdpAcceptedPorts := do
  ensure (start ≤ stop) .panicked
  return .range start stop

end XdpUdpAcceptedPorts

/-- A member of a UDP aggregate with the ports that its parser accepts. -/
structure UdpMember where
  member : LiveMember
  acceptedPorts : XdpUdpAcceptedPorts
deriving DecidableEq, Repr

/-- `XdpUdpSocket::open_shared_busy_poll_accepting`. -/
def SharedOpenConfig.openSharedAccepting (config : SharedOpenConfig) (host : OpenHost)
    (queues : List QueueId) (acceptedPorts : Except (Stop OpenError) XdpUdpAcceptedPorts)
    (loaded : SocketProgram) : Except (Stop OpenError) (List UdpMember) × SocketProgram :=
  match acceptedPorts with
  | .error stop => (.error stop, loaded)
  | .ok acceptedPorts =>
    match config.openSharedMembers host queues loaded with
    | (.error stop, loaded) => (.error stop, loaded)
    | (.ok opened, loaded) => (.ok (opened.2.map (⟨·, acceptedPorts⟩)), loaded)

namespace PortFilter

/-- The port that opening binds.  The ports of a list and of a range are in the program
already. -/
def bindUdpPort (localPort : Word) : PortFilter → Option Word
  | .allIp => some localPort
  | .udpPorts _ => none
  | .udpPortRange _ _ => none

def acceptedPorts (localPort : Word) : PortFilter → Except (Stop OpenError) XdpUdpAcceptedPorts
  | .allIp => .ok (.single localPort)
  | .udpPorts ports => XdpUdpAcceptedPorts.ofPorts ports
  | .udpPortRange start stop => XdpUdpAcceptedPorts.ofRange start stop

/-- The ports that a filter lets in, of sockets on a local port. -/
def Selects (localPort : Word) : PortFilter → Word → Prop
  | .allIp, port => port = localPort
  | .udpPorts ports, port => port ∈ ports
  | .udpPortRange start stop, port => start ≤ port ∧ port ≤ stop

end PortFilter

/-- `XdpWorkerPlan::open_udp_busy_poll_unpinned`, with the settings that the builder hands
on. -/
def XdpWorkerPlan.openUdp (plan : XdpWorkerPlan) (settings : SharedOpenConfig) (host : OpenHost)
    (localPort : Word) (loaded : SocketProgram) :
    Except (Stop OpenError) (List UdpMember) × SocketProgram :=
  let config := { settings with
    ifindex := plan.ifindex
    attachedProgram := some plan.ifindex
    bindUdpPort := plan.portFilter.bindUdpPort localPort }
  config.openSharedAccepting host plan.queues (plan.portFilter.acceptedPorts localPort) loaded

/-- The aggregate of a plan. -/
structure UdpAggregate where
  ifindex : IfIndex
  members : List UdpMember
deriving DecidableEq, Repr

/-- The workers open their plans one after the other, each with the answers of its host. -/
def openPlans (settings : SharedOpenConfig) (localPort : Word) :
    List (XdpWorkerPlan × OpenHost) → (IfIndex → SocketProgram) →
    Except (Stop OpenError) (List UdpAggregate) × (IfIndex → SocketProgram)
  | [], programs => (.ok [], programs)
  | (plan, host) :: rest, programs =>
    let opened := plan.openUdp settings host localPort (programs plan.ifindex)
    let programs := Function.update programs plan.ifindex opened.2
    match opened.1 with
    | .error stop => (.error stop, programs)
    | .ok members =>
      let others := openPlans settings localPort rest programs
      (others.1.map (⟨plan.ifindex, members⟩ :: ·), others.2)

/-! ## What opening does to a program -/

/-- A program as it is with other sockets. -/
def withSockets (program : XdpProgram) (xskmap : Nat → Bool) : XdpProgram :=
  { program with maps := { program.maps with xskmap := xskmap } }

theorem registerAll_withSockets {host : OpenHost} {index : Nat} {pairs : List (QueueId × Nat)}
    {registered done : List QueueId} {loaded target : SocketProgram}
    (isDone : registerAll host index pairs registered loaded = (.ok done, target)) :
    ∃ xskmap, target.program = withSockets loaded.program xskmap := by
  induction pairs generalizing index registered loaded with
  | nil =>
    cases isDone
    exact ⟨_, rfl⟩
  | cons pair rest ih =>
    obtain ⟨queue, socket⟩ := pair
    rw [registerAll] at isDone
    cases isRegistered : host.registers index with
    | false =>
      rw [isRegistered] at isDone
      cases isDone
    | true =>
      rw [isRegistered] at isDone
      obtain ⟨xskmap, isProgram⟩ := ih isDone
      exact ⟨xskmap, isProgram⟩

namespace SharedOpenConfig

variable {config : SharedOpenConfig} {host : OpenHost} {queues : List QueueId}
  {loaded target : SocketProgram}

theorem registerMembers_filter {sockets : List Nat}
    (isDone : config.registerMembers host queues sockets loaded = (.ok (), target)) :
    ∃ xskmap,
      (config.bindUdpPort = none ∧ target.program = withSockets loaded.program xskmap) ∨
      ∃ port, config.bindUdpPort = some port ∧
        (withSockets loaded.program xskmap).bindPort port host.binds = (.ok (), target.program) := by
  rw [registerMembers] at isDone
  split at isDone
  · cases isDone
  next registered isRegistered =>
    obtain ⟨xskmap, isProgram⟩ := registerAll_withSockets isRegistered
    refine ⟨xskmap, ?_⟩
    rw [← isProgram]
    cases isPort : config.bindUdpPort with
    | none =>
      rw [isPort] at isDone
      cases isDone
      exact .inl ⟨rfl, rfl⟩
    | some port =>
      rw [isPort] at isDone
      dsimp only at isDone
      split at isDone
      · cases isDone
      next isBound =>
        cases isDone
        have result := congrArg (·.1) isBound
        have bound := congrArg (·.2.program) isBound
        exact .inr ⟨port, rfl, Prod.ext result bound⟩

/-- What opening does to the filter of a program: it binds the port of the
configuration. -/
theorem openSharedMembers_filter {opened : CompletionReclaim × List LiveMember}
    (isOpen : config.openSharedMembers host queues loaded = (.ok opened, target)) :
    opened.2 ≠ [] ∧ ∃ xskmap,
      (config.bindUdpPort = none ∧ target.program = withSockets loaded.program xskmap) ∨
      ∃ port, config.bindUdpPort = some port ∧
        (withSockets loaded.program xskmap).bindPort port host.binds = (.ok (), target.program) := by
  have someQueues : queues ≠ [] := by
    rintro rfl
    cases isOpen
  rw [openSharedMembers] at isOpen
  split at isOpen
  · cases isOpen
  next created =>
    split at isOpen
    · cases isOpen
    next isRegistered =>
      split at isOpen
      · cases isOpen
      · cases isOpen
        refine ⟨?_, registerMembers_filter isRegistered⟩
        obtain ⟨queue, restQueues, rfl⟩ := List.exists_cons_of_ne_nil someQueues
        obtain ⟨socket, restSockets, rfl⟩ :=
          List.exists_cons_of_length_eq_add_one (prepared_of_newMembers created).length
        rw [liveMembers_cons]
        exact List.cons_ne_nil _ _

end SharedOpenConfig

end FastSocket.Xdp
