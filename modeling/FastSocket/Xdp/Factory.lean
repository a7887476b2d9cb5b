import FastSocket.Ebpf.Registry
import FastSocket.Sorting.Group
import FastSocket.Transition.Fallible
import FastSocket.Xdp.Egress
import Mathlib.Data.List.Sort

/-!
# Socket factory

The first phase of opening aggregate sockets: it attaches one program to each
interface, fills their port filters and partitions the claimed queues by NUMA node into
one plan for each worker.  Whatever the host is asked can fail.
-/

namespace FastSocket.Xdp

open Ebpf Packet Sorting Transition

/-- A NUMA node. -/
abbrev NumaNode :=
  Nat

/-- A queue of an interface, and its position among all queues that were discovered. -/
structure XdpQueueSlot where
  iface : String
  ifindex : IfIndex
  queue : QueueId
  flatIndex : QueueId
deriving DecidableEq, Repr

inductive QueueClaim where
  | all
  | first (count : Nat)
  | queues (queues : List QueueId)
deriving DecidableEq, Repr

inductive PortFilter where
  | allIp
  | udpPorts (ports : List Word)
  | udpPortRange (start stop : Word)
deriving DecidableEq, Repr

inductive FactoryError where
  /-- The UDP port filter must include at least one port. -/
  | emptyPortFilter
  | invertedPortRange (start stop : Word)
  /-- The programs treat the all-zero range as disabled. -/
  | disabledPortRange
  /-- Claimed queues that are not among the available ones. -/
  | missingQueues (missing available : List QueueId)
  | noQueuesClaimed
  /-- There must be one thread at least. -/
  | zeroThreads
  | load (error : LoadError)
  | bindPort (error : ProgramError)
  | onlineNumaNodes
  | cpusForNumaNode (node : NumaNode)
  | ifIndexToName (ifindex : IfIndex)
  | numaNodeForInterface (iface : String)
  /-- The threads must be divisible by the NUMA nodes that the queues span. -/
  | threadsOverNodes (threads nodes : Nat)
  /-- The queues of a node must be divisible by its threads. -/
  | queuesOverThreads (node : NumaNode) (queues threads : Nat)
  /-- The queues of a worker would span several interfaces. -/
  | spansInterfaces (node : NumaNode)
  /-- The chosen CPU is not one of the node. -/
  | foreignCpu (cpu : Nat) (node : NumaNode)
deriving DecidableEq, Repr

namespace PortFilter

def validate : PortFilter → Except FactoryError Unit
  | .allIp => .ok ()
  | .udpPorts ports => if ports.isEmpty then .error .emptyPortFilter else .ok ()
  | .udpPortRange start stop =>
    if start > stop then
      .error (.invertedPortRange start stop)
    else if start = 0 ∧ stop = 0 then
      .error .disabledPortRange
    else
      .ok ()

def programConfig : PortFilter → XdpProgramConfig
  | .udpPortRange start stop => .portRange start stop
  | .allIp => .boundPorts
  | .udpPorts _ => .boundPorts

end PortFilter

/-- The builder, without the settings that it only hands on to the sockets. -/
structure XdpFactoryBuilder where
  slots : List XdpQueueSlot
  claim : QueueClaim
  threads : Option Nat
  portFilter : PortFilter
  attachMode : AttachMode
  /-- The caller's choice of a CPU for a node, its CPUs and a worker. -/
  coreAssignment : Option (NumaNode → List Nat → Nat → Nat)

/-- What the host answers; `none` is an error of the system.  The CPUs of a node are
read twice, and each map write of a bind can fail. -/
structure FactoryHost where
  programHash : BitVec 64
  attaches : IfIndex → Bool
  portWrites : IfIndex → Nat → PortWrites
  onlineNumaNodes : Option (List NumaNode)
  cpusForNumaNode : NumaNode → Option (List Nat)
  cpuForXdpQueue : XdpQueueSlot → Option Nat
  ifIndexToName : IfIndex → Option String
  numaNodeForInterface : String → Option NumaNode
  coresForNumaNode : NumaNode → Option (List Nat)

/-- One worker's queues, on one interface and one NUMA node. -/
structure XdpWorkerPlan where
  cpu : Nat
  numa : Option NumaNode
  ifindex : IfIndex
  queues : List QueueId
  queueId : QueueId
  portFilter : PortFilter
deriving DecidableEq, Repr

/-- The plans and the interfaces whose programs the factory holds. -/
structure XdpFactory where
  plans : List XdpWorkerPlan
  programs : List IfIndex
deriving DecidableEq, Repr

/-- An answer of the host, or an error. -/
def orFail {α : Type} (answer : Option α) (error : FactoryError) :
    Except (Stop FactoryError) α :=
  match answer with
  | some value => .ok value
  | none => .error (.failed error)

/-- An element that must be there. -/
def orPanic {α : Type} (element : Option α) : Except (Stop FactoryError) α :=
  match element with
  | some value => .ok value
  | none => .error .panicked

namespace XdpFactoryBuilder

variable (host : FactoryHost) (builder : XdpFactoryBuilder)

/-! ## Claims -/

def claimedSlots : List XdpQueueSlot :=
  match builder.claim with
  | .all => builder.slots
  | .first count => builder.slots.take count
  | .queues queues => queues.filterMap fun flat => builder.slots.find? (·.flatIndex = flat)

def claimedSlotsChecked : Except FactoryError (List XdpQueueSlot) :=
  match builder.claim with
  | .queues queues =>
    let isAvailable (flat : QueueId) : Bool := (builder.slots.find? (·.flatIndex = flat)).isSome
    let missing := queues.filter (!isAvailable ·)
    if missing.isEmpty then
      .ok builder.claimedSlots
    else
      .error (.missingQueues missing (builder.slots.map (·.flatIndex)))
  | _ => .ok builder.claimedSlots

/-- The checks before anything is loaded: the claimed queues and the threads. -/
def checked : Except FactoryError (List XdpQueueSlot × Nat) := do
  builder.portFilter.validate
  let claimed ← builder.claimedSlotsChecked
  ensure (claimed ≠ []) .noQueuesClaimed
  let threads := builder.threads.getD claimed.length
  ensure (threads ≠ 0) .zeroThreads
  return (claimed, threads)

/-! ## Placement -/

/-- The node of each CPU. -/
def buildCpuNodeMap : Except (Stop FactoryError) (AList fun _ : Nat => NumaNode) := do
  let nodes ← orFail host.onlineNumaNodes .onlineNumaNodes
  nodes.foldlM (fun map node => do
    let cpus ← orFail (host.cpusForNumaNode node) (.cpusForNumaNode node)
    return cpus.foldl (fun map cpu => map.insert cpu node) map) ∅

/-- The node of a queue: that of its IRQ CPU, or else that of its interface. -/
def queueNumaNode (cpuNode : AList fun _ : Nat => NumaNode) (slot : XdpQueueSlot) :
    Except (Stop FactoryError) NumaNode :=
  match (host.cpuForXdpQueue slot).bind cpuNode.lookup with
  | some node => .ok node
  | none => do
      let iface ← orFail (host.ifIndexToName slot.ifindex) (.ifIndexToName slot.ifindex)
      orFail (host.numaNodeForInterface iface) (.numaNodeForInterface iface)

/-- The CPU of a worker of a node. -/
def chooseCpu (node : NumaNode) (cores : List Nat) (index : Nat) :
    Except (Stop FactoryError) Nat :=
  match builder.coreAssignment with
  | some assign =>
    let chosen := assign node cores index
    if chosen ∈ cores then .ok chosen else .error (.failed (.foreignCpu chosen node))
  | none => orPanic cores[index % cores.length]?

/-- The plan of one worker for a block of queues. -/
def planBlock (programs : List IfIndex) (node : NumaNode) (cores : List Nat)
    (block : List XdpQueueSlot × Nat) : Except (Stop FactoryError) XdpWorkerPlan := do
  let first ← orPanic block.1[0]?
  ensure (∀ slot ∈ block.1, slot.ifindex = first.ifindex) (.failed (.spansInterfaces node))
  let cpu ← builder.chooseCpu node cores block.2
  let queues := block.1.map (·.queue)
  let queueId ← orPanic queues[0]?
  ensure (first.ifindex ∈ programs) .panicked
  return {
    cpu := cpu
    numa := some node
    ifindex := first.ifindex
    queues := queues
    queueId := queueId
    portFilter := builder.portFilter }

/-- The blocks of the queues of a node with the positions of their workers.  The queues are
sorted by interface, in the order of the claim within each. -/
def nodeBlocks (threadsPerNode : Nat) (slots : List XdpQueueSlot) :
    List (List XdpQueueSlot × Nat) :=
  let perBlock := slots.length / threadsPerNode
  (chunks perBlock (slots.insertionSort fun left right => left.ifindex ≤ right.ifindex)).zipIdx

/-- The plans of the workers of one node. -/
def planNode (programs : List IfIndex) (threadsPerNode : Nat)
    (group : NumaNode × List XdpQueueSlot) : Except (Stop FactoryError) (List XdpWorkerPlan) := do
  let nodeQueueCount := group.2.length
  ensure (threadsPerNode ∣ nodeQueueCount)
    (.failed (.queuesOverThreads group.1 nodeQueueCount threadsPerNode))
  ensure (threadsPerNode ≠ 0) .panicked
  let cores ← orFail (host.coresForNumaNode group.1) (.cpusForNumaNode group.1)
  -- Blocks of no queues would stop the program.
  ensure (nodeQueueCount / threadsPerNode ≠ 0) .panicked
  (nodeBlocks threadsPerNode group.2).mapM (builder.planBlock programs group.1 cores)

/-- The claimed queues by node. -/
def groupByNode (claimed : List XdpQueueSlot) :
    Except (Stop FactoryError) (List (NumaNode × List XdpQueueSlot)) := do
  let cpuNode ← buildCpuNodeMap host
  claimed.foldlM (fun groups slot => do
    let node ← queueNumaNode host cpuNode slot
    return insertGroup node slot groups) []

/-- The plans of all workers. -/
def plans (programs : List IfIndex) (claimed : List XdpQueueSlot) (threads : Nat) :
    Except (Stop FactoryError) (List XdpWorkerPlan) := do
  let byNode ← groupByNode host claimed
  ensure (byNode.length ∣ threads) (.failed (.threadsOverNodes threads byNode.length))
  ensure (byNode.length ≠ 0) .panicked
  let plans ← byNode.mapM (builder.planNode host programs (threads / byNode.length))
  return plans.flatten

/-! ## Programs -/

/-- Attaches a program to the interface of each claimed queue; `programs` holds the
interfaces that have one already, in order. -/
def loadPrograms : List XdpQueueSlot → (programs : List IfIndex) → Registry →
    Except FactoryError Unit × List IfIndex × Registry
  | [], programs, registry => (.ok (), programs, registry)
  | slot :: rest, programs, registry =>
    if slot.ifindex ∈ programs then
      loadPrograms rest programs registry
    else
      match registry.getOrLoadWithConfig slot.ifindex builder.attachMode
          builder.portFilter.programConfig host.programHash (host.attaches slot.ifindex) with
      | (.error error, registry) => (.error (.load error), programs, registry)
      | (.ok _, registry) =>
        loadPrograms rest (programs.orderedInsert (· ≤ ·) slot.ifindex) registry

/-- Binds the ports of the filter, each with the fate of its writes. -/
def bindPorts : (writes : Nat → PortWrites) → List Word → XdpProgram →
    Except ProgramError Unit × XdpProgram
  | _, [], program => (.ok (), program)
  | writes, port :: rest, program =>
    match program.bindPort port (writes 0) with
    | (.error error, program) => (.error error, program)
    | (.ok _, program) => bindPorts (fun position => writes (position + 1)) rest program

/-- Binds ports in each program that the factory holds. -/
def bindPrograms (ports : List Word) :
    List IfIndex → Registry → Except FactoryError Unit × Registry
  | [], registry => (.ok (), registry)
  | ifindex :: rest, registry =>
    match registry.lookup ifindex with
    | none => bindPrograms ports rest registry
    | some attached =>
      let bound := bindPorts (host.portWrites ifindex) ports attached.program
      let registry := registry.insert ifindex { attached with program := bound.2 }
      match bound.1 with
      | .error error => (.error (.bindPort error), registry)
      | .ok _ => bindPrograms ports rest registry

/-- Fills the port filter once per program. -/
def fillPortFilter (programs : List IfIndex) (registry : Registry) :
    Except FactoryError Unit × Registry :=
  match builder.portFilter with
  | .udpPorts ports => bindPrograms host ports programs registry
  | _ => (.ok (), registry)

/-- Drops a handle of each interface. -/
def releaseAll (programs : List IfIndex) (registry : Registry) : Registry :=
  programs.foldl Registry.release registry

/-- Another handle for a plan. -/
def cloneHandle (registry : Registry) (plan : XdpWorkerPlan) : Registry :=
  match registry.lookup plan.ifindex with
  | some attached => registry.insert plan.ifindex attached.acquire
  | none => registry

/-- Attaches the programs, fills their filters and partitions the queues.  An error drops
the handles that were taken so far. -/
def build (registry : Registry) : Except (Stop FactoryError) XdpFactory × Registry :=
  match builder.checked with
  | .error error => (.error (.failed error), registry)
  | .ok (claimed, threads) =>
    match builder.loadPrograms host claimed [] registry with
    | (.error error, programs, registry) =>
      (.error (.failed error), releaseAll programs registry)
    | (.ok _, programs, registry) =>
      match builder.fillPortFilter host programs registry with
      | (.error error, registry) => (.error (.failed error), releaseAll programs registry)
      | (.ok _, registry) =>
        match builder.plans host programs claimed threads with
        | .error stop => (.error stop, releaseAll programs registry)
        | .ok plans =>
          (.ok { plans := plans, programs := programs },
            plans.foldl cloneHandle registry)

end XdpFactoryBuilder

end FastSocket.Xdp
