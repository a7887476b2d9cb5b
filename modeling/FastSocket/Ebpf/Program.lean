import FastSocket.Ebpf.Redirect
import Mathlib.Data.List.AList

/-!
# Loaded programs

Userspace loads one of the two programs and, for the one with a port array, keeps
the array and its count in step with the ports that are in use.  Each write of a
map entry can fail.
-/

namespace FastSocket.Ebpf

open Packet

/-! ## Loading and binding -/

inductive XdpProgramConfig where
  | boundPorts
  | portRange (start stop : Word)
deriving DecidableEq, Repr

inductive ProgramError where
  /-- The range starts behind its end. -/
  | invertedRange (start stop : Word)
  /-- The programs treat the all-zero range as disabled. -/
  | disabledRange
  /-- Individual port binding is only supported by the bound-ports program. -/
  | notBoundPorts
  /-- A map entry could not be written. -/
  | mapWrite
deriving DecidableEq, Repr

def XdpProgramConfig.validate : XdpProgramConfig → Except ProgramError XdpProgramConfig
  | .boundPorts => .ok .boundPorts
  | .portRange start stop =>
    if start > stop then
      .error (.invertedRange start stop)
    else if start = 0 ∧ stop = 0 then
      .error .disabledRange
    else
      .ok (.portRange start stop)

def boundPortsLen : Nat := 2 ^ 16

/-- The maps of a freshly loaded object. -/
def Maps.zeroed : Maps :=
  { xskmap := fun _ => false
    boundPorts := List.replicate boundPortsLen 0
    boundPortCount := [0]
    boundPortRange := [0, 0]
    dropCounters := [0, 0] }

def Maps.setBoundPort (maps : Maps) (port : Word) (enabled : Byte) : Maps :=
  { maps with boundPorts := maps.boundPorts.set port.toNat enabled }

def Maps.setBoundPortCount (maps : Maps) (count : BitVec 32) : Maps :=
  { maps with boundPortCount := maps.boundPortCount.set 0 count }

def Maps.configureBoundPortRange (maps : Maps) (start stop : Word) : Maps :=
  { maps with
    boundPortRange :=
      (maps.boundPortRange.set boundPortRangeStart start).set boundPortRangeEnd stop }

/-- A loaded program with its maps and the ports in use, with a count of users
each. -/
structure XdpProgram where
  config : XdpProgramConfig
  maps : Maps
  boundPorts : AList fun _ : Word => Nat

/-- Which of the map writes of a call succeed. -/
structure PortWrites where
  port : Bool
  count : Bool
  undo : Bool
deriving DecidableEq, Repr

namespace XdpProgram

/-- Loads the program that a configuration selects. -/
def loadAndAttach (config : XdpProgramConfig) : Except ProgramError XdpProgram := do
  match ← config.validate with
  | .boundPorts => return { config := .boundPorts, maps := .zeroed, boundPorts := ∅ }
  | .portRange start stop =>
    return {
      config := .portRange start stop
      maps := Maps.zeroed.configureBoundPortRange start stop
      boundPorts := ∅ }

variable (program : XdpProgram)

/-- Adds a user of a port. -/
def bindPort (port : Word) (writes : PortWrites) : Except ProgramError Unit × XdpProgram :=
  if program.config ≠ .boundPorts then
    (.error .notBoundPorts, program)
  else
    let refcount := (program.boundPorts.lookup port).getD 0
    let bound := program.boundPorts.insert port (refcount + 1)
    if refcount = 0 then
      if writes.port then
        let maps := program.maps.setBoundPort port 1
        if writes.count then
          let newCount := BitVec.ofNat 32 (program.boundPorts.keys.length + 1)
          (.ok (), { program with maps := maps.setBoundPortCount newCount, boundPorts := bound })
        else
          let maps := if writes.undo then maps.setBoundPort port 0 else maps
          (.error .mapWrite, { program with maps := maps })
      else
        (.error .mapWrite, program)
    else
      (.ok (), { program with boundPorts := bound })

/-- Removes a user of a port. -/
def unbindPort (port : Word) (writes : PortWrites) : Except ProgramError Unit × XdpProgram :=
  if program.config ≠ .boundPorts then
    (.error .notBoundPorts, program)
  else
    match program.boundPorts.lookup port with
    | none => (.ok (), program)
    | some refcount =>
      if refcount > 1 then
        (.ok (), { program with boundPorts := program.boundPorts.insert port (refcount - 1) })
      else if writes.port then
        let bound := program.boundPorts.erase port
        let maps := program.maps.setBoundPort port 0
        let count := BitVec.ofNat 32 bound.keys.length
        if writes.count then
          (.ok (), { program with maps := maps.setBoundPortCount count, boundPorts := bound })
        else
          (.error .mapWrite, { program with maps := maps, boundPorts := bound })
      else
        (.error .mapWrite, program)

/-- Runs the loaded program on a packet. -/
def handle (context : XdpContext) : XdpAction × Maps :=
  match program.config with
  | .boundPorts => fastSocketXdp program.maps context
  | .portRange _ _ => fastSocketXdpPortRange program.maps context

end XdpProgram

/-- What happens to a loaded program. -/
inductive ProgramAction where
  | bindPort (port : Word) (writes : PortWrites)
  | unbindPort (port : Word) (writes : PortWrites)
  /-- Sockets are registered for queues, removed or closed. -/
  | sockets (xskmap : Nat → Bool)
  /-- A packet arrives. -/
  | packet (context : XdpContext)

def XdpProgram.step (program : XdpProgram) : ProgramAction → Option XdpProgram
  | .bindPort port writes => some (program.bindPort port writes).2
  | .unbindPort port writes => some (program.unbindPort port writes).2
  | .sockets xskmap => some { program with maps := { program.maps with xskmap := xskmap } }
  | .packet context => some { program with maps := (program.handle context).2 }

/-- The ports whose packets a program takes. -/
def XdpProgram.Accepts (program : XdpProgram) (port : Word) : Prop :=
  match program.config with
  | .boundPorts => port ∈ program.boundPorts
  | .portRange start stop => start ≤ port ∧ port ≤ stop

end FastSocket.Ebpf
