import FastSocket.Ebpf.PortLedger
import Mathlib.Data.Finset.Insert

/-!
# Registered sockets

A loaded program hands a packet to the socket that is registered for its queue.
Userspace keeps track of the queues that it has registered, beside the entries of the
kernel's map.
-/

namespace FastSocket.Ebpf

open Packet

/-- All writes of a call succeed. -/
def PortWrites.all : PortWrites :=
  ⟨true, true, true⟩

/-- A loaded program with the descriptors of the sockets in its map and the queues that
userspace has registered. -/
structure SocketProgram where
  program : XdpProgram
  wellFormed : program.WellFormed
  sockets : Nat → Option Nat
  synced : ∀ queue, program.maps.xskmap queue = (sockets queue).isSome
  registeredQueues : Finset Nat

namespace SocketProgram

variable (loaded : SocketProgram)

/-- The users of a port. -/
def refcount (port : Word) : Nat :=
  loaded.program.refcount port

/-- Writes the map entry of a queue. -/
def setSocket (queue : Nat) (socket : Option Nat) : SocketProgram :=
  let sockets := Function.update loaded.sockets queue socket
  { loaded with
    program := { loaded.program with
      maps := { loaded.program.maps with xskmap := fun queue => (sockets queue).isSome } }
    wellFormed := ⟨loaded.wellFormed.ports, loaded.wellFormed.counts, loaded.wellFormed.used,
      loaded.wellFormed.bound, loaded.wellFormed.range⟩
    sockets := sockets
    synced := fun _ => rfl }

/-- Registers a socket for a queue; `write` is whether its map entry can be written. -/
def registerSocket (queue socket : Nat) (write : Bool) :
    Except ProgramError Unit × SocketProgram :=
  if write then
    (.ok (), { loaded.setSocket queue (some socket) with
      registeredQueues := insert queue loaded.registeredQueues })
  else
    (.error .mapWrite, loaded)

/-- Removes the socket of a queue; its queue is forgotten even if the map entry cannot be
deleted. -/
def unregisterSocket (queue : Nat) (write : Bool) : Except ProgramError Unit × SocketProgram :=
  let forgotten := { loaded with registeredQueues := loaded.registeredQueues.erase queue }
  if write then
    (.ok (), forgotten.setSocket queue none)
  else
    (.error .mapWrite, forgotten)

theorem xskmap_bindPort (program : XdpProgram) (port : Word) (writes : PortWrites) :
    (program.bindPort port writes).2.maps.xskmap = program.maps.xskmap := by
  fun_cases XdpProgram.bindPort program port writes with
  | case3 _ _ _ _ _ _ maps =>
    change (if writes.undo then _ else _ : Maps).xskmap = _
    split <;> rfl
  | _ => rfl

theorem config_unbindPort (program : XdpProgram) (port : Word) (writes : PortWrites) :
    (program.unbindPort port writes).2.config = program.config := by
  fun_cases XdpProgram.unbindPort program port writes <;> rfl

theorem xskmap_unbindPort (program : XdpProgram) (port : Word) (writes : PortWrites) :
    (program.unbindPort port writes).2.maps.xskmap = program.maps.xskmap := by
  fun_cases XdpProgram.unbindPort program port writes <;> rfl

def bindPort (port : Word) (writes : PortWrites) : Except ProgramError Unit × SocketProgram :=
  ((loaded.program.bindPort port writes).1, { loaded with
    program := (loaded.program.bindPort port writes).2
    wellFormed := loaded.wellFormed.bindPort port writes
    synced := xskmap_bindPort loaded.program port writes ▸ loaded.synced })

def unbindPort (port : Word) (writes : PortWrites) : Except ProgramError Unit × SocketProgram :=
  ((loaded.program.unbindPort port writes).1, { loaded with
    program := (loaded.program.unbindPort port writes).2
    wellFormed := loaded.wellFormed.unbindPort port writes
    synced := xskmap_unbindPort loaded.program port writes ▸ loaded.synced })

variable {loaded} {port : Word} {writes : PortWrites}

/-- A bind that fails keeps the users of all ports. -/
theorem refcount_bindPort_of_error {error : ProgramError}
    (failed : (loaded.bindPort port writes).1 = .error error) :
    (loaded.bindPort port writes).2.refcount = loaded.refcount := by
  have refused : (loaded.program.bindPort port writes).1 ≠ .ok () := by
    intro succeeded
    cases succeeded.symm.trans failed
  funext other
  rw [refcount, refcount, XdpProgram.refcount, XdpProgram.refcount]
  exact congrArg (fun bound : AList fun _ : Word => Nat => (bound.lookup other).getD 0)
    ((XdpProgram.bindPort_keeps loaded.program port writes).2 refused)

/-- A bind that succeeds adds a user, in a program with a port array. -/
theorem refcount_bindPort_of_ok (succeeded : (loaded.bindPort port writes).1 = .ok ()) :
    loaded.program.config = .boundPorts ∧
      (loaded.bindPort port writes).2.refcount =
        PortLedger.countCall loaded.refcount port := by
  have bound : (loaded.program.bindPort port writes).1 = .ok () := succeeded
  have isBoundPorts : loaded.program.config = .boundPorts := by
    by_contra other
    rw [XdpProgram.bindPort, if_pos other] at bound
    cases bound
  refine ⟨isBoundPorts, ?_⟩
  have counted := XdpProgram.refcount_bindPort isBoundPorts port writes
  rw [bound] at counted
  exact counted

/-- An unbind of a port in use removes a user when its entry can be cleared. -/
theorem refcount_unbindPort (isBoundPorts : loaded.program.config = .boundPorts)
    (used : 0 < loaded.refcount port) (cleared : writes.port = true) :
    loaded.refcount =
      PortLedger.countCall (loaded.unbindPort port writes).2.refcount port := by
  have unbinds : loaded.program.UnbindsPort port writes := by
    rcases Nat.lt_or_eq_of_le used with several | single
    · exact .inl several
    · exact .inr ⟨single.symm, cleared⟩
  have counted := XdpProgram.refcount_unbindPort isBoundPorts loaded.wellFormed.used port writes
  rw [if_pos unbinds] at counted
  exact counted

end SocketProgram

/-- What the users of a program hold of it: registered queues and references of ports. -/
@[ext]
structure ProgramUses where
  registeredQueues : Finset Nat
  refcount : Word → Nat

def SocketProgram.uses (loaded : SocketProgram) : ProgramUses :=
  { registeredQueues := loaded.registeredQueues
    refcount := loaded.refcount }

end FastSocket.Ebpf
