import FastSocket.Buffer.Layout
import FastSocket.Packet.Bytes

/-!
# Packet buffers over a storage

A packet buffer is a storage, a layout and the range of the storage that holds the
packet.  The operations are the same for every storage; how a storage is read and
written, and what happens outside of it, is its own matter.  An operation that breaks the
rules of its storage is a fault, which is different from an error that it returns.
-/

namespace FastSocket.Buffer

open Packet

/-- What must never happen. -/
inductive BufferFault where
  /-- The packet starts below the link-layer headroom. -/
  | belowL2Headroom
  /-- A difference of machine words is negative. -/
  | underflow
  /-- An access leaves the memory. -/
  | outOfBounds
deriving DecidableEq, Repr

inductive ReserveError where
  | insufficientHeadroom (available requested : Nat)
deriving DecidableEq, Repr

inductive BufferAccessError where
  | outOfBounds (offset len packetLen : Nat)
  | insufficientTailroom (available requested : Nat)
deriving DecidableEq, Repr

/-- The memory of a packet, which can be a part of a larger one. -/
class PacketStorage (σ : Type) where
  capacity : σ → Nat
  /-- The room behind a packet that ends at an offset. -/
  tailroom : σ → Nat → Except BufferFault Nat
  /-- Reads bytes from an offset on. -/
  read : σ → Nat → Nat → Except BufferFault (List Byte)
  /-- Copies bytes to an offset. -/
  write : σ → Nat → List Byte → Except BufferFault σ

/-- A difference of machine words. -/
def subUsize (left right : Nat) : Except BufferFault Nat :=
  if right ≤ left then .ok (left - right) else .error .underflow

/-- A packet buffer. -/
structure PacketInner (σ : Type) where
  storage : σ
  layout : BufferLayout
  start : Nat
  stop : Nat
deriving DecidableEq, Repr

namespace PacketInner

variable {σ : Type} [PacketStorage σ] (inner : PacketInner σ)

def len : Except BufferFault Nat :=
  subUsize inner.stop inner.start

def headroom : Except BufferFault Nat :=
  if inner.layout.l2Headroom ≤ inner.start then
    .ok (inner.start - inner.layout.l2Headroom)
  else
    .error .belowL2Headroom

def tailroom : Except BufferFault Nat :=
  PacketStorage.tailroom inner.storage inner.stop

/-- The bytes of the packet. -/
def asSlice : Except BufferFault (List Byte) := do
  let len ← inner.len
  PacketStorage.read inner.storage inner.start len

/-- Puts bytes in front of the packet, if there is room behind the link-layer headroom. -/
def prepend (bytes : List Byte) :
    Except BufferFault (Except ReserveError Unit × PacketInner σ) := do
  let headroom ← inner.headroom
  if bytes.length > headroom then
    return (.error (.insufficientHeadroom headroom bytes.length), inner)
  else
    let newStart := inner.start - bytes.length
    let storage ← PacketStorage.write inner.storage newStart bytes
    return (.ok (), { inner with storage := storage, start := newStart })

/-- Puts bytes behind the packet. -/
def extendFromSlice (bytes : List Byte) :
    Except BufferFault (Except BufferAccessError Unit × PacketInner σ) := do
  let tailroom ← inner.tailroom
  if bytes.length > tailroom then
    return (.error (.insufficientTailroom tailroom bytes.length), inner)
  else
    let storage ← PacketStorage.write inner.storage inner.stop bytes
    return (.ok (), { inner with storage := storage, stop := inner.stop + bytes.length })

/-- Takes bytes off the front of the packet. -/
def trimPrefix (len : Nat) :
    Except BufferFault (Except BufferAccessError Unit × PacketInner σ) := do
  let packetLen ← inner.len
  if len > packetLen then
    return (.error (.outOfBounds 0 len packetLen), inner)
  else
    return (.ok (), { inner with start := inner.start + len })

/-- Takes bytes off the end of the packet. -/
def trimSuffix (len : Nat) :
    Except BufferFault (Except BufferAccessError Unit × PacketInner σ) := do
  let packetLen ← inner.len
  if len > packetLen then
    return (.error (.outOfBounds (packetLen - len) len packetLen), inner)
  else
    return (.ok (), { inner with stop := inner.stop - len })

end PacketInner

/-! ## Handles -/

/-- A packet buffer as its owner holds it: one that can be changed, or a frozen one. -/
inductive PacketHandle (σ : Type) where
  | mutable (inner : PacketInner σ)
  | frozen (inner : PacketInner σ)
deriving DecidableEq, Repr

inductive BufferOp where
  | prepend (bytes : List Byte)
  | extendFromSlice (bytes : List Byte)
  | trimPrefix (len : Nat)
  | trimSuffix (len : Nat)
  | freeze
  | intoMut
deriving DecidableEq, Repr

/-- What an operation returns instead of success. -/
inductive BufferError where
  | reserve (error : ReserveError)
  | access (error : BufferAccessError)
deriving DecidableEq, Repr

abbrev BufferReply :=
  Except BufferError Unit

namespace PacketHandle

variable {σ : Type} [PacketStorage σ]

def inner : PacketHandle σ → PacketInner σ
  | mutable inner => inner
  | frozen inner => inner

/-- Applies an operation.  The result is `none` when the handle has no such operation. -/
def apply : PacketHandle σ → BufferOp → Option (Except BufferFault (BufferReply × PacketHandle σ))
  | mutable inner, .prepend bytes =>
    some ((inner.prepend bytes).map (Prod.map (·.mapError .reserve) mutable))
  | mutable inner, .extendFromSlice bytes =>
    some ((inner.extendFromSlice bytes).map (Prod.map (·.mapError .access) mutable))
  | mutable inner, .trimPrefix len =>
    some ((inner.trimPrefix len).map (Prod.map (·.mapError .access) mutable))
  | mutable inner, .trimSuffix len =>
    some ((inner.trimSuffix len).map (Prod.map (·.mapError .access) mutable))
  | mutable inner, .freeze => some (.ok (.ok (), frozen inner))
  | frozen inner, .intoMut => some (.ok (.ok (), mutable inner))
  | _, _ => none

/-- Applies operations one after the other and collects what they return.  A fault ends
them. -/
def run : PacketHandle σ → List BufferOp →
    Option (Except BufferFault (List BufferReply × PacketHandle σ))
  | handle, [] => some (.ok ([], handle))
  | handle, op :: rest => do
      match ← handle.apply op with
      | .error fault => some (.error fault)
      | .ok (reply, next) =>
        let outcome ← next.run rest
        some (outcome.map (Prod.map (reply :: ·) id))

end PacketHandle

end FastSocket.Buffer
