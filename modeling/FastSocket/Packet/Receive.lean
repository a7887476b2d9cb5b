import FastSocket.Packet.Ipv4Udp

/-!
# Receive batches

The items that a receive call hands out, and the batch that it appends them to.
-/

namespace FastSocket.Packet

universe u

inductive IpVersion where
  | v4
  | v6
deriving DecidableEq, Repr

inductive ChecksumStatus where
  | verified
  | bad
  | unverified
  | notChecked
deriving DecidableEq, Repr

structure IpPacketRecvMeta where
  version : IpVersion
  len : Nat
  checksum : ChecksumStatus
deriving DecidableEq, Repr

/-- One received IP datagram. -/
structure IpPacketReceive (β : Type u) where
  packet : β
  info : IpPacketRecvMeta
deriving DecidableEq, Repr

structure UdpRecvMeta where
  source : SocketAddr
  destination : Option IpAddr
  destinationPort : Option Word
  ecn : Option EcnCodepoint
  len : Nat
  groStride : Option Word
deriving DecidableEq, Repr

/-- One received UDP packet. -/
structure UdpReceive (β : Type u) where
  packet : β
  info : UdpRecvMeta
deriving DecidableEq, Repr

/-- A receive batch, which never holds more than its capacity. -/
structure RecvBatch (α : Type u) where
  items : List α
  capacity : Nat
  fits : items.length ≤ capacity

namespace RecvBatch

variable {α : Type u} (batch : RecvBatch α)

/-- The number of items that can still be pushed. -/
def remaining : Nat :=
  batch.capacity - batch.items.length

/-- Appends an item; a full batch refuses it. -/
def push (item : α) : Option (RecvBatch α) :=
  if full : batch.capacity ≤ batch.items.length then
    none
  else
    some {
      items := batch.items ++ [item]
      capacity := batch.capacity
      fits := by
        rw [List.length_append]
        exact Nat.lt_of_not_le full }

variable {item : α}

theorem push_of_remaining (room : 0 < batch.remaining) :
    ∃ next, batch.push item = some next ∧ next.items = batch.items ++ [item] ∧
      next.capacity = batch.capacity ∧ next.remaining + 1 = batch.remaining := by
  rw [remaining, Nat.sub_pos_iff_lt] at room
  refine ⟨_, dif_neg (Nat.not_le_of_lt room), rfl, rfl, ?_⟩
  simp only [remaining, List.length_append, List.length_singleton]
  omega

theorem items_of_push {next : RecvBatch α} (pushed : batch.push item = some next) :
    next.items = batch.items ++ [item] := by
  rw [push] at pushed
  split at pushed
  · cases pushed
  · cases pushed
    rfl

end RecvBatch

end FastSocket.Packet
