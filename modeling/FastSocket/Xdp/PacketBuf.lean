import FastSocket.Packet.Bytes
import FastSocket.Xdp.Umem

/-!
# Packet buffers

A packet buffer is a frame and the range of its bytes that is the packet.  Headers
are written in front of the packet: a prepended header becomes part of it and can
be trimmed again, while an L2 header only becomes part of the descriptor that is
submitted.
-/

namespace FastSocket.Xdp

open Packet

/-- A packet buffer.  The bytes of its frame are those before the packet, the packet
and those behind it.  A buffer without a frame address lies on the heap; a dropped
buffer returns to a pool of the socket `member`. -/
structure XdpPacketBuf where
  member : Nat
  pool : PoolKind
  frameAddr : Option Addr
  l2Headroom : Nat
  front : List Byte
  packet : List Byte
  back : List Byte
  l2Headroom_le : l2Headroom ≤ front.length
deriving DecidableEq, Repr

/-- The descriptor of a prepared transmit frame, and the bytes that it covers. -/
structure XdpTxFrame where
  descAddr : Addr
  len : Nat
  bytes : List Byte
deriving DecidableEq, Repr

namespace XdpPacketBuf

variable (buffer : XdpPacketBuf)

/-- The offset of the packet in its frame. -/
def start : Nat :=
  buffer.front.length

def asSlice : List Byte :=
  buffer.packet

def len : Nat :=
  buffer.packet.length

/-- All bytes of the frame. -/
def frame : List Byte :=
  buffer.front ++ buffer.packet ++ buffer.back

def frameCapacity : Nat :=
  buffer.frame.length

def headroom : Nat :=
  buffer.start - buffer.l2Headroom

/-- Puts bytes in front of the packet, if there is room behind the L2 headroom. -/
def prepend (bytes : List Byte) : Option XdpPacketBuf :=
  if fits : bytes.length ≤ buffer.headroom then
    some { buffer with
      front := buffer.front.take (buffer.start - bytes.length)
      packet := bytes ++ buffer.packet
      l2Headroom_le := by
        have le := buffer.l2Headroom_le
        rw [headroom, start] at fits
        rw [List.length_take, start]
        omega }
  else
    none

/-- Takes bytes off the front of the packet. -/
def trimPrefix (len : Nat) : Option XdpPacketBuf :=
  if len > buffer.len then
    none
  else
    some { buffer with
      front := buffer.front ++ buffer.packet.take len
      packet := buffer.packet.drop len
      l2Headroom_le := by
        rw [List.length_append]
        exact Nat.le_add_right_of_le buffer.l2Headroom_le }

variable {header bytes : List Byte} {prepended : XdpPacketBuf}

theorem l2Headroom_le_take_append (fits : header.length ≤ buffer.start) :
    buffer.l2Headroom ≤ (buffer.front.take (buffer.start - header.length) ++ header).length := by
  have le := buffer.l2Headroom_le
  rw [start] at fits
  rw [List.length_append, List.length_take, start]
  omega

/-- Copies an L2 header in front of the packet and describes the frame that starts
with it. -/
def prepareTxFrameWithHeader (header : List Byte) : XdpPacketBuf × Option XdpTxFrame :=
  match buffer.frameAddr with
  | none => (buffer, none)
  | some frameAddr =>
    if fits : header.length ≤ buffer.start then
      let l2Start := buffer.start - header.length
      let len := header.length + buffer.len
      if l2Start + len > buffer.frameCapacity then
        (buffer, none)
      else
        let written : XdpPacketBuf := { buffer with
          front := buffer.front.take l2Start ++ header
          l2Headroom_le := buffer.l2Headroom_le_take_append fits }
        (written, some {
          descAddr := frameAddr + BitVec.ofNat 64 l2Start
          len := len
          bytes := (written.frame.drop l2Start).take len })
    else
      (buffer, none)

/-! ## What a caller sees -/

/-- A buffer up to the bytes outside the packet. -/
structure View where
  member : Nat
  pool : PoolKind
  frameAddr : Option Addr
  l2Headroom : Nat
  start : Nat
  packet : List Byte
  frameCapacity : Nat
deriving DecidableEq, Repr

def view : View :=
  { member := buffer.member, pool := buffer.pool, frameAddr := buffer.frameAddr
    l2Headroom := buffer.l2Headroom, start := buffer.start, packet := buffer.packet
    frameCapacity := buffer.frameCapacity }

variable {buffer}

theorem prepend_spec (done : buffer.prepend bytes = some prepended) :
    prepended.frameAddr = buffer.frameAddr ∧ prepended.frameCapacity = buffer.frameCapacity ∧
      prepended.packet = bytes ++ buffer.packet := by
  rw [prepend] at done
  split at done
  case isFalse => cases done
  case isTrue fits =>
    cases done
    rw [headroom, start] at fits
    refine ⟨rfl, ?_, rfl⟩
    simp only [frameCapacity, frame, start, List.length_append, List.length_take]
    omega

/-- Trimming a prepended header gives the packet back. -/
theorem trimPrefix_prepend (done : buffer.prepend bytes = some prepended) :
    ∃ trimmed, prepended.trimPrefix bytes.length = some trimmed ∧ trimmed.view = buffer.view := by
  rw [prepend] at done
  split at done
  case isFalse => cases done
  case isTrue fits =>
    cases done
    rw [headroom, start] at fits
    have inside : ¬ bytes.length > (bytes ++ buffer.packet).length := by
      rw [List.length_append]
      omega
    refine ⟨_, if_neg inside, ?_⟩
    simp only [view, start, frameCapacity, frame, List.take_left, List.drop_left,
      List.length_append, List.length_take, View.mk.injEq, true_and]
    omega

theorem prepareTxFrameWithHeader_of_none
    (failed : (buffer.prepareTxFrameWithHeader header).2 = none) :
    (buffer.prepareTxFrameWithHeader header).1 = buffer := by
  revert failed
  fun_cases prepareTxFrameWithHeader <;> simp

/-- A prepared frame lies in the frame of its buffer and holds the header and the
packet. -/
theorem prepareTxFrameWithHeader_of_some {frame : XdpTxFrame}
    (prepared : (buffer.prepareTxFrameWithHeader header).2 = some frame) :
    ∃ frameAddr offset, buffer.frameAddr = some frameAddr ∧
      frame.descAddr = frameAddr + BitVec.ofNat 64 offset ∧
      offset + frame.len ≤ buffer.frameCapacity ∧ frame.len = frame.bytes.length ∧
      frame.bytes = header ++ buffer.packet := by
  revert prepared
  fun_cases prepareTxFrameWithHeader with
  | case3 frameAddr hasFrame fits l2Start len inside written =>
    rintro ⟨⟩
    have covered : (written.frame.drop l2Start).take len = header ++ buffer.packet := by
      have front : (buffer.front.take l2Start).length = l2Start := by
        rw [List.length_take]
        exact Nat.min_eq_left (Nat.sub_le _ _)
      have shape : written.frame =
          buffer.front.take l2Start ++ (header ++ buffer.packet ++ buffer.back) := by
        simp only [XdpPacketBuf.frame, written, List.append_assoc]
      have total : len = (header ++ buffer.packet).length := by
        rw [List.length_append]
        rfl
      rw [shape, List.drop_append_of_le_length (Nat.le_of_eq front.symm),
        List.drop_of_length_le (Nat.le_of_eq front), List.nil_append, total, List.take_left]
    refine ⟨frameAddr, l2Start, hasFrame, rfl, Nat.not_lt.mp inside, ?_, covered⟩
    change len = ((written.frame.drop l2Start).take len).length
    rw [covered, List.length_append]
    rfl
  | _ => simp

end XdpPacketBuf

end FastSocket.Xdp
