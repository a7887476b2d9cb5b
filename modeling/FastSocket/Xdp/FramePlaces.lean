import FastSocket.Xdp.MemberFrames

/-!
# The places of frames

Where a frame of a socket can be.  The frames of a socket are those in its places,
so that distributed frames are each in one place of one member.
-/

namespace FastSocket.Xdp

open Packet Spsc Transition

/-- A ring, a part of a pool, the kernel or the application. -/
inductive FramePlace where
  | fillRing
  | kernelRx
  | rxRing
  | rxFree
  | rxRemote
  | buffer
  | txRing
  | kernelTx
  | completionRing
  | txFree
  | txRemote
deriving DecidableEq, Repr

def FramePlace.all : List FramePlace :=
  [.fillRing, .kernelRx, .rxRing, .rxFree, .rxRemote, .buffer, .txRing, .kernelTx, .completionRing,
    .txFree, .txRemote]

theorem FramePlace.mem_all (place : FramePlace) : place ∈ FramePlace.all := by
  cases place <;> decide

instance : Fintype FramePlace where
  elems := ⟨↑FramePlace.all, Multiset.coe_nodup.mpr (by decide)⟩
  complete place := FramePlace.mem_all place

/-- The frames of a socket in a place. -/
def XdpSocket.framesAt (socket : XdpSocket) : FramePlace → List Addr
  | .fillRing => socket.fill.entries
  | .kernelRx => socket.kernelRx
  | .rxRing => socket.rx.entries.map fun desc => socket.umem.frameOf desc.addr
  | .rxFree => socket.rxReclaim.free
  | .rxRemote => socket.rxReclaim.remote
  | .buffer => socket.held.map HeldFrame.frame
  | .txRing => socket.tx.entries.map fun desc => socket.umem.frameOf desc.addr
  | .kernelTx => socket.kernelTx.map socket.umem.frameOf
  | .completionRing => socket.completion.entries.map socket.umem.frameOf
  | .txFree => socket.txReclaim.free
  | .txRemote => socket.txReclaim.remote

theorem XdpSocket.sum_framesAt (socket : XdpSocket) :
    ∑ place, (↑(socket.framesAt place) : Multiset Addr) = socket.allFrames := by
  have held := framesOf_add_framesOf ↑socket.held
  rw [Multiset.map_coe] at held
  change (FramePlace.all.map fun place => (↑(socket.framesAt place) : Multiset Addr)).sum = _
  simp only [FramePlace.all, framesAt, List.map_cons, List.map_nil, List.sum_cons, List.sum_nil,
    ← held, allFrames, sideFrames, receiveFrames, transmitFrames, inFlightFrames,
    FrameReclaim.frames]
  abel

/-- The frames in a place of a member. -/
def Members.framesAt (members : Members) (spot : Fin members.length × FramePlace) :
    Multiset Addr :=
  ↑(members[spot.1].framesAt spot.2)

theorem Members.sum_framesAt (members : Members) :
    ∑ spot, members.framesAt spot = total XdpSocket.allFrames members := by
  rw [Fintype.sum_prod_type, ← sum_getElem]
  apply Finset.sum_congr rfl
  intro index _
  exact XdpSocket.sum_framesAt _

/-- Each frame in use is in one place of one member. -/
theorem Distributed.partitions {layout : FrameLayout} {members : Members}
    (distributed : Distributed layout 0 members) :
    Partitions members.framesAt layout.frames := by
  apply partitions_of_sum layout.nodup_frames
  rw [Members.sum_framesAt, ← distributed.frames, add_zero]

end FastSocket.Xdp
