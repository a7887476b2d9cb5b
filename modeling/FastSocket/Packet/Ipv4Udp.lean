import FastSocket.Checksum.OnesComplement
import FastSocket.Packet.Bytes

/-!
# IPv4 and UDP headers

The errors and addresses that the packet paths share, and the writer for the
28 bytes of an IPv4 header without options followed by a UDP header.
-/

namespace FastSocket.Packet

open OnesComplement

/-! ## Errors and addresses -/

/-- Coarse category of a device error. -/
inductive DeviceErrorKind where
  | backend
  | deviceRemoved
  | fdClosed
  | ringCorrupt
deriving DecidableEq, Repr

/-- The error vocabulary of the core operations. -/
inductive Error where
  | wouldBlock
  | invalidPacket
  | invalidBatch
  | device (kind : DeviceErrorKind)
  | batchFull
  | truncated
  | oversizeForMtu
  | noEgressRoute
deriving DecidableEq, Repr

/-- An IPv4 address. -/
abbrev Ipv4Addr :=
  BitVec 32

/-- The four bytes of an IPv4 address, most significant first. -/
def octets (addr : Ipv4Addr) : List Byte :=
  [BitVec.ofNat 8 (addr.toNat / 2 ^ 24), BitVec.ofNat 8 (addr.toNat / 2 ^ 16),
    BitVec.ofNat 8 (addr.toNat / 2 ^ 8), BitVec.ofNat 8 addr.toNat]

inductive IpAddr where
  | v4 (addr : Ipv4Addr)
  | v6 (addr : BitVec 128)
deriving DecidableEq, Repr

structure SocketAddrV4 where
  ip : Ipv4Addr
  port : Word
deriving DecidableEq, Repr

structure SocketAddrV6 where
  ip : BitVec 128
  port : Word
  flowinfo : BitVec 32
  scopeId : BitVec 32
deriving DecidableEq, Repr

inductive SocketAddr where
  | v4 (addr : SocketAddrV4)
  | v6 (addr : SocketAddrV6)
deriving DecidableEq, Repr

def afInet : Nat := 2

def afInet6 : Nat := 10

/-- Explicit Congestion Notification codepoint. -/
inductive EcnCodepoint where
  | notEct
  | ect0
  | ect1
  | ce
deriving DecidableEq, Repr

def ecnBits : Option EcnCodepoint → Byte
  | some .ect0 => 0b10#8
  | some .ect1 => 0b01#8
  | some .ce => 0b11#8
  | some .notEct => 0#8
  | none => 0#8

/-! ## Headers -/

def ipv4MinHeaderLen : Nat := 20

def udpHeaderLen : Nat := 8

def udpProtocol : Byte := 17#8

structure Ipv4UdpHeaderFields where
  sourcePort : Word
  destinationPort : Word
  source : Ipv4Addr
  destination : Ipv4Addr
  totalLen : Word
  udpLen : Word
  ttl : Byte
  ecn : Option EcnCodepoint
deriving DecidableEq, Repr

/-- The sum of the 16-bit words of a header, as `chunks_exact(2)` visits them. -/
def sumWords : List Byte → Nat
  | hi :: lo :: rest => (fromBeBytes hi lo).toNat + sumWords rest
  | _ => 0

/-- The checksum of an IPv4 header.  The sum of a header stays far below `2 ^ 32`,
so the `u32` accumulator of the source does not wrap. -/
def ipv4HeaderChecksum (header : List Byte) : Word :=
  ~~~ BitVec.ofNat 16 (foldAll (2 ^ 16) (sumWords header))

/-- The writes of `writeIpv4UdpHeaders` before the checksum is computed. -/
def writeIpv4Fields (headers : List Byte) (fields : Ipv4UdpHeaderFields) : List Byte :=
  let headers := copyAt headers 0 [0x45#8]
  let headers := copyAt headers 1 [ecnBits fields.ecn]
  let headers := copyAt headers 2 (toBeBytes fields.totalLen)
  let headers := copyAt headers 6 (toBeBytes 0#16)
  let headers := copyAt headers 8 [fields.ttl]
  let headers := copyAt headers 9 [udpProtocol]
  let headers := copyAt headers 12 (octets fields.source)
  copyAt headers 16 (octets fields.destination)

/-- The writes of `writeIpv4UdpHeaders` once the checksum is known. -/
def writeChecksumAndUdp (headers : List Byte) (fields : Ipv4UdpHeaderFields)
    (checksum : Word) : List Byte :=
  let headers := copyAt headers 10 (toBeBytes checksum)
  let headers := copyAt headers 20 (toBeBytes fields.sourcePort)
  let headers := copyAt headers 22 (toBeBytes fields.destinationPort)
  let headers := copyAt headers 24 (toBeBytes fields.udpLen)
  copyAt headers 26 (toBeBytes 0#16)

/-- Writes the IPv4 and UDP headers into a 28-byte buffer.  The identification
and checksum bytes are taken as they are, so callers pass a zeroed buffer. -/
def writeIpv4UdpHeaders (headers : List Byte) (fields : Ipv4UdpHeaderFields) : List Byte :=
  let headers := writeIpv4Fields headers fields
  let checksum := ipv4HeaderChecksum (headers.take ipv4MinHeaderLen)
  writeChecksumAndUdp headers fields checksum

/-- The header buffer that the callers of `writeIpv4UdpHeaders` start from. -/
def zeroHeaders : List Byte :=
  List.replicate (ipv4MinHeaderLen + udpHeaderLen) 0#8

/-! ## The written bytes -/

/-- The bytes of an IPv4 and UDP header with a given checksum word. -/
def headerBytes (fields : Ipv4UdpHeaderFields) (checksum : Word) : List Byte :=
  [0x45#8, ecnBits fields.ecn, hiByte fields.totalLen, loByte fields.totalLen,
    0#8, 0#8, 0#8, 0#8, fields.ttl, udpProtocol, hiByte checksum, loByte checksum] ++
    octets fields.source ++ octets fields.destination ++
    [hiByte fields.sourcePort, loByte fields.sourcePort,
      hiByte fields.destinationPort, loByte fields.destinationPort,
      hiByte fields.udpLen, loByte fields.udpLen, 0#8, 0#8]

/-- The sum of the header words that depend on neither the length nor the
checksum. -/
def fixedSum (fields : Ipv4UdpHeaderFields) : Nat :=
  sumWords ([0x45#8, ecnBits fields.ecn, fields.ttl, udpProtocol] ++
    octets fields.source ++ octets fields.destination)

/-- The checksum word of a rebuilt header. -/
def rebuiltChecksum (fields : Ipv4UdpHeaderFields) : Word :=
  ~~~ BitVec.ofNat 16 (foldAll (2 ^ 16) (fixedSum fields + fields.totalLen.toNat))

theorem sumWords_headerBytes (fields : Ipv4UdpHeaderFields) (checksum : Word) :
    sumWords ((headerBytes fields checksum).take ipv4MinHeaderLen) =
      fixedSum fields + fields.totalLen.toNat + checksum.toNat := by
  simp only [headerBytes, octets, ipv4MinHeaderLen, fixedSum, List.cons_append, List.nil_append,
    List.take_succ_cons, List.take_zero, sumWords, fromBeBytes_hiByte_loByte,
    toNat_fromBeBytes]
  simp
  omega

/-- The buffer before the checksum and the UDP header are written. -/
theorem writeIpv4Fields_zeroHeaders (fields : Ipv4UdpHeaderFields) :
    writeIpv4Fields zeroHeaders fields =
      [0x45#8, ecnBits fields.ecn, hiByte fields.totalLen, loByte fields.totalLen,
        0#8, 0#8, 0#8, 0#8, fields.ttl, udpProtocol, 0#8, 0#8] ++
        octets fields.source ++ octets fields.destination ++ List.replicate udpHeaderLen 0#8 := by
  simp [writeIpv4Fields, zeroHeaders, ipv4MinHeaderLen, udpHeaderLen, copyAt, List.replicate,
    toBeBytes, octets, hiByte, loByte]

theorem writeIpv4UdpHeaders_eq (fields : Ipv4UdpHeaderFields) :
    writeIpv4UdpHeaders zeroHeaders fields = headerBytes fields (rebuiltChecksum fields) := by
  have written : (writeIpv4Fields zeroHeaders fields).take ipv4MinHeaderLen =
      (headerBytes fields 0#16).take ipv4MinHeaderLen := by
    rw [writeIpv4Fields_zeroHeaders]
    rfl
  have finished : ∀ checksum, writeChecksumAndUdp (writeIpv4Fields zeroHeaders fields) fields
      checksum = headerBytes fields checksum := by
    intro checksum
    rw [writeIpv4Fields_zeroHeaders]
    simp [writeChecksumAndUdp, udpHeaderLen, copyAt, List.replicate, toBeBytes, octets,
      headerBytes, hiByte, loByte]
  rw [writeIpv4UdpHeaders, finished, written, ipv4HeaderChecksum, sumWords_headerBytes,
    rebuiltChecksum, BitVec.toNat_ofNat, Nat.zero_mod, Nat.add_zero]

end FastSocket.Packet
