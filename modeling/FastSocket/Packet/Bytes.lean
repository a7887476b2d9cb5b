import Mathlib.Data.List.Basic

/-!
# Byte buffers and big-endian words

Packet bytes are lists of eight-bit words.  `copyAt` overwrites a range in place,
as `copy_from_slice` does, and the 16-bit accessors read and write network byte
order.
-/

namespace FastSocket.Packet

/-- A packet byte. -/
abbrev Byte :=
  BitVec 8

/-- A 16-bit header word. -/
abbrev Word :=
  BitVec 16

/-- The high byte of a word. -/
def hiByte (word : Word) : Byte :=
  BitVec.ofNat 8 (word.toNat / 256)

/-- The low byte of a word. -/
def loByte (word : Word) : Byte :=
  BitVec.ofNat 8 word.toNat

/-- The bytes of a word in network order. -/
def toBeBytes (word : Word) : List Byte :=
  [hiByte word, loByte word]

/-- The word with the given bytes in network order. -/
def fromBeBytes (hi lo : Byte) : Word :=
  BitVec.ofNat 16 (hi.toNat * 256 + lo.toNat)

/-- The number with the given bytes, least significant first. -/
def fromLeBytes (bytes : List Byte) : Nat :=
  bytes.foldr (fun byte value => byte.toNat + 256 * value) 0

/-- The number with the given bytes, most significant first. -/
def fromOctets (bytes : List Byte) : Nat :=
  fromLeBytes bytes.reverse

/-- The number in a field in the byte order of the machine, which is taken to be
little-endian; the field lies inside the buffer. -/
def readNe (bytes : List Byte) (offset size : Nat) : Nat :=
  fromLeBytes ((bytes.drop offset).take size)

/-- Overwrites the bytes from `offset` on; the range lies inside the buffer. -/
def copyAt (bytes : List Byte) (offset : Nat) (source : List Byte) : List Byte :=
  bytes.take offset ++ source ++ bytes.drop (offset + source.length)

/-- Reads a word in network order; both bytes lie inside the buffer. -/
def readBeU16 (bytes : List Byte) (offset : Nat) : Word :=
  fromBeBytes (bytes.getD offset 0) (bytes.getD (offset + 1) 0)

/-- Writes a word in network order. -/
def writeBeU16 (bytes : List Byte) (offset : Nat) (value : Word) : List Byte :=
  copyAt bytes offset (toBeBytes value)

@[simp]
theorem toNat_hiByte (word : Word) : (hiByte word).toNat = word.toNat / 256 := by
  have bound := word.isLt
  rw [hiByte, BitVec.toNat_ofNat]
  exact Nat.mod_eq_of_lt (by omega)

@[simp]
theorem toNat_loByte (word : Word) : (loByte word).toNat = word.toNat % 256 := by
  rw [loByte, BitVec.toNat_ofNat]

@[simp]
theorem toNat_fromBeBytes (hi lo : Byte) :
    (fromBeBytes hi lo).toNat = hi.toNat * 256 + lo.toNat := by
  have hiBound := hi.isLt
  have loBound := lo.isLt
  rw [fromBeBytes, BitVec.toNat_ofNat]
  exact Nat.mod_eq_of_lt (by omega)

/-- Writing and reading a word are inverse. -/
@[simp]
theorem fromBeBytes_hiByte_loByte (word : Word) :
    fromBeBytes (hiByte word) (loByte word) = word := by
  apply BitVec.eq_of_toNat_eq
  rw [toNat_fromBeBytes, toNat_hiByte, toNat_loByte]
  omega

/-- Overwriting past a leading part leaves that part. -/
theorem copyAt_append (front rest : List Byte) (offset : Nat) (source : List Byte) :
    copyAt (front ++ rest) (front.length + offset) source = front ++ copyAt rest offset source := by
  rw [copyAt, copyAt, List.take_length_add_append, Nat.add_assoc, List.drop_length_add_append,
    List.append_assoc, List.append_assoc, List.append_assoc]

theorem readBeU16_append (front rest : List Byte) (offset : Nat) :
    readBeU16 (front ++ rest) (front.length + offset) = readBeU16 rest offset := by
  simp [readBeU16, List.getD_eq_getElem?_getD, List.getElem?_append_right, Nat.add_assoc]

theorem writeBeU16_append (front rest : List Byte) (offset : Nat) (value : Word) :
    writeBeU16 (front ++ rest) (front.length + offset) value =
      front ++ writeBeU16 rest offset value :=
  copyAt_append front rest offset (toBeBytes value)

theorem length_copyAt {bytes : List Byte} {offset : Nat} {source : List Byte}
    (inside : offset + source.length ≤ bytes.length) :
    (copyAt bytes offset source).length = bytes.length := by
  rw [copyAt, List.length_append, List.length_append, List.length_take, List.length_drop]
  omega

end FastSocket.Packet
