import FastSocket.Transition.Cursor
import FastSocket.Xdp.CheckedParse
import FastSocket.Xdp.Netlink

/-!
# Netlink bytes

Attributes are written one after the other, each padded to a multiple of four bytes that
its length field does not count.  Reading gives back what was written.  On any bytes the
loops over attributes and over messages read inside the buffer only and move on by at least
one header in every step, so that they end.
-/

namespace FastSocket.Xdp

open Packet Transition

/-! ## Writing attributes -/

/-- A word in the byte order of the machine. -/
def toNeBytes (word : Word) : List Byte :=
  [loByte word, hiByte word]

/-- Appends an attribute; the length field counts the header and the value. -/
def pushNlattr (buffer : List Byte) (attrType : Word) (value : List Byte) : List Byte :=
  let attrLen := nlaHdrLen + value.length
  let alignedLen := alignTo attrLen nlaAlignTo
  buffer ++ (toNeBytes (BitVec.ofNat 16 attrLen) ++ toNeBytes attrType) ++ value ++
    List.replicate (alignedLen - attrLen) 0

/-- Appends attributes in order. -/
def pushNlattrs (attrs : List (Word × List Byte)) (buffer : List Byte) : List Byte :=
  attrs.foldl (fun buffer attr => pushNlattr buffer attr.1 attr.2) buffer

theorem pushNlattr_eq (buffer : List Byte) (attrType : Word) (value : List Byte) :
    pushNlattr buffer attrType value = buffer ++ pushNlattr [] attrType value := by
  simp only [pushNlattr, List.append_assoc, List.nil_append]

theorem pushNlattrs_eq (attrs : List (Word × List Byte)) (buffer : List Byte) :
    pushNlattrs attrs buffer = buffer ++ attrs.flatMap fun attr => pushNlattr [] attr.1 attr.2 := by
  induction attrs generalizing buffer with
  | nil => exact (List.append_nil _).symm
  | cons attr rest ih =>
    rw [pushNlattrs, List.foldl_cons, ← pushNlattrs, ih, pushNlattr_eq, List.append_assoc,
      List.flatMap_cons]

theorem le_alignTo (value : Nat) : value ≤ alignTo value nlaAlignTo := by
  rw [alignTo, nlaAlignTo]
  omega

theorem length_pushNlattr (attrType : Word) (value : List Byte) :
    (pushNlattr [] attrType value).length =
      alignTo (nlaHdrLen + value.length) nlaAlignTo := by
  have le := le_alignTo (nlaHdrLen + value.length)
  have header : nlaHdrLen = 4 := rfl
  simp only [pushNlattr, toNeBytes, List.nil_append, List.length_append, List.length_cons,
    List.length_nil, List.length_replicate]
  omega

theorem fromLeBytes_toNeBytes (word : Word) : fromLeBytes (toNeBytes word) = word.toNat := by
  have lt := word.isLt
  change (loByte word).toNat + 256 * ((hiByte word).toNat + 256 * 0) = _
  rw [loByte, hiByte, BitVec.toNat_ofNat, BitVec.toNat_ofNat]
  omega

/-! ## Reading back -/

theorem parseAttrsFrom_nil (rounds : Nat) (attrs : NlAttrs) :
    parseAttrsFrom rounds [] attrs = .ok attrs := by
  cases rounds with
  | zero => rfl
  | succ rounds => rfl

/-- What fits an attribute. -/
structure FitsAttr (attr : Word × List Byte) : Prop where
  type : attr.1 &&& nlaTypeMask = attr.1
  size : attr.2.length ≤ 65531

/-- Reading an attribute in front of other bytes. -/
theorem parseAttrsFrom_pushNlattr {attr : Word × List Byte} (fits : FitsAttr attr) (rounds : Nat)
    (rest : List Byte) (attrs : NlAttrs) :
    parseAttrsFrom (rounds + 1) (pushNlattr [] attr.1 attr.2 ++ rest) attrs =
      parseAttrsFrom rounds rest (attrs.insert attr.1 attr.2) := by
  obtain ⟨attrType, value⟩ := attr
  obtain ⟨type, size⟩ := fits
  dsimp only at type size ⊢
  have header : nlaHdrLen = 4 := rfl
  have length := length_pushNlattr attrType value
  have longer := le_alignTo (nlaHdrLen + value.length)
  obtain ⟨buf, isBuf⟩ : ∃ buf, buf = pushNlattr [] attrType value ++ rest := ⟨_, rfl⟩
  have bytes : buf = toNeBytes (BitVec.ofNat 16 (nlaHdrLen + value.length)) ++
      (toNeBytes attrType ++ (value ++ (List.replicate (alignTo (nlaHdrLen + value.length)
        nlaAlignTo - (nlaHdrLen + value.length)) 0 ++ rest))) := by
    simp only [isBuf, pushNlattr, List.nil_append, List.append_assoc]
  have lenField : readNe buf 0 2 = nlaHdrLen + value.length := by
    rw [bytes]
    refine (fromLeBytes_toNeBytes _).trans ?_
    rw [BitVec.toNat_ofNat]
    omega
  have typeField : readNe buf 2 2 = attrType.toNat := by
    rw [bytes]
    exact fromLeBytes_toNeBytes _
  have body : (buf.take (nlaHdrLen + value.length)).drop nlaHdrLen = value := by
    rw [bytes, List.drop_take, Nat.add_sub_cancel_left]
    exact List.take_left
  have behind : buf.drop (alignTo (nlaHdrLen + value.length) nlaAlignTo) = rest := by
    rw [isBuf, ← length, List.drop_left]
  have total := congrArg List.length isBuf
  rw [List.length_append, length] at total
  have notEmpty : ¬ buf.isEmpty = true := by
    rw [List.isEmpty_iff_length_eq_zero]
    omega
  rw [← isBuf, parseAttrsFrom, if_neg notEmpty, if_neg (by omega), lenField, if_neg (by omega),
    behind, body, typeField, BitVec.ofNat_toNat, BitVec.setWidth_eq, type]

variable {attrs : List (Word × List Byte)} {rounds offset : Nat} {bytes : List Byte}

/-- Reading attributes one after the other inserts each of them. -/
theorem parseAttrsFrom_flatMap (fits : ∀ attr ∈ attrs, FitsAttr attr)
    (enough : attrs.length ≤ rounds) (found : NlAttrs) :
    parseAttrsFrom rounds (attrs.flatMap fun attr => pushNlattr [] attr.1 attr.2) found =
      .ok (attrs.foldl (fun found attr => found.insert attr.1 attr.2) found) := by
  induction attrs generalizing rounds found with
  | nil => exact parseAttrsFrom_nil rounds found
  | cons attr rest ih =>
    obtain ⟨attrFits, restFits⟩ := List.forall_mem_cons.mp fits
    rw [List.length_cons] at enough
    obtain ⟨rounds, rfl⟩ := Nat.exists_eq_add_of_lt enough
    rw [List.flatMap_cons, parseAttrsFrom_pushNlattr attrFits, List.foldl_cons]
    exact ih restFits (by omega) _

/-- Every attribute takes a byte at least. -/
theorem length_le_flatMap (attrs : List (Word × List Byte)) :
    attrs.length ≤ (attrs.flatMap fun attr => pushNlattr [] attr.1 attr.2).length := by
  induction attrs with
  | nil => exact Nat.le_refl _
  | cons attr rest ih =>
    have longer := le_alignTo (nlaHdrLen + attr.2.length)
    have header : nlaHdrLen = 4 := rfl
    rw [List.flatMap_cons, List.length_append, length_pushNlattr, List.length_cons]
    omega

/-- The last insertion under a type counts. -/
theorem lookup_foldl_insert (attrs : List (Word × List Byte)) (found : NlAttrs) (type : Word) :
    (attrs.foldl (fun found attr => found.insert attr.1 attr.2) found).lookup type =
      (attrs.reverse.lookup type).or (found.lookup type) := by
  induction attrs generalizing found with
  | nil => rfl
  | cons attr rest ih =>
    rw [List.foldl_cons, ih, List.reverse_cons, List.lookup_append, Option.or_assoc]
    obtain ⟨key, value⟩ := attr
    congr 1
    by_cases same : type = key
    · subst same
      rw [AList.lookup_insert, List.lookup_cons_self]
      rfl
    · rw [AList.lookup_insert_ne same, List.lookup_cons, beq_false_of_ne same]
      rfl

/-- What is read is the last value that was written under each type. -/
theorem parseAttrs_pushNlattrs (fits : ∀ attr ∈ attrs, FitsAttr attr) :
    ∃ found, parseAttrs (pushNlattrs attrs []) = .ok found ∧
      ∀ type, found.lookup type = attrs.reverse.lookup type := by
  rw [pushNlattrs_eq, List.nil_append, parseAttrs]
  refine ⟨_, parseAttrsFrom_flatMap fits (length_le_flatMap attrs) ∅, ?_⟩
  intro type
  rw [lookup_foldl_insert, AList.lookup_empty, Option.or_none]

/-! ## Reading any bytes -/

/-- An iteration of the loop over attributes. -/
def attrStep (buf : List Byte) (offset : Nat) (attrs : NlAttrs) :
    Option (CursorStep NlAttrs (Except NetlinkError NlAttrs)) :=
  if ¬ offset < buf.length then
    some (.done (.ok attrs))
  else if buf.length - offset < nlaHdrLen then
    some (.done (.error .shortHeader))
  else do
    let attr ← slice? buf offset (offset + nlaHdrLen)
    let len := readNe attr 0 2
    if len < nlaHdrLen ∨ offset + len > buf.length then
      some (.done (.error .invalidLength))
    else
      let data ← slice? buf (offset + nlaHdrLen) (offset + len)
      some (.next (offset + alignTo len nlaAlignTo)
        (attrs.insert (BitVec.ofNat 16 (readNe attr 2 2) &&& nlaTypeMask) data))

theorem readNe_take {count size : Nat} (inside : offset + size ≤ count) :
    readNe (bytes.take count) offset size = readNe bytes offset size := by
  rw [readNe, readNe, List.drop_take, List.take_take, Nat.min_eq_left (by omega)]

/-- A slice in terms of the bytes from an offset on. -/
theorem slice?_drop {start stop : Nat} (ordered : start ≤ stop)
    (inside : offset + stop ≤ bytes.length) :
    slice? bytes (offset + start) (offset + stop) =
      some (((bytes.drop offset).take stop).drop start) := by
  rw [slice?_eq (by omega) inside, ← List.drop_drop, List.drop_take, Nat.add_sub_cancel_left]

/-- What an iteration does to the bytes from the offset on. -/
theorem attrStep_spec (buf : List Byte) (offset : Nat) (attrs : NlAttrs) :
    (∃ result, attrStep buf offset attrs = some (.done result) ∧
      ∀ rounds, (buf.drop offset).length ≤ rounds →
        parseAttrsFrom rounds (buf.drop offset) attrs = result) ∨
    ∃ offset' attrs', attrStep buf offset attrs = some (.next offset' attrs') ∧
      offset + nlaHdrLen ≤ buf.length ∧ offset + nlaHdrLen ≤ offset' ∧
      ∀ rounds, parseAttrsFrom (rounds + 1) (buf.drop offset) attrs =
        parseAttrsFrom rounds (buf.drop offset') attrs' := by
  have header : nlaHdrLen = 4 := rfl
  have length := buf.length_drop (i := offset)
  rw [attrStep]
  by_cases more : offset < buf.length
  · rw [if_neg (not_not_intro more)]
    have notEmpty : ¬ (buf.drop offset).isEmpty = true := by
      rw [List.isEmpty_iff_length_eq_zero]
      omega
    by_cases short : buf.length - offset < nlaHdrLen
    · refine .inl ⟨_, if_pos short, ?_⟩
      intro rounds enough
      obtain ⟨rounds, rfl⟩ := Nat.exists_eq_add_of_lt (show 0 < rounds by omega)
      rw [parseAttrsFrom, if_neg notEmpty, if_pos (by omega)]
    · have isAttr := slice?_drop (Nat.zero_le nlaHdrLen)
        (show offset + nlaHdrLen ≤ buf.length by omega)
      rw [Nat.add_zero, List.drop_zero] at isAttr
      rw [if_neg short, isAttr, Option.bind_eq_bind, Option.bind_some]
      dsimp only
      rw [readNe_take (by decide), readNe_take (by decide)]
      by_cases invalid : readNe (buf.drop offset) 0 2 < nlaHdrLen ∨
          offset + readNe (buf.drop offset) 0 2 > buf.length
      · refine .inl ⟨_, if_pos invalid, ?_⟩
        intro rounds enough
        obtain ⟨rounds, rfl⟩ := Nat.exists_eq_add_of_lt (show 0 < rounds by omega)
        rw [parseAttrsFrom, if_neg notEmpty, if_neg (by omega), if_pos (by omega)]
      · have longer := le_alignTo (readNe (buf.drop offset) 0 2)
        rw [if_neg invalid, slice?_drop (by omega) (by omega), Option.bind_some]
        refine .inr ⟨_, _, rfl, by omega, by omega, ?_⟩
        intro rounds
        rw [parseAttrsFrom, if_neg notEmpty, if_neg (by omega), if_neg (by omega), List.drop_drop]
  · refine .inl ⟨_, if_pos more, ?_⟩
    intro rounds _
    rw [List.drop_eq_nil_of_le (by omega), parseAttrsFrom_nil]

theorem cursorAdvances_attrStep (buf : List Byte) :
    CursorAdvances nlaHdrLen buf.length (attrStep buf) := by
  intro offset attrs
  obtain ⟨result, taken, _⟩ | ⟨offset', attrs', taken, inside, behind, _⟩ :=
    attrStep_spec buf offset attrs
  · exact ⟨_, taken, by rintro _ _ ⟨⟩⟩
  · refine ⟨_, taken, ?_⟩
    rintro _ _ ⟨⟩
    exact ⟨inside, behind⟩

/-- The loop over offsets agrees with the parser on the bytes from its offset on. -/
theorem parseAttrsFrom_of_runCursor {buf : List Byte} {steps : Nat} {attrs : NlAttrs}
    {result : Except NetlinkError NlAttrs}
    (ended : runCursor (attrStep buf) steps offset attrs = some result)
    (enough : (buf.drop offset).length ≤ rounds) :
    parseAttrsFrom rounds (buf.drop offset) attrs = result := by
  induction steps generalizing offset rounds attrs with
  | zero => cases ended
  | succ steps ih =>
    have header : nlaHdrLen = 4 := rfl
    rw [runCursor] at ended
    obtain ⟨result, taken, parsed⟩ | ⟨offset', attrs', taken, inside, behind, parsed⟩ :=
      attrStep_spec buf offset attrs
    · rw [taken] at ended
      cases ended
      exact parsed rounds enough
    · rw [taken] at ended
      rw [List.length_drop] at enough
      obtain ⟨rounds, rfl⟩ := Nat.exists_eq_add_of_lt (show 0 < rounds by omega)
      rw [Nat.zero_add, parsed]
      apply ih ended
      rw [List.length_drop]
      omega

/-- On any bytes the loop over attributes ends, within its buffer. -/
theorem runCursor_attrStep (buf : List Byte) :
    runCursor (attrStep buf) (buf.length / nlaHdrLen + 1) 0 ∅ = some (parseAttrs buf) := by
  obtain ⟨result, ended⟩ := Option.isSome_iff_exists.mp
    ((cursorAdvances_attrStep buf).isSome_runCursor (by decide) ∅)
  have parsed : parseAttrs buf = result := parseAttrsFrom_of_runCursor ended (Nat.le_refl _)
  rw [ended, parsed]

/-! ## Messages -/

def nlmsghdrLen : Nat := 16

def nlmsgerrLen : Nat := 20

def nlmsgAlignTo : Nat := 4

def nlmsgError : Word := 2#16

def nlmsgDone : Word := 3#16

inductive MessageError where
  /-- Buffer smaller than nlmsghdr. -/
  | shortBuffer
  /-- Invalid nlmsg_len. -/
  | invalidLength
  /-- NLMSG_ERROR missing nlmsgerr. -/
  | missingError
  /-- The error that the kernel reports. -/
  | os (code : BitVec 32)
deriving DecidableEq, Repr

/-- What the loop over messages uses of a message that is read. -/
structure ReadMessage where
  nlmsgLen : Nat
  nlmsgType : Word
  nlmsgSeq : Nat
  data : List Byte
  error : Option (BitVec 32)
deriving DecidableEq, Repr

/-- `NetlinkMessage::read`, with `none` for a read outside of the buffer. -/
def readMessage (buf : List Byte) : Option (Except MessageError ReadMessage) :=
  if nlmsghdrLen > buf.length then
    some (.error .shortBuffer)
  else do
    let header ← slice? buf 0 nlmsghdrLen
    let msgLen := readNe header 0 4
    let msgType := BitVec.ofNat 16 (readNe header 4 2)
    let msgSeq := readNe header 8 4
    if msgLen < nlmsghdrLen ∨ msgLen > buf.length then
      some (.error .invalidLength)
    else
      let dataOffset := alignTo nlmsghdrLen nlmsgAlignTo
      if msgType = nlmsgError then
        if dataOffset + nlmsgerrLen > msgLen then
          some (.error .missingError)
        else
          let error ← slice? buf dataOffset (dataOffset + nlmsgerrLen)
          some (.ok ⟨msgLen, msgType, msgSeq, [], some (BitVec.ofNat 32 (readNe error 0 4))⟩)
      else
        let data ← slice? buf dataOffset msgLen
        some (.ok ⟨msgLen, msgType, msgSeq, data, none⟩)

/-- How the messages of a datagram end: the dump is complete, or the next datagram is
received. -/
inductive DatagramEnd where
  | complete (messages : List NetlinkMessage)
  | more (messages : List NetlinkMessage)
deriving DecidableEq, Repr

/-- An iteration of the loop over the messages of a datagram. -/
def messageStep (buf : List Byte) (expectedSeq offset : Nat) (messages : List NetlinkMessage) :
    Option (CursorStep (List NetlinkMessage) (Except MessageError DatagramEnd)) :=
  if ¬ offset < buf.length then
    some (.done (.ok (.more messages)))
  else do
    let rest ← slice? buf offset buf.length
    match ← readMessage rest with
    | .error kind => some (.done (.error kind))
    | .ok message =>
      let next := offset + alignTo message.nlmsgLen nlmsgAlignTo
      if message.nlmsgSeq ≠ expectedSeq then
        some (.next next messages)
      else if message.nlmsgType = nlmsgDone then
        some (.done (.ok (.complete messages)))
      else if message.nlmsgType = nlmsgError then
        match message.error with
        | some code =>
          if code = 0 then some (.done (.ok (.complete messages)))
          else some (.done (.error (.os (-code))))
        | none => some (.next next messages)
      else
        some (.next next (messages ++ [⟨message.nlmsgType, message.data⟩]))

/-- Reading stays inside the buffer, and a message takes a header at least. -/
theorem readMessage_spec (buf : List Byte) :
    ∃ result, readMessage buf = some result ∧ ∀ message, result = .ok message →
      nlmsghdrLen ≤ message.nlmsgLen ∧ message.nlmsgLen ≤ buf.length := by
  have header : nlmsghdrLen = 16 := rfl
  have offset : alignTo nlmsghdrLen nlmsgAlignTo = 16 := rfl
  rw [readMessage]
  split
  · exact ⟨_, rfl, by rintro _ ⟨⟩⟩
  · rw [slice?_eq (by omega) (by omega), Option.bind_eq_bind, Option.bind_some]
    dsimp only
    split
    · exact ⟨_, rfl, by rintro _ ⟨⟩⟩
    · split
      · split
        · exact ⟨_, rfl, by rintro _ ⟨⟩⟩
        · rw [slice?_eq (by omega) (by omega), Option.bind_some]
          refine ⟨_, rfl, ?_⟩
          rintro _ ⟨⟩
          dsimp only
          omega
      · rw [slice?_eq (by omega) (by omega), Option.bind_some]
        refine ⟨_, rfl, ?_⟩
        rintro _ ⟨⟩
        dsimp only
        omega

theorem cursorAdvances_messageStep (buf : List Byte) (expectedSeq : Nat) :
    CursorAdvances nlmsghdrLen buf.length (messageStep buf expectedSeq) := by
  intro offset messages
  rw [messageStep]
  by_cases more : offset < buf.length
  · rw [if_neg (not_not_intro more), slice?_eq (by omega) (Nat.le_refl _), List.take_length,
      Option.bind_eq_bind, Option.bind_some]
    obtain ⟨result, isRead, bounds⟩ := readMessage_spec (buf.drop offset)
    rw [isRead, Option.bind_eq_bind, Option.bind_some]
    cases result with
    | error kind => exact ⟨_, rfl, by rintro _ _ ⟨⟩⟩
    | ok message =>
      obtain ⟨longer, inside⟩ := bounds message rfl
      have aligned := le_alignTo message.nlmsgLen
      rw [List.length_drop] at inside
      have forward : offset + nlmsghdrLen ≤ buf.length ∧
          offset + nlmsghdrLen ≤ offset + alignTo message.nlmsgLen nlmsgAlignTo := by
        change _ ∧ _ ≤ offset + alignTo message.nlmsgLen nlaAlignTo
        omega
      dsimp only
      split
      · exact ⟨_, rfl, by rintro _ _ ⟨⟩; exact forward⟩
      · split
        · exact ⟨_, rfl, by rintro _ _ ⟨⟩⟩
        · split
          · split
            · split
              · exact ⟨_, rfl, by rintro _ _ ⟨⟩⟩
              · exact ⟨_, rfl, by rintro _ _ ⟨⟩⟩
            · exact ⟨_, rfl, by rintro _ _ ⟨⟩; exact forward⟩
          · exact ⟨_, rfl, by rintro _ _ ⟨⟩; exact forward⟩
  · exact ⟨_, if_pos more, by rintro _ _ ⟨⟩⟩

/-- Reading attributes gives back what was written, the last value of each type.  On any
bytes the loops over attributes and over the messages of a datagram end, no step reads
outside of the buffer, and each one moves on by a header at least. -/
theorem netlink_reading_inverse_and_safe :
    (∀ attrs : List (Word × List Byte),
      (∀ attr ∈ attrs, attr.1 &&& nlaTypeMask = attr.1 ∧ attr.2.length ≤ 65531) →
      ∃ found, parseAttrs (pushNlattrs attrs []) = .ok found ∧
        ∀ type, found.lookup type = attrs.reverse.lookup type) ∧
    (∀ buf : List Byte, CursorAdvances nlaHdrLen buf.length (attrStep buf) ∧
      runCursor (attrStep buf) (buf.length / nlaHdrLen + 1) 0 ∅ = some (parseAttrs buf)) ∧
    ∀ (buf : List Byte) (expectedSeq : Nat) (messages : List NetlinkMessage),
      CursorAdvances nlmsghdrLen buf.length (messageStep buf expectedSeq) ∧
      (runCursor (messageStep buf expectedSeq) (buf.length / nlmsghdrLen + 1) 0
        messages).isSome := by
  refine ⟨?_, ?_, ?_⟩
  · intro attrs fits
    exact parseAttrs_pushNlattrs fun attr member => ⟨(fits attr member).1, (fits attr member).2⟩
  · intro buf
    exact ⟨cursorAdvances_attrStep buf, runCursor_attrStep buf⟩
  · intro buf expectedSeq messages
    have advances := cursorAdvances_messageStep buf expectedSeq
    exact ⟨advances, advances.isSome_runCursor (by decide) messages⟩

end FastSocket.Xdp
