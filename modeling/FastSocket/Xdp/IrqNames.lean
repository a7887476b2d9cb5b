import FastSocket.Text.Chars

/-!
# IRQ handler names

The IRQ of a receive queue is found by the name of its handler.  A name belongs to a queue
if one of its parts is the interface and one is the number of the queue, with letters in
front of it or not.  Nothing keeps one part from being both, nor a part of the driver's name
from being the second.
-/

namespace FastSocket.Xdp

open Text

/-! ## The matcher -/

def isDelimiter (char : Char) : Bool :=
  char == '-' || char == '.' || char == '@' || char == '_'

/-- The parts of a name. -/
def nameParts (token : List Char) : List (List Char) :=
  token.splitOnP isDelimiter

/-- The test that `token_names_iface_queue` makes for the queue. -/
def partNamesQueue (queueStr part : List Char) : Bool :=
  if part = queueStr then
    true
  else
    match stripSuffix part queueStr with
    | none => false
    | some letters => !letters.isEmpty && letters.all Char.isAlpha

def tokenNamesIfaceQueue (token iface queueStr : List Char) : Bool :=
  if !(nameParts token).any (· == iface) then
    false
  else
    (nameParts token).any (partNamesQueue queueStr)

/-- The IRQ of a line in `/proc/interrupts`, and the words behind it. -/
def interruptLine (line : List Char) : Option (Nat × List (List Char)) := do
  let (head, rest) ← splitOnce ':' (trimStart line)
  let irq ← parseU32 (trim head)
  return (irq, splitWhitespace rest)

/-- The IRQs that `/proc/interrupts` lists. -/
def interrupts (raw : List Char) : List (Nat × List (List Char)) :=
  (lines raw).filterMap interruptLine

/-- The first IRQ with a name of the queue; `none` is the `NotFound` error. -/
def irqFromProcInterrupts (raw iface : List Char) (queue : Nat) : Option Nat :=
  ((interrupts raw).find? fun entry =>
    entry.2.any (tokenNamesIfaceQueue · iface (decimal queue))).map Prod.fst

/-- What the kernel shows of an IRQ under `/proc/irq`: its list of actions if there is one,
and the names in its directory. -/
structure IrqDescriptor where
  actions : Option (List Char)
  entries : List (List Char)

def IrqDescriptor.tokens (descriptor : IrqDescriptor) : List (List Char) :=
  (descriptor.actions.elim [] fun actions => (actions.splitOnP (· == ',')).map trim) ++
    descriptor.entries

def irqDescriptorNamesQueue (descriptor : IrqDescriptor) (iface queueStr : List Char) : Bool :=
  descriptor.tokens.any (tokenNamesIfaceQueue · iface queueStr)

/-- The files in which the IRQs of an interface are looked up.  There is no list of MSI IRQs
for some devices. -/
structure IrqFiles where
  msiIrqs : Option (List (List Char))
  descriptor : Nat → IrqDescriptor
  procInterrupts : List Char

def irqFromSysfs (files : IrqFiles) (iface : List Char) (queue : Nat) : Option Nat :=
  files.msiIrqs.bind fun names => (names.filterMap parseU32).find? fun irq =>
    irqDescriptorNamesQueue (files.descriptor irq) iface (decimal queue)

def irqForRxQueue (files : IrqFiles) (iface : List Char) (queue : Nat) : Option Nat :=
  (irqFromSysfs files iface queue).or (irqFromProcInterrupts files.procInterrupts iface queue)

/-! ## Handler names -/

/-- The documented names of handlers. -/
inductive HandlerName where
  | dash
  | dot
  | commercialAt
  | mlx5
  | bnxt
deriving DecidableEq, Repr

/-- The name of the handler for a queue. -/
def HandlerName.text (iface : List Char) (queue : Nat) : HandlerName → List Char
  | .dash => iface ++ '-' :: decimal queue
  | .dot => iface ++ '.' :: decimal queue
  | .commercialAt => iface ++ '@' :: decimal queue
  | .mlx5 => ['m', 'l', 'x', '5', '_', 'c', 'o', 'm', 'p'] ++ decimal queue ++ '@' :: iface
  | .bnxt => ['b', 'n', 'x', 't', '_', 'e', 'n', '_'] ++ decimal queue ++ '_' :: iface

/-- An interface name without delimiters. -/
def Undelimited (iface : List Char) : Prop :=
  ∀ char ∈ iface, isDelimiter char = false

instance (iface : List Char) : Decidable (Undelimited iface) :=
  List.decidableBAll _ iface

/-! ## Parts -/

section Parts

variable {iface : List Char} {queue other : Nat}

/-- A part names a queue if the number is left of it without leading letters. -/
theorem partNamesQueue_decimal_iff (part : List Char) (queue : Nat) :
    partNamesQueue (decimal queue) part = true ↔ withoutLetters part = decimal queue := by
  rw [← exists_letters_append_decimal_iff, partNamesQueue]
  split
  case isTrue same => exact iff_of_true rfl ⟨[], nofun, same⟩
  case isFalse differs =>
    cases strip : stripSuffix part (decimal queue) with
    | none =>
      refine iff_of_false Bool.false_ne_true ?_
      rintro ⟨letters, _, isPart⟩
      cases strip.symm.trans (stripSuffix_eq_some_iff.mpr isPart)
    | some front =>
      have isPart := stripSuffix_eq_some_iff.mp strip
      have nonempty : front ≠ [] := by
        rintro rfl
        exact differs isPart
      simp only [Bool.and_eq_true, Bool.not_eq_true', List.isEmpty_eq_false_iff,
        List.all_eq_true]
      constructor
      · rintro ⟨_, areLetters⟩
        exact ⟨front, areLetters, isPart⟩
      · rintro ⟨letters, areLetters, isOther⟩
        rw [isPart, List.append_cancel_right_eq] at isOther
        rw [isOther]
        exact ⟨isOther ▸ nonempty, areLetters⟩

variable {char : Char}

theorem isDelimiter_eq_false_of_isDigit (digit : char.isDigit = true) :
    isDelimiter char = false := by
  rw [isDelimiter]
  simp only [Bool.or_eq_false_iff, beq_eq_false_iff_ne]
  refine ⟨⟨⟨?_, ?_⟩, ?_⟩, ?_⟩ <;>
    · rintro rfl
      revert digit
      decide

theorem undelimited_decimal (queue : Nat) : Undelimited (decimal queue) :=
  fun _ member => isDelimiter_eq_false_of_isDigit (isDigit_of_mem_decimal member)

/-- The parts on both sides of a delimiter. -/
theorem nameParts_append_cons {first rest : List Char} (plain : Undelimited first)
    (delimiter : isDelimiter char = true) :
    nameParts (first ++ char :: rest) = first :: nameParts rest := by
  rw [nameParts, List.splitOnP_append_cons _ _ delimiter, List.splitOnP_eq_singleton plain]
  rfl

theorem nameParts_of_undelimited {part : List Char} (plain : Undelimited part) :
    nameParts part = [part] :=
  List.splitOnP_eq_singleton plain

/-- The parts of a handler's name. -/
theorem nameParts_text (plain : Undelimited iface) (queue : Nat) (name : HandlerName) :
    nameParts (name.text iface queue) =
      match name with
      | .dash | .dot | .commercialAt => [iface, decimal queue]
      | .mlx5 => [['m', 'l', 'x', '5'], ['c', 'o', 'm', 'p'] ++ decimal queue, iface]
      | .bnxt => [['b', 'n', 'x', 't'], ['e', 'n'], decimal queue, iface] := by
  have digits := undelimited_decimal queue
  cases name with
  | dash | dot | commercialAt =>
    rw [HandlerName.text, nameParts_append_cons plain rfl, nameParts_of_undelimited digits]
  | mlx5 =>
    have comp : Undelimited (['c', 'o', 'm', 'p'] ++ decimal queue) :=
      List.forall_mem_append.mpr ⟨(show Undelimited ['c', 'o', 'm', 'p'] by decide), digits⟩
    change nameParts (['m', 'l', 'x', '5'] ++ '_' ::
      ((['c', 'o', 'm', 'p'] ++ decimal queue) ++ '@' :: iface)) = _
    rw [nameParts_append_cons (by decide) rfl, nameParts_append_cons comp rfl,
      nameParts_of_undelimited plain]
  | bnxt =>
    change nameParts (['b', 'n', 'x', 't'] ++ '_' :: (['e', 'n'] ++ '_' :: (decimal queue ++
      '_' :: iface))) = _
    rw [nameParts_append_cons (by decide) rfl, nameParts_append_cons (by decide) rfl,
      nameParts_append_cons digits rfl, nameParts_of_undelimited plain]

/-- A name with the interface as a part names a queue if some part does. -/
theorem tokenNamesIfaceQueue_iff (token iface : List Char) (queue : Nat) :
    tokenNamesIfaceQueue token iface (decimal queue) = true ↔
      iface ∈ nameParts token ∧ ∃ part ∈ nameParts token, withoutLetters part = decimal queue := by
  have found : (nameParts token).any (· == iface) = true ↔ iface ∈ nameParts token := by
    rw [List.any_beq', List.contains_iff_mem]
  have named : (nameParts token).any (partNamesQueue (decimal queue)) = true ↔
      ∃ part ∈ nameParts token, withoutLetters part = decimal queue := by
    simp only [List.any_eq_true, partNamesQueue_decimal_iff]
  rw [tokenNamesIfaceQueue, ← found, ← named]
  cases (nameParts token).any (· == iface) with
  | false => exact iff_of_false Bool.false_ne_true (fun both => Bool.false_ne_true both.1)
  | true => exact (and_iff_right rfl).symm

theorem withoutLetters_decimal (queue : Nat) : withoutLetters (decimal queue) = decimal queue :=
  @withoutLetters_append_decimal [] nofun queue

theorem mem_nameParts_text (plain : Undelimited iface) (queue : Nat) (name : HandlerName) :
    iface ∈ nameParts (name.text iface queue) := by
  rw [nameParts_text plain]
  cases name <;> simp

/-- The queues for which a handler's name is taken: its own, the one whose number the
interface ends in behind letters only, and queue 5 for the driver `mlx5`. -/
theorem tokenNamesIfaceQueue_text_iff (plain : Undelimited iface) (name : HandlerName)
    (queue other : Nat) :
    tokenNamesIfaceQueue (name.text iface queue) iface (decimal other) = true ↔
      other = queue ∨ withoutLetters iface = decimal other ∨ (name = .mlx5 ∧ other = 5) := by
  have number : decimal queue = decimal other ↔ other = queue :=
    decimal_injective.eq_iff.trans eq_comm
  have five : ['5'] = decimal other ↔ other = 5 := by
    rw [← decimal_injective.eq_iff, eq_comm]
    rfl
  have comp : withoutLetters (['c', 'o', 'm', 'p'] ++ decimal queue) = decimal queue :=
    withoutLetters_append_decimal (List.all_eq_true.mp (by decide)) queue
  have mlx5 : withoutLetters ['m', 'l', 'x', '5'] = ['5'] := by decide
  have bnxt : withoutLetters ['b', 'n', 'x', 't'] = [] := by decide
  have en : withoutLetters ['e', 'n'] = [] := by decide
  have empty : [] ≠ decimal other := (decimal_ne_nil other).symm
  rw [tokenNamesIfaceQueue_iff, and_iff_right (mem_nameParts_text plain queue name),
    nameParts_text plain]
  cases name with
  | dash | dot | commercialAt =>
    simp only [List.mem_cons, List.not_mem_nil, or_false, exists_eq_or_imp, exists_eq_left,
      withoutLetters_decimal, number, reduceCtorEq, false_and]
    exact or_comm
  | mlx5 =>
    simp only [List.mem_cons, List.not_mem_nil, or_false, exists_eq_or_imp, exists_eq_left,
      comp, mlx5, number, five, true_and]
    exact or_rotate
  | bnxt =>
    simp only [List.mem_cons, List.not_mem_nil, or_false, exists_eq_or_imp, exists_eq_left,
      withoutLetters_decimal, bnxt, en, number, empty, false_or, reduceCtorEq, false_and]

end Parts

/-! ## Lists of interrupts -/

/-- The words of a list of interrupts that mention an interface are handlers of its queues. -/
def Documented (name : HandlerName) (iface : List Char) (tokens : List (List Char)) : Prop :=
  ∀ token ∈ tokens, iface ∈ nameParts token → ∃ queue, token = name.text iface queue

section Lists

variable {iface : List Char} {name : HandlerName} {queue : Nat}

/-- Where only the right names are taken, the handler of the queue is among the names. -/
theorem text_mem_of_any {tokens : List (List Char)} (plain : Undelimited iface)
    (ends : withoutLetters iface ≠ decimal queue) (driver : name = .mlx5 → queue ≠ 5)
    (documented : Documented name iface tokens)
    (named : tokens.any (tokenNamesIfaceQueue · iface (decimal queue)) = true) :
    name.text iface queue ∈ tokens := by
  obtain ⟨token, member, names⟩ := List.any_eq_true.mp named
  obtain ⟨own, rfl⟩ := documented token member ((tokenNamesIfaceQueue_iff _ _ _).mp names).1
  rcases (tokenNamesIfaceQueue_text_iff plain name own queue).mp names with
    rfl | same | ⟨isMlx5, isFive⟩
  · exact member
  · exact absurd same ends
  · exact absurd isFive (driver isMlx5)

/-- The IRQ that is found in the list of interrupts has the handler of the queue. -/
theorem exists_text_of_irqFromProcInterrupts {raw : List Char} {irq : Nat}
    (plain : Undelimited iface) (ends : withoutLetters iface ≠ decimal queue)
    (driver : name = .mlx5 → queue ≠ 5)
    (documented : ∀ entry ∈ interrupts raw, Documented name iface entry.2)
    (found : irqFromProcInterrupts raw iface queue = some irq) :
    ∃ tokens, (irq, tokens) ∈ interrupts raw ∧ name.text iface queue ∈ tokens := by
  obtain ⟨⟨_, tokens⟩, isFound, rfl⟩ := Option.map_eq_some_iff.mp found
  have member := List.mem_of_find?_eq_some isFound
  have names := @List.find?_some _ _ _ _ isFound
  exact ⟨tokens, member, text_mem_of_any plain ends driver (documented _ member) names⟩

end Lists

/-! ## The queue of a handler -/

/-- The name of a queue's handler is taken for that queue and not for another one, and no
list of interrupts with such names gives that other queue the IRQ of a third, exactly if the
interface does not end in the number of the other queue behind letters only, and if that is
not queue 5 of an interface of the driver `mlx5`. -/
theorem handlerName_identifies_queue_iff {iface : List Char} (plain : Undelimited iface)
    (name : HandlerName) {queue other : Nat} (differ : queue ≠ other) :
    (tokenNamesIfaceQueue (name.text iface queue) iface (decimal queue) = true ∧
      tokenNamesIfaceQueue (name.text iface queue) iface (decimal other) = false ∧
      ∀ raw irq, (∀ entry ∈ interrupts raw, Documented name iface entry.2) →
        irqFromProcInterrupts raw iface other = some irq →
          ∃ tokens, (irq, tokens) ∈ interrupts raw ∧ name.text iface other ∈ tokens) ↔
    withoutLetters iface ≠ decimal other ∧ (name = .mlx5 → other ≠ 5) := by
  have own := (tokenNamesIfaceQueue_text_iff plain name queue queue).mpr (.inl rfl)
  have others := tokenNamesIfaceQueue_text_iff plain name queue other
  rw [or_iff_right differ.symm] at others
  constructor
  · rintro ⟨_, refused, _⟩
    have neither := mt others.mpr (ne_true_of_eq_false refused)
    exact ⟨fun same => neither (.inl same), fun isMlx5 isFive => neither (.inr ⟨isMlx5, isFive⟩)⟩
  · rintro ⟨ends, driver⟩
    refine ⟨own, ?_, ?_⟩
    · rw [Bool.eq_false_iff]
      exact mt others.mp (not_or.mpr ⟨ends, fun both => driver both.1 both.2⟩)
    · exact fun _ _ => exists_text_of_irqFromProcInterrupts plain ends driver

/-- On the interface `lan` the handler of queue 3 is not taken for that of queue 4. -/
theorem handlerName_identifies_queue_lan :
    tokenNamesIfaceQueue ['l', 'a', 'n', '-', '3'] ['l', 'a', 'n'] ['3'] = true ∧
      tokenNamesIfaceQueue ['l', 'a', 'n', '-', '3'] ['l', 'a', 'n'] ['4'] = false := by
  have identifies := (handlerName_identifies_queue_iff
    (show Undelimited ['l', 'a', 'n'] by decide) .dash (show 3 ≠ 4 by decide)).mpr
      ⟨by decide, nofun⟩
  exact ⟨identifies.1, identifies.2.1⟩

/-- On the interface `eth0` the handler of queue 1 is taken for that of queue 0, and its IRQ
24 is found for queue 0, whose own IRQ is 25.  The handler of queue 0 of the driver `mlx5` is
taken for that of queue 5. -/
theorem handlerName_misses_queue :
    tokenNamesIfaceQueue "eth0-1".toList "eth0".toList (decimal 0) = true ∧
      irqFromProcInterrupts
        "  24:  7  IR-PCI-MSI  1-edge  eth0-1\n  25:  3  IR-PCI-MSI  2-edge  eth0-0\n".toList
        "eth0".toList 0 = some 24 ∧
      tokenNamesIfaceQueue "mlx5_comp0@ens".toList "ens".toList (decimal 5) = true := by
  decide +kernel

end FastSocket.Xdp
