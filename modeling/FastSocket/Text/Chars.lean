import Mathlib.Algebra.Group.Nat.Defs
import Mathlib.Data.List.TakeWhile

/-!
# Texts as lists of characters

The operations on strings of the standard library that the programs use, and decimal
numbers in them.
-/

namespace FastSocket.Text

/-- The characters with the Unicode property `White_Space`. -/
def isWhitespace (char : Char) : Bool :=
  (9 ≤ char.toNat && char.toNat ≤ 13) || char.toNat == 0x20 || char.toNat == 0x85 ||
    char.toNat == 0xa0 || char.toNat == 0x1680 || (0x2000 ≤ char.toNat && char.toNat ≤ 0x200a) ||
    char.toNat == 0x2028 || char.toNat == 0x2029 || char.toNat == 0x202f ||
    char.toNat == 0x205f || char.toNat == 0x3000

def trimStart (text : List Char) : List Char :=
  text.dropWhile isWhitespace

def trim (text : List Char) : List Char :=
  (trimStart (trimStart text).reverse).reverse

/-- What stands in front of an ending. -/
def stripSuffix (text ending : List Char) : Option (List Char) :=
  if ending.isSuffixOf text then some (text.take (text.length - ending.length)) else none

/-- The texts in front of and behind the first occurrence of a character. -/
def splitOnce (separator : Char) (text : List Char) : Option (List Char × List Char) :=
  match text.dropWhile (· != separator) with
  | [] => none
  | _ :: rest => some (text.takeWhile (· != separator), rest)

def splitWhitespace (text : List Char) : List (List Char) :=
  (text.splitOnP isWhitespace).filter (!·.isEmpty)

/-- The line in front of a line feed, without a carriage return at its end. -/
def lineBefore (piece : List Char) : List Char :=
  (stripSuffix piece ['\r']).getD piece

/-- The lines of a text; no line follows the last line feed if nothing else does. -/
def lines (text : List Char) : List (List Char) :=
  let pieces := text.splitOnP (· == '\n')
  pieces.dropLast.map lineBefore ++ pieces.getLast?.toList.filter (!·.isEmpty)

/-- The decimal form of a number. -/
def decimal (number : Nat) : List Char :=
  Nat.toDigits 10 number

/-- Reads a number below `2 ^ 32`, with an optional plus sign in front. -/
def parseU32 (text : List Char) : Option Nat :=
  let digits := if text.head? = some '+' then text.tail else text
  if digits.isEmpty || !digits.all Char.isDigit then
    none
  else
    let number := Nat.ofDigitChars 10 digits 0
    if number < 2 ^ 32 then some number else none

/-! ## Endings -/

variable {text : List Char} {number : Nat} {char : Char}

theorem stripSuffix_eq_some_iff {ending front : List Char} :
    stripSuffix text ending = some front ↔ text = front ++ ending := by
  rw [stripSuffix]
  split
  case isTrue isEnding =>
    obtain ⟨start, rfl⟩ := List.isSuffixOf_iff_suffix.mp isEnding
    rw [List.length_append, Nat.add_sub_cancel, List.take_left, Option.some.injEq,
      List.append_cancel_right_eq]
  case isFalse isOther =>
    refine iff_of_false nofun ?_
    rintro rfl
    exact isOther (List.isSuffixOf_iff_suffix.mpr (List.suffix_append _ _))

/-! ## Decimal numbers -/

theorem decimal_injective : Function.Injective decimal := by
  intro first second same
  have values := congrArg (Nat.ofDigitChars 10 · 0) same
  simpa only [decimal, Nat.ofDigitChars_toDigits (by decide : 1 < 10) (Nat.le_refl 10)] using values

theorem decimal_ne_nil (number : Nat) : decimal number ≠ [] :=
  Nat.toDigits_ne_nil

theorem isDigit_of_mem_decimal (member : char ∈ decimal number) : char.isDigit = true :=
  Nat.isDigit_of_mem_toDigits (by decide) (Nat.le_refl 10) member

theorem isAlpha_eq_false_of_isDigit (digit : char.isDigit = true) : char.isAlpha = false := by
  change (decide (char.val ≥ '0'.val) && decide (char.val ≤ '9'.val)) = true at digit
  change (decide (char.val ≥ 'A'.val ∧ char.val ≤ 'Z'.val) ||
    (decide (char.val ≥ 'a'.val) && decide (char.val ≤ 'z'.val))) = false
  simp only [Bool.and_eq_true, decide_eq_true_eq, Bool.or_eq_false_iff, Bool.and_eq_false_iff,
    decide_eq_false_iff_not, UInt32.le_iff_toNat_le, ge_iff_le, Char.reduceVal,
    UInt32.reduceToNat] at digit ⊢
  omega

/-- What is left of a text without its leading ASCII letters. -/
def withoutLetters (text : List Char) : List Char :=
  text.dropWhile Char.isAlpha

theorem withoutLetters_append_decimal {letters : List Char}
    (areLetters : ∀ char ∈ letters, char.isAlpha = true) (number : Nat) :
    withoutLetters (letters ++ decimal number) = decimal number := by
  rw [withoutLetters, List.dropWhile_append_of_pos areLetters, List.dropWhile_eq_self_iff]
  intro nonempty
  rw [isAlpha_eq_false_of_isDigit (isDigit_of_mem_decimal (List.getElem_mem nonempty))]
  exact Bool.false_ne_true

/-- A text is letters in front of a number exactly when the number is left without its
leading letters. -/
theorem exists_letters_append_decimal_iff :
    (∃ letters, (∀ char ∈ letters, char.isAlpha = true) ∧ text = letters ++ decimal number) ↔
      withoutLetters text = decimal number := by
  constructor
  · rintro ⟨letters, areLetters, rfl⟩
    exact withoutLetters_append_decimal areLetters number
  · intro left
    refine ⟨text.takeWhile Char.isAlpha, fun char => List.mem_takeWhile_imp, ?_⟩
    rw [← left]
    exact List.takeWhile_append_dropWhile.symm

end FastSocket.Text
