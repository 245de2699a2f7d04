/-!
# Numerals

Numerals are runs of decimal digits of any script, most significant digit first. A numeral longer
than `maxDigits` is refused, leading zeros included, so that no text can ask for unbounded
arithmetic. Nor is a number with more digits written.
-/

namespace Feuilleton.Text

/-- The digit zero of every script; each script's ten digits are consecutive code points. -/
def digitZeros : List Nat := [
  0x30, 0x660, 0x6F0, 0x7C0, 0x966, 0x9E6, 0xA66, 0xAE6, 0xB66, 0xBE6,
  0xC66, 0xCE6, 0xD66, 0xDE6, 0xE50, 0xED0, 0xF20, 0x1040, 0x1090, 0x17E0,
  0x1810, 0x1946, 0x19D0, 0x1A80, 0x1A90, 0x1B50, 0x1BB0, 0x1C40, 0x1C50, 0xA620,
  0xA8D0, 0xA900, 0xA9D0, 0xA9F0, 0xAA50, 0xABF0, 0xFF10, 0x104A0, 0x10D30, 0x11066,
  0x110F0, 0x11136, 0x111D0, 0x112F0, 0x11450, 0x114D0, 0x11650, 0x116C0, 0x11730, 0x118E0,
  0x11950, 0x11C50, 0x11D50, 0x11DA0, 0x16A60, 0x16AC0, 0x16B50, 0x1D7CE, 0x1D7D8, 0x1D7E2,
  0x1D7EC, 0x1D7F6, 0x1E140, 0x1E2F0, 0x1E950, 0x1FBF0]

def digitValue? (c : Char) : Option Nat :=
  digitZeros.findSome? fun start =>
    if start ≤ c.toNat ∧ c.toNat < start + 10 then some (c.toNat - start) else none

def isDigit (c : Char) : Bool :=
  (digitValue? c).isSome

def numeralValue (digits : List Char) : Nat :=
  digits.foldl (fun value c => 10 * value + (digitValue? c).getD 0) 0

def maxDigits : Nat := 4300

structure NumeralTooLong where
  digits : Nat
deriving DecidableEq, Repr

def readNumeral (digits : List Char) : Except NumeralTooLong Nat :=
  if digits.length ≤ maxDigits then .ok (numeralValue digits) else .error ⟨digits.length⟩

/-- The first run of digits, if there is any. -/
def firstDigits? (cs : List Char) : Option (List Char) :=
  match cs.dropWhile (!isDigit ·) with
  | [] => none
  | rest => some (rest.takeWhile isDigit)

/-- The digits at the very end of a text, in reading order. -/
def lastDigits (cs : List Char) : List Char :=
  (cs.reverse.takeWhile isDigit).reverse

theorem lastDigits_append (front : List Char) {digits : List Char}
    (h : ∀ c ∈ digits, isDigit c = true) :
    lastDigits (front ++ digits) = lastDigits front ++ digits := by
  have hreverse : ∀ c ∈ digits.reverse, isDigit c = true := by simpa using h
  simp [lastDigits, List.takeWhile_append_of_pos hreverse]

theorem exists_append_lastDigits (cs : List Char) :
    ∃ front, cs = front ++ lastDigits cs ∧ ∀ c ∈ lastDigits cs, isDigit c = true := by
  refine ⟨(cs.reverse.dropWhile isDigit).reverse, ?_, ?_⟩
  · rw [lastDigits, ← List.reverse_append, List.takeWhile_append_dropWhile, List.reverse_reverse]
  · intro c hc
    rw [lastDigits, List.mem_reverse] at hc
    exact List.all_eq_true.1 List.all_takeWhile c hc

theorem readNumeral_eq_error_iff {digits : List Char} {e : NumeralTooLong} :
    readNumeral digits = .error e ↔ maxDigits < digits.length ∧ e = ⟨digits.length⟩ := by
  unfold readNumeral
  split
  · simp; omega
  · simp only [Except.error.injEq]
    constructor
    · rintro rfl; exact ⟨by omega, rfl⟩
    · rintro ⟨_, rfl⟩; rfl

/-! ## Writing numbers -/

def natText (n : Nat) : String :=
  String.ofList (Nat.toDigits 10 n)

def intText : Int → String
  | .ofNat n => natText n
  | .negSucc n => "-" ++ natText (n + 1)

/-- The number has at most `maxDigits` decimal digits; the sign does not count. -/
def IsWritable (n : Int) : Prop :=
  (Nat.toDigits 10 n.natAbs).length ≤ maxDigits

instance (n : Int) : Decidable (IsWritable n) :=
  inferInstanceAs (Decidable (_ ≤ _))

/-- Decimal digits filled up with zeros on the left to at least `width`. -/
def padded (width n : Nat) : String :=
  let digits := Nat.toDigits 10 n
  String.ofList (List.replicate (width - digits.length) '0' ++ digits)

def hexPadded (width n : Nat) : String :=
  let digits := Nat.toDigits 16 n
  String.ofList (List.replicate (width - digits.length) '0' ++ digits)

def NumeralTooLong.message (e : NumeralTooLong) : String :=
  "Exceeds the limit (" ++ natText maxDigits ++
    " digits) for integer string conversion: value has " ++ natText e.digits ++
    " digits; use sys.set_int_max_str_digits() to increase the limit"

end Feuilleton.Text
