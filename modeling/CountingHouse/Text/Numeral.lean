/-
CountingHouse.Text.Numeral — integers as text.

A decimal numeral is an optional sign and at least one ASCII digit;
leading zeros are allowed. A reader states the largest value it accepts,
and a numeral beyond it is refused like any other bad text. Digits of
other scripts, separators, points and exponents are refused.
-/

namespace CountingHouse.Text

/-! ## Writing -/

/-- A natural number in decimal, without leading zeros. -/
def natural (n : Nat) : List Char :=
  Nat.toDigits 10 n

/-- An integer in decimal; a minus sign stands before a negative one. -/
def integer : Int → List Char
  | .ofNat n => natural n
  | .negSucc n => '-' :: natural (n + 1)

/-! ## Reading -/

/-- Reads one or more decimal digits. -/
def digits? (s : List Char) : Option Nat :=
  if s ≠ [] ∧ s.all Char.isDigit then some (Nat.ofDigitChars 10 s 0) else none

/-- Reads a numeral without a minus sign that is at most `max`. -/
def natural? (max : Nat) (s : List Char) : Option Nat :=
  (digits? (if s.head? = some '+' then s.tail else s)).filter (· ≤ max)

/-- Reads a numeral that lies between `min` and `max`. -/
def integer? (min max : Int) : List Char → Option Int
  | '-' :: s => ((digits? s).map fun n => -(n : Int)).filter (min ≤ ·)
  | '+' :: s => ((digits? s).map fun n => (n : Int)).filter (· ≤ max)
  | s => ((digits? s).map fun n => (n : Int)).filter (· ≤ max)

/-! ## Hexadecimal -/

/-- The value of a hexadecimal digit of either case. -/
def hexDigit? (c : Char) : Option Nat :=
  if '0' ≤ c ∧ c ≤ '9' then some (c.toNat - '0'.toNat)
  else if 'a' ≤ c ∧ c ≤ 'f' then some (c.toNat - 'a'.toNat + 10)
  else if 'A' ≤ c ∧ c ≤ 'F' then some (c.toNat - 'A'.toNat + 10)
  else none

/-- Reads one or more hexadecimal digits. -/
def hexDigits? : List Char → Option Nat
  | [] => none
  | s => s.foldlM (fun n c => (hexDigit? c).map (n * 16 + ·)) 0

/-- Reads a hexadecimal numeral, with an optional plus sign, that is at
most `max`. -/
def hexadecimal? (max : Nat) (s : List Char) : Option Nat :=
  (hexDigits? (if s.head? = some '+' then s.tail else s)).filter (· ≤ max)

/-! ## Sixty-four bit balances and thirty-two bit amounts -/

/-- Reads a signed sixty-four bit integer. -/
def int64? (s : List Char) : Option Int64 :=
  (integer? (-0x8000000000000000) 0x7FFFFFFFFFFFFFFF s).map Int64.ofInt

/-- Reads an unsigned thirty-two bit integer. -/
def uint32? (s : List Char) : Option UInt32 :=
  (natural? 0xFFFFFFFF s).map UInt32.ofNat

example : int64? "-0".toList = some 0 := by decide
example : uint32? "-0".toList = none := by decide
example : uint32? "+05".toList = some 5 := by decide
example : int64? "+-5".toList = none := by decide

end CountingHouse.Text
