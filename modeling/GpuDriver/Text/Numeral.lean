/-!
# Numerals

Reading and writing whole numbers. A numeral to be read has at least one decimal digit and nothing but
digits after its sign, and its value must lie in the range that is asked for. Numerals are written
without a sign for what is not negative.
-/

namespace GpuDriver.Text

/-- The least natural number that takes more than 64 bits. -/
abbrev wordBound : Nat := 0x10000000000000000

/-- The value of a decimal digit. -/
def digitValue (c : Char) : Nat := c.toNat - '0'.toNat

/-- The value of a row of decimal digits, the first of them leading. -/
def digitsValue (cs : List Char) : Nat := cs.foldl (fun n c => 10 * n + digitValue c) 0

/-- The value of a non-empty row of decimal digits. -/
def digits? (cs : List Char) : Option Nat :=
  if !cs.isEmpty && cs.all Char.isDigit then some (digitsValue cs) else none

/-- A numeral with an optional plus sign and a value below `bound`. -/
def natural? (bound : Nat) (cs : List Char) : Option Nat :=
  (digits? (if cs.head? = some '+' then cs.tail else cs)).filter (· < bound)

/-- A numeral with an optional sign and a value from `low` up to, but not including, `bound`. -/
def integer? (low bound : Int) (cs : List Char) : Option Int :=
  (match cs with
    | '+' :: rest => (digits? rest).map Int.ofNat
    | '-' :: rest => (digits? rest).map fun n => -(n : Int)
    | rest => (digits? rest).map Int.ofNat).filter fun k => low ≤ k && k < bound

/-- A numeral of a 32-bit signed number. -/
def int32? (cs : List Char) : Option Int := integer? (-0x80000000) 0x80000000 cs

/-- A numeral of a 64-bit signed number. -/
def int64? (cs : List Char) : Option Int := integer? (-0x8000000000000000) 0x8000000000000000 cs

/-- The decimal digits of a natural number. -/
def decimal (n : Nat) : String := Nat.repr n

/-- The decimal digits of an integer, after a minus sign if it is negative. -/
def signedDecimal (k : Int) : String := (if k < 0 then "-" else "") ++ decimal k.natAbs

/-- At least `width` decimal digits, with zeros in front. -/
def paddedDecimal (width n : Nat) : String :=
  "".pushn '0' (width - (decimal n).length) ++ decimal n

/-- The lower-case hexadecimal digits of a natural number. -/
def hexadecimal (n : Nat) : String := String.ofList (Nat.toDigits 16 n)

/-- At least `width` hexadecimal digits, with zeros in front. -/
def paddedHexadecimal (width n : Nat) : String :=
  "".pushn '0' (width - (hexadecimal n).length) ++ hexadecimal n

/-- Hexadecimal digits after `0x`. -/
def hexLiteral (n : Nat) : String := "0x" ++ hexadecimal n

end GpuDriver.Text
