import GpuDriver.Text.Numeral
import GpuDriver.Text.Printable

/-!
# Quoted text

A text between double quotes, as messages show names. A quote and a backslash get a backslash in front,
the common controls have a letter each, and every other character that is not printable is written by
its code point in braces.
-/

namespace GpuDriver.Text

/-- How a character is written between double quotes. -/
def quoteChar (c : Char) : List Char :=
  if c = '"' then ['\\', '"']
  else if c = '\\' then ['\\', '\\']
  else if c = '\x00' then ['\\', '0']
  else if c = '\t' then ['\\', 't']
  else if c = '\n' then ['\\', 'n']
  else if c = '\r' then ['\\', 'r']
  else if isPrintable c then [c]
  else ['\\', 'u', '\x7b'] ++ Nat.toDigits 16 c.toNat ++ ['\x7d']

/-- A text between double quotes. -/
def quoted (s : String) : String :=
  String.ofList ('"' :: s.toList.flatMap quoteChar ++ ['"'])

end GpuDriver.Text
