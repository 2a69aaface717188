import GpuDriver.Status
import GpuDriver.Text.Utf8

/-!
# Option lists

A launch can take its arguments from one buffer, which a list of words announces: pairs of a key and a
value, then the null word. One key is for the address of the buffer, the other for the address of a
word that holds the buffer's size. `OptionList.bufferSize` reads such a list.
-/

namespace GpuDriver

/-- A word of an option list. -/
inductive OptionWord
  /-- A number: a key, or the null word that ends the list. -/
  | number (n : Nat)
  /-- The address of a word that holds `n`. -/
  | sizeCell (n : Nat)
  /-- The address of a buffer. -/
  | buffer (bytes : Bytes)
deriving DecidableEq, Repr

namespace OptionWord

/-- The word that ends a list. -/
def terminator : OptionWord := number 0

/-- The key of a buffer's address. -/
def bufferKey : OptionWord := number 1

/-- The key of the address of a buffer's size. -/
def sizeKey : OptionWord := number 2

/-- The word is the null word. -/
def isNull (w : OptionWord) : Bool := w == terminator

/-- The word that stands where `w` points, for the address of a size. -/
def pointee : OptionWord → Nat
  | sizeCell n => n
  | _ => 0

end OptionWord

namespace OptionList

open OptionWord

/-- The size of the argument buffer that a list announces. `memory` gives the word that a size's
address points at; `buffer` and `size` are what the part of the list before this one said. -/
def read (memory : OptionWord → Nat) (buffer : Option OptionWord) (size : Option Nat) :
    List OptionWord → Except Status Nat
  | [] => .error .invalidValue
  | key :: rest =>
    if key.isNull then
      match buffer, size with
      | some address, some bytes =>
        if !address.isNull || bytes = 0 then .ok bytes else .error .invalidValue
      | _, _ => .error .invalidValue
    else match rest with
      | [] => .error .invalidValue
      | value :: rest =>
        if key = bufferKey then read memory (some value) size rest
        else if key = sizeKey then
          if value.isNull then .error .invalidValue
          else read memory buffer (some (memory value)) rest
        else .error .invalidValue

/-- The size of the argument buffer that a list announces. -/
def bufferSize (memory : OptionWord → Nat) (options : List OptionWord) : Except Status Nat :=
  read memory none none options

/-- The list that announces a buffer of the given octets. -/
def ofBuffer (bytes : Bytes) : List OptionWord :=
  [bufferKey, .buffer bytes, sizeKey, .sizeCell bytes.length, terminator]

end OptionList

end GpuDriver
