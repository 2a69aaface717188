import GpuDriver.Launch.Argument
import GpuDriver.Launch.OptionList

/-!
# Packing kernel arguments

Arguments reach a kernel in one of two ways: each in a slot of its own (`ParameterSlots`), or all in
one buffer with each at the next offset that is a multiple of its alignment (`ArgumentBuffer`).
-/

namespace GpuDriver

/-- The least multiple of `unit` that is not below `n`. -/
def roundUp (unit n : Nat) : Nat := (n + unit - 1) / unit * unit

/-- `b` with zeros behind it, up to `length` octets. -/
def zeroPadded (length : Nat) (b : Bytes) : Bytes := b ++ List.replicate (length - b.length) 0

/-! ### A slot for each argument -/

/-- Arguments in slots of whole words, in order. -/
structure ParameterSlots where
  /-- What each slot holds: the argument and zeros behind it. -/
  slots : List Bytes := []
  /-- The octets of each argument. -/
  sizes : List Nat := []
deriving DecidableEq, Repr

namespace ParameterSlots

/-- The size of the slot of an argument with `n` octets: whole words, at least one. -/
def slotSize (n : Nat) : Nat := max 8 (roundUp 8 n)

/-- Adds an argument at the end. -/
def push (p : ParameterSlots) (b : Bytes) : ParameterSlots where
  slots := p.slots ++ [zeroPadded (slotSize b.length) b]
  sizes := p.sizes ++ [b.length]

/-- How many arguments there are. -/
def count (p : ParameterSlots) : Nat := p.slots.length

/-- The octets of the argument at an index. -/
def argument? (p : ParameterSlots) (i : Nat) : Option Bytes :=
  match p.slots[i]?, p.sizes[i]? with
  | some slot, some size => some (slot.take size)
  | _, _ => none

/-- The octets of the arguments in order. -/
def arguments (p : ParameterSlots) : List Bytes :=
  (p.slots.zip p.sizes).map fun s => s.1.take s.2

/-- The slots of a list of arguments. -/
def ofList (arguments : List Bytes) : ParameterSlots := arguments.foldl push {}

end ParameterSlots

/-! ### One buffer for all arguments -/

/-- Arguments in one buffer, each at its alignment. -/
structure ArgumentBuffer where
  /-- The octets so far. -/
  bytes : Bytes := []
deriving DecidableEq, Repr

namespace ArgumentBuffer

/-- Adds a value behind zeros up to its alignment. -/
def pushAligned (p : ArgumentBuffer) (alignment : Nat) (b : Bytes) : ArgumentBuffer :=
  ⟨zeroPadded (roundUp alignment p.bytes.length) p.bytes ++ b⟩

/-- Adds an argument at its natural alignment. -/
def push (p : ArgumentBuffer) (a : Argument) : ArgumentBuffer :=
  p.pushAligned a.shape.alignment a.bytes

/-- The number of octets. -/
def length (p : ArgumentBuffer) : Nat := p.bytes.length

/-- The buffer of a list of arguments. -/
def ofList (arguments : List Argument) : ArgumentBuffer := arguments.foldl push {}

/-- The option list that announces the buffer. -/
def options (p : ArgumentBuffer) : List OptionWord := OptionList.ofBuffer p.bytes

end ArgumentBuffer

end GpuDriver
