import GpuDriver.Text.Numeral

/-!
# Devices, handles and driver versions

A device is known by its ordinal, everything that the driver hands out by a handle. Handle zero names
nothing. The driver's version is one number, a thousand for each major and ten for each minor step.
-/

namespace GpuDriver

/-- What the driver names a context, module, function, link session or stream by; zero is none. -/
abbrev Handle := Nat

/-- An address in device memory, below `2 ^ 64`. -/
abbrev Address := Nat

/-- Who calls: a number for each thread of the program. -/
abbrev ThreadId := Nat

/-- A device ordinal. -/
structure Device where
  /-- The number that the driver knows the device by. -/
  ordinal : Int
deriving DecidableEq, Repr

/-- How a device is shown. -/
def Device.display (d : Device) : String := "cuda:" ++ Text.signedDecimal d.ordinal

/-- An attribute that a device can be asked for. -/
structure Attribute where
  /-- The number that the driver knows the attribute by. -/
  code : Int
deriving DecidableEq, Repr

namespace Attribute

/-- The most threads in a block. -/
def maxThreadsPerBlock : Attribute := ⟨1⟩
/-- The number of multiprocessors. -/
def multiprocessorCount : Attribute := ⟨16⟩
/-- The major number of the compute capability. -/
def capabilityMajor : Attribute := ⟨75⟩
/-- The minor number of the compute capability. -/
def capabilityMinor : Attribute := ⟨76⟩

end Attribute

/-- The address `bytes` past `p`; past the last address it goes on from zero. -/
def Address.offset (p : Address) (bytes : Nat) : Address := (p + bytes) % Text.wordBound

/-- The version of a driver, ordered by the major number and then by the minor one. -/
structure Version where
  /-- The major number. -/
  major : Int
  /-- The minor number. -/
  minor : Int
deriving DecidableEq, Repr

namespace Version

/-- The version that the number `raw` stands for; both divisions go toward zero. -/
def ofRaw (raw : Int) : Version := ⟨raw.tdiv 1000, (raw.tmod 1000).tdiv 10⟩

/-- How a version is shown. -/
def display (v : Version) : String :=
  Text.signedDecimal v.major ++ "." ++ Text.signedDecimal v.minor

instance : Ord Version where
  compare v w := (compare v.major w.major).then (compare v.minor w.minor)

end Version

/-! ### Context flags -/

/-- The flags that a context can be created with, each with its bit. -/
def contextFlags : List (String × Nat) :=
  [("SCHED_SPIN", 0x01), ("SCHED_YIELD", 0x02), ("SCHED_BLOCKING_SYNC", 0x04), ("MAP_HOST", 0x08),
    ("LMEM_RESIZE_TO_MAX", 0x10)]

namespace ContextFlags

/-- All bits that stand for a flag. -/
def all : Nat := contextFlags.foldl (fun bits flag => bits ||| flag.2) 0

/-- The bits of `bits` that stand for a flag. -/
def known (bits : Nat) : Nat := bits &&& all

/-- Every bit of `bits` stands for a flag. -/
def valid (bits : Nat) : Bool := known bits == bits

/-- The names of the flags that are set, in the order of their bits. -/
def names (bits : Nat) : List String :=
  (contextFlags.filter fun flag => bits &&& flag.2 == flag.2).map Prod.fst

end ContextFlags

end GpuDriver
