/-!
# Extents and launch configurations

A grid or a block extends in three directions. A launch is configured by the two extents, the shared
memory that each block gets and the stream it is queued on.
-/

namespace GpuDriver

/-- How far a grid or a block extends. -/
structure Extent where
  /-- The first direction. -/
  x : Nat
  /-- The second direction. -/
  y : Nat
  /-- The third direction. -/
  z : Nat
deriving DecidableEq, Repr

namespace Extent

/-- A single element. -/
def single : Extent := ⟨1, 1, 1⟩

/-- A row of `x` elements. -/
def row (x : Nat) : Extent := ⟨x, 1, 1⟩

/-- A rectangle of elements. -/
def rectangle (x y : Nat) : Extent := ⟨x, y, 1⟩

/-- How many elements there are. -/
def volume (e : Extent) : Nat := e.x * e.y * e.z

end Extent

/-- How a kernel is launched. -/
structure LaunchConfig where
  /-- How many blocks. -/
  grid : Extent
  /-- How many threads in each block. -/
  block : Extent
  /-- The dynamic shared memory of each block. -/
  sharedBytes : Nat := 0
  /-- The stream, zero for the default one. -/
  stream : Nat := 0
deriving DecidableEq, Repr

/-- A row of as many blocks of `blockSize` threads as cover `elements`; at least one of each. -/
def LaunchConfig.covering (elements blockSize : Nat) : LaunchConfig where
  grid := .row (max ((elements + max blockSize 1 - 1) / max blockSize 1) 1)
  block := .row (max blockSize 1)

end GpuDriver
