import GpuDriver.LittleEndian

/-!
# Typed kernel arguments

An argument is a scalar of one, two, four or eight octets, or an array of such, of any length and
nesting. Its octets are those of its scalars in order, each with the least octet first, without gaps;
an array is aligned as its elements are.
-/

namespace GpuDriver

/-- The size of a scalar. -/
inductive Width
  /-- One octet. -/
  | one
  /-- Two octets. -/
  | two
  /-- Four octets. -/
  | four
  /-- Eight octets. -/
  | eight
deriving DecidableEq, Repr

/-- The number of octets. -/
def Width.octets : Width → Nat
  | one => 1
  | two => 2
  | four => 4
  | eight => 8

/-- The type of an argument. -/
inductive Shape
  /-- A scalar. -/
  | scalar (width : Width)
  /-- So many elements of one shape. -/
  | array (length : Nat) (element : Shape)
deriving DecidableEq, Repr

namespace Shape

/-- The number of octets that a value takes. -/
def size : Shape → Nat
  | scalar w => w.octets
  | array n e => n * e.size

/-- Values begin at multiples of this many octets. -/
def alignment : Shape → Nat
  | scalar w => w.octets
  | array _ e => e.alignment

/-- How many scalars a value holds. -/
def scalars : Shape → Nat
  | scalar _ => 1
  | array n e => n * e.scalars

/-- The values of a shape. -/
def Value : Shape → Type
  | scalar w => BitVec (8 * w.octets)
  | array n e => Vector e.Value n

/-- The octets of a value. -/
def encode : (s : Shape) → s.Value → Bytes
  | scalar w, v => littleEndian w.octets (BitVec.toNat v)
  | array _ e, v => (Vector.toList v).flatMap e.encode

/-- The value whose scalars are, in order, the bits of `part 0`, `part 1` and so on. -/
def ofScalars : (s : Shape) → (Nat → Int) → s.Value
  | scalar w, part => BitVec.ofInt (8 * w.octets) (part 0)
  | array _ e, part => Vector.ofFn fun i => e.ofScalars fun j => part (i * e.scalars + j)

theorem length_encode : ∀ (s : Shape) (v : s.Value), (s.encode v).length = s.size
  | scalar w, v => by simp [encode, size]
  | array n e, v => by
    have h : ∀ l : List e.Value, (l.flatMap e.encode).length = l.length * e.size := by
      intro l
      induction l with
      | nil => simp
      | cons a l ih => simp [ih, length_encode e a, Nat.add_mul, Nat.add_comm]
    have hn : (Vector.toList (v : Vector e.Value n)).length = n := Vector.length_toList
    simp only [encode, size, h, hn]

end Shape

/-- A value together with its type. -/
structure Argument where
  /-- The type. -/
  shape : Shape
  /-- The value. -/
  value : shape.Value

namespace Argument

/-- The octets of the value. -/
def bytes (a : Argument) : Bytes := a.shape.encode a.value

end Argument

end GpuDriver
