import Mathlib.Algebra.Group.Nat.Defs
import Mathlib.Data.List.Forall2
import Mathlib.Order.Bounds.Basic
import GpuDriver.Launch.Packing

/-!
# What packed arguments hold

The two ways of packing hold the same values. In a buffer each argument stands at the least multiple of
its alignment that is free (`Placed`), with zeros between the arguments (`Holds`); in slots each stands at
the start of a slot of whole words, with zeros behind it. From the types alone either packing is read back
(`ArgumentBuffer.read`, `ParameterSlots.read`).
-/

namespace GpuDriver

/-! ### Reading a value -/

namespace Shape

/-- The value that octets begin with. -/
def decode : (s : Shape) → Bytes → s.Value
  | scalar w, b => BitVec.ofNat (8 * w.octets) (ofLittleEndian (b.take w.octets))
  | array _ e, b => Vector.ofFn fun i => e.decode (b.drop (i * e.size))

theorem exists_alignment_eq_two_pow (s : Shape) : ∃ k ≤ 3, s.alignment = 2 ^ k := by
  induction s with
  | scalar w =>
    cases w with
    | one => exact ⟨0, by decide, rfl⟩
    | two => exact ⟨1, by decide, rfl⟩
    | four => exact ⟨2, by decide, rfl⟩
    | eight => exact ⟨3, by decide, rfl⟩
  | array n e ih => exact ih

theorem alignment_pos (s : Shape) : 0 < s.alignment := by
  obtain ⟨k, -, h⟩ := s.exists_alignment_eq_two_pow
  exact h ▸ Nat.two_pow_pos k

/-- Rows of one length, one after another: what stands behind the first few of them. -/
theorem drop_flatMap_append {α β : Type} {f : α → List β} {k : Nat} (h : ∀ a, (f a).length = k)
    {as : List α} {i : Nat} (hi : i ≤ as.length) (rest : List β) :
    (as.flatMap f ++ rest).drop (i * k) = (as.drop i).flatMap f ++ rest := by
  induction as generalizing i with
  | nil =>
    obtain rfl : i = 0 := Nat.le_zero.1 hi
    simp
  | cons a as ih =>
    cases i with
    | zero => simp
    | succ i =>
      have skip : (i + 1) * k = (f a).length + i * k := by
        rw [h, Nat.add_mul, Nat.one_mul, Nat.add_comm]
      rw [List.flatMap_cons, List.append_assoc, skip, ← List.drop_drop, List.drop_left,
        ih (Nat.le_of_succ_le_succ hi), List.drop_succ_cons]

/-- **Reading undoes writing**, whatever follows. -/
theorem decode_encode_append : ∀ (s : Shape) (v : s.Value) (rest : Bytes),
    s.decode (s.encode v ++ rest) = v
  | scalar w, v, rest => by
    let bits : BitVec (8 * w.octets) := v
    have octets : (littleEndian w.octets bits.toNat ++ rest).take w.octets =
        littleEndian w.octets bits.toNat := List.take_left' (length_littleEndian ..)
    have fits : bits.toNat < Nat.pow 256 w.octets := by
      have pow : Nat.pow 256 w.octets = 2 ^ (8 * w.octets) := (Nat.pow_mul 2 8 w.octets).symm
      exact pow ▸ bits.isLt
    change BitVec.ofNat _ (ofLittleEndian ((littleEndian w.octets bits.toNat ++ rest).take _)) = bits
    rw [octets, ofLittleEndian_littleEndian, Nat.mod_eq_of_lt fits, BitVec.ofNat_toNat,
      BitVec.setWidth_eq]
  | array n e, v, rest => by
    let values : Vector e.Value n := v
    refine Vector.ext fun i hi => ?_
    have below : i < values.toList.length := by rwa [Vector.length_toList]
    have there : values.toList[i] = values[i] := by simp
    change (Vector.ofFn fun i : Fin n =>
      e.decode ((values.toList.flatMap e.encode ++ rest).drop (i * e.size)))[i] = values[i]
    rw [Vector.getElem_ofFn, drop_flatMap_append e.length_encode (Nat.le_of_lt below),
      List.drop_eq_getElem_cons below, List.flatMap_cons, List.append_assoc,
      decode_encode_append e, there]

/-- A value is read wherever its octets stand. -/
theorem decode_eq_of_take {s : Shape} {v : s.Value} {b : Bytes} (h : b.take s.size = s.encode v) :
    s.decode b = v := by
  rw [← List.take_append_drop s.size b, h, decode_encode_append]

end Shape

/-! ### Rounding up -/

/-- `m` is the least multiple of `unit` that is not below `n`. -/
def IsRoundedUp (unit n m : Nat) : Prop := IsLeast {k | unit ∣ k ∧ n ≤ k} m

theorem isRoundedUp_roundUp {unit : Nat} (h : 0 < unit) (n : Nat) :
    IsRoundedUp unit n (roundUp unit n) := by
  refine ⟨⟨Nat.dvd_mul_left .., ?_⟩, ?_⟩
  · have := Nat.div_add_mod (n + unit - 1) unit
    have := Nat.mod_lt (n + unit - 1) h
    rw [roundUp, Nat.mul_comm]
    omega
  · rintro _ ⟨⟨k, rfl⟩, above⟩
    rw [roundUp, Nat.mul_comm]
    refine Nat.mul_le_mul_left _ (Nat.le_of_lt_succ ((Nat.div_lt_iff_lt_mul h).2 ?_))
    rw [Nat.succ_mul, Nat.mul_comm]
    omega

theorem IsRoundedUp.eq_roundUp {unit n m : Nat} (h : IsRoundedUp unit n m) (hu : 0 < unit) :
    m = roundUp unit n :=
  h.unique (isRoundedUp_roundUp hu n)

/-- In words of 64 bits, rounding up to a power of two is adding what may be missing and clearing the low
bits. -/
theorem roundUp_two_pow_eq_and {k n : Nat} (hk : k ≤ 64) (h : n + 2 ^ k - 1 < 2 ^ 64) :
    roundUp (2 ^ k) n = (n + 2 ^ k - 1) &&& (2 ^ 64 - 2 ^ k) := by
  have mask : 2 ^ 64 - 2 ^ k = (2 ^ (64 - k) - 1) <<< k := by
    rw [Nat.shiftLeft_eq, Nat.sub_mul, ← Nat.pow_add, Nat.sub_add_cancel hk, Nat.one_mul]
  have high : (n + 2 ^ k - 1) / 2 ^ k < 2 ^ (64 - k) :=
    Nat.div_lt_of_lt_mul (by rwa [← Nat.pow_add, Nat.add_sub_cancel' hk])
  have cleared (x m : Nat) : x &&& (m <<< k) = ((x >>> k) &&& m) <<< k := by
    apply Nat.eq_of_testBit_eq
    intro i
    by_cases hi : k ≤ i <;> simp [Nat.testBit_shiftLeft, Nat.testBit_shiftRight, hi]
  rw [mask, cleared, Nat.and_two_pow_sub_one_eq_mod, Nat.shiftRight_eq_div_pow,
    Nat.mod_eq_of_lt high, Nat.shiftLeft_eq, roundUp]

theorem Shape.roundUp_eq_and (s : Shape) {n : Nat} (h : n + 7 < 2 ^ 64) :
    roundUp s.alignment n = (n + s.alignment - 1) &&& (2 ^ 64 - s.alignment) := by
  obtain ⟨k, hk, alignment⟩ := s.exists_alignment_eq_two_pow
  have least : 2 ^ k ≤ 2 ^ 3 := Nat.pow_le_pow_right (by decide) hk
  rw [alignment]
  exact roundUp_two_pow_eq_and (by omega) (by omega)

/-! ### Slots -/

namespace ParameterSlots

variable (arguments : List Bytes) (p : ParameterSlots)

theorem slots_foldl_push : (arguments.foldl push p).slots =
    p.slots ++ arguments.map fun b => zeroPadded (slotSize b.length) b := by
  induction arguments generalizing p with
  | nil => simp
  | cons b rest ih => simp [ih, push]

theorem sizes_foldl_push : (arguments.foldl push p).sizes = p.sizes ++ arguments.map List.length := by
  induction arguments generalizing p with
  | nil => simp
  | cons b rest ih => simp [ih, push]

theorem slots_ofList : (ofList arguments).slots =
    arguments.map fun b => zeroPadded (slotSize b.length) b :=
  slots_foldl_push arguments {}

theorem sizes_ofList : (ofList arguments).sizes = arguments.map List.length :=
  sizes_foldl_push arguments {}

theorem argument?_ofList (i : Nat) : (ofList arguments).argument? i = arguments[i]? := by
  rw [argument?, slots_ofList, sizes_ofList, List.getElem?_map, List.getElem?_map]
  cases arguments[i]? with
  | none => rfl
  | some b => exact congrArg some (List.take_left' rfl)

end ParameterSlots

/-- A slot holds the argument and zeros behind it. It has whole words, as few as hold the argument, and at
least one. -/
structure InSlot (a : Argument) (slot : Bytes) : Prop where
  /-- The size of the slot. -/
  length : ∃ words, IsRoundedUp 8 a.shape.size words ∧ slot.length = max 8 words
  /-- The octets of the value. -/
  value : slot.take a.shape.size = a.bytes
  /-- The octets behind it. -/
  zeros : ∀ o ∈ slot.drop a.shape.size, o = 0

namespace InSlot

variable {a : Argument} {slot : Bytes}

theorem of_zeroPadded (a : Argument) :
    InSlot a (zeroPadded (ParameterSlots.slotSize a.bytes.length) a.bytes) := by
  have size : a.bytes.length = a.shape.size := a.shape.length_encode a.value
  have rounded := isRoundedUp_roundUp (by decide : 0 < 8) a.shape.size
  rw [size, zeroPadded, ParameterSlots.slotSize]
  constructor
  · refine ⟨_, rounded, ?_⟩
    have above : a.shape.size ≤ roundUp 8 a.shape.size := rounded.1.2
    rw [List.length_append, List.length_replicate, size]
    omega
  · exact List.take_left' size
  · rw [List.drop_left' size]
    exact fun o ho => List.eq_of_mem_replicate ho

theorem decode (h : InSlot a slot) : a.shape.decode slot = a.value :=
  Shape.decode_eq_of_take h.value

end InSlot

namespace ParameterSlots

/-- The arguments of the given shapes that slots hold. -/
def read (shapes : List Shape) (slots : List Bytes) : List Argument :=
  List.zipWith (fun s slot => ⟨s, s.decode slot⟩) shapes slots

/-- Each argument is in a slot of its own. -/
theorem forall₂_inSlot (arguments : List Argument) :
    List.Forall₂ InSlot arguments (ofList (arguments.map Argument.bytes)).slots := by
  rw [slots_ofList, List.map_map, List.forall₂_map_right_iff, List.forall₂_same]
  exact fun a _ => .of_zeroPadded a

/-- What slots hold is read from the types. -/
theorem read_of_forall₂ {arguments : List Argument} {slots : List Bytes}
    (h : List.Forall₂ InSlot arguments slots) : read (arguments.map Argument.shape) slots = arguments := by
  induction h with
  | nil => rfl
  | cons first _ ih =>
    simp only [read] at ih
    rw [read, List.map_cons, List.zipWith_cons_cons, first.decode, ih]

end ParameterSlots

/-! ### One buffer -/

/-- Arguments lie in a row from `start` on, each at its offset: the least multiple of its alignment that is
not before the end of the one before it. The last of them ends at `stop`. -/
inductive Placed : Nat → List (Nat × Argument) → Nat → Prop
  /-- There is none. -/
  | nil (start : Nat) : Placed start [] start
  /-- One argument, and the others behind it. -/
  | cons {start offset stop : Nat} {a : Argument} {rest : List (Nat × Argument)}
      (aligned : IsRoundedUp a.shape.alignment start offset)
      (others : Placed (offset + a.shape.size) rest stop) :
      Placed start ((offset, a) :: rest) stop

/-- What a buffer holds from `start` to its end: the values of the arguments at their offsets, and zeros
at all other places. -/
structure Holds (b : Bytes) (start : Nat) (placed : List (Nat × Argument)) : Prop where
  /-- The offsets are the natural ones, and nothing stands behind the last value. -/
  lie : Placed start placed b.length
  /-- The octets of each value. -/
  values : ∀ p ∈ placed, (b.drop p.1).take p.2.shape.size = p.2.bytes
  /-- The octets between them. -/
  zeros : ∀ j, start ≤ j → (∀ p ∈ placed, ¬ (p.1 ≤ j ∧ j < p.1 + p.2.shape.size)) →
    ∀ o, b[j]? = some o → o = 0

namespace ArgumentBuffer

/-- The arguments of the given shapes that octets hold from `start` on. -/
def read (b : Bytes) (start : Nat) : List Shape → List Argument
  | [] => []
  | s :: rest =>
    ⟨s, s.decode (b.drop (roundUp s.alignment start))⟩ ::
      read b (roundUp s.alignment start + s.size) rest

variable (p : ArgumentBuffer) (a : Argument) (arguments : List Argument)

theorem bytes_push : (p.push a).bytes =
    p.bytes ++ List.replicate (roundUp a.shape.alignment p.length - p.length) 0 ++ a.bytes := rfl

theorem le_roundUp_length : p.length ≤ roundUp a.shape.alignment p.length :=
  (isRoundedUp_roundUp a.shape.alignment_pos p.length).1.2

theorem length_push : (p.push a).length = roundUp a.shape.alignment p.length + a.shape.size := by
  have above := le_roundUp_length p a
  have size : a.bytes.length = a.shape.size := a.shape.length_encode a.value
  have octets : p.bytes.length = p.length := rfl
  rw [length, bytes_push, List.length_append, List.length_append, List.length_replicate, size, octets]
  omega

/-- What was pushed stays. -/
theorem bytes_prefix_push : p.bytes <+: (p.push a).bytes := by
  rw [bytes_push, List.append_assoc]
  exact List.prefix_append ..

theorem bytes_prefix_foldl_push : p.bytes <+: (arguments.foldl push p).bytes := by
  induction arguments generalizing p with
  | nil => exact List.prefix_refl _
  | cons a rest ih => exact (bytes_prefix_push p a).trans (ih (p.push a))

/-- An argument that is pushed stands at the next multiple of its alignment. -/
theorem take_drop_push :
    ((p.push a).bytes.drop (roundUp a.shape.alignment p.length)).take a.shape.size = a.bytes := by
  have above := le_roundUp_length p a
  have front : (p.bytes ++ List.replicate (roundUp a.shape.alignment p.length - p.length) 0).length =
      roundUp a.shape.alignment p.length := by
    have octets : p.bytes.length = p.length := rfl
    rw [List.length_append, List.length_replicate, octets]
    omega
  have size : a.bytes.length = a.shape.size := a.shape.length_encode a.value
  rw [bytes_push, List.drop_left' front, ← size, List.take_length]

/-- In front of it are zeros. -/
theorem getElem?_push {j : Nat} (behind : p.length ≤ j)
    (before : j < roundUp a.shape.alignment p.length) : (p.push a).bytes[j]? = some 0 := by
  have octets : p.bytes.length = p.length := rfl
  have gap : j - p.length < roundUp a.shape.alignment p.length - p.length := by omega
  rw [bytes_push, List.append_assoc, List.getElem?_append_right (octets ▸ behind), octets,
    List.getElem?_append_left (by rwa [List.length_replicate]), List.getElem?_replicate, if_pos gap]

/-- The octets of a list at which another begins stay where they are. -/
theorem take_drop_of_prefix {b c v : Bytes} (h : b <+: c) {offset n : Nat}
    (hv : (b.drop offset).take n = v) (hn : v.length = n) : (c.drop offset).take n = v := by
  obtain ⟨rest, rfl⟩ := h
  have inside : offset + n ≤ b.length ∨ n = 0 := by
    have := congrArg List.length hv
    rw [List.length_take, List.length_drop, hn] at this
    omega
  obtain inside | rfl := inside
  · rw [List.drop_append_of_le_length (by omega), List.take_append_of_le_length (by
      rw [List.length_drop]; omega), hv]
  · simpa using hv

/-- **What a row of pushes adds**: all arguments, each at its offset, and zeros. -/
theorem exists_holds : ∃ placed : List (Nat × Argument), placed.map Prod.snd = arguments ∧
    Holds (arguments.foldl push p).bytes p.length placed := by
  induction arguments generalizing p with
  | nil =>
    refine ⟨[], rfl, .nil _, fun _ h => absurd h List.not_mem_nil, fun j behind _ o ho => ?_⟩
    rw [List.foldl_nil, List.getElem?_eq_none behind] at ho
    cases ho
  | cons a rest ih =>
    obtain ⟨placed, names, holds⟩ := ih (p.push a)
    have stays := bytes_prefix_foldl_push (p.push a) rest
    refine ⟨(roundUp a.shape.alignment p.length, a) :: placed, by rw [List.map_cons, names], ?_⟩
    rw [List.foldl_cons]
    constructor
    · exact .cons (isRoundedUp_roundUp a.shape.alignment_pos _) (length_push p a ▸ holds.lie)
    · refine List.forall_mem_cons.2 ⟨?_, holds.values⟩
      exact take_drop_of_prefix stays (take_drop_push p a) (a.shape.length_encode a.value)
    · intro j behind outside o ho
      obtain ⟨notHere, outside⟩ := List.forall_mem_cons.1 outside
      obtain gap | above := Nat.lt_or_ge j (roundUp a.shape.alignment p.length)
      · obtain ⟨pushed, zero⟩ := List.getElem?_eq_some_iff.1 (getElem?_push p a behind gap)
        have zero := (List.prefix_iff_getElem?.1 stays j pushed).trans (congrArg some zero)
        exact Option.some.inj (ho.symm.trans zero)
      · refine holds.zeros j ?_ outside o ho
        rw [length_push]
        exact Nat.le_of_not_lt fun inside => notHere ⟨above, inside⟩

/-- What a buffer holds is read from the types. -/
theorem read_of_placed {b : Bytes} {start stop : Nat} {placed : List (Nat × Argument)}
    (h : Placed start placed stop)
    (values : ∀ p ∈ placed, (b.drop p.1).take p.2.shape.size = p.2.bytes) :
    read b start (placed.map fun p => p.2.shape) = placed.map Prod.snd := by
  induction h with
  | nil => rfl
  | @cons _ _ _ a _ aligned _ ih =>
    obtain ⟨here, others⟩ := List.forall_mem_cons.1 values
    obtain rfl := aligned.eq_roundUp a.shape.alignment_pos
    rw [List.map_cons, read, ih others, Shape.decode_eq_of_take here]
    rfl

end ArgumentBuffer

/-! ### Both ways -/

/-- **Both packings carry the same values.** In the buffer each argument stands at the least multiple of
its alignment that is not before the end of the one before it, all other octets are zero, and nothing
stands behind the last argument; pushing more changes none of this. In the slots the arguments are found
by their index, with their sizes, and none from their number on; each slot has whole words with zeros behind
the argument. What is found by an index is what stands in the buffer at the offset of that argument, the
octets of its value. From the types alone the values are read back from either packing. -/
theorem packings_agree (arguments : List Argument) :
    let buffer := ArgumentBuffer.ofList arguments
    let slots := ParameterSlots.ofList (arguments.map Argument.bytes)
    let shapes := arguments.map Argument.shape
    (∃ placed : List (Nat × Argument), placed.map Prod.snd = arguments ∧
      Holds buffer.bytes 0 placed ∧
      ∀ i, slots.argument? i =
        placed[i]?.map fun p => (buffer.bytes.drop p.1).take p.2.shape.size) ∧
    (∀ later, buffer.bytes <+: (ArgumentBuffer.ofList (arguments ++ later)).bytes) ∧
    (∀ i, slots.argument? i = arguments[i]?.map Argument.bytes) ∧
    slots.sizes = shapes.map Shape.size ∧
    List.Forall₂ InSlot arguments slots.slots ∧
    ArgumentBuffer.read buffer.bytes 0 shapes = arguments ∧
    ParameterSlots.read shapes slots.slots = arguments := by
  intro buffer slots shapes
  obtain ⟨placed, names, holds⟩ := ArgumentBuffer.exists_holds {} arguments
  have found (i : Nat) : slots.argument? i = arguments[i]?.map Argument.bytes := by
    rw [ParameterSlots.argument?_ofList, List.getElem?_map]
  have inSlots := ParameterSlots.forall₂_inSlot arguments
  have types : placed.map (fun p => p.2.shape) = shapes :=
    List.map_map.symm.trans (congrArg (List.map Argument.shape) names)
  have back := ArgumentBuffer.read_of_placed holds.lie holds.values
  rw [types, names] at back
  refine ⟨⟨placed, names, holds, fun i => ?_⟩, fun later => ?_, found, ?_, inSlots, back,
    ParameterSlots.read_of_forall₂ inSlots⟩
  · rw [found, ← names, List.getElem?_map, Option.map_map]
    cases hp : placed[i]? with
    | none => rfl
    | some p => exact congrArg some (holds.values p (List.mem_of_getElem? hp)).symm
  · have both : (arguments ++ later).foldl ArgumentBuffer.push {} =
        later.foldl ArgumentBuffer.push buffer := List.foldl_append
    rw [ArgumentBuffer.ofList, both]
    exact ArgumentBuffer.bytes_prefix_foldl_push buffer later
  · rw [ParameterSlots.sizes_ofList, List.map_map, List.map_map]
    exact List.map_congr_left fun a _ => a.shape.length_encode a.value

/-- An octet, and behind it an empty array of words and a word of 16 bits. -/
example : (ArgumentBuffer.ofList [⟨.scalar .one, (1 : BitVec 8)⟩, ⟨.array 0 (.scalar .eight), #v[]⟩,
    ⟨.scalar .two, (0x203 : BitVec 16)⟩]).bytes = [1, 0, 0, 0, 0, 0, 0, 0, 3, 2] := by
  decide +kernel

end GpuDriver
