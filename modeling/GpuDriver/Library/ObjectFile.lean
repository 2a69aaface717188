import GpuDriver.Library.LoadFault
import GpuDriver.LittleEndian
import GpuDriver.Text.Numeral

/-!
# Object files

What is looked at in a file before it is loaded as a library: its header, its table of segments, the
room that the segments take, and the flags in the dynamic section. Of several faults the first one in
this order is told (`fault?`). Only 64-bit objects for this machine are loaded.
-/

namespace GpuDriver.Library.ObjectFile

/-- A table with a finding for each fault: the first fault that was found. -/
def firstFault? (checks : List (Bool × LoadFault)) : Option LoadFault :=
  (checks.find? (·.1)).map (·.2)

/-- The number in the `width` octets from `start` on. -/
def field (octets : Bytes) (start width : Nat) : Nat :=
  ofLittleEndian ((octets.drop start).take width)

/-! ### The header -/

/-- How many octets a header has. -/
def headerSize : Nat := 64

/-- How many octets an entry of the segment table has. -/
def entrySize : Nat := 56

/-- How every object begins. -/
def mark : Bytes := [0x7F, 0x45, 0x4C, 0x46]

/-- The number of the machine that programs run on here. -/
def machineNumber : Nat := 62

/-- The kind of an object that is a program with fixed addresses. -/
def programKind : Nat := 2

/-- The kind of an object that can be anywhere. -/
def sharedKind : Nat := 3

/-- What an object is for. -/
def kind (header : Bytes) : Nat := field header 16 2

/-- The object is for another machine. -/
def forOtherMachine (header : Bytes) : Bool := field header 18 2 != machineNumber

/-- The conventions that an object asks for are known: the first version of any, or one of the first
four versions of the system's own, which have the number 3. -/
def knowsConventions (system version : Nat) : Bool := version == 0 || (system == 3 && version < 4)

/-- What is wrong with the identification that a header begins with, its width apart. -/
def identFault? (h : Bytes) : Option LoadFault :=
  firstFault? [
    (field h 5 1 ≠ 1, .byteOrder),
    (field h 6 1 ≠ 1, .identVersion),
    (field h 7 1 ≠ 0 ∧ field h 7 1 ≠ 3, .otherSystem),
    (!knowsConventions (field h 7 1) (field h 8 1), .systemVersion),
    (field h 9 7 ≠ 0, .padding)]

/-- What is wrong with the header. An object for another machine is as good as none, whatever else is
wrong with its identification. -/
def headerFault? (h : Bytes) : Option LoadFault :=
  firstFault? [
    (h.length < headerSize, .tooShort),
    (h.take 4 ≠ mark, .noObject),
    (field h 4 1 ≠ 2, .otherWidth),
    ((identFault? h).isSome && forOtherMachine h, .unopened .notFound)]
  <|> identFault? h
  <|> firstFault? [
    (field h 20 4 ≠ 1, .headerVersion),
    (forOtherMachine h, .unopened .notFound),
    (kind h ≠ programKind ∧ kind h ≠ sharedKind, .notLoadable),
    (field h 54 2 ≠ entrySize, .entrySize)]

/-! ### Segments -/

/-- A part of a file that has a place in memory. -/
structure Segment where
  /-- What the segment is for. -/
  kind : Nat
  /-- It can be written to. -/
  isWritable : Bool
  /-- Where it begins in the file. -/
  offset : Nat
  /-- Where it begins in memory. -/
  address : Nat
  /-- How many octets of the file belong to it. -/
  fileSize : Nat
  /-- How many octets of memory belong to it. -/
  memorySize : Nat
  /-- What its address is a multiple of. -/
  alignment : Nat
deriving DecidableEq, Repr

/-- The kind of a segment that is to be loaded. -/
def loadedKind : Nat := 1

/-- The kind of a segment that is the dynamic section. -/
def dynamicKind : Nat := 2

/-- The segment that an entry of the table describes. -/
def Segment.read (entry : Bytes) : Segment where
  kind := field entry 0 4
  isWritable := (field entry 4 4).testBit 1
  offset := field entry 8 8
  address := field entry 16 8
  fileSize := field entry 32 8
  memorySize := field entry 40 8
  alignment := field entry 48 8

/-- The segments that the first entries of a table describe. -/
def readSegments : Nat → Bytes → List Segment
  | 0, _ => []
  | n + 1, table => .read table :: readSegments n (table.drop entrySize)

/-- The largest place in a file that there can be. -/
def offsetLimit : Nat := 0x7FFFFFFFFFFFFFFF

/-- The segments of a file with a good header. A table without entries can be anywhere, and one so high
that its end is counted from zero again has no entries. -/
def segments (contents : Bytes) : Except LoadFault (List Segment) :=
  let start := field contents 32 8
  let count := field contents 56 2
  let stop := start + entrySize * count
  if stop ≤ contents.length then .ok (readSegments count (contents.drop start))
  else if Text.wordBound ≤ stop ∧ stop - Text.wordBound ≤ contents.length then .ok []
  else if offsetLimit < stop then .error (.unread .invalid)
  else if count = 0 then .ok []
  else .error .tableCut

/-! ### Room in memory -/

/-- How many octets a page has. -/
def pageSize : Nat := 4096

/-- The start of the page that an address is in. -/
def pageStart (address : Nat) : Nat := address - address % pageSize

/-- The end of the pages in front of an address. -/
def pageEnd (address : Nat) : Nat := pageStart (address + (pageSize - 1)) % Text.wordBound

namespace Segment

variable (s : Segment)

/-- The segment begins in its page as it does in the file. -/
def isAligned : Bool := s.address % pageSize == s.offset % pageSize

/-- Where the pages of the segment begin. -/
def start : Nat := pageStart s.address

/-- Where the pages of the segment that come from the file end. -/
def stop : Nat := pageEnd (s.address + s.fileSize)

/-- How much memory behind those pages belongs to the segment. It is zero. -/
def zeroFill : Nat := pageEnd (s.address + s.memorySize) - s.stop

/-- The room that can be had for something like the segment. Where nothing is written no room is used. -/
def roomLimit : Nat := if s.isWritable then 0x1000000000 else 0x400000000000

end Segment

/-- How much memory lies between the start of the first segment and the end of the last one. -/
def extent (first last : Segment) : Nat :=
  (last.address + last.memorySize + (Text.wordBound - first.start)) % Text.wordBound

/-- A number that has no bit in common with the one before it: a power of two, or zero. -/
def isPowerOfTwo (n : Nat) : Bool := n &&& (n - 1) == 0

/-- The alignment that all segments get: the largest power of two that one of them asks for. -/
def commonAlignment (loaded : List Segment) : Nat :=
  loaded.foldl (fun n s => if isPowerOfTwo s.alignment then max n s.alignment else n) pageSize

/-- The room that is asked for so that `size` octets can be aligned in it. -/
def roomFor (size alignment : Nat) : Nat :=
  if alignment ≤ pageSize then size else max size alignment + alignment

/-- Between some segment and the next one is a gap, or they overlap. -/
def haveHoles : List Segment → Bool
  | s :: t :: rest => s.stop != t.start || haveHoles (t :: rest)
  | _ => false

/-- The segments that are to be loaded cannot be. -/
def roomFault? : List Segment → Option LoadFault
  | [] => some .noSegments
  | first :: rest =>
    let last := (first :: rest).getLast (by simp)
    let size := extent first last
    firstFault? [
      (size = 0 || first.roomLimit < roomFor size (commonAlignment (first :: rest)),
        .unmapped),
      (offsetLimit < pageStart first.offset + size, .unmapped),
      (haveHoles (first :: rest) && last.start < first.stop, .misaligned),
      (rest.any fun s => s.start < s.stop && offsetLimit < pageStart s.offset + (s.stop - s.start),
        .unmapped),
      ((first :: rest).any fun s => s.isWritable && s.roomLimit < s.zeroFill, .noZeroFill)]

/-! ### The dynamic section -/

/-- Where the dynamic section is; the last segment for it counts, and none of them may be empty. -/
def dynamicAddress? (segments : List Segment) : Option Nat :=
  let found := segments.filter (·.kind == dynamicKind)
  if found.any (·.fileSize == 0) then none
  else (found.getLast?.map (·.address)).filter (· != 0)

/-- The octets from an address on, as far as the file has them. -/
def octetsFrom (contents : Bytes) (loaded : List Segment) (address : Nat) : Bytes :=
  match loaded.find? fun s => s.start ≤ address && address < s.stop with
  | none => []
  | some s => contents.drop (s.offset + address - s.address)

/-- At most `n` entries of a dynamic section: tags with their values, up to the tag zero. -/
def dynamicEntries : Nat → Bytes → List (Nat × Nat)
  | 0, _ => []
  | n + 1, octets =>
    if field octets 0 8 = 0 then []
    else (field octets 0 8, field octets 8 8) :: dynamicEntries n (octets.drop 16)

/-- The tag of the flags that are looked at. -/
def flagsTag : Nat := 0x6FFFFFFB

/-- The flag of programs that can be anywhere. -/
def programFlag : Nat := 27

/-- The flag of objects that are not for loading. -/
def notForLoadingFlag : Nat := 6

/-- The flags in a dynamic section; of several the last count. -/
def flags (octets : Bytes) : Nat :=
  ((dynamicEntries (octets.length / 16 + 1) octets).reverse.lookup flagsTag).getD 0

/-- What the flags have against loading. -/
def flagFault? (flags : Nat) : Option LoadFault :=
  firstFault? [
    (flags.testBit programFlag, .movableProgram),
    (flags.testBit notForLoadingFlag, .notForLoading)]

/-! ### Whole files -/

/-- What is wrong with the segments of a file whose object is of the given kind. -/
def segmentFault? (kind : Nat) (contents : Bytes) (segments : List Segment) : Option LoadFault :=
  let loaded := segments.filter (·.kind == loadedKind)
  firstFault? [
    (loaded.any (!·.isAligned), .misaligned),
    (loaded.isEmpty, .noSegments),
    (kind = programKind, .program),
    ((dynamicAddress? segments).isNone, .noDynamicSection)]
  <|> roomFault? loaded
  <|> (dynamicAddress? segments).bind fun address =>
    flagFault? (flags (octetsFrom contents loaded address))

/-- What is wrong with the contents of a file. -/
def fault? (contents : Bytes) : Option LoadFault :=
  headerFault? contents <|>
    match segments contents with
    | .error fault => some fault
    | .ok segments => segmentFault? (kind contents) contents segments

end GpuDriver.Library.ObjectFile
