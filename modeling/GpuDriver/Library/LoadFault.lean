import GpuDriver.IoError

/-!
# Faults of libraries

Why the system does not load something as a library, and what it says then.
-/

namespace GpuDriver.Library

/-- Why something cannot be loaded. -/
inductive LoadFault
  /-- The file cannot be opened. -/
  | unopened (error : IoError)
  /-- The file cannot be read. -/
  | unread (error : IoError)
  /-- The file ends inside the header. -/
  | tooShort
  /-- The file does not begin as objects do. -/
  | noObject
  /-- The object is for machines with addresses of another width. -/
  | otherWidth
  /-- The object does not keep low octets first. -/
  | byteOrder
  /-- The identification has another version. -/
  | identVersion
  /-- The object is for another system. -/
  | otherSystem
  /-- The object is for another version of the system's conventions. -/
  | systemVersion
  /-- The rest of the identification is not zero. -/
  | padding
  /-- The header has another version. -/
  | headerVersion
  /-- The object is neither a library nor a program. -/
  | notLoadable
  /-- The entries of the segment table have another size. -/
  | entrySize
  /-- The segment table reaches beyond the end of the file. -/
  | tableCut
  /-- A segment does not begin in its page as it does in the file, or two segments overlap. -/
  | misaligned
  /-- There is no segment to load. -/
  | noSegments
  /-- The object is a program with fixed addresses. -/
  | program
  /-- The object says nothing to those that load it. -/
  | noDynamicSection
  /-- There is no room for the segments. -/
  | unmapped
  /-- There is no room for what is zero in the segments. -/
  | noZeroFill
  /-- The object is a program that can be anywhere. -/
  | movableProgram
  /-- The object is not meant to be loaded by a running program. -/
  | notForLoading
deriving DecidableEq, Repr

/-- The text of a fault. -/
def LoadFault.message : LoadFault → String
  | unopened e => "cannot open shared object file: " ++ e.reason
  | unread e => "cannot read file data: " ++ e.reason
  | tooShort => "file too short"
  | noObject => "invalid ELF header"
  | otherWidth => "wrong ELF class: ELFCLASS32"
  | byteOrder => "ELF file data encoding not little-endian"
  | identVersion => "ELF file version ident does not match current one"
  | otherSystem => "ELF file OS ABI invalid"
  | systemVersion => "ELF file ABI version invalid"
  | padding => "nonzero padding in e_ident"
  | headerVersion => "ELF file version does not match current one"
  | notLoadable => "only ET_DYN and ET_EXEC can be loaded"
  | entrySize => "ELF file's phentsize not the expected size"
  | tableCut => "cannot read file data"
  | misaligned => "ELF load command address/offset not page-aligned"
  | noSegments => "object file has no loadable segments"
  | program => "cannot dynamically load executable"
  | noDynamicSection => "object file has no dynamic section"
  | unmapped => "failed to map segment from shared object"
  | noZeroFill => "cannot map zero-fill pages"
  | movableProgram => "cannot dynamically load position-independent executable"
  | notForLoading => "shared object cannot be dlopen()ed"

end GpuDriver.Library
