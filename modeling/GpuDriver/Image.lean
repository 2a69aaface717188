/-!
# Kinds of images

What is handed to a link session is of one of five kinds. A kind is known by its number, by its name,
or by the extension of the file it comes from; names and extensions are read without regard to case.
-/

namespace GpuDriver

/-- The kind of an image that can be linked. -/
inductive ImageKind
  /-- Code for one architecture. -/
  | cubin
  /-- Assembly text. -/
  | ptx
  /-- Code for several architectures. -/
  | fatbinary
  /-- An object file. -/
  | object
  /-- An archive of object files. -/
  | library
deriving DecidableEq, Repr

namespace ImageKind

/-- All kinds in the order of their numbers. -/
def all : List ImageKind := [cubin, ptx, fatbinary, object, library]

/-- The number of a kind. -/
def code : ImageKind → Int
  | cubin => 0
  | ptx => 1
  | fatbinary => 2
  | object => 3
  | library => 4

/-- The kind with a number. -/
def ofCode? (code : Int) : Option ImageKind := all.find? fun kind => kind.code = code

/-- The name of a kind. -/
def name : ImageKind → String
  | cubin => "cubin"
  | ptx => "ptx"
  | fatbinary => "fatbin"
  | object => "object"
  | library => "library"

/-- A text with its ASCII capitals made small. -/
def lowered (s : String) : String := s.map Char.toLower

/-- The kind that a file extension stands for. -/
def ofExtension? (extension : String) : Option ImageKind :=
  match lowered extension with
  | "cubin" => some cubin
  | "ptx" => some ptx
  | "fatbin" => some fatbinary
  | "o" | "obj" => some object
  | "a" | "lib" => some library
  | _ => none

/-- The kind with a name, or the text of the refusal. -/
def parse (text : String) : Except String ImageKind :=
  match lowered text with
  | "cubin" => .ok cubin
  | "ptx" => .ok ptx
  | "fatbin" | "fatbinary" => .ok fatbinary
  | "object" | "obj" => .ok object
  | "library" | "lib" => .ok library
  | other => .error ("unknown JIT input type: " ++ other)

end ImageKind

end GpuDriver
