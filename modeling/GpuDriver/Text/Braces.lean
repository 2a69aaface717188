/-!
# Balanced braces

A text is balanced when no part of it from the start closes more braces than it opens, and the whole
opens as many as it closes.
-/

namespace GpuDriver.Text

/-- How many braces are open after a text that begins with `depth` open; nothing if one is closed that
was not open. -/
def braceDepth (depth : Nat) : List Char → Option Nat
  | [] => some depth
  | c :: rest =>
    if c = '\x7b' then braceDepth (depth + 1) rest
    else if c = '\x7d' then
      if depth = 0 then none else braceDepth (depth - 1) rest
    else braceDepth depth rest

/-- The braces of a text are balanced. -/
def balanced (cs : List Char) : Bool := braceDepth 0 cs == some 0

end GpuDriver.Text
