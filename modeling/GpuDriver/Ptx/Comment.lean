/-!
# Comments in PTX

A comment runs from `//` to the end of its line, or from `/*` to the next `*/`. The line feed that ends
a line comment stays; a block comment leaves a blank in its place. A comment that is not closed runs to
the end of the text.
-/

namespace GpuDriver.Ptx

/-- What follows the first `*/`. -/
def afterClose : List Char → List Char
  | '*' :: '/' :: rest => rest
  | _ :: rest => afterClose rest
  | [] => []

theorem length_afterClose_le (cs : List Char) : (afterClose cs).length ≤ cs.length := by
  fun_induction afterClose cs <;> simp <;> omega

theorem length_dropWhile_le (p : Char → Bool) (cs : List Char) :
    (cs.dropWhile p).length ≤ cs.length :=
  (List.dropWhile_sublist p).length_le

/-- The text without its comments. -/
def withoutComments : List Char → List Char
  | '/' :: '/' :: rest => withoutComments (rest.dropWhile (· != '\n'))
  | '/' :: '*' :: rest => ' ' :: withoutComments (afterClose rest)
  | c :: rest => c :: withoutComments rest
  | [] => []
termination_by cs => cs.length
decreasing_by
  · have := length_dropWhile_le (· != '\n') rest
    simp; omega
  · have := length_afterClose_le rest
    simp; omega
  · simp

end GpuDriver.Ptx
