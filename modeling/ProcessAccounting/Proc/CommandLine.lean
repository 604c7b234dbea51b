import ProcessAccounting.Text.Pieces
import ProcessAccounting.Text.Lossy

/-!
# Command lines

The arguments of a process as the proc file system gives them: each one ends with a
zero byte.  They are shown on one line with a space between two of them; empty
arguments are left out.
-/

namespace ProcessAccounting.Proc.CommandLine

/-- The arguments that are not empty, decoded. -/
def arguments (raw : List UInt8) : List (List Char) :=
  (Text.filledPieces (· == 0) raw).map Text.Lossy.decode

/-- The arguments with one space between two of them. -/
def characters (raw : List UInt8) : List Char := [' '].intercalate (arguments raw)

def text (raw : List UInt8) : String := .ofList (characters raw)

end ProcessAccounting.Proc.CommandLine
