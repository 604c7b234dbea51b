import ProcessAccounting.Fault

/-!
# Warnings

What is said aloud when accounting goes on with less than was asked for.
-/

namespace ProcessAccounting

/-- Something that a caller is told but need not act on. -/
inductive Warning where
  /-- A poll has failed, and an empty tree takes its place. -/
  | pollFailed (report : Report)
  /-- A source of processes could not be set up. -/
  | constructionFailed (root : Pid) (report : Report)
  /-- No implementation has that name; the known names are given. -/
  | unknownImplementation (name : String) (known : List String)
deriving DecidableEq

namespace Warning

def message : Warning → String
  | pollFailed _ => "Cannot read process information, accounting an empty tree"
  | constructionFailed .. => "Failed to create process tree, resource accounting disabled"
  | unknownImplementation .. =>
    "Unknown process tree implementation, resource accounting disabled"

/-- The details of a warning, by name. -/
def details : Warning → List (String × String)
  | pollFailed _ => []
  | constructionFailed root _ => [("root_pid", root.toNat.repr)]
  | unknownImplementation name known =>
    [("implementation", name), ("known", Text.quotedList known)]

end Warning

end ProcessAccounting
