import ProcessAccounting.Text.Blank

/-!
# Platforms

The operating system by the name it gives itself.  A name is Linux when, without the
blanks around it, its first five bytes spell `linux` in any mixture of upper and
lower case; what follows does not matter.
-/

namespace ProcessAccounting

/-- The operating system that the program runs on. -/
inductive Platform where
  | linux
  /-- Any other system, by its name. -/
  | unsupported (name : String)
deriving DecidableEq

namespace Platform

/-- The characters in the first `n` bytes of a text, unless the text is shorter or a
character lies across that boundary. -/
def firstBytes? : Nat → List Char → Option (List Char)
  | 0, _ => some []
  | _ + 1, [] => none
  | n + 1, c :: rest =>
    if c.utf8Size ≤ n + 1 then (firstBytes? (n + 1 - c.utf8Size) rest).map (c :: ·) else none

def linuxName : List Char := ['l', 'i', 'n', 'u', 'x']

/-- Whether a name without blanks around it is that of the supported system. -/
def isLinuxName (name : List Char) : Bool :=
  (firstBytes? linuxName.length name).any (·.map Char.toLower == linuxName)

def ofName (name : String) : Platform :=
  let trimmed := Text.trim name.toList
  if isLinuxName trimmed then linux else unsupported (.ofList trimmed)

/-- The system that this program runs on. -/
def current : Platform := linux

def isSupported : Platform → Bool
  | linux => true
  | unsupported _ => false

def name : Platform → String
  | linux => "Linux"
  | unsupported name => name

end Platform

end ProcessAccounting
