import ProcessAccounting.Text.Unseen

/-!
# Quoted text

Text shown between double quotes, so that its ends and its invisible characters
can be seen.  A quote and a backslash get a backslash in front; tab, line feed,
carriage return and the zero character have short names; every other character
that would not be seen on its own is named by its code point in lower-case
hexadecimal.  Letters, digits, punctuation and symbols of every script are shown
as they are, and so is the apostrophe.
-/

namespace ProcessAccounting.Text

/-- One character inside quotes. -/
def quotedChar (c : Char) : List Char :=
  if c = '"' then ['\\', '"']
  else if c = '\\' then ['\\', '\\']
  else if c = '\t' then ['\\', 't']
  else if c = '\n' then ['\\', 'n']
  else if c = '\r' then ['\\', 'r']
  else if c = '\x00' then ['\\', '0']
  else if isSeen c then [c]
  else ['\\', 'u', '\x7b'] ++ Nat.toDigits 16 c.toNat ++ ['\x7d']

/-- A text between double quotes. -/
def quoted (text : String) : String :=
  .ofList (['"'] ++ text.toList.flatMap quotedChar ++ ['"'])

/-- A list of texts, each in quotes, between square brackets. -/
def quotedList (texts : List String) : String :=
  "[" ++ ", ".intercalate (texts.map quoted) ++ "]"

end ProcessAccounting.Text
