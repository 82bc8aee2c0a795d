import RegisterMachine.Text.Printable

/-!
# Quoted texts

A quoted text stands between two quotation marks: single ones, or double ones
when the text has a single mark and no double mark. Inside, the mark in use
and the backslash follow a backslash, three control characters have letters,
and any other character that is not printable appears by its code point, in
two, four or eight hexadecimal digits.
-/

set_option autoImplicit false

namespace RegisterMachine

namespace Text

/-- The single quotation mark. -/
def singleMark : Char := '\x27'

/-- The double quotation mark. -/
def doubleMark : Char := '\x22'

/-- The escape character. -/
def backslash : Char := '\x5c'

/-- The last `width` hexadecimal digits of a number. -/
def hexDigits : Nat → Nat → List Char
  | 0, _ => []
  | width + 1, n => hexDigits width (n / 16) ++ [Nat.digitChar (n % 16)]

/-- How one character appears between quotation marks. -/
def quoteChar (mark c : Char) : List Char :=
  if c = mark ∨ c = backslash then [backslash, c]
  else if c = '\t' then [backslash, 't']
  else if c = '\n' then [backslash, 'n']
  else if c = '\r' then [backslash, 'r']
  else if isPrintable c then [c]
  else if c.toNat < 0x100 then backslash :: 'x' :: hexDigits 2 c.toNat
  else if c.toNat < 0x10000 then backslash :: 'u' :: hexDigits 4 c.toNat
  else backslash :: 'U' :: hexDigits 8 c.toNat

/-- The mark to quote a text with. -/
def markFor (text : List Char) : Char :=
  if singleMark ∈ text ∧ doubleMark ∉ text then doubleMark else singleMark

/-- A text between quotation marks. -/
def quote (s : String) : String :=
  let text := s.toList
  let mark := markFor text
  String.ofList (mark :: text.flatMap (quoteChar mark) ++ [mark])

end Text

end RegisterMachine
