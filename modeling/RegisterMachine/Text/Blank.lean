/-!
# Blanks and line breaks

Twenty-nine characters are blank. Ten of them also end a line; a carriage
return followed by a line feed ends one line, not two.
-/

set_option autoImplicit false

namespace RegisterMachine

namespace Text

/-- White space of any script, the information separators included. -/
def isBlank (c : Char) : Bool :=
  let n := c.toNat
  (9 ≤ n && n ≤ 13) || (28 ≤ n && n ≤ 32) || n == 0x85 || n == 0xa0 || n == 0x1680
    || (0x2000 ≤ n && n ≤ 0x200a) || n == 0x2028 || n == 0x2029 || n == 0x202f || n == 0x205f
    || n == 0x3000

/-- The characters that end a line. -/
def isLineBreak (c : Char) : Bool :=
  let n := c.toNat
  (10 ≤ n && n ≤ 13) || (28 ≤ n && n ≤ 30) || n == 0x85 || n == 0x2028 || n == 0x2029

/-- Line breaks are blank. -/
theorem isBlank_of_isLineBreak {c : Char} (ends : isLineBreak c) : isBlank c := by
  simp only [isLineBreak, isBlank, Bool.or_eq_true, Bool.and_eq_true, decide_eq_true_eq,
    beq_iff_eq] at ends ⊢
  omega

/-- A text without the blanks at its two ends. -/
def trim (s : String) : String :=
  let inner := s.toList.dropWhile isBlank
  String.ofList (inner.reverse.dropWhile isBlank).reverse

/-! ## Lines -/

/-- Splits a text into its lines, given the characters of the line under way.
The break that ends a line belongs to no line, and the end of the text ends a
line only if the line has a character. -/
def linesFrom (line : List Char) : List Char → List (List Char)
  | [] => if line.isEmpty then [] else [line.reverse]
  | '\r' :: '\n' :: rest => line.reverse :: linesFrom [] rest
  | c :: rest =>
    if isLineBreak c then line.reverse :: linesFrom [] rest else linesFrom (c :: line) rest

/-- The lines of a text. -/
def lines (text : List Char) : List (List Char) := linesFrom [] text

end Text

end RegisterMachine
