import RegisterMachine.Value.Basic

/-!
# Programs as text

A program text holds integer literals, separated by commas and blanks. A number
sign or a semicolon starts a comment, which ends with its line. The program is
the row of the values; a token that is no literal is an error, reported with
the number of its line.

Writing a program gives its values in decimal, separated by a comma and a space.
-/

set_option autoImplicit false

namespace RegisterMachine

namespace Source

/-- A token is not an integer literal. Lines are numbered from 1. -/
inductive ParseError where
  | notAnInteger (line : Nat) (token : List Char)
  deriving DecidableEq, Repr

def ParseError.message : ParseError → String
  | .notAnInteger line token =>
    "Line " ++ toString line ++ ": not an integer: " ++ Text.quote (String.ofList token)

/-! ## Tokens -/

/-- The characters that start a comment. -/
def isCommentMark (c : Char) : Bool := c == '#' || c == ';'

/-- The characters between tokens. -/
def isSeparator (c : Char) : Bool := c == ',' || Text.isBlank c

/-- The part of a line before its comment. -/
def code (line : List Char) : List Char := line.takeWhile (!isCommentMark ·)

/-- The tokens of a text, given the characters of the token under way. -/
def tokensFrom (token : List Char) : List Char → List (List Char)
  | [] => if token.isEmpty then [] else [token.reverse]
  | c :: rest =>
    if isSeparator c then
      if token.isEmpty then tokensFrom [] rest else token.reverse :: tokensFrom [] rest
    else tokensFrom (c :: token) rest

/-- The tokens of a text: the longest pieces without separators. -/
def tokens (text : List Char) : List (List Char) := tokensFrom [] text

/-! ## Reading -/

/-- The values of the tokens of one line. -/
def readTokens (line : Nat) : List (List Char) → Except ParseError (List Int)
  | [] => .ok []
  | token :: rest =>
    match Numeral.literal? token with
    | none => .error (.notAnInteger line token)
    | some value => (readTokens line rest).map (value :: ·)

/-- The values of lines, numbered from the given number on. -/
def readLines : Nat → List (List Char) → Except ParseError (List Int)
  | _, [] => .ok []
  | line, text :: rest => do
    let values ← readTokens line (tokens (code text))
    let others ← readLines (line + 1) rest
    return values ++ others

/-- The program in a text. -/
def parse (text : String) : Except ParseError (List Int) :=
  readLines 1 (Text.lines text.toList)

/-! ## Writing -/

/-- The values of a program in decimal. -/
def decimals : List Int → Except Numeral.NumeralError (List String)
  | [] => .ok []
  | value :: rest => do
    let first ← Numeral.writeDecimal value
    let others ← decimals rest
    return first :: others

/-- A program as text. -/
def write (program : List Int) : Except Numeral.NumeralError String :=
  (decimals program).map (", ".intercalate ·)

/-- A program of values of any kind as text. -/
def writeValues (program : List Value) : Except Numeral.NumeralError String :=
  (program.mapM Value.write).map (", ".intercalate ·)

end Source

end RegisterMachine
