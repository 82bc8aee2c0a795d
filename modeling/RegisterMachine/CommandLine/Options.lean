import RegisterMachine.Text.Digit
import RegisterMachine.Text.Quoted

/-!
# Command line options

The grammar of an argument list, for any catalogue of options. An option has
one or more names, long ones such as `--trace` and short ones such as `-t`, and
takes one value or none.

* A long name may be cut short as long as only one option is meant. A value may
  be glued to it with an equality sign.
* Short names may be glued together, and a value to the last of them, with or
  without an equality sign.
* Otherwise a value is the next argument, which must not look like an option. A
  single dash, a negative number, and text with a space in it do not.
* After the argument `--` nothing is an option.

Which arguments are options is settled first, so an ambiguous name is reported
before anything else. Then the options are used in order, up to the first
error. Arguments that belong to no option are left over.
-/

set_option autoImplicit false

namespace RegisterMachine

namespace CommandLine

/-- An option of a catalogue. -/
structure Declared (κ : Type) where
  names : List String
  key : κ
  takesValue : Bool := false

variable {κ : Type}

/-- How messages name an option. -/
def Declared.label (d : Declared κ) : String := "/".intercalate d.names

/-- The ways in which an argument list can be wrong. -/
inductive OptionsError where
  /-- A name cut short means several options. -/
  | ambiguous (argument : String) (candidates : List String)
  /-- An option lacks its value. -/
  | missingValue (label : String)
  /-- A value is glued to an option that takes none. -/
  | unwantedValue (label value : String)
  /-- Arguments belong to no option. -/
  | leftOver (arguments : List String)
  deriving DecidableEq, Repr

def OptionsError.message : OptionsError → String
  | .ambiguous argument candidates =>
    "ambiguous option: " ++ argument ++ " could match " ++ ", ".intercalate candidates
  | .missingValue label => "argument " ++ label ++ ": expected one argument"
  | .unwantedValue label value =>
    "argument " ++ label ++ ": ignored explicit argument " ++ Text.quote value
  | .leftOver arguments => "unrecognized arguments: " ++ " ".intercalate arguments

/-! ## Arguments -/

/-- What an argument turns out to be. -/
inductive Argument (κ : Type) where
  /-- Something that may be the value of an option. -/
  | operand
  /-- Something that is neither a value nor a known option. -/
  | other
  /-- An option, whether its name is a long one, and what is glued to it. -/
  | option (declared : Declared κ) (long : Bool) (glued : Option (List Char))

/-- The options of a catalogue by their names, in order. -/
def byName (catalogue : List (Declared κ)) : List (List Char × Declared κ) :=
  catalogue.flatMap fun d => d.names.map fun name => (name.toList, d)

/-- The option of exactly that name. -/
def find? (catalogue : List (Declared κ)) (name : List Char) : Option (Declared κ) :=
  (byName catalogue).lookup name

/-- The text before and after the first equality sign, if there is one. -/
def splitValue (text : List Char) : List Char × Option (List Char) :=
  match text.dropWhile (· != '=') with
  | [] => (text, none)
  | _ :: value => (text.takeWhile (· != '='), some value)

/-- A name is long when it starts with two dashes. -/
def isLong : List Char → Bool
  | '-' :: '-' :: _ => true
  | _ => false

/-- The names that an argument may mean, when it is no option as it stands,
with what is glued to each. -/
def candidates (catalogue : List (Declared κ)) (text : List Char) :
    List (List Char × Declared κ × Option (List Char)) :=
  if isLong text then
    let (start, value) := splitValue text
    (byName catalogue).filterMap fun (name, d) =>
      if start.isPrefixOf name then some (name, d, value) else none
  else
    (byName catalogue).filterMap fun (name, d) =>
      if name = text.take 2 then some (name, d, some (text.drop 2))
      else if text.isPrefixOf name then some (name, d, none)
      else none

/-- A minus sign and a decimal number, before an optional line break. -/
def isNegativeNumber : List Char → Bool
  | '-' :: rest =>
    let text := if rest.getLast? = some '\n' then rest.dropLast else rest
    match text.dropWhile Text.isDigit with
    | [] => !text.isEmpty
    | '.' :: places => !places.isEmpty && places.all Text.isDigit
    | _ => false
  | _ => false

/-- What an argument is. -/
def classify (catalogue : List (Declared κ)) (argument : String) :
    Except OptionsError (Argument κ) :=
  let text := argument.toList
  if text.head? ≠ some '-' then .ok .operand
  else match find? catalogue text with
    | some d => .ok (.option d (isLong text) none)
    | none =>
      if text.length = 1 then .ok .operand
      else
        let (name, value) := splitValue text
        match value.bind fun value => (find? catalogue name).map (·, value) with
        | some (d, value) => .ok (.option d (isLong name) (some value))
        | none =>
          match candidates catalogue text with
          | [(name, d, glued)] => .ok (.option d (isLong name) glued)
          | [] => .ok (if isNegativeNumber text ∨ ' ' ∈ text then .operand else .other)
          | several =>
            .error (.ambiguous argument (several.map fun (name, _) => String.ofList name))

/-- The argument after which nothing is an option. -/
def separator : String := "--"

/-- What the arguments are. -/
def classifyAll (catalogue : List (Declared κ)) :
    List String → Except OptionsError (List (String × Argument κ))
  | [] => .ok []
  | argument :: rest =>
    if argument = separator then
      .ok ((argument, .other) :: rest.map fun operand => (operand, .operand))
    else do
      let first ← classify catalogue argument
      let others ← classifyAll catalogue rest
      return (argument, first) :: others

/-! ## Uses -/

/-- An option in use. -/
structure Use (κ : Type) where
  option : Declared κ
  /-- The value given, if the option takes one. -/
  value : Option String := none

/-- An argument list taken apart: the options used, the error that ends them if
there is one, and the arguments left over. -/
structure Taken (κ : Type) where
  uses : List (Use κ) := []
  error : Option OptionsError := none
  leftOver : List String := []

/-- More uses in front. -/
def Taken.prepend (uses : List (Use κ)) (t : Taken κ) : Taken κ :=
  { t with uses := uses ++ t.uses }

/-- Takes a glued text apart: the options used, and one more that has nothing
glued to it. -/
def unglue (catalogue : List (Declared κ)) (d : Declared κ) (long : Bool) :
    List Char → Except OptionsError (List (Use κ) × Option (Declared κ))
  | [] =>
    if d.takesValue then .ok ([{ option := d, value := some "" }], none)
    else .error (.unwantedValue d.label "")
  | c :: rest =>
    let glued := String.ofList (c :: rest)
    if d.takesValue then .ok ([{ option := d, value := some glued }], none)
    else if long then .error (.unwantedValue d.label glued)
    else match find? catalogue ['-', c] with
      | none => .error (.unwantedValue d.label glued)
      | some next =>
        if rest.isEmpty then .ok ([{ option := d }], some next)
        else (unglue catalogue next false rest).map fun (uses, last) =>
          ({ option := d } :: uses, last)

/-- The same for an argument that may have nothing glued to it. -/
def unglueAny (catalogue : List (Declared κ)) (d : Declared κ) (long : Bool) :
    Option (List Char) → Except OptionsError (List (Use κ) × Option (Declared κ))
  | none => .ok ([], some d)
  | some glued => unglue catalogue d long glued

/-- Takes classified arguments apart. -/
def take (catalogue : List (Declared κ)) : List (String × Argument κ) → Taken κ
  | [] => {}
  | (_, .option d long glued) :: rest =>
    match unglueAny catalogue d long glued with
    | .error cause => { error := some cause }
    | .ok (uses, none) => (take catalogue rest).prepend uses
    | .ok (uses, some last) =>
      if last.takesValue then
        match rest with
        | (value, .operand) :: rest =>
          (take catalogue rest).prepend (uses ++ [{ option := last, value := some value }])
        | _ => { error := some (.missingValue last.label) }
      else (take catalogue rest).prepend (uses ++ [{ option := last }])
  | (argument, _) :: rest =>
    let others := take catalogue rest
    { others with leftOver := argument :: others.leftOver }

/-- An argument list taken apart. -/
def takeAll (catalogue : List (Declared κ)) (arguments : List String) :
    Except OptionsError (Taken κ) :=
  (classifyAll catalogue arguments).map (take catalogue)

end CommandLine

end RegisterMachine
