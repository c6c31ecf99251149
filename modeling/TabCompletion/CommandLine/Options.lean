/-! # Options of a command line

Options may stand anywhere among the arguments. A long one takes its value from the next argument or
after an equals sign, a short one from the rest of its own argument or from the next. -/

namespace TabCompletion.CommandLine

/-- One option: what it sets, how it is written, and whether it takes a value. -/
structure OptionSpec (ι : Type) where
  sets : ι
  long : String
  short : Option Char
  takesValue : Bool

/-- The arguments of a command, sorted out. -/
structure Arguments (ι : Type) where
  /-- The options in the order in which they were given, with their values. -/
  options : List (ι × String)
  positional : List String

namespace Arguments

variable {ι : Type}

def withOption (option : ι) (value : String) (a : Arguments ι) : Arguments ι :=
  { a with options := (option, value) :: a.options }

def withPositional (argument : String) (a : Arguments ι) : Arguments ι :=
  { a with positional := argument :: a.positional }

/-- The values given for an option, in order. -/
def values [DecidableEq ι] (a : Arguments ι) (option : ι) : List String :=
  (a.options.filter fun given => given.1 = option).map Prod.snd

/-- The value given last for an option. -/
def last? [DecidableEq ι] (a : Arguments ι) (option : ι) : Option String :=
  (a.values option).getLast?

def has [DecidableEq ι] (a : Arguments ι) (option : ι) : Bool :=
  a.options.any fun given => given.1 = option

end Arguments

/-- How one argument is to be understood. -/
inductive Reading (ι : Type)
  | positional
  /-- Ends the options. -/
  | separator
  /-- A complete option. -/
  | option (sets : ι) (value : String)
  /-- An option whose value is the next argument. -/
  | wantsValue (sets : ι)
  | wrong

variable {ι : Type}

/-- A long option, with or without a value after an equals sign. -/
def readLong (specs : List (OptionSpec ι)) (argument : List Char) : Option (Reading ι) :=
  let name := String.ofList (argument.takeWhile (· ≠ '='))
  match specs.find? (·.long == name), argument.dropWhile (· ≠ '=') with
  | none, _ => none
  | some spec, [] => some (if spec.takesValue then .wantsValue spec.sets else .option spec.sets "")
  | some spec, _ :: value =>
    some (if spec.takesValue then .option spec.sets (String.ofList value) else .wrong)

/-- A short option, with or without a value in the same argument. -/
def readShort (specs : List (OptionSpec ι)) : List Char → Reading ι
  | '-' :: letter :: rest =>
    match specs.find? (·.short == some letter), rest with
    | none, _ => .wrong
    | some spec, [] => if spec.takesValue then .wantsValue spec.sets else .option spec.sets ""
    | some spec, rest =>
      if spec.takesValue then .option spec.sets (String.ofList rest) else .wrong
  | _ => .wrong

def read (specs : List (OptionSpec ι)) (argument : String) : Reading ι :=
  match argument.toList with
  | ['-', '-'] => .separator
  | '-' :: c :: rest =>
    match readLong specs ('-' :: c :: rest) with
    | some reading => reading
    | none => if c = '-' then .wrong else readShort specs ('-' :: c :: rest)
  | _ => .positional

/-- Sorts out the arguments of a command; nothing if they are not understood. -/
def sortOut (specs : List (OptionSpec ι)) : List String → Option (Arguments ι)
  | [] => some ⟨[], []⟩
  | argument :: rest =>
    match read specs argument with
    | .separator => some ⟨[], rest⟩
    | .positional => (sortOut specs rest).map (·.withPositional argument)
    | .option sets value => (sortOut specs rest).map (·.withOption sets value)
    | .wrong => none
    | .wantsValue sets =>
      match rest with
      | [] => none
      | value :: others => (sortOut specs others).map (·.withOption sets value)

end TabCompletion.CommandLine
