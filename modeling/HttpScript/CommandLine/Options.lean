import HttpScript.Text.Numeral

/-!
# Options

The arguments of the command are files and options, in any order.  An option has a long name, and
perhaps a letter; its value follows it, or is attached: after an equals sign to a long name,
directly to a letter.  Of an option that is given again the last value counts.  After `--` every
argument is a file, and so is a single dash.
-/

namespace HttpScript

/-- What an option is about. -/
inductive Switch
  | environment
  | variablesFile
  | configFile
  | timeout
  | verbose
  | raw
  | list
  | debug
deriving DecidableEq, Repr

/-- Why arguments are no use of the command. -/
inductive UsageFault
  | unknownOption (name : Text)
  | valueMissing (name : Text)
  | valueUnexpected (name : Text)
  | notInteger (value : Text)
  | directory (file : Text)
  | noFiles
deriving DecidableEq, Repr

/-- The wording of a fault. -/
def UsageFault.message : UsageFault → Text
  | .unknownOption name => "No such option: " ++ name
  | .valueMissing name => "Option '" ++ name ++ "' requires an argument."
  | .valueUnexpected name => "Option '" ++ name ++ "' does not take a value."
  | .notInteger value => "Invalid value for '--timeout': '" ++ value ++ "' is not a valid integer."
  | .directory file => "Invalid value for 'FILES...': File '" ++ file ++ "' is a directory."
  | .noFiles => "Missing argument 'FILES...'."

namespace Switch

/-- The options by their long names. -/
def longNames : List (Text × Switch) :=
  [("--env", .environment), ("--env-file", .variablesFile), ("--config", .configFile),
    ("--timeout", .timeout), ("--verbose", .verbose), ("--raw", .raw), ("--list", .list),
    ("--debug", .debug)]

/-- The options by their letters. -/
def letters : List (Char × Switch) :=
  [('e', .environment), ('c', .configFile)]

/-- Whether an option has a value. -/
def takesValue : Switch → Bool
  | .environment | .variablesFile | .configFile | .timeout => true
  | .verbose | .raw | .list | .debug => false

end Switch

/-- An argument that was understood. -/
inductive Argument
  | file (name : Text)
  | option (switch : Switch) (value : Text)
deriving DecidableEq, Repr

namespace Argument

/-- An option as it stands in one argument: its name, what it is about, and its value if that is
attached. -/
structure Mention where
  name : Text
  switch : Switch
  attached : Option Text

/-- The option in an argument that begins with two dashes. -/
def longMention (argument : Text) : Except UsageFault Mention :=
  let (name, attached) := match Text.splitAt? '=' argument with
    | some (name, value) => (name, some value)
    | none => (argument, none)
  match Switch.longNames.lookup name with
  | some switch => .ok { name, switch, attached }
  | none => .error (.unknownOption name)

/-- The option in an argument that begins with one dash and a letter. -/
def letterMention (letter : Char) (value : Text) : Except UsageFault Mention :=
  match Switch.letters.lookup letter with
  | some switch =>
      .ok { name := ['-', letter], switch, attached := if value.isEmpty then none else some value }
  | none => .error (.unknownOption ['-', letter])

/-- The option in an argument, if there is one. -/
def mention : Text → Except UsageFault (Option Mention)
  | '-' :: '-' :: rest => (longMention ('-' :: '-' :: rest)).map some
  | '-' :: letter :: value => (letterMention letter value).map some
  | _ => .ok none

/-- Understands arguments in order. -/
def readAll : List Text → Except UsageFault (List Argument)
  | [] => .ok []
  | argument :: rest =>
      if argument = ['-', '-'] then .ok (rest.map Argument.file)
      else
        match mention argument with
        | .error fault => .error fault
        | .ok none => (readAll rest).map (Argument.file argument :: ·)
        | .ok (some found) =>
            match found.switch.takesValue, found.attached with
            | false, none => (readAll rest).map (Argument.option found.switch [] :: ·)
            | false, some _ => .error (.valueUnexpected found.name)
            | true, some value => (readAll rest).map (Argument.option found.switch value :: ·)
            | true, none =>
                match rest with
                | [] => .error (.valueMissing found.name)
                | value :: rest => (readAll rest).map (Argument.option found.switch value :: ·)

/-- The file in an argument. -/
def file? : Argument → Option Text
  | .file name => some name
  | .option .. => none

/-- The value in an argument, if it is an option of a kind. -/
def valueOf? (switch : Switch) : Argument → Option Text
  | .file _ => none
  | .option other value => if other = switch then some value else none

/-- The last value of an option. -/
def lastValue? (switch : Switch) (arguments : List Argument) : Option Text :=
  (arguments.filterMap (valueOf? switch)).getLast?

end Argument

/-- What the arguments of the command say. -/
structure Options where
  files : List Text
  environment : Option Text
  variablesFile : Option Text
  configFile : Option Text
  timeout : Option Int
  verbose : Bool
  raw : Bool
  list : Bool
  debug : Bool

namespace Options

/-- The whole number in a value, if there is a value. -/
def integer? : Option Text → Except UsageFault (Option Int)
  | none => .ok none
  | some value =>
      match Text.numeral? value with
      | some number => .ok (some number)
      | none => .error (.notInteger value)

/-- The options that arguments give; at least one file must be among them. -/
def ofArguments (arguments : List Argument) : Except UsageFault Options := do
  let value := fun switch => Argument.lastValue? switch arguments
  let timeout ← integer? (value .timeout)
  let files := arguments.filterMap Argument.file?
  if files.isEmpty then throw .noFiles
  return {
    files
    environment := value .environment
    variablesFile := value .variablesFile
    configFile := value .configFile
    timeout
    verbose := (value .verbose).isSome
    raw := (value .raw).isSome
    list := (value .list).isSome
    debug := (value .debug).isSome }

/-- Reads the arguments of the command. -/
def read (arguments : List Text) : Except UsageFault Options := do
  ofArguments (← Argument.readAll arguments)

end Options

end HttpScript
