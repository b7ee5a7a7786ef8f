import HttpScript.Dotenv
import HttpScript.Files.Disk
import HttpScript.Setup.Fault
import HttpScript.Text.Numeral
import HttpScript.Yaml.Reader

/-!
# Settings

A settings file holds defaults for what can also be given with the command: the environment, the
file of environment variables and the time limit.  What is given with the command comes first, then
the settings, then, for the environment, a variable of the process environment.
-/

namespace HttpScript

/-- The settings of a command. -/
structure Config where
  /-- The defaults; only in a mapping can anything be looked up. -/
  defaults : Json
  /-- The directory of the settings file, if there is one. -/
  directory : Option Path

namespace Config

/-- The files in the working directory that can hold settings, the first one that is there wins. -/
def fileNames : List Text :=
  [".reqfile.yaml", ".reqfile.yml", "reqfile.yaml", "reqfile.yml"]

/-- The variable of the process environment that names an environment. -/
def environmentVariable : Text :=
  "REQFILE_ENV"

/-- The time limit of a request, in seconds, if none is given. -/
def defaultTimeout : Int :=
  30

/-- The settings without a file. -/
def absent : Config :=
  { defaults := .object [], directory := none }

/-! ## The file -/

/-- The settings file: the one that is named, or else the first one in the working directory.  A
file that is named and missing is not replaced by another one. -/
def findPath (disk : Disk) (named : Option Text) : Option Path :=
  let candidates := match named.filter fun name => !name.isEmpty with
    | some name => [name]
    | none => fileNames
  ((candidates.map Path.ofText).find? disk.holds).map (Path.resolve disk.workplace)

/-- The defaults in the value of a settings file; missing, empty and false ones are no defaults. -/
def defaultsOf (value : Json) : Setup Json :=
  if !value.isGiven then return .object []
  else match value with
    | .object fields =>
        return ((Table.get? fields "defaults").filter Json.isGiven).getD (.object [])
    | _ => Setup.crash .settingsNotMapping

/-- The settings of a file; one that is missing leaves the settings as without a file. -/
def load (disk : Disk) (path : Path) : Setup Config :=
  match (disk.findPath path).read with
  | .error .directory => Setup.crash .directoryRead
  | .error _ => return absent
  | .ok content =>
      match Yaml.read content with
      | none => Setup.fail (.badConfig path)
      | some value => do
          Setup.note (.configLoaded path)
          let defaults ← defaultsOf value
          return { defaults, directory := some (path.resolve disk.workplace).parent }

/-- A default, if it is there. -/
def default? (config : Config) (name : Text) : Setup (Option Json) :=
  match config.defaults with
  | .object fields => return Table.get? fields name
  | _ => Setup.crash .settingsNotMapping

/-! ## What the settings decide -/

/-- The file of environment variables: the one that is given with the command, or else the one of
the settings. -/
def variablesFile (config : Config) (given : Option Text) : Setup (Option Text) :=
  match given.filter fun name => !name.isEmpty with
  | some name => return some name
  | none => do
      match (← config.default? "env_file").filter Json.isGiven with
      | none => return none
      | some (.str name) => return some name
      | some _ => Setup.crash .fileNameNotText

/-- The path of a file of environment variables, which is looked for from the directory of the
settings file on. -/
def variablesPath (config : Config) (name : Text) : Path :=
  (config.directory.getD (Path.ofText [])).join (Path.ofText name)

/-- The notices of the statements of a file that cannot be read. -/
def statementNotice? : Dotenv.Statement → Option Notice
  | .unreadable line => some (.statementUnreadable line)
  | _ => none

/-- The process environment with the variables of a file over it.  A directory in place of the file
holds no variables. -/
def environ (disk : Disk) (config : Config) (given : Option Text) (process : Table Text) :
    Setup (Table Text) := do
  match ← config.variablesFile given with
  | none => return process
  | some name =>
      let path := config.variablesPath name
      match (disk.findPath path).read with
      | .ok content =>
          let statements := Dotenv.read content
          (statements.filterMap statementNotice?).forM Setup.note
          return Dotenv.extend process statements
      | .error .directory => return process
      | .error _ =>
          Setup.note (.variablesMissing path)
          return process

/-- The name of the environment: the one that is given with the command, or else the one of the
settings, or else the one that the process environment holds. -/
def environmentName (config : Config) (given : Option Text) (environ : Table Text) :
    Setup Json :=
  match given.filter fun name => !name.isEmpty with
  | some name => return .str name
  | none => do
      match (← config.default? "env").filter Json.isGiven with
      | some name => return name
      | none =>
          match (Table.get? environ environmentVariable).filter fun name => !name.isEmpty with
          | some name => return .str name
          | none => return .null

/-- A time limit of the settings in whole seconds. -/
def seconds : Json → Setup Int
  | .bool value => return if value then 1 else 0
  | .int value => return value
  | .float (.infinity _) => Setup.crash .timeoutInfinite
  | .float value =>
      match value.truncate? with
      | some whole => return whole
      | none => Setup.crash .timeoutMalformed
  | .str text =>
      match Text.numeral? text with
      | some value => return value
      | none => Setup.crash .timeoutMalformed
  | _ => Setup.crash .timeoutNotScalar

/-- The time limit: the one that is given with the command, or else the one of the settings. -/
def timeout (config : Config) (given : Option Int) : Setup Int := do
  let setting ← config.default? "timeout"
  match given, setting with
  | some value, _ => return value
  | none, none | none, some .null => return defaultTimeout
  | none, some value => seconds value

end Config

end HttpScript
