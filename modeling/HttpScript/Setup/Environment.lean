import HttpScript.Files.Disk
import HttpScript.Json.Merge
import HttpScript.Json.Writer
import HttpScript.Setup.Fault

/-!
# Environments

Next to a script lies a file with one object for each environment, and perhaps a second file, of the
user, which is laid over the first.  The environment of a name is a flat table: values that are not
text are given as JSON.
-/

namespace HttpScript.Environment

/-- The file of environments. -/
def fileName : Text :=
  "http-client.env.json"

/-- The file of environments of the user. -/
def userFileName : Text :=
  "http-client.env.json.user"

/-- The environments of one file; a file that is missing has none. -/
def loadFile (disk : Disk) (path : Path) : Setup (List (Text × Json)) :=
  match (disk.findPath path).read with
  | .error .directory => Setup.crash .directoryRead
  | .error _ => return []
  | .ok content =>
      match Json.read content with
      | .error fault => Setup.fail (.badEnvironments path content fault)
      | .ok (.object fields) => do
          Setup.note (.environmentsLoaded path)
          return fields
      | .ok _ => Setup.fail (.environmentsNotObject path)

/-- The environments of a directory. -/
def loadAll (disk : Disk) (directory : Path) : Setup (List (Text × Json)) := do
  let base ← loadFile disk (directory.join (Path.ofText fileName))
  let user ← loadFile disk (directory.join (Path.ofText userFileName))
  return Json.mergeFields base user

/-- The values of an environment as texts. -/
def flatten (fields : List (Text × Json)) : Table Text :=
  fields.map fun (name, value) =>
    match value with
    | .str text => (name, text)
    | value => (name, value.write)

/-- What a name stands for among environments.  Only texts are names; other single values find
nothing, lists and mappings cannot be looked up. -/
def lookUp (environments : List (Text × Json)) : Json → Setup (Option Json)
  | .str name => return Table.get? environments name
  | .list _ | .object _ => Setup.crash .nameNotScalar
  | _ => return none

/-- The environment of a name in a directory.  A name that is not given stands for the empty
environment, and so does one that is unknown or `null`. -/
def load (disk : Disk) (directory : Path) (name : Json) : Setup (Table Text) :=
  if !name.isGiven then return []
  else do
    let environments ← loadAll disk directory
    match ← lookUp environments name with
    | none | some .null => do
        Setup.note (.environmentUnknown name directory)
        return []
    | some (.object fields) => return flatten fields
    | some _ => Setup.fail (.environmentNotObject name)

end HttpScript.Environment
