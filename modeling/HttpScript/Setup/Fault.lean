import HttpScript.Setup.Notice

/-!
# Faults of preparation

Before a request is run, settings and environments are read.  What is wrong with them is either
reported as an error or ends the command on the spot.
-/

namespace HttpScript

/-- What ends a command on the spot. -/
inductive Crash
  /-- A run of requests or the text of a report broke down. -/
  | breakdown (breakdown : Breakdown)
  /-- A pattern in a script has a number that is too large. -/
  | patternOverflow
  /-- The settings, or the defaults in them, are no mapping. -/
  | settingsNotMapping
  /-- A directory stands where a file is to be read. -/
  | directoryRead
  /-- The name of a file in the settings is no text. -/
  | fileNameNotText
  /-- The name of an environment in the settings is a list or a mapping. -/
  | nameNotScalar
  /-- The time limit in the settings is a list or a mapping. -/
  | timeoutNotScalar
  /-- The time limit in the settings is a text that is no whole number, or no number at all. -/
  | timeoutMalformed
  | timeoutInfinite

/-- What is reported as an error of the preparation. -/
inductive SetupProblem
  /-- A settings file cannot be read as such. -/
  | badConfig (path : Path)
  /-- A file of environments with some content is not JSON. -/
  | badEnvironments (path : Path) (content : Text) (fault : Json.ReadFault)
  | environmentsNotObject (path : Path)
  | environmentNotObject (name : Json)

/-- The wording of a problem. -/
def SetupProblem.message : SetupProblem → Text
  | .badConfig path => "invalid config file " ++ path.toText
  | .badEnvironments path content fault =>
      "invalid environment file " ++ path.toText ++ ": " ++ fault.message content
  | .environmentsNotObject path =>
      "environment file " ++ path.toText ++ " must hold a JSON object"
  | .environmentNotObject name =>
      "environment " ++ Notice.shownName name ++ " must be a JSON object"

/-- Anything that goes wrong in the preparation. -/
inductive SetupFault
  | problem (problem : SetupProblem)
  | crash (crash : Crash)

/-- A step of the preparation, with the notices that it takes whether it succeeds or not. -/
abbrev Setup (α : Type) := ExceptT SetupFault (StateM (List Notice)) α

namespace Setup

/-- Takes a notice. -/
def note (notice : Notice) : Setup Unit :=
  modify (· ++ [notice])

/-- Ends with a problem. -/
def fail {α : Type} (problem : SetupProblem) : Setup α :=
  throw (.problem problem)

/-- Ends on the spot. -/
def crash {α : Type} (crash : Crash) : Setup α :=
  throw (.crash crash)

end Setup

end HttpScript
