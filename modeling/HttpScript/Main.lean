import HttpScript.CommandLine.Command
import Std.Time.DateTime.Timestamp

/-!
# The program

Reads the arguments, the files and the process environment, runs the command and writes what it
leaves behind.  No network is at hand here: every call is answered as a connection that failed.
-/

namespace HttpScript.Program

/-- The names that lead from the root to the working directory. -/
def readWorkplace : IO (List Text) :=
  return (Path.ofText (← IO.currentDir).toString.toList).names

/-- A disk that holds what paths lead to as well. -/
def readPaths (disk : Disk) (paths : List Text) : IO Disk := do
  let here ← IO.currentDir
  let mut disk := disk
  for text in paths do
    let path := here / String.ofList text
    let place := (Path.ofText text).placeFrom disk.workplace
    if ← path.isDir then
      disk := { disk with directories := place :: disk.directories }
    else if ← path.pathExists then
      disk := { disk with files := (place, (← IO.FS.readFile path).toList) :: disk.files }
  return disk

/-- All that the command may read. -/
def readDisk (arguments : List Text) : IO Disk := do
  let workplace ← readWorkplace
  let disk : Disk := { workplace, files := [], directories := [] }
  match Options.read arguments with
  | .error _ => return disk
  | .ok options =>
      let disk ← readPaths disk (Command.pathsRead workplace options)
      readPaths disk (Command.variablesPath? disk options).toList

/-- The variables of the process environment. -/
def readProcess : IO (Table Text) := do
  let content ← IO.FS.readFile "/proc/self/environ"
  return Table.ofEntries
    ((Text.splitAll (Char.ofNat 0) content.toList).filterMap (Text.splitAt? '='))

/-- The present time. -/
def readClock : IO DateTime := do
  let nanoseconds := (← Std.Time.Timestamp.now).toNanosecondsSinceUnixEpoch.val
  let microsecond := (nanoseconds % 1000000000 / 1000).toNat
  let epoch : DateTime := ⟨⟨1970, 1, 1⟩, 0, 0, 0, microsecond, some 0⟩
  return (epoch.addSeconds (nanoseconds / 1000000000)).toOption.getD epoch

/-- The transport without a network. -/
def offline : Transport :=
  { answers := [], lastResort := .wire (.failure (.connection "no network")) }

end HttpScript.Program

open HttpScript in
/-- Runs the command with the arguments of the process. -/
def main (arguments : List String) : IO UInt32 := do
  let arguments := arguments.map String.toList
  let disk ← Program.readDisk arguments
  let process ← Program.readProcess
  let sources : Sources :=
    { environ := process, clock := ← Program.readClock, localOffset := 0, draw := .middle
      issued := 0 }
  let result := Command.run arguments disk process sources Program.offline
  IO.print (String.ofList result.printed)
  for line in result.errors do
    IO.eprintln (String.ofList line)
  return result.ending.status.toUInt32
