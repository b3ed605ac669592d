import ConnectTokens.CommandLine.SigningKey
import ConnectTokens.Matchmaker.Startup

/-!
# The command line

Sets up a matchmaker from the variables of the process and the files that they
name, writes what comes of it, and ends with the exit code of the report.

## Main Definitions

* `main`: the program.

## Design Notes

What the program decides is in `Startup`.  Here the variables are looked up, and a
file is read at the step that asks for it.
-/

namespace ConnectTokens.CommandLine

/-- The kind of fault that the system gives a number for, of those that the reading of
a file ends in. -/
def kindOf : Nat → FaultKind
  | 1 | 13 => .permissionDenied
  | 2 => .notFound
  | 12 => .outOfMemory
  | 20 => .notADirectory
  | 21 => .isADirectory
  | 36 => .invalidFilename
  | 40 => .filesystemLoop
  | 116 => .staleNetworkFileHandle
  | _ => .uncategorized

/-- A fault with its number and its text. -/
def systemFault (code : UInt32) (text : String) : FileFault :=
  .system code.toNat (kindOf code.toNat) text

/-- The fault that the system reports for a file. -/
def faultOf : IO.Error → FileFault
  | .noFileOrDirectory _ code text => systemFault code text
  | .inappropriateType _ code text => systemFault code text
  | .permissionDenied _ code text => systemFault code text
  | .invalidArgument _ code text => systemFault code text
  | .resourceExhausted _ code text => systemFault code text
  | .hardwareFault code text => systemFault code text
  | .otherError code text => systemFault code text
  | _ => .ofKind .other

/-- What reading a file gives. -/
def readFile : FileReader IO := fun name => do
  try
    let content ← IO.FS.readBinFile name
    return .ok content.toList
  catch e =>
    return .error (faultOf e)

/-- The variables that are set, with their texts. -/
def readVariables : IO (List (Variable × String)) :=
  Variable.all.filterMapM fun v => do
    return (← IO.getEnv v.name).map fun text => (v, text)

/-- Sets up a matchmaker, writes what comes of it, and gives the exit code. -/
def run : IO UInt32 := do
  let given ← readVariables
  let outcome ← Startup.startBy SigningKey.check readFile fun v => given.lookup v
  let report := Startup.report outcome
  for line in report.lines do
    IO.eprintln line
  return UInt32.ofNat (report.exitCode.getD 0)

end ConnectTokens.CommandLine

/-- The program. -/
def main : IO UInt32 := ConnectTokens.CommandLine.run
