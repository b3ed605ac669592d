import ConnectTokens.Bytes
import ConnectTokens.FaultKind
import ConnectTokens.Text.Quoted

/-!
# Reading files

Files are known by what reading them gives.  A name that holds a zero character
is never looked up.

## Main Definitions

* `FileFault`, `FileFault.message`, `FileFault.shown`: why a file is not read, as
  a message and in full.
* `FileSystem`, `FileSystem.read`: the contents of files by their names.
* `FileReader`: the reading of a file as a step of a program.

## Design Notes

What reads files is written once, for any monad in which reading one is a step.  A
program runs it on the files of the system; over a `FileSystem`, in `Id`, it is a
function.
-/

namespace ConnectTokens

/-- Why a file is not read. -/
inductive FileFault where
  /-- The system gives this number and text. -/
  | system (code : Nat) (kind : FaultKind) (text : String)
  /-- The name of the file holds a zero character. -/
  | zeroInName
  /-- A fault of which only the kind is known. -/
  | ofKind (kind : FaultKind)
deriving DecidableEq, Repr

namespace FileFault

/-- There is no such file. -/
def missing : FileFault := system 2 .notFound "No such file or directory"

/-- The name is that of a directory. -/
def isDirectory : FileFault := system 21 .isADirectory "Is a directory"

/-- The name leads through a file that is no directory. -/
def notDirectory : FileFault := system 20 .notADirectory "Not a directory"

/-- The words for a zero character in a name. -/
def zeroText : String := "file name contained an unexpected NUL byte"

/-- The message of a fault. -/
def message : FileFault → String
  | system code _ text => s!"{text} (os error {code})"
  | zeroInName => zeroText
  | ofKind kind => kind.text

/-- A fault in full. -/
def shown : FileFault → String
  | system code kind text =>
    s!"Os \x7b code: {code}, kind: {kind.name}, message: {Text.quoted text} \x7d"
  | zeroInName =>
    s!"Error \x7b kind: InvalidInput, message: {Text.quoted zeroText} \x7d"
  | ofKind kind => s!"Kind({kind.name})"

end FileFault

/-- The contents of files by their names. -/
abbrev FileSystem := String → Except FileFault Bytes

/-- The content of the file with a name. -/
def FileSystem.read (files : FileSystem) (name : String) : Except FileFault Bytes :=
  if '\x00' ∈ name.toList then .error .zeroInName else files name

/-- The reading of a file, by its name, as a step of a program. -/
abbrev FileReader (m : Type → Type) := String → m (Except FileFault Bytes)

end ConnectTokens
