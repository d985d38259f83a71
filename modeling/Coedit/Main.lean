import Coedit.CommandLine.Program

/-!
# The executable

Gathers what a run of the program depends on, and connects the run to the standard streams.
-/

namespace Coedit.CommandLine

def addPath (t : FileTree) (path : String) : IO FileTree := do
  match ← (IO.FS.readBinFile path).toBaseIO with
  | .ok bytes => return t.place path (.file bytes.data.toList)
  | .error (.inappropriateType _ 21 _) => return t.place path .directory
  | .error (.noFileOrDirectory ..) | .error (.inappropriateType ..) => return t
  | .error e => return t.place path (.unreadable (.other (toString e)))

def readVariables (path : String) : IO Environment := do
  let values ← (PathPiece.variableNames (PathPiece.ofPath path)).mapM fun name => do
    return (name, ← IO.getEnv name)
  return fun name => (values.lookup name).join

/-- The files that a run can ask for: its configuration, the stylesheet, the documents. -/
def gather (arguments : List String) : IO Invocation := do
  let home := (← IO.getEnv "HOME").getD ""
  let workingDirectory := (FileTree.components (← IO.currentDir).toString).filter (· ≠ "")
  let start : FileTree := { workingDirectory }
  let files ← addPath (start.addDirectory workingDirectory) (Config.path home)
  let stylesheet := match Config.readFile files (Config.path home) with
    | .ok (some c) => c.fontsCss.getD ""
    | _ => ""
  let env ← readVariables stylesheet
  let files ← (expandPath env home stylesheet :: arguments).foldlM addPath files
  let number ← IO.rand 0 (Decimal.twoTo 128 - 1)
  let name := (← IO.appPath).toString
  return { name, arguments, files, env, home, fresh := MemberId.ofNumber number }

def print (transcript : Transcript) : IO Unit := do
  for printed in transcript do
    match printed.channel with
    | .output => (← IO.getStdout).putStr printed.text
    | .errors => (← IO.getStderr).putStr printed.text
  (← IO.getStdout).flush

/-- Reads up to the next line feed. -/
partial def nextLine (line : ByteArray) : IO ByteArray := do
  let byte ← (← IO.getStdin).read 1
  let line := line ++ byte
  if byte.isEmpty || byte.data == #[10] then return line else nextLine line

partial def converse (w : Workspace) : IO UInt32 := do
  print [prompt]
  let line ← nextLine ByteArray.empty
  let (transcript, stage) :=
    if line.isEmpty then finish w else continueWith line.data.toList w
  print transcript
  match stage with
  | .ended code => return code.toUInt32
  | .running w => if line.isEmpty then return 0 else converse w

end Coedit.CommandLine

def main (arguments : List String) : IO UInt32 := do
  let (transcript, stage) := Coedit.CommandLine.start (← Coedit.CommandLine.gather arguments)
  Coedit.CommandLine.print transcript
  match stage with
  | .ended code => return code.toUInt32
  | .running w => Coedit.CommandLine.converse w
