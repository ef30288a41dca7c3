import Std.Time.DateTime.Timestamp
import Denary.Cli.Run

-- The program: it fetches what a run of the command line can look at, runs it, and carries out what
-- the run left. The standard input is read to its end before the program starts.

namespace Denary.Main

def bytesOf (s : String) : Bytes :=
  s.toUTF8.toList

def stringOf? (t : Bytes) : Option String :=
  String.fromUTF8? ⟨t.toArray⟩

def fetch (d : Disk) (path : Bytes) : IO Disk := do
  match stringOf? path with
  | none => return d
  | some name =>
    try
      let data ← IO.FS.readBinFile name
      return d.addFile path data.toList
    catch e =>
      match e with
      | .inappropriateType .. => return d.addDirectory path
      | _ => return d

def pathsOf (o : Cli.Options) : List Bytes :=
  [o.reportDirectory, Path.parent o.trace, o.trace] ++ o.files.take 1

def store (path data : Bytes) : IO Unit := do
  match stringOf? path, stringOf? (Path.parent path) with
  | some name, some directory =>
    try
      IO.FS.createDirAll directory
      IO.FS.writeBinFile name ⟨data.toArray⟩
    catch _ => return
  | _, _ => return

-- The number of draws that a run can ask for: two for each digit of the longest program.
def drawCount : Nat := 2 * Program.maxLength

def drawsOf : (count : Nat) → StdGen → List Nat
  | 0, _ => []
  | count + 1, g =>
    let (d, g) := randNat g 0 (0x80000000 - 1)
    d :: drawsOf count g

partial def readAll (s : IO.FS.Stream) (acc : ByteArray) : IO ByteArray := do
  let chunk ← s.read 65536
  if chunk.isEmpty then return acc else readAll s (acc ++ chunk)

end Denary.Main

open Denary in
def main (arguments : List String) : IO UInt32 := do
  let input ← IO.getStdin
  let output ← IO.getStdout
  let errors ← IO.getStderr
  let noColour := (← IO.getEnv "NO_COLOR").isSome
  let type := Main.bytesOf ((← IO.getEnv "TERM").getD "")
  let home := (← IO.getEnv "HOME").map Main.bytesOf
  let arguments := arguments.map Main.bytesOf
  let disk ← match Cli.Preferences.path? home with
    | some path => Main.fetch Disk.empty path
    | none => pure Disk.empty
  let preferences := ((Cli.Preferences.load disk home).map (·.preferences)).getD {}
  let disk ← match Cli.Options.parse preferences arguments with
    | .ok o => (Main.pathsOf o).foldlM Main.fetch disk
    | .error _ => pure disk
  let fresh ← IO.rand 1 (0x80000000 - 1)
  let clock ← Std.Time.Timestamp.now
  let surroundings : Cli.Surroundings :=
    { disk := disk
      home := home
      input := (← Main.readAll input ByteArray.empty).toList
      draws := fun seed =>
        Main.drawsOf Main.drawCount (mkStdGen (if seed = 0 then fresh else seed.toInt.natAbs))
      clock := clock.toSecondsSinceUnixEpoch.val
      terminal := { ansi := Terminal.supportsAnsi type (← output.isTty) noColour }
      colouredOutput := (← output.isTty) && !noColour && type != ascii "dumb"
      colouredErrors := (← errors.isTty) && !noColour }
  let some outcome := Cli.run surroundings arguments
    | errors.putStrLn "fatal: the preferences file has a list or mapping as a key"
      return 2
  for file in outcome.disk.allFiles do
    if !disk.allFiles.contains file then Main.store file.1 file.2
  output.write ⟨outcome.output.toArray⟩
  output.flush
  errors.write ⟨outcome.errors.toArray⟩
  errors.flush
  return outcome.exitCode.toUInt32
