import ExampleSuite.Machine.System
import ExampleSuite.Program

/-!
The program at the files of the working directory.

The files are read into a machine, where the examples run. A name that leads elsewhere in the
working directory stays a link, and a directory that cannot be listed stays one.
-/

namespace ExampleSuite.Main

def homePath : String := "/tmp/work"

/-- Where a name leads, in terms of the machine. -/
def target (top real : String) : Path :=
  match real.dropPrefix? top with
  | some r => Bytes.ofString (homePath ++ r.toString)
  | none => Bytes.ofString real

/-- Puts an entry of a directory on the disk, with all that is below it. -/
partial def load (top dir : String) (d : Disk) (e : IO.FS.DirEntry) : IO Disk := do
  let name := if dir.isEmpty then e.fileName else dir ++ "/" ++ e.fileName
  let p := Bytes.ofString name
  match (← e.path.symlinkMetadata).type with
  | .dir =>
    let mut d := d.makeDir Machine.home p
    let listing ← try some <$> e.path.readDir catch _ => pure none
    let some entries := listing | return d.bar Machine.home p
    for f in entries do
      d ← load top name d f
    return d
  | .file => return d.writeFile Machine.home p (← IO.FS.readBinFile e.path).toList true
  | .symlink =>
    let real ← try pure (← IO.FS.realPath e.path).toString catch _ => pure ""
    return d.makeLink Machine.home p (target top real)
  | .other => return d

def loadAll : IO Disk := do
  let top ← IO.currentDir
  let mut d := Machine.base
  for f in ← top.readDir do
    d ← load top.toString "" d f
  return d

/-- The variables that the program reads. -/
def names : List String :=
  ["FRANZ_EXAMPLES_DIR", "FRANZ_INTERPRETER", "RUST_LOG", "NO_GRAPHICS", "LC_ALL", "LC_CTYPE",
    "LANG", "TERM", "NO_COLOR"]

def env : IO Program.Env := do
  let values ← names.mapM fun k => return (k, (← IO.getEnv k).map Bytes.ofString)
  let env := Program.Env.ofVariables fun k => (values.lookup k).join
  return env.shownOn (← (← IO.getStdout).isTty)

def run (args : List String) : IO UInt32 := do
  let start := Machine.start (← loadAll) []
  let e := (Program.run Machine.system (← env) toString (args.map Bytes.ofString) start).1
  (← IO.getStdout).write ⟨e.out.toArray⟩
  for l in e.err do
    IO.eprintln l
  return e.status.toUInt32

end ExampleSuite.Main

def main (args : List String) : IO UInt32 := ExampleSuite.Main.run args
