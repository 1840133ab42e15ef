import ExampleSuite.Disk

/-!
The machine before anything is put on it: its directories, devices and tools, and the
directory that work is done in.
-/

namespace ExampleSuite.Machine

def names (p : String) : Place := Path.steps (Bytes.ofString p)

/-- The directory that work is done in. -/
def home : Place := names "/tmp/work"

def baseDirs : List String := ["/bin", "/usr", "/usr/bin", "/dev", "/tmp", "/tmp/work"]

/-- The tools of the machine. -/
def toolNames : List String :=
  ["[", "basename", "cat", "chmod", "cp", "dash", "dirname", "echo", "env", "expr", "false",
    "grep", "head", "kill", "ln", "ls", "mkdir", "mv", "nice", "nohup", "printf", "pwd", "rm",
    "rmdir", "seq", "setsid", "sh", "sleep", "sort", "tail", "tee", "test", "touch", "tr", "true",
    "uname", "uniq", "wc", "which", "yes"]

/-- A tool has its place in one directory and is linked from the other. -/
def addTool (d : Disk) (name : String) : Disk :=
  let own := "/usr/bin/" ++ name
  let d := d.newFile (names own) ⟨[], true, some name⟩
  { d with tree := d.tree.put (names ("/bin/" ++ name)) (.link (Bytes.ofString own)) }

def addDevice (d : Disk) (name : String) (v : Device) : Disk :=
  { d with tree := d.tree.put (names name) (.device v) }

def base : Disk :=
  let dirs : Disk := baseDirs.foldl (fun d s => d.newDir (names s)) .empty
  toolNames.foldl addTool (addDevice (addDevice dirs "/dev/null" .null) "/dev/zero" .zero)

end ExampleSuite.Machine
