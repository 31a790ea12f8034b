import BuildWatch.Shell.Invocation
import BuildWatch.Toolbox.Asking
import BuildWatch.Toolbox.Awk
import BuildWatch.Toolbox.Batches
import BuildWatch.Toolbox.Blocks
import BuildWatch.Toolbox.Calendar
import BuildWatch.Toolbox.Characters
import BuildWatch.Toolbox.Comparing
import BuildWatch.Toolbox.Counting
import BuildWatch.Toolbox.Digests
import BuildWatch.Toolbox.Dumping
import BuildWatch.Toolbox.Editing
import BuildWatch.Toolbox.Fields
import BuildWatch.Toolbox.Files
import BuildWatch.Toolbox.Finding
import BuildWatch.Toolbox.Launching
import BuildWatch.Toolbox.Passing
import BuildWatch.Toolbox.Paths
import BuildWatch.Toolbox.Reckoning
import BuildWatch.Toolbox.Saying
import BuildWatch.Toolbox.Searching
import BuildWatch.Toolbox.Sorting

/-! The programs that a machine comes with. -/

namespace BuildWatch.Toolbox

open Machine

/-- Programs that read, and write what they make of it. -/
def filters : List (String × Tool) :=
  [("awk", awk), ("base64", base64), ("cat", cat), ("cksum", cksum), ("comm", comm), ("cut", cut), ("dd", dd), ("egrep", egrep),
    ("expand", expand), ("fgrep", fgrep), ("fold", fold), ("grep", grep), ("head", head), ("join", join), ("mawk", awk),
    ("md5sum", md5sum), ("nl", nl), ("od", od), ("paste", paste), ("rev", rev), ("sed", sed), ("sha1sum", sha1sum),
    ("sha224sum", sha224sum), ("sha256sum", sha256sum), ("sha384sum", sha384sum), ("sha512sum", sha512sum),
    ("sort", sortLines), ("split", split), ("tac", tac), ("tail", tail),
    ("tee", tee), ("tr", tr), ("unexpand", unexpand), ("uniq", uniq), ("wc", wc), ("yes", yes)]

/-- Programs about files and their names. -/
def fileTools : List (String × Tool) :=
  [("basename", basename), ("chmod", chmod), ("cmp", cmp), ("cp", cp), ("diff", diff), ("dirname", dirname), ("find", find),
    ("ln", ln), ("ls", ls), ("mkdir", mkdir), ("mktemp", mktemp), ("mv", mv), ("pwd", pwd), ("readlink", readlink),
    ("realpath", realpath), ("rm", rm), ("rmdir", rmdir), ("stat", stat), ("touch", touch), ("truncate", truncate),
    ("unlink", unlink), ("which", which)]

def launchers : List (String × Tool) :=
  [("env", env), ("kill", kill), ("nice", nice), ("nohup", nohup), ("setsid", setsid), ("sleep", sleep), ("stdbuf", stdbuf),
    ("timeout", timeout), ("xargs", xargs)]

/-- Programs that answer, or say what they are told to. -/
def sayers : List (String × Tool) :=
  [("[", bracket), ("arch", fixedAnswer "arch" "x86_64" 0), ("date", date), ("echo", echo), ("expr", expr), ("factor", factor),
    ("false", fun _ _ => .exit 1), ("groups", fixedAnswer "groups" "root" 0), ("hostname", fixedAnswer "hostname" "localhost" 0),
    ("id", ownIdentity), ("nproc", fixedAnswer "nproc" "1" 0), ("printenv", printenv), ("printf", printf), ("seq", seq),
    ("sync", fun _ _ => .exit 0), ("test", test), ("true", fun _ _ => .exit 0), ("tty", fixedAnswer "tty" "not a tty" 1),
    ("uname", uname), ("whoami", fixedAnswer "whoami" "root" 0)]

def tools : List (String × Tool) := filters ++ fileTools ++ launchers ++ sayers

def shells : List String := ["sh", "dash", "bash"]

def names : List String := shells ++ tools.map (·.1)

/-- Tools that say their own names, whatever they are called by. -/
def steady : List String := ["awk", "mawk", "egrep", "fgrep", "rev", "setsid"]

/-- A line of a message in which a tool goes by the name that it is called by. -/
def renamed (name called line : String) : String :=
  if line.startsWith (name ++ ": ") then called ++ String.ofList (line.toList.drop name.length)
  else if line = hint name && name != "grep" then hint called
  else line

/-- A tool that is called by a path goes by it in its messages. -/
def calledBy (name called : String) (program : Program) : Program :=
  if called = name || steady.contains name then program
  else
    program.mapCalls fun
      | .write 2 bytes => .write 2 (ByteText.toBytes ("\n".intercalate (((ByteText.ofBytes bytes).splitOn "\n").map (renamed name called))))
      | request => request

/-- The program of a name, called with a name of its own in front of its arguments. -/
def program? (name : String) (arguments : List String) (environment : Environment) : Option Program :=
  if shells.contains name then some (Shell.program arguments environment)
  else
    (tools.find? (·.1 == name)).map fun (_, tool) =>
      calledBy name (arguments.headD name) (tool arguments.tail environment)

end BuildWatch.Toolbox
