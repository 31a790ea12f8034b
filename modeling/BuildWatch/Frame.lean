import BuildWatch.Path
import BuildWatch.Json.Printer
import BuildWatch.Text.Lines

/-! The two directions of the conversation between a watch and its worker. Every message is one
line of JSON that carries its kind under `command`. -/

namespace BuildWatch

/-- What a watch asks of its worker. -/
inductive Request where
  | start (workingDirectory configFile : Path)
  | invalidate
  | stop
  deriving DecidableEq, Inhabited

/-- The errors and warnings of a finished build, as the tool words them. -/
structure Outcome where
  errors : List String := []
  warnings : List String := []
  deriving DecidableEq, Inhabited

def Outcome.isClean (outcome : Outcome) : Bool := outcome.errors.isEmpty && outcome.warnings.isEmpty

/-- What a worker tells its watch. -/
inductive Report where
  | log (items : List String)
  | logError (items : List String)
  | progress (percent : UInt8) (done : Bool)
  | failure (error : Json)
  | finished (outcome : Outcome)
  deriving Inhabited

namespace Json

def ofTexts (texts : List String) : Json := list (texts.map string)

/-- An object whose first field tells the kind of message. -/
def tagged (command : String) (fields : List (String × Json)) : Json :=
  object (("command", string command) :: fields)

end Json

def Request.toJson : Request → Json
  | start workingDirectory configFile =>
    .tagged "start" [("cwd", .string workingDirectory.text), ("configFile", .string configFile.text)]
  | invalidate => .tagged "invalidate" []
  | stop => .tagged "stop" []

def Outcome.toJson (outcome : Outcome) : Json :=
  .object [("errors", .ofTexts outcome.errors), ("warnings", .ofTexts outcome.warnings)]

namespace Report

def line (text : String) : Report := log [text]

def errorLine (text : String) : Report := logError [text]

def toJson : Report → Json
  | log items => .tagged "log" [("items", .ofTexts items)]
  | logError items => .tagged "log-error" [("items", .ofTexts items)]
  | progress percent done =>
    .tagged "compile-progress" [("percent", .ofNat percent.toNat), ("done", .boolean done)]
  | failure error => .tagged "result-error" [("error", error)]
  | finished outcome => .tagged "result-stats" [("stats", outcome.toJson)]

end Report

/-- A message as it travels, line end included. -/
def Json.toFrame (message : Json) : String := message.compact ++ "\n"

def Request.toFrame (request : Request) : String := request.toJson.toFrame

def Report.toFrame (report : Report) : String := report.toJson.toFrame

end BuildWatch
