/-! Signals by number and by name. -/

namespace BuildWatch.Machine.Signal

def hangUp : Nat := 1

def kill : Nat := 9

def brokenPipe : Nat := 13

def resume : Nat := 18

def suspend : Nat := 19

def names : List (String × Nat) :=
  [("HUP", 1), ("INT", 2), ("QUIT", 3), ("ILL", 4), ("TRAP", 5), ("ABRT", 6), ("BUS", 7), ("FPE", 8), ("KILL", 9),
    ("USR1", 10), ("SEGV", 11), ("USR2", 12), ("PIPE", 13), ("ALRM", 14), ("TERM", 15), ("STKFLT", 16), ("CHLD", 17),
    ("CONT", 18), ("STOP", 19), ("TSTP", 20), ("TTIN", 21), ("TTOU", 22), ("URG", 23), ("XCPU", 24), ("XFSZ", 25),
    ("VTALRM", 26), ("PROF", 27), ("WINCH", 28), ("POLL", 29), ("PWR", 30), ("SYS", 31)]

/-- Signals from here on have no names of their own. -/
def limit : Nat := 65

/-- The names that signals without names of their own go by. -/
def spareNames : List (String × Nat) :=
  [("32", 32), ("33", 33), ("RTMIN", 34)] ++
    (List.range 15).map (fun offset => (s!"RTMIN+{offset + 1}", 35 + offset)) ++
    (List.range 14).map (fun offset => (s!"RTMAX-{14 - offset}", 50 + offset)) ++ [("RTMAX", 64)]

/-- A signal that is given by its name. -/
def named? (text : String) : Option Nat := ((names ++ spareNames).find? (·.1 == text.toUpper)).map (·.2)

/-- A signal that is given by its name or by its number. -/
def parse? (text : String) : Option Nat :=
  if !text.isEmpty && text.all Char.isDigit then
    let number := text.toList.foldl (fun value c => value * 10 + (c.toNat - '0'.toNat)) 0
    if number < limit then some number else none
  else named? text

/-- Like `parse?`, and names may have their usual beginning. -/
def parseLong? (text : String) : Option Nat :=
  if text.toUpper.startsWith "SIG" then named? (String.ofList (text.toList.drop 3)) else parse? text

def name (number : Nat) : String :=
  (((names ++ spareNames).find? (·.2 == number)).map (·.1)).getD (toString number)

/-- Signals that only inform a process, unless it has asked for them. -/
def isHarmless (number : Nat) : Bool := number = 17 || number = 23 || number = 28 || number = resume

def canBeIgnored (number : Nat) : Bool := number != kill && number != suspend

/-- What a shell says about a command that a signal has ended. An interrupt and a broken pipe
go without saying. -/
def epitaph? : Nat → Option String
  | 1 => some "Hangup"
  | 3 => some "Quit"
  | 4 => some "Illegal instruction"
  | 6 => some "Aborted"
  | 8 => some "Floating point exception"
  | 9 => some "Killed"
  | 10 => some "User defined signal 1"
  | 11 => some "Segmentation fault"
  | 12 => some "User defined signal 2"
  | 14 => some "Alarm clock"
  | 15 => some "Terminated"
  | _ => none

end BuildWatch.Machine.Signal
