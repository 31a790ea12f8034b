import BuildWatch.Text.Regex.Reader

/-! Scripts of patterns and actions: what is done with which records of a text. -/

namespace BuildWatch.Toolbox.Awk

inductive Arith where
  | add
  | subtract
  | multiply
  | divide
  | remainder
  | power
  deriving DecidableEq, Inhabited

inductive Relation where
  | less
  | lessOrEqual
  | equal
  | unequal
  | greater
  | greaterOrEqual
  deriving DecidableEq, Inhabited

/-- Functions that every script has. -/
inductive Primitive where
  | length
  | substring
  | index
  | split
  | replaceFirst
  | replaceAll
  | matches
  | format
  | lower
  | upper
  | whole
  | root
  | exponential
  | logarithm
  | sine
  | cosine
  | arcTangent
  | random
  | seed
  | system
  | close
  | flush
  deriving DecidableEq, Inhabited

inductive Expr where
  | number (value : Float)
  | text (text : String)
  | regex (regex : Regex)
  | name (name : String)
  | item (table : String) (keys : List Expr)
  | field (place : Expr)
  | assign (operation : Option Arith) (target value : Expr)
  /-- Counts a variable up or down, and is worth what it was before or is afterwards. -/
  | count (target : Expr) (up before : Bool)
  | arith (operation : Arith) (first second : Expr)
  | negate (value : Expr)
  | plus (value : Expr)
  | opposite (value : Expr)
  | compare (relation : Relation) (first second : Expr)
  | fits (negated : Bool) (text pattern : Expr)
  | contains (keys : List Expr) (table : String)
  | both (first second : Expr)
  | either (first second : Expr)
  | choose (condition first second : Expr)
  | join (first second : Expr)
  | call (name : String) (arguments : List Expr)
  | primitive (function : Primitive) (arguments : List Expr)
  | readNext (target : Option Expr)
  | readFile (target : Option Expr) (path : Expr)
  | readCommand (command : Expr) (target : Option Expr)
  /-- A value in parentheses. -/
  | grouped (value : Expr)
  /-- Several values in parentheses. -/
  | tuple (values : List Expr)
  deriving Inhabited

/-- Where output goes. -/
inductive Channel where
  | file
  | appended
  | command
  deriving DecidableEq, Inhabited

inductive Statement where
  | evaluate (value : Expr)
  | print (values : List Expr) (channel : Option (Channel × Expr))
  | printFormat (values : List Expr) (channel : Option (Channel × Expr))
  | ifElse (condition : Expr) (first : Statement) (second : Option Statement)
  | whileTrue (condition : Expr) (body : Statement)
  | doWhile (body : Statement) (condition : Expr)
  | forLoop (start : Option Statement) (condition : Option Expr) (step : Option Statement) (body : Statement)
  | forKeys (name table : String) (body : Statement)
  | block (statements : List Statement)
  | nextRecord
  | nextFile
  | leave (code : Option Expr)
  | answer (value : Option Expr)
  | stop
  | again
  | forget (table : String) (keys : List Expr)
  deriving Inhabited

/-- When an action is carried out. -/
inductive When where
  | atStart
  | atEnd
  | always
  | onTruth (condition : Expr)
  | between (first last : Expr)
  deriving Inhabited

structure Rule where
  when : When
  /-- Without an action, the record is shown. -/
  action : Option Statement
  deriving Inhabited

structure Function where
  name : String
  parameters : List String
  body : Statement
  deriving Inhabited

structure Script where
  rules : List Rule := []
  functions : List Function := []
  deriving Inhabited

/-- What is wrong with a script, and in which line. -/
structure Fault where
  line : Nat
  text : String
  deriving Inhabited

end BuildWatch.Toolbox.Awk
