import BindingRepair.Text.Decimal

namespace BindingRepair.Log

def debug : Int := 10

def info : Int := 20

def warning : Int := 30

def levelName (level : Int) : String :=
  if level = 0 then "NOTSET"
  else if level = 10 then "DEBUG"
  else if level = 20 then "INFO"
  else if level = 30 then "WARNING"
  else if level = 40 then "ERROR"
  else if level = 50 then "CRITICAL"
  else "Level " ++ Text.decimal level

def namedLevels : List (String × Int) :=
  [("NOTSET", 0), ("DEBUG", 10), ("INFO", 20), ("WARN", 30), ("WARNING", 30), ("ERROR", 40),
    ("CRITICAL", 50), ("FATAL", 50)]

/-- The capital letters of a character that has some without accents. No other character occurs in
the name of a level. -/
def capital (c : Char) : List Char :=
  if c.isLower then [c.toUpper]
  else if c = 'ß' then ['S', 'S']
  else if c = 'ı' then ['I']
  else if c = 'ſ' then ['S']
  else if c = 'ﬀ' then ['F', 'F']
  else if c = 'ﬁ' then ['F', 'I']
  else if c = 'ﬂ' then ['F', 'L']
  else if c = 'ﬃ' then ['F', 'F', 'I']
  else if c = 'ﬄ' then ['F', 'F', 'L']
  else if c = 'ﬅ' || c = 'ﬆ' then ['S', 'T']
  else [c]

/-- Why a name cannot choose a threshold: it stands for a layout of records, not for a level. -/
inductive LevelError
  | layoutText (text : String)
  | layoutTable
  deriving DecidableEq, Repr

def LevelError.message : LevelError → String
  | layoutText text => "Unknown level: '" ++ text ++ "'"
  | layoutTable => "Level not an integer or a valid string"

/-- The threshold that a name asks for, in whatever case. Without a name, or with one that says
nothing, information is written. -/
def threshold (name : Option String) : Except LevelError Int :=
  match name with
  | none => .ok info
  | some name =>
    let capitals := String.ofList (name.toList.flatMap capital)
    if capitals = "BASIC_FORMAT" then
      .error (.layoutText "%(levelname)s:%(name)s:%(message)s")
    else if capitals = "_STYLES" then .error .layoutTable
    else .ok ((namedLevels.lookup capitals).getD info)

def isWritten (threshold level : Int) : Bool :=
  0 < level && threshold ≤ level

end BindingRepair.Log
