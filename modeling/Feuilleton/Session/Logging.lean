/-!
# Loggers

A logger gets its handlers when it is set up first. Setting it up again changes only the level,
its own and that of every handler.
-/

namespace Feuilleton

inductive LogHandler
  | console
  | file
  deriving DecidableEq, Repr

structure Logger where
  level : Int
  handlers : List LogHandler
  deriving DecidableEq, Repr

/-- A level is given by number or by name. -/
inductive LogLevel
  | number (value : Int)
  | name (name : String)
  deriving DecidableEq, Repr

namespace LogLevel

def info : Int := 20

def levels : List (String × Int) := [
  ("CRITICAL", 50),
  ("FATAL", 50),
  ("ERROR", 40),
  ("WARN", 30),
  ("WARNING", 30),
  ("INFO", info),
  ("DEBUG", 10),
  ("NOTSET", 0)]

/-- Uppercase as far as it can lead to a name of a level. -/
def upperChar (c : Char) : Char :=
  if c = 'ı' then 'I' else if c = 'ſ' then 'S' else c.toUpper

/-- An unknown name stands for the level of information. -/
def value : LogLevel → Int
  | number n => n
  | name s => (levels.lookup (s.map upperChar)).getD info

end LogLevel

namespace Logger

def setUp (known : Option Logger) (level : LogLevel) (toFile : Bool) : Logger where
  level := level.value
  handlers := match known with
    | some logger => logger.handlers
    | none => .console :: (if toFile then [.file] else [])

/-- The name of the logger of one part of the library. -/
def childName (part : String) : String :=
  "serial_parser." ++ part

end Logger

end Feuilleton
