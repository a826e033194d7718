/-!
# Log levels
-/

namespace EmailStudio

/-- How much an entry of the log matters. -/
inductive LogLevel where
  | debug
  | info
  | warning
  | error
  | critical
deriving DecidableEq, Repr

namespace LogLevel

def all : List LogLevel := [debug, info, warning, error, critical]

/-- The place of a level in the order of weight. -/
def rank : LogLevel → Nat
  | debug => 10
  | info => 20
  | warning => 30
  | error => 40
  | critical => 50

/-- The name of a level in an entry. -/
def name : LogLevel → String
  | debug => "debug"
  | info => "info"
  | warning => "warning"
  | error => "error"
  | critical => "critical"

/-- The name of a level in settings. -/
def settingName (level : LogLevel) : String :=
  level.name.map Char.toUpper

def ofSettingName? (s : String) : Option LogLevel :=
  all.find? (·.settingName = s)

end LogLevel

end EmailStudio
