import FormatHost.Config.Datum
import FormatHost.Text.Digit
import FormatHost.Text.UpperCase
/-!
# Log levels

A level is a number; six of them have names, and two of these have a second name. A level may be
given by number or by name; what is no level stands for the usual one.
-/
namespace FormatHost.LogLevel

/-- The level that is used when nothing else is known. -/
def usual : Int := 20

/-- The levels by name. -/
def byName : List (String × Int) := [
  ("CRITICAL", 50), ("FATAL", 50), ("ERROR", 40), ("WARN", 30), ("WARNING", 30), ("INFO", 20),
  ("DEBUG", 10), ("NOTSET", 0)]

/-- The name of a level; a level without one is shown by its number. -/
def name (level : Int) : String :=
  if level = 50 then "CRITICAL"
  else if level = 40 then "ERROR"
  else if level = 30 then "WARNING"
  else if level = 20 then "INFO"
  else if level = 10 then "DEBUG"
  else if level = 0 then "NOTSET"
  else "Level " ++ toString level

/-- The level of a name. Case and blanks around the name do not count. -/
def ofName (s : List Char) : Int :=
  let key := String.ofList (Text.upperName (Text.strip s))
  ((byName.find? fun e => e.1 == key).map Prod.snd).getD usual

/-- The level that a value stands for. -/
def resolve : Datum → Int
  | .int n => n
  | .bool b => if b then 1 else 0
  | .text t => (t.chars?.map ofName).getD usual
  | _ => usual

end FormatHost.LogLevel
