/-!
# Log records

What happens is noted as records: a level, the part of the program that speaks, and a message.
-/
namespace FormatHost

/-- A message with its level and the name of the logger. -/
structure LogRecord where
  level : Int
  logger : String
  message : String
  deriving DecidableEq, Repr

namespace LogRecord

/-- Details for those who look for a fault. -/
def debug (logger message : String) : LogRecord := ⟨10, logger, message⟩

/-- The usual course of things. -/
def info (logger message : String) : LogRecord := ⟨20, logger, message⟩

/-- Something that should be looked at. -/
def warning (logger message : String) : LogRecord := ⟨30, logger, message⟩

/-- Something that failed. -/
def error (logger message : String) : LogRecord := ⟨40, logger, message⟩

end LogRecord

end FormatHost
