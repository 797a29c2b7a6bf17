import QuadMosaic.Json.Basic

/-!
# Log records
-/

namespace QuadMosaic

/-- A line of the log. -/
structure LogRecord where
  /-- How serious the event is. -/
  level : Int
  /-- The part of the program that speaks. -/
  logger : String
  message : String
  /-- Further facts about the event. -/
  extra : Fields := []

namespace LogRecord

/-- The level of warnings. -/
def warningLevel : Int := 30

/-- The level of errors. -/
def errorLevel : Int := 40

/-- A warning. -/
def warning (logger message : String) (extra : Fields := []) : LogRecord :=
  ⟨warningLevel, logger, message, extra⟩

/-- A warning about one image. -/
def warningAbout (logger message source : String) : LogRecord :=
  warning logger message [("source", .str source)]

/-- An error. -/
def error (logger message : String) : LogRecord := ⟨errorLevel, logger, message, []⟩

end LogRecord

end QuadMosaic
