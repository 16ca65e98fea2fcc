import QualifierBindings.Config.Logging

/-! Installing the log of a process. Only the first attempt installs one, and it says
so in the log that it has just installed.
-/

namespace QualifierBindings

/-- The log of a process, as far as one is installed. -/
structure ProcessLog where
  filter : Option LogFilter := none

namespace ProcessLog

def installationRecord (part : Config.LogSection) : LogRecord :=
  { level := .debug, target := "qualpoly.config", message := "tracing initialized",
    fields := [("json", .flag part.json), ("level", .display part.level),
      ("installed", .flag true)] }

def written (log : ProcessLog) (records : List LogRecord) : List LogRecord :=
  match log.filter with
  | none => []
  | some filter => records.filter filter.allows

/-- An attempt to install a log: the log afterwards, whether this attempt installed it,
and the records that it wrote. -/
def install (log : ProcessLog) (part : Config.LogSection) (environment : Option String)
    : ProcessLog × Bool × List LogRecord :=
  match log.filter with
  | some _ => (log, false, [])
  | none =>
      let installed : ProcessLog := { filter := some (part.filter environment) }
      (installed, true, installed.written [installationRecord part])

end ProcessLog

end QualifierBindings
