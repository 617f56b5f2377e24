/-!
Log records: what the host reports while it works. A record has a level, the
part of the host it comes from, and a text.
-/
namespace PluginHost

/-- How serious a record is. -/
inductive Level where
  | error
  | warn
  | info
  | debug
  deriving DecidableEq, Repr

def Level.name : Level → String
  | .error => "ERROR"
  | .warn => "WARN"
  | .info => "INFO"
  | .debug => "DEBUG"

/-- One report. -/
structure LogRecord where
  level : Level
  /-- Where the record comes from; empty for the host's own start-up. -/
  target : String
  text : String
  deriving DecidableEq, Repr

/-- Target of everything that concerns plugins. -/
def pluginTarget : String := "mcdr::plugin"

/-- Target of the worker pool. -/
def executorTarget : String := "mcdr::executor"

/-- A record about plugins. -/
def pluginLog (level : Level) (text : String) : LogRecord :=
  ⟨level, pluginTarget, text⟩

/-- A record of the worker pool. -/
def executorLog (level : Level) (text : String) : LogRecord :=
  ⟨level, executorTarget, text⟩

end PluginHost
