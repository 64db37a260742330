/-!
What the engine reports about its own work.
-/

namespace RenderRelay

/-- How grave a record is, the gravest first. -/
inductive Level where
  | error
  | warn
  | info
  | debug
  | trace
  deriving DecidableEq

def Level.name : Level → String
  | error => "ERROR"
  | warn => "WARN"
  | info => "INFO"
  | debug => "DEBUG"
  | trace => "TRACE"

/-- The part of the engine that a record comes from. -/
inductive Reporter where
  | headless
  | headlessSurface
  | context
  | thread
  | proxy
  | sweep
  | logging
  deriving DecidableEq

def Reporter.target : Reporter → String
  | headless => "tessera_engine::backend::headless"
  | headlessSurface => "tessera_engine::backend::headless::surface"
  | context => "tessera_engine::thread::context"
  | thread => "tessera_engine::thread"
  | proxy => "tessera_engine::proxy"
  | sweep => "tessera_engine::sweep"
  | logging => "tessera_engine::logging::init"

/-- One report. -/
structure LogRecord where
  level : Level
  reporter : Reporter
  text : String
  deriving DecidableEq

def LogRecord.line (r : LogRecord) : String := s!"{r.level.name} {r.reporter.target} {r.text}"

end RenderRelay
