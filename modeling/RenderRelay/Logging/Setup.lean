import RenderRelay.Logging.Filter
import RenderRelay.Logging.PlainText
import RenderRelay.Text.Lines

/-!
Setting up the log of a process, and the lines it then writes.
-/

namespace RenderRelay.Logging

/-- What the log is set up with. -/
structure Config where
  /-- The filter; the environment's, if there is none here. -/
  filter : Option String
  /-- The limit for all targets where there is no filter at all. -/
  defaultLimit : Limit
  /-- Whether lines begin with the name of the thread. -/
  threadNames : Bool

/-- No filter, up to informative records, with thread names. -/
def Config.standard : Config := ⟨none, some .info, true⟩

/-- What a process logs. -/
structure Message where
  level : Level
  target : String
  text : String
  /-- The name of the thread it comes from, if that has one. -/
  thread : Option String

/-- A log that was set up. -/
structure Log where
  filter : Filter
  threadNames : Bool

/-! ### Lines -/

def padded (name : String) : String :=
  name ++ String.ofList (List.replicate (5 - name.length) ' ')

def timeMark : String := "T"

/-- A text with all lines but the first moved in. -/
def indented (text : String) : String := "\n    ".intercalate (text.splitOn "\n")

/-- What a message is written as: with thread names as it is, else with a time before it and its
later lines moved in. -/
def Log.format (log : Log) (m : Message) : String :=
  if log.threadNames then
    let thread := m.thread.getD "unnamed"
    s!"[{thread} {padded m.level.name} {m.target}] {m.text}" ++ "\n"
  else
    let target := if m.target = "" then "" else " " ++ m.target
    s!"[{timeMark} {padded m.level.name}{target}] {indented m.text}" ++ "\n"

/-- The text that a message leaves in the log. -/
def Log.write (log : Log) (m : Message) : String :=
  if log.filter.passes m.level m.target m.text then PlainText.ofText (log.format m) else ""

/-! ### Setup -/

/-- The filter of a configuration, given the one of the environment. -/
def Config.read (config : Config) (environment : Option String) :
    Filter × List Filter.Complaint :=
  match config.filter.or environment with
  | some text => Filter.read text
  | none => (.ofLimit config.defaultLimit, [])

/-- The first record of a log that was set up. -/
def initialized : Message :=
  ⟨.debug, Reporter.logging.target, "logging initialized", some "main"⟩

/-- The log of a process, if it could be set up, and the text written about the filter. Only the
first configuration counts, and it counts for nothing where another logger is in place. -/
def setUp (configs : List Config) (environment : Option String) (foreign : Bool) :
    Option Log × String :=
  match configs with
  | [] => (none, "")
  | config :: _ =>
    let (filter, complaints) := config.read environment
    let warnings := String.join (complaints.map fun c => s!"warning: {c}, ignoring it" ++ "\n")
    (if foreign then none else some ⟨filter, config.threadNames⟩, warnings)

/-- The limit in force and all lines of a process that sets its log up and then logs messages. -/
def transcript (configs : List Config) (environment : Option String) (foreign : Bool)
    (messages : List Message) : Limit × List String :=
  match setUp configs environment foreign with
  | (none, warnings) => (none, Text.lines warnings)
  | (some log, warnings) =>
    let written := String.join ((initialized :: messages).map log.write)
    (log.filter.maxLimit, Text.lines (warnings ++ written))

end RenderRelay.Logging
