import FieldFilter.Settings

namespace FieldFilter

/-- How urgent a message is. -/
inductive Level
  | critical
  | error
  | warning
  | info
  | debug
deriving DecidableEq

namespace Level

def all : List Level :=
  [.critical, .error, .warning, .info, .debug]

def name : Level → String
  | .critical => "CRITICAL"
  | .error => "ERROR"
  | .warning => "WARNING"
  | .info => "INFO"
  | .debug => "DEBUG"

def number : Level → Nat
  | .critical => 50
  | .error => 40
  | .warning => 30
  | .info => 20
  | .debug => 10

/-- The capital of a letter in a level's name. The dotless i has the plain capital I, and no other
letter outside ASCII has a capital that occurs in such a name. -/
def capital (c : Char) : Char :=
  if c = 'ı' then 'I' else c.toUpper

/-- The level that a name in any case stands for. -/
def ofName? (name : String) : Option Level :=
  all.find? (·.name == String.ofList (name.toList.map capital))

/-- The level of a name. A missing, empty or unknown name stands for information. -/
def resolve (name : Option String) : Level :=
  (name.bind ofName?).getD .info

end Level

/-- The name of a logger that is asked for without one. -/
def defaultLogger : String :=
  "metafilter.logger"

/-- The name of the logger that is asked for. -/
def loggerName (name : Option String) : String :=
  match name with
  | some s => if s.isEmpty then defaultLogger else s
  | none => defaultLogger

/-- One message that was logged. -/
structure LogRecord where
  level : Level
  logger : String
  message : String
deriving DecidableEq

/-- A record passes a threshold that is not above its level. -/
def LogRecord.passes (r : LogRecord) (threshold : Level) : Bool :=
  threshold.number ≤ r.level.number

/-- Fills the marks `%s` with the arguments in order and writes `%%` as one sign. What comes back are the
filled text and the arguments that are left. -/
def fillMarks : List Char → List String → Except TypeFault (List Char × List String)
  | '%' :: '%' :: rest, arguments =>
    (fillMarks rest arguments).map fun filled => ('%' :: filled.1, filled.2)
  | '%' :: 's' :: _, [] => .error .missingFormatArgument
  | '%' :: 's' :: rest, argument :: arguments =>
    (fillMarks rest arguments).map fun filled => (argument.toList ++ filled.1, filled.2)
  | c :: rest, arguments => (fillMarks rest arguments).map fun filled => (c :: filled.1, filled.2)
  | [], arguments => .ok ([], arguments)

/-- A message with its arguments. Without arguments it is taken literally. Every argument has to have a
mark, unless arguments may be left over. -/
def formatMessage (message : String) (arguments : List String) (mayBeLeft : Bool) :
    Except TypeFault String :=
  if arguments.isEmpty then .ok message
  else
    match fillMarks message.toList arguments with
    | .ok (filled, left) =>
      if left.isEmpty || mayBeLeft then .ok (String.ofList filled) else .error .unusedFormatArgument
    | .error e => .error e

/-- The ways to log a message: at a fixed level, or at the configured one. -/
inductive LogMethod
  | at (level : Level)
  | configured
deriving DecidableEq

def LogMethod.level (settings : Settings) : LogMethod → Level
  | .at level => level
  | .configured => Level.resolve (some settings.logLevel)

/-- The state of logging: the least number that is let through, the format of each handler, and
whether this library has set it up already. -/
structure LogSetup where
  configured : Bool
  level : Nat
  formats : List String
deriving DecidableEq

namespace LogSetup

/-- Before anything is set up warnings pass and no handler is there. -/
def initial : LogSetup :=
  ⟨false, Level.warning.number, []⟩

/-- How a handler writes a record. -/
def format : String :=
  "%(asctime)s %(levelname)s [%(name)s] %(message)s"

/-- Sets logging up once; later calls change nothing. A missing or empty level name stands for the
configured one. -/
def configure (s : LogSetup) (settings : Settings) (level : Option String) : LogSetup :=
  if s.configured then s
  else
    let name := match level with
      | some l => if l.isEmpty then settings.logLevel else l
      | none => settings.logLevel
    ⟨true, (Level.resolve (some name)).number, s.formats ++ [format]⟩

/-- Asking for a logger sets logging up first. -/
def logger (s : LogSetup) (settings : Settings) (name : Option String) : String × LogSetup :=
  (loggerName name, s.configure settings none)

end LogSetup

end FieldFilter
