import TolerantValidation.Fault
import TolerantValidation.Log.Console
import TolerantValidation.Log.Processor
import TolerantValidation.Settings
import TolerantValidation.Text.UpperCase

/-!
The setup of logging: where entries are written, how, and which of them. An entry is written if its
level reaches the threshold of its logger. A configuration takes the place of the one before it, but
a logger may keep the chain of processors that it was first used with.
-/

namespace TolerantValidation.Log

inductive Style where
  | json
  | console
deriving DecidableEq

def recordFields : List String := ["_record", "_from_structlog"]

def Style.line (style : Style) (timestamp : String) (entry : Entry) (fields : Named Value) :
    Except LineFault String :=
  let shown := Named.without recordFields fields
  match style with
  | .json => jsonLine shown
  | .console => Console.line timestamp entry shown

structure Configuration where
  level : String
  style : Style
  trace : Bool

def Configuration.traceThreshold (configuration : Configuration) : Nat :=
  if configuration.trace then Level.debug.severity else Level.warning.severity

structure Request where
  level : Option String := none
  json : Option Bool := none
  trace : Option Bool := none

def Request.resolve (settings : Settings) (request : Request) : Configuration :=
  { level := request.level.getD settings.level
    style := if request.json.getD settings.json then .json else .console
    trace := request.trace.getD settings.trace }

def severities : List (String × Nat) :=
  [("CRITICAL", 50), ("FATAL", 50), ("ERROR", 40), ("WARNING", 30), ("WARN", 30), ("INFO", 20),
    ("DEBUG", 10), ("NOTSET", 0)]

def basicFormat : String := "%(levelname)s:%(name)s:%(message)s"

def stylesNotation : String :=
  "\x7b'%': (<class 'logging.PercentStyle'>, '%(levelname)s:%(name)s:%(message)s'), " ++
    "'\x7b': (<class 'logging.StrFormatStyle'>, " ++
    "'\x7blevelname\x7d:\x7bname\x7d:\x7bmessage\x7d'), " ++
    "'$': (<class 'logging.StringTemplateStyle'>, " ++
    "'$\x7blevelname\x7d:$\x7bname\x7d:$\x7bmessage\x7d')\x7d"

/-- The severity that a name stands for, in any letter case. Unknown names stand for that of an
information; the names of layouts are faults. -/
def severityOf (name : String) : Except Fault Nat :=
  let upper := Text.upperCase name
  if upper = "BASIC_FORMAT" then .error (.unknownLevel (String.ofList (Text.quoted basicFormat)))
  else if upper = "_STYLES" then .error (.levelType stylesNotation)
  else .ok ((severities.lookup upper).getD Level.info.severity)

structure Setup where
  rootThreshold : Nat := Level.warning.severity
  traceThreshold : Option Nat := none
  outputs : List Style := []
  chain : Chain := []
  keepsChains : Bool := false

namespace Setup

/-- The setup after a configuration, with one output. The thresholds come last, and are left as they
were if the level is at fault. -/
def configure (setup : Setup) (configuration : Configuration) : Setup :=
  let opened :=
    { setup with outputs := [configuration.style], chain := loggerChain, keepsChains := true }
  match severityOf configuration.level with
  | .error _ => opened
  | .ok threshold =>
    { opened with
      rootThreshold := threshold, traceThreshold := some configuration.traceThreshold }

def isTrace (logger : String) : Bool :=
  logger = traceLogger || (traceLogger ++ ".").toList.isPrefixOf logger.toList

def threshold (setup : Setup) (logger : String) : Nat :=
  if isTrace logger then setup.traceThreshold.getD setup.rootThreshold else setup.rootThreshold

def admits (setup : Setup) (entry : Entry) : Bool :=
  setup.threshold entry.logger ≤ entry.level.severity

/-- What is written for an entry with these values, by each output. A line that cannot be shown, or
that the stream cannot take, is left out. -/
def write (setup : Setup) (around : Circumstances) (entry : Entry) (fields : Named Value) :
    Except Fault (List String) :=
  if setup.admits entry then
    setup.outputs.foldrM (fun style written =>
      match style.line around.timestamp entry fields with
      | .ok line => .ok (if around.encodes line then line :: written else written)
      | .error .notShown => .ok written
      | .error .tooDeep => .error (.text .tooDeep)) []
  else .ok []

end Setup
end TolerantValidation.Log
