import TolerantValidation.Log.Entry
import TolerantValidation.Text.Utf8

/-!
The chain of a logger: the steps by which the named values of an entry come together. The arguments
of a call are in its event by then, and how a line is written is no part of the chain.
-/

namespace TolerantValidation.Log

/-- What an entry finds in the running program: the time, the text of the calls that led to it, the
text for an error it asks to be shown, if that is one, and which lines the stream can take. -/
structure Circumstances where
  timestamp : String
  stack : String
  exceptionText : Value → Option String
  encodes : String → Bool

inductive Processor where
  | mergeContext
  | addLevel
  | addLogger
  | addTime
  | renderStack
  | decodeTexts
  | addService
  | renderException
deriving DecidableEq

abbrev Chain := List Processor

def service : String := "resilient-schema"

def decodedValue : Value → Value
  | .bytes octets => .text (String.ofList (Text.utf8Characters octets))
  | value => value

/-- What a step makes of the named values. A name that has been given keeps its place, and against
the context and the service also its value. The fields that ask for the calls or an error give way
to their texts. -/
def Processor.apply (context : Named Value) (around : Circumstances) (entry : Entry)
    (fields : Named Value) : Processor → Named Value
  | .mergeContext => context.foldl (fun fields field => Named.add field.1 field.2 fields) fields
  | .addLevel => Named.set "level" (.text entry.level.name) fields
  | .addLogger => Named.set "logger" (.text entry.logger) fields
  | .addTime => Named.set "timestamp" (.text around.timestamp) fields
  | .renderStack =>
    let others := Named.without ["stack_info"] fields
    match (fields.lookup "stack_info").map Value.truthy with
    | some true => Named.set "stack" (.text around.stack) others
    | _ => others
  | .decodeTexts => fields.map fun field => (field.1, decodedValue field.2)
  | .addService => Named.add "service" (.text service) fields
  | .renderException =>
    let others := Named.without ["exc_info"] fields
    match (fields.lookup "exc_info").bind around.exceptionText with
    | some shown => Named.set "exception" (.text shown) others
    | none => others

def Chain.fields (chain : Chain) (context : Named Value) (around : Circumstances) (entry : Entry) :
    Named Value :=
  chain.foldl (Processor.apply context around entry)
    (entry.fields ++ [("event", .text entry.event)])

def sharedChain : Chain :=
  [.mergeContext, .addLevel, .addLogger, .addTime, .renderStack, .decodeTexts, .addService]

def loggerChain : Chain := sharedChain ++ [.renderException]

end TolerantValidation.Log
