import TolerantValidation.Log.Call
import TolerantValidation.Log.Setup

/-!
Sessions of logging: the setup, the values that are bound to all entries, and the chains of the
loggers in use, as they change with every action.
-/

namespace TolerantValidation.Log

structure Session where
  setup : Setup := {}
  context : Named Value := []
  kept : Named Chain := []

inductive Action where
  | configure (configuration : Configuration)
  | bind (values : Named Value)
  | clear
  /-- An entry, or the fault of the call for it, through a logger that may have a holder. -/
  | log (holder : Option String) (made : Except Fault Entry)

/-- An entry of the validators. Each module holds its own logger; the trace logger has no holder. -/
def Action.ofEntry (entry : Entry) : Action :=
  .log (if entry.logger = traceLogger then none else some entry.logger) (.ok entry)

namespace Session

def chainOf (session : Session) (holder : Option String) : Chain :=
  (holder.bind fun name => session.kept.lookup name).getD session.setup.chain

/-- A logger with a holder keeps, from its first use on, the chain that it then finds. -/
def next (session : Session) : Action → Session
  | .configure configuration => { session with setup := session.setup.configure configuration }
  | .bind values => { session with context := Named.merge session.context values }
  | .clear => { session with context := [] }
  | .log none _ => session
  | .log (some holder) _ =>
    if session.setup.keepsChains then
      { session with kept := Named.add holder session.setup.chain session.kept }
    else session

def written (around : Circumstances) (session : Session) : Action → Except Fault (List String)
  | .configure configuration => (severityOf configuration.level).map fun _ => []
  | .bind _ | .clear => .ok []
  | .log holder made => do
    let entry ← made
    session.setup.write around entry
      ((session.chainOf holder).fields session.context around entry)

def perform (around : Circumstances) (session : Session) (action : Action) :
    Session × Except Fault (List String) :=
  (session.next action, session.written around action)

end Session
end TolerantValidation.Log
