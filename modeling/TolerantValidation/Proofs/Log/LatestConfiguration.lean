import Mathlib.Data.List.Induction
import TolerantValidation.Log.Session

/-!
Logging over a history of actions: what is written for an entry, and how, is settled by the latest
configuration alone, through whichever logger the entry comes.
-/

namespace TolerantValidation

theorem Named.mem_add {Item : Type} {name : String} {item : Item} {items : Named Item}
    {field : String × Item} (member : field ∈ Named.add name item items) :
    field ∈ items ∨ field = (name, item) := by
  unfold Named.add at member
  split at member
  · simpa using member
  · exact .inl member

namespace Log

def Action.configuration? : Action → Option Configuration
  | .configure configuration => some configuration
  | _ => none

def latestConfiguration (history : List Action) : Option Configuration :=
  (history.filterMap Action.configuration?).getLast?

theorem latestConfiguration_concat (history : List Action) (action : Action) :
    latestConfiguration (history ++ [action]) =
      (action.configuration? <|> latestConfiguration history) := by
  unfold latestConfiguration
  rw [List.filterMap_append, List.getLast?_append]
  cases action <;> rfl

/-- The least severity of what a logger writes, when the level of the configuration stands for this
one. -/
def Configuration.threshold (configuration : Configuration) (severity : Nat) (logger : String) :
    Nat :=
  if Setup.isTrace logger then configuration.traceThreshold else severity

theorem severityOf_eq_ok {name : String} {severity : Nat}
    (named : severities.lookup (Text.upperCase name) = some severity) :
    severityOf name = .ok severity := by
  have notLayout : Text.upperCase name ≠ "BASIC_FORMAT" ∧ Text.upperCase name ≠ "_STYLES" := by
    constructor <;> rintro same <;> rw [same] at named <;> cases named
  simp [severityOf, notLayout, named]

namespace Setup

variable (setup : Setup) {configuration : Configuration}

theorem configure_opens (configuration : Configuration) :
    (setup.configure configuration).outputs = [configuration.style] ∧
      (setup.configure configuration).chain = loggerChain ∧
      (setup.configure configuration).keepsChains = true := by
  unfold configure
  cases severityOf configuration.level <;> exact ⟨rfl, rfl, rfl⟩

theorem thresholds_configure {severity : Nat}
    (level : severityOf configuration.level = .ok severity) :
    (setup.configure configuration).rootThreshold = severity ∧
      (setup.configure configuration).traceThreshold = some configuration.traceThreshold := by
  simp [configure, level]

end Setup

/-- The session is as the latest configuration has it, and every chain that a logger has kept is the
one that loggers take now. Before there is a configuration no logger keeps its chain. -/
structure Session.Follows (latest : Option Configuration) (session : Session) : Prop where
  keepsChains : session.setup.keepsChains = latest.isSome
  kept : ∀ field ∈ session.kept, field.2 = loggerChain
  chain : ∀ configuration ∈ latest, session.setup.chain = loggerChain
  outputs : ∀ configuration ∈ latest, session.setup.outputs = [configuration.style]
  thresholds : ∀ configuration ∈ latest, ∀ severity,
    severityOf configuration.level = .ok severity →
      session.setup.rootThreshold = severity ∧
        session.setup.traceThreshold = some configuration.traceThreshold

namespace Session

variable {session : Session} {latest : Option Configuration}

theorem follows_start : Follows none {} where
  keepsChains := rfl
  kept := nofun
  chain := nofun
  outputs := nofun
  thresholds := nofun

theorem follows_configure (follows : session.Follows latest) (configuration : Configuration) :
    (session.next (.configure configuration)).Follows (some configuration) := by
  obtain ⟨outputs, chain, keepsChains⟩ := session.setup.configure_opens configuration
  refine ⟨keepsChains, follows.kept, fun _ _ => chain, ?_, ?_⟩
  · rintro _ ⟨⟩
    exact outputs
  · rintro _ ⟨⟩ severity level
    exact Setup.thresholds_configure _ level

theorem Follows.next (follows : session.Follows latest) (action : Action) :
    (session.next action).Follows (action.configuration? <|> latest) := by
  cases action with
  | configure configuration => exact follows_configure follows configuration
  | bind values => exact { follows with }
  | clear => exact { follows with }
  | log holder made =>
      cases holder with
      | none => exact follows
      | some holder =>
          simp only [Session.next]
          split
          · rename_i keeps
            -- Chains are kept under a configuration only, and all configurations set up the same.
            obtain ⟨configuration, isLatest⟩ := Option.isSome_iff_exists.mp
              (follows.keepsChains ▸ keeps)
            refine { follows with kept := fun field member => ?_ }
            rcases Named.mem_add member with known | rfl
            · exact follows.kept field known
            · exact follows.chain configuration isLatest
          · exact follows

def run (history : List Action) : Session :=
  history.foldl next {}

theorem follows_run (history : List Action) :
    (run history).Follows (latestConfiguration history) := by
  -- From the end, since the latest configuration is the last.
  induction history using List.reverseRecOn with
  | nil => exact follows_start
  | append_singleton history action ih =>
      rw [latestConfiguration_concat, run, List.foldl_append]
      exact ih.next action

variable {configuration : Configuration}

theorem Follows.chainOf (follows : session.Follows (some configuration))
    (holder : Option String) : session.chainOf holder = loggerChain := by
  have current := follows.chain configuration rfl
  unfold Session.chainOf
  cases found : holder.bind fun name => session.kept.lookup name with
  | none => exact current
  | some chain =>
      obtain ⟨name, _, known⟩ := Option.bind_eq_some_iff.mp found
      obtain ⟨before, after, same, _⟩ := List.lookup_eq_some_iff.mp known
      exact follows.kept (name, chain) (by simp [same])

theorem Follows.admits_iff (follows : session.Follows (some configuration)) {severity : Nat}
    (level : severityOf configuration.level = .ok severity) (entry : Entry) :
    session.setup.admits entry = true ↔
      configuration.threshold severity entry.logger ≤ entry.level.severity := by
  obtain ⟨root, trace⟩ := follows.thresholds configuration rfl severity level
  simp [Setup.admits, Setup.threshold, Configuration.threshold, root, trace]

theorem Follows.written (follows : session.Follows (some configuration)) (around : Circumstances)
    (holder : Option String) (entry : Entry) :
    session.written around (.log holder (.ok entry)) =
      if session.setup.admits entry then
        match configuration.style.line around.timestamp entry
            (loggerChain.fields session.context around entry) with
        | .ok line => .ok (if around.encodes line then [line] else [])
        | .error .notShown => .ok []
        | .error .tooDeep => .error (.text .tooDeep)
      else .ok [] := by
  change session.setup.write around entry ((session.chainOf holder).fields _ _ _) = _
  rw [follows.chainOf holder]
  unfold Setup.write
  rw [follows.outputs configuration rfl, List.foldrM_cons, List.foldrM_nil]
  rfl

theorem Follows.written_of_not_encodes (follows : session.Follows (some configuration))
    {around : Circumstances} (holder : Option String) {entry : Entry} {line : String}
    (made : configuration.style.line around.timestamp entry
      (loggerChain.fields session.context around entry) = .ok line)
    (refused : around.encodes line = false) :
    session.written around (.log holder (.ok entry)) = .ok [] := by
  rw [follows.written around holder entry, made]
  simp [refused]

end Session

/-- Whatever came before, and whatever logger an entry comes through, one line at most is written
for it: the one that the latest configuration's style makes of its values. It is written exactly if
there is such a line, the stream can take it, and the entry's level reaches the threshold of that
configuration. -/
theorem entries_follow_latest_configuration (history : List Action) {configuration : Configuration}
    (latest : latestConfiguration history = some configuration) {severity : Nat}
    (named : severities.lookup (Text.upperCase configuration.level) = some severity)
    (around : Circumstances) (holder : Option String) (entry : Entry) :
    let session := Session.run history
    let written := session.written around (.log holder (.ok entry))
    let isReached := configuration.threshold severity entry.logger ≤ entry.level.severity
    let fields := loggerChain.fields session.context around entry
    let made := configuration.style.line around.timestamp entry fields
    (∀ lines, written = .ok lines → lines.length ≤ 1) ∧
    (∀ line, written = .ok [line] ↔ isReached ∧ made = .ok line ∧ around.encodes line = true) ∧
    (¬ isReached ∨ made = .error .notShown ∨
      (∃ line, made = .ok line ∧ around.encodes line = false) → written = .ok []) := by
  intro session written isReached fields made
  have follows : session.Follows (some configuration) := latest ▸ Session.follows_run history
  have admits := follows.admits_iff (severityOf_eq_ok named) entry
  have writtenEq : written = _ := follows.written around holder entry
  rw [writtenEq]
  by_cases reached : isReached
  · rw [if_pos (admits.mpr reached)]
    cases shown : configuration.style.line around.timestamp entry fields with
    | ok line => cases encoded : around.encodes line <;> simp [made, shown, reached, encoded]
    | error fault => cases fault <;> simp [made, shown, reached]
  · rw [if_neg (mt admits.mp reached)]
    simp [reached]

/-- A logger that was first used while lines went to the console writes in JSON after the second
configuration. -/
theorem entries_follow_latest_configuration_of_kept_chain :
    let around : Circumstances := ⟨"now", "", fun _ => none, fun _ => true⟩
    let entry : Entry :=
      { logger := parserLogger, level := .warning, event := "read",
        fields := [("name", .text "a")] }
    let history : List Action :=
      [.configure ⟨"debug", .console, false⟩, .ofEntry entry, .configure ⟨"Warning", .json, true⟩]
    let line :=
      "\x7b\"name\": \"a\", \"event\": \"read\", \"level\": \"warning\", " ++
        "\"logger\": \"resilient_schema.parsers\", \"timestamp\": \"now\", " ++
        "\"service\": \"resilient-schema\"\x7d"
    (Session.run history).kept = [(parserLogger, loggerChain)] ∧
    latestConfiguration history = some ⟨"Warning", .json, true⟩ ∧
    severities.lookup (Text.upperCase "Warning") = some 30 ∧
    (Session.run history).written around (.log (some parserLogger) (.ok entry)) = .ok [line] := by
  intro around entry history line
  have latest : latestConfiguration history = some ⟨"Warning", .json, true⟩ := rfl
  have named : severities.lookup (Text.upperCase "Warning") = some 30 := by decide
  have written := entries_follow_latest_configuration history latest named around
    (some parserLogger) entry
  refine ⟨rfl, latest, named, (written.2.1 line).mpr ⟨by decide, ?_, rfl⟩⟩
  have shown : (Style.json.line "now" entry (loggerChain.fields [] around entry)).toOption =
      some line := by decide +kernel
  change Style.json.line "now" entry (loggerChain.fields [] around entry) = _
  generalize Style.json.line "now" entry (loggerChain.fields [] around entry) = made at shown ⊢
  cases made with
  | ok line => exact congrArg _ (Option.some.inj shown)
  | error fault => cases shown

open Console in
theorem Style.console_line_of_one_field {timestamp : String} {entry : Entry} {fields : Named Value}
    {field : String × Value} {shown : String}
    (oneLogger : (Named.without recordFields fields).lookup "logger_name" = none)
    (others : Named.without placedFields (Named.without recordFields fields) = [field])
    (text : fieldText field = .ok shown)
    (nothingBelow : appendix (Named.without recordFields fields) = .ok "") :
    Style.console.line timestamp entry fields =
      .ok (" ".intercalate (columns timestamp entry ++ [shown])) := by
  simp [Style.line, Console.line, others, text, oneLogger, nothingBelow, Except.mapError, pure,
    Except.pure, bind, Except.bind]

/-- The threshold of the trace logger holds below it too. An entry that has no line in JSON is left
out at every level, and so is one whose line has no octets in the stream. -/
theorem entries_left_out_at_level_of_configuration :
    let around : Circumstances :=
      ⟨"now", "", fun _ => none, fun line => !line.toList.any Text.isUnpairedSurrogate⟩
    let jsonLines := Session.run [.configure ⟨"DEBUG", .json, false⟩]
    let consoleLines := Session.run [.configure ⟨"DEBUG", .console, false⟩]
    let belowTrace : Entry :=
      { logger := traceLogger ++ ".child", level := .info, event := "read", fields := [] }
    let withoutLine : Entry :=
      { logger := parserLogger, level := .error, event := "read",
        fields := [("sizes", .mapping [(.tuple [.int 1], .null)])] }
    let withoutOctets : Entry :=
      { logger := parserLogger, level := .error,
        event := String.singleton (Text.unitCharacter 0xD800), fields := [] }
    severities.lookup "DEBUG" = some 10 ∧
    belowTrace.logger ≠ traceLogger ∧ 10 ≤ belowTrace.level.severity ∧
    jsonLines.written around (.log none (.ok belowTrace)) = .ok [] ∧
    withoutLine.logger ≠ traceLogger ∧ 10 ≤ withoutLine.level.severity ∧
    jsonLines.written around (.log none (.ok withoutLine)) = .ok [] ∧
    withoutOctets.logger ≠ traceLogger ∧ 10 ≤ withoutOctets.level.severity ∧
    consoleLines.written around (.log none (.ok withoutOctets)) = .ok [] := by
  refine ⟨rfl, by decide, by decide, by rfl, by decide, by decide, by rfl, by decide, by decide, ?_⟩
  have follows : Session.Follows (some ⟨"DEBUG", .console, false⟩) _ :=
    Session.follows_run [.configure ⟨"DEBUG", .console, false⟩]
  exact follows.written_of_not_encodes none (Style.console_line_of_one_field rfl rfl rfl rfl)
    (by decide +kernel)

end Log
end TolerantValidation
