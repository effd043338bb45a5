import TolerantValidation.Record.Coercion
import TolerantValidation.Settings.EnvironmentFile

/-!
Settings of the library. They come from variables of the environment, or from an environment file,
and have defaults. The names of variables may be in any letter case.
-/

namespace TolerantValidation

structure Settings where
  level : String := "INFO"
  json : Bool := false
  trace : Bool := false

namespace Settings

def variableStem : String := "RESILIENT_SCHEMA_"

def lowerName (name : String) : String :=
  String.ofList (Number.asciiLower name.toList)

def valueOf? (bindings : Named (Option String)) (setting : String) : Option String :=
  let name := lowerName (variableStem ++ setting)
  (bindings.reverse.find? fun named => lowerName named.1 = name).bind Prod.snd

def readFlag (valueOf? : String → Option String) (setting : String) :
    Except (List Record.FieldError) Bool :=
  match valueOf? setting with
  | none => .ok false
  | some text => (Record.flagOfText text).mapError fun fault => [⟨[.text setting], fault⟩]

/-- The settings for an environment and the text of an environment file, if there is one. The
environment comes first. All flags that cannot be read are reported. -/
def read (environment : Named String) (file : Option String) :
    Except (List Record.FieldError) Settings :=
  let given := environment.map fun named => (named.1, some named.2)
  let bound := (file.map (EnvironmentFile.read environment)).getD []
  let valueOf? (setting : String) : Option String :=
    valueOf? given setting <|> valueOf? bound setting
  let level := (valueOf? "LOG_LEVEL").getD "INFO"
  match readFlag valueOf? "LOG_JSON", readFlag valueOf? "LOG_TRACE" with
  | .ok json, .ok trace => .ok { level, json, trace }
  | .error errors, .ok _ => .error errors
  | .ok _, .error errors => .error errors
  | .error errors, .error more => .error (errors ++ more)

end Settings
end TolerantValidation
