import TolerantValidation.Document.Fault
import TolerantValidation.Effect
import TolerantValidation.Json5.Reader
import TolerantValidation.Yaml.Reader
import TolerantValidation.Toml.Reader
import TolerantValidation.Calendar.Iso

/-!
Formats: the ways in which a text is read as a value. Most readers have no effects; a JSON file that
turns out to be JSON5 is read with a warning.
-/

namespace TolerantValidation.Document

inductive Format where
  | json
  | json5
  | jsonc
  | jsonFile (filename : String)
  | yaml (options : Yaml.Options)
  | yamlStream (options : Yaml.Options)
  | toml
  | utcDate
deriving DecidableEq

def readJson (text : String) : Except DocumentFault Value :=
  (Json.read text).mapError fun
    | .malformed => .malformed .json
    | .constant name => .constant name
    | .tooManyDigits => .noSuchNumber
    | .tooDeep => .tooDeep

def readJson5 (text : String) : Except DocumentFault Value :=
  (Json5.read text).mapError fun
    | .malformed => .malformed .json5
    | .tooDeep => .tooDeep

def renamingEntry (filename : String) : Log.Entry :=
  { logger := Log.parserLogger, level := .warning, event := "json_parsed_as_json5"
    fields :=
      [("filename", .text filename),
        ("message", .text ("File contents are invalid JSON but parse as JSON5; " ++
          "rename to .json5 or fix the syntax"))] }

def hasExtension (extension filename : String) : Bool :=
  extension.toList.isSuffixOf (Number.asciiLower filename.toList)

/-- A file of the JSON family, in the notation that its name ends in. Other files are strict JSON,
or else JSON5 with a warning. -/
def readJsonFile (filename text : String) : Effect DocumentFault Value :=
  if hasExtension ".jsonc" filename || hasExtension ".json5" filename then ⟨[], readJson5 text⟩
  else
    match readJson text with
    | .ok value => ⟨[], .ok value⟩
    | .error fault =>
      if fault.isAboutText then
        match readJson5 text with
        | .ok value => ⟨[.logged (renamingEntry filename)], .ok value⟩
        | .error fault => ⟨[], .error fault⟩
      else ⟨[], .error fault⟩

def readUtcDate (text : String) : Except DocumentFault Value :=
  if text.toList.any Text.isBlank then .error (.blankInTimestamp text)
  else
    match Iso.readDateTime? text.toList with
    | none => .error .malformedTimestamp
    | some moment =>
      match moment.toUtc? with
      | none => .error .outsideCalendar
      | some utc => .ok (.dateTime utc)

namespace Format

def name : Format → String
  | .json | .jsonFile _ => "JSON"
  | .json5 => "JSON5"
  | .jsonc => "JSONC"
  | .yaml _ | .yamlStream _ => "YAML"
  | .toml => "TOML"
  | .utcDate => "date"

def read (format : Format) (text : String) : Effect DocumentFault Value :=
  match format with
  | .json => ⟨[], readJson text⟩
  | .json5 | .jsonc => ⟨[], readJson5 text⟩
  | .jsonFile filename => readJsonFile filename text
  | .yaml options => ⟨[], Yaml.readSingle options text⟩
  | .yamlStream options => ⟨[], (Yaml.readAll options text).map .list⟩
  | .toml => ⟨[], Toml.read text⟩
  | .utcDate => ⟨[], readUtcDate text⟩

end Format
end TolerantValidation.Document
