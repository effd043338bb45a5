/-!
Tokens of YAML: the words of which documents are made. Blocks, which indentation alone delimits,
have tokens for their beginning and their end. The last token of a text says that nothing follows.
-/

namespace TolerantValidation.Yaml

inductive Directive where
  | version (major : Nat)
  | tag (handle : String) (expansion : String)
  | other

/-- A tag as it is written: a suffix after a handle, or a verbatim tag. -/
structure WrittenTag where
  handle : Option String
  suffix : String

inductive Token where
  | directive (directive : Directive)
  | documentStart
  | documentEnd
  | blockSequenceStart
  | blockMappingStart
  | blockEnd
  | flowSequenceStart
  | flowSequenceEnd
  | flowMappingStart
  | flowMappingEnd
  | blockEntry
  | flowEntry
  | key
  | value
  | alias (name : String)
  | anchor (name : String)
  | tag (tag : WrittenTag)
  | scalar (text : String) (plain : Bool)
  | textEnd

end TolerantValidation.Yaml
