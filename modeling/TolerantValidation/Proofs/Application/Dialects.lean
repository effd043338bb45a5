import Mathlib.Data.List.SplitBy
import TolerantValidation.Proofs.Application.Reporting

/-!
In which notation a boundary reads a JSON file. The boundary goes by the suffix of the last part of
the name's path, the reader by the end of the whole name. The two differ if separators or points
stand behind that part: then the reader takes the file for strict JSON, whatever its suffix.
-/

namespace TolerantValidation

open Document

/-- Strict JSON, or else JSON5 with a warning, unless the text nests too deep. -/
def readStrictFirst (filename text : String) : Effect DocumentFault Value :=
  match readJson text with
  | .ok value => ⟨[], .ok value⟩
  | .error fault =>
    if fault.isAboutText then
      match readJson5 text with
      | .ok value => ⟨[.logged (renamingEntry filename)], .ok value⟩
      | .error fault => ⟨[], .error fault⟩
    else ⟨[], .error fault⟩

/-- The name ends behind its last component, in a separator or a point. -/
def EndsBehindComponent (filename : String) : Prop :=
  filename.toList.getLast? = some '/' ∨ filename.toList.getLast? = some '.'

namespace Document

variable {filename : String}

theorem readJsonFile_of_lenient {extension : String} (known : extension ∈ [".jsonc", ".json5"])
    (named : hasExtension extension filename = true) (text : String) :
    readJsonFile filename text = ⟨[], readJson5 text⟩ := by
  unfold readJsonFile
  rw [if_pos]
  simp only [List.mem_cons, List.not_mem_nil, or_false] at known
  obtain rfl | rfl := known <;> simp [named]

theorem readJsonFile_of_other
    (other : ∀ extension ∈ [".jsonc", ".json5"], hasExtension extension filename = false)
    (text : String) : readJsonFile filename text = readStrictFirst filename text := by
  simp only [List.forall_mem_cons] at other
  unfold readJsonFile
  rw [if_neg (by simp [other.1, other.2.1])]
  rfl

theorem hasExtension_iff {extension : String} :
    hasExtension extension filename = true ↔
      extension.toList <:+ Number.asciiLower filename.toList := by
  rw [hasExtension, List.isSuffixOf_iff_suffix]

end Document

namespace Boundary

theorem exists_of_getLast?_components {path name : List Char}
    (last : (components path).getLast? = some name) :
    ∃ before trail, path = before ++ (name ++ trail) ∧
      (trail = [] ∨ trail.getLast? = some '/' ∨ trail.getLast? = some '.') := by
  obtain ⟨_, filtered⟩ := List.getLast?_eq_some_iff.mp last
  obtain ⟨front, back, pieces, _, tail⟩ := List.filter_eq_append_iff.mp filtered
  obtain ⟨skipped, behind, rfl, _, _, dropped⟩ := List.filter_eq_cons_iff.mp tail
  refine ⟨front.flatten ++ skipped.flatten, behind.flatten, ?_, ?_⟩
  · rw [← List.flatten_splitBy (fun left right => left != '/' && right != '/') path, pieces]
    simp
  · obtain rfl | ⟨others, piece, rfl⟩ := List.eq_nil_or_concat behind
    · exact .inl rfl
    · have isDropped := List.filter_eq_nil_iff.mp dropped piece (by simp)
      have separates : piece = ['/'] ∨ piece = ['.'] := by
        by_cases slash : piece = ['/']
        · exact .inl slash
        · simpa [slash] using isDropped
      obtain rfl | rfl := separates <;> simp

theorem exists_of_afterPoint {name : List Char}
    (pointed : (name.reverse.takeWhile (· ≠ '.')).reverse.length ≠ name.length) :
    ∃ before, name = before ++ '.' :: (name.reverse.takeWhile (· ≠ '.')).reverse := by
  have parts := List.takeWhile_append_dropWhile (p := (· ≠ '.')) (l := name.reverse)
  cases behind : name.reverse.dropWhile (· ≠ '.') with
  | nil =>
      rw [behind, List.append_nil] at parts
      rw [parts, List.reverse_reverse] at pointed
      exact absurd rfl pointed
  | cons first rest =>
      have isPoint := List.head?_dropWhile_not (· ≠ '.') name.reverse
      rw [behind] at parts isPoint
      obtain rfl : first = '.' := by simpa using isPoint
      refine ⟨rest.reverse, ?_⟩
      have reversed := congrArg List.reverse parts
      rw [List.reverse_reverse] at reversed
      simpa using reversed.symm

theorem exists_of_suffix_ne_empty {filename : String} (known : suffix filename ≠ "") :
    ∃ before after, (components filename.toList).getLast? = some (before ++ after) ∧
      (suffix filename).toList = Number.asciiLower after := by
  unfold suffix at known ⊢
  dsimp only at known ⊢
  split at known
  next => exact absurd rfl known
  next found =>
    simp only [Bool.or_eq_true, decide_eq_true_eq, not_or] at found
    cases last : (components filename.toList).getLast? with
    | none => simp [last] at found
    | some name =>
        rw [last] at found
        obtain ⟨before, parts⟩ := exists_of_afterPoint found.2
        refine ⟨before, _, congrArg some parts, ?_⟩
        rw [if_neg (by simpa using found), String.toList_ofList]

variable {filename extension : String}

theorem hasExtension_suffix (known : suffix filename ≠ "")
    (ends : ¬ EndsBehindComponent filename) : hasExtension (suffix filename) filename = true := by
  obtain ⟨before, after, last, same⟩ := exists_of_suffix_ne_empty known
  obtain ⟨front, trail, path, rfl | behind⟩ := exists_of_getLast?_components last
  · rw [hasExtension_iff, same, path]
    refine ⟨Number.asciiLower (front ++ before), ?_⟩
    simp [Number.asciiLower]
  · refine absurd ?_ ends
    unfold EndsBehindComponent
    obtain behind | behind := behind <;> simp [path, behind]

theorem getLast?_of_hasExtension (named : hasExtension extension filename = true)
    (nonempty : extension ≠ "") :
    extension.toList.getLast? = filename.toList.getLast?.map Char.toLower := by
  obtain ⟨front, parts⟩ := hasExtension_iff.mp named
  have lasts := congrArg List.getLast? parts
  rw [List.getLast?_append_of_ne_nil] at lasts
  · rw [lasts, Number.asciiLower, List.getLast?_map]
  · rwa [Ne, String.toList_eq_nil_iff]

theorem no_lenient_extension_of_last
    (last : ∀ character, filename.toList.getLast? = some character →
      character.toLower ≠ 'c' ∧ character.toLower ≠ '5') :
    ∀ extension ∈ [".jsonc", ".json5"], hasExtension extension filename = false := by
  intro extension known
  rw [Bool.eq_false_iff]
  intro named
  simp only [List.mem_cons, List.not_mem_nil, or_false] at known
  obtain rfl | rfl := known
  · obtain ⟨character, found, lower⟩ :=
      Option.map_eq_some_iff.mp (getLast?_of_hasExtension named (by decide)).symm
    exact (last character found).1 lower
  · obtain ⟨character, found, lower⟩ :=
      Option.map_eq_some_iff.mp (getLast?_of_hasExtension named (by decide)).symm
    exact (last character found).2 lower

theorem no_lenient_extension_of_endsBehind (ends : EndsBehindComponent filename) :
    ∀ extension ∈ [".jsonc", ".json5"], hasExtension extension filename = false := by
  apply no_lenient_extension_of_last
  intro character found
  obtain slash | point := ends
  · obtain rfl := Option.some.inj (slash.symm.trans found)
    decide
  · obtain rfl := Option.some.inj (point.symm.trans found)
    decide

theorem no_lenient_extension_of_json (strict : suffix filename = ".json") :
    ∀ extension ∈ [".jsonc", ".json5"], hasExtension extension filename = false := by
  by_cases ends : EndsBehindComponent filename
  · exact no_lenient_extension_of_endsBehind ends
  · apply no_lenient_extension_of_last
    intro character found
    have named := hasExtension_suffix (by rw [strict]; decide) ends
    rw [strict] at named
    have lower := getLast?_of_hasExtension named (by decide)
    rw [found] at lower
    rw [← Option.some.inj lower]
    decide

def validateRead (validator : Validator) (reading : Effect DocumentFault Value) : Run Verdict :=
  match reading.outcome with
  | .ok document =>
    let ran := validator.run document
    ⟨reading.events ++ ran.events, ran.outcome⟩
  | .error _ => ⟨reading.events, .ok (.refuse (.custom "Invalid JSON"))⟩

def answerRead (boundary : Boundary) (correlationId filename : String)
    (reading : Effect DocumentFault Value) : Run (Outcome ApplicationError Value) :=
  (validateRead boundary.validator reading).attempt >>=
    boundary.answer correlationId [("filename", .text filename)]

theorem run_jsonFile (validator : Validator) (filename text : String) :
    (Validator.pipe (.format (.jsonFile filename)) validator).run (.text text) =
      validateRead validator (readJsonFile filename text) := by
  have events : ((Validator.format (.jsonFile filename)).run (.text text)).events =
      (readJsonFile filename text).events := rfl
  rw [Validator.run_pipe, validateRead]
  cases read : (readJsonFile filename text).outcome with
  | ok document =>
      have accepted : ((Validator.format (.jsonFile filename)).run (.text text)).outcome =
          .ok (.ok document) := by
        rw [Validator.run, Validator.checkFormat]
        simp only [Document.Format.read, read]
      rw [Effect.bind_ok accepted, events]
      rfl
  | error fault =>
      have refused : ((Validator.format (.jsonFile filename)).run (.text text)).outcome =
          .ok (.refuse (.custom "Invalid JSON")) := by
        rw [Validator.run, Validator.checkFormat]
        simp only [Document.Format.read, read]
        rfl
      rw [Effect.bind_ok refused, events]
      show (⟨_ ++ [], _⟩ : Run Verdict) = _
      rw [List.append_nil]
      rfl

theorem parseFile_of_json (boundary : Boundary) (correlationId : String)
    (known : suffix filename ∈ [".json", ".jsonc", ".json5"]) (text : String) :
    boundary.parseFile correlationId (.text text) filename =
      boundary.answerRead correlationId filename (readJsonFile filename text) := by
  have format : formatOf? filename = some (.jsonFile filename) := by
    simp only [formatOf?, List.contains_iff_mem, known, if_true]
  rw [boundary.parseFile_of_format correlationId format, check_eq, run_jsonFile]
  rfl

end Boundary

/-- A JSON file is read in the notation that its suffix names, without a warning if that is JSON5,
unless the name ends behind its last component: such a file is taken for strict JSON first. -/
theorem json_files_read_as_named (boundary : Boundary) (correlationId filename text : String) :
    let parsed := boundary.parseFile correlationId (.text text) filename
    (Boundary.suffix filename = ".json" →
      parsed = boundary.answerRead correlationId filename (readStrictFirst filename text)) ∧
    (Boundary.suffix filename ∈ [".jsonc", ".json5"] → ¬ EndsBehindComponent filename →
      parsed = boundary.answerRead correlationId filename ⟨[], readJson5 text⟩) ∧
    (Boundary.suffix filename ∈ [".jsonc", ".json5"] → EndsBehindComponent filename →
      parsed = boundary.answerRead correlationId filename (readStrictFirst filename text)) := by
  intro parsed
  refine ⟨?_, ?_, ?_⟩
  · intro strict
    have known : Boundary.suffix filename ∈ [".json", ".jsonc", ".json5"] := by simp [strict]
    rw [← readJsonFile_of_other (Boundary.no_lenient_extension_of_json strict)]
    exact boundary.parseFile_of_json correlationId known text
  · intro lenient ends
    have nonempty : Boundary.suffix filename ≠ "" := by
      intro empty
      rw [empty] at lenient
      exact absurd lenient (by decide)
    rw [← readJsonFile_of_lenient lenient (Boundary.hasExtension_suffix nonempty ends)]
    exact boundary.parseFile_of_json correlationId (List.mem_cons_of_mem _ lenient) text
  · intro lenient ends
    rw [← readJsonFile_of_other (Boundary.no_lenient_extension_of_endsBehind ends)]
    exact boundary.parseFile_of_json correlationId (List.mem_cons_of_mem _ lenient) text

theorem json_files_read_as_named_of_capitals :
    Boundary.suffix "settings.d/Ports.JSON5" ∈ [".jsonc", ".json5"] ∧
      ¬ EndsBehindComponent "settings.d/Ports.JSON5" ∧
      ({ validator := .unknown } : Boundary).parseFile "id" (.text "[80,]")
          "settings.d/Ports.JSON5" =
        ({ validator := .unknown } : Boundary).answerRead "id" "settings.d/Ports.JSON5"
          ⟨[], readJson5 "[80,]"⟩ := by
  have lenient : Boundary.suffix "settings.d/Ports.JSON5" ∈ [".jsonc", ".json5"] := by
    decide +kernel
  have ends : ¬ EndsBehindComponent "settings.d/Ports.JSON5" := by
    unfold EndsBehindComponent
    decide +kernel
  exact ⟨lenient, ends,
    (json_files_read_as_named { validator := .unknown } "id" "settings.d/Ports.JSON5" "[80,]").2.1
      lenient ends⟩

/-- A separator behind a name hides its suffix from the reader: JSON5 is read with a warning. -/
theorem jsonc_file_warns_behind_separator :
    Boundary.suffix "config.jsonc/" = ".jsonc" ∧
      (({ validator := .unknown } : Boundary).parseFile "id" (.text "[1,]")
          "config.jsonc/").events = [.logged (renamingEntry "config.jsonc/")] ∧
      (renamingEntry "config.jsonc/").event = "json_parsed_as_json5" := by
  refine ⟨by decide +kernel, ?_, rfl⟩
  rfl

end TolerantValidation
