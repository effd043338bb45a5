import TolerantValidation.Yaml.Reader

/-!
Streams of YAML documents. A text is read as the documents in it or as a single one, and the two
readings agree: they make the same graphs of the same events, though the one builds each document
before it looks at the next, and the other only when it has seen that there is no next one.
-/

namespace TolerantValidation.Yaml

/-- What the reading of a text as a single document is, by what its reading as a stream is. -/
def Agrees {Stop Built : Type} (nothing : Built) (refused : Stop) (single : Except Stop Built) :
    Except Stop (List Built) → Prop
  | .ok [] => single = .ok nothing
  | .ok [document] => single = .ok document
  | .ok (_ :: _ :: _) => single = .error refused
  | .error _ => ∃ stop, single = .error stop

section Documents

variable {Stop Built : Type} {ofFault : DocumentFault → Stop} {build : Graph → Except Stop Built}
variable {nothing : Built} {fault : Option DocumentFault} {first : Event} {more rest : List Event}
variable {graph : Graph}

theorem documentsOf_nil :
    documentsOf ofFault build fault [] = atEnd ofFault fault (.ok []) := by
  rw [documentsOf]

theorem documentsOf_of_fault {cause : DocumentFault}
    (stopped : readGraph fault {} (first :: more) = .error cause) :
    documentsOf ofFault build fault (first :: more) = .error (ofFault cause) := by
  rw [documentsOf]
  split
  next same =>
    rw [stopped] at same
    rw [Except.error.inj same]
  next same =>
    rw [stopped] at same
    simp at same

theorem documentsOf_of_graph
    (read : readGraph fault {} (first :: more) = .ok (graph, rest)) :
    documentsOf ofFault build fault (first :: more) = (do
      let document ← build graph
      let documents ← documentsOf ofFault build fault rest
      .ok (document :: documents)) := by
  rw [documentsOf]
  split
  next same =>
    rw [read] at same
    simp at same
  next same =>
    rw [read] at same
    simp only [Except.ok.injEq, Prod.mk.injEq] at same
    rw [same.1, same.2]

theorem documentOf_of_fault {cause : DocumentFault}
    (stopped : readGraph fault {} (first :: more) = .error cause) :
    documentOf ofFault build nothing fault (first :: more) = .error (ofFault cause) := by
  simp only [documentOf, stopped]

theorem documentOf_of_last (read : readGraph fault {} (first :: more) = .ok (graph, [])) :
    documentOf ofFault build nothing fault (first :: more) =
      atEnd ofFault fault (build graph) := by
  simp only [documentOf, read]

theorem documentOf_of_more {next : Event}
    (read : readGraph fault {} (first :: more) = .ok (graph, next :: rest)) :
    documentOf ofFault build nothing fault (first :: more) =
      .error (ofFault (.malformed .yaml)) := by
  simp only [documentOf, read]

theorem documentsOf_ne_nil : documentsOf ofFault build fault (first :: more) ≠ .ok [] := by
  cases read : readGraph fault {} (first :: more) with
  | error cause => simp [documentsOf_of_fault read]
  | ok found =>
      rw [documentsOf_of_graph read]
      cases build found.1 with
      | error stop => simp [bind, Except.bind]
      | ok document =>
          cases documentsOf ofFault build fault found.2 <;> simp [bind, Except.bind]

theorem atEnd_agrees (ofFault : DocumentFault → Stop) (nothing : Built) (refused : Stop)
    (fault : Option DocumentFault) (answer : Except Stop Built) :
    Agrees nothing refused (atEnd ofFault fault answer) (do
      let document ← answer
      let documents ← documentsOf ofFault build fault []
      .ok (document :: documents)) := by
  rw [documentsOf_nil]
  cases fault with
  | none =>
      cases answer with
      | error stop => exact ⟨stop, rfl⟩
      | ok document => exact rfl
  | some cause => cases answer <;> exact ⟨ofFault cause, rfl⟩

theorem refused_agrees (nothing : Built) (refused : Stop) (answer : Except Stop Built) :
    Agrees nothing refused (.error refused) (do
      let document ← answer
      let documents ← documentsOf ofFault build fault (first :: more)
      .ok (document :: documents)) := by
  cases answer with
  | error stop => exact ⟨refused, rfl⟩
  | ok document =>
      cases later : documentsOf ofFault build fault (first :: more) with
      | error stop => exact ⟨refused, rfl⟩
      | ok documents =>
          cases documents with
          | nil => exact absurd later documentsOf_ne_nil
          | cons next others => exact rfl

theorem documentOf_agrees (ofFault : DocumentFault → Stop) (build : Graph → Except Stop Built)
    (nothing : Built) (fault : Option DocumentFault) (events : List Event) :
    Agrees nothing (ofFault (.malformed .yaml)) (documentOf ofFault build nothing fault events)
      (documentsOf ofFault build fault events) := by
  cases events with
  | nil =>
      rw [documentsOf_nil, documentOf]
      cases fault with
      | none => exact rfl
      | some cause => exact ⟨ofFault cause, rfl⟩
  | cons first more =>
      cases read : readGraph fault {} (first :: more) with
      | error cause =>
          rw [documentsOf_of_fault read, documentOf_of_fault read]
          exact ⟨ofFault cause, rfl⟩
      | ok found =>
          obtain ⟨graph, rest⟩ := found
          rw [documentsOf_of_graph read]
          cases rest with
          | nil =>
              rw [documentOf_of_last read]
              exact atEnd_agrees ofFault nothing _ fault (build graph)
          | cons next rest =>
              rw [documentOf_of_more read]
              exact refused_agrees nothing _ (build graph)

end Documents

/-- What a text is as a single document follows from what it is as a stream, whatever the meanings
of its tags: nothing for none, the document for one, a YAML fault for more, and some fault if the
stream has one. The same holds whichever way documents are built from graphs. -/
theorem single_document_agrees_with_stream :
    (∀ (options : Options) (text : String),
      Agrees .null (.malformed .yaml) (readSingle options text) (readAll options text)) ∧
    ∀ (Stop Built : Type) (ofFault : DocumentFault → Stop) (build : Graph → Except Stop Built)
      (nothing : Built) (options : Options) (text : String),
      let events := options.events text
      Agrees nothing (ofFault (.malformed .yaml))
        (documentOf ofFault build nothing events.fault events.list)
        (documentsOf ofFault build events.fault events.list) := by
  constructor
  · intro options text
    exact documentOf_agrees id (Graph.toValue options.meanings) .null _ _
  · intro Stop Built ofFault build nothing options text
    exact documentOf_agrees ofFault build nothing _ _

theorem single_document_agrees_with_stream_of_two :
    ((readAll {} "--- 80\n--- [a]").toOption.map List.length = some 2) ∧
      readSingle {} "--- 80\n--- [a]" = .error (.malformed .yaml) := by
  have two : (readAll {} "--- 80\n--- [a]").toOption.map List.length = some 2 := by decide +kernel
  refine ⟨two, ?_⟩
  have agree := single_document_agrees_with_stream.1 {} "--- 80\n--- [a]"
  cases read : readAll {} "--- 80\n--- [a]" with
  | error fault => simp [read, Except.toOption] at two
  | ok documents =>
      rw [read] at agree two
      match documents, two with
      | [_, _], _ => exact agree

end TolerantValidation.Yaml
