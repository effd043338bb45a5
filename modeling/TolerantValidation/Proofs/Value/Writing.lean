import TolerantValidation.Fault
import TolerantValidation.Proofs.Value.Nesting

/-!
Values that have a text: what has only short whole numbers and nests less deep than computations
follow it can be written, in notation and display, and compared with a value without cycles.
-/

namespace TolerantValidation

section Writing

variable {Item Shown More : Type}

def IsWritten (result : Except TextFault Shown) : Prop :=
  ∃ shown, result = .ok shown

theorem isWritten_ok (shown : Shown) : IsWritten (.ok shown) :=
  ⟨shown, rfl⟩

theorem isWritten_bind {result : Except TextFault Shown} {next : Shown → Except TextFault More}
    (written : IsWritten result) (goesOn : ∀ shown, IsWritten (next shown)) :
    IsWritten (result >>= next) := by
  obtain ⟨shown, rfl⟩ := written
  exact goesOn shown

theorem isWritten_mapM {write : Item → Except TextFault Shown} {items : List Item}
    (each : ∀ item ∈ items, IsWritten (write item)) : IsWritten (items.mapM write) := by
  induction items with
  | nil => exact isWritten_ok []
  | cons item rest ih =>
      rw [List.mapM_cons]
      apply isWritten_bind (each item List.mem_cons_self)
      intro first
      apply isWritten_bind (ih fun other member => each other (List.mem_cons_of_mem _ member))
      intro others
      exact isWritten_ok _

end Writing

namespace Value

theorem HasShortIntegers.part {value part : Value} (short : value.HasShortIntegers)
    (member : part ∈ value.parts) : part.HasShortIntegers :=
  fun whole occurs => short whole ((Occurs.self.part member).trans occurs)

theorem wholeText_isWritten {whole : Int} (short : (Value.int whole).HasShortIntegers) :
    IsWritten (wholeText whole) := by
  have bound := short whole .self
  simp only [wholeText, bound, if_true]
  exact isWritten_ok _

theorem notationWithin_isWritten (fuel : Nat) (around : List Nat) (value : Value)
    (enough : 0 < fuel) (ends : value.EndsWithin fuel (enclosing around value))
    (short : value.HasShortIntegers) : IsWritten (notationWithin fuel around value) := by
  -- The fuel exceeds the levels below that do not lead back to the containers around.
  induction fuel generalizing around value with
  | zero => omega
  | succ fuel ih =>
      unfold notationWithin
      split
      · exact isWritten_ok _
      rename_i within
      have unvisited : value ∉ enclosing around value := fun again =>
        within (isAround_iff.mpr again)
      have enough : 0 < fuel := Nat.lt_of_succ_lt_succ (ends.one_lt unvisited)
      have heldWritten : ∀ held : Held, held.value ∈ value.parts → held.IsNested value →
          IsWritten (notationWithin fuel (held.trail value around) held.value) :=
        fun held member nested =>
          ih _ _ enough (ends.held unvisited member nested) (short.part member)
      have smallerEnds : ∀ part ∈ value.parts, part.bulk < value.bulk →
          part.EndsWithin fuel [] := fun part member smaller =>
        ends.outside unvisited member smaller
      have written : ∀ part : Value, part.EndsWithin fuel [] → part.HasShortIntegers →
          IsWritten (notationWithin fuel [] part) := by
        intro part partEnds partShort
        exact ih [] part enough (by rwa [enclosing_nil]) partShort
      split
      · rename_i kind items level
        apply isWritten_bind _ fun texts => isWritten_ok _
        apply isWritten_mapM
        intro held member
        exact heldWritten held (held_mem_parts level member)
          (isNested_of_view_collection level member)
      · rename_i entries level
        apply isWritten_bind _ fun texts => isWritten_ok _
        apply isWritten_mapM
        intro entry member
        obtain ⟨isKey, isHeld⟩ := entry_mem_parts level member
        obtain ⟨keySmaller, nested⟩ := isNested_of_view_mapping level member
        apply isWritten_bind (written _ (smallerEnds _ isKey keySmaller) (short.part isKey))
        intro key
        exact isWritten_bind (heldWritten entry.2 isHeld nested) fun item => isWritten_ok _
      · rename_i level
        have partWritten : ∀ part ∈ value.parts, IsWritten (notationWithin fuel [] part) :=
          fun part member => written part
            (smallerEnds part member (bulk_lt_of_view_atom level member)) (short.part member)
        split
        case h_2 => exact wholeText_isWritten short
        case h_9 name fields =>
          apply isWritten_bind _ fun texts => isWritten_ok _
          apply isWritten_mapM
          intro field member
          apply isWritten_bind _ fun text => isWritten_ok _
          exact partWritten field.2 (List.mem_map_of_mem member)
        case h_11 failed =>
          exact isWritten_bind (isWritten_mapM partWritten) fun segments => isWritten_ok _
        case h_12 failed =>
          -- The segments stand two levels below, and one step of fuel is spent on both.
          apply isWritten_bind _ fun texts => isWritten_ok _
          apply isWritten_mapM
          intro issue member
          apply isWritten_bind _ fun segments => isWritten_ok _
          apply isWritten_mapM
          intro segment inside
          have isPart : Value.issue issue ∈ (Value.failure failed).parts :=
            List.mem_map_of_mem member
          have issueEnds := smallerEnds _ isPart (bulk_lt_of_view_atom level isPart)
          have smaller : segment.bulk < (Value.issue issue).bulk := bulk_lt_of_view_atom rfl inside
          exact written segment (issueEnds.inherit inside smaller) ((short.part isPart).part inside)
        all_goals exact isWritten_ok _

/-- Computations can follow the value and write its numbers. -/
structure IsShowable (value : Value) : Prop where
  shallow : value.IsShallow
  short : value.HasShortIntegers

theorem IsShowable.inherit {value part : Value} (showable : value.IsShowable)
    (level : value.view = .atom) (member : part ∈ value.parts) : part.IsShowable where
  shallow := EndsWithin.inherit showable.shallow member (bulk_lt_of_view_atom level member)
  short := showable.short.part member

theorem IsShowable.segment {failed : Failure} {issue : Issue} {segment : Value}
    (showable : (Value.failure failed).IsShowable) (member : issue ∈ failed.issues)
    (inside : segment ∈ issue.path) : segment.IsShowable := by
  have isPart : Value.issue issue ∈ (Value.failure failed).parts := List.mem_map_of_mem member
  have isSegment : segment ∈ (Value.issue issue).parts := inside
  exact (showable.inherit rfl isPart).inherit rfl isSegment

theorem isShowable_of_closed {value : Value} (closed : ∀ part ∈ value.parts, part = value)
    (short : ∀ whole, value = .int whole → whole.natAbs < Nat.pow 10 digitLimit) :
    value.IsShowable where
  shallow := by
    intro below descends distinct _
    cases below with
    | nil => show 1 < writingLimit; decide
    | cons part below =>
        have same := closed part descends.1
        simp [same] at distinct
  short := fun whole occurs => short whole (occurs.eq_of_closed closed).symm

theorem notation_isWritten {value : Value} (showable : value.IsShowable) :
    IsWritten (notationWithin writingLimit [] value) := by
  apply notationWithin_isWritten writingLimit [] value (by decide) _ showable.short
  rw [enclosing_nil]
  exact showable.shallow

theorem notationText_isWritten {value : Value} (showable : value.IsShowable) :
    IsWritten value.notationText := by
  obtain ⟨text, written⟩ := notation_isWritten showable
  simp only [notationText, written]
  exact isWritten_ok _

theorem segmentText_isWritten {display : Value → Except TextFault String} {segment : Value}
    (isFirst : Bool) (written : IsWritten (display segment)) :
    IsWritten (segmentText display isFirst segment) := by
  unfold segmentText
  split
  · exact isWritten_bind written fun shown => isWritten_ok _
  · exact isWritten_bind written fun shown => isWritten_ok _
  · exact isWritten_bind written fun shown => isWritten_ok _

theorem pathTextBy_isWritten {display : Value → Except TextFault String} {path : List Value}
    (written : ∀ segment ∈ path, IsWritten (display segment)) :
    IsWritten (pathTextBy display path) := by
  cases path with
  | nil => exact isWritten_ok _
  | cons first rest =>
      apply isWritten_bind (segmentText_isWritten true (written first List.mem_cons_self))
      intro head
      apply isWritten_bind _ fun tail => isWritten_ok _
      apply isWritten_mapM
      intro segment member
      exact segmentText_isWritten false (written segment (List.mem_cons_of_mem _ member))

theorem failureTextBy_isWritten {display : Value → Except TextFault String} {failed : Failure}
    (written : ∀ issue ∈ failed.issues, ∀ segment ∈ issue.path, IsWritten (display segment)) :
    IsWritten (failureTextBy display failed) := by
  unfold failureTextBy
  split
  · exact isWritten_ok _
  · rename_i only onlyIssue
    have onlyWritten := written only (by rw [onlyIssue]; exact List.mem_cons_self)
    exact isWritten_bind (pathTextBy_isWritten onlyWritten) fun path => isWritten_ok _
  · exact isWritten_ok _

theorem displayWithin_isWritten (fuel : Nat) (value : Value) (ends : value.EndsWithin fuel [])
    (showable : value.IsShowable) : IsWritten (displayWithin fuel value) := by
  induction fuel generalizing value with
  | zero => exact absurd (ends.one_lt List.not_mem_nil) (by omega)
  | succ fuel ih =>
      unfold displayWithin
      split
      case h_6 failed =>
        apply failureTextBy_isWritten
        intro issue member segment inside
        have isPart : Value.issue issue ∈ (Value.failure failed).parts :=
          List.mem_map_of_mem member
        have issueEnds := ends.smallerPart isPart (bulk_lt_of_view_atom rfl isPart)
        have isSegment : segment ∈ (Value.issue issue).parts := inside
        apply ih segment (issueEnds.inherit isSegment (bulk_lt_of_view_atom rfl isSegment))
        exact showable.segment member inside
      case h_7 name fields =>
        apply isWritten_bind _ fun texts => isWritten_ok _
        apply isWritten_mapM
        intro field member
        have isPart : field.2 ∈ (Value.record name fields).parts := List.mem_map_of_mem member
        apply isWritten_bind _ fun text => isWritten_ok _
        exact notation_isWritten (showable.inherit rfl isPart)
      case h_8 => exact notationText_isWritten showable
      all_goals exact isWritten_ok _

theorem display_isWritten {value : Value} (showable : value.IsShowable) :
    IsWritten value.display :=
  displayWithin_isWritten writingLimit value showable.shallow showable

theorem pathText_of_undisplayed {segment : Value} {fault : TextFault}
    (undisplayed : segment.display = .error fault) (rest : List Value) :
    pathText (segment :: rest) = .error fault := by
  have segmentStops : segmentText display true segment = .error fault := by
    unfold segmentText
    split <;> (rw [undisplayed]; rfl)
  rw [pathText, pathTextBy, segmentStops]
  rfl

def tupled (core : Value) : Nat → Value
  | 0 => core
  | levels + 1 => .tuple [core.tupled levels]

theorem notationWithin_tupled (core : Value) {fuel levels : Nat} (deep : fuel ≤ levels) :
    notationWithin fuel [] (core.tupled levels) = .error .tooDeep := by
  induction fuel generalizing levels with
  | zero => rfl
  | succ fuel ih =>
      cases levels with
      | zero => omega
      | succ levels =>
          have inner := ih (Nat.le_of_succ_le_succ deep)
          simp only [tupled, notationWithin, isAround, cellNumber?, view, List.map_cons,
            List.map_nil, List.mapM_cons, Held.trail, Bool.false_eq_true, if_false, inner]
          rfl

theorem display_tupled (core : Value) {levels : Nat} (deep : writingLimit ≤ levels) :
    (core.tupled levels).display = .error .tooDeep := by
  cases levels with
  | zero => exact absurd deep (by decide)
  | succ levels =>
      show (core.tupled (levels + 1)).notationText = _
      rw [notationText, notationWithin_tupled core deep]
      rfl

theorem occurs_tupled {core inner : Value} (atom : core.parts = []) {levels : Nat}
    (occurs : (core.tupled levels).Occurs inner) : ∃ less, inner = core.tupled less := by
  induction occurs with
  | self => exact ⟨levels, rfl⟩
  | part _ member ih =>
      obtain ⟨less, rfl⟩ := ih
      cases less with
      | zero => simp [tupled, atom] at member
      | succ less => exact ⟨less, by simpa [tupled, parts, view] using member⟩

end Value

/-- The values that the display of a fault shows. -/
def Fault.shown : Fault → List Value
  | .rejected failure => failure.issues.flatMap (·.path)
  | .missingKey key => [key]
  | _ => []

theorem Fault.display_isWritten {fault : Fault}
    (showable : ∀ value ∈ fault.shown, value.IsShowable) : IsWritten fault.display := by
  have textWritten : ∀ textFault, IsWritten (Fault.text textFault).display := by
    intro textFault
    cases textFault <;> (rw [Fault.display]; exact isWritten_ok _)
  cases fault
  case rejected failure =>
    rw [Fault.display]
    apply Value.failureTextBy_isWritten
    intro issue member segment inside
    exact Value.display_isWritten (showable segment (List.mem_flatMap.mpr ⟨issue, member, inside⟩))
  case missingKey key =>
    rw [Fault.display]
    exact Value.notationText_isWritten (showable key List.mem_cons_self)
  case pattern patternFault =>
    cases patternFault
    case text textFault =>
      rw [Fault.display]
      exact textWritten textFault
    all_goals
      rw [Fault.display]
      · exact isWritten_ok _
      · simp
  case text textFault => exact textWritten textFault
  all_goals
    rw [Fault.display]
    exact isWritten_ok _

end TolerantValidation
