import TolerantValidation.Proofs.Validator.Literals

/-!
Issues of strict schemas, and of tolerant collections of them, are located: one for each rejection,
in the order of the document, with a path to what was rejected.
-/

namespace TolerantValidation

theorem Verdict.IsReported.isOk_iff {verdict : Verdict} (reported : verdict.IsReported) :
    verdict.isOk = true ↔ verdict.issues = [] := by
  cases verdict with
  | ok accepted => exact ⟨fun _ => rfl, fun _ => rfl⟩
  | err failure => simpa [Outcome.isOk, Outcome.issues] using reported failure rfl

namespace Validator

theorem IsLeaf.refused {validator : Validator} (leaf : IsLeaf validator) {input : Value}
    {failure : Failure} (returned : (validator.run input).outcome = .ok (.err failure)) :
    ∃ issue, failure = .ofIssue issue ∧ issue.path = [] ∧
      (issue.code = .invalidType →
        ∃ expected, issue.message = "Expected " ++ expected ++ ", got " ++ input.typeName) := by
  cases leaf with
  | string =>
      simp only [run, checkString] at returned
      split at returned
      · split at returned <;> cases returned <;> exact ⟨_, rfl, rfl, by simp⟩
      · cases returned
        exact ⟨_, rfl, rfl, fun _ => ⟨"string", rfl⟩⟩
  | integer =>
      simp only [run, checkInteger] at returned
      split at returned <;> cases returned
      exact ⟨_, rfl, rfl, fun _ => ⟨"integer", rfl⟩⟩
  | number =>
      simp only [run, checkNumber] at returned
      split at returned <;> cases returned
      exact ⟨_, rfl, rfl, fun _ => ⟨"number", rfl⟩⟩
  | boolean =>
      simp only [run, checkBoolean] at returned
      split at returned <;> cases returned
      exact ⟨_, rfl, rfl, fun _ => ⟨"boolean", rfl⟩⟩
  | unknown => cases returned
  | literal =>
      simp only [run, checkLiteral] at returned
      split at returned
      · cases returned
      · split at returned
        · cases returned
        · obtain ⟨_, _, returned⟩ := Effect.bind_outcome_eq_ok.mp returned
          obtain ⟨_, _, returned⟩ := Effect.bind_outcome_eq_ok.mp returned
          cases returned
          exact ⟨_, rfl, rfl, by simp⟩

theorem IsLeaf.reports {validator : Validator} (leaf : IsLeaf validator) {input : Value}
    {verdict : Verdict} (returned : (validator.run input).outcome = .ok verdict) :
    Reports verdict.issues (fun rejection => ∃ issue,
      (validator.run input).outcome = .ok (.refuse issue) ∧
      rejection = ⟨[], .value input, issue⟩) input := by
  cases verdict with
  | ok accepted =>
      refine reports_nil_iff.mpr ?_
      rintro _ ⟨issue, refused, rfl⟩
      cases returned.symm.trans refused
  | err failure =>
      obtain ⟨issue, rfl, atRoot, named⟩ := leaf.refused returned
      let rejection : Rejection := ⟨[], .value input, issue⟩
      have located : rejection.IsLocated input := by
        refine ⟨?_, named⟩
        show input.Leads issue.path _
        rw [atRoot]
        exact .here
      refine (reports_singleton located).congr ?_
      intro other
      constructor
      · rintro rfl
        exact ⟨issue, returned, rfl⟩
      · rintro ⟨otherIssue, refused, rfl⟩
        cases returned.symm.trans refused
        rfl

theorem leaf_rejects_iff {validator : Validator} (leaf : IsLeaf validator) {input : Value}
    {rejection : Rejection} : validator.Rejects input rejection ↔ ∃ issue,
      (validator.run input).outcome = .ok (.refuse issue) ∧
      rejection = ⟨[], .value input, issue⟩ := by
  constructor
  · intro rejects
    cases leaf <;> cases rejects <;> exact ⟨_, ‹_›, rfl⟩
  · rintro ⟨issue, refused, rfl⟩
    exact .leaf leaf refused

theorem reports_wrongType (expected : String) (input : Value) :
    Reports [.wrongType expected input]
      (· = ⟨[], .value input, .wrongType expected input⟩) input := by
  let rejection : Rejection := ⟨[], .value input, .wrongType expected input⟩
  have located : rejection.IsLocated input := ⟨.here, fun _ => ⟨expected, rfl⟩⟩
  exact reports_singleton located

theorem issuesBelow_eq (segment : Value) (verdict : Verdict) :
    verdict.issuesBelow segment = verdict.issues.map (IssueAt.below segment) := by
  cases verdict <;> rfl

section Items

variable {element : Validator} {input : Value} {items : List Value}

theorem array_rejects_iff (sequence : input.sequence? = some items) {rejection : Rejection} :
    (Validator.array element).Rejects input rejection ↔
      ∃ place ∈ items.zipIdx, ∃ inner, element.Rejects place.1 inner ∧
        rejection = inner.below (.item place.2) (.int place.2) := by
  constructor
  · intro rejects
    cases rejects with
    | leaf leaf => cases leaf
    | noSequence none => cases sequence.symm.trans none
    | item otherSequence at_ inner =>
        cases sequence.symm.trans otherSequence
        exact ⟨(_, _), List.mem_zipIdx_iff_getElem?.mpr at_, _, inner, rfl⟩
  · rintro ⟨place, member, inner, rejects, rfl⟩
    exact .item sequence (List.mem_zipIdx_iff_getElem?.mp member) rejects

theorem sortItems_reports (sequence : input.sequence? = some items)
    (each : ∀ item verdict, (element.run item).outcome = .ok verdict →
      Reports verdict.issues (element.Rejects item) item)
    {accepted : List Value} {issues : List Issue}
    (returned : (sortItems element.run 0 items).outcome = .ok (accepted, issues)) :
    Reports issues ((Validator.array element).Rejects input) input := by
  obtain ⟨verdict, answered⟩ := exists_verdicts ((sortItems_answers_iff 0 items).mp ⟨_, returned⟩)
  rw [sortItems_eq 0 items answered] at returned
  cases returned
  simp only [issuesBelow_eq]
  refine (reports_zipIdx ?_ ?_).congr fun rejection => (array_rejects_iff sequence).symm
  · intro place member
    have at_ := List.mem_zipIdx_iff_getElem?.mp member
    have inside : place.1 ∈ items := List.fst_mem_of_mem_zipIdx member
    exact (each place.1 (verdict place.1) (answered place.1 inside)).below _
      fun path found leads => .item sequence at_ leads
  · rintro first second _ _ less ⟨earlier, _, rfl⟩ ⟨later, _, rfl⟩
    exact Rejection.before_of_rank rfl rfl less

theorem array_reports
    (each : ∀ item verdict, (element.run item).outcome = .ok verdict →
      Reports verdict.issues (element.Rejects item) item)
    {verdict : Verdict} (returned : ((Validator.array element).run input).outcome = .ok verdict) :
    Reports verdict.issues ((Validator.array element).Rejects input) input := by
  rw [run_array] at returned
  unfold arrayOf at returned
  split at returned
  · rename_i noSequence
    cases returned
    refine (reports_wrongType "array" input).congr fun rejection => ?_
    constructor
    · rintro rfl
      exact .noSequence noSequence
    · intro rejects
      cases rejects with
      | leaf leaf => cases leaf
      | noSequence => rfl
      | item sequence => cases noSequence.symm.trans sequence
  · rename_i items sequence
    obtain ⟨⟨accepted, issues⟩, sorted, returned⟩ := Effect.bind_outcome_eq_ok.mp returned
    have reports := sortItems_reports sequence each sorted
    cases issues <;> cases returned <;> exact reports

end Items

section Entries

variable {value key : Validator} {input : Value} {entries : List (Value × Value)}

/-- The key at a place of a mapping is rejected. -/
def RejectsKey (key : Validator) (place : (Value × Value) × Nat) (rejection : Rejection) : Prop :=
  ∃ issue, (key.run place.1.1).outcome = .ok (.refuse issue) ∧
    rejection = ⟨[.key place.2], .entry place.1.1 place.1.2, issue.below place.1.1⟩

/-- Something is rejected in the value at a place of a mapping. -/
def RejectsHeld (value : Validator) (place : (Value × Value) × Nat) (rejection : Rejection) :
    Prop :=
  ∃ inner, value.Rejects place.1.2 inner ∧
    rejection = inner.below (.value place.2) place.1.1

theorem record_rejects_iff (mapping : input.entries? = some entries) {rejection : Rejection} :
    (Validator.record value key).Rejects input rejection ↔
      ∃ place ∈ entries.zipIdx,
        RejectsKey key place rejection ∨ RejectsHeld value place rejection := by
  constructor
  · intro rejects
    cases rejects with
    | leaf leaf => cases leaf
    | noMapping none => cases mapping.symm.trans none
    | key otherMapping at_ refused =>
        cases mapping.symm.trans otherMapping
        exact ⟨(_, _), List.mem_zipIdx_iff_getElem?.mpr at_, .inl ⟨_, refused, rfl⟩⟩
    | value otherMapping at_ inner =>
        cases mapping.symm.trans otherMapping
        exact ⟨(_, _), List.mem_zipIdx_iff_getElem?.mpr at_, .inr ⟨_, inner, rfl⟩⟩
  · rintro ⟨place, member, ⟨issue, refused, rfl⟩ | ⟨inner, rejects, rfl⟩⟩
    · exact .key mapping (List.mem_zipIdx_iff_getElem?.mp member) refused
    · exact .value mapping (List.mem_zipIdx_iff_getElem?.mp member) rejects

theorem key_reports (leaf : IsLeaf key) (mapping : input.entries? = some entries)
    {place : (Value × Value) × Nat} (member : place ∈ entries.zipIdx) {verdict : Verdict}
    (returned : (key.run place.1.1).outcome = .ok verdict) :
    Reports (verdict.issuesBelow place.1.1) (RejectsKey key place) input := by
  have inside : place.1 ∈ entries := List.fst_mem_of_mem_zipIdx member
  let asKey : Rejection → Rejection := fun rejection =>
    ⟨.key place.2 :: rejection.place, .entry place.1.1 place.1.2, rejection.issue.below place.1.1⟩
  have issueEq : ∀ rejection, (asKey rejection).issue = rejection.issue.below place.1.1 :=
    fun _ => rfl
  rw [issuesBelow_eq]
  refine ((leaf.reports returned).map issueEq (fun _ _ before => .cons before) ?_).congr ?_
  · rintro _ ⟨issue, refused, rfl⟩ _
    obtain ⟨_, refusedEq, atRoot, named⟩ := leaf.refused refused
    cases refusedEq
    refine ⟨?_, named⟩
    show input.Leads (place.1.1 :: issue.path) _
    rw [atRoot]
    exact .entry mapping inside
  · intro rejection
    constructor
    · rintro ⟨_, ⟨issue, refused, rfl⟩, rfl⟩
      exact ⟨issue, refused, rfl⟩
    · rintro ⟨issue, refused, rfl⟩
      exact ⟨_, ⟨issue, refused, rfl⟩, rfl⟩

theorem held_reports (mapping : input.entries? = some entries)
    {place : (Value × Value) × Nat} (member : place ∈ entries.zipIdx) {verdict : Verdict}
    (reports : Reports verdict.issues (value.Rejects place.1.2) place.1.2) :
    Reports (verdict.issuesBelow place.1.1) (RejectsHeld value place) input := by
  have inside : place.1 ∈ entries := List.fst_mem_of_mem_zipIdx member
  rw [issuesBelow_eq]
  exact reports.below _ fun path found leads => .under mapping inside leads

theorem before_of_place {first second : (Value × Value) × Nat} {earlier later : Rejection}
    (less : first.2 < second.2)
    (rejected : RejectsKey key first earlier ∨ RejectsHeld value first earlier)
    (rejectedLater : RejectsKey key second later ∨ RejectsHeld value second later) :
    earlier.Before later := by
  rcases rejected with ⟨_, _, rfl⟩ | ⟨_, _, rfl⟩ <;>
    rcases rejectedLater with ⟨_, _, rfl⟩ | ⟨_, _, rfl⟩ <;>
    exact Rejection.before_of_rank rfl rfl (by simp only [Step.rank]; omega)

theorem flatMap_zipIdx_fst {Part Result : Type} (parts : List Part) (change : Part → List Result) :
    (parts.zipIdx.flatMap fun place => change place.1) = parts.flatMap change := by
  rw [← List.flatMap_map Prod.fst change, List.zipIdx_map_fst]

theorem sortEntries_reports (leaf : IsLeaf key) (mapping : input.entries? = some entries)
    (each : ∀ held verdict, (value.run held).outcome = .ok verdict →
      Reports verdict.issues (value.Rejects held) held)
    {stored : List (Value × Value)} {issues : List Issue}
    (returned : (sortEntries key.run value.run [] [] entries).outcome = .ok (stored, issues)) :
    Reports issues ((Validator.record value key).Rejects input) input := by
  have keys := fun entry member =>
    outcome_eq_verdictOf (sortEntries_answered returned entry member).1
  have values := fun entry member =>
    outcome_eq_verdictOf (sortEntries_answered returned entry member).2
  have issuesEq : issues = _ := sortEntries_issues returned keys values
  rw [issuesEq, List.nil_append, ← flatMap_zipIdx_fst]
  refine (reports_zipIdx ?_ fun _ _ _ _ => before_of_place).congr fun rejection =>
    (record_rejects_iff mapping).symm
  intro place member
  have inside : place.1 ∈ entries := List.fst_mem_of_mem_zipIdx member
  -- Within an entry the step to the key has the lower rank.
  refine (key_reports leaf mapping member (keys place.1 inside)).append
    (held_reports mapping member (each _ _ (values place.1 inside))) ?_
  rintro _ _ ⟨_, _, rfl⟩ ⟨_, _, rfl⟩
  exact Rejection.before_of_rank rfl rfl (by simp [Step.rank])

theorem record_reports (leaf : IsLeaf key)
    (each : ∀ held verdict, (value.run held).outcome = .ok verdict →
      Reports verdict.issues (value.Rejects held) held)
    {verdict : Verdict}
    (returned : ((Validator.record value key).run input).outcome = .ok verdict) :
    Reports verdict.issues ((Validator.record value key).Rejects input) input := by
  rw [run_record] at returned
  unfold recordOf at returned
  split at returned
  · rename_i noMapping
    cases returned
    refine (reports_wrongType "object" input).congr fun rejection => ?_
    constructor
    · rintro rfl
      exact .noMapping noMapping
    · intro rejects
      cases rejects with
      | leaf leaf => cases leaf
      | noMapping => rfl
      | key mapping => cases noMapping.symm.trans mapping
      | value mapping => cases noMapping.symm.trans mapping
  · rename_i entries mapping
    obtain ⟨⟨stored, issues⟩, sorted, returned⟩ := Effect.bind_outcome_eq_ok.mp returned
    have reports := sortEntries_reports leaf mapping each sorted
    cases issues <;> cases returned <;> exact reports

end Entries

/-- Every verdict of a plain schema reports exactly what the schema rejects. -/
theorem IsPlain.reports {schema : Validator} (plain : IsPlain schema) {input : Value}
    {verdict : Verdict} (returned : (schema.run input).outcome = .ok verdict) :
    Reports verdict.issues (schema.Rejects input) input := by
  induction plain generalizing input verdict with
  | leaf leaf => exact (leaf.reports returned).congr fun _ => (leaf_rejects_iff leaf).symm
  | array _ ih => exact array_reports (fun _ _ => ih) returned
  | record _ leaf ih => exact record_reports leaf (fun _ _ => ih) returned

section TolerantEntries

variable {value key : Validator} {input : Value} {entries : List (Value × Value)}

/-- What a tolerant mapping rejects: what the strict one does, less what stands in values whose key
is rejected. -/
def RejectsUnlessKey (value key : Validator) (input : Value) (rejection : Rejection) : Prop :=
  (Validator.record value key).Rejects input rejection ∧
  ∀ position rest keyRejection, rejection.place = .value position :: rest →
    (Validator.record value key).Rejects input keyRejection → keyRejection.place ≠ [.key position]

theorem rejectsUnlessKey_iff (leaf : IsLeaf key) (mapping : input.entries? = some entries)
    (keys : ∀ entry ∈ entries, (key.run entry.1).Answers) {rejection : Rejection} :
    RejectsUnlessKey value key input rejection ↔
      ∃ place ∈ entries.zipIdx, RejectsKey key place rejection ∨
        ((verdictOf key.run place.1.1).isOk = true ∧ RejectsHeld value place rejection) := by
  constructor
  · rintro ⟨rejects, keyAccepted⟩
    obtain ⟨place, member, rejectedKey | rejectedHeld⟩ := (record_rejects_iff mapping).mp rejects
    · exact ⟨place, member, .inl rejectedKey⟩
    · refine ⟨place, member, .inr ⟨?_, rejectedHeld⟩⟩
      have at_ := List.mem_zipIdx_iff_getElem?.mp member
      have answered := outcome_eq_verdictOf (keys place.1 (List.fst_mem_of_mem_zipIdx member))
      obtain ⟨inner, _, rfl⟩ := rejectedHeld
      cases verdictEq : verdictOf key.run place.1.1 with
      | ok accepted => rfl
      | err failure =>
          rw [verdictEq] at answered
          obtain ⟨issue, rfl, _⟩ := leaf.refused answered
          exact (keyAccepted _ _ _ rfl (.key mapping at_ answered) rfl).elim
  · rintro ⟨place, member, rejectedKey | ⟨accepted, rejectedHeld⟩⟩
    · refine ⟨(record_rejects_iff mapping).mpr ⟨place, member, .inl rejectedKey⟩, ?_⟩
      obtain ⟨_, _, rfl⟩ := rejectedKey
      rintro position rest _ ⟨⟩
    · refine ⟨(record_rejects_iff mapping).mpr ⟨place, member, .inr rejectedHeld⟩, ?_⟩
      obtain ⟨inner, _, rfl⟩ := rejectedHeld
      rintro _ _ keyRejection ⟨⟩ rejects
      -- A rejection of a key at this position is one of this entry's key, which is accepted.
      obtain ⟨other, otherMember, ⟨issue, refused, rfl⟩ | ⟨_, _, rfl⟩⟩ :=
        (record_rejects_iff mapping).mp rejects
      · rintro samePlace
        have positionEq : other.2 = place.2 := by simpa using samePlace
        have at_ := List.mem_zipIdx_iff_getElem?.mp member
        have otherAt := List.mem_zipIdx_iff_getElem?.mp otherMember
        rw [positionEq, at_] at otherAt
        have sameEntry : place.1 = other.1 := Option.some.inj otherAt
        rw [sameEntry, verdictOf, refused] at accepted
        cases accepted
      · rintro ⟨⟩

theorem sortLooseEntries_reports (leaf : IsLeaf key) (mapping : input.entries? = some entries)
    (each : ∀ held verdict, (value.run held).outcome = .ok verdict →
      Reports verdict.issues (value.Rejects held) held)
    {stored : List (Value × Value)} {issues : List Issue}
    (returned : (sortLooseEntries key.run value.run [] [] entries).outcome = .ok (stored, issues)) :
    Reports issues (RejectsUnlessKey value key input) input := by
  obtain ⟨answers, _, finalEq⟩ := sortLooseEntries_returned returned
  cases finalEq
  rw [← flatMap_zipIdx_fst entries]
  refine (reports_zipIdx ?_ ?_).congr fun rejection =>
    (rejectsUnlessKey_iff leaf mapping fun entry member => (answers entry member).1).symm
  · intro place member
    have inside : place.1 ∈ entries := List.fst_mem_of_mem_zipIdx member
    have keyAnswered := outcome_eq_verdictOf (answers place.1 inside).1
    have keyReports := key_reports leaf mapping member keyAnswered
    cases keyEq : verdictOf key.run place.1.1 with
    | err failure =>
        rw [entryOutcome_issues_of_refused keyEq]
        exact keyReports.congr fun rejection => by simp [Outcome.isOk]
    | ok accepted =>
        rw [keyEq, Verdict.issuesBelow, reports_nil_iff] at keyReports
        have valueAnswered := outcome_eq_verdictOf
          ((answers place.1 inside).2 (by rw [keyEq]; rfl))
        rw [entryOutcome_issues_of_accepted keyEq]
        exact (held_reports mapping member (each _ _ valueAnswered)).congr fun rejection => by
          simp [keyReports, Outcome.isOk]
  · rintro first second earlier later less rejected laterRejected
    exact before_of_place less (rejected.imp_right And.right) (laterRejected.imp_right And.right)

end TolerantEntries

theorem looseArray_tells {element : Validator} (plain : IsPlain element) {input : Value}
    {items : List Value} (sequence : input.sequence? = some items)
    (answers : ((Validator.looseArray element none).run input).Answers) :
    ∃ issues kept, Tells (fun callback => (Validator.looseArray element (some callback)).run input)
      (toldOf issues input) kept ∧
      Reports issues ((Validator.array element).Rejects input) input := by
  simp only [run_looseArray] at answers ⊢
  rw [looseArrayOf_answers_iff sequence] at answers
  obtain ⟨⟨accepted, issues⟩, sorted⟩ := (sortItems_answers_iff 0 items).mpr answers
  refine ⟨issues, .list accepted, ?_, sortItems_reports sequence (fun _ _ => plain.reports) sorted⟩
  simp only [looseArrayOf, sequence]
  exact tells_of_sorted sorted Value.list input

theorem looseRecord_tells {value key : Validator} (plain : IsPlain value) (leaf : IsLeaf key)
    {input : Value} {entries : List (Value × Value)} (mapping : input.entries? = some entries)
    (answers : ((Validator.looseRecord value key none).run input).Answers) :
    ∃ issues kept, Tells (fun callback =>
        (Validator.looseRecord value key (some callback)).run input) (toldOf issues input) kept ∧
      Reports issues (RejectsUnlessKey value key input) input := by
  simp only [run_looseRecord, looseRecordOf, mapping] at answers ⊢
  rw [keepEntries_eq_sortLooseEntries [] [] entries, bind_assoc, Effect.bind_answers] at answers
  obtain ⟨⟨stored, issues⟩, sorted, _⟩ := answers
  refine ⟨issues, .mapping stored, tells_of_sorted sorted Value.mapping input, ?_⟩
  exact sortLooseEntries_reports leaf mapping (fun _ _ => plain.reports) sorted

end Validator

/-- A schema of leaves answers where it can tell the literals it meets. Its issues are those of the
rejections, each with a path to what was rejected, in the order of the document; the same goes for
what tolerant collections of such schemas tell, but for values with rejected keys. -/
theorem issues_locate_rejections {schema : Validator} (plain : schema.IsPlain) (input : Value) :
    (input.HasProperKeys →
      (∀ path found other, input.Leads path found → input.Leads path other →
        other.held = found.held) ∧
      ((schema.run input).Answers ↔ schema.TellsLiterals input) ∧
      (((Validator.looseArray schema none).run input).Answers ↔
        (Validator.array schema).TellsLiterals input) ∧
      ∀ key : Validator, key.IsLeaf →
        (((Validator.looseRecord schema key none).run input).Answers ↔
          Validator.TellsReadLiterals schema key input)) ∧
    (∀ verdict, (schema.run input).outcome = .ok verdict →
      (verdict.isOk = true ↔ ∀ rejection, ¬ schema.Rejects input rejection) ∧
      Reports verdict.issues (schema.Rejects input) input) ∧
    (∀ items, input.sequence? = some items →
      ((Validator.looseArray schema none).run input).Answers →
      ∃ issues kept,
        Tells (fun callback => (Validator.looseArray schema (some callback)).run input)
          (toldOf issues input) kept ∧
        Reports issues ((Validator.array schema).Rejects input) input) ∧
    ∀ (key : Validator) entries, key.IsLeaf → input.entries? = some entries →
      ((Validator.looseRecord schema key none).run input).Answers →
      ∃ issues kept,
        Tells (fun callback => (Validator.looseRecord schema key (some callback)).run input)
          (toldOf issues input) kept ∧
        Reports issues (Validator.RejectsUnlessKey schema key input) input := by
  refine ⟨?_, ?_, ?_, ?_⟩
  · intro proper
    refine ⟨fun path found other leads => leads.held_unique proper, plain.answers_iff proper, ?_,
      fun key leaf => Validator.looseRecord_answers_iff plain leaf proper⟩
    rw [Validator.looseArray_answers_iff, (Validator.IsPlain.array plain).answers_iff proper]
  · intro verdict returned
    have reports := plain.reports returned
    refine ⟨?_, reports⟩
    rw [← reports.eq_nil_iff]
    exact (Validator.run_reported schema returned).isOk_iff
  · exact fun items sequence answers => Validator.looseArray_tells plain sequence answers
  · exact fun key entries leaf mapping answers =>
      Validator.looseRecord_tells plain leaf mapping answers

/-- A literal cannot say that it was given a whole number with too many digits. -/
theorem literal_stops_on_long_integer :
    let schema := Validator.record (.literal (.int 5)) (.string none none)
    let long := Value.int (Nat.pow 16 4000)
    (schema.run (.mapping [(.text "a", long)])).outcome = .error (.text .tooManyDigits) := by
  intro schema long
  have written : (Value.int 5).notationText = .ok "5" := by decide +kernel
  have unwritable : long.notationText = .error .tooManyDigits := by decide +kernel
  have differs : long.equal? (.int 5) = some false := by decide +kernel
  have stops := Validator.checkLiteral_of_unwritable differs written unwritable
  simp only [schema, Validator.run, Validator.recordOf, Value.entries?_mapping,
    Validator.sortEntries, stops]
  rfl

theorem issues_locate_rejections_of_mixed_parts :
    let row := Validator.array (.literal .null)
    let text := Validator.string none none
    let schema := Validator.record row text
    let wrong (message : String) (path : List Value) : Issue :=
      { code := .invalidType, message, path }
    let differs (path : List Value) : Issue :=
      { code := .invalidValue, message := "Expected None, got True", path }
    let entries := Value.mapping [(.text "a", .list [.null, .bool true]), (.int 5, .null)]
    let read := [differs [.text "a", .int 1], wrong "Expected string, got int" [.int 5]]
    let rows := Value.list [.null, .tuple [.bool true, .null]]
    let inRows := [wrong "Expected array, got NoneType" [.int 0], differs [.int 1, .int 0]]
    schema.TellsLiterals entries ∧
    Reports (read ++ [wrong "Expected array, got NoneType" [.int 5]]) (schema.Rejects entries)
      entries ∧
    Reports read (Validator.RejectsUnlessKey row text entries) entries ∧
    Reports inRows ((Validator.array row).Rejects rows) rows := by
  intro row text schema wrong differs entries read rows inRows
  have rowPlain : row.IsPlain := .array (.leaf .literal)
  have atom : ∀ value : Value, value.sequence? = none → value.entries? = none →
      value.HasProperKeys := fun _ => Value.hasProperKeys_of_atom
  have listProper : (Value.list [.null, .bool true]).HasProperKeys := by
    apply Value.hasProperKeys_of_items (Value.sequence?_collection_list _)
    simp only [List.forall_mem_cons]
    exact ⟨atom _ rfl rfl, atom _ rfl rfl, by simp⟩
  have proper : entries.HasProperKeys := by
    apply Value.hasProperKeys_of_entries (Value.entries?_mapping _)
    · simp only [List.forall_mem_cons]
      exact ⟨rfl, rfl, by simp⟩
    · exact .cons (List.forall_mem_singleton.mpr rfl) (List.pairwise_singleton _ _)
    · simp
    · simp only [List.forall_mem_cons]
      exact ⟨listProper, atom _ rfl rfl, by simp⟩
  obtain ⟨answering, strictly, _, _⟩ := issues_locate_rejections (.record rowPlain .string) entries
  obtain ⟨_, _, _, tolerantly⟩ := issues_locate_rejections rowPlain entries
  obtain ⟨_, _, inOrder, _⟩ := issues_locate_rejections rowPlain rows
  refine ⟨(answering proper).2.1.mp ⟨_, rfl⟩, (strictly _ rfl).2, ?_, ?_⟩
  · obtain ⟨issues, kept, tells, reports⟩ :=
      tolerantly text _ .string (Value.entries?_mapping _) ⟨_, rfl⟩
    have sorted : (Validator.sortLooseEntries text.run row.run [] []
        [(.text "a", .list [.null, .bool true]), (.int 5, .null)]).outcome = .ok ([], read) := rfl
    rwa [← toldOf_injective (tells.unique (tells_of_sorted sorted Value.mapping entries)).1]
  · obtain ⟨issues, kept, tells, reports⟩ :=
      inOrder _ (Value.sequence?_collection_list _) ⟨_, rfl⟩
    have sorted : (Validator.sortItems row.run 0
        [.null, .tuple [.bool true, .null]]).outcome = .ok ([], inRows) := rfl
    rwa [← toldOf_injective (tells.unique (tells_of_sorted sorted Value.list rows)).1]

end TolerantValidation
