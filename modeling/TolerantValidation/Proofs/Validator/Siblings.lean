import TolerantValidation.Proofs.Validator.Containment
import TolerantValidation.Proofs.Validator.LooseEntries

/-!
Strict collections and their tolerant siblings. The strict one accepts exactly where the tolerant
one has nothing to tell; otherwise it reports what the callback is told, and a strict mapping also
what is wrong with values under refused keys, which the tolerant one does not read.
-/

namespace TolerantValidation

def handTo (callback : Sink) (told : List FailureContext) : Run Unit :=
  forM told fun context => discard (callback context)

/-- The run accepts a result after it has handed its callback the given failures, and does nothing
with the callback besides: it stops only where the callback does. -/
def Tells (run : Sink → Run Verdict) (told : List FailureContext) (result : Value) : Prop :=
  ∃ events, ∀ callback, run callback = do
    (⟨events, .ok ()⟩ : Run Unit)
    handTo callback told
    pure (.ok result)

/-- The strict run accepts what the tolerant run accepts without a word to its callback. Where there
is no such result, the one reports issues and the other tells its callback about the input. -/
def SiblingsAgree (strict : Run Verdict) (tolerant : Sink → Run Verdict) (input : Value)
    (reported told : List Issue) : Prop :=
  (∀ result, strict.outcome = .ok (.ok result) ↔ Tells tolerant [] result) ∧
  ((∀ result, strict.outcome ≠ .ok (.ok result)) →
    strict.outcome = .ok (.err { issues := reported }) ∧
    ∃ kept, Tells tolerant [⟨{ issues := told }, input⟩] kept)

theorem handTo_of_noting {callback : Sink} {note : FailureContext → List Event}
    (notes : ∀ context, callback context = ⟨note context, .ok .null⟩) (told : List FailureContext) :
    handTo callback told = ⟨told.flatMap note, .ok ()⟩ := by
  unfold handTo
  induction told with
  | nil => rfl
  | cons context rest ih =>
      have noted : discard (callback context) = (⟨note context, .ok ()⟩ : Run Unit) := by
        rw [notes]
        exact Effect.eq_of_events_outcome (List.append_nil _) rfl
      rw [List.forM_cons, ih, noted, Effect.bind_ok rfl]
      rfl

/-- What a callback is told and what is accepted can be read off the runs. -/
theorem Tells.unique {run : Sink → Run Verdict} {told others : List FailureContext}
    {result other : Value} (left : Tells run told result) (right : Tells run others other) :
    told = others ∧ result = other := by
  obtain ⟨events, leftRun⟩ := left
  obtain ⟨moreEvents, rightRun⟩ := right
  have same : ∀ (callback : Sink) (note : FailureContext → List Event),
      (∀ context, callback context = ⟨note context, .ok .null⟩) →
      events ++ told.flatMap note = moreEvents ++ others.flatMap note ∧ result = other := by
    intro callback note notes
    have runs := (leftRun callback).symm.trans (rightRun callback)
    simpa [handTo_of_noting notes] using runs
  have silent := same (fun _ => ⟨[], .ok .null⟩) (fun _ => []) fun _ => rfl
  let report : FailureContext → Event := fun context => .reported "" context.failure context.input
  have noted := same (fun context => ⟨[report context], .ok .null⟩)
    (fun context => [report context]) fun _ => rfl
  have nothing : ∀ contexts : List FailureContext,
      contexts.flatMap (fun _ => ([] : List Event)) = [] :=
    fun contexts => List.flatMap_eq_nil_iff.mpr fun _ _ => rfl
  have sameEvents : events = moreEvents := by simpa [nothing] using silent.1
  have sameReports : told.map report = others.map report := by
    simpa [sameEvents, List.map_eq_flatMap] using noted.1
  refine ⟨(List.map_inj_right ?_).mp sameReports, silent.2⟩
  rintro ⟨failure, input⟩ ⟨otherFailure, otherInput⟩ reportsSame
  cases reportsSame
  rfl

def toldOf (issues : List Issue) (input : Value) : List FailureContext :=
  if issues.isEmpty then [] else [⟨{ issues }, input⟩]

theorem toldOf_injective {issues others : List Issue} {input : Value}
    (same : toldOf issues input = toldOf others input) : issues = others := by
  cases issues <;> cases others <;> simp_all [toldOf]

theorem tell_eq_handTo (callback : Sink) (issues : List Issue) (input : Value) :
    Validator.tell callback issues input = handTo callback (toldOf issues input) := by
  by_cases noIssues : issues = []
  · simp only [Validator.tell, toldOf, noIssues, handTo, List.isEmpty_nil, if_true, List.forM_nil]
  · rw [Validator.tell_of_ne_nil noIssues]
    simp only [toldOf, List.isEmpty_iff, noIssues, if_false, handTo, List.forM_cons,
      List.forM_nil, bind_pure_unit]
    rfl

theorem tells_of_sorted {State : Type} {sorted : Run (State × List Issue)} {final : State}
    {issues : List Issue} (returned : sorted.outcome = .ok (final, issues)) (answer : State → Value)
    (input : Value) :
    Tells (fun callback => sorted >>= fun state => do
        Validator.tell callback state.2 input
        pure (.ok (answer state.1)))
      (toldOf issues input) (answer final) := by
  refine ⟨sorted.events, ?_⟩
  intro callback
  simp only [Effect.bind_ok returned, tell_eq_handTo]
  rfl

theorem siblingsAgree_of_accepted {strict : Run Verdict} {tolerant : Sink → Run Verdict}
    {input accepted : Value} {reported told : List Issue}
    (strictly : strict.outcome = .ok (.ok accepted)) (tolerantly : Tells tolerant [] accepted) :
    SiblingsAgree strict tolerant input reported told := by
  constructor
  · intro result
    rw [strictly]
    constructor
    · intro returned
      cases returned
      exact tolerantly
    · intro tells
      rw [(tolerantly.unique tells).2]
  · intro refused
    exact (refused accepted strictly).elim

theorem siblingsAgree_of_refused {strict : Run Verdict} {tolerant : Sink → Run Verdict}
    {input kept : Value} {reported told : List Issue}
    (strictly : strict.outcome = .ok (.err { issues := reported }))
    (tolerantly : Tells tolerant [⟨{ issues := told }, input⟩] kept) :
    SiblingsAgree strict tolerant input reported told := by
  constructor
  · intro result
    rw [strictly]
    constructor
    · intro returned
      cases returned
    · intro untold
      cases (tolerantly.unique untold).1
  · intro _
    exact ⟨strictly, kept, tolerantly⟩

def issuesUnderRefusedKey (keyVerdict valueVerdict : Value → Verdict) (entry : Value × Value) :
    List Issue :=
  if (keyVerdict entry.1).isOk then [] else (valueVerdict entry.2).issuesBelow entry.1

namespace Validator

variable {checkKey checkValue : Value → Run Verdict} {keyVerdict valueVerdict : Value → Verdict}

theorem issuesBelow_append_eq (entry : Value × Value) :
    (keyVerdict entry.1).issuesBelow entry.1 ++ (valueVerdict entry.2).issuesBelow entry.1 =
      (entryOutcome keyVerdict valueVerdict entry).issues ++
        issuesUnderRefusedKey keyVerdict valueVerdict entry := by
  unfold entryOutcome issuesUnderRefusedKey
  cases keyVerdict entry.1 with
  | err failure => rfl
  | ok key =>
      cases valueVerdict entry.2 with
      | err failure => simp [Verdict.issuesBelow, Outcome.issues, Outcome.isOk, FailureAt.below]
      | ok value => rfl

theorem entryOutcome_eq_ok_iff {entry pair : Value × Value} :
    entryOutcome keyVerdict valueVerdict entry = .ok pair ↔
      keyVerdict entry.1 = .ok pair.1 ∧ valueVerdict entry.2 = .ok pair.2 := by
  unfold entryOutcome
  cases keyVerdict entry.1 with
  | err failure => simp
  | ok key =>
      cases valueVerdict entry.2 with
      | err failure => simp
      | ok value => simp [Prod.ext_iff]

theorem sortEntry_unrefused {entry : Value × Value} {state next : List (Value × Value) × List Issue}
    (keyAnswered : (checkKey entry.1).outcome = .ok (keyVerdict entry.1))
    (valueAnswered : (checkValue entry.2).outcome = .ok (valueVerdict entry.2))
    (returned : (sortEntry checkKey checkValue state entry).outcome = .ok next)
    (noIssues : next.2 = []) :
    state.2 = [] ∧
      Value.CanBeStored state.1 (entryOutcome keyVerdict valueVerdict entry).toList ∧
      next.1 = (entryOutcome keyVerdict valueVerdict entry).toList.foldl
        (fun stored pair => Value.put pair.1 pair.2 stored) state.1 := by
  simp only [sortEntry, Effect.bind_ok keyAnswered, Effect.bind_ok valueAnswered] at returned
  unfold entryOutcome
  generalize keyVerdict entry.1 = key at returned ⊢
  generalize valueVerdict entry.2 = value at returned ⊢
  cases key with
  | err failure =>
      cases returned
      exact ⟨(List.append_eq_nil_iff.mp noIssues).1, trivial, rfl⟩
  | ok key =>
      cases value with
      | err failure =>
          cases returned
          exact ⟨(List.append_eq_nil_iff.mp noIssues).1, trivial, rfl⟩
      | ok value =>
          obtain ⟨stored, storing, final⟩ := Effect.bind_outcome_eq_ok.mp returned
          cases final
          rw [show state.2 = [] from noIssues] at storing
          obtain ⟨noFault, rfl⟩ := store_returned storing
          exact ⟨noIssues, ⟨noFault, trivial⟩, rfl⟩

theorem sortEntries_returns {entries : List (Value × Value)}
    (keys : ∀ entry ∈ entries, (checkKey entry.1).outcome = .ok (keyVerdict entry.1))
    (values : ∀ entry ∈ entries, (checkValue entry.2).outcome = .ok (valueVerdict entry.2))
    (storable : Value.CanBeStored [] (pairsOf keyVerdict valueVerdict entries)) :
    (sortEntries checkKey checkValue [] [] entries).Answers := by
  -- Nothing has to be stored any more once an issue has come up.
  have folded : ∀ state : List (Value × Value) × List Issue,
      (state.2 = [] →
        Value.CanBeStored state.1 (pairsOf keyVerdict valueVerdict entries)) →
      (entries.foldlM (sortEntry checkKey checkValue) state).Answers := by
    clear storable
    induction entries with
    | nil => exact fun state _ => Effect.pure_answers state
    | cons entry rest ih =>
        intro state storable
        rw [List.forall_mem_cons] at keys values
        simp only [pairsOf_cons, Value.canBeStored_append] at storable
        rw [List.foldlM_cons]
        have answers : (sortEntry checkKey checkValue state entry).Answers := by
          refine sortEntry_answers ⟨_, keys.1⟩ ⟨_, values.1⟩ ?_
          intro noIssues key value keyAccepted valueAccepted
          have keyEq := Except.ok.inj (keys.1.symm.trans keyAccepted)
          have valueEq := Except.ok.inj (values.1.symm.trans valueAccepted)
          have first := (storable noIssues).1
          simp only [entryOutcome, keyEq, valueEq] at first
          exact first.1
        obtain ⟨next, stepped⟩ := answers
        refine Effect.bind_answers.mpr ⟨next, stepped, ih keys.2 values.2 next ?_⟩
        intro noIssues
        obtain ⟨before, _, nextEq⟩ := sortEntry_unrefused keys.1 values.1 stepped noIssues
        rw [nextEq]
        exact (storable before).2
  rw [sortEntries_eq_foldlM]
  exact folded ([], []) fun _ => storable

theorem sortEntries_of_accepted {entries : List (Value × Value)}
    (keys : ∀ entry ∈ entries, (checkKey entry.1).outcome = .ok (keyVerdict entry.1))
    (values : ∀ entry ∈ entries, (checkValue entry.2).outcome = .ok (valueVerdict entry.2))
    (accepted : ∀ entry ∈ entries, ∃ pair, entryOutcome keyVerdict valueVerdict entry = .ok pair)
    {stored : List (Value × Value)}
    (storable : Value.CanBeStored stored (pairsOf keyVerdict valueVerdict entries)) :
    sortEntries checkKey checkValue stored [] entries =
      ⟨entries.flatMap fun entry => (checkKey entry.1).events ++ (checkValue entry.2).events,
        .ok ((pairsOf keyVerdict valueVerdict entries).foldl
          (fun stored pair => Value.put pair.1 pair.2 stored) stored, [])⟩ := by
  induction entries generalizing stored with
  | nil => rfl
  | cons entry rest ih =>
      simp only [List.forall_mem_cons] at keys values accepted
      obtain ⟨⟨key, value⟩, pairEq⟩ := accepted.1
      obtain ⟨keyEq, valueEq⟩ := entryOutcome_eq_ok_iff.mp pairEq
      have keyAnswered := keys.1.trans (congrArg Except.ok keyEq)
      have valueAnswered := values.1.trans (congrArg Except.ok valueEq)
      rw [pairsOf_cons, pairEq] at storable
      obtain ⟨noFault, later⟩ := storable
      have restEq := ih keys.2 values.2 accepted.2 later
      simp only [sortEntries, Effect.bind_ok keyAnswered, Effect.bind_ok valueAnswered,
        List.isEmpty_nil, if_true, store_of_noFault noFault, pure_bind, restEq, pairsOf_cons,
        List.flatMap_cons, pairEq, Outcome.toList, List.foldl_append, List.foldl_cons,
        List.foldl_nil, List.append_assoc]

theorem arrayOf_siblingsAgree {check : Value → Run Verdict} {input : Value} {items : List Value}
    (sequence : input.sequence? = some items) (answers : ∀ item ∈ items, (check item).Answers) :
    ∃ issues, SiblingsAgree (arrayOf check input)
      (fun callback => looseArrayOf check (some callback) input) input issues issues := by
  obtain ⟨⟨accepted, issues⟩, sorted⟩ := (sortItems_answers_iff 0 items).mpr answers
  have strictly : (arrayOf check input).outcome =
      .ok (if issues.isEmpty then .ok (.list accepted) else .err { issues }) := by
    simp only [arrayOf, sequence, Effect.bind_ok sorted]
    rfl
  have tells : Tells (fun callback => looseArrayOf check (some callback) input)
      (toldOf issues input) (.list accepted) := by
    simp only [looseArrayOf, sequence]
    exact tells_of_sorted sorted Value.list input
  refine ⟨issues, ?_⟩
  cases issues with
  | nil => exact siblingsAgree_of_accepted strictly tells
  | cons issue rest => exact siblingsAgree_of_refused strictly tells

theorem looseRecordOf_tells {input : Value} {entries : List (Value × Value)}
    (mapping : input.entries? = some entries)
    (keys : ∀ entry ∈ entries, (checkKey entry.1).outcome = .ok (keyVerdict entry.1))
    (values : ∀ entry ∈ entries, (keyVerdict entry.1).isOk = true →
      (checkValue entry.2).outcome = .ok (valueVerdict entry.2))
    (storable : Value.CanBeStored [] (pairsOf keyVerdict valueVerdict entries)) :
    Tells (fun callback => looseRecordOf checkKey checkValue (some callback) input)
      (toldOf (entries.flatMap fun entry => (entryOutcome keyVerdict valueVerdict entry).issues)
        input)
      (.mapping (Value.ofPairs (pairsOf keyVerdict valueVerdict entries))) := by
  have sorted := sortLooseEntries_eq entries keys values storable
  simp only [looseRecordOf, mapping]
  exact tells_of_sorted (congrArg Effect.outcome sorted) Value.mapping input

theorem recordOf_siblingsAgree {input : Value} {entries : List (Value × Value)}
    (mapping : input.entries? = some entries)
    (keys : ∀ entry ∈ entries, (checkKey entry.1).outcome = .ok (keyVerdict entry.1))
    (values : ∀ entry ∈ entries, (checkValue entry.2).outcome = .ok (valueVerdict entry.2))
    (storable : Value.CanBeStored [] (pairsOf keyVerdict valueVerdict entries))
    (reported : ∀ entry ∈ entries,
      (keyVerdict entry.1).IsReported ∧ (valueVerdict entry.2).IsReported) :
    SiblingsAgree (recordOf checkKey checkValue input)
      (fun callback => looseRecordOf checkKey checkValue (some callback) input) input
      (entries.flatMap fun entry => (entryOutcome keyVerdict valueVerdict entry).issues ++
        issuesUnderRefusedKey keyVerdict valueVerdict entry)
      (entries.flatMap fun entry => (entryOutcome keyVerdict valueVerdict entry).issues) := by
  have tells := looseRecordOf_tells mapping keys (fun entry member _ => values entry member)
    storable
  by_cases accepted : ∀ entry ∈ entries, ∃ pair,
      entryOutcome keyVerdict valueVerdict entry = .ok pair
  · have untold : (entries.flatMap fun entry =>
        (entryOutcome keyVerdict valueVerdict entry).issues) = [] := by
      apply List.flatMap_eq_nil_iff.mpr
      intro entry member
      obtain ⟨pair, pairEq⟩ := accepted entry member
      rw [pairEq]
      rfl
    rw [untold] at tells
    refine siblingsAgree_of_accepted ?_ tells
    simp only [recordOf, mapping, sortEntries_of_accepted keys values accepted storable]
    rfl
  · have told : (entries.flatMap fun entry =>
        (entryOutcome keyVerdict valueVerdict entry).issues) ≠ [] := by
      intro untold
      apply accepted
      intro entry member
      have noIssues := List.flatMap_eq_nil_iff.mp untold entry member
      obtain ⟨keyReported, valueReported⟩ := reported entry member
      cases outcomeEq : entryOutcome keyVerdict valueVerdict entry with
      | ok pair => exact ⟨pair, rfl⟩
      | err failure =>
          rw [outcomeEq] at noIssues
          exact (entryOutcome_reported keyReported (fun _ => valueReported) outcomeEq noIssues).elim
    rw [toldOf, if_neg (by simpa using told)] at tells
    refine siblingsAgree_of_refused ?_ tells
    obtain ⟨⟨stored, issues⟩, returned⟩ := sortEntries_returns keys values storable
    have issuesEq := sortEntries_issues returned keys values
    simp only [List.nil_append, issuesBelow_append_eq] at issuesEq
    have reports : issues ≠ [] := by
      rintro rfl
      apply told
      simp only [List.nil_eq, List.flatMap_eq_nil_iff, List.append_eq_nil_iff] at issuesEq ⊢
      exact fun entry member => (issuesEq entry member).1
    simp only [recordOf, mapping, Effect.bind_ok returned, List.isEmpty_iff, reports, if_false,
      ← issuesEq]
    rfl

end Validator

/-- A strict collection accepts what its tolerant sibling accepts without a word, and otherwise
reports what the sibling tells: all of it for items, and for entries with the issues of values under
refused keys put in behind those of the keys. What is no collection gets one issue from both. -/
theorem strict_and_tolerant_siblings_agree (element key value : Validator) (input : Value) :
    (input.sequence? = none →
      (Validator.array element).run input =
        ⟨[], .ok (.err { issues := [{ code := .invalidType
                                      message := "Expected array, got " ++ input.typeName }] })⟩ ∧
      ∀ onError, (Validator.looseArray element onError).run input =
        (Validator.array element).run input) ∧
    (∀ items, input.sequence? = some items → (∀ item ∈ items, (element.run item).Answers) →
      ∃ issues, SiblingsAgree ((Validator.array element).run input)
        (fun callback => (Validator.looseArray element (some callback)).run input) input issues
        issues) ∧
    (input.entries? = none →
      (Validator.record value key).run input =
        ⟨[], .ok (.err { issues := [{ code := .invalidType
                                      message := "Expected object, got " ++ input.typeName }] })⟩ ∧
      ∀ onError, (Validator.looseRecord value key onError).run input =
        (Validator.record value key).run input) ∧
    ∀ (entries : List (Value × Value)) (keyVerdict valueVerdict : Value → Verdict),
      input.entries? = some entries →
      (∀ entry ∈ entries, (key.run entry.1).outcome = .ok (keyVerdict entry.1)) →
      (∀ entry ∈ entries, (value.run entry.2).outcome = .ok (valueVerdict entry.2)) →
      Value.CanBeStored [] (pairsOf keyVerdict valueVerdict entries) →
      SiblingsAgree ((Validator.record value key).run input)
        (fun callback => (Validator.looseRecord value key (some callback)).run input) input
        (entries.flatMap fun entry => (entryOutcome keyVerdict valueVerdict entry).issues ++
          issuesUnderRefusedKey keyVerdict valueVerdict entry)
        (entries.flatMap fun entry => (entryOutcome keyVerdict valueVerdict entry).issues) := by
  simp only [Validator.run_array, Validator.run_looseArray, Validator.run_record,
    Validator.run_looseRecord]
  refine ⟨?_, ?_, ?_, ?_⟩
  · intro noSequence
    simp only [Validator.arrayOf, Validator.looseArrayOf, noSequence]
    exact ⟨rfl, fun _ => trivial⟩
  · intro items sequence answers
    exact Validator.arrayOf_siblingsAgree sequence answers
  · intro noMapping
    simp only [Validator.recordOf, Validator.looseRecordOf, noMapping]
    exact ⟨rfl, fun _ => trivial⟩
  · intro entries keyVerdict valueVerdict mapping keys values storable
    exact Validator.recordOf_siblingsAgree mapping keys values storable fun entry member =>
      ⟨Validator.run_reported key (keys entry member),
        Validator.run_reported value (values entry member)⟩

/-- A number among texts, and numbers as key and value of one entry and as value of the next. -/
theorem strict_and_tolerant_siblings_agree_of_refused_parts :
    let text := Validator.string none none
    let wrong (path : List Value) : Issue :=
      { code := .invalidType, message := "Expected string, got int", path }
    let items := Value.tuple [.text "a", .int 1]
    let entries := Value.mapping [(.int 1, .int 2), (.text "a", .int 3)]
    (((Validator.array text).run items).outcome = .ok (.err { issues := [wrong [.int 1]] }) ∧
      ∃ kept, Tells (fun callback => (Validator.looseArray text (some callback)).run items)
        [⟨{ issues := [wrong [.int 1]] }, items⟩] kept) ∧
    (((Validator.record text text).run entries).outcome =
        .ok (.err { issues := [wrong [.int 1], wrong [.int 1], wrong [.text "a"]] }) ∧
      ∃ kept, Tells (fun callback => (Validator.looseRecord text text (some callback)).run entries)
        [⟨{ issues := [wrong [.int 1], wrong [.text "a"]] }, entries⟩] kept) := by
  intro text wrong items entries
  constructor
  · obtain ⟨issues, agree⟩ := (strict_and_tolerant_siblings_agree text text text items).2.1
      [.text "a", .int 1] (Value.sequence?_collection_tuple _)
      (by
        simp only [List.forall_mem_cons]
        exact ⟨⟨_, rfl⟩, ⟨_, rfl⟩, by simp⟩)
    have refused : ((Validator.array text).run items).outcome =
      .ok (.err { issues := [wrong [.int 1]] }) := rfl
    obtain ⟨reported, told⟩ := agree.2 (by rw [refused]; rintro result ⟨⟩)
    cases refused.symm.trans reported
    exact ⟨refused, told⟩
  · have agree := (strict_and_tolerant_siblings_agree text text text entries).2.2.2
      [(.int 1, .int 2), (.text "a", .int 3)] (Validator.checkString none none)
      (Validator.checkString none none) (Value.entries?_mapping _)
      (by simp only [List.forall_mem_cons]; exact ⟨rfl, rfl, by simp⟩)
      (by simp only [List.forall_mem_cons]; exact ⟨rfl, rfl, by simp⟩)
      trivial
    exact agree.2 (by rintro result ⟨⟩)

end TolerantValidation
