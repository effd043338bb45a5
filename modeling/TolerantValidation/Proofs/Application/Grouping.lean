import Mathlib.Data.List.Nodup
import TolerantValidation.Proofs.Application.Reporting
import TolerantValidation.Validator.Sinks

/-!
Issues grouped by path: every issue is in one group, groups and the issues in them keep their order,
and the sinks that log a failure count the issues that its groups show.
-/

namespace TolerantValidation

section Grouping

variable {key : String} {issue : Issue}

theorem groupInto_of_fresh {groups : List (String × List Issue)}
    (fresh : key ∉ groups.map Prod.fst) :
    groupInto key issue groups = groups ++ [(key, [issue])] := by
  induction groups with
  | nil => rfl
  | cons group rest ih =>
      simp only [List.map_cons, List.mem_cons, not_or] at fresh
      rw [groupInto, if_neg (Ne.symm fresh.1), ih fresh.2, List.cons_append]

theorem groupInto_of_again {before after : List (String × List Issue)} (members : List Issue)
    (earlier : key ∉ before.map Prod.fst) :
    groupInto key issue (before ++ (key, members) :: after) =
      before ++ (key, members ++ [issue]) :: after := by
  induction before with
  | nil => rw [List.nil_append, groupInto, if_pos rfl, List.nil_append]
  | cons group rest ih =>
      simp only [List.map_cons, List.mem_cons, not_or] at earlier
      rw [List.cons_append, groupInto, if_neg (Ne.symm earlier.1), ih earlier.2, List.cons_append]

theorem eraseDups_concat {Item : Type} [DecidableEq Item] (items : List Item) (item : Item) :
    (items ++ [item]).eraseDups =
      if item ∈ items then items.eraseDups else items.eraseDups ++ [item] := by
  rw [List.eraseDups_append, List.removeAll, List.filter_singleton]
  by_cases member : item ∈ items <;> simp [member, List.eraseDups_cons]

/-- The groups of the issues: one for each field, in order of its first issue, with all issues that
have this field, in order. -/
structure AreGroups (issues : List Issue) (groups : List (String × List Issue)) : Prop where
  distinct : (groups.map Prod.fst).Nodup
  keys : groups.map (fun group => .ok group.1) = (issues.map IssueAt.field).eraseDups
  members : ∀ group ∈ groups, group.2 = issues.filter fun issue => issue.field = .ok group.1
  perm : (groups.flatMap Prod.snd).Perm issues

theorem areGroups_nil : AreGroups [] [] where
  distinct := List.nodup_nil
  keys := rfl
  members := by simp
  perm := .refl []

namespace AreGroups

variable {issues : List Issue} {groups : List (String × List Issue)}

theorem mem_keys_iff (areGroups : AreGroups issues groups) :
    key ∈ groups.map Prod.fst ↔ .ok key ∈ issues.map IssueAt.field := by
  have same := List.mem_eraseDups (a := Except.ok key) (l := issues.map IssueAt.field)
  rw [← same, ← areGroups.keys]
  simp

theorem members_of_other (areGroups : AreGroups issues groups) (field : issue.field = .ok key)
    {group : String × List Issue} (member : group ∈ groups) (other : group.1 ≠ key) :
    group.2 = (issues ++ [issue]).filter fun issue => issue.field = .ok group.1 := by
  rw [List.filter_append, ← areGroups.members group member]
  simp [field, Ne.symm other]

theorem concat_of_fresh (areGroups : AreGroups issues groups) (field : issue.field = .ok key)
    (fresh : key ∉ groups.map Prod.fst) :
    AreGroups (issues ++ [issue]) (groups ++ [(key, [issue])]) where
  distinct := by
    rw [List.map_append, List.map_singleton, ← List.concat_eq_append]
    exact areGroups.distinct.concat fresh
  keys := by
    rw [List.map_append, List.map_append, List.map_singleton, List.map_singleton, field,
      eraseDups_concat, if_neg (areGroups.mem_keys_iff.not.mp fresh), areGroups.keys]
  members := by
    intro group inside
    rcases List.mem_append.mp inside with inside | isNew
    · exact areGroups.members_of_other field inside fun same =>
        fresh (same ▸ List.mem_map_of_mem inside)
    · cases List.mem_singleton.mp isNew
      have none : issues.filter (fun issue => issue.field = .ok key) = [] := by
        simpa using areGroups.mem_keys_iff.not.mp fresh
      rw [List.filter_append, none]
      simp [field]
  perm := by simpa using areGroups.perm.append_right [issue]

theorem concat_of_again {before after : List (String × List Issue)} {members : List Issue}
    (areGroups : AreGroups issues (before ++ (key, members) :: after))
    (field : issue.field = .ok key) (earlier : key ∉ before.map Prod.fst)
    (later : key ∉ after.map Prod.fst) :
    AreGroups (issues ++ [issue]) (before ++ (key, members ++ [issue]) :: after) where
  distinct := by simpa using areGroups.distinct
  keys := by
    have known : .ok key ∈ issues.map IssueAt.field := areGroups.mem_keys_iff.mp (by simp)
    rw [List.map_append (f := IssueAt.field), List.map_singleton, field, eraseDups_concat,
      if_pos known, ← areGroups.keys]
    simp
  members := by
    intro group inside
    rw [List.mem_append, List.mem_cons] at inside
    rcases inside with inside | rfl | inside
    · exact areGroups.members_of_other field (by simp [inside]) fun same =>
        earlier (same ▸ List.mem_map_of_mem inside)
    · rw [List.filter_append, ← areGroups.members (key, members) (by simp)]
      simp [field]
    · exact areGroups.members_of_other field (by simp [inside]) fun same =>
        later (same ▸ List.mem_map_of_mem inside)
  perm := by
    refine List.Perm.trans ?_ (areGroups.perm.append_right [issue])
    simp only [List.flatMap_append, List.flatMap_cons, List.append_assoc]
    exact (List.perm_append_comm.append_left members).append_left _

/-- Another issue joins the group of its field, or is the first of a new group at the end. -/
theorem concat (areGroups : AreGroups issues groups) (field : issue.field = .ok key) :
    AreGroups (issues ++ [issue]) (groupInto key issue groups) := by
  by_cases known : key ∈ groups.map Prod.fst
  · obtain ⟨⟨_, members⟩, member, rfl⟩ := List.mem_map.mp known
    obtain ⟨before, after, rfl⟩ := List.append_of_mem member
    have distinct := areGroups.distinct
    simp only [List.map_append, List.map_cons, List.nodup_middle, List.nodup_cons,
      List.mem_append, not_or] at distinct
    rw [groupInto_of_again members distinct.1.1]
    exact areGroups.concat_of_again field distinct.1.1 distinct.1.2
  · rw [groupInto_of_fresh known]
    exact areGroups.concat_of_fresh field known

theorem of_foldlM {more : List Issue} {start : List (String × List Issue)}
    (areGroups : AreGroups issues start)
    (returned : more.foldlM (fun groups issue => do
      .ok (groupInto (← issue.field) issue groups)) start = .ok groups) :
    AreGroups (issues ++ more) groups := by
  induction more generalizing issues start with
  | nil =>
      cases returned
      simpa using areGroups
  | cons issue rest ih =>
      rw [List.foldlM_cons] at returned
      cases field : issue.field with
      | error fault =>
          rw [field] at returned
          cases returned
      | ok key =>
          rw [field] at returned
          simpa using ih (areGroups.concat field) returned

end AreGroups
end Grouping

def messageCount (flat : List (String × List String)) : Nat :=
  (flat.flatMap Prod.snd).length

namespace FailureAt

variable {failure : Failure}

theorem fieldErrors_isWritten_iff : IsWritten failure.fieldErrors ↔ failure.HasFields := by
  rw [hasFields_iff, fieldErrors, isWritten_foldlM_iff]

theorem areGroups_of_fieldErrors {groups : List (String × List Issue)}
    (grouped : failure.fieldErrors = .ok groups) : AreGroups failure.issues groups :=
  areGroups_nil.of_foldlM grouped

theorem messageCount_eq {groups : List (String × List Issue)}
    (areGroups : AreGroups failure.issues groups) :
    messageCount (groups.map fun group => (group.1, group.2.map (·.message))) =
      failure.issues.length := by
  rw [← areGroups.perm.length_eq, messageCount, List.flatMap_map, List.length_flatMap,
    List.length_flatMap]
  simp

end FailureAt

namespace Sink

variable {failure : Failure}

theorem logging_of_flat {flat : List (String × List String)}
    (flattened : failure.flatten = .ok flat) (logger : String) (value : Value) (message : String)
    (input : Value) :
    logging logger value message ⟨failure, input⟩ =
      ⟨[.logged
        { logger, level := .debug, event := message
          fields :=
            [("issues", .ofFields (flat.map fun entry => (entry.1, .list (entry.2.map .text)))),
              ("issue_count", .int failure.issues.length)] }], .ok value⟩ := by
  rw [logging, diagnosticEntry, FailureAt.flatValue, flattened]
  rfl

theorem logging_of_unwritten {fault : TextFault} (unwritten : failure.fieldErrors = .error fault)
    (logger : String) (value : Value) (message : String) (input : Value) :
    logging logger value message ⟨failure, input⟩ = ⟨[], .error (.text fault)⟩ := by
  rw [logging, diagnosticEntry, FailureAt.flatValue, FailureAt.flatten, unwritten]
  rfl

end Sink

/-- Exactly if every path has a text, a failure has groups. They are a partition of its issues, in
order, the flat form has the messages of the groups, and the sinks log it with the number of its
messages. -/
theorem grouping_loses_nothing (failure : Failure) :
    (IsWritten failure.fieldErrors ↔ failure.HasFields) ∧
    ∀ groups, failure.fieldErrors = .ok groups →
      AreGroups failure.issues groups ∧
      ∃ flat, failure.flatten = .ok flat ∧
        flat = groups.map (fun group => (group.1, group.2.map (·.message))) ∧
        messageCount flat = failure.issues.length ∧
        ∀ value message input,
          let logged (logger : String) : Log.Entry :=
            { logger, level := .debug, event := message
              fields :=
                [("issues", .ofFields (flat.map fun entry => (entry.1, .list (entry.2.map .text)))),
                  ("issue_count", .int (messageCount flat))] }
          Sink.debug value message ⟨failure, input⟩ =
            ⟨[.logged (logged Log.sinkLogger)], .ok value⟩ ∧
          Sink.trace value message ⟨failure, input⟩ =
            ⟨[.logged (logged Log.traceLogger)], .ok value⟩ := by
  refine ⟨FailureAt.fieldErrors_isWritten_iff, fun groups grouped => ?_⟩
  have areGroups := FailureAt.areGroups_of_fieldErrors grouped
  have flat : failure.flatten =
      .ok (groups.map fun group => (group.1, group.2.map (·.message))) := by
    rw [FailureAt.flatten, grouped]
    rfl
  have total := FailureAt.messageCount_eq areGroups
  refine ⟨areGroups, _, flat, rfl, total, fun value message input => ?_⟩
  rw [total]
  exact ⟨Sink.logging_of_flat flat _ _ _ _, Sink.logging_of_flat flat _ _ _ _⟩

/-- Issues of two paths in turn: the group of the first path is first, with both of its messages. -/
theorem grouping_loses_nothing_of_paths_in_turn :
    let issue (segment : Value) (message : String) : Issue :=
      { code := .custom, message, path := [segment] }
    let failure : Failure :=
      { issues := [issue (.text "b") "first", issue (.int 0) "second", issue (.text "b") "third"] }
    failure.flatten = .ok [("b", ["first", "third"]), ("[0]", ["second"])] ∧
    ∃ groups, failure.fieldErrors = .ok groups ∧ AreGroups failure.issues groups ∧
      Sink.trace .null "left out" ⟨failure, .int 1⟩ =
        ⟨[.logged
          { logger := Log.traceLogger, level := .debug, event := "left out"
            fields := [("issues", .ofFields
                [("b", .list [.text "first", .text "third"]), ("[0]", .list [.text "second"])]),
              ("issue_count", .int 3)] }], .ok .null⟩ := by
  intro issue failure
  have flattened : failure.flatten = .ok [("b", ["first", "third"]), ("[0]", ["second"])] := by
    decide +kernel
  obtain ⟨groups, grouped⟩ : IsWritten failure.fieldErrors :=
    isWritten_of_bind (show IsWritten failure.flatten from ⟨_, flattened⟩)
  obtain ⟨areGroups, flat, flatIs, _, _, logged⟩ :=
    (grouping_loses_nothing failure).2 groups grouped
  cases flattened.symm.trans flatIs
  exact ⟨flattened, groups, grouped, areGroups, (logged .null "left out" (.int 1)).2⟩

/-- A key with too many digits has no text, so its issue is in no group, and a sink that would log
the failure stops. -/
theorem grouping_stops_on_long_integer :
    let key := Value.int (Nat.pow 16 4000)
    let failure := FailureAt.ofIssue ((IssueAt.wrongType "string" (.int 1)).below key)
    let record := Validator.record (.string none none) .unknown
    (record.run (.mapping [(key, .int 1)])).outcome = .ok (.err failure) ∧
      failure.fieldErrors = .error .tooManyDigits ∧
      ((Validator.fallback record (Sink.debug .null "Invalid document")).run
        (.mapping [(key, .int 1)])).outcome = .error (.text .tooManyDigits) := by
  intro key failure record
  have refused : (record.run (.mapping [(key, .int 1)])).outcome = .ok (.err failure) := rfl
  have unwritten : failure.fieldErrors = .error .tooManyDigits := by
    have field : ((IssueAt.wrongType "string" (.int 1)).below key).field =
        .error .tooManyDigits :=
      Value.pathText_of_undisplayed (Value.display_int_of_long (by decide +kernel)) []
    show [_].foldlM _ _ = _
    rw [List.foldlM_cons, field]
    rfl
  have mild : failure.isFatal = false := rfl
  refine ⟨refused, unwritten, ?_⟩
  rw [Validator.run_fallback, Effect.bind_ok refused, Validator.recover, if_neg (by simp [mild]),
    Sink.debug, Sink.logging_of_unwritten unwritten]
  rfl

end TolerantValidation
