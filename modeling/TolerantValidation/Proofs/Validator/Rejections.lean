import TolerantValidation.Proofs.Validator.Acceptance
import TolerantValidation.Proofs.Validator.Siblings
import TolerantValidation.Proofs.Value.Paths

/-!
The issues of strict schemas as reports of rejections: each issue stands for one place in the input
that is rejected, in the order of the document, and its path leads there.
-/

namespace TolerantValidation

inductive Step where
  | item (position : Nat)
  | key (position : Nat)
  | value (position : Nat)

def Step.rank : Step → Nat
  | .item position => position
  | .key position => 2 * position
  | .value position => 2 * position + 1

/-- What is rejected at a place in an input, with the issue about it. -/
structure Rejection where
  place : List Step
  found : Found
  issue : Issue

namespace Rejection

def below (step : Step) (segment : Value) (rejection : Rejection) : Rejection where
  place := step :: rejection.place
  found := rejection.found
  issue := rejection.issue.below segment

def Before (earlier later : Rejection) : Prop :=
  List.Lex (fun first second => first.rank < second.rank) earlier.place later.place

/-- The path of the issue leads to what is rejected, and an issue about its type names that type. -/
structure IsLocated (rejection : Rejection) (input : Value) : Prop where
  leads : input.Leads rejection.issue.path rejection.found
  named : rejection.issue.code = .invalidType → ∃ expected,
    rejection.issue.message = "Expected " ++ expected ++ ", got " ++ rejection.found.judged.typeName

theorem before_of_rank {earlier later : Rejection} {first second : Step}
    {firstRest secondRest : List Step} (earlierEq : earlier.place = first :: firstRest)
    (laterEq : later.place = second :: secondRest) (less : first.rank < second.rank) :
    earlier.Before later := by
  unfold Before
  rw [earlierEq, laterEq]
  exact .rel less

end Rejection

/-- The issues are those of the rejections, one for each, in the order of the document. -/
def Reports (issues : List Issue) (rejects : Rejection → Prop) (input : Value) : Prop :=
  ∃ rejections : List Rejection,
    issues = rejections.map Rejection.issue ∧
    (∀ rejection, rejection ∈ rejections ↔ rejects rejection) ∧
    rejections.Pairwise Rejection.Before ∧
    ∀ rejection ∈ rejections, rejection.IsLocated input

section Reports

variable {issues others : List Issue} {rejects rejectsOther : Rejection → Prop} {input : Value}

theorem reports_nil_iff : Reports [] rejects input ↔ ∀ rejection, ¬ rejects rejection := by
  constructor
  · rintro ⟨rejections, noIssues, exact_, _⟩ rejection rejected
    rw [List.map_eq_nil_iff.mp noIssues.symm] at exact_
    simpa using (exact_ rejection).mpr rejected
  · intro none
    exact ⟨[], rfl, by simpa using none, .nil, by simp⟩

theorem Reports.eq_nil_iff (reports : Reports issues rejects input) :
    issues = [] ↔ ∀ rejection, ¬ rejects rejection := by
  constructor
  · rintro rfl
    exact reports_nil_iff.mp reports
  · obtain ⟨rejections, rfl, exact_, _⟩ := reports
    intro none
    rw [List.map_eq_nil_iff, List.eq_nil_iff_forall_not_mem]
    exact fun rejection member => none rejection ((exact_ rejection).mp member)

theorem reports_singleton {rejection : Rejection} (located : rejection.IsLocated input) :
    Reports [rejection.issue] (· = rejection) input :=
  ⟨[rejection], rfl, by simp, List.pairwise_singleton _ _, by simpa using located⟩

theorem Reports.congr (reports : Reports issues rejects input)
    (same : ∀ rejection, rejects rejection ↔ rejectsOther rejection) :
    Reports issues rejectsOther input := by
  have sameEq : rejects = rejectsOther := funext fun rejection => propext (same rejection)
  rwa [← sameEq]

theorem Reports.append (first : Reports issues rejects input)
    (second : Reports others rejectsOther input)
    (ordered : ∀ earlier later, rejects earlier → rejectsOther later → earlier.Before later) :
    Reports (issues ++ others) (fun rejection => rejects rejection ∨ rejectsOther rejection)
      input := by
  obtain ⟨rejections, rfl, exact_, sorted, located⟩ := first
  obtain ⟨more, rfl, moreExact, moreSorted, moreLocated⟩ := second
  refine ⟨rejections ++ more, by simp, ?_, ?_, ?_⟩
  · intro rejection
    rw [List.mem_append, exact_, moreExact]
  · refine List.pairwise_append.mpr ⟨sorted, moreSorted, ?_⟩
    intro earlier member later laterMember
    exact ordered earlier later ((exact_ earlier).mp member) ((moreExact later).mp laterMember)
  · intro rejection member
    rcases List.mem_append.mp member with member | member
    · exact located rejection member
    · exact moreLocated rejection member

theorem Reports.map {part : Value} (reports : Reports issues rejects part)
    {changeIssue : Issue → Issue} {change : Rejection → Rejection}
    (issue : ∀ rejection, (change rejection).issue = changeIssue rejection.issue)
    (ordered : ∀ earlier later, earlier.Before later → (change earlier).Before (change later))
    (located : ∀ rejection, rejects rejection → rejection.IsLocated part →
      (change rejection).IsLocated input) :
    Reports (issues.map changeIssue)
      (fun rejection => ∃ inner, rejects inner ∧ rejection = change inner) input := by
  obtain ⟨rejections, rfl, exact_, sorted, partLocated⟩ := reports
  refine ⟨rejections.map change, by simp [issue], ?_, ?_, ?_⟩
  · intro rejection
    simp only [List.mem_map, exact_, eq_comm]
  · exact sorted.map change ordered
  · intro rejection member
    obtain ⟨inner, inside, rfl⟩ := List.mem_map.mp member
    exact located inner ((exact_ inner).mp inside) (partLocated inner inside)

theorem Reports.below {part : Value} (reports : Reports issues rejects part) (step : Step)
    {segment : Value}
    (leads : ∀ path found, part.Leads path found → input.Leads (segment :: path) found) :
    Reports (issues.map (IssueAt.below segment))
      (fun rejection => ∃ inner, rejects inner ∧ rejection = inner.below step segment) input :=
  reports.map (fun _ => rfl) (fun _ _ before => .cons before)
    fun _ _ located => ⟨leads _ _ located.leads, located.named⟩

theorem reports_flatMap {Part : Type} {issuesAt : Part → List Issue}
    {rejectsAt : Part → Rejection → Prop} {parts : List Part}
    (each : ∀ part ∈ parts, Reports (issuesAt part) (rejectsAt part) input)
    (ordered : parts.Pairwise fun first second =>
      ∀ earlier later, rejectsAt first earlier → rejectsAt second later → earlier.Before later) :
    Reports (parts.flatMap issuesAt) (fun rejection => ∃ part ∈ parts, rejectsAt part rejection)
      input := by
  induction parts with
  | nil => exact reports_nil_iff.mpr (by simp)
  | cons part rest ih =>
      rw [List.forall_mem_cons] at each
      rw [List.pairwise_cons] at ordered
      have others := ih each.2 ordered.2
      rw [List.flatMap_cons]
      refine (each.1.append others ?_).congr fun rejection => by simp
      rintro earlier later rejected ⟨other, member, laterRejected⟩
      exact ordered.1 other member earlier later rejected laterRejected

/-- Parts of a container by position: what is rejected in one comes before what is rejected in the
next. -/
theorem reports_zipIdx {Part : Type} {issuesAt : Part × Nat → List Issue}
    {rejectsAt : Part × Nat → Rejection → Prop} {parts : List Part}
    (each : ∀ place ∈ parts.zipIdx, Reports (issuesAt place) (rejectsAt place) input)
    (ordered : ∀ first second earlier later, first.2 < second.2 → rejectsAt first earlier →
      rejectsAt second later → earlier.Before later) :
    Reports (parts.zipIdx.flatMap issuesAt)
      (fun rejection => ∃ place ∈ parts.zipIdx, rejectsAt place rejection) input := by
  refine reports_flatMap each ?_
  have increasing : (parts.zipIdx.map Prod.snd).Pairwise (· < ·) := by
    rw [List.zipIdx_map_snd]
    exact List.pairwise_lt_range'
  refine (List.pairwise_map.mp increasing).imp ?_
  intro first second less earlier later
  exact ordered first second earlier later less

end Reports

namespace Validator

/-- Schemas of leaves, strict sequences and strict mappings with leaves for keys. -/
inductive IsPlain : Validator → Prop
  | leaf {validator} : IsLeaf validator → IsPlain validator
  | array {element} : IsPlain element → IsPlain (.array element)
  | record {value key} : IsPlain value → IsLeaf key → IsPlain (.record value key)

/-- The schema rejects a place in the input: a container of the wrong shape, the key of an entry, or
a value that a leaf refuses. -/
inductive Rejects : Validator → Value → Rejection → Prop
  | leaf {validator input issue} : IsLeaf validator →
      (validator.run input).outcome = .ok (.refuse issue) →
      Rejects validator input ⟨[], .value input, issue⟩
  | noSequence {element input} : input.sequence? = none →
      Rejects (.array element) input ⟨[], .value input, .wrongType "array" input⟩
  | noMapping {value key input} : input.entries? = none →
      Rejects (.record value key) input ⟨[], .value input, .wrongType "object" input⟩
  | item {element input items item rejection} {position : Nat} : input.sequence? = some items →
      items[position]? = some item → Rejects element item rejection →
      Rejects (.array element) input (rejection.below (.item position) (.int position))
  | key {value key input entries entry issue} {position : Nat} : input.entries? = some entries →
      entries[position]? = some entry → (key.run entry.1).outcome = .ok (.refuse issue) →
      Rejects (.record value key) input
        ⟨[.key position], .entry entry.1 entry.2, issue.below entry.1⟩
  | value {value key input entries entry rejection} {position : Nat} :
      input.entries? = some entries → entries[position]? = some entry →
      Rejects value entry.2 rejection →
      Rejects (.record value key) input (rejection.below (.value position) entry.1)

end Validator
end TolerantValidation
