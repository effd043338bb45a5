import TolerantValidation.Proofs.Record.Fitting
import TolerantValidation.Proofs.Validator.Manifest

/-!
The strict way of reading against the default one. What is read strictly is read by default as the
same value, and where the default reports an error the strict way reports one there or further up.
-/

namespace TolerantValidation

namespace Record

/-- Every error has one of the others at its place or above it. -/
def Covers (tighter errors : List FieldError) : Prop :=
  ∀ error ∈ errors, ∃ other ∈ tighter, other.path <+: error.path

namespace Covers

variable {tighter more errors others : List FieldError}

theorem root (fault : FieldFault) (errors : List FieldError) : Covers [⟨[], fault⟩] errors :=
  fun _ _ => ⟨_, .head _, List.nil_prefix⟩

theorem refl (errors : List FieldError) : Covers errors errors :=
  fun error member => ⟨error, member, List.prefix_rfl⟩

theorem below (covers : Covers tighter errors) (segment : Value) :
    Covers (tighter.map (FieldError.below segment)) (errors.map (FieldError.below segment)) := by
  intro _ member
  obtain ⟨error, inside, rfl⟩ := List.mem_map.mp member
  obtain ⟨other, known, above⟩ := covers error inside
  exact ⟨_, List.mem_map_of_mem known, List.prefix_cons_inj segment |>.mpr above⟩

theorem widen_left (covers : Covers tighter errors) : Covers (tighter ++ more) errors := by
  intro error member
  obtain ⟨other, known, above⟩ := covers error member
  exact ⟨other, List.mem_append_left _ known, above⟩

theorem widen_right (covers : Covers more errors) : Covers (tighter ++ more) errors := by
  intro error member
  obtain ⟨other, known, above⟩ := covers error member
  exact ⟨other, List.mem_append_right _ known, above⟩

theorem append (covers : Covers tighter errors) (moreCovers : Covers more others) :
    Covers (tighter ++ more) (errors ++ others) := by
  intro error member
  rcases List.mem_append.mp member with inside | inside
  · exact covers.widen_left error inside
  · exact moreCovers.widen_right error inside

end Covers

/-- How two ways of reading one value compare: the first takes less, and to the same effect. -/
inductive Tightens {Read : Type} :
    Except (List FieldError) Read → Except (List FieldError) Read → Prop
  | same (read : Read) : Tightens (.ok read) (.ok read)
  | takesLess (tighter : List FieldError) (read : Read) : Tightens (.error tighter) (.ok read)
  | covers {tighter errors : List FieldError} : Covers tighter errors →
      Tightens (.error tighter) (.error errors)

namespace Tightens

variable {Read Next : Type}

theorem refl (result : Except (List FieldError) Read) : Tightens result result := by
  cases result with
  | ok read => exact .same read
  | error errors => exact .covers (.refl errors)

theorem eq_of_ok {lax : Except (List FieldError) Read} {read : Read}
    (tightens : Tightens (.ok read) lax) : lax = .ok read := by
  cases tightens
  rfl

theorem root (fault : FieldFault) (lax : Except (List FieldError) Read) :
    Tightens (.error [⟨[], fault⟩]) lax := by
  cases lax with
  | ok read => exact .takesLess _ read
  | error errors => exact .covers (.root fault errors)

theorem map {strict lax : Except (List FieldError) Read} (tightens : Tightens strict lax)
    (change : Read → Next) : Tightens (strict.map change) (lax.map change) := by
  cases tightens with
  | same read => exact .same _
  | takesLess tighter read => exact .takesLess _ _
  | covers covers => exact .covers covers

theorem here {strict lax : Except FieldFault Read}
    (takesLess : ∀ read, strict = .ok read → lax = .ok read) :
    Tightens (Record.here strict) (Record.here lax) := by
  cases strict with
  | ok read =>
      rw [takesLess read rfl]
      exact .same read
  | error fault => exact .root fault _

end Tightens

theorem Tightens.joined {Read : Type} {first laxFirst : Except (List FieldError) Read}
    {rest laxRest : Except (List FieldError) (List Read)} (tightens : Tightens first laxFirst)
    (restTightens : Tightens rest laxRest) (segment : Value) :
    Tightens (joined segment first rest) (Record.joined segment laxFirst laxRest) := by
  cases tightens with
  | same read =>
      cases restTightens with
      | same others => exact .same _
      | takesLess tighter others => exact .takesLess _ _
      | covers covers => exact .covers covers
  | takesLess tighter read =>
      cases restTightens with
      | same others => exact .takesLess _ _
      | takesLess more others => exact .takesLess _ _
      | covers covers => exact .covers covers.widen_right
  | covers covers =>
      cases restTightens with
      | same others => exact .covers (covers.below segment)
      | takesLess more others => exact .covers (covers.below segment).widen_left
      | covers restCovers => exact .covers ((covers.below segment).append restCovers)

/-- How two runs that read one value compare: what the first takes the second takes to the same
effect, and where the second ends without a fault so does the first, with a tighter result. -/
structure ReadsLess {Read : Type} (strict lax : Run (Except (List FieldError) Read)) : Prop where
  takes : ∀ read, strict.outcome = .ok (.ok read) → lax.outcome = .ok (.ok read)
  ends : ∀ laxResult, lax.outcome = .ok laxResult →
    ∃ result, strict.outcome = .ok result ∧ Tightens result laxResult

namespace ReadsLess

variable {Read Next : Type} {strict lax : Run (Except (List FieldError) Read)}

theorem refl (run : Run (Except (List FieldError) Read)) : ReadsLess run run where
  takes _ taken := taken
  ends result ended := ⟨result, ended, .refl result⟩

theorem root (fault : FieldFault) (lax : Run (Except (List FieldError) Read)) :
    ReadsLess (pure (.error [⟨[], fault⟩])) lax where
  takes _ taken := by cases taken
  ends laxResult _ := ⟨_, rfl, .root fault laxResult⟩

theorem of_tightens {result laxResult : Except (List FieldError) Read}
    (tightens : Tightens result laxResult) : ReadsLess (pure result) (pure laxResult) where
  takes read taken := by
    cases taken
    rw [tightens.eq_of_ok, Effect.pure_outcome]
  ends ended endedEq := by
    cases endedEq
    exact ⟨result, rfl, tightens⟩

theorem bind {Given : Type} {first : Run Given}
    {next laxNext : Given → Run (Except (List FieldError) Read)}
    (readsLess : ∀ given, ReadsLess (next given) (laxNext given)) :
    ReadsLess (first >>= next) (first >>= laxNext) where
  takes read taken := by
    obtain ⟨given, reached, taken⟩ := Effect.bind_outcome_eq_ok.mp taken
    exact Effect.bind_outcome_eq_ok.mpr ⟨given, reached, (readsLess given).takes read taken⟩
  ends laxResult ended := by
    obtain ⟨given, reached, ended⟩ := Effect.bind_outcome_eq_ok.mp ended
    obtain ⟨result, ended, tightens⟩ := (readsLess given).ends laxResult ended
    exact ⟨result, Effect.bind_outcome_eq_ok.mpr ⟨given, reached, ended⟩, tightens⟩

theorem map (readsLess : ReadsLess strict lax) (change : Read → Next) :
    ReadsLess (strict >>= fun read => pure (read.map change))
      (lax >>= fun read => pure (read.map change)) where
  takes final taken := by
    obtain ⟨read, taken, same⟩ := bind_map_outcome_eq_ok.mp taken
    exact bind_map_outcome_eq_ok.mpr ⟨read, readsLess.takes read taken, same⟩
  ends laxFinal ended := by
    obtain ⟨laxResult, laxEnded, same⟩ := Effect.bind_outcome_eq_ok.mp ended
    obtain ⟨result, resultEnded, tightens⟩ := readsLess.ends laxResult laxEnded
    cases same
    exact ⟨_, Effect.bind_outcome_eq_ok.mpr ⟨result, resultEnded, rfl⟩, tightens.map change⟩

theorem joined {rest laxRest : Run (Except (List FieldError) (List Read))}
    (readsLess : ReadsLess strict lax) (restReadsLess : ReadsLess rest laxRest)
    (segment : Value) :
    ReadsLess (do
      let first ← strict
      let others ← rest
      pure (Record.joined segment first others)) (do
      let first ← lax
      let others ← laxRest
      pure (Record.joined segment first others)) where
  takes results taken := by
    obtain ⟨result, others, taken, othersTaken, same⟩ := bind_joined_outcome_eq_ok.mp taken
    exact bind_joined_outcome_eq_ok.mpr ⟨result, others, readsLess.takes result taken,
      restReadsLess.takes others othersTaken, same⟩
  ends laxFinal ended := by
    obtain ⟨laxResult, laxEnded, ended⟩ := Effect.bind_outcome_eq_ok.mp ended
    obtain ⟨laxOthers, laxOthersEnded, same⟩ := Effect.bind_outcome_eq_ok.mp ended
    obtain ⟨result, resultEnded, tightens⟩ := readsLess.ends laxResult laxEnded
    obtain ⟨others, othersEnded, restTightens⟩ := restReadsLess.ends laxOthers laxOthersEnded
    cases same
    refine ⟨_, Effect.bind_outcome_eq_ok.mpr ⟨result, resultEnded, ?_⟩,
      tightens.joined restTightens segment⟩
    exact Effect.bind_outcome_eq_ok.mpr ⟨others, othersEnded, rfl⟩

end ReadsLess

theorem gather_readsLess {Item Read : Type} {read lax : Item → Run (Except (List FieldError) Read)}
    (readsLess : ∀ item, ReadsLess (read item) (lax item)) (segment : Nat → Item → Value)
    (position : Nat) (items : List Item) :
    ReadsLess (gather read segment position items) (gather lax segment position items) := by
  induction items generalizing position with
  | nil => exact .refl _
  | cons item rest ih => exact (readsLess item).joined (ih (position + 1)) (segment position item)

section Coercions

variable {value : Value}

theorem readText_of_strict {characters : String} (taken : readText true value = .ok characters) :
    readText false value = .ok characters := by
  cases value with
  | text given => exact taken
  | _ => cases taken

theorem readWhole_of_strict {whole : Int} (taken : readWhole true value = .ok whole) :
    readWhole false value = .ok whole := by
  cases value with
  | int given => exact taken
  | _ => cases taken

theorem readReal_of_strict {number : Binary64} (taken : readReal true value = .ok number) :
    readReal false value = .ok number := by
  cases value with
  | float given => exact taken
  | int whole => exact taken
  | _ => cases taken

theorem readFlag_of_strict {flag : Bool} (taken : readFlag true value = .ok flag) :
    readFlag false value = .ok flag := by
  cases value with
  | bool given => exact taken
  | _ => cases taken

theorem readItems_of_strict {items : List Value} (taken : readItems true value = .ok items) :
    readItems false value = .ok items := by
  unfold readItems at taken ⊢
  split at taken
  · split at taken
    · simpa using taken
    · cases taken
  · cases taken

end Coercions

mutual

/-- The strict way takes less than the default one, for every shape and every value. -/
theorem read_readsLess (type : FieldType) (value : Value) :
    ReadsLess (read true type value) (read false type value) := by
  cases type with
  | anything => exact .refl _
  | text least greatest =>
      refine .of_tightens (.here fun result taken => ?_)
      obtain ⟨characters, taken, checked⟩ := bind_eq_ok_iff.mp taken
      exact bind_eq_ok_iff.mpr ⟨characters, readText_of_strict taken, checked⟩
  | whole least greatest =>
      refine .of_tightens (.here fun result taken => ?_)
      obtain ⟨whole, taken, checked⟩ := bind_eq_ok_iff.mp taken
      exact bind_eq_ok_iff.mpr ⟨whole, readWhole_of_strict taken, checked⟩
  | real =>
      refine .of_tightens (.here fun result taken => ?_)
      obtain ⟨number, taken, same⟩ := bind_eq_ok_iff.mp taken
      exact bind_eq_ok_iff.mpr ⟨number, readReal_of_strict taken, same⟩
  | flag =>
      refine .of_tightens (.here fun result taken => ?_)
      obtain ⟨flag, taken, same⟩ := bind_eq_ok_iff.mp taken
      exact bind_eq_ok_iff.mpr ⟨flag, readFlag_of_strict taken, same⟩
  | listOf item =>
      simp only [read]
      cases taken : readItems true value with
      | error fault => exact .root fault _
      | ok items =>
          rw [readItems_of_strict taken]
          exact (gather_readsLess (fun part => read_readsLess item part) _ 0 items).map _
  | optional inner =>
      simp only [read]
      split
      · exact .refl _
      · exact read_readsLess inner value
  | after step inner =>
      -- The function is given the same value either way.
      refine .bind fun attempted => ?_
      cases attempted with
      | ok prepared => exact read_readsLess inner prepared
      | error fault => exact .refl _
  | record name fields =>
      simp only [read]
      split
      -- An instance is handed on or refused without its fields being read.
      · exact .refl _
      · exact .refl _
      · exact (readFields_readsLess _ fields).map _

theorem readFields_readsLess (entries : List (Value × Value))
    (fields : List (String × FieldType × Option Value)) :
    ReadsLess (read.readFields true entries fields) (read.readFields false entries fields) := by
  cases fields with
  | nil => exact .refl _
  | cons field rest =>
      obtain ⟨name, type, default⟩ := field
      rw [readFields_cons, readFields_cons]
      refine ReadsLess.joined (.map ?_ _) (readFields_readsLess entries rest) _
      unfold readField
      split
      · exact read_readsLess type _
      · exact .refl _
      · exact .refl _

end

end Record

/-- What a strict model accepts, the model by default makes the same instance of. Whatever it
refuses by default the strict model refuses, with an issue at or above the place of each issue. -/
theorem strict_model_accepts_less (shape : Record.FieldType) (input : Value) :
    (∀ fitted, ((Validator.model shape true).run input).outcome = .ok (.ok fitted) →
      ((Validator.model shape false).run input).outcome = .ok (.ok fitted)) ∧
    ∀ failure, ((Validator.model shape false).run input).outcome = .ok (.err failure) →
      ∃ tighter, ((Validator.model shape true).run input).outcome = .ok (.err tighter) ∧
        ∀ issue ∈ failure.issues, ∃ other ∈ tighter.issues, other.path <+: issue.path := by
  have readsLess := Record.read_readsLess shape input
  simp only [Validator.run, Record.checkModel_eq_ok_iff, Record.checkModel_eq_err_iff]
  refine ⟨readsLess.takes, ?_⟩
  rintro failure ⟨errors, refused, rfl⟩
  obtain ⟨result, ended, tightens⟩ := readsLess.ends _ refused
  cases tightens with
  | @covers tighter _ covers =>
      refine ⟨_, ⟨tighter, ended, rfl⟩, fun issue member => ?_⟩
      obtain ⟨error, inside, rfl⟩ := List.mem_map.mp member
      obtain ⟨other, known, above⟩ := covers error inside
      exact ⟨_, List.mem_map_of_mem known, above⟩

/-- A package with a whole number for its ratio and an instance in it is the same either way; one
with too long a name stays refused when its count, a text, is no longer taken either. -/
theorem strict_model_accepts_less_of_packages :
    let input := Value.mapping [(.text "name", .text "ab"), (.text "ratio", .int 2),
      (.text "dep", Record.dependencyOf "a" "1")]
    let fitted := Value.record "Package" [("name", .text "ab"), ("count", .int 0),
      ("ratio", .float (.ofInt 2)), ("active", .bool false), ("tags", .list []),
      ("dep", Record.dependencyOf "a" "1")]
    let longer := Value.mapping [(.text "name", .text "abcdefghijk"), (.text "count", .text "7")]
    let failure : Failure := { issues :=
      [Record.issueOfReport "string_too_long" "String should have at most 10 characters"
        [.text "name"]] }
    ((Validator.model Record.package true).run input).outcome = .ok (.ok fitted) ∧
    ((Validator.model Record.package false).run input).outcome = .ok (.ok fitted) ∧
    ((Validator.model Record.package false).run longer).outcome = .ok (.err failure) ∧
    ∃ tighter, ((Validator.model Record.package true).run longer).outcome = .ok (.err tighter) ∧
      ∀ issue ∈ failure.issues, ∃ other ∈ tighter.issues, other.path <+: issue.path := by
  intro input fitted longer failure
  have accepted : ((Validator.model Record.package true).run input).outcome = .ok (.ok fitted) :=
    rfl
  have refused : ((Validator.model Record.package false).run longer).outcome =
      .ok (.err failure) := rfl
  exact ⟨accepted, (strict_model_accepts_less Record.package input).1 fitted accepted, refused,
    (strict_model_accepts_less Record.package longer).2 failure refused⟩

end TolerantValidation
