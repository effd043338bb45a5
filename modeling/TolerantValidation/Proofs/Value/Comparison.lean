import TolerantValidation.Value.Equality
import TolerantValidation.Proofs.Value.Nesting

/-!
Equality is decided whenever one of the values has no cycle and nests less deep than computations
follow it, whatever the other one is.
-/

namespace TolerantValidation.Value

section Comparing

theorem sameOrEqual_isSome {equal : Value → Value → Option Bool} {left right : Value}
    (decided : (equal left right).isSome) : (sameOrEqual equal left right).isSome := by
  unfold sameOrEqual
  split
  · rfl
  · exact decided

variable {same : Value → Value → Option Bool}

theorem pairwise_isSome {left right : List Value}
    (decided : ∀ item ∈ left, ∀ other ∈ right, (same item other).isSome) :
    (pairwise same left right).isSome := by
  induction left generalizing right with
  | nil => cases right <;> rfl
  | cons item left ih =>
      cases right with
      | nil => rfl
      | cons other right =>
          obtain ⟨equal, itemDecided⟩ := Option.isSome_iff_exists.mp
            (decided item List.mem_cons_self other List.mem_cons_self)
          have restDecided := ih fun item member other inside =>
            decided item (List.mem_cons_of_mem _ member) other (List.mem_cons_of_mem _ inside)
          simp only [pairwise, itemDecided]
          cases equal
          · rfl
          · exact restDecided

theorem found_isSome {item : Value} {right : List Value}
    (decided : ∀ other ∈ right, (same item other).isSome) :
    (right.foldr (fun other found => do if ← same item other then some true else found)
      (some false)).isSome := by
  induction right with
  | nil => rfl
  | cons other right ih =>
      obtain ⟨equal, otherDecided⟩ := Option.isSome_iff_exists.mp
        (decided other List.mem_cons_self)
      have restDecided := ih fun other inside => decided other (List.mem_cons_of_mem _ inside)
      simp only [List.foldr_cons, otherDecided]
      cases equal
      · exact restDecided
      · rfl

theorem coveredBy_isSome {left right : List Value}
    (decided : ∀ item ∈ left, ∀ other ∈ right, (same item other).isSome) :
    (coveredBy same left right).isSome := by
  induction left with
  | nil => rfl
  | cons item left ih =>
      obtain ⟨found, itemDecided⟩ := Option.isSome_iff_exists.mp
        (found_isSome (decided item List.mem_cons_self))
      have restDecided := ih fun item member => decided item (List.mem_cons_of_mem _ member)
      simp only [coveredBy, List.foldr_cons] at restDecided ⊢
      rw [itemDecided]
      cases found
      · rfl
      · exact restDecided

theorem lookUp_isSome {key : Value} {entries : List (Value × Value)}
    (decided : ∀ entry ∈ entries, (same entry.1 key).isSome) :
    ∃ found, lookUp same key entries = some found ∧
      ∀ value, found = some value → ∃ entry ∈ entries, entry.2 = value := by
  induction entries with
  | nil => exact ⟨none, rfl, by simp⟩
  | cons entry rest ih =>
      obtain ⟨equal, entryDecided⟩ := Option.isSome_iff_exists.mp
        (decided entry List.mem_cons_self)
      simp only [lookUp, entryDecided]
      cases equal with
      | true => exact ⟨some entry.2, rfl, by simp⟩
      | false =>
          obtain ⟨found, restFound, inside⟩ := ih fun other member =>
            decided other (List.mem_cons_of_mem _ member)
          refine ⟨found, restFound, ?_⟩
          intro value isFound
          obtain ⟨other, member, valueEq⟩ := inside value isFound
          exact ⟨other, List.mem_cons_of_mem _ member, valueEq⟩

theorem entriesCoveredBy_isSome {left right : List (Value × Value)}
    (keys : ∀ entry ∈ left, ∀ other ∈ right, (same other.1 entry.1).isSome)
    (values : ∀ entry ∈ left, ∀ other ∈ right, (same entry.2 other.2).isSome) :
    (entriesCoveredBy same left right).isSome := by
  induction left with
  | nil => rfl
  | cons entry left ih =>
      obtain ⟨found, lookedUp, inside⟩ := lookUp_isSome (keys entry List.mem_cons_self)
      have restDecided := ih (fun entry member => keys entry (List.mem_cons_of_mem _ member))
        (fun entry member => values entry (List.mem_cons_of_mem _ member))
      simp only [entriesCoveredBy, List.foldr_cons] at restDecided ⊢
      rw [lookedUp]
      cases found with
      | none => rfl
      | some value =>
          obtain ⟨other, member, rfl⟩ := inside value rfl
          obtain ⟨equal, valueDecided⟩ := Option.isSome_iff_exists.mp
            (values entry List.mem_cons_self other member)
          simp only [valueDecided, Option.bind_eq_bind, Option.bind_some]
          cases equal
          · rfl
          · exact restDecided

end Comparing

/-- Every descent is shorter than the given number of steps. -/
def EndsAfter (steps : Nat) (value : Value) : Prop :=
  ∀ below, value.Descends below → below.length < steps

theorem EndsAfter.step {steps : Nat} {value part : Value} (ends : value.EndsAfter (steps + 1))
    (member : part ∈ value.parts) : part.EndsAfter steps :=
  fun below descends => Nat.lt_of_succ_lt_succ (ends (part :: below) ⟨member, descends⟩)

theorem EndsAfter.of_parts {steps : Nat} {value : Value}
    (parts : ∀ part ∈ value.parts, part.EndsAfter steps) : value.EndsAfter (steps + 1) := by
  intro below descends
  cases below with
  | nil => exact Nat.succ_pos steps
  | cons part below => exact Nat.succ_lt_succ (parts part descends.1 below descends.2)

theorem equalWithin_isSome (fuel : Nat) (left right : Value)
    (ends : left.EndsAfter fuel ∨ right.EndsAfter fuel) : (equalWithin fuel left right).isSome := by
  -- One side ends in time. It changes places with the other one where keys are looked up.
  induction fuel generalizing left right with
  | zero => rcases ends with ends | ends <;> exact absurd (ends [] trivial) (Nat.not_lt_zero _)
  | succ fuel ih =>
      have decided : ∀ part ∈ left.parts, ∀ other ∈ right.parts,
          (sameOrEqual (equalWithin fuel) part other).isSome ∧
            (sameOrEqual (equalWithin fuel) other part).isSome := by
        intro part member other inside
        rcases ends with ends | ends
        · exact ⟨sameOrEqual_isSome (ih part other (.inl (ends.step member))),
            sameOrEqual_isSome (ih other part (.inr (ends.step member)))⟩
        · exact ⟨sameOrEqual_isSome (ih part other (.inr (ends.step inside))),
            sameOrEqual_isSome (ih other part (.inl (ends.step inside)))⟩
      unfold equalWithin
      split
      · rename_i kind items otherKind others leftLevel rightLevel
        simp only [parts, leftLevel, rightLevel] at decided
        have inPlace := fun item member other inside => (decided item member other inside).1
        dsimp only
        split
        · rfl
        split
        · exact coveredBy_isSome inPlace
        split
        · exact pairwise_isSome inPlace
        · rfl
      · rename_i entries others leftLevel rightLevel
        split
        · rfl
        have sides : ∀ pair ∈ entries.map fun entry => (entry.1, entry.2.value),
            ∀ other ∈ others.map fun entry => (entry.1, entry.2.value),
            (sameOrEqual (equalWithin fuel) other.1 pair.1).isSome ∧
              (sameOrEqual (equalWithin fuel) pair.2 other.2).isSome := by
          simp only [List.mem_map]
          rintro _ ⟨entry, member, rfl⟩ _ ⟨other, inside, rfl⟩
          obtain ⟨isKey, isValue⟩ := entry_mem_parts leftLevel member
          obtain ⟨isOtherKey, isOtherValue⟩ := entry_mem_parts rightLevel inside
          exact ⟨(decided _ isKey _ isOtherKey).2, (decided _ isValue _ isOtherValue).1⟩
        exact entriesCoveredBy_isSome
          (fun entry member other inside => (sides entry member other inside).1)
          (fun entry member other inside => (sides entry member other inside).2)
      · have inPlace := fun item member other inside => (decided item member other inside).1
        split
        · rfl
        split
        case h_7 =>
          split
          · exact pairwise_isSome inPlace
          · rfl
        case h_8 =>
          split
          · exact pairwise_isSome inPlace
          · rfl
        case h_9 =>
          split
          · exact pairwise_isSome inPlace
          · rfl
        all_goals rfl
      · rfl

theorem IsAcyclic.part {value part : Value} (acyclic : value.IsAcyclic)
    (member : part ∈ value.parts) : part.IsAcyclic :=
  fun inner occurs => acyclic inner ((Occurs.self.part member).trans occurs)

end TolerantValidation.Value
