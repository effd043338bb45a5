import Mathlib.Algebra.Order.Field.Power
import Mathlib.Algebra.Order.Field.Rat
import Mathlib.Tactic.NormNum
import Mathlib.Tactic.Positivity
import Mathlib.Tactic.Ring
import TolerantValidation.Value.Equality

/-!
What scalars stand for. Two scalars are equal exactly when they stand for the same: numbers of all
types for the number itself, aware times for their instant.
-/

namespace TolerantValidation

namespace Binary64

def Dyadic.amount (number : Dyadic) : ℚ :=
  number.signed * (2 : ℚ) ^ number.exponent

theorem amount_of_scaled {lower exponent : Int} (atMost : lower ≤ exponent) (signed : Int) :
    (signed : ℚ) * (2 : ℚ) ^ exponent =
      ((signed * Nat.pow 2 (exponent - lower).toNat : Int) : ℚ) * (2 : ℚ) ^ lower := by
  have raised : (2 : ℚ) ^ exponent = (2 : ℚ) ^ (exponent - lower).toNat * (2 : ℚ) ^ lower := by
    rw [← zpow_natCast, ← zpow_add₀ (by norm_num), Int.toNat_of_nonneg (by omega)]
    congr 1
    omega
  rw [raised, Nat.pow_eq]
  push_cast
  ring

theorem Dyadic.order_eq_iff (left right : Dyadic) :
    left.order right = .eq ↔ left.amount = right.amount := by
  have positive : (2 : ℚ) ^ min left.exponent right.exponent ≠ 0 := by positivity
  unfold amount
  rw [amount_of_scaled (min_le_left left.exponent right.exponent) left.signed,
    amount_of_scaled (min_le_right left.exponent right.exponent) right.signed,
    mul_left_inj' positive, Int.cast_inj]
  exact compare_eq_iff_eq

inductive Amount where
  | finite (number : ℚ)
  | infinite (negative : Bool)

def amount? (number : Binary64) : Option Amount :=
  match number.meaning with
  | .notANumber => none
  | .infinite negative => some (.infinite negative)
  | .finite negative significand exponent =>
    some (.finite (dyadic negative significand exponent).amount)

theorem order?_eq_iff {left right : Binary64} {first second : Amount}
    (isFirst : left.amount? = some first) (isSecond : right.amount? = some second) :
    left.order? right = some .eq ↔ first = second := by
  unfold amount? at isFirst isSecond
  cases leftMeaning : left.meaning <;> cases rightMeaning : right.meaning <;>
    simp only [leftMeaning, rightMeaning, reduceCtorEq, Option.some.injEq] at isFirst isSecond <;>
    subst isFirst <;> subst isSecond <;> simp only [order?, leftMeaning, rightMeaning]
  case infinite.infinite leftSign rightSign =>
    cases leftSign <;> cases rightSign <;> simp
  case infinite.finite leftSign _ _ _ => cases leftSign <;> simp
  case finite.infinite _ _ _ rightSign => cases rightSign <;> simp
  case finite.finite => simp [Dyadic.order_eq_iff]

theorem orderInt?_eq_iff {left : Binary64} {first : Amount} (isFirst : left.amount? = some first)
    (whole : Int) : left.orderInt? whole = some .eq ↔ first = .finite whole := by
  unfold amount? at isFirst
  cases leftMeaning : left.meaning <;>
    simp only [leftMeaning, reduceCtorEq, Option.some.injEq] at isFirst <;>
    subst isFirst <;> simp only [orderInt?, leftMeaning]
  case infinite negative => cases negative <;> simp
  case finite => simp [Dyadic.order_eq_iff, Dyadic.amount]

end Binary64

namespace Value

open Binary64 (Amount)

inductive Scalar where
  | null
  | number (amount : Amount)
  | text (characters : String)
  | bytes (octets : List UInt8)
  | moment (aware : Bool) (instant : Int)
  | day (date : Date)
  | clock (aware : Bool) (instant : Int)

def number? : Value → Option Amount
  | .float number => number.amount?
  | value => value.wholeOf?.map fun (whole : Int) => .finite whole

/-- What a value stands for that has no parts and can be compared. -/
def scalar? : Value → Option Scalar
  | .null => some .null
  | .text characters => some (.text characters)
  | .bytes octets => some (.bytes octets)
  | .dateTime moment => some (.moment moment.offset.isSome moment.instant)
  | .date day => some (.day day)
  | .time clock offset =>
    some (.clock offset.isSome (clock.sinceMidnight - (offset.map Offset.microseconds).getD 0))
  | value => value.number?.map .number

theorem number?_cases {value : Value} {amount : Amount} (isNumber : value.number? = some amount) :
    (∃ whole : Int, value.wholeOf? = some whole ∧ amount = .finite whole) ∨
      ∃ number, value = .float number ∧ number.amount? = some amount := by
  unfold number? at isNumber
  split at isNumber
  · exact .inr ⟨_, rfl, isNumber⟩
  · obtain ⟨whole, isWhole, rfl⟩ := Option.map_eq_some_iff.mp isNumber
    exact .inl ⟨whole, isWhole, rfl⟩

theorem numericOrder?_eq_iff {left right : Value} {first second : Amount}
    (isFirst : left.number? = some first) (isSecond : right.number? = some second) :
    left.numericOrder? right = some .eq ↔ first = second := by
  obtain ⟨whole, leftWhole, rfl⟩ | ⟨number, rfl, isFirst⟩ := number?_cases isFirst <;>
    obtain ⟨otherWhole, rightWhole, rfl⟩ | ⟨other, rfl, isSecond⟩ := number?_cases isSecond
  · simp [numericOrder?, leftWhole, rightWhole]
  · have noWhole : (Value.float other).wholeOf? = none := rfl
    have swapped (order : Ordering) : order.swap = .eq ↔ order = .eq := by cases order <;> decide
    have ordered := Binary64.orderInt?_eq_iff isSecond whole
    rw [eq_comm (a := Amount.finite whole), ← ordered]
    simp [numericOrder?, leftWhole, noWhole, swapped]
  · have noWhole : (Value.float number).wholeOf? = none := rfl
    simp only [numericOrder?, noWhole, rightWhole]
    exact Binary64.orderInt?_eq_iff isFirst otherWhole
  · exact Binary64.order?_eq_iff isFirst isSecond

theorem number?_of_isNumeric {value : Value} {meaning : Scalar} (numeric : value.isNumeric = true)
    (stands : value.scalar? = some meaning) :
    ∃ amount, value.number? = some amount ∧ meaning = .number amount := by
  have mapped : value.scalar? = value.number?.map .number := by
    cases value <;> cases numeric <;> rfl
  rw [mapped] at stands
  obtain ⟨amount, isNumber, rfl⟩ := Option.map_eq_some_iff.mp stands
  exact ⟨amount, isNumber, rfl⟩

theorem equalWithin_scalars {left right : Value} {first second : Scalar}
    (isFirst : left.scalar? = some first) (isSecond : right.scalar? = some second) (fuel : Nat) :
    ∃ equal, equalWithin (fuel + 1) left right = some equal ∧ (equal = true ↔ first = second) := by
  by_cases numeric : left.isNumeric = true ∧ right.isNumeric = true
  · obtain ⟨leftNumeric, rightNumeric⟩ := numeric
    obtain ⟨amount, isAmount, rfl⟩ := number?_of_isNumeric leftNumeric isFirst
    obtain ⟨other, isOther, rfl⟩ := number?_of_isNumeric rightNumeric isSecond
    have compared := numericOrder?_eq_iff isAmount isOther
    refine ⟨left.numericOrder? right == some .eq, ?_, ?_⟩
    · cases left <;> cases leftNumeric <;> cases right <;> cases rightNumeric <;>
        simp [equalWithin, view, isNumeric]
    · simp [compared]
  · -- With one number at most, the types decide, or else the contents of the one type.
    cases left <;> cases right <;> simp [isNumeric] at numeric <;>
      simp [scalar?, number?, wholeOf?] at isFirst isSecond <;>
      simp [equalWithin, view, isNumeric] <;> grind [DateTime.same]

end Value
end TolerantValidation
