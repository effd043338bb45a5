import TolerantValidation.Calendar.Iso
import TolerantValidation.Proofs.Calendar.Ordinal
import TolerantValidation.Proofs.Json.Writing

/-!
Date-times are read as they are written: date, clock and offset, each field of so many digits.
-/

namespace TolerantValidation.Iso

section Digits

variable {width number : Nat}

theorem isDigit_of_mem_padded {digit : Char} (member : digit ∈ padded width number) :
    Json.IsDigit digit := by
  rcases List.mem_append.mp member with zero | written
  · rw [List.eq_of_mem_replicate zero]
    unfold Json.IsDigit
    decide
  · exact Json.isDigit_of_mem_toDigits written

theorem length_padded (some : 0 < width) (fits : number < Nat.pow 10 width) :
    (padded width number).length = width := by
  rw [Nat.pow_eq] at fits
  have short := (Nat.length_toDigits_le_iff (by decide) some).mpr fits
  simp only [padded, List.length_append, List.length_replicate]
  omega

theorem ofDigitChars_padded : Nat.ofDigitChars 10 (padded width number) 0 = number := by
  have zeros : ∀ count, Nat.ofDigitChars 10
      (List.replicate count '0' ++ Nat.toDigits 10 number) 0 = number := by
    intro count
    induction count with
    | zero => exact Nat.ofDigitChars_ten_toDigits
    | succ count ih =>
        rw [List.replicate_succ, List.cons_append, Nat.ofDigitChars_cons]
        exact ih
  exact zeros _

theorem go_append {digits : List Char} (all : ∀ digit ∈ digits, Json.IsDigit digit)
    (start : Nat) (rest : List Char) :
    readDigits.go digits.length start (digits ++ rest) =
      some (Nat.ofDigitChars 10 digits start, rest) := by
  induction digits generalizing start with
  | nil => simp [readDigits.go]
  | cons digit digits ih =>
      obtain ⟨isDigit, others⟩ := List.forall_mem_cons.mp all
      have value : Text.asciiDigitValue? digit = some (digit.toNat - '0'.toNat) := if_pos isDigit
      rw [List.length_cons, List.cons_append, readDigits.go, value, Option.bind_some, ih others,
        Nat.ofDigitChars_cons, Nat.mul_comm]

theorem readDigits_padded (some : 0 < width) (fits : number < Nat.pow 10 width)
    (rest : List Char) : readDigits width (padded width number ++ rest) = .some (number, rest) := by
  have all : ∀ digit ∈ padded width number, Json.IsDigit digit := fun _ => isDigit_of_mem_padded
  have read := go_append all 0 rest
  rwa [length_padded some fits, ofDigitChars_padded] at read

theorem exists_padded (some : 0 < width) (fits : number < Nat.pow 10 width) :
    ∃ first after, padded width number = first :: after ∧ Json.IsDigit first ∧
      after.length + 1 = width := by
  have length := length_padded some fits
  have all : ∀ digit ∈ padded width number, Json.IsDigit digit := fun _ => isDigit_of_mem_padded
  cases same : padded width number with
  | nil =>
      rw [same] at length
      exact absurd length (Nat.ne_of_lt some)
  | cons first after =>
      rw [same] at all length
      exact ⟨first, after, rfl, (List.forall_mem_cons.mp all).1, length⟩

end Digits

section Date

theorem short_fields (date : Date) :
    date.year < Nat.pow 10 4 ∧ date.month < Nat.pow 10 2 ∧ date.day < Nat.pow 10 2 := by
  obtain ⟨_, mostYear, _, mostDay⟩ := date.exists_
  obtain ⟨_, mostMonth⟩ := date.month_bounds
  have month := Date.daysInMonth_le date.year date.month
  exact ⟨Nat.lt_of_le_of_lt mostYear (by decide), Nat.lt_of_le_of_lt mostMonth (by decide),
    Nat.lt_of_le_of_lt (Nat.le_trans mostDay month) (by decide)⟩

theorem dateText_eq (date : Date) : dateText date =
    padded 4 date.year ++ '-' :: (padded 2 date.month ++ '-' :: padded 2 date.day) := by
  simp [dateText]

theorem length_dateText (date : Date) : (dateText date).length = 10 := by
  obtain ⟨shortYear, shortMonth, shortDay⟩ := short_fields date
  simp only [dateText_eq, List.length_append, List.length_cons,
    length_padded (by decide : 0 < 4) shortYear, length_padded (by decide : 0 < 2) shortMonth,
    length_padded (by decide : 0 < 2) shortDay]

theorem readDate?_dateText (date : Date) : readDate? (dateText date) = some date := by
  obtain ⟨shortYear, shortMonth, shortDay⟩ := short_fields date
  have year := readDigits_padded (by decide) shortYear
    ('-' :: (padded 2 date.month ++ '-' :: padded 2 date.day))
  have month := readDigits_padded (by decide) shortMonth ('-' :: padded 2 date.day)
  have day := readDigits_padded (by decide) shortDay []
  rw [List.append_nil] at day
  rw [dateText_eq, readDate?, year]
  simp only [Option.bind_eq_bind, Option.bind_some, List.head?_cons, decide_true, if_true,
    List.drop_succ_cons, List.drop_zero]
  split
  · rename_i isWeek
    obtain ⟨first, after, same, isDigit, _⟩ := exists_padded (by decide) shortMonth
    rw [same] at isWeek
    cases isWeek
    exact absurd isDigit (by unfold Json.IsDigit; decide)
  · rw [month]
    simp only [Option.bind_some, day]
    simp [Date.ofParts?, date.exists_]

theorem dateLength?_dateText (date : Date) (separator : Char) (rest : List Char) :
    dateLength? (dateText date ++ separator :: rest) = some 10 := by
  obtain ⟨shortYear, shortMonth, _⟩ := short_fields date
  obtain ⟨first, after, same, isDigit, _⟩ := exists_padded (by decide) shortMonth
  have years := length_padded (by decide) shortYear
  have notWeek : first ≠ 'W' := by
    rintro rfl
    exact absurd isDigit (by unfold Json.IsDigit; decide)
  have long : (dateText date ++ separator :: rest).length = 11 + rest.length := by
    rw [List.length_append, length_dateText, List.length_cons]
    omega
  have fifth : (dateText date ++ separator :: rest)[4]? = some '-' := by
    rw [dateText_eq, List.append_assoc, List.getElem?_append_right (by omega), years]
    rfl
  have sixth : (dateText date ++ separator :: rest)[5]? = some first := by
    rw [dateText_eq, same, List.append_assoc, List.getElem?_append_right (by omega), years]
    rfl
  have notShort : ¬ 11 + rest.length < 7 := by omega
  have notSeven : ¬ 11 + rest.length = 7 := by omega
  simp only [dateLength?, long, fifth, sixth, notShort, notSeven, if_false, if_true,
    Option.some.injEq, notWeek]

end Date

section Clock

variable {hour minute second microsecond : Nat}

theorem readFraction_padded (parts : ClockParts) (fits : microsecond < 1000000) (following : Char) :
    readFraction parts (padded 6 microsecond) following =
      some ({ parts with microsecond }, following != endMark) := by
  have fits : microsecond < Nat.pow 10 6 := fits
  have length := length_padded (by decide) fits
  have read := readDigits_padded (by decide) fits []
  rw [List.append_nil] at read
  simp only [readFraction, length, Nat.min_self, read, Option.bind_eq_bind, Option.bind_some,
    List.dropWhile_nil, List.headD_nil, Nat.sub_self]
  simp

theorem readClock_colon {position number : Nat} (inClock : position < 2) (twoDigits : number < 100)
    {separated : Bool} (isSeparated : position = 0 ∨ separated = true) (parts : ClockParts)
    (following first : Char) (after : List Char) :
    readClock following position separated parts (padded 2 number ++ ':' :: first :: after) =
      readClock following (position + 1) true (parts.put position number) (first :: after) := by
  have twoDigits : number < Nat.pow 10 2 := twoDigits
  rw [readClock, readDigits_padded (by decide) twoDigits]
  · rcases isSeparated with rfl | rfl
    · simp
    · simp [inClock]
  · omega

theorem readClock_minute (inHour : minute < 60) (following : Char) :
    readClock following 1 true ⟨hour, 0, 0, 0⟩ (padded 2 minute) =
      some (⟨hour, minute, 0, 0⟩, following != endMark) := by
  have twoDigits : minute < Nat.pow 10 2 := Nat.lt_trans inHour (by decide)
  have read := readDigits_padded (by decide) twoDigits []
  rw [List.append_nil] at read
  rw [readClock, read]
  · simp [ClockParts.put]
  · intro same
    cases same

theorem readClock_second (inMinute : second < 60) (fits : microsecond < 1000000)
    (following : Char) :
    readClock following 2 true ⟨hour, minute, 0, 0⟩ (padded 2 second ++ fractionText microsecond) =
      some (⟨hour, minute, second, microsecond⟩, following != endMark) := by
  have twoDigits : second < Nat.pow 10 2 := Nat.lt_trans inMinute (by decide)
  rw [readClock, readDigits_padded (by decide) twoDigits]
  · by_cases whole : microsecond = 0
    · simp [fractionText, whole, ClockParts.put]
    · have sixDigits : microsecond < Nat.pow 10 6 := fits
      obtain ⟨first, after, same, _⟩ := exists_padded (by decide) sixDigits
      have fraction := readFraction_padded ⟨hour, minute, second, 0⟩ fits following
      rw [same] at fraction
      simp [fractionText, whole, same, ClockParts.put, fraction]
  · intro same
    cases same

theorem readClock_full (inDay : hour < 100) (inHour : minute < 60) (inMinute : second < 60)
    (fits : microsecond < 1000000) (following : Char) :
    readClock following 0 false {}
        (padded 2 hour ++ ':' :: (padded 2 minute ++ ':' ::
          (padded 2 second ++ fractionText microsecond))) =
      some (⟨hour, minute, second, microsecond⟩, following != endMark) := by
  have seconds := @readClock_second hour minute second microsecond inMinute fits following
  have shortMinute : minute < Nat.pow 10 2 := Nat.lt_trans inHour (by decide)
  have shortSecond : second < Nat.pow 10 2 := Nat.lt_trans inMinute (by decide)
  obtain ⟨minuteFirst, minuteAfter, minutes, _⟩ := exists_padded (by decide) shortMinute
  obtain ⟨secondFirst, secondAfter, same, _⟩ := exists_padded (by decide) shortSecond
  rw [same, List.cons_append] at seconds ⊢
  rw [minutes, List.cons_append, readClock_colon (by decide) inDay (.inl rfl), ← List.cons_append,
    ← minutes, readClock_colon (by decide) (Nat.lt_trans inHour (by decide)) (.inr rfl)]
  exact seconds

theorem readClock_short (inDay : hour < 100) (inHour : minute < 60) (following : Char) :
    readClock following 0 false {} (padded 2 hour ++ ':' :: padded 2 minute) =
      some (⟨hour, minute, 0, 0⟩, following != endMark) := by
  have shortMinute : minute < Nat.pow 10 2 := Nat.lt_trans inHour (by decide)
  obtain ⟨first, after, same, _⟩ := exists_padded (by decide) shortMinute
  have minutes := @readClock_minute hour minute inHour following
  rw [same] at minutes ⊢
  rw [readClock_colon (by decide) inDay (.inl rfl)]
  exact minutes

end Clock

section Time

theorem timeText_eq (time : TimeOfDay) : timeText time =
    padded 2 time.hour ++ ':' :: (padded 2 time.minute ++ ':' ::
      (padded 2 time.second ++ fractionText time.microsecond)) := by
  simp [timeText]

def IsMadeOf (marks text : List Char) : Prop :=
  ∀ character ∈ text, Json.IsDigit character ∨ character ∈ marks

variable {marks : List Char}

theorem isMadeOf_padded (width number : Nat) : IsMadeOf marks (padded width number) :=
  fun _ member => .inl (isDigit_of_mem_padded member)

theorem IsMadeOf.append {first second : List Char} (isFirst : IsMadeOf marks first)
    (isSecond : IsMadeOf marks second) : IsMadeOf marks (first ++ second) := by
  intro character member
  rcases List.mem_append.mp member with inFirst | inSecond
  · exact isFirst character inFirst
  · exact isSecond character inSecond

theorem IsMadeOf.cons {mark : Char} {text : List Char} (isMade : IsMadeOf marks text)
    (isMark : mark ∈ marks) : IsMadeOf marks (mark :: text) :=
  List.forall_mem_cons.mpr ⟨.inr isMark, isMade⟩

theorem isMadeOf_fractionText (microsecond : Nat) (point : '.' ∈ marks) :
    IsMadeOf marks (fractionText microsecond) := by
  unfold fractionText
  split
  · nofun
  · exact (isMadeOf_padded 6 microsecond).cons point

theorem isMadeOf_dateText (date : Date) (dash : '-' ∈ marks) : IsMadeOf marks (dateText date) := by
  have days := (@isMadeOf_padded marks 2 date.day).cons dash
  have months := ((isMadeOf_padded 2 date.month).append days).cons dash
  rw [dateText_eq]
  exact (isMadeOf_padded 4 date.year).append months

theorem isMadeOf_timeText (time : TimeOfDay) (colon : ':' ∈ marks) (point : '.' ∈ marks) :
    IsMadeOf marks (timeText time) := by
  have fraction := isMadeOf_fractionText time.microsecond point
  have seconds := ((isMadeOf_padded 2 time.second).append fraction).cons colon
  have minutes := ((isMadeOf_padded 2 time.minute).append seconds).cons colon
  rw [timeText_eq]
  exact (isMadeOf_padded 2 time.hour).append minutes

theorem isMadeOf_offsetText (offset : Offset) (signs : '-' ∈ marks ∧ '+' ∈ marks)
    (colon : ':' ∈ marks) (point : '.' ∈ marks) : IsMadeOf marks (offsetText offset) := by
  have hours (number : Nat) {sign : Char} (isSign : sign ∈ marks) :=
    (@isMadeOf_padded marks 2 number).cons isSign
  have minutes (number : Nat) := (@isMadeOf_padded marks 2 number).cons colon
  have fraction (number : Nat) := isMadeOf_fractionText number point
  have isSign : (if offset.microseconds < 0 then '-' else '+') ∈ marks := by
    split
    · exact signs.1
    · exact signs.2
  refine ((hours _ isSign).append (minutes _)).append ?_
  split
  · nofun
  · exact (minutes _).append (fraction _)

theorem readClock_timeText (time : TimeOfDay) (following : Char) :
    ∃ parts, readClock following 0 false {} (timeText time) = some (parts, following != endMark) ∧
      parts.time? = some time := by
  obtain ⟨inDay, inHour, inMinute, inSecond⟩ := time.exists_
  refine ⟨⟨time.hour, time.minute, time.second, time.microsecond⟩, ?_, ?_⟩
  · rw [timeText_eq]
    exact readClock_full (Nat.lt_trans inDay (by decide)) inHour inMinute inSecond following
  · simp [ClockParts.time?, TimeOfDay.ofParts?, time.exists_]

def offsetSign (offset : Offset) : Char := if offset.microseconds < 0 then '-' else '+'

def IsWholeOffset (offset : Offset) : Prop :=
  offset.microseconds.natAbs % 1000000 = 0

instance (offset : Offset) : Decidable (IsWholeOffset offset) := by
  unfold IsWholeOffset
  infer_instance

theorem readClock_offsetText (offset : Offset) :
    ∃ tail, offsetText offset = offsetSign offset :: tail ∧
      readClock endMark 0 false {} tail =
        some (⟨offset.microseconds.natAbs / 3600000000, offset.microseconds.natAbs / 60000000 % 60,
          offset.microseconds.natAbs / 1000000 % 60, offset.microseconds.natAbs % 1000000⟩,
          false) := by
  obtain ⟨least, most⟩ := offset.exists_
  obtain ⟨size, isSize⟩ : ∃ size, offset.microseconds.natAbs = size := ⟨_, rfl⟩
  have bound : size < dayLength := by omega
  unfold dayLength at bound
  have hours : size / 3600000000 < 100 := by omega
  have minutes : size / 60000000 % 60 < 60 := by omega
  have seconds : size / 1000000 % 60 < 60 := by omega
  have fraction : size % 1000000 < 1000000 := by omega
  rw [isSize]
  by_cases short : size / 1000000 % 60 = 0 ∧ size % 1000000 = 0
  · refine ⟨padded 2 (size / 3600000000) ++ ':' :: padded 2 (size / 60000000 % 60), ?_, ?_⟩
    · simp [offsetText, offsetSign, isSize, short]
    · rw [readClock_short hours minutes, short.1, short.2]
      rfl
  · refine ⟨_, ?_, readClock_full hours minutes seconds fraction endMark⟩
    simp [offsetText, offsetSign, isSize, short]

theorem offset?_of_whole {offset : Offset} (whole : IsWholeOffset offset) :
    ClockParts.offset? ⟨offset.microseconds.natAbs / 3600000000,
      offset.microseconds.natAbs / 60000000 % 60, offset.microseconds.natAbs / 1000000 % 60,
      offset.microseconds.natAbs % 1000000⟩ (offsetSign offset == '-') = some offset := by
  unfold IsWholeOffset at whole
  obtain ⟨microseconds, exists_⟩ := offset
  dsimp only at whole ⊢
  have seconds : microseconds.natAbs / 3600000000 * 3600 +
      microseconds.natAbs / 60000000 % 60 * 60 + microseconds.natAbs / 1000000 % 60 =
        microseconds.natAbs / 1000000 := by omega
  have sign : (offsetSign ⟨microseconds, exists_⟩ == '-') = decide (microseconds < 0) := by
    unfold offsetSign
    by_cases negative : microseconds < 0 <;> simp [negative]
  simp only [ClockParts.offset?, seconds, whole, sign, decide_eq_true_eq]
  split
  · have zero : microseconds = 0 := by omega
    subst zero
    rfl
  · have size : (if microseconds < 0 then
        -((microseconds.natAbs / 1000000 : Nat) * 1000000 + (0 : Nat) : Int)
        else (microseconds.natAbs / 1000000 : Nat) * 1000000 + (0 : Nat)) = microseconds := by
      split <;> omega
    rw [size]
    exact dif_pos exists_

theorem isOffsetMark_of_mem_timeText {time : TimeOfDay} {character : Char}
    (member : character ∈ timeText time) : (!isOffsetMark character) = true := by
  have isMade : IsMadeOf [':', '.'] (timeText time) :=
    isMadeOf_timeText time (by decide) (by decide)
  have other : character ∉ ['+', '-', 'Z'] := by
    rcases isMade character member with isDigit | isMark
    · exact isDigit.notMem (by simp [Json.IsDigit])
    · intro mark
      simp only [List.mem_cons, List.not_mem_nil, or_false] at isMark
      rcases isMark with rfl | rfl <;> exact absurd mark (by decide)
  simp only [List.mem_cons, List.not_mem_nil, or_false, not_or] at other
  simp [isOffsetMark, other]

theorem readTime?_clockText (time : TimeOfDay) {offset : Option Offset}
    (whole : ∀ known, offset = some known → IsWholeOffset known) :
    readTime? (clockText time offset) = some (time, offset) := by
  have noMark : ∀ character ∈ timeText time, (!isOffsetMark character) = true :=
    fun _ => isOffsetMark_of_mem_timeText
  unfold readTime? clockText
  dsimp only
  rw [List.takeWhile_append_of_pos noMark, List.dropWhile_append_of_pos noMark]
  cases offset with
  | none =>
      obtain ⟨parts, read, isTime⟩ := readClock_timeText time endMark
      simp [read, isTime]
  | some offset =>
      obtain ⟨tail, same, tailRead⟩ := readClock_offsetText offset
      obtain ⟨parts, read, isTime⟩ := readClock_timeText time (offsetSign offset)
      have isOffset := offset?_of_whole (whole offset rfl)
      have isMark : isOffsetMark (offsetSign offset) = true := by
        unfold offsetSign
        split <;> decide
      have notZulu : (offsetSign offset == 'Z') = false := by
        unfold offsetSign
        split <;> decide
      simp [same, isMark, read, isTime, notZulu, tailRead, isOffset]

/-- A date-time with an offset of whole seconds, or with none, is read as it is written. -/
theorem readDateTime?_dateTimeText (separator : Char) {moment : DateTime}
    (whole : ∀ offset, moment.offset = some offset → IsWholeOffset offset) :
    readDateTime? (dateTimeText separator moment) = some moment := by
  have taken : (dateTimeText separator moment).take 10 = dateText moment.date :=
    List.take_left' (length_dateText moment.date)
  have dropped : (dateTimeText separator moment).drop 10 =
      separator :: clockText moment.time moment.offset :=
    List.drop_left' (length_dateText moment.date)
  have length : dateLength? (dateTimeText separator moment) = some 10 :=
    dateLength?_dateText moment.date separator _
  have time := readTime?_clockText moment.time whole
  simp [readDateTime?, length, taken, dropped, readDate?_dateText, time]

theorem isMadeOf_dateTimeText (moment : DateTime) :
    IsMadeOf ['-', '+', ':', '.', 'T'] (dateTimeText 'T' moment) := by
  have date : IsMadeOf ['-', '+', ':', '.', 'T'] (dateText moment.date) :=
    isMadeOf_dateText moment.date (by decide)
  have time : IsMadeOf ['-', '+', ':', '.', 'T'] (timeText moment.time) :=
    isMadeOf_timeText moment.time (by decide) (by decide)
  refine date.append (IsMadeOf.cons (time.append ?_) (by decide))
  cases moment.offset with
  | none => nofun
  | some offset => exact isMadeOf_offsetText offset (by decide) (by decide) (by decide)

theorem isBlank_dateTimeText (moment : DateTime) :
    (dateTimeText 'T' moment).any Text.isBlank = false := by
  rw [List.any_eq_false]
  intro character member
  rw [Bool.not_eq_true]
  rcases isMadeOf_dateTimeText moment character member with ⟨least, most⟩ | isMark
  · exact Text.isBlank_eq_false_of_visible (Char.le_trans (by decide) least)
      (Char.le_trans most (by decide))
  · simp only [List.mem_cons, List.not_mem_nil, or_false] at isMark
    rcases isMark with rfl | rfl | rfl | rfl | rfl <;> decide

end Time

end TolerantValidation.Iso
