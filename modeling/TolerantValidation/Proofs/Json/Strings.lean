import TolerantValidation.Proofs.Json.Grammar

/-!
Strings of JSON texts: the reader goes on to the closing quote exactly if what stands before it is
built as the grammar says.
-/

namespace TolerantValidation

namespace Text

theorem hexDigitValue?_isSome_iff {character : Char} :
    (hexDigitValue? character).isSome ↔ Json.IsHexDigit character := by
  unfold hexDigitValue? Json.IsHexDigit Json.IsDigit
  split
  · simp [*]
  split
  · simp [*]
  split <;> simp [*]

theorem hexUnit?_isSome_iff {a b c d : Char} :
    (hexUnit? a b c d).isSome ↔
      Json.IsHexDigit a ∧ Json.IsHexDigit b ∧ Json.IsHexDigit c ∧ Json.IsHexDigit d := by
  simp only [← hexDigitValue?_isSome_iff, hexUnit?]
  cases hexDigitValue? a <;> cases hexDigitValue? b <;> cases hexDigitValue? c <;>
    cases hexDigitValue? d <;> simp

end Text

namespace Json

variable {done rest : List Char}

def shortEscapes : List Char := ['"', '\\', '/', 'b', 'f', 'n', 'r', 't']

theorem shortEscape?_isSome_iff {escape : Char} :
    (shortEscape? escape).isSome ↔ escape ∈ shortEscapes := by
  unfold shortEscape? shortEscapes
  split <;> simp_all

theorem readString_plain {character : Char} (visible : ' ' ≤ character) (noQuote : character ≠ '"')
    (noEscape : character ≠ '\\') :
    readString done (character :: rest) = readString (character :: done) rest := by
  have notRefused : ¬ (character < ' ' ∨ character = '\\') := by
    simpa [noEscape] using visible
  rw [readString, if_neg notRefused]
  all_goals simp_all

theorem readString_short {escape character : Char} (known : shortEscape? escape = some character) :
    readString done ('\\' :: escape :: rest) = readString (character :: done) rest := by
  have notUnit : escape ≠ 'u' := by
    rintro rfl
    cases known
  rw [readString, known]
  all_goals simp_all

theorem readString_pair {a b c d e f g h : Char} {high low : Nat}
    (first : Text.hexUnit? a b c d = some high) (isHigh : Text.isHighSurrogate high = true)
    (second : Text.hexUnit? e f g h = some low) (isLow : Text.isLowSurrogate low = true) :
    readString done ('\\' :: 'u' :: a :: b :: c :: d :: '\\' :: 'u' :: e :: f :: g :: h :: rest) =
      readString (Text.joinSurrogates high low :: done) rest := by
  rw [readString]
  simp only [first, isHigh, second, isLow, if_true]

theorem readString_unit {a b c d : Char} {unit : Nat} (known : Text.hexUnit? a b c d = some unit)
    (alone : Text.isHighSurrogate unit = true → ∀ e f g h more,
      rest = '\\' :: 'u' :: e :: f :: g :: h :: more →
      ∃ second, Text.hexUnit? e f g h = some second ∧ Text.isLowSurrogate second = false) :
    readString done ('\\' :: 'u' :: a :: b :: c :: d :: rest) =
      readString (Text.unitCharacter unit :: done) rest := by
  by_cases another : ∃ e f g h more, rest = '\\' :: 'u' :: e :: f :: g :: h :: more
  · obtain ⟨e, f, g, h, more, rfl⟩ := another
    rw [readString]
    simp only [known]
    split
    · rename_i isHigh
      obtain ⟨second, secondKnown, notLow⟩ := alone isHigh e f g h more rfl
      simp only [secondKnown, notLow, Bool.false_eq_true, if_false]
    · rfl
  · rw [readString]
    · simp only [known]
    · exact fun e f g h more same => another ⟨e, f, g, h, more, same⟩

theorem readString_units {a b c d e f g h : Char} {unit next : Nat}
    (known : Text.hexUnit? a b c d = some unit) (nextKnown : Text.hexUnit? e f g h = some next) :
    ∃ character,
      readString done ('\\' :: 'u' :: a :: b :: c :: d :: '\\' :: 'u' :: e :: f :: g :: h :: rest) =
          readString (character :: done) rest ∨
        readString done
            ('\\' :: 'u' :: a :: b :: c :: d :: '\\' :: 'u' :: e :: f :: g :: h :: rest) =
          readString (character :: done) ('\\' :: 'u' :: e :: f :: g :: h :: rest) := by
  by_cases paired : Text.isHighSurrogate unit = true ∧ Text.isLowSurrogate next = true
  · exact ⟨_, .inl (readString_pair known paired.1 nextKnown paired.2)⟩
  · refine ⟨_, .inr (readString_unit known ?_)⟩
    rintro isHigh _ _ _ _ _ ⟨⟩
    exact ⟨next, nextKnown, by simpa [isHigh] using paired⟩

theorem IsStringBody.unit_of_append {body : List Char} (isBody : IsStringBody body)
    {e f g h : Char} {more : List Char}
    (starts : body ++ '"' :: rest = '\\' :: 'u' :: e :: f :: g :: h :: more) :
    ∃ later next, body = '\\' :: 'u' :: e :: f :: g :: h :: later ∧
      Text.hexUnit? e f g h = some next := by
  cases isBody with
  | nil => cases starts
  | plain _ _ noEscape _ =>
      rw [List.cons_append, List.cons.injEq] at starts
      exact absurd starts.1 noEscape
  | short isEscape _ =>
      simp only [List.cons_append, List.cons.injEq, true_and] at starts
      simp [starts.1] at isEscape
  | @unit a b c d later first second third fourth _ =>
      simp only [List.cons_append, List.cons.injEq, true_and] at starts
      obtain ⟨rfl, rfl, rfl, rfl, _⟩ := starts
      obtain ⟨next, known⟩ := Option.isSome_iff_exists.mp
        (Text.hexUnit?_isSome_iff.mpr ⟨first, second, third, fourth⟩)
      exact ⟨later, next, rfl, known⟩

theorem IsStringBody.exists_read {body : List Char} (isBody : IsStringBody body) :
    (∀ done rest, ∃ characters,
      readString done (body ++ '"' :: rest) = .ok (characters, rest)) ∧
    ∀ a b c d tail, body = '\\' :: 'u' :: a :: b :: c :: d :: tail → ∀ done rest, ∃ characters,
      readString done (tail ++ '"' :: rest) = .ok (characters, rest) := by
  -- A pair is read in one step, so what stands after the next escape is carried along.
  induction isBody with
  | nil => exact ⟨fun done rest => ⟨_, readString_quote⟩, nofun⟩
  | plain visible noQuote noEscape _ ih =>
      constructor
      · intro done rest
        rw [List.cons_append, readString_plain visible noQuote noEscape]
        exact ih.1 _ rest
      · rintro a b c d tail ⟨⟩
        exact absurd rfl noEscape
  | short isEscape _ ih =>
      obtain ⟨character, known⟩ := Option.isSome_iff_exists.mp
        (shortEscape?_isSome_iff.mpr isEscape)
      constructor
      · intro done rest
        rw [List.cons_append, List.cons_append, readString_short known]
        exact ih.1 _ rest
      · rintro a b c d tail ⟨⟩
        cases known
  | @unit a b c d tail first second third fourth tailIsBody ih =>
      obtain ⟨unit, known⟩ := Option.isSome_iff_exists.mp
        (Text.hexUnit?_isSome_iff.mpr ⟨first, second, third, fourth⟩)
      constructor
      · intro done rest
        simp only [List.cons_append]
        by_cases another : ∃ e f g h more,
            tail ++ '"' :: rest = '\\' :: 'u' :: e :: f :: g :: h :: more
        · obtain ⟨e, f, g, h, more, starts⟩ := another
          obtain ⟨later, next, rfl, nextKnown⟩ := tailIsBody.unit_of_append starts
          simp only [List.cons_append] at ih ⊢
          obtain ⟨character, joined | alone⟩ := readString_units known nextKnown
          · rw [joined]
            exact ih.2 e f g h later rfl _ rest
          · rw [alone]
            exact ih.1 _ rest
        · rw [readString_unit known fun _ e f g h more starts =>
            absurd ⟨e, f, g, h, more, starts⟩ another]
          exact ih.1 _ rest
      · rintro _ _ _ _ _ ⟨⟩
        exact ih.1

theorem isStringBody_unit {a b c d : Char} {unit : Nat} {body : List Char}
    (known : Text.hexUnit? a b c d = some unit) (isBody : IsStringBody body) :
    IsStringBody ('\\' :: 'u' :: a :: b :: c :: d :: body) := by
  obtain ⟨first, second, third, fourth⟩ :=
    Text.hexUnit?_isSome_iff.mp (Option.isSome_iff_exists.mpr ⟨unit, known⟩)
  exact .unit first second third fourth isBody

theorem exists_isStringBody {characters read : List Char}
    (returned : readString done characters = .ok (read, rest)) :
    ∃ body, IsStringBody body ∧ characters = body ++ '"' :: rest := by
  fun_induction readString done characters with
  | case2 done after =>
      cases returned
      exact ⟨[], .nil, rfl⟩
  | case5 done a b c d e f g h after unit known isHigh next nextKnown isLow ih =>
      obtain ⟨body, isBody, rfl⟩ := ih returned
      exact ⟨_, isStringBody_unit known (isStringBody_unit nextKnown isBody), rfl⟩
  | case6 done a b c d e f g h after unit known isHigh next nextKnown notLow ih =>
      obtain ⟨body, isBody, same⟩ := ih returned
      exact ⟨_, isStringBody_unit known isBody, by rw [same]; rfl⟩
  | case7 done a b c d e f g h after unit known notHigh ih =>
      obtain ⟨body, isBody, same⟩ := ih returned
      exact ⟨_, isStringBody_unit known isBody, by rw [same]; rfl⟩
  | case9 done a b c d after last unit known ih =>
      obtain ⟨body, isBody, rfl⟩ := ih returned
      exact ⟨_, isStringBody_unit known isBody, rfl⟩
  | case10 done escape after noPair noUnit character known ih =>
      obtain ⟨body, isBody, rfl⟩ := ih returned
      have isEscape := shortEscape?_isSome_iff.mp (Option.isSome_iff_exists.mpr ⟨_, known⟩)
      exact ⟨_, .short isEscape isBody, rfl⟩
  | case13 done character after noQuote noPair noUnit noEscape allowed ih =>
      obtain ⟨body, isBody, rfl⟩ := ih returned
      have visible : ' ' ≤ character := Char.not_lt.mp fun below => allowed (.inl below)
      exact ⟨_, .plain visible noQuote (fun same => allowed (.inr same)) isBody, rfl⟩
  | _ => cases returned

end Json
end TolerantValidation
