import BareMetal.Time.Timestamp

/-!
# Instants are read as they were written

An instant of the years 0 to 9999 is written in numbers of fixed width, with a fraction of the
fewest digits that are exact, and in a leap second with second 60.  The reader gives it back.
-/

namespace BareMetal.Timestamp

/-! ## Numbers of fixed width -/

/-- Digits of a width spell a number. -/
structure Spells (digits : List Char) (width number : Nat) : Prop where
  /-- There are as many digits as the width says. -/
  length : digits.length = width
  /-- They are digits. -/
  isDigit : ∀ c ∈ digits, c.isDigit = true
  /-- They spell the number. -/
  number : ofDigits digits = number

theorem ofDigits_eq (digits : List Char) : ofDigits digits = Nat.ofDigitChars 10 digits 0 := by
  simp only [ofDigits, Nat.ofDigitChars_eq_foldl, Nat.mul_comm]

/-- A number with leading zeros is spelled by the digits that are written for it. -/
theorem spells_padded {width number : Nat} (positive : 0 < width)
    (bound : number < Nat.pow 10 width) : Spells (padded width number).toList width number := by
  have fits : (Nat.toDigits 10 number).length ≤ width :=
    (Nat.length_toDigits_le_iff (by decide) positive).2 bound
  simp only [padded, String.toList_ofList]
  refine ⟨?_, fun c member => ?_, ?_⟩
  · simp [Nat.sub_add_cancel fits]
  · rcases List.mem_append.1 member with zero | digit
    · rw [List.eq_of_mem_replicate zero]
      rfl
    · exact Nat.isDigit_of_mem_toDigits (by decide) (by decide) digit
  · rw [ofDigits_eq, Nat.ofDigitChars_append, Nat.ofDigitChars_replicate_zero, Nat.mul_zero,
      Nat.ofDigitChars_ten_toDigits]

theorem spells_two {number : Nat} (bound : number < 100) :
    Spells (padded 2 number).toList 2 number :=
  spells_padded (by decide) bound

theorem isBlank_of_isDigit {c : Char} (digit : c.isDigit = true) : Text.isBlank c = false := by
  simp only [Char.isDigit, Bool.and_eq_true, decide_eq_true_eq, ge_iff_le,
    UInt32.le_iff_toNat_le] at digit
  have low : 48 ≤ c.toNat := digit.1
  have high : c.toNat ≤ 57 := digit.2
  simp only [Text.isBlank, Bool.or_eq_false_iff, Bool.and_eq_false_iff, decide_eq_false_iff_not,
    beq_eq_false_iff_ne]
  omega

section

variable {digits : List Char} {width number : Nat}

theorem Spells.ne_nil (spells : Spells digits width number) (positive : 0 < width) :
    digits ≠ [] := by
  rintro rfl
  exact absurd spells.length (Nat.ne_of_lt positive)

/-- Digits in front keep blanks from being passed over. -/
theorem Spells.trimFront (spells : Spells digits width number) (positive : 0 < width)
    (rest : List Char) : Text.trimFront (digits ++ rest) = digits ++ rest := by
  cases digits with
  | nil => exact absurd rfl (spells.ne_nil positive)
  | cons c others =>
      have solid := isBlank_of_isDigit (spells.isDigit c List.mem_cons_self)
      simp [Text.trimFront, solid]

theorem Spells.readNumber (spells : Spells digits width number) (positive : 0 < width)
    (rest : List Char) : readNumber width (digits ++ rest) = some (number, rest) := by
  have all : digits.takeWhile Char.isDigit = digits := by
    rw [← List.append_nil digits, List.takeWhile_append_of_pos (by simpa using spells.isDigit)]
    simp
  have front : (digits ++ rest).take width = digits := by
    rw [← spells.length, List.take_left]
  simp [Timestamp.readNumber, spells.trimFront positive, front, all, spells.ne_nil positive,
    spells.number]

/-- A year of four digits is no year with a sign. -/
theorem Spells.readYear (spells : Spells digits 4 number) (rest : List Char) :
    readYear (digits ++ rest) = some ((number : Int), rest) := by
  have read := spells.readNumber (by decide) rest
  have trimmed := spells.trimFront (by decide) rest
  cases digits with
  | nil => exact absurd rfl (spells.ne_nil (by decide))
  | cons c others =>
      have digit := spells.isDigit c List.mem_cons_self
      unfold Timestamp.readYear
      rw [trimmed]
      split
      · rename_i minus
        obtain ⟨rfl, -⟩ := List.cons.inj minus
        exact absurd digit (by decide)
      · rename_i plus
        obtain ⟨rfl, -⟩ := List.cons.inj plus
        exact absurd digit (by decide)
      · rw [read]
        rfl

end

theorem readMark_cons {mark : Char} (solid : Text.isBlank mark = false) (rest : List Char) :
    readMark mark (mark :: rest) = some rest := by
  simp [readMark, Text.trimFront, solid]

/-! ## Fractions -/

/-- A fraction is read from the digits behind its point, up to where no digit follows. -/
theorem readFraction_padded {width number : Nat} (positive : 0 < width) (most : width ≤ 9)
    (bound : number < Nat.pow 10 width) :
    readFraction (("." ++ padded width number).toList ++ ['Z']) =
      some (number * Nat.pow 10 (9 - width), ['Z']) := by
  have spells := spells_padded positive bound
  have stops : ((padded width number).toList ++ ['Z']).takeWhile Char.isDigit =
      (padded width number).toList := by
    rw [List.takeWhile_append_of_pos spells.isDigit]
    simp
  have kept : (padded width number).toList.take 9 = (padded width number).toList :=
    List.take_of_length_le (by rwa [spells.length])
  rw [String.toList_append, List.append_assoc]
  simp [readFraction, stops, kept, spells.ne_nil positive, spells.number, spells.length]

/-- The fraction that is written for nanoseconds gives them back. -/
theorem readFraction_write {nanos : Nat} (bound : nanos < 1000000000) :
    readFraction ((writeFraction nanos).toList ++ ['Z']) = some (nanos, ['Z']) := by
  unfold writeFraction
  split
  · rename_i zero
    subst zero
    rfl
  · split
    · have millis : nanos / 1000000 < 1000 := by omega
      have exact_millis : nanos / 1000000 * 1000000 = nanos := by omega
      rw [readFraction_padded (by decide) (by decide) millis]
      exact congrArg (fun whole => some (whole, ['Z'])) exact_millis
    · split
      · have micros : nanos / 1000 < 1000000 := by omega
        have exact_micros : nanos / 1000 * 1000 = nanos := by omega
        rw [readFraction_padded (by decide) (by decide) micros]
        exact congrArg (fun whole => some (whole, ['Z'])) exact_micros
      · rw [readFraction_padded (by decide) (by decide) bound]
        exact congrArg (fun whole => some (whole, ['Z'])) (Nat.mul_one nanos)

/-! ## Instants -/

/-- At the offset zero an instant is what the clock shows. -/
theorem ofLocal_zero (time : Timestamp) (inRange : InRange time.date.year) :
    ofLocal time.date time.hour time.minute time.second time.nanos 0 = some time := by
  obtain ⟨date, hour, minute, second, nanos, isTimeOfDay⟩ := time
  have hours := isTimeOfDay.1
  have minutes := isTimeOfDay.2.1
  have within : ((hour * 60 + minute - 0 : Int) % 1440).toNat = hour * 60 + minute := by omega
  have hour_eq : (hour * 60 + minute) / 60 = hour := by omega
  have minute_eq : (hour * 60 + minute) % 60 = minute := by omega
  have not_before : ¬(hour * 60 + minute - 0 : Int) < 0 := by omega
  have not_after : ¬(1440 : Int) ≤ hour * 60 + minute - 0 := by omega
  simp only [ofLocal, within, hour_eq, minute_eq, not_before, not_after, if_false]
  rw [dif_pos isTimeOfDay, if_pos inRange]

/-- The second that is written, 60 in a leap second. -/
def shownSecond (time : Timestamp) : Nat :=
  if 1000000000 ≤ time.nanos then time.second + 1 else time.second

theorem shownSecond_le (time : Timestamp) : time.shownSecond ≤ 60 := by
  have := time.isTimeOfDay.2.2.1
  unfold shownSecond
  split <;> omega

/-- What is shown tells a leap second from any other second. -/
theorem ofLocal_shown (time : Timestamp) (inRange : InRange time.date.year) :
    (if time.shownSecond = 60 then
        ofLocal time.date time.hour time.minute 59 (1000000000 + time.nanos % 1000000000) 0
      else
        ofLocal time.date time.hour time.minute time.shownSecond (time.nanos % 1000000000) 0) =
      some time := by
  obtain ⟨-, -, seconds, nanos⟩ := time.isTimeOfDay
  have same := ofLocal_zero time inRange
  by_cases leap : 1000000000 ≤ time.nanos
  · have last : time.second = 59 := by
      refine Decidable.byContradiction fun other => ?_
      rw [if_neg other] at nanos
      omega
    have shown : time.shownSecond = 60 := by simp [shownSecond, leap, last]
    have whole : 1000000000 + time.nanos % 1000000000 = time.nanos := by
      rw [if_pos last] at nanos
      omega
    rw [if_pos shown, whole, ← last, same]
  · have shown : time.shownSecond = time.second := if_neg leap
    rw [shown, if_neg (by omega), Nat.mod_eq_of_lt (by omega), same]

/-- The parts that an instant is written in. -/
theorem toList_write (time : Timestamp) :
    time.write.toList = (writeYear time.date.year).toList ++ '-' ::
      ((padded 2 time.date.month).toList ++ '-' :: ((padded 2 time.date.day).toList ++ 'T' ::
      ((padded 2 time.hour).toList ++ ':' :: ((padded 2 time.minute).toList ++ ':' ::
      ((padded 2 time.shownSecond).toList ++
      ((writeFraction (time.nanos % 1000000000)).toList ++ ['Z'])))))) := by
  simp [write, writeSecond, shownSecond]

/-- An instant of the years 0 to 9999 is read as it was written. -/
theorem parse?_write (time : Timestamp) (from_zero : 0 ≤ time.date.year)
    (four_digits : time.date.year ≤ 9999) : parse? time.write = some time := by
  obtain ⟨month_low, month_high, day_low, day_high⟩ := time.date.isDate
  obtain ⟨hours, minutes, -, -⟩ := time.isTimeOfDay
  have seconds := time.shownSecond_le
  have days : daysInMonth time.date.year time.date.month ≤ 31 := by
    unfold daysInMonth
    repeat' split
    all_goals omega
  have inRange : InRange time.date.year := ⟨by omega, by omega⟩
  have two : 0 < 2 := by decide
  have four : time.date.year.natAbs < 10000 := by omega
  have year_written : writeYear time.date.year = padded 4 time.date.year.natAbs := by
    simp [writeYear, Int.not_lt.2 from_zero, Int.not_lt.2 four_digits]
  have year_read : ((time.date.year.natAbs : Nat) : Int) = time.date.year := by omega
  have year : Spells (padded 4 time.date.year.natAbs).toList 4 time.date.year.natAbs :=
    spells_padded (by decide) four
  have month : Spells (padded 2 time.date.month).toList 2 _ := spells_two (by omega)
  have day : Spells (padded 2 time.date.day).toList 2 _ := spells_two (by omega)
  have hour : Spells (padded 2 time.hour).toList 2 _ := spells_two (by omega)
  have minute : Spells (padded 2 time.minute).toList 2 _ := spells_two (by omega)
  have second : Spells (padded 2 time.shownSecond).toList 2 _ := spells_two (by omega)
  have fraction : readFraction _ = some (time.nanos % 1000000000, _) :=
    readFraction_write (Nat.mod_lt _ (by decide))
  have date : Date.of? time.date.year time.date.month time.date.day = some time.date :=
    dif_pos time.date.isDate
  have offset : readOffset (Text.trimFront ['Z']) = some (0, []) := rfl
  have dash (rest : List Char) : readMark '-' ('-' :: rest) = some rest :=
    readMark_cons (by decide) rest
  have colon (rest : List Char) : readMark ':' (':' :: rest) = some rest :=
    readMark_cons (by decide) rest
  have step {α β : Type} {first : Option α} {value : α} {next : α → Option β} {result : β}
      (given : first = some value) (rest : next value = some result) :
      first >>= next = some result := Option.bind_eq_some_iff.2 ⟨value, given, rest⟩
  rw [parse?, toList_write, year_written]
  refine step (year.readYear _) (step (dash _) (step (month.readNumber two _) ?_))
  refine step (dash _) (step (day.readNumber two _) (step rfl ?_))
  refine step (hour.readNumber two _) (step (colon _) (step (minute.readNumber two _) ?_))
  refine step (colon _) (step (second.readNumber two _) (step fraction (step offset ?_)))
  rw [year_read]
  refine step rfl (step (if_pos inRange) (step date (step (if_pos ?_) ?_)))
  · exact ⟨hours, minutes, seconds, by decide, by decide⟩
  · exact ofLocal_shown time inRange

end BareMetal.Timestamp
