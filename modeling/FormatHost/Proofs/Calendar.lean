import FormatHost.Calendar
import Mathlib.Logic.Function.Iterate
import Mathlib.Order.Monotone.Basic
/-!
# Days after days

To go from a day to the next one counts the days: the numbers of the days are those of the steps from the
first day of the year 1, and no two days have the same number. So what a number is subtracted from can be
said in steps, without numbers.

The second half is about the written form of a day. What is read as a day is its written form, in which
digits of other scripts may stand at five of the places at most.
-/
namespace FormatHost.Day

variable {a b d : Day} {year month n : Nat}

/-! ### The next day -/

/-- The day after a day. -/
def next (d : Day) : Day :=
  if d.day < monthLength d.year d.month then ⟨d.year, d.month, d.day + 1⟩
  else if d.month < 12 then ⟨d.year, d.month + 1, 1⟩
  else ⟨d.year + 1, 1, 1⟩

/-- A day of a month of a year, however late the year. -/
structure Regular (d : Day) : Prop where
  year_pos : 1 ≤ d.year
  month_pos : 1 ≤ d.month
  month_le : d.month ≤ 12
  day_pos : 1 ≤ d.day
  day_le : d.day ≤ monthLength d.year d.month

theorem isValid_iff : d.IsValid ↔ d.Regular ∧ d.year ≤ maxYear := by
  constructor
  · rintro ⟨year_pos, year_le, month_pos, month_le, day_pos, day_le⟩
    exact ⟨⟨year_pos, month_pos, month_le, day_pos, day_le⟩, year_le⟩
  · rintro ⟨⟨year_pos, month_pos, month_le, day_pos, day_le⟩, year_le⟩
    exact ⟨year_pos, year_le, month_pos, month_le, day_pos, day_le⟩

theorem IsValid.regular (valid : d.IsValid) : d.Regular := (isValid_iff.1 valid).1

theorem monthLength_pos (year month : Nat) : 1 ≤ monthLength year month := by
  unfold monthLength
  repeat' split
  all_goals omega

theorem Regular.next (regular : d.Regular) : d.next.Regular := by
  obtain ⟨year_pos, month_pos, month_le, day_pos, day_le⟩ := regular
  unfold Day.next
  split
  next more => exact ⟨year_pos, month_pos, month_le, Nat.succ_pos _, more⟩
  next =>
    split
    next more => exact ⟨year_pos, Nat.succ_pos _, more, Nat.le_refl 1, monthLength_pos _ _⟩
    next => exact ⟨Nat.succ_pos _, Nat.le_refl 1, Nat.succ_pos 11, Nat.le_refl 1, monthLength_pos _ _⟩

/-! ### The number of the next day -/

/-- The number of days of a year. -/
def yearLength (year : Nat) : Nat := if isLeap year then 366 else 365

theorem isLeap_iff : isLeap year = true ↔ 4 ∣ year ∧ (¬100 ∣ year ∨ 400 ∣ year) := by
  simp [isLeap, Nat.dvd_iff_mod_eq_zero]

theorem daysBeforeYear_succ (positive : 1 ≤ year) :
    daysBeforeYear (year + 1) = daysBeforeYear year + yearLength year := by
  obtain ⟨y, rfl⟩ : ∃ y, year = y + 1 := ⟨year - 1, by omega⟩
  have fewer : y / 100 ≤ y / 4 := Nat.div_le_div_left (by decide) (by decide)
  have hundreds : 100 ∣ y + 1 → 4 ∣ y + 1 := Nat.dvd_trans (by decide)
  have fourHundreds : 400 ∣ y + 1 → 100 ∣ y + 1 := Nat.dvd_trans (by decide)
  simp only [daysBeforeYear, yearLength, isLeap_iff, Nat.add_sub_cancel, Nat.succ_div]
  -- which of the three counts of leap days go up
  by_cases four : 4 ∣ y + 1
  · by_cases hundred : 100 ∣ y + 1
    · by_cases fourHundred : 400 ∣ y + 1
      · simp only [four, hundred, fourHundred, if_true, not_true_eq_false, false_or, and_self]
        omega
      · simp only [four, hundred, fourHundred, if_true, if_false, not_true_eq_false, or_self, and_false]
        omega
    · have fourHundred : ¬400 ∣ y + 1 := fun more => hundred (fourHundreds more)
      simp only [four, hundred, fourHundred, if_true, if_false, not_false_eq_true, true_or, and_self]
      omega
  · have hundred : ¬100 ∣ y + 1 := fun more => four (hundreds more)
    have fourHundred : ¬400 ∣ y + 1 := fun more => hundred (fourHundreds more)
    simp only [four, hundred, fourHundred, if_false, false_and]
    omega

theorem daysBeforeMonth_succ (positive : 1 ≤ month) :
    daysBeforeMonth year (month + 1) = daysBeforeMonth year month + monthLength year month := by
  obtain ⟨m, rfl⟩ : ∃ m, month = m + 1 := ⟨month - 1, by omega⟩
  simp only [daysBeforeMonth, Nat.add_sub_cancel, List.range_succ, List.foldl_append, List.foldl_cons,
    List.foldl_nil]

theorem daysBeforeMonth_thirteen (year : Nat) : daysBeforeMonth year 13 = yearLength year := by
  have months : List.range 12 = [0, 1, 2, 3, 4, 5, 6, 7, 8, 9, 10, 11] := rfl
  cases leap : isLeap year <;> simp [daysBeforeMonth, yearLength, monthLength, months, leap]

theorem ordinal_next (regular : d.Regular) : d.next.ordinal = d.ordinal + 1 := by
  obtain ⟨year_pos, month_pos, month_le, -, day_le⟩ := regular
  have month_end : daysBeforeMonth d.year (d.month + 1) =
      daysBeforeMonth d.year d.month + monthLength d.year d.month := daysBeforeMonth_succ month_pos
  unfold next ordinal
  split
  · simp only
    omega
  · have last : d.day = monthLength d.year d.month := by omega
    split
    · simp only
      omega
    · have december : d.month = 12 := by omega
      have year_end := daysBeforeYear_succ year_pos
      have months_end := daysBeforeMonth_thirteen d.year
      have months_begin : daysBeforeMonth (d.year + 1) 1 = 0 := rfl
      simp only [december, Nat.reduceAdd] at month_end last ⊢
      omega

/-- As many steps further the number is so much greater. -/
theorem regular_iterate (regular : d.Regular) (n : Nat) :
    (next^[n] d).Regular ∧ (next^[n] d).ordinal = d.ordinal + n := by
  induction n with
  | zero => exact ⟨regular, rfl⟩
  | succ n ih =>
    rw [Function.iterate_succ_apply']
    refine ⟨ih.1.next, ?_⟩
    rw [ordinal_next ih.1, ih.2]
    omega

/-! ### One number for each day -/

theorem daysBeforeYear_mono : Monotone daysBeforeYear := by
  refine monotone_nat_of_le_succ fun year => ?_
  rcases Nat.eq_zero_or_pos year with rfl | positive
  · exact Nat.le_refl 0
  · rw [daysBeforeYear_succ positive]
    omega

theorem daysBeforeMonth_mono (year : Nat) : Monotone (daysBeforeMonth year) := by
  refine monotone_nat_of_le_succ fun month => ?_
  rcases Nat.eq_zero_or_pos month with rfl | positive
  · exact Nat.le_refl 0
  · rw [daysBeforeMonth_succ positive]
    omega

/-- No day of a month comes after the month. -/
theorem Regular.le_month_end (regular : d.Regular) :
    daysBeforeMonth d.year d.month + d.day ≤ daysBeforeMonth d.year (d.month + 1) := by
  rw [daysBeforeMonth_succ regular.month_pos]
  exact Nat.add_le_add_left regular.day_le _

/-- No day of a year comes after the year. -/
theorem Regular.ordinal_le (regular : d.Regular) : d.ordinal ≤ daysBeforeYear (d.year + 1) := by
  have month_end := regular.le_month_end
  have year_end : daysBeforeMonth d.year (d.month + 1) ≤ daysBeforeMonth d.year 13 :=
    daysBeforeMonth_mono d.year (Nat.add_le_add_right regular.month_le 1)
  rw [daysBeforeMonth_thirteen] at year_end
  rw [daysBeforeYear_succ regular.year_pos, ordinal]
  omega

theorem ordinal_lt_of_year (before : a.Regular) (after : b.Regular) (earlier : a.year < b.year) :
    a.ordinal < b.ordinal := by
  have within := before.ordinal_le
  have between : daysBeforeYear (a.year + 1) ≤ daysBeforeYear b.year := daysBeforeYear_mono earlier
  have some := after.day_pos
  unfold ordinal at within ⊢
  omega

theorem ordinal_lt_of_month (before : a.Regular) (after : b.Regular) (same : a.year = b.year)
    (earlier : a.month < b.month) : a.ordinal < b.ordinal := by
  have within := before.le_month_end
  have between : daysBeforeMonth a.year (a.month + 1) ≤ daysBeforeMonth a.year b.month :=
    daysBeforeMonth_mono a.year earlier
  have some := after.day_pos
  unfold ordinal
  rw [← same]
  omega

theorem eq_of_ordinal_eq (first : a.Regular) (second : b.Regular) (same : a.ordinal = b.ordinal) :
    a = b := by
  have years : a.year = b.year := by
    rcases Nat.lt_trichotomy a.year b.year with earlier | years | later
    · exact absurd same (Nat.ne_of_lt (ordinal_lt_of_year first second earlier))
    · exact years
    · exact absurd same.symm (Nat.ne_of_lt (ordinal_lt_of_year second first later))
  have months : a.month = b.month := by
    rcases Nat.lt_trichotomy a.month b.month with earlier | months | later
    · exact absurd same (Nat.ne_of_lt (ordinal_lt_of_month first second years earlier))
    · exact months
    · exact absurd same.symm (Nat.ne_of_lt (ordinal_lt_of_month second first years.symm later))
  have days : a.day = b.day := by
    unfold ordinal at same
    rw [years, months] at same
    omega
  cases a
  cases b
  simp_all

/-- A day comes so many days after another one if their numbers say so. -/
theorem iterate_eq_iff (first : a.Regular) (second : b.Regular) :
    next^[n] a = b ↔ a.ordinal + n = b.ordinal := by
  obtain ⟨regular, number⟩ := regular_iterate first n
  constructor
  · rintro rfl
    exact number.symm
  · intro later
    exact eq_of_ordinal_eq regular second (number.trans later)

/-- More than so many days lie between two days. -/
def Precedes (n : Nat) (a b : Day) : Prop := ∃ k, n < k ∧ next^[k] a = b

theorem precedes_iff (first : a.Regular) (second : b.Regular) :
    Precedes n a b ↔ a.ordinal + n < b.ordinal := by
  constructor
  · rintro ⟨k, more, later⟩
    have number := (iterate_eq_iff first second).1 later
    omega
  · intro earlier
    refine ⟨b.ordinal - a.ordinal, by omega, ?_⟩
    rw [iterate_eq_iff first second]
    omega

/-- So many days before a day there is one in the calendar. -/
def Reaches (n : Nat) (d : Day) : Prop := ∃ first : Day, first.IsValid ∧ next^[n] first = d

/-- The first day of the calendar. -/
def first : Day := ⟨1, 1, 1⟩

theorem reaches_iff (valid : d.IsValid) : Reaches n d ↔ n < d.ordinal := by
  constructor
  · rintro ⟨a, valid', later⟩
    have number := (iterate_eq_iff valid'.regular valid.regular).1 later
    have some := valid'.regular.day_pos
    unfold ordinal at number ⊢
    omega
  · intro within
    obtain ⟨regular, number⟩ := regular_iterate (d := first) ⟨by decide, by decide, by decide, by decide,
      by decide⟩ (d.ordinal - n - 1)
    have one : first.ordinal = 1 := rfl
    generalize next^[d.ordinal - n - 1] first = a at regular number
    refine ⟨a, isValid_iff.2 ⟨regular, ?_⟩, (iterate_eq_iff regular valid.regular).2 (by omega)⟩
    -- a later year would come after the day
    by_contra late
    have year_le := (isValid_iff.1 valid).2
    have after := ordinal_lt_of_year valid.regular regular (by omega)
    omega

theorem IsValid.ordinal_le (valid : d.IsValid) : d.ordinal ≤ daysBeforeYear (maxYear + 1) :=
  valid.regular.ordinal_le.trans (daysBeforeYear_mono (Nat.add_le_add_right (isValid_iff.1 valid).2 1))

/-! ### The written form -/

/-- A year with four digits. -/
def yearDigits (year : Nat) : List Char :=
  [(year / 1000).digitChar, (year / 100 % 10).digitChar, (year / 10 % 10).digitChar,
    (year % 10).digitChar]

/-- The day with four digits for the year, two for the month and two for the day of the month. -/
def written (d : Day) : List Char :=
  yearDigits d.year ++ ['-', (d.month / 10).digitChar, (d.month % 10).digitChar, '-', (d.day / 10).digitChar,
    (d.day % 10).digitChar]

/-- A text is the written form of a day, save that the digits of the year may be of any script, and so
may the last digit from the tenth to the twenty-ninth day of a month. -/
def SpelledBy (d : Day) (cs : List Char) : Prop :=
  ∃ year last, year.map Text.digitValue? = (yearDigits d.year).map Text.digitValue? ∧
    (last = (d.day % 10).digitChar ∨
      10 ≤ d.day ∧ d.day < 30 ∧ Text.digitValue? last = some (d.day % 10)) ∧
    cs = year ++ ['-', (d.month / 10).digitChar, (d.month % 10).digitChar, '-', (d.day / 10).digitChar, last]

theorem spelledBy_written (d : Day) : d.SpelledBy d.written := ⟨yearDigits d.year, _, rfl, .inl rfl, rfl⟩

theorem SpelledBy.length {cs : List Char} (spelled : d.SpelledBy cs) : cs.length = 10 := by
  obtain ⟨year, last, digits, -, rfl⟩ := spelled
  have four : year.length = 4 := by simpa [yearDigits] using congrArg List.length digits
  simp [four]

theorem digitValue?_lt {c : Char} (digit : Text.digitValue? c = some n) : n < 10 := by
  obtain ⟨start, found, rfl⟩ := Option.map_eq_some_iff.1 digit
  have range := List.find?_some found
  simp only [Bool.and_eq_true, decide_eq_true_eq] at range
  omega

theorem digitValue?_digitChar (small : n < 10) : Text.digitValue? n.digitChar = some n := by
  have all : ∀ k < 10, Text.digitValue? k.digitChar = some k := by decide
  exact all n small

theorem asciiDigit?_eq_some_iff {c : Char} : asciiDigit? c = some n ↔ n < 10 ∧ c = n.digitChar := by
  unfold asciiDigit?
  constructor
  · intro digit
    obtain ⟨⟨low, high⟩, value⟩ := Option.ite_none_right_eq_some.1 digit
    obtain rfl := Option.some.inj value
    have low : 48 ≤ c.toNat := low
    have high : c.toNat ≤ 57 := high
    refine ⟨by omega, Char.toNat_inj.1 ?_⟩
    rw [Nat.toNat_digitChar_of_lt_ten (by omega)]
    omega
  · rintro ⟨small, rfl⟩
    have all : ∀ k < 10, (if '0' ≤ k.digitChar ∧ k.digitChar ≤ '9' then some (k.digitChar.toNat - 48)
        else none) = some k := by decide
    exact all n small

theorem month?_eq_some_iff {x y : Char} :
    month? x y = some month ↔
      (1 ≤ month ∧ month ≤ 12) ∧ x = (month / 10).digitChar ∧ y = (month % 10).digitChar := by
  simp only [month?, bind, Option.bind_eq_some_iff, asciiDigit?_eq_some_iff,
    Option.ite_none_right_eq_some, Option.some.injEq]
  constructor
  · rintro ⟨tens, ⟨-, rfl⟩, ones, ⟨small, rfl⟩, range, rfl⟩
    refine ⟨range, ?_, ?_⟩ <;> congr 1 <;> omega
  · rintro ⟨range, rfl, rfl⟩
    exact ⟨month / 10, ⟨by omega, rfl⟩, month % 10, ⟨by omega, rfl⟩, by omega, by omega⟩

/-- The last digit of a day of a month, behind its first. -/
def lastDigit? (tens : Nat) (c : Char) : Option Nat :=
  if tens = 1 ∨ tens = 2 then Text.digitValue? c else asciiDigit? c

theorem lastDigit?_eq_some_iff {tens : Nat} {c : Char} :
    lastDigit? tens c = some n ↔
      n < 10 ∧ (c = n.digitChar ∨ (tens = 1 ∨ tens = 2) ∧ Text.digitValue? c = some n) := by
  unfold lastDigit?
  split
  next middle =>
    constructor
    · intro digit
      exact ⟨digitValue?_lt digit, .inr ⟨middle, digit⟩⟩
    · rintro ⟨small, rfl | ⟨-, digit⟩⟩
      · exact digitValue?_digitChar small
      · exact digit
  next outer => simp [asciiDigit?_eq_some_iff, outer]

theorem day?_eq_some_iff {x y : Char} :
    day? x y = some n ↔
      (1 ≤ n ∧ n ≤ 31) ∧ x = (n / 10).digitChar ∧
        (y = (n % 10).digitChar ∨ 10 ≤ n ∧ n < 30 ∧ Text.digitValue? y = some (n % 10)) := by
  have parts : day? x y = (asciiDigit? x).bind fun tens => (lastDigit? tens y).bind fun ones =>
      if 1 ≤ 10 * tens + ones ∧ 10 * tens + ones ≤ 31 then some (10 * tens + ones) else none := by
    unfold day? lastDigit?
    refine congrArg (asciiDigit? x).bind (funext fun tens => ?_)
    split <;> rfl
  simp only [parts, Option.bind_eq_some_iff, asciiDigit?_eq_some_iff, lastDigit?_eq_some_iff,
    Option.ite_none_right_eq_some, Option.some.injEq]
  constructor
  · rintro ⟨tens, ⟨-, rfl⟩, ones, ⟨small, last⟩, range, rfl⟩
    have first : (10 * tens + ones) / 10 = tens := by omega
    have second : (10 * tens + ones) % 10 = ones := by omega
    rw [first, second]
    refine ⟨range, rfl, last.imp_right ?_⟩
    rintro ⟨middle, digit⟩
    exact ⟨by omega, by omega, digit⟩
  · rintro ⟨range, rfl, last⟩
    refine ⟨n / 10, ⟨by omega, rfl⟩, n % 10, ⟨by omega, last.imp_right ?_⟩, by omega, by omega⟩
    rintro ⟨low, high, digit⟩
    exact ⟨by omega, digit⟩

theorem monthLength_le (year month : Nat) : monthLength year month ≤ 31 := by
  unfold monthLength
  repeat' split
  all_goals omega

/-- Four characters stand for a year if their values are its digits. -/
theorem map_digits_iff {year : Nat} (within : year ≤ maxYear) {cs : List Char} :
    cs.map Text.digitValue? = (yearDigits year).map Text.digitValue? ↔
      ∃ a b c e, cs = [a, b, c, e] ∧ Text.digitValue? a = some (year / 1000) ∧
        Text.digitValue? b = some (year / 100 % 10) ∧ Text.digitValue? c = some (year / 10 % 10) ∧
        Text.digitValue? e = some (year % 10) := by
  have within : year ≤ 9999 := within
  have digits : (yearDigits year).map Text.digitValue? =
      [some (year / 1000), some (year / 100 % 10), some (year / 10 % 10), some (year % 10)] := by
    simp only [yearDigits, List.map_cons, List.map_nil]
    rw [digitValue?_digitChar (by omega), digitValue?_digitChar (by omega),
      digitValue?_digitChar (by omega), digitValue?_digitChar (by omega)]
  simp only [digits, List.map_eq_cons_iff, List.map_eq_nil_iff]
  constructor
  · rintro ⟨a, _, rfl, first, b, _, rfl, second, c, _, rfl, third, e, _, rfl, fourth, rfl⟩
    exact ⟨a, b, c, e, rfl, first, second, third, fourth⟩
  · rintro ⟨a, b, c, e, rfl, first, second, third, fourth⟩
    exact ⟨a, _, rfl, first, b, _, rfl, second, c, _, rfl, third, e, _, rfl, fourth, rfl⟩

/-- What is read as a day. -/
theorem parse?_eq_some_iff {cs : List Char} : parse? cs = some d ↔ d.IsValid ∧ d.SpelledBy cs := by
  constructor
  · intro read
    unfold parse? at read
    split at read
    · next a b c e m n p q =>
      simp only [bind, Option.bind_eq_some_iff, month?_eq_some_iff, day?_eq_some_iff,
        Option.ite_none_right_eq_some, Option.some.injEq] at read
      obtain ⟨thousands, first, hundreds, second, tens, third, ones, fourth, month, ⟨-, rfl, rfl⟩, day,
        ⟨-, rfl, last⟩, valid, rfl⟩ := read
      refine ⟨valid, [a, b, c, e], q, ?_, last, rfl⟩
      have small := digitValue?_lt second
      have small' := digitValue?_lt third
      have small'' := digitValue?_lt fourth
      rw [map_digits_iff (isValid_iff.1 valid).2]
      refine ⟨a, b, c, e, rfl, first.trans ?_, second.trans ?_, third.trans ?_, fourth.trans ?_⟩
      all_goals
        simp only [Option.some.injEq]
        omega
    · simp at read
  · rintro ⟨valid, year, last, digits, ends, rfl⟩
    obtain ⟨regular, year_le⟩ := isValid_iff.1 valid
    obtain ⟨a, b, c, e, rfl, first, second, third, fourth⟩ := (map_digits_iff year_le).1 digits
    have day_le := regular.day_le.trans (monthLength_le d.year d.month)
    have month : month? (d.month / 10).digitChar (d.month % 10).digitChar = some d.month :=
      month?_eq_some_iff.2 ⟨⟨regular.month_pos, regular.month_le⟩, rfl, rfl⟩
    have day : day? (d.day / 10).digitChar last = some d.day :=
      day?_eq_some_iff.2 ⟨⟨regular.day_pos, day_le⟩, rfl, ends⟩
    have whole : 1000 * (d.year / 1000) + 100 * (d.year / 100 % 10) + 10 * (d.year / 10 % 10) +
        d.year % 10 = d.year := by omega
    simp only [List.cons_append, List.nil_append, parse?, bind, Option.bind, first, second, third, fourth,
      month, day, whole]
    exact if_pos valid

end FormatHost.Day
