import Mathlib.Data.List.Basic
import Mathlib.Tactic.IntervalCases
import Mathlib.Tactic.Ring

/-!
# Date-times and their ISO 8601 text

A date-time is a number of microseconds of local time since the start of the
year 1, with an optional offset from UTC.  It is written in the extended form of
ISO 8601; the reader also takes the basic form and week dates.  Reading the text of
a date-time gives the date-time back.
-/

namespace IsoDateTime

/-! ## The calendar -/

def isLeap (year : Nat) : Bool :=
  year % 4 = 0 && (year % 100 ≠ 0 || year % 400 = 0)

def daysBeforeYear (year : Nat) : Nat :=
  (year - 1) * 365 + (year - 1) / 4 - (year - 1) / 100 + (year - 1) / 400

def daysInMonth (leap : Bool) (month : Nat) : Nat :=
  if month = 2 ∧ leap then 29
  else [31, 28, 31, 30, 31, 30, 31, 31, 30, 31, 30, 31].getD (month - 1) 0

def daysBeforeMonth (leap : Bool) (month : Nat) : Nat :=
  [0, 31, 59, 90, 120, 151, 181, 212, 243, 273, 304, 334].getD (month - 1) 0 +
    if 2 < month ∧ leap then 1 else 0

/-- The proleptic Gregorian ordinal; 1 January of the year 1 is day 1. -/
def ymdToOrdinal (year month day : Nat) : Nat :=
  daysBeforeYear year + daysBeforeMonth (isLeap year) month + day

/-- Month and day of the zero-based day of a year: an estimate of the month
that is at most one too large. -/
def monthAndDay (leap : Bool) (dayOfYear : Nat) : Nat × Nat :=
  let month := (dayOfYear + 50) / 32
  if dayOfYear < daysBeforeMonth leap month then
    (month - 1, dayOfYear - daysBeforeMonth leap (month - 1) + 1)
  else (month, dayOfYear - daysBeforeMonth leap month + 1)

/-- Year, month and day of an ordinal, by 400-, 100-, 4- and 1-year cycles. -/
def ordinalToYmd (ordinal : Nat) : Nat × Nat × Nat :=
  let n := ordinal - 1
  let n400 := n / 146097
  let n := n % 146097
  let n100 := n / 36524
  let n := n % 36524
  let n4 := n / 1461
  let n := n % 1461
  let n1 := n / 365
  let n := n % 365
  let year := n400 * 400 + n100 * 100 + n4 * 4 + n1 + 1
  if n1 = 4 ∨ n100 = 4 then (year - 1, 12, 31)
  else
    let leap : Bool := n1 = 3 && (n4 ≠ 24 || n100 = 3)
    (year, monthAndDay leap n)

theorem daysBeforeYear_cycle (n400 : Nat) {n100 n4 n1 : Nat} (h100 : n100 ≤ 3) (h4 : n4 ≤ 24)
    (h1 : n1 ≤ 3) :
    daysBeforeYear (n400 * 400 + n100 * 100 + n4 * 4 + n1 + 1) =
      n400 * 146097 + n100 * 36524 + n4 * 1461 + n1 * 365 := by
  simp only [daysBeforeYear, Nat.add_sub_cancel]
  omega

theorem isLeap_cycle (n400 : Nat) {n100 n4 n1 : Nat} (h100 : n100 ≤ 3) (h4 : n4 ≤ 24)
    (h1 : n1 ≤ 3) :
    isLeap (n400 * 400 + n100 * 100 + n4 * 4 + n1 + 1) =
      (n1 = 3 && (n4 ≠ 24 || n100 = 3) : Bool) := by
  rw [Bool.eq_iff_iff]
  simp only [isLeap, Bool.and_eq_true, Bool.or_eq_true, decide_eq_true_eq]
  omega

private theorem monthAndDay_table : ∀ leap : Bool, ∀ dayOfYear < 366,
    dayOfYear < 365 + leap.toNat →
      let (month, day) := monthAndDay leap dayOfYear
      (1 ≤ month ∧ month ≤ 12) ∧ (1 ≤ day ∧ day ≤ daysInMonth leap month) ∧
        daysBeforeMonth leap month + day = dayOfYear + 1 := by
  decide +kernel

/-- A calendar date: what a date constructor accepts. -/
def ValidDate (year month day : Nat) : Prop :=
  (1 ≤ year ∧ year ≤ 9999) ∧ (1 ≤ month ∧ month ≤ 12) ∧
    (1 ≤ day ∧ day ≤ daysInMonth (isLeap year) month)

instance (year month day : Nat) : Decidable (ValidDate year month day) :=
  inferInstanceAs (Decidable (_ ∧ _))

def maxOrdinal : Nat := 3652059

/-- An ordinal's date is valid and has that ordinal. -/
theorem ordinalToYmd_spec {ordinal : Nat} (positive : 1 ≤ ordinal)
    (bounded : ordinal ≤ maxOrdinal) :
    ∃ year month day, ordinalToYmd ordinal = (year, month, day) ∧
      ValidDate year month day ∧ ymdToOrdinal year month day = ordinal := by
  unfold maxOrdinal at bounded
  let n := ordinal - 1
  let n400 := n / 146097
  let n100 := n % 146097 / 36524
  let n4 := n % 146097 % 36524 / 1461
  let n1 := n % 146097 % 36524 % 1461 / 365
  let dayOfYear := n % 146097 % 36524 % 1461 % 365
  have split : n = n400 * 146097 + n100 * 36524 + n4 * 1461 + n1 * 365 + dayOfYear := by
    omega
  have h4 : n4 ≤ 24 := by omega
  have inYear : dayOfYear < 365 := by omega
  by_cases last : n1 = 4 ∨ n100 = 4
  · -- The last day of a 4-year or 400-year cycle falls in a leap year.
    have cycle : dayOfYear = 0 ∧
        ((n1 = 4 ∧ n4 ≤ 23 ∧ n100 ≤ 3) ∨ (n1 = 0 ∧ n4 = 0 ∧ n100 = 4)) := by
      omega
    have ordinalEq : ordinal = n + 1 := by omega
    refine ⟨n400 * 400 + n100 * 100 + n4 * 4 + n1, 12, 31, ?_, ?_, ?_⟩
    · show (if n1 = 4 ∨ n100 = 4 then _ else _) = _
      rw [if_pos last]
      rfl
    · refine ⟨by omega, by omega, by omega, ?_⟩
      simp [daysInMonth]
    · have leap : isLeap (n400 * 400 + n100 * 100 + n4 * 4 + n1) = true := by
        simp only [isLeap, Bool.and_eq_true, Bool.or_eq_true, decide_eq_true_eq]
        omega
      have before : daysBeforeYear (n400 * 400 + n100 * 100 + n4 * 4 + n1) + 365 = n := by
        obtain ⟨dayZero, ⟨four, h4, h100⟩ | ⟨zero, h4, h100⟩⟩ := cycle
        · have year := daysBeforeYear_cycle n400 h100 (h4.trans (by decide)) (le_refl 3)
          rw [four, ← Nat.add_assoc _ 3 1, year]
          omega
        · have year := daysBeforeYear_cycle n400 (le_refl 3) (le_refl 24) (le_refl 3)
          rw [zero, h4, h100, show n400 * 400 + 4 * 100 + 0 * 4 + 0 =
            n400 * 400 + 3 * 100 + 24 * 4 + 3 + 1 by omega, year]
          omega
      simp only [ymdToOrdinal, leap, ordinalEq, ← before]
      rfl
  · have h1 : n1 ≤ 3 := by omega
    have h100 : n100 ≤ 3 := by omega
    have leapEq := isLeap_cycle n400 h100 h4 h1
    have before := daysBeforeYear_cycle n400 h100 h4 h1
    have table := monthAndDay_table (isLeap (n400 * 400 + n100 * 100 + n4 * 4 + n1 + 1))
      dayOfYear (by omega) (by omega)
    rcases written : monthAndDay (isLeap (n400 * 400 + n100 * 100 + n4 * 4 + n1 + 1)) dayOfYear
      with ⟨month, day⟩
    rw [written] at table
    obtain ⟨monthRange, dayRange, within⟩ := table
    refine ⟨n400 * 400 + n100 * 100 + n4 * 4 + n1 + 1, month, day, ?_,
      ⟨by omega, monthRange, dayRange⟩, ?_⟩
    · show (if n1 = 4 ∨ n100 = 4 then _ else
        (n400 * 400 + n100 * 100 + n4 * 4 + n1 + 1, monthAndDay _ dayOfYear)) = _
      rw [if_neg last, ← leapEq, written]
    · simp only [ymdToOrdinal, before]
      omega

/-! ## Date-times -/

def ticksPerSecond : Nat := 1000000

def ticksPerDay : Nat := 86400 * ticksPerSecond

/-- An offset from UTC in microseconds, strictly within a day. -/
abbrev UtcOffset :=
  { offset : Int // -(ticksPerDay : Int) < offset ∧ offset < ticksPerDay }

def UtcOffset.utc : UtcOffset :=
  ⟨0, by decide⟩

@[ext]
structure DateTime where
  /-- Microseconds of local time since the start of the year 1. -/
  ticks : Nat
  inRange : ticks < maxOrdinal * ticksPerDay
  utcoffset : Option UtcOffset
  deriving DecidableEq, Repr

/-- The readings of a UTC clock. -/
abbrev UtcInstant :=
  { dateTime : DateTime // dateTime.utcoffset = some UtcOffset.utc }

def DateTime.IsAware (dateTime : DateTime) : Prop :=
  dateTime.utcoffset.isSome

/-- `first < second`, or `none` where only one of the two has an offset. -/
def DateTime.lessThan (first second : DateTime) : Option Bool :=
  match first.utcoffset, second.utcoffset with
  | none, none => some (first.ticks < second.ticks)
  | some firstOffset, some secondOffset =>
      some ((first.ticks : Int) - firstOffset.1 < (second.ticks : Int) - secondOffset.1)
  | _, _ => none

/-- `first - second` in microseconds, or `none` where only one of the two has an
offset. -/
def DateTime.subtract (first second : DateTime) : Option Int :=
  match first.utcoffset, second.utcoffset with
  | none, none => some ((first.ticks : Int) - second.ticks)
  | some firstOffset, some secondOffset =>
      some (((first.ticks : Int) - firstOffset.1) - ((second.ticks : Int) - secondOffset.1))
  | _, _ => none

theorem UtcInstant.isAware (instant : UtcInstant) : instant.1.IsAware := by
  simp [DateTime.IsAware, instant.2]

theorem DateTime.lessThan_isSome {first second : DateTime} (firstAware : first.IsAware)
    (secondAware : second.IsAware) : ∃ answer, first.lessThan second = some answer := by
  obtain ⟨firstOffset, firstEq⟩ := Option.isSome_iff_exists.mp firstAware
  obtain ⟨secondOffset, secondEq⟩ := Option.isSome_iff_exists.mp secondAware
  simp only [DateTime.lessThan, firstEq, secondEq]
  exact ⟨_, rfl⟩

theorem DateTime.subtract_isSome {first second : DateTime} (firstAware : first.IsAware)
    (secondAware : second.IsAware) :
    ∃ microseconds, first.subtract second = some microseconds := by
  obtain ⟨firstOffset, firstEq⟩ := Option.isSome_iff_exists.mp firstAware
  obtain ⟨secondOffset, secondEq⟩ := Option.isSome_iff_exists.mp secondAware
  simp only [DateTime.subtract, firstEq, secondEq]
  exact ⟨_, rfl⟩

/-- Move a date-time forward, or `none` past the last representable one. -/
def DateTime.addTicks (dateTime : DateTime) (ticks : Nat) : Option DateTime :=
  if inRange : dateTime.ticks + ticks < maxOrdinal * ticksPerDay then
    some ⟨dateTime.ticks + ticks, inRange, dateTime.utcoffset⟩
  else none

theorem DateTime.utcoffset_addTicks {dateTime later : DateTime} {ticks : Nat}
    (moved : dateTime.addTicks ticks = some later) : later.utcoffset = dateTime.utcoffset := by
  unfold addTicks at moved
  split_ifs at moved
  obtain rfl := Option.some.inj moved
  rfl

/-! ## Writing -/

def decimalDigit (number : Nat) : Char :=
  Char.ofNat (48 + number)

/-- The low `width` decimal digits of a number. -/
def padDigits : Nat → Nat → List Char
  | 0, _ => []
  | width + 1, number => padDigits width (number / 10) ++ [decimalDigit (number % 10)]

/-- `HH:MM:SS` and, when they are not zero, the microseconds. -/
def formatTime (ticks : Nat) : List Char :=
  let seconds := ticks / ticksPerSecond
  let microseconds := ticks % ticksPerSecond
  padDigits 2 (seconds / 3600) ++ ':' :: (padDigits 2 (seconds / 60 % 60) ++
    ':' :: (padDigits 2 (seconds % 60) ++
      if microseconds = 0 then [] else '.' :: padDigits 6 microseconds))

/-- `±HH:MM`, with seconds and microseconds only when they are not zero. -/
def formatOffset (offset : UtcOffset) : List Char :=
  let ticks := offset.1.natAbs
  let seconds := ticks / ticksPerSecond
  (if 0 ≤ offset.1 then '+' else '-') ::
    if seconds % 60 = 0 ∧ ticks % ticksPerSecond = 0 then
      padDigits 2 (seconds / 3600) ++ ':' :: padDigits 2 (seconds / 60 % 60)
    else formatTime ticks

def isoformatChars (separator : Char) (dateTime : DateTime) : List Char :=
  let (year, month, day) := ordinalToYmd (dateTime.ticks / ticksPerDay + 1)
  padDigits 4 year ++ '-' :: (padDigits 2 month ++ '-' :: (padDigits 2 day ++
    separator :: (formatTime (dateTime.ticks % ticksPerDay) ++
      (dateTime.utcoffset.map formatOffset).getD [])))

def isoformat (dateTime : DateTime) : String :=
  String.ofList (isoformatChars 'T' dateTime)

/-- `str(dateTime)`. -/
def DateTime.text (dateTime : DateTime) : String :=
  String.ofList (isoformatChars ' ' dateTime)

/-! ## Reading -/

/-- Read exactly `width` digits. -/
def readDigits : Nat → Nat → List Char → Option (Nat × List Char)
  | 0, value, characters => some (value, characters)
  | _ + 1, _, [] => none
  | width + 1, value, character :: rest =>
      if character.isDigit then readDigits width (value * 10 + (character.toNat - 48)) rest
      else none

/-- A fraction of a second in microseconds; digits past the sixth are cut. -/
def readFraction : List Char → Option Nat
  | [] => some 0
  | separator :: digits =>
      if (separator = '.' ∨ separator = ',') ∧ digits ≠ [] ∧ digits.all Char.isDigit then
        (readDigits 6 0 (digits.take 6 ++ List.replicate (6 - digits.length) '0')).map Prod.fst
      else none

/-- Hours, minutes, seconds and microseconds. -/
structure ClockParts where
  hour : Nat
  minute : Nat
  second : Nat
  microsecond : Nat

def ClockParts.ticks (parts : ClockParts) : Nat :=
  (parts.hour * 3600 + parts.minute * 60 + parts.second) * ticksPerSecond + parts.microsecond

/-- The next two digits, behind a colon if there are colons, and zero at the end. -/
def readPart (separated : Bool) : List Char → Option (Nat × List Char)
  | [] => some (0, [])
  | character :: rest =>
      if separated then if character = ':' then readDigits 2 0 rest else none
      else readDigits 2 0 (character :: rest)

/-- `HH[:?MM[:?SS[{.,}f+]]]`, with all colons or none. -/
def readParts (characters : List Char) : Option ClockParts := do
  let (hour, rest) ← readDigits 2 0 characters
  let separated := rest.head? = some ':'
  let (minute, rest) ← readPart separated rest
  let (second, rest) ← readPart separated rest
  let microsecond ← readFraction rest
  return { hour, minute, second, microsecond }

/-- The parts of an offset are not bounded one by one. -/
def readOffset : List Char → Option (Option UtcOffset)
  | [] => some none
  | ['Z'] => some (some UtcOffset.utc)
  | sign :: characters => do
      let parts ← readParts characters
      let offset : Int := if sign = '-' then -(parts.ticks : Int) else parts.ticks
      if bounds : -(ticksPerDay : Int) < offset ∧ offset < ticksPerDay then
        if sign = '+' ∨ sign = '-' then some (some ⟨offset, bounds⟩) else none
      else none

def isZoneStart (character : Char) : Bool :=
  character = '+' || character = '-' || character = 'Z'

def readClock (characters : List Char) : Option (Nat × Option UtcOffset) := do
  let parts ← readParts (characters.takeWhile fun character => !isZoneStart character)
  let offset ← readOffset (characters.dropWhile fun character => !isZoneStart character)
  if parts.hour < 24 ∧ parts.minute < 60 ∧ parts.second < 60 then some (parts.ticks, offset)
  else none

/-- The ordinal of the first Monday of an ISO year. -/
def isoWeek1Monday (year : Nat) : Nat :=
  let firstDay := ymdToOrdinal year 1 1
  let firstWeekday := (firstDay + 6) % 7
  if 3 < firstWeekday then firstDay + 7 - firstWeekday else firstDay - firstWeekday

/-- A year has 53 weeks if it starts on a Thursday, or is a leap year that starts on a
Wednesday. -/
def weeksInYear (year : Nat) : Nat :=
  let firstWeekday := (ymdToOrdinal year 1 1 + 6) % 7
  if firstWeekday = 3 ∨ (firstWeekday = 2 ∧ isLeap year) then 53 else 52

/-- A week date as an ordinal. -/
def isoWeekToOrdinal (year week day : Nat) : Option Nat :=
  if (1 ≤ year ∧ year ≤ 9999) ∧ (1 ≤ week ∧ week ≤ weeksInYear year) ∧ (1 ≤ day ∧ day ≤ 7) then
    some (isoWeek1Monday year + (week - 1) * 7 + (day - 1))
  else none

/-- One dash, in a date that has dashes. -/
def readDash (dashed : Bool) (characters : List Char) : Option (List Char) :=
  if dashed then if characters.head? = some '-' then some characters.tail else none
  else some characters

/-- `YYYY-?MM-?DD` or `YYYY-?Www[-?D]`, with all dashes or none, as an ordinal. -/
def readDate (characters : List Char) : Option Nat := do
  let (year, rest) ← readDigits 4 0 characters
  let dashed := rest.head? = some '-'
  let rest := if dashed then rest.tail else rest
  if rest.head? = some 'W' then
    let (week, rest) ← readDigits 2 0 rest.tail
    let day ← if rest = [] then some 1 else (readDash dashed rest >>= readDigits 1 0).map Prod.fst
    isoWeekToOrdinal year week day
  else
    let (month, rest) ← readDigits 2 0 rest
    let (day, _) ← readDash dashed rest >>= readDigits 2 0
    if ValidDate year month day then some (ymdToOrdinal year month day) else none

/-- How long the date is at the head of a text.  Any character may follow a date, so a digit
or a dash behind a week date can be taken in two ways. -/
def dateLength (characters : List Char) : Option Nat :=
  if characters.length < 7 then none
  else if characters.length = 7 then some 7
  else if characters[4]? = some '-' then
    if characters[5]? = some 'W' then
      if characters[8]? = some '-' then
        if characters.length = 9 then none
        else if characters[10]?.any Char.isDigit then some 8 else some 10
      else some 8
    else some 10
  else if characters[4]? = some 'W' then
    let digits := ((characters.drop 7).takeWhile Char.isDigit).length
    if digits < 2 then some (7 + digits) else if digits % 2 = 1 then some 7 else some 8
  else some 8

/-- The clock on a day that is no later than 31 December 9999. -/
def dateTimeOn (ordinal : Nat) (clock : Nat × Option UtcOffset) : Option DateTime :=
  let total := (ordinal - 1) * ticksPerDay + clock.1
  if valid : total < maxOrdinal * ticksPerDay then some ⟨total, valid, clock.2⟩ else none

def fromisoformatChars (characters : List Char) : Option DateTime := do
  let length ← dateLength characters
  let ordinal ← readDate (characters.take length)
  let rest := characters.drop length
  let clock ← if rest = [] then some (0, none) else readClock rest.tail
  dateTimeOn ordinal clock

/-- `datetime.fromisoformat`, or `none` where it raises. -/
def fromisoformat (text : String) : Option DateTime :=
  fromisoformatChars text.toList

/-! ## Reading what was written -/

private theorem decimalDigit_table : ∀ number < 10,
    (decimalDigit number).isDigit = true ∧ (decimalDigit number).toNat - 48 = number ∧
      isZoneStart (decimalDigit number) = false := by
  decide

theorem readDigits_padDigits (width extra value : Nat) {number : Nat}
    (fits : number < 10 ^ width) (rest : List Char) :
    readDigits (width + extra) value (padDigits width number ++ rest) =
      readDigits extra (value * 10 ^ width + number) rest := by
  induction width generalizing extra number rest with
  | zero =>
      have : number = 0 := by simpa using fits
      simp [padDigits, this]
  | succ width ih =>
      have quotientFits : number / 10 < 10 ^ width := by
        rw [pow_succ] at fits
        omega
      obtain ⟨isDigit, value_digit, -⟩ := decimalDigit_table (number % 10) (by omega)
      have accumulated : (value * 10 ^ width + number / 10) * 10 + number % 10 =
          value * 10 ^ (width + 1) + number := by
        rw [pow_succ, Nat.add_mul, Nat.mul_assoc]
        omega
      rw [padDigits, List.append_assoc, List.singleton_append,
        show width + 1 + extra = width + (extra + 1) by omega, ih (extra + 1) quotientFits,
        readDigits, if_pos isDigit, value_digit, accumulated]

theorem readDigits_pad (width : Nat) {number : Nat} (fits : number < 10 ^ width)
    (rest : List Char) :
    readDigits width 0 (padDigits width number ++ rest) = some (number, rest) := by
  have read := readDigits_padDigits width 0 0 fits rest
  simpa [readDigits] using read

theorem readDigits_pad_end (width : Nat) {number : Nat} (fits : number < 10 ^ width) :
    readDigits width 0 (padDigits width number) = some (number, []) := by
  simpa using readDigits_pad width fits []

theorem padDigits_digits (width number : Nat) :
    ∀ character ∈ padDigits width number,
      character.isDigit = true ∧ isZoneStart character = false := by
  induction width generalizing number with
  | zero => simp [padDigits]
  | succ width ih =>
      intro character member
      rw [padDigits, List.mem_append, List.mem_singleton] at member
      rcases member with member | rfl
      · exact ih (number / 10) character member
      · obtain ⟨isDigit, -, notZone⟩ := decimalDigit_table (number % 10) (by omega)
        exact ⟨isDigit, notZone⟩

@[simp]
theorem length_padDigits (width number : Nat) : (padDigits width number).length = width := by
  induction width generalizing number with
  | zero => rfl
  | succ width ih => simp [padDigits, ih]

theorem readFraction_pad {number : Nat} (fits : number < 10 ^ 6) :
    readFraction ('.' :: padDigits 6 number) = some number := by
  have allDigits : (padDigits 6 number).all Char.isDigit = true := by
    simpa using fun character member => (padDigits_digits 6 number character member).1
  have nonempty : padDigits 6 number ≠ [] := by
    intro empty
    simpa [empty] using length_padDigits 6 number
  have whole : (padDigits 6 number).take 6 = padDigits 6 number :=
    List.take_of_length_le (by simp)
  rw [readFraction, if_pos ⟨.inl rfl, nonempty, allDigits⟩, whole, readDigits_pad 6 fits]
  rfl

@[simp]
theorem readPart_nil (separated : Bool) : readPart separated [] = some (0, []) := rfl

@[simp]
theorem readPart_colon (rest : List Char) : readPart true (':' :: rest) = readDigits 2 0 rest := rfl

/-- The parts of a time of day. -/
def clockParts (ticks : Nat) : ClockParts where
  hour := ticks / ticksPerSecond / 3600
  minute := ticks / ticksPerSecond / 60 % 60
  second := ticks / ticksPerSecond % 60
  microsecond := ticks % ticksPerSecond

theorem ticks_clockParts (ticks : Nat) : (clockParts ticks).ticks = ticks := by
  simp only [clockParts, ClockParts.ticks, ticksPerSecond]
  omega

/-- A written time of day reads back. -/
theorem readParts_formatTime {ticks : Nat} (bounded : ticks < ticksPerDay) :
    readParts (formatTime ticks) = some (clockParts ticks) := by
  simp only [ticksPerDay, ticksPerSecond] at bounded
  simp only [formatTime, clockParts, ticksPerSecond]
  have hours := readDigits_pad 2 (show ticks / 1000000 / 3600 < 10 ^ 2 by omega)
  have minutes := readDigits_pad 2 (show ticks / 1000000 / 60 % 60 < 10 ^ 2 by omega)
  have seconds := readDigits_pad 2 (show ticks / 1000000 % 60 < 10 ^ 2 by omega)
  have secondsEnd := readDigits_pad_end 2 (show ticks / 1000000 % 60 < 10 ^ 2 by omega)
  have fraction := readFraction_pad (show ticks % 1000000 < 10 ^ 6 by omega)
  by_cases whole : ticks % 1000000 = 0
  · simp [readParts, hours, minutes, secondsEnd, whole, readFraction]
  · simp [readParts, hours, minutes, seconds, whole, fraction]

theorem readOffset_signed {sign : Char} {characters : List Char} {parts : ClockParts}
    (signed : sign = '+' ∨ sign = '-') (read : readParts characters = some parts)
    (offset : UtcOffset)
    (value : (if sign = '-' then -(parts.ticks : Int) else parts.ticks) = offset.1) :
    readOffset (sign :: characters) = some (some offset) := by
  unfold readOffset
  split
  case h_1 empty => cases empty
  case h_2 equal =>
    obtain ⟨rfl, -⟩ := List.cons.inj equal
    simp at signed
  case h_3 equal =>
    obtain ⟨rfl, rfl⟩ := List.cons.inj equal
    simp only [read, Option.bind_eq_bind, Option.bind_some, value, offset.2, signed,
      if_true, and_self, dif_pos]

/-- An offset of whole minutes, written without seconds, reads back. -/
theorem readParts_hoursMinutes {ticks : Nat} (bounded : ticks < ticksPerDay)
    (whole : ticks / ticksPerSecond % 60 = 0 ∧ ticks % ticksPerSecond = 0) :
    readParts (padDigits 2 (ticks / ticksPerSecond / 3600) ++
      ':' :: padDigits 2 (ticks / ticksPerSecond / 60 % 60)) = some (clockParts ticks) := by
  simp only [ticksPerDay, ticksPerSecond] at bounded whole
  simp only [clockParts, ticksPerSecond]
  have hours := readDigits_pad 2 (show ticks / 1000000 / 3600 < 10 ^ 2 by omega)
  have minutes := readDigits_pad_end 2 (show ticks / 1000000 / 60 % 60 < 10 ^ 2 by omega)
  simp [readParts, hours, minutes, whole, readFraction]

/-- A written offset reads back. -/
theorem readOffset_formatOffset (offset : UtcOffset) :
    readOffset (formatOffset offset) = some (some offset) := by
  obtain ⟨offset, bounds⟩ := offset
  have bounded : offset.natAbs < ticksPerDay := by omega
  have readTicks : readParts (if offset.natAbs / ticksPerSecond % 60 = 0 ∧
      offset.natAbs % ticksPerSecond = 0 then
        padDigits 2 (offset.natAbs / ticksPerSecond / 3600) ++
          ':' :: padDigits 2 (offset.natAbs / ticksPerSecond / 60 % 60)
      else formatTime offset.natAbs) = some (clockParts offset.natAbs) := by
    split_ifs with whole
    · exact readParts_hoursMinutes bounded whole
    · exact readParts_formatTime bounded
  refine readOffset_signed ?_ readTicks ⟨offset, bounds⟩ ?_
  · by_cases positive : 0 ≤ offset
    · exact .inl (if_pos positive)
    · exact .inr (if_neg positive)
  · rw [ticks_clockParts]
    by_cases positive : 0 ≤ offset
    · rw [if_pos positive, if_neg (by decide)]
      exact Int.natAbs_of_nonneg positive
    · rw [if_neg positive, if_pos rfl]
      show -(offset.natAbs : Int) = offset
      omega

private theorem zoneFree_formatTime (ticks : Nat) :
    ∀ character ∈ formatTime ticks, isZoneStart character = false := by
  have digits (width number : Nat) : ∀ character ∈ padDigits width number,
      isZoneStart character = false :=
    fun character member => (padDigits_digits width number character member).2
  have colon : isZoneStart ':' = false := by decide
  have point : isZoneStart '.' = false := by decide
  intro character member
  simp only [formatTime, List.mem_append, List.mem_cons] at member
  split_ifs at member
  · rcases member with member | rfl | member | rfl | member | member
    · exact digits _ _ _ member
    · exact colon
    · exact digits _ _ _ member
    · exact colon
    · exact digits _ _ _ member
    · cases member
  · rw [List.mem_cons] at member
    rcases member with member | rfl | member | rfl | member | rfl | member
    · exact digits _ _ _ member
    · exact colon
    · exact digits _ _ _ member
    · exact colon
    · exact digits _ _ _ member
    · exact point
    · exact digits _ _ _ member

private theorem span_append {time zone : List Char}
    (timeFree : ∀ character ∈ time, isZoneStart character = false)
    (zoneHead : ∀ character ∈ zone.head?, isZoneStart character = true) :
    (time ++ zone).takeWhile (fun character => !isZoneStart character) = time ∧
      (time ++ zone).dropWhile (fun character => !isZoneStart character) = zone := by
  induction time with
  | nil =>
      cases zone with
      | nil => exact ⟨rfl, rfl⟩
      | cons head tail =>
          have isStart := zoneHead head rfl
          simp [isStart]
  | cons character time ih =>
      have notStart := timeFree character (by simp)
      have tail := ih fun other member => timeFree other (List.mem_cons_of_mem _ member)
      simp [notStart, tail]

theorem readClock_format {ticks : Nat} (bounded : ticks < ticksPerDay)
    (offset : Option UtcOffset) :
    readClock (formatTime ticks ++ (offset.map formatOffset).getD []) =
      some (ticks, offset) := by
  have zoneHead : ∀ character ∈ ((offset.map formatOffset).getD []).head?,
      isZoneStart character = true := by
    cases offset with
    | none => simp
    | some offset =>
        intro character member
        by_cases positive : 0 ≤ offset.1
        · simp [formatOffset, positive] at member
          rw [← member]
          decide
        · simp [formatOffset, positive] at member
          rw [← member]
          decide
  have span := span_append (zoneFree_formatTime ticks) zoneHead
  have readBack : readOffset ((offset.map formatOffset).getD []) = some offset := by
    cases offset with
    | none => rfl
    | some offset => simpa using readOffset_formatOffset offset
  have inDay : (clockParts ticks).hour < 24 ∧ (clockParts ticks).minute < 60 ∧
      (clockParts ticks).second < 60 := by
    simp only [ticksPerDay, ticksPerSecond] at bounded
    simp only [clockParts, ticksPerSecond]
    omega
  simp [readClock, span.1, span.2, readParts_formatTime bounded, readBack, inDay,
    ticks_clockParts]

section DashedDates

variable (year month day : Nat)

/-- A date that is written with dashes. -/
def dashedDate : List Char :=
  padDigits 4 year ++ '-' :: (padDigits 2 month ++ '-' :: padDigits 2 day)

theorem length_dashedDate : (dashedDate year month day).length = 10 := by
  simp [dashedDate]

private theorem decimalDigit_ne_week (number : Nat) : decimalDigit (number % 10) ≠ 'W' := by
  intro week
  have isDigit := (decimalDigit_table (number % 10) (by omega)).1
  rw [week] at isDigit
  cases isDigit

theorem dateLength_dashedDate (rest : List Char) :
    dateLength (dashedDate year month day ++ rest) = some 10 := by
  simp [dateLength, dashedDate, padDigits, decimalDigit_ne_week]

variable {year month day}

theorem readDate_dashedDate (valid : ValidDate year month day) :
    readDate (dashedDate year month day) = some (ymdToOrdinal year month day) := by
  obtain ⟨⟨-, yearBound⟩, ⟨-, monthBound⟩, -, dayBound⟩ := id valid
  have dayInMonth : ∀ leap : Bool, ∀ month < 13, daysInMonth leap month < 100 := by decide
  have dayFits : day < 10 ^ 2 := lt_of_le_of_lt dayBound (dayInMonth _ _ (by omega))
  have readYear := readDigits_pad 4 (show year < 10 ^ 4 by omega)
  have readMonth := readDigits_pad 2 (show month < 10 ^ 2 by omega)
  have firstDigit : (padDigits 2 month).head? = some (decimalDigit (month / 10 % 10)) := rfl
  simp [readDate, dashedDate, readYear, readMonth, firstDigit, decimalDigit_ne_week, readDash,
    readDigits_pad_end 2 dayFits, valid]

end DashedDates

theorem isoformatChars_eq {dateTime : DateTime} {year month day : Nat}
    (date : ordinalToYmd (dateTime.ticks / ticksPerDay + 1) = (year, month, day))
    (separator : Char) :
    isoformatChars separator dateTime = dashedDate year month day ++
      separator :: (formatTime (dateTime.ticks % ticksPerDay) ++
        (dateTime.utcoffset.map formatOffset).getD []) := by
  simp [isoformatChars, date, dashedDate]

theorem dateTimeOn_day (dateTime : DateTime) :
    dateTimeOn (dateTime.ticks / ticksPerDay + 1)
      (dateTime.ticks % ticksPerDay, dateTime.utcoffset) = some dateTime := by
  have total : dateTime.ticks / ticksPerDay * ticksPerDay + dateTime.ticks % ticksPerDay =
      dateTime.ticks := Nat.div_add_mod' dateTime.ticks ticksPerDay
  simp only [dateTimeOn, Nat.add_sub_cancel, total]
  rw [dif_pos dateTime.inRange]

/-- Reading the text of a date-time gives the date-time back. -/
@[simp]
theorem fromisoformat_isoformat (dateTime : DateTime) :
    fromisoformat (isoformat dateTime) = some dateTime := by
  have dayBound : dateTime.ticks / ticksPerDay < maxOrdinal :=
    Nat.div_lt_of_lt_mul (by rw [Nat.mul_comm]; exact dateTime.inRange)
  obtain ⟨year, month, day, date, valid, ordinal⟩ :=
    ordinalToYmd_spec (Nat.le_add_left 1 (dateTime.ticks / ticksPerDay))
      (Nat.succ_le_of_lt dayBound)
  have sameLength := length_dashedDate year month day
  have read := readDate_dashedDate valid
  have clock := readClock_format (Nat.mod_lt dateTime.ticks (by decide)) dateTime.utcoffset
  rw [fromisoformat, isoformat, String.toList_ofList, isoformatChars_eq date, fromisoformatChars,
    dateLength_dashedDate, Option.bind_eq_bind, Option.bind_some, List.take_left' sameLength,
    List.drop_left' sameLength, read, ordinal]
  rw [Option.bind_eq_bind, Option.bind_some, if_neg (List.cons_ne_nil _ _), List.tail_cons, clock,
    Option.bind_some]
  exact dateTimeOn_day dateTime

end IsoDateTime
