import Karar.Foundation.DecimalText
import Mathlib.Algebra.Order.Group.Unbundled.Int
import Mathlib.Data.Int.Order.Basic

/-!
# Dates as texts

A time value is a number of milliseconds since the first of January 1970, within a hundred million days
of it. `fields` takes it apart in the proleptic Gregorian calendar, and `toISOString` writes the fields
down: years from 0 to 9999 with four digits, the others with a sign and six. `parseIso` reads texts of
this form, and a text that was written is read back (`parseIso_toISOString`).
-/

namespace Karar.Foundation.IsoDate

open DecimalText

/-- The time value of a valid `Date`. -/
structure TimeValue where
  time : ℤ
  inRange : |time| ≤ 8640000000000000
deriving DecidableEq

theorem epoch_inRange : |(0 : ℤ)| ≤ 8640000000000000 := by decide

def epoch : TimeValue := ⟨0, epoch_inRange⟩

/-! ### Years -/

/-- The first day of a year, counted from 1970. -/
def dayFromYear (year : ℤ) : ℤ :=
  365 * (year - 1970) + (year - 1969) / 4 - (year - 1901) / 100 + (year - 1601) / 400

def isLeap (year : ℤ) : Bool := year % 4 = 0 && (year % 100 ≠ 0 || year % 400 = 0)

/-- The year that a day is in: 400 years are 146097 days, and the estimate is off by one at most. -/
def yearFromDay (day : ℤ) : ℤ :=
  let estimate := day * 400 / 146097 + 1970
  if dayFromYear (estimate + 1) ≤ day then estimate + 1
  else if dayFromYear estimate ≤ day then estimate
  else estimate - 1

theorem dayFromYear_yearFromDay (day : ℤ) :
    dayFromYear (yearFromDay day) ≤ day ∧ day < dayFromYear (yearFromDay day + 1) := by
  unfold yearFromDay
  dsimp only
  split_ifs with hlate hearly
  · refine ⟨hlate, ?_⟩
    unfold dayFromYear at *
    omega
  · exact ⟨hearly, not_le.mp hlate⟩
  · rw [sub_add_cancel]
    refine ⟨?_, not_le.mp hearly⟩
    unfold dayFromYear at *
    omega

theorem dayFromYear_succ (year : ℤ) :
    dayFromYear (year + 1) = dayFromYear year + if isLeap year then 366 else 365 := by
  unfold dayFromYear isLeap
  split_ifs with hleap
  · simp only [Bool.and_eq_true, Bool.or_eq_true, decide_eq_true_eq] at hleap
    omega
  · simp only [Bool.and_eq_true, Bool.or_eq_true, decide_eq_true_eq] at hleap
    omega

/-! ### Months -/

/-- The lengths of the months of a year. -/
def monthLengths (leap : Bool) : List ℕ :=
  [31, if leap then 29 else 28, 31, 30, 31, 30, 31, 31, 30, 31, 30, 31]

/-- The period that a day is in, and the day's place in it, both from zero. -/
def locate : List ℕ → ℕ → ℕ × ℕ
  | [], day => (0, day)
  | length :: lengths, day =>
    if day < length then (0, day)
    else ((locate lengths (day - length)).1 + 1, (locate lengths (day - length)).2)

/-- The number of days before a period. -/
def daysBefore (lengths : List ℕ) (index : ℕ) : ℕ := (lengths.take index).sum

theorem locate_spec {lengths : List ℕ} {day : ℕ} (hday : day < lengths.sum) :
    daysBefore lengths (locate lengths day).1 + (locate lengths day).2 = day ∧
      ∃ length, lengths[(locate lengths day).1]? = some length ∧ (locate lengths day).2 < length := by
  unfold daysBefore
  induction lengths generalizing day with
  | nil => exact absurd hday (Nat.not_lt_zero _)
  | cons length lengths ih =>
    rw [locate]
    split_ifs with hfirst
    · exact ⟨Nat.zero_add _, length, rfl, hfirst⟩
    · rw [List.sum_cons] at hday
      obtain ⟨hsum, found, hfound, hlt⟩ := @ih (day - length) (by omega)
      refine ⟨?_, found, hfound, hlt⟩
      rw [List.take_succ_cons, List.sum_cons]
      omega

theorem sum_monthLengths (leap : Bool) : (monthLengths leap).sum = if leap then 366 else 365 := by
  cases leap with
  | true => rfl
  | false => rfl

/-! ### Fields -/

/-- The fields of a date, in UTC. Months and days count from one. -/
structure Fields where
  year : ℤ
  month : ℕ
  day : ℕ
  hour : ℕ
  minute : ℕ
  second : ℕ
  millisecond : ℕ
deriving DecidableEq

namespace Fields

/-- The milliseconds since the epoch that the fields stand for. -/
def time (fields : Fields) : ℤ :=
  (dayFromYear fields.year + daysBefore (monthLengths (isLeap fields.year)) (fields.month - 1) +
    (fields.day - 1)) * 86400000 +
      (fields.hour * 3600000 + fields.minute * 60000 + fields.second * 1000 + fields.millisecond)

/-- The fields name a day of the calendar and a time of it, and have room in the text. -/
def IsLegal (fields : Fields) : Prop :=
  |fields.year| < 1000000 ∧ fields.month ∈ List.range' 1 12 ∧
    (∃ length ∈ (monthLengths (isLeap fields.year))[fields.month - 1]?,
      1 ≤ fields.day ∧ fields.day ≤ length) ∧
        fields.hour < 24 ∧ fields.minute < 60 ∧ fields.second < 60 ∧ fields.millisecond < 1000

instance (fields : Fields) : Decidable fields.IsLegal :=
  inferInstanceAs (Decidable (_ ∧ _ ∧ _ ∧ _ ∧ _ ∧ _ ∧ _))

end Fields

/-- The fields of a time. -/
def fields (time : ℤ) : Fields :=
  let day := time / 86400000
  let year := yearFromDay day
  let (month, date) := locate (monthLengths (isLeap year)) (day - dayFromYear year).toNat
  let rest := (time % 86400000).toNat
  { year := year
    month := month + 1
    day := date + 1
    hour := rest / 3600000
    minute := rest / 60000 % 60
    second := rest / 1000 % 60
    millisecond := rest % 1000 }

theorem abs_yearFromDay_lt {day : ℤ} (hday : |day| ≤ 100000000) : |yearFromDay day| < 1000000 := by
  obtain ⟨hfrom, hto⟩ := dayFromYear_yearFromDay day
  obtain ⟨hlow, hhigh⟩ := abs_le.mp hday
  unfold dayFromYear at hfrom hto
  rw [abs_lt]
  omega

/-- A place in a year, as months and days. -/
theorem locate_monthLengths {day : ℤ} {index date : ℕ} (hlocate : (index, date) =
    locate (monthLengths (isLeap (yearFromDay day))) (day - dayFromYear (yearFromDay day)).toNat) :
    dayFromYear (yearFromDay day) +
        daysBefore (monthLengths (isLeap (yearFromDay day))) index + date = day ∧
      index < 12 ∧ ∃ length, (monthLengths (isLeap (yearFromDay day)))[index]? = some length ∧
        date < length := by
  obtain ⟨hfrom, hto⟩ := dayFromYear_yearFromDay day
  rw [dayFromYear_succ] at hto
  have hday : (day - dayFromYear (yearFromDay day)).toNat <
      (monthLengths (isLeap (yearFromDay day))).sum := by
    rw [sum_monthLengths]
    split_ifs at hto ⊢
    · omega
    · omega
  obtain ⟨hsum, length, hlength, hlt⟩ := locate_spec hday
  rw [← hlocate] at hsum hlength hlt
  dsimp only at hsum hlength hlt
  refine ⟨by omega, ?_, length, hlength, hlt⟩
  obtain ⟨hindex, _⟩ := List.getElem?_eq_some_iff.mp hlength
  exact hindex

theorem fields_spec {time : ℤ} (hrange : |time| ≤ 8640000000000000) :
    (fields time).IsLegal ∧ (fields time).time = time := by
  have hrange := abs_le.mp hrange
  have hday : |time / 86400000| ≤ 100000000 := by
    rw [abs_le]
    omega
  unfold fields
  dsimp only
  generalize hlocate : locate (monthLengths (isLeap (yearFromDay (time / 86400000))))
    (time / 86400000 - dayFromYear (yearFromDay (time / 86400000))).toNat = found
  obtain ⟨index, date⟩ := found
  obtain ⟨hdays, hindex, length, hlength, hdate⟩ := locate_monthLengths hlocate.symm
  have hyear := abs_yearFromDay_lt hday
  generalize yearFromDay (time / 86400000) = year at *
  constructor
  · refine ⟨hyear, ?_, ⟨length, ?_, ?_, ?_⟩, ?_, ?_, ?_, ?_⟩
    · rw [List.mem_range'_1]
      dsimp only
      omega
    · exact hlength
    · exact Nat.succ_pos date
    · exact hdate
    · dsimp only
      omega
    · exact Nat.mod_lt _ (by omega)
    · exact Nat.mod_lt _ (by omega)
    · exact Nat.mod_lt _ (by omega)
  · unfold Fields.time
    dsimp only
    rw [Nat.add_sub_cancel]
    omega

/-! ### Texts -/

/-- A year of four digits, or a sign and six. -/
def yearText (year : ℤ) : List Char :=
  if 0 ≤ year ∧ year ≤ 9999 then padded 4 year.toNat
  else (if year < 0 then '-' else '+') :: padded 6 year.natAbs

def Fields.text (fields : Fields) : List Char :=
  yearText fields.year ++ ('-' :: (padded 2 fields.month ++ ('-' :: (padded 2 fields.day ++
    ('T' :: (padded 2 fields.hour ++ (':' :: (padded 2 fields.minute ++ (':' ::
      (padded 2 fields.second ++ ('.' :: (padded 3 fields.millisecond ++ ['Z']))))))))))))

/-- `Date.prototype.toISOString`. -/
def toISOString (date : TimeValue) : String := String.ofList (fields date.time).text

/-- A number of so many digits, off the front of a text. -/
def takeNumber (width : ℕ) (text : List Char) : Option (ℕ × List Char) :=
  if (text.take width).length = width ∧ (text.take width).all Char.isDigit then
    some (number (text.take width), text.drop width)
  else none

/-- A character, off the front of a text. -/
def takeChar (expected : Char) : List Char → Option (List Char)
  | [] => none
  | c :: rest => if c = expected then some rest else none

/-- A year, off the front of a text. There is no negative year zero. -/
def takeYear : List Char → Option (ℤ × List Char)
  | '+' :: text => (takeNumber 6 text).map fun (year, rest) ↦ ((year : ℤ), rest)
  | '-' :: text => do
    let (year, rest) ← takeNumber 6 text
    if year = 0 then none else some (-year, rest)
  | text => (takeNumber 4 text).map fun (year, rest) ↦ ((year : ℤ), rest)

/-- A number after a separator, off the front of a text. -/
def takeField (separator : Char) (width : ℕ) (text : List Char) : Option (ℕ × List Char) :=
  (takeChar separator text).bind (takeNumber width)

def takeFields (text : List Char) : Option (Fields × List Char) := do
  let (year, text) ← takeYear text
  let (month, text) ← takeField '-' 2 text
  let (day, text) ← takeField '-' 2 text
  let (hour, text) ← takeField 'T' 2 text
  let (minute, text) ← takeField ':' 2 text
  let (second, text) ← takeField ':' 2 text
  let (millisecond, text) ← takeField '.' 3 text
  let text ← takeChar 'Z' text
  return (⟨year, month, day, hour, minute, second, millisecond⟩, text)

/-- The time value of a text of the full form, in UTC. -/
def parseIso (text : String) : Option TimeValue :=
  match takeFields text.toList with
  | some (fields, []) =>
    if fields.IsLegal then
      if hrange : |fields.time| ≤ 8640000000000000 then some ⟨fields.time, hrange⟩ else none
    else none
  | _ => none

/-! ### Texts that were written -/

theorem takeNumber_padded {width n : ℕ} (hwidth : 0 < width) (hn : n < 10 ^ width)
    (rest : List Char) : takeNumber width (padded width n ++ rest) = some (n, rest) := by
  have hlength := length_padded hwidth hn
  have htake : (padded width n ++ rest).take width = padded width n := List.take_left' hlength
  have hdrop : (padded width n ++ rest).drop width = rest := List.drop_left' hlength
  unfold takeNumber
  rw [htake, hdrop, number_padded, if_pos]
  exact ⟨hlength, List.all_eq_true.mpr fun c hc ↦ isDigit_of_mem_padded hc⟩

/-- A text that starts with a digit has a year of four. -/
theorem takeYear_of_digits {digits : List Char} (hne : digits ≠ [])
    (hdigits : ∀ c ∈ digits, c.isDigit = true) (rest : List Char) : takeYear (digits ++ rest) =
      (takeNumber 4 (digits ++ rest)).map fun (year, rest) ↦ ((year : ℤ), rest) := by
  cases digits with
  | nil => exact absurd rfl hne
  | cons first others =>
    have hfirst := hdigits first List.mem_cons_self
    rw [List.cons_append]
    unfold takeYear
    split
    next heq =>
      obtain ⟨rfl, _⟩ := List.cons.inj heq
      exact absurd hfirst (by decide)
    next heq =>
      obtain ⟨rfl, _⟩ := List.cons.inj heq
      exact absurd hfirst (by decide)
    next => rfl

theorem takeYear_yearText {year : ℤ} (hyear : |year| < 1000000) (rest : List Char) :
    takeYear (yearText year ++ rest) = some (year, rest) := by
  obtain ⟨hlow, hhigh⟩ := abs_lt.mp hyear
  have hsix : takeNumber 6 (padded 6 year.natAbs ++ rest) = some (year.natAbs, rest) :=
    takeNumber_padded (by omega) (by omega) rest
  unfold yearText
  split_ifs with hfour hnegative
  · have hyear : takeNumber 4 (padded 4 year.toNat ++ rest) = some (year.toNat, rest) :=
      takeNumber_padded (by omega) (by omega) rest
    rw [takeYear_of_digits (padded_ne_nil _ _) (fun c hc ↦ isDigit_of_mem_padded hc), hyear,
      Option.map_some, Option.some.injEq, Prod.mk.injEq]
    exact ⟨by omega, rfl⟩
  · change ((takeNumber 6 (padded 6 year.natAbs ++ rest)).bind fun _ ↦ _) = _
    rw [hsix, Option.bind_some]
    dsimp only
    rw [if_neg (by omega), Option.some.injEq, Prod.mk.injEq]
    exact ⟨by omega, rfl⟩
  · change (takeNumber 6 (padded 6 year.natAbs ++ rest)).map _ = _
    rw [hsix, Option.map_some, Option.some.injEq, Prod.mk.injEq]
    exact ⟨by omega, rfl⟩

theorem takeChar_cons (c : Char) (rest : List Char) : takeChar c (c :: rest) = some rest :=
  if_pos rfl

theorem takeField_padded (separator : Char) {width n : ℕ} (hwidth : 0 < width) (hn : n < 10 ^ width)
    (rest : List Char) :
    takeField separator width (separator :: (padded width n ++ rest)) = some (n, rest) := by
  rw [takeField, takeChar_cons, Option.bind_some, takeNumber_padded hwidth hn]

theorem bind_of_eq_some {α β : Type} {found : Option α} {value : α} (hfound : found = some value)
    (rest : α → Option β) : (found >>= rest) = rest value := by
  rw [hfound]
  rfl

theorem le_of_mem_monthLengths {leap : Bool} {length : ℕ} (hlength : length ∈ monthLengths leap) :
    length ≤ 31 := by
  have hall : ∀ leap, (monthLengths leap).all (· ≤ 31) = true := by decide
  exact of_decide_eq_true (List.all_eq_true.mp (hall leap) length hlength)

theorem takeFields_text {fields : Fields} (hlegal : fields.IsLegal) :
    takeFields fields.text = some (fields, []) := by
  obtain ⟨hyear, hmonth, ⟨length, hlength, hday, hle⟩, hhour, hminute, hsecond, hmillisecond⟩ := hlegal
  have hlength := le_of_mem_monthLengths (List.mem_of_getElem? hlength)
  have hmonth := (List.mem_range'_1.mp hmonth).2
  unfold takeFields Fields.text
  refine (bind_of_eq_some (takeYear_yearText hyear _) _).trans ?_
  refine (bind_of_eq_some (takeField_padded '-' (by omega) (by omega) _) _).trans ?_
  refine (bind_of_eq_some (takeField_padded '-' (by omega) (by omega) _) _).trans ?_
  refine (bind_of_eq_some (takeField_padded 'T' (by omega) (by omega) _) _).trans ?_
  refine (bind_of_eq_some (takeField_padded ':' (by omega) (by omega) _) _).trans ?_
  refine (bind_of_eq_some (takeField_padded ':' (by omega) (by omega) _) _).trans ?_
  refine (bind_of_eq_some (takeField_padded '.' (by omega) (by omega) _) _).trans ?_
  exact bind_of_eq_some (takeChar_cons 'Z' []) _

theorem parseIso_toISOString (date : TimeValue) : parseIso (toISOString date) = some date := by
  obtain ⟨hlegal, htime⟩ := fields_spec date.inRange
  unfold parseIso toISOString
  rw [String.toList_ofList, takeFields_text hlegal]
  dsimp only
  rw [if_pos hlegal]
  simp only [htime]
  rw [dif_pos date.inRange]

end Karar.Foundation.IsoDate
