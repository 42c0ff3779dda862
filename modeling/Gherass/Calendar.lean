import Gherass.ShopData
import Gherass.TextOrder

set_option autoImplicit false

/-!
# Dates and the texts they are stored as
-/
namespace Gherass

open TextOrder

def isLeapYear (year : ℕ) : Bool := year % 4 = 0 ∧ (year % 100 ≠ 0 ∨ year % 400 = 0)

def daysInMonth (year month : ℕ) : ℕ :=
  if month = 2 then if isLeapYear year then 29 else 28
  else if month = 4 ∨ month = 6 ∨ month = 9 ∨ month = 11 then 30
  else 31

structure DateTime.Valid (t : DateTime) : Prop where
  month_pos : 1 ≤ t.month
  month_le : t.month ≤ 12
  day_pos : 1 ≤ t.day
  day_le : t.day ≤ daysInMonth t.year t.month
  hour_lt : t.hour < 24
  minute_lt : t.minute < 60

theorem daysInMonth_le (year month : ℕ) : daysInMonth year month ≤ 31 := by
  unfold daysInMonth
  split
  · split
    · omega
    · omega
  · split
    · omega
    · omega

def DateTime.dayBefore (t u : DateTime) : Prop :=
  t.year < u.year ∨ t.year = u.year ∧ (t.month < u.month ∨ t.month = u.month ∧ t.day < u.day)

instance (t u : DateTime) : Decidable (t.dayBefore u) :=
  inferInstanceAs (Decidable (_ ∨ _ ∧ (_ ∨ _ ∧ _)))

theorem toList_toString (n : ℕ) : (toString n).toList = Nat.toDigits 10 n := Nat.toList_repr

theorem toList_twoDigits {n : ℕ} (h : n < 100) : (twoDigits n).toList = digits 2 n := by
  unfold twoDigits
  split
  case isTrue hlow =>
    rw [String.toList_append, toList_toString, Nat.toDigits_of_lt_base hlow, digits, digits, digits,
      Nat.mod_eq_of_lt hlow, Nat.div_eq_of_lt hlow]
    rfl
  case isFalse hlow => rw [toList_toString, toDigits_eq (w := 1) (by omega) (by omega)]

/-- The year of `yyyy`. -/
def fourDigits (n : ℕ) : String :=
  String.ofList (List.replicate (4 - (toString n).length) '0') ++ toString n

theorem toList_fourDigits {n : ℕ} (h : n < 10000) : (fourDigits n).toList = digits 4 n := by
  have length : (toString n).length = (Nat.toDigits 10 n).length := by
    rw [← String.length_toList, toList_toString]
  rw [fourDigits, String.toList_append, String.toList_ofList, length, toList_toString]
  exact toDigits_pad h

/-- `DateFormat("dd-MM-yyyy")` -/
def DateTime.dayFirst (t : DateTime) : String :=
  twoDigits t.day ++ "-" ++ twoDigits t.month ++ "-" ++ fourDigits t.year

theorem DateTime.toList_dayFirst {t : DateTime} (hy : t.year < 10000) (hm : t.month < 100)
    (hd : t.day < 100) : t.dayFirst.toList =
      digits 2 t.day ++ ('-' :: digits 2 t.month ++ ('-' :: digits 4 t.year)) := by
  simp only [dayFirst, String.toList_append, toList_fourDigits hy, toList_twoDigits hm,
    toList_twoDigits hd]
  simp

def DateTime.date (t : DateTime) : DateTime := ⟨t.year, t.month, t.day, 0, 0⟩

/-- `"${…}"` of a local date-time at the full minute, as `toString()` writes it. -/
def DateTime.text (t : DateTime) : String :=
  Shop.formatDate t ++ " " ++ twoDigits t.hour ++ ":" ++ twoDigits t.minute ++ ":00.000"

/-- `split(' ')[0]` -/
def firstWord (s : String) : String := String.ofList (s.toList.takeWhile (· ≠ ' '))

def daysOfMonth (year month : ℕ) : List DateTime :=
  (List.range' 1 (daysInMonth year month)).map fun day => ⟨year, month, day, 0, 0⟩

def daysOfYear (year : ℕ) : List DateTime := (List.range' 1 12).flatMap (daysOfMonth year)

theorem mem_daysOfMonth {year month : ℕ} {t : DateTime} : t ∈ daysOfMonth year month ↔
    t.year = year ∧ t.month = month ∧ (1 ≤ t.day ∧ t.day ≤ daysInMonth year month) ∧
      t.hour = 0 ∧ t.minute = 0 := by
  simp only [daysOfMonth, List.mem_map, List.mem_range'_1]
  constructor
  · rintro ⟨day, hday, rfl⟩
    have hle : day ≤ daysInMonth year month := by omega
    exact ⟨rfl, rfl, ⟨hday.1, hle⟩, rfl, rfl⟩
  · rintro ⟨rfl, rfl, hday, hhour, hminute⟩
    refine ⟨t.day, ⟨hday.1, by omega⟩, ?_⟩
    cases t
    cases hhour
    cases hminute
    rfl

theorem year_of_mem {year : ℕ} {t : DateTime} (h : t ∈ daysOfYear year) : t.year = year := by
  obtain ⟨month, -, hday⟩ := List.mem_flatMap.1 h
  exact (mem_daysOfMonth.1 hday).1

theorem date_of_mem {year : ℕ} {t : DateTime} (h : t ∈ daysOfYear year) : t.date = t := by
  obtain ⟨month, -, hday⟩ := List.mem_flatMap.1 h
  obtain ⟨-, -, -, hhour, hminute⟩ := mem_daysOfMonth.1 hday
  cases t
  cases hhour
  cases hminute
  rfl

theorem date_mem_daysOfYear {t : DateTime} (ht : t.Valid) : t.date ∈ daysOfYear t.year := by
  refine List.mem_flatMap.2 ⟨t.month, List.mem_range'_1.2 ⟨ht.month_pos, ?_⟩, ?_⟩
  · exact Nat.lt_succ_of_le ht.month_le
  · exact mem_daysOfMonth.2 ⟨rfl, rfl, ⟨ht.day_pos, ht.day_le⟩, rfl, rfl⟩

theorem nodup_daysOfMonth (year month : ℕ) : (daysOfMonth year month).Nodup :=
  List.Nodup.map (fun _ _ h => congrArg DateTime.day h) List.nodup_range'

theorem nodup_daysOfYear (year : ℕ) : (daysOfYear year).Nodup := by
  refine List.nodup_flatMap.2 ⟨fun month _ => nodup_daysOfMonth year month, ?_⟩
  refine List.Pairwise.imp ?_ List.nodup_range'
  intro month other hne t ht hother
  have hmonth := (mem_daysOfMonth.1 ht).2.1
  have hother' := (mem_daysOfMonth.1 hother).2.1
  omega

section FormatDate

variable {t u : DateTime}

theorem toList_formatDate (hy : t.year < 10000) (hm : t.month < 100) (hd : t.day < 100) :
    (Shop.formatDate t).toList =
      digits 4 t.year ++ ('-' :: digits 2 t.month ++ ('-' :: digits 2 t.day)) := by
  have year : Shop.formatDate t =
      fourDigits t.year ++ "-" ++ twoDigits t.month ++ "-" ++ twoDigits t.day := rfl
  simp only [year, String.toList_append, toList_fourDigits hy, toList_twoDigits hm,
    toList_twoDigits hd]
  simp

theorem formatDate_lt (ht : t.Valid) (hty : t.year < 10000) (hu : u.Valid)
    (huy : u.year < 10000) :
    Shop.formatDate t < Shop.formatDate u ↔ t.dayBefore u := by
  have htmonth := ht.month_le
  have humonth := hu.month_le
  have htday := ht.day_le.trans (daysInMonth_le _ _)
  have huday := hu.day_le.trans (daysInMonth_le _ _)
  have years : (digits 4 t.year).length = (digits 4 u.year).length := by
    rw [length_digits, length_digits]
  have months : ('-' :: digits 2 t.month).length = ('-' :: digits 2 u.month).length := by
    rw [List.length_cons, List.length_cons, length_digits, length_digits]
  have sameYear : digits 4 t.year = digits 4 u.year ↔ t.year = u.year :=
    ⟨digits_inj (by omega) (by omega), fun h => by rw [h]⟩
  have sameMonth : '-' :: digits 2 t.month = '-' :: digits 2 u.month ↔ t.month = u.month :=
    ⟨fun h => digits_inj (by omega) (by omega) (List.cons_injective h), fun h => by rw [h]⟩
  have dashed (a b : List Char) : '-' :: a < '-' :: b ↔ a < b := by
    rw [List.cons_lt_cons_iff]
    simp
  rw [String.lt_iff_toList_lt, toList_formatDate hty (by omega) (by omega),
    toList_formatDate huy (by omega) (by omega), append_lt_iff years,
    append_lt_iff months, digits_lt (by omega) (by omega), dashed, digits_lt (by omega) (by omega),
    dashed, digits_lt (by omega) (by omega), sameYear, sameMonth]
  rfl

end FormatDate

section DaySteps

variable {t u : DateTime}

/-- The same time a day earlier. -/
def DateTime.previousDay (t : DateTime) : DateTime :=
  if 1 < t.day then { t with day := t.day - 1 }
  else if 1 < t.month then
    { t with month := t.month - 1, day := daysInMonth t.year (t.month - 1) }
  else { t with year := t.year - 1, month := 12, day := 31 }

def DateTime.daysEarlier (t : DateTime) : ℕ → DateTime
  | 0 => t
  | n + 1 => (t.daysEarlier n).previousDay

def DateTime.nextDay (t : DateTime) : DateTime :=
  if t.day < daysInMonth t.year t.month then { t with day := t.day + 1 }
  else if t.month < 12 then { t with month := t.month + 1, day := 1 }
  else { t with year := t.year + 1, month := 1, day := 1 }

def DateTime.daysLater (t : DateTime) : ℕ → DateTime
  | 0 => t
  | n + 1 => (t.daysLater n).nextDay

def DateTime.addDays (t : DateTime) : ℤ → DateTime
  | .ofNat n => t.daysLater n
  | .negSucc n => t.daysEarlier (n + 1)

def DateTime.minutes (t : DateTime) : ℤ := 60 * t.hour + t.minute

/-- `subtract(Duration(days: n))`: what the clock showed `n` times 24 hours ago, if it has been
    put forward by some minutes since then. -/
def DateTime.subtractDays (t : DateTime) (forward : ℤ) (n : ℕ) : DateTime :=
  let minutes := t.minutes - forward
  let shown := (minutes % 1440).toNat
  { t.addDays (minutes / 1440 - n) with hour := shown / 60, minute := shown % 60 }

theorem daysInMonth_ge (year month : ℕ) : 28 ≤ daysInMonth year month := by
  unfold daysInMonth
  split
  · split
    · omega
    · omega
  · split
    · omega
    · omega

theorem DateTime.Valid.date (ht : t.Valid) : t.date.Valid :=
  ⟨ht.month_pos, ht.month_le, ht.day_pos, ht.day_le, Nat.zero_lt_succ 23, Nat.zero_lt_succ 59⟩

theorem DateTime.Valid.previousDay (ht : t.Valid) : t.previousDay.Valid := by
  obtain ⟨hmonth, hmonth', hday, hday', hhour, hminute⟩ := ht
  unfold DateTime.previousDay
  split
  · exact ⟨hmonth, hmonth', by dsimp only; omega, by dsimp only; omega, hhour, hminute⟩
  · split
    · have := daysInMonth_ge t.year (t.month - 1)
      exact ⟨by dsimp only; omega, by dsimp only; omega, by dsimp only; omega, Nat.le_refl _, hhour,
        hminute⟩
    · exact ⟨Nat.succ_pos 11, Nat.le_refl 12, Nat.succ_pos 30, Nat.le_refl 31, hhour, hminute⟩

theorem DateTime.Valid.daysEarlier (ht : t.Valid) (n : ℕ) : (t.daysEarlier n).Valid := by
  induction n with
  | zero => exact ht
  | succ n ih => exact ih.previousDay

theorem daysEarlier_year (t : DateTime) (n : ℕ) : t.year ≤ (t.daysEarlier n).year + n := by
  induction n with
  | zero => exact Nat.le_refl _
  | succ n ih =>
    have step : (t.daysEarlier n).year ≤ (t.daysEarlier (n + 1)).year + 1 := by
      change _ ≤ (t.daysEarlier n).previousDay.year + 1
      unfold DateTime.previousDay
      split
      · exact Nat.le_succ _
      · split
        · exact Nat.le_succ _
        · dsimp only
          omega
    omega

theorem DateTime.dayBefore.trans {v : DateTime} (h : t.dayBefore u) (h' : u.dayBefore v) :
    t.dayBefore v := by
  unfold DateTime.dayBefore at *
  omega

theorem date_eq_iff : t.date = u.date ↔ ¬ t.dayBefore u ∧ ¬ u.dayBefore t := by
  simp only [DateTime.date, DateTime.mk.injEq, and_true, DateTime.dayBefore]
  omega

/-- Where no change of the clock takes the time past midnight, 24 hours make a day. -/
theorem date_subtractDays {forward : ℤ} (hfirst : 0 ≤ t.minutes - forward)
    (hlast : t.minutes - forward < 1440) (n : ℕ) :
    (t.subtractDays forward n).date = (t.daysEarlier n).date := by
  have sameDay : (t.minutes - forward) / 1440 - (n : ℤ) = -n := by omega
  have shown : (t.subtractDays forward n).date = (t.addDays (-(n : ℤ))).date := by
    rw [← sameDay]
    rfl
  rw [shown]
  cases n with
  | zero => rfl
  | succ n => rfl

-- an hour lost in the night: 24 hours before half past midnight is not the day before
example : (⟨2025, 3, 31, 0, 30⟩ : DateTime).subtractDays 60 1 = ⟨2025, 3, 29, 23, 30⟩ := by decide

theorem dayBefore_iff (hu : u.Valid) (ht : t.Valid) (hyear : 0 < t.year) :
    u.dayBefore t ↔ ¬ t.previousDay.dayBefore u := by
  have hu_month := hu.month_le
  have hu_day := hu.day_le
  have hu_pos := hu.day_pos
  have hu_first := hu.month_pos
  have ht_pos := ht.day_pos
  have ht_month := ht.month_le
  have december := daysInMonth_le u.year u.month
  unfold DateTime.previousDay DateTime.dayBefore
  split
  · dsimp only
    omega
  · split
    · dsimp only
      by_cases same : u.year = t.year ∧ u.month = t.month - 1
      · rw [same.1, same.2] at hu_day
        omega
      · omega
    · dsimp only
      omega

theorem previousDay_dayBefore (ht : t.Valid) (hyear : 0 < t.year) :
    t.previousDay.dayBefore t := by
  refine (dayBefore_iff ht.previousDay ht hyear).2 ?_
  simp [DateTime.dayBefore]

theorem daysEarlier_dayBefore (ht : t.Valid) {j k : ℕ} (h : j < k) (hyear : k < t.year) :
    (t.daysEarlier k).dayBefore (t.daysEarlier j) := by
  induction k, h using Nat.le_induction with
  | base =>
    have := daysEarlier_year t j
    exact previousDay_dayBefore (ht.daysEarlier j) (by omega)
  | succ k h ih =>
    have := daysEarlier_year t k
    exact (previousDay_dayBefore (ht.daysEarlier k) (by omega)).trans (ih (by omega))

theorem mem_lastDays_iff (hu : u.Valid) (ht : t.Valid) {n : ℕ} (hyear : n < t.year) :
    (∃ k ≤ n, (t.daysEarlier k).date = u.date) ↔
      ¬ u.dayBefore (t.daysEarlier n) ∧ ¬ t.dayBefore u := by
  induction n with
  | zero =>
    simp only [Nat.le_zero_eq, exists_eq_left, DateTime.daysEarlier]
    rw [date_eq_iff]
    exact and_comm
  | succ n ih =>
    have := daysEarlier_year t n
    have step := dayBefore_iff hu (ht.daysEarlier n) (by omega)
    have last := ih (by omega)
    constructor
    · rintro ⟨k, hk, same⟩
      rcases Nat.of_le_succ hk with hle | rfl
      · obtain ⟨hfirst, hlast⟩ := last.1 ⟨k, hle, same⟩
        have earlier := daysEarlier_dayBefore ht (Nat.lt_succ_self n) hyear
        exact ⟨fun h => hfirst (h.trans earlier), hlast⟩
      · obtain ⟨hafter, hbefore⟩ := date_eq_iff.1 same
        have earlier := daysEarlier_dayBefore ht (Nat.succ_pos n) hyear
        exact ⟨hbefore, fun h => hafter (earlier.trans h)⟩
    · rintro ⟨hfirst, hlast⟩
      by_cases hn : u.dayBefore (t.daysEarlier n)
      · exact ⟨n + 1, Nat.le_refl _, date_eq_iff.2 ⟨step.1 hn, hfirst⟩⟩
      · obtain ⟨k, hk, same⟩ := last.2 ⟨hn, hlast⟩
        exact ⟨k, Nat.le_succ_of_le hk, same⟩

end DaySteps

end Gherass
