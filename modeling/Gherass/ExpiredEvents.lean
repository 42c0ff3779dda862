import Gherass.Calendar
import Gherass.EventControllers

set_option autoImplicit false

/-!
# Events that have begun

An event's start is stored without its year, day first, with the month's name and the hour on
a twelve-hour clock, and the clean-up compares such texts.
-/
namespace Gherass

open TextOrder EventLoop EventLoop.Async FirebaseHelper

def monthsByName : List ℕ := [4, 8, 12, 2, 1, 7, 6, 3, 5, 11, 10, 9]

def hoursByText : List ℕ := [10, 11, 12, 1, 2, 3, 4, 5, 6, 7, 8, 9]

namespace DateTime

variable (t u : DateTime)

def hour12 : ℕ := if t.hour % 12 = 0 then 12 else t.hour % 12

def monthPlace : ℕ := monthsByName.idxOf t.month

def hourPlace : ℕ := hoursByText.idxOf t.hour12

/-- `formatDateTime` writes an earlier text for the one than for the other. -/
def textBefore : Prop :=
  t.day < u.day ∨ t.day = u.day ∧ (t.monthPlace < u.monthPlace ∨ t.month = u.month ∧
    (t.hourPlace < u.hourPlace ∨ t.hour12 = u.hour12 ∧
      (t.minute < u.minute ∨ t.minute = u.minute ∧ t.hour < 12 ∧ 12 ≤ u.hour)))

def hourHead (h : ℕ) : List Char :=
  if h < 10 then [Nat.digitChar h, ':'] else ['1', Nat.digitChar (h - 10)]

def hourRest (h : ℕ) : List Char := if h < 10 then [] else [':']

theorem toList_hour {h : ℕ} (hh : h ∈ hoursByText) (rest : List Char) :
    (toString h).toList ++ ':' :: rest = hourHead h ++ (hourRest h ++ rest) := by
  have all : ∀ h ∈ hoursByText, (toString h).toList ++ [':'] = hourHead h ++ hourRest h := by
    decide
  rw [← List.append_assoc, ← all h hh, List.append_assoc]
  rfl

theorem hourHead_lt {h k : ℕ} (hh : h ∈ hoursByText) (hk : k ∈ hoursByText) :
    hourHead h < hourHead k ↔ hoursByText.idxOf h < hoursByText.idxOf k := by
  have all : ∀ h ∈ hoursByText, ∀ k ∈ hoursByText,
    (hourHead h < hourHead k ↔ hoursByText.idxOf h < hoursByText.idxOf k) := by decide
  exact all h hh k hk

theorem hourHead_inj {h k : ℕ} (hh : h ∈ hoursByText) (hk : k ∈ hoursByText) :
    hourHead h = hourHead k ↔ h = k := by
  have all : ∀ h ∈ hoursByText, ∀ k ∈ hoursByText, (hourHead h = hourHead k ↔ h = k) := by decide
  exact all h hh k hk

theorem length_hourHead (h : ℕ) : (hourHead h).length = 2 := by
  unfold hourHead
  split
  · rfl
  · rfl

def monthName (month : ℕ) : List Char := (monthNames.getD (month - 1) "").toList

theorem monthName_lt {m n : ℕ} (hm : m ∈ monthsByName) (hn : n ∈ monthsByName) :
    monthName m < monthName n ↔ monthsByName.idxOf m < monthsByName.idxOf n := by
  have all : ∀ m ∈ monthsByName, ∀ n ∈ monthsByName,
    (monthName m < monthName n ↔ monthsByName.idxOf m < monthsByName.idxOf n) := by decide
  exact all m hm n hn

theorem monthName_inj {m n : ℕ} (hm : m ∈ monthsByName) (hn : n ∈ monthsByName) :
    monthName m = monthName n ↔ m = n := by
  have all : ∀ m ∈ monthsByName, ∀ n ∈ monthsByName, (monthName m = monthName n ↔ m = n) := by
    decide
  exact all m hm n hn

theorem length_monthName {m : ℕ} (hm : m ∈ monthsByName) : (monthName m).length = 3 := by
  have all : ∀ m ∈ monthsByName, (monthName m).length = 3 := by decide
  exact all m hm

def half (hour : ℕ) : List Char := (if hour < 12 then "AM" else "PM").toList

theorem half_lt (h k : ℕ) : half h < half k ↔ h < 12 ∧ 12 ≤ k := by
  have same : ¬ "AM".toList < "AM".toList ∧ ¬ "PM".toList < "PM".toList := by decide
  have differ : "AM".toList < "PM".toList ∧ ¬ "PM".toList < "AM".toList := by decide
  unfold half
  by_cases hh : h < 12
  · by_cases hk : k < 12
    · rw [if_pos hh, if_pos hk]
      exact iff_of_false same.1 (by omega)
    · rw [if_pos hh, if_neg hk]
      exact iff_of_true differ.1 (by omega)
  · by_cases hk : k < 12
    · rw [if_neg hh, if_pos hk]
      exact iff_of_false differ.2 (by omega)
    · rw [if_neg hh, if_neg hk]
      exact iff_of_false same.2 (by omega)

variable {t u}

theorem hour12_mem (t : DateTime) : t.hour12 ∈ hoursByText := by
  have all : ∀ h < 12, (if h = 0 then 12 else h) ∈ hoursByText := by decide
  exact all _ (Nat.mod_lt _ (by omega))

theorem month_mem (ht : t.Valid) : t.month ∈ monthsByName := by
  have all : ∀ m < 12, m + 1 ∈ monthsByName := by decide
  have low := ht.month_pos
  have high := ht.month_le
  have month := all (t.month - 1) (by omega)
  rwa [Nat.sub_add_cancel low] at month

theorem toList_formatDateTime (ht : t.Valid) : (formatDateTime t).toList =
    digits 2 t.day ++ (' ' :: monthName t.month ++ (' ' :: hourHead t.hour12 ++
      (hourRest t.hour12 ++ (digits 2 t.minute ++ ' ' :: half t.hour)))) := by
  have day := ht.day_le.trans (daysInMonth_le _ _)
  have minute := ht.minute_lt
  have clock : (toString t.hour12).toList ++ (":" ++ twoDigits t.minute ++ " " ++
      if t.hour < 12 then "AM" else "PM").toList =
        hourHead t.hour12 ++ (hourRest t.hour12 ++ (digits 2 t.minute ++ ' ' :: half t.hour)) := by
    rw [← toList_hour (hour12_mem t)]
    simp [toList_twoDigits (show t.minute < 100 by omega), half]
  have parts : formatDateTime t = twoDigits t.day ++ " " ++ monthNames.getD (t.month - 1) "" ++
      " " ++ toString t.hour12 ++ (":" ++ twoDigits t.minute ++ " " ++
        if t.hour < 12 then "AM" else "PM") := by
    simp only [formatDateTime, hour12, String.append_assoc]
  rw [parts, String.toList_append, String.toList_append, List.append_assoc, clock]
  simp [toList_twoDigits (show t.day < 100 by omega), monthName]

theorem formatDateTime_lt (ht : t.Valid) (hu : u.Valid) :
    formatDateTime t < formatDateTime u ↔ t.textBefore u := by
  have htday := ht.day_le.trans (daysInMonth_le _ _)
  have huday := hu.day_le.trans (daysInMonth_le _ _)
  have htminute := ht.minute_lt
  have huminute := hu.minute_lt
  have spaced (a b : List Char) : ' ' :: a < ' ' :: b ↔ a < b := by
    rw [List.cons_lt_cons_iff]
    simp
  have days : (digits 2 t.day).length = (digits 2 u.day).length := by
    rw [length_digits, length_digits]
  have months : (' ' :: monthName t.month).length = (' ' :: monthName u.month).length := by
    rw [List.length_cons, List.length_cons, length_monthName (month_mem ht),
      length_monthName (month_mem hu)]
  have hours : (' ' :: hourHead t.hour12).length = (' ' :: hourHead u.hour12).length := by
    rw [List.length_cons, List.length_cons, length_hourHead, length_hourHead]
  have minutes : (digits 2 t.minute).length = (digits 2 u.minute).length := by
    rw [length_digits, length_digits]
  have sameDay : digits 2 t.day = digits 2 u.day ↔ t.day = u.day :=
    ⟨digits_inj (by omega) (by omega), fun h => by rw [h]⟩
  have sameMinute : digits 2 t.minute = digits 2 u.minute ↔ t.minute = u.minute :=
    ⟨digits_inj (by omega) (by omega), fun h => by rw [h]⟩
  rw [String.lt_iff_toList_lt, toList_formatDateTime ht, toList_formatDateTime hu,
    append_lt_iff days, append_lt_iff months, append_lt_iff hours,
    digits_lt (by omega) (by omega), spaced, spaced, monthName_lt (month_mem ht) (month_mem hu),
    hourHead_lt (hour12_mem t) (hour12_mem u), sameDay, List.cons_inj_right,
    monthName_inj (month_mem ht) (month_mem hu), List.cons_inj_right,
    hourHead_inj (hour12_mem t) (hour12_mem u)]
  refine or_congr_right (and_congr_right fun _ => or_congr_right (and_congr_right fun _ =>
    or_congr_right (and_congr_right fun hour => ?_)))
  rw [hour, append_lt_left, append_lt_iff minutes, digits_lt (by omega) (by omega), sameMinute,
    spaced, half_lt]

end DateTime

namespace DateTime

variable (t u : DateTime)

/-- `t` is earlier than `u`, where `s` and `n` are what has passed of the two minutes. -/
def earlier (s : ℕ) (n : ℕ) : Prop :=
  t.dayBefore u ∨ t.date = u.date ∧ (t.hour < u.hour ∨ t.hour = u.hour ∧
    (t.minute < u.minute ∨ t.minute = u.minute ∧ s < n))

def monthBefore : Prop := t.year < u.year ∨ t.year = u.year ∧ t.month < u.month

/-- The first part in which the two texts differ decides, and decides as the calendar and the
    clock do. Two moments with one text stand the other way round or are the same. -/
def toldByText (s n : ℕ) : Prop :=
  if t.day ≠ u.day then
    t.year = u.year ∧ t.month = u.month ∨ (t.day < u.day ↔ t.monthBefore u)
  else if t.month ≠ u.month then t.monthPlace < u.monthPlace ↔ t.monthBefore u
  else if t.hour12 ≠ u.hour12 then
    if t.year = u.year then t.hourPlace < u.hourPlace ↔ t.hour < u.hour
    else t.hourPlace < u.hourPlace ↔ t.year < u.year
  else if t.minute ≠ u.minute then
    if t.year = u.year then t.hour = u.hour ∨ (t.minute < u.minute ↔ t.hour < u.hour)
    else t.minute < u.minute ↔ t.year < u.year
  else if t.hour ≠ u.hour then t.year = u.year ∨ (t.hour < u.hour ↔ t.year < u.year)
  else u.year < t.year ∨ u.year = t.year ∧ n ≤ s

variable {t u}

theorem date_eq_iff :
    t.date = u.date ↔ t.year = u.year ∧ t.month = u.month ∧ t.day = u.day := by
  simp [date]

theorem hour12_eq_iff : t.hour12 = u.hour12 ↔ t.hour % 12 = u.hour % 12 := by
  unfold hour12
  split
  · split
    · omega
    · omega
  · split
    · omega
    · omega

theorem monthPlace_ne (ht : t.Valid) (h : t.month ≠ u.month) : t.monthPlace ≠ u.monthPlace :=
  fun hplace => h ((List.idxOf_inj (month_mem ht)).1 hplace)

theorem hourPlace_ne (h : t.hour12 ≠ u.hour12) : t.hourPlace ≠ u.hourPlace := fun hplace =>
  h ((List.idxOf_inj (hour12_mem t)).1 hplace)

theorem toldByText_iff (ht : t.Valid) (hu : u.Valid) (s n : ℕ) :
    t.toldByText u s n ↔ (t.textBefore u ↔ t.earlier u s n) := by
  have hthour := ht.hour_lt
  have huhour := hu.hour_lt
  unfold toldByText textBefore earlier dayBefore monthBefore
  rw [date_eq_iff]
  by_cases day : t.day = u.day
  · rw [if_neg (not_not.2 day)]
    by_cases month : t.month = u.month
    · have samePlace : t.monthPlace = u.monthPlace := by rw [monthPlace, month, monthPlace]
      rw [if_neg (not_not.2 month)]
      by_cases hour : t.hour12 = u.hour12
      · have clock := hour12_eq_iff.1 hour
        have sameHour : t.hourPlace = u.hourPlace := by rw [hourPlace, hour, hourPlace]
        rw [if_neg (not_not.2 hour)]
        split
        · split
          · omega
          · omega
        · split
          · omega
          · omega
      · have clock := mt hour12_eq_iff.2 hour
        have place := hourPlace_ne hour
        rw [if_pos hour]
        split
        · omega
        · omega
    · have place := monthPlace_ne ht month
      rw [if_pos month]
      simp only [day, month, true_and, and_true, false_and, and_false, or_false, lt_self_iff_false,
        false_or]
  · rw [if_pos day]
    simp only [day, false_and, and_false, or_false]
    omega

end DateTime

/-- The two functions of the name `getEventList`, for the user who is signed in. -/
inductive IsGetEventList (d : Device) : EventProgram Unit → Prop where
  | event : IsGetEventList d (EventController.getEventList d)
  | product (p : ℕ) (farmerId : Uid) : IsGetEventList d (ProductController.getEventList p d farmerId)

def afterList (program : EventProgram Unit) (w : EventWorld) : EventWorld :=
  (program.task.alone (fun _ => true) w).2

def deleteDocs (uid : Uid) (ids : List String) (w : EventWorld) : EventWorld :=
  ids.foldl (fun w id => deleteEventDoc uid id w) w

section CleanUp

variable {d : Device} {w : EventWorld} {program : EventProgram Unit}

theorem yields_query {ok : EventAccess → Bool} (hok : ok .plain = true) {α : Type}
    (f : EventWorld → α) : Yields ok (query f) w (.ok (f w)) w := .call_answer hok rfl

theorem yields_deleteEach (uid : Uid) (ids : List String) :
    Yields (fun _ => true) (deleteEach uid ids) w (.ok ()) (deleteDocs uid ids w) := by
  induction ids generalizing w with
  | nil => exact .pure ()
  | cons id ids ih =>
    have first : Yields (fun _ => true) (call .plain (fun w => (deleteEventDoc uid id w, .ok ()))
        .firestore : EventProgram Unit) w (.ok ()) (deleteEventDoc uid id w) := .call_answer rfl rfl
    exact first.bind ih

def farmEvents (farmerId : Uid) (w : EventWorld) : List EventData :=
  (w.events.toList.filter (·.2.farmerId = farmerId)).map (·.2.toEventData)

variable (w) in
theorem yields_fetchFarmerEvents (farmerId : Uid) :
    Yields (fun _ => true) (fetchFarmerEvents farmerId) w
      (.ok (if farmEvents farmerId w = [] then none else some (farmEvents farmerId w))) w := by
  have asked : Yields (fun _ => true) (query (farmEvents farmerId)) w (.ok (farmEvents farmerId w))
      w := yields_query rfl _
  refine .tryCatch (asked.bind ?_)
  by_cases hdocs : farmEvents farmerId w = []
  · rw [if_pos hdocs, if_neg (not_not.2 hdocs)]
    exact .pure none
  · rw [if_neg hdocs, if_pos hdocs]
    exact .pure _

theorem yields_removeExpiredDoc (uid : Uid) (date : String) :
    Yields (fun _ => true) (removeExpiredDoc uid date) w (.ok ())
      (deleteDocs uid (expiredDocs uid date w) w) :=
  (yields_query rfl _).bind (yields_deleteEach uid _)

theorem events_afterList (h : IsGetEventList d program) : (afterList program w).events =
    (deleteDocs d.uid (expiredDocs d.uid (formatDateTime w.now) w) w).events := by
  obtain ⟨swept, hswept⟩ : ∃ swept,
    swept = deleteDocs d.uid (expiredDocs d.uid (formatDateTime w.now) w) w := ⟨_, rfl⟩
  have sweep := yields_removeExpiredDoc (w := w) d.uid (formatDateTime w.now)
  rw [← hswept] at sweep ⊢
  cases h with
  | event =>
    have hfetch := yields_fetchFarmerEvents swept d.uid
    generalize (if farmEvents d.uid swept = [] then none else _) = response at hfetch
    cases response with
    | none =>
      have run : Yields _ (EventController.getEventList d) w (.ok ()) swept :=
        .tryCatch (.bind (.look _) (sweep.bind (hfetch.bind (.pure ()))))
      rw [afterList, run.task]
    | some events =>
      have run : Yields _ (EventController.getEventList d) w (.ok ()) _ :=
        .tryCatch (.bind (.look _) (sweep.bind (hfetch.bind (.change _))))
      rw [afterList, run.task]
      rfl
  | product p farmerId =>
    have hfetch := yields_fetchFarmerEvents swept farmerId
    generalize (if farmEvents farmerId swept = [] then none else _) = response at hfetch
    cases response with
    | none =>
      have run : Yields _ (ProductController.getEventList p d farmerId) w (.ok ()) swept :=
        .tryCatch (.bind (.look _) (sweep.bind (hfetch.bind (.pure ()))))
      rw [afterList, run.task]
    | some events =>
      have run : Yields _ (ProductController.getEventList p d farmerId) w (.ok ()) _ :=
        .tryCatch (.bind (.look _) (sweep.bind (hfetch.bind (.change _))))
      rw [afterList, run.task]
      rfl

theorem deleteEventDoc_stored (uid : Uid) (id : String) {k : String} {e : FarmEvent}
    (he : w.events[k]? = some e) : (deleteEventDoc uid id w).events[k]? =
      if id = k ∧ e.farmerId = uid then none else some e := by
  unfold deleteEventDoc
  split
  case isTrue howned =>
    simp only [Std.TreeMap.getElem?_erase, Std.compare_eq_iff_eq, he]
    by_cases hid : id = k
    · subst hid
      rw [he, Option.any_some, decide_eq_true_eq] at howned
      rw [if_pos rfl, if_pos ⟨rfl, howned⟩]
    · rw [if_neg hid, if_neg fun h => hid h.1]
  case isFalse howned =>
    rw [he, if_neg]
    rintro ⟨rfl, hfarmer⟩
    rw [he, Option.any_some] at howned
    exact howned (decide_eq_true hfarmer)

theorem deleteEventDoc_none {uid : Uid} {id k : String} (he : w.events[k]? = none) :
    (deleteEventDoc uid id w).events[k]? = none := by
  unfold deleteEventDoc
  split
  · rw [Std.TreeMap.getElem?_erase, he, ite_self]
  · exact he

theorem deleteDocs_none {uid : Uid} {ids : List String} {k : String}
    (he : w.events[k]? = none) : (deleteDocs uid ids w).events[k]? = none := by
  induction ids generalizing w with
  | nil => exact he
  | cons id ids ih => exact ih (deleteEventDoc_none he)

theorem deleteDocs_stored {uid : Uid} {ids : List String} {k : String} {e : FarmEvent}
    (he : w.events[k]? = some e) : (deleteDocs uid ids w).events[k]? =
      if k ∈ ids ∧ e.farmerId = uid then none else some e := by
  induction ids generalizing w with
  | nil =>
    rw [if_neg fun h => List.not_mem_nil h.1]
    exact he
  | cons id ids ih =>
    have first := deleteEventDoc_stored uid id he
    by_cases hdeleted : id = k ∧ e.farmerId = uid
    · rw [if_pos hdeleted] at first
      rw [if_pos ⟨hdeleted.1 ▸ List.mem_cons_self, hdeleted.2⟩]
      exact deleteDocs_none (w := deleteEventDoc uid id w) first
    · rw [if_neg hdeleted] at first
      refine (ih first).trans (if_congr ?_ rfl rfl)
      rw [List.mem_cons]
      tauto

theorem mem_expiredDocs {uid : Uid} {date k : String} {e : FarmEvent}
    (he : w.events[k]? = some e) :
    k ∈ expiredDocs uid date w ↔ e.farmerId = uid ∧ e.startDate < date := by
  simp only [expiredDocs, List.mem_map, List.mem_filter, Prod.exists,
    Std.TreeMap.mem_toList_iff_getElem?_eq_some, decide_eq_true_eq]
  constructor
  · rintro ⟨_, e', ⟨he', hold⟩, rfl⟩
    obtain rfl : e = e' := Option.some_inj.1 (he.symm.trans he')
    exact hold
  · exact fun hold => ⟨k, e, ⟨he, hold⟩, rfl⟩

theorem afterList_eq_none (h : IsGetEventList d program) {id : String} {e : FarmEvent}
    (he : w.events[id]? = some e) : (afterList program w).events[id]? = none ↔
      e.farmerId = d.uid ∧ e.startDate < formatDateTime w.now := by
  rw [events_afterList h, deleteDocs_stored he]
  split
  case isTrue hold => exact iff_of_true rfl ((mem_expiredDocs he).1 hold.1)
  case isFalse hold =>
    refine iff_of_false (Option.some_ne_none e) fun hnew => hold ⟨?_, hnew.1⟩
    exact (mem_expiredDocs he).2 hnew

end CleanUp

/-- The event is deleted if and only if its start lies before the current time. `s` and `n` are
    what has passed of the minutes of its start and of now. -/
def expiresOnTime (program : EventProgram Unit) (w : EventWorld) (id : String) (start : DateTime)
    (s n : ℕ) : Prop :=
  (afterList program w).events[id]? = none ↔ start.earlier w.now s n

/-- An event expires on time exactly if it is the user's own and its text tells the time, or if
    it is another's and has not begun. -/
theorem expiresOnTime_iff (d : Device) (program : EventProgram Unit)
    (h : IsGetEventList d program) (w : EventWorld) (id : String) (e : FarmEvent)
    (he : w.events[id]? = some e) (start : DateTime) (hstart : start.Valid) (hnow : w.now.Valid)
    (htext : e.startDate = formatDateTime start) (s n : ℕ) :
    expiresOnTime program w id start s n ↔
      if e.farmerId = d.uid then start.toldByText w.now s n else ¬ start.earlier w.now s n := by
  rw [expiresOnTime, afterList_eq_none h he, htext, DateTime.formatDateTime_lt hstart hnow]
  split
  case isTrue hown => rw [DateTime.toldByText_iff hstart hnow, eq_true hown, true_and]
  case isFalse hother => rw [eq_false hother, false_and, false_iff]

def tastingHost : Device := ⟨⟨"farmer", Shop.farmer_ne_empty⟩, .farmer, 0⟩

def tastingStart : DateTime := ⟨2025, 6, 5, 10, 0⟩

def juneTasting : FarmEvent :=
  { name := "Tasting", startDate := formatDateTime tastingStart, farmerId := tastingHost.uid }

def tastingAt (now : DateTime) : EventWorld where
  events := (∅ : Std.TreeMap String FarmEvent).insert "tasting" juneTasting
  now := now

theorem tasting_stored (now : DateTime) :
    (tastingAt now).events["tasting"]? = some juneTasting := Std.TreeMap.getElem?_insert_self

theorem tastingStart_valid : tastingStart.Valid :=
  ⟨by decide, by decide, by decide, by decide, by decide, by decide⟩

theorem tasting_expires :
    expiresOnTime (EventController.getEventList tastingHost) (tastingAt ⟨2025, 6, 10, 9, 0⟩)
      "tasting" tastingStart 0 0 := by
  refine (expiresOnTime_iff tastingHost _ .event _ "tasting" juneTasting (tasting_stored _)
    tastingStart tastingStart_valid
    ⟨by decide, by decide, by decide, by decide, by decide, by decide⟩ rfl 0 0).2 ?_
  have own : juneTasting.farmerId = tastingHost.uid := rfl
  rw [if_pos own, DateTime.toldByText, if_pos (by decide)]
  exact .inl ⟨rfl, rfl⟩

/-- On the tenth of May it is deleted as well. -/
theorem tasting_deleted_early :
    tastingStart.Valid ∧ (tastingAt ⟨2025, 5, 10, 9, 0⟩).now.Valid ∧
      juneTasting.startDate = formatDateTime tastingStart ∧
      ¬ expiresOnTime (EventController.getEventList tastingHost) (tastingAt ⟨2025, 5, 10, 9, 0⟩)
        "tasting" tastingStart 0 0 := by
  refine ⟨tastingStart_valid, ⟨by decide, by decide, by decide, by decide, by decide, by decide⟩,
    rfl, fun h => ?_⟩
  have deleted := (afterList_eq_none (d := tastingHost) .event
    (tasting_stored ⟨2025, 5, 10, 9, 0⟩)).2 ⟨rfl, by decide⟩
  have ahead : ¬ tastingStart.earlier ⟨2025, 5, 10, 9, 0⟩ 0 0 := by
    unfold DateTime.earlier
    decide
  exact ahead (h.1 deleted)

end Gherass
