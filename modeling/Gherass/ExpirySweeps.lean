import Gherass.Calendar
import Gherass.DiscountLinks

set_option autoImplicit false

/-!
# The sweeps over promotions and discounts

A date picker's date is stored as the first word of its text, which the sweeps compare with
today's date as texts.
-/
namespace Gherass.Shop

open TextOrder EventLoop EventLoop.Async Gherass.Shop.FirebaseHelper

/-- From `DateTime(1900)` to `DateTime(2100)`, the bounds of the picker. -/
structure InPickerRange (t : DateTime) : Prop where
  valid : t.Valid
  first : ¬ t.dayBefore ⟨1900, 1, 1, 0, 0⟩
  last : ¬ DateTime.dayBefore ⟨2100, 1, 1, 0, 0⟩ t

/-- What `showDatePicker` returns. -/
structure Picked (t : DateTime) : Prop extends InPickerRange t where
  midnight : t.date = t

def pickedText (picked : DateTime) : String := firstWord picked.text

/-- The text shows a picked date that lies before the day of `now`. -/
def endedBefore (now : DateTime) (date : String) : Prop :=
  ∃ t, Picked t ∧ date = pickedText t ∧ t.dayBefore now

section Dates

variable {t u now : DateTime}

theorem InPickerRange.year_lt (h : InPickerRange t) : t.year < 10000 := by
  have last := h.last
  unfold DateTime.dayBefore at last
  dsimp only at last
  omega

theorem space_not_mem_digits (w n : ℕ) : ' ' ∉ digits w n := by
  induction w generalizing n with
  | zero => exact List.not_mem_nil
  | succ w ih =>
    have last : ∀ k < 10, ' ' ≠ Nat.digitChar k := by decide
    rw [digits, List.mem_append, List.mem_singleton]
    exact not_or.2 ⟨ih _, last _ (Nat.mod_lt _ (by omega))⟩

theorem space_not_mem_formatDate (ht : t.Valid) (hy : t.year < 10000) :
    ' ' ∉ (formatDate t).toList := by
  have month := ht.month_le
  have day := ht.day_le.trans (daysInMonth_le _ _)
  rw [toList_formatDate hy (by omega) (by omega)]
  simp [space_not_mem_digits]

theorem pickedText_eq (ht : t.Valid) (hy : t.year < 10000) : pickedText t = formatDate t := by
  have rest : t.text.toList = (formatDate t).toList ++ ' ' ::
      (twoDigits t.hour ++ ":" ++ twoDigits t.minute ++ ":00.000").toList := by
    simp only [DateTime.text, String.toList_append, List.append_assoc]
    rfl
  have date : ∀ c ∈ (formatDate t).toList, decide (c ≠ ' ') = true := fun c hc =>
    decide_eq_true fun h => space_not_mem_formatDate ht hy (h ▸ hc)
  rw [pickedText, firstWord, rest, List.takeWhile_append_of_pos date,
    List.takeWhile_cons_of_neg (by simp), List.append_nil, String.ofList_toList]

theorem pickedText_lt (ht : Picked t) (hnow : InPickerRange now) :
    pickedText t < formatDate now ↔ t.dayBefore now := by
  rw [pickedText_eq ht.valid ht.year_lt]
  exact formatDate_lt ht.valid ht.year_lt hnow.valid hnow.year_lt

theorem endedBefore_iff (ht : Picked t) (hnow : InPickerRange now) :
    endedBefore now (pickedText t) ↔ pickedText t < formatDate now := by
  constructor
  · rintro ⟨u, hu, htext, hbefore⟩
    rw [htext]
    exact (pickedText_lt hu hnow).2 hbefore
  · exact fun h => ⟨t, ht, rfl, (pickedText_lt ht hnow).1 h⟩

end Dates

/-- `removeExpiredDoc("promotions", "end_date", …)` with today's date, once it is through. -/
def afterPromotionSweep (uid : Uid) (w : ShopWorld) : ShopWorld :=
  ((removeExpiredDoc uid w.today).task.alone (fun _ => true) w).2

/-- `removeExpiredFields("products", "discount_end_date", …)`, likewise. -/
def afterDiscountSweep (uid : Uid) (w : ShopWorld) : ShopWorld :=
  ((removeExpiredFields uid w.today).task.alone (fun _ => true) w).2

/-- The promotions that ended are deleted, and nothing else is touched. -/
structure DeletesEnded (uid : Uid) (w w' : ShopWorld) : Prop where
  kept (q : PromotionDoc) :
    q ∈ w'.promotions uid ↔ q ∈ w.promotions uid ∧ ¬ endedBefore w.now q.endDate
  others (farmerId : String) : farmerId ≠ uid → w'.promotions farmerId = w.promotions farmerId
  products : w'.products = w.products
  profiles : w'.profiles = w.profiles

/-- The product carries a discount whose end date lies before the day of `now`. -/
def discountEnded (now : DateTime) (m : Fields) : Prop :=
  ∃ date, m "discount_end_date" = some (.text date) ∧ endedBefore now date

/-- The products whose discount ended lose its two fields, and nothing else is touched. -/
structure ClearsEnded (uid : Uid) (w w' : ShopWorld) : Prop where
  ended (id : String) (m : Fields) : (w.products uid)[id]? = some m → discountEnded w.now m →
    ∃ m', (w'.products uid)[id]? = some m' ∧ m' "discount_price" = none ∧
      m' "discount_end_date" = none ∧
      ∀ k, k ≠ "discount_price" → k ≠ "discount_end_date" → m' k = m k
  running (id : String) (m : Fields) : (w.products uid)[id]? = some m →
    ¬ discountEnded w.now m → (w'.products uid)[id]? = some m
  others (farmerId id : String) : farmerId ≠ uid ∨ (w.products farmerId)[id]? = none →
    (w'.products farmerId)[id]? = (w.products farmerId)[id]?
  promotions : w'.promotions = w.promotions
  profiles : w'.profiles = w.profiles

section Sweeps

variable {uid : Uid} {w : ShopWorld}

theorem deleteDocs_frame (ids : List String) (w : ShopWorld) :
    (∀ farmerId, farmerId ≠ ↑uid →
        (deleteDocs uid ids w).promotions farmerId = w.promotions farmerId) ∧
      (deleteDocs uid ids w).profiles = w.profiles := by
  induction ids generalizing w with
  | nil => exact ⟨fun _ _ => rfl, rfl⟩
  | cons id ids ih =>
    obtain ⟨hothers, hprofiles⟩ := ih (deletePromotionDoc uid id w)
    refine ⟨fun farmerId hne => (hothers farmerId hne).trans ?_, hprofiles⟩
    exact Function.update_of_ne hne _ _

theorem afterPromotionSweep_eq : afterPromotionSweep uid w =
    deleteDocs uid (((w.promotions uid).filter fun q => q.endDate < w.today).map (·.docId)) w := by
  let old (w' : ShopWorld) : List String :=
    ((w'.promotions uid).filter fun q => q.endDate < w.today).map (·.docId)
  have asked : Yields (fun _ => true) (query .plain old) w (.ok (old w)) w := yields_query rfl old
  have run : Yields (fun _ => true) (removeExpiredDoc uid w.today) w (.ok ()) _ :=
    asked.bind (yields_deleteEach (fun _ => rfl) uid _)
  exact run.task

theorem profiles_clearDocs (ids : List String) (w : ShopWorld) :
    (clearDocs w uid ids).profiles = w.profiles := by
  induction ids generalizing w with
  | nil => rfl
  | cons id ids ih =>
    refine (ih (updateProductDoc uid id (·.without discountFields) w).1).trans ?_
    unfold updateProductDoc
    split
    · rfl
    · rfl

theorem afterDiscountSweep_eq :
    afterDiscountSweep uid w = clearDocs w uid (expiredDocs w uid w.today) := by
  rcases yields_removeExpiredFields (fun _ => true) w uid w.today with ⟨-, run⟩ | ⟨hnot, -⟩
  · exact run.task
  · exact absurd ⟨rfl, fun _ _ => rfl⟩ hnot

theorem deletesEnded (hnow : InPickerRange w.now)
    (hids : ((w.promotions uid).map (·.docId)).Nodup)
    (hdates : ∀ q ∈ w.promotions uid, ∃ t, Picked t ∧ q.endDate = pickedText t) :
    DeletesEnded uid w (afterPromotionSweep uid w) := by
  rw [afterPromotionSweep_eq]
  refine ⟨fun q => ?_, (deleteDocs_frame _ w).1, (deleteDocs_stored uid _ w).2,
    (deleteDocs_frame _ w).2⟩
  rw [(deleteDocs_stored uid _ w).1, filter_expired hids, unexpired, List.mem_filter,
    decide_eq_true_eq]
  refine and_congr_right fun hq => not_congr ?_
  obtain ⟨t, ht, htext⟩ := hdates q hq
  rw [htext]
  exact (endedBefore_iff ht hnow).symm

theorem isExpired_iff (hnow : InPickerRange w.now) {m : Fields}
    (hm : m "discount_end_date" = none ∨
      ∃ t, Picked t ∧ m "discount_end_date" = some (.text (pickedText t))) :
    isExpired w.today m = true ↔ discountEnded w.now m := by
  rcases hm with hnone | ⟨t, ht, htext⟩
  · have absent : ¬ discountEnded w.now m := by
      rintro ⟨date, hdate, -⟩
      rw [hnone] at hdate
      cases hdate
    simp [isExpired, Fields.get, hnone, absent]
  · have same : discountEnded w.now m ↔ endedBefore w.now (pickedText t) := by
      rw [discountEnded, htext]
      simp
    rw [same, endedBefore_iff ht hnow]
    simp only [isExpired, Fields.get, htext, Option.getD_some]
    exact decide_eq_true_iff

theorem clearsEnded (hnow : InPickerRange w.now)
    (hdates : ∀ (id : String) (m : Fields), (w.products uid)[id]? = some m →
      m "discount_end_date" = none ∨
        ∃ t, Picked t ∧ m "discount_end_date" = some (.text (pickedText t))) :
    ClearsEnded uid w (afterDiscountSweep uid w) := by
  rw [afterDiscountSweep_eq]
  refine ⟨fun id m hm hended => ?_, fun id m hm hrunning => ?_, fun farmerId id hother => ?_,
    (clearDocs_frame _ _).2, profiles_clearDocs _ _⟩
  · have listed := mem_expiredDocs.2 ⟨m, hm, (isExpired_iff hnow (hdates id m hm)).2 hended⟩
    refine ⟨m.without discountFields, ?_, Fields.without_of_mem (by decide),
      Fields.without_of_mem (by decide), fun k hprice hdate => ?_⟩
    · rw [clearDocs_products, if_pos ⟨rfl, listed⟩, hm]
      rfl
    · exact Fields.without_of_not_mem (by simp [discountFields, hprice, hdate])
  · have absent : id ∉ expiredDocs w uid w.today := fun h => by
      obtain ⟨m', hm', hexpired⟩ := mem_expiredDocs.1 h
      obtain rfl : m = m' := Option.some_inj.1 (hm.symm.trans hm')
      exact hrunning ((isExpired_iff hnow (hdates id m hm)).1 hexpired)
    rw [clearDocs_products, if_neg fun h => absent h.2, hm]
  · rw [clearDocs_products]
    rcases hother with hother | hnone
    · rw [if_neg fun h => hother h.1]
    · rw [hnone, Option.map_none, ite_self]

end Sweeps

/-- Both sweeps go by the calendar, and touch nothing but what has ended. -/
theorem expiry_chronological (uid : Uid) (w : ShopWorld) (hnow : InPickerRange w.now)
    (hids : ((w.promotions uid).map (·.docId)).Nodup)
    (hpromotions : ∀ q ∈ w.promotions uid, ∃ t, Picked t ∧ q.endDate = pickedText t)
    (hproducts : ∀ (id : String) (m : Fields), (w.products uid)[id]? = some m →
      m "discount_end_date" = none ∨
        ∃ t, Picked t ∧ m "discount_end_date" = some (.text (pickedText t))) :
    DeletesEnded uid w (afterPromotionSweep uid w) ∧
      ClearsEnded uid w (afterDiscountSweep uid w) :=
  ⟨deletesEnded hnow hids hpromotions, clearsEnded hnow hproducts⟩

def driedFigs : Fields :=
  .ofList [("discount_price", .text "7"), ("discount_end_date", .text "2025-01-01")]

def plums : Fields := .ofList [("discount_price", .text "4"),
  ("discount_end_date", .text "2024-12-31")]

def newYear : ShopWorld where
  promotions _ := [⟨⟨"Plums", "", "4", "2024-12-01", "2024-12-31"⟩, "old", some "old"⟩,
    ⟨⟨"Figs", "", "7", "2024-12-01", "2025-01-01"⟩, "new", some "new"⟩]
  products _ := ((∅ : Std.TreeMap String Fields).insert "plums" plums).insert "figs" driedFigs
  now := ⟨2025, 1, 1, 9, 30⟩

theorem newYear_picked {date : String} (h : date = "2024-12-31" ∨ date = "2025-01-01") :
    ∃ t, Picked t ∧ date = pickedText t := by
  rcases h with rfl | rfl
  · exact ⟨⟨2024, 12, 31, 0, 0⟩, ⟨⟨⟨by decide, by decide, by decide, by decide, by decide,
      by decide⟩, by decide, by decide⟩, rfl⟩, by decide⟩
  · exact ⟨⟨2025, 1, 1, 0, 0⟩, ⟨⟨⟨by decide, by decide, by decide, by decide, by decide,
      by decide⟩, by decide, by decide⟩, rfl⟩, by decide⟩

theorem newYear_products (id : String) (m : Fields)
    (hm : (newYear.products "farmer")[id]? = some m) : m "discount_end_date" = none ∨
      ∃ t, Picked t ∧ m "discount_end_date" = some (.text (pickedText t)) := by
  rw [newYear, Std.TreeMap.getElem?_insert, Std.TreeMap.getElem?_insert] at hm
  split at hm
  · obtain rfl := Option.some_inj.1 hm
    obtain ⟨t, ht, htext⟩ := newYear_picked (.inr rfl)
    exact .inr ⟨t, ht, by rw [← htext]; rfl⟩
  · split at hm
    · obtain rfl := Option.some_inj.1 hm
      obtain ⟨t, ht, htext⟩ := newYear_picked (.inl rfl)
      exact .inr ⟨t, ht, by rw [← htext]; rfl⟩
    · simp at hm

theorem newYear_swept : DeletesEnded ⟨"farmer", farmer_ne_empty⟩ newYear
      (afterPromotionSweep ⟨"farmer", farmer_ne_empty⟩ newYear) ∧
    ClearsEnded ⟨"farmer", farmer_ne_empty⟩ newYear
      (afterDiscountSweep ⟨"farmer", farmer_ne_empty⟩ newYear) :=
  expiry_chronological ⟨"farmer", farmer_ne_empty⟩ newYear
    ⟨⟨by decide, by decide, by decide, by decide, by decide, by decide⟩, by decide, by decide⟩
    (by decide)
    (fun q hq => newYear_picked (by
      simp only [newYear, List.mem_cons, List.not_mem_nil, or_false] at hq
      rcases hq with rfl | rfl
      · exact .inl rfl
      · exact .inr rfl))
    newYear_products

end Gherass.Shop
