import Gherass.ShopControllers

set_option autoImplicit false

/-!
# What a farm's page shows

`getFarmerProducts` run alone: the account type, the clean-up of the user's own products, the
farm's products as they are then.
-/
namespace Gherass.Shop

open EventLoop EventLoop.Async Gherass.Shop.FirebaseHelper Gherass.Shop.ProductController

/-- The product stands in one of the page's three lists if the page keeps it. -/
def isListed (table : Char → List Char) (product : Fields) : Prop :=
  ∃ category ∈ ["fruits", "vegetables", "others"], hasCategory table category product = true

section Page

variable (table : Char → List Char) (ok : ShopAccess → Bool) (p : ℕ) (d : Device) (w : ShopWorld)

def accountTypeRead : String :=
  accountTypeOf (if ok (.profile d.uid) = true then w.profiles d.logInType d.uid else none)

def expiredDocs (uid date : String) : List String :=
  ((w.products uid).toList.filter fun doc => isExpired date doc.2).map (·.1)

/-- The page has a farm, and the clean-up and the query of its products go through. -/
def loadsProducts : Prop :=
  (w.pages p).farmerId ≠ "" ∧ ok (.expiredFields d.uid) = true ∧
    (∀ id ∈ expiredDocs w d.uid w.today, ok (.clearDiscount d.uid id) = true) ∧
    ok (.fetchProducts (w.pages p).farmerId) = true

def clearDocs (uid : Uid) (ids : List String) : ShopWorld :=
  ids.foldl (fun w id => (updateProductDoc uid id (·.without discountFields) w).1) w

def afterFetch : ShopWorld := ((getFarmerProducts table p d).task.alone ok w).2

end Page

variable {table : Char → List Char} {ok : ShopAccess → Bool} {p : ℕ} {d : Device}
  {w : ShopWorld}

theorem updateProductDoc_stored {farmerId id : String} {f : Fields → Fields} {m : Fields}
    (h : (w.products farmerId)[id]? = some m) : updateProductDoc farmerId id f w =
      (w.setProducts farmerId (·.insert id (f m)), .ok ()) := by
  rw [updateProductDoc, h]

theorem getElem?_setProducts (farmerId farmerId' k id : String) (m : Fields) :
    ((w.setProducts farmerId (·.insert id m)).products farmerId')[k]? =
      if farmerId' = farmerId ∧ k = id then some m else (w.products farmerId')[k]? := by
  by_cases hf : farmerId' = farmerId
  · subst hf
    simp only [ShopWorld.setProducts, Function.update_self, Std.TreeMap.getElem?_insert, true_and,
      Std.compare_eq_iff_eq, @eq_comm _ k id]
  · rw [if_neg fun h => hf h.1]
    simp only [ShopWorld.setProducts, Function.update_of_ne hf]

theorem updateProductDoc_frame (farmerId id : String) (f : Fields → Fields) :
    (updateProductDoc farmerId id f w).1.pages = w.pages ∧
      (updateProductDoc farmerId id f w).1.promotions = w.promotions := by
  unfold updateProductDoc
  split
  · exact ⟨rfl, rfl⟩
  · exact ⟨rfl, rfl⟩

theorem clearDocs_frame (uid : Uid) (ids : List String) :
    (clearDocs w uid ids).pages = w.pages ∧ (clearDocs w uid ids).promotions = w.promotions := by
  induction ids generalizing w with
  | nil => exact ⟨rfl, rfl⟩
  | cons id ids ih =>
    obtain ⟨hpages, hstored⟩ := updateProductDoc_frame (w := w) uid id (·.without discountFields)
    exact ⟨ih.1.trans hpages, ih.2.trans hstored⟩

theorem without_without (m : Fields) (ks : List String) :
    (m.without ks).without ks = m.without ks := by
  funext k
  by_cases hk : k ∈ ks
  · rw [Fields.without_of_mem hk, Fields.without_of_mem hk]
  · rw [Fields.without_of_not_mem hk]

theorem clearDocs_products (uid : Uid) (ids : List String) (farmerId k : String) :
    ((clearDocs w uid ids).products farmerId)[k]? =
      if farmerId = uid ∧ k ∈ ids then
        ((w.products farmerId)[k]?).map (·.without discountFields)
      else (w.products farmerId)[k]? := by
  induction ids generalizing w with
  | nil => rw [if_neg fun h => by cases h.2]; rfl
  | cons id ids ih =>
    have head : ((updateProductDoc uid id (·.without discountFields) w).1.products farmerId)[k]? =
        if farmerId = uid ∧ k = id then
          ((w.products farmerId)[k]?).map (·.without discountFields)
        else (w.products farmerId)[k]? := by
      cases hm : (w.products uid)[id]? with
      | some m =>
        rw [updateProductDoc_stored hm, getElem?_setProducts]
        split
        case isTrue h =>
          rw [h.1, h.2, hm]
          rfl
        case isFalse => rfl
      | none =>
        simp only [updateProductDoc, hm]
        split
        case isTrue h =>
          rw [h.1, h.2, hm]
          rfl
        case isFalse => rfl
    change ((clearDocs (updateProductDoc uid id (·.without discountFields) w).1 uid ids).products
      farmerId)[k]? = _
    rw [ih, head]
    by_cases hf : farmerId = uid
    · by_cases hk : k = id
      · by_cases hids : k ∈ ids
        · simp only [hf, hk ▸ hids, hk, List.mem_cons, true_or, and_self, if_true]
          cases (w.products uid)[id]? with
          | none => rfl
          | some m => exact congrArg some (without_without m discountFields)
        · simp [hf, hk, hk ▸ hids]
      · simp [hf, hk]
    · simp [hf]

variable (ok) in
theorem yields_clearEach (uid : Uid) {ids : List String}
    (hids : ∀ id ∈ ids, ((w.products uid)[id]?).isSome) :
    (∀ id ∈ ids, ok (.clearDiscount uid id) = true) ∧
        Yields ok (clearEach uid ids) w (.ok ()) (clearDocs w uid ids) ∨
      (¬ ∀ id ∈ ids, ok (.clearDiscount uid id) = true) ∧
        ∃ w', Yields ok (clearEach uid ids) w (.error .firestore) w' ∧ w'.pages = w.pages := by
  induction ids generalizing w with
  | nil => exact .inl ⟨fun _ h => (by cases h), .pure ()⟩
  | cons id ids ih =>
    obtain ⟨m, hm⟩ := Option.isSome_iff_exists.1 (hids id List.mem_cons_self)
    cases hok : ok (.clearDiscount uid id) with
    | false =>
      refine .inr ⟨fun h => ?_, w, .bind_error (.call_lost hok _ _), rfl⟩
      rw [h id List.mem_cons_self] at hok
      cases hok
    | true =>
      have step : Yields ok (call (.clearDiscount uid id)
          (updateProductDoc uid id (·.without discountFields)) .firestore : ShopProgram Unit) w
          (.ok ()) (updateProductDoc uid id (·.without discountFields) w).1 :=
        .call_answer hok (by rw [updateProductDoc_stored hm])
      have hrest : ∀ k ∈ ids, (((updateProductDoc uid id (·.without discountFields) w).1.products
          uid)[k]?).isSome := by
        intro k hk
        rw [updateProductDoc_stored hm, getElem?_setProducts]
        split
        · rfl
        · exact hids k (List.mem_cons_of_mem _ hk)
      have hpages := (updateProductDoc_frame (w := w) uid id (·.without discountFields)).1
      rcases ih hrest with ⟨hall, htail⟩ | ⟨hnot, w', htail, hpages'⟩
      · refine .inl ⟨fun k hk => ?_, step.bind htail⟩
        rcases List.mem_cons.1 hk with rfl | hk
        · exact hok
        · exact hall k hk
      · exact .inr ⟨fun h => hnot fun k hk => h k (List.mem_cons_of_mem _ hk), w',
          step.bind htail, hpages'.trans hpages⟩

theorem mem_expiredDocs {uid date id : String} : id ∈ expiredDocs w uid date ↔
    ∃ m, (w.products uid)[id]? = some m ∧ isExpired date m = true := by
  simp only [expiredDocs, List.mem_map, List.mem_filter, Prod.exists,
    Std.TreeMap.mem_toList_iff_getElem?_eq_some]
  exact ⟨fun ⟨_, m, h, heq⟩ => ⟨m, heq ▸ h⟩, fun ⟨m, h⟩ => ⟨id, m, h, rfl⟩⟩

variable (ok w) in
theorem yields_removeExpiredFields (uid : Uid) (date : String) :
    (ok (.expiredFields uid) = true ∧
        (∀ id ∈ expiredDocs w uid date, ok (.clearDiscount uid id) = true)) ∧
        Yields ok (removeExpiredFields uid date) w (.ok ())
          (clearDocs w uid (expiredDocs w uid date)) ∨
      (¬ (ok (.expiredFields uid) = true ∧
        ∀ id ∈ expiredDocs w uid date, ok (.clearDiscount uid id) = true)) ∧
        ∃ w', Yields ok (removeExpiredFields uid date) w (.error .firestore) w' ∧
          w'.pages = w.pages := by
  cases hok : ok (.expiredFields uid) with
  | false => exact .inr ⟨fun h => (by cases h.1), w, .bind_error (.call_lost hok _ _), rfl⟩
  | true =>
    have asked : Yields ok (query (.expiredFields uid) fun w => expiredDocs w uid date) w
        (.ok (expiredDocs w uid date)) w := .call_answer hok rfl
    have stored : ∀ id ∈ expiredDocs w uid date, ((w.products uid)[id]?).isSome := fun id hid => by
      obtain ⟨m, hm, -⟩ := mem_expiredDocs.1 hid
      rw [hm]
      rfl
    rcases yields_clearEach ok uid stored with ⟨hall, hrun⟩ | ⟨hnot, w', hrun, hpages⟩
    · exact .inl ⟨⟨rfl, hall⟩, asked.bind hrun⟩
    · exact .inr ⟨fun h => hnot h.2, w', asked.bind hrun, hpages⟩

theorem passes_congr {accountType : String} {m m' : Fields}
    (h : ∀ k ∉ "id" :: discountFields, m' k = m k) :
    passes accountType m' = passes accountType m := by
  have hhidden : m'.get "isHidden" = m.get "isHidden" := Fields.get_congr (h _ (by decide))
  have hvisible : m'.get "visibility" = m.get "visibility" := Fields.get_congr (h _ (by decide))
  rw [passes, passes, isVisible, isVisible, hhidden, hvisible]

theorem isListed_congr {m m' : Fields} (h : ∀ k ∉ "id" :: discountFields, m' k = m k) :
    isListed table m' ↔ isListed table m := by
  have hcategory : m'.get "category" = m.get "category" := Fields.get_congr (h _ (by decide))
  simp only [isListed, hasCategory, hcategory]

theorem withId_same (id : String) (m : Fields) :
    ∀ k ∉ "id" :: discountFields, m.withId id k = m k := fun _ hk =>
  Fields.withId_of_ne fun h => hk (h ▸ List.mem_cons_self)

theorem without_same (m : Fields) :
    ∀ k ∉ "id" :: discountFields, m.without discountFields k = m k := fun _ hk =>
  Fields.without_of_not_mem fun h => hk (List.mem_cons_of_mem _ h)

theorem mem_assignProducts {response : List Fields} {c : ProductController} {m : Fields} :
    m ∈ (assignProducts table response c).farmerProducts ↔
      m ∈ response ∧ passes c.accountType m = true ∧ isListed table m := by
  simp only [assignProducts, isListed, List.mem_append, List.mem_filter, List.mem_cons,
    List.not_mem_nil, or_false, exists_eq_or_imp, exists_eq_left]
  tauto

theorem yields_getAccountType : Yields ok (getAccountType p d) w (.ok ())
    (w.setPage p fun c => { c with accountType := accountTypeRead ok d w }) := by
  have asked : Yields ok (getCurrentUserInfoById d.uid d.logInType) w
      (.ok (if ok (.profile d.uid) = true then w.profiles d.logInType d.uid else none)) w := by
    cases hok : ok (.profile d.uid) with
    | false => exact .caught (.call_lost hok _ _) (.pure none)
    | true => exact .tryCatch (.call_answer hok rfl)
  exact asked.bind (.change _)

theorem yields_checkDoc {id : String} (h : id ≠ "") : Yields ok (checkDoc id) w (.ok ()) w := by
  rw [checkDoc, if_neg h]
  exact .pure ()

def fetched (w : ShopWorld) (farmerId : String) : List Fields :=
  (w.products farmerId).toList.map fun doc => doc.2.withId doc.1

variable (ok w) in
theorem yields_fetchFarmerProducts {farmerId : String} (hid : farmerId ≠ "") :
    Yields ok (fetchFarmerProducts farmerId) w (.ok (if ok (.fetchProducts farmerId) = true then
      if (fetched w farmerId).isEmpty then none else some (fetched w farmerId) else none)) w := by
  cases hok : ok (.fetchProducts farmerId) with
  | false =>
    exact .caught (.bind (yields_checkDoc hid) (.bind_error (.call_lost hok _ _))) (.pure none)
  | true =>
    have asked : Yields ok (query (.fetchProducts farmerId) fun w => fetched w farmerId) w
        (.ok (fetched w farmerId)) w := .call_answer hok rfl
    refine .tryCatch (.bind (yields_checkDoc hid) (asked.bind ?_))
    rw [if_pos rfl]
    split
    · exact .pure none
    · exact .pure _

def typed (ok : ShopAccess → Bool) (p : ℕ) (d : Device) (w : ShopWorld) : ShopWorld :=
  w.setPage p fun c => { c with accountType := accountTypeRead ok d w }

def swept (ok : ShopAccess → Bool) (p : ℕ) (d : Device) (w : ShopWorld) : ShopWorld :=
  clearDocs (typed ok p d w) d.uid (expiredDocs w d.uid w.today)

theorem typed_page : (typed ok p d w).pages p =
    { w.pages p with accountType := accountTypeRead ok d w } := Function.update_self ..

theorem swept_page : (swept ok p d w).pages p =
    { w.pages p with accountType := accountTypeRead ok d w } := by
  rw [swept, (clearDocs_frame _ _).1, typed_page]

theorem swept_products (farmerId k : String) : ((swept ok p d w).products farmerId)[k]? =
    if farmerId = d.uid ∧ k ∈ expiredDocs w d.uid w.today then
      ((w.products farmerId)[k]?).map (·.without discountFields)
    else (w.products farmerId)[k]? := clearDocs_products (w := typed ok p d w) ..

def showProducts (table : Char → List Char) (docs : List Fields) (c : ProductController) :
    ProductController :=
  if docs.isEmpty then c else assignProducts table docs c

theorem setPage_id (w : ShopWorld) (p : ℕ) : (w.setPage p fun c => c) = w := by
  rw [ShopWorld.setPage, Function.update_eq_self]

theorem yields_loaded (hl : loadsProducts ok p d w) :
    Yields ok (getFarmerProducts table p d) w (.ok ()) ((swept ok p d w).setPage p
      (showProducts table (fetched (swept ok p d w) (w.pages p).farmerId))) := by
  obtain ⟨hfarm, hquery, hclear, hfetch⟩ := hl
  have cleared : Yields ok (removeExpiredFields d.uid w.today) (typed ok p d w) (.ok ())
      (swept ok p d w) := by
    rcases yields_removeExpiredFields ok (typed ok p d w) d.uid w.today with
      ⟨-, h⟩ | ⟨hnot, -⟩
    · exact h
    · exact absurd ⟨hquery, hclear⟩ hnot
  have fetches := yields_fetchFarmerProducts ok (swept ok p d w) hfarm
  rw [if_pos hfetch] at fetches
  have page : ((swept ok p d w).pages p).farmerId = (w.pages p).farmerId := by rw [swept_page]
  refine .tryCatch (.bind (.look _) ?_)
  rw [if_neg hfarm]
  refine .bind yields_getAccountType (.bind (.look _) (.bind cleared (.bind (.look _) ?_)))
  rw [page]
  refine .bind fetches ?_
  cases hempty : (fetched (swept ok p d w) (w.pages p).farmerId).isEmpty with
  | true =>
    have same : showProducts table (fetched (swept ok p d w) (w.pages p).farmerId) =
        fun c => c := by
      funext c
      rw [showProducts, if_pos hempty]
    rw [if_pos rfl, same, setPage_id]
    exact .pure ()
  | false =>
    have same : showProducts table (fetched (swept ok p d w) (w.pages p).farmerId) =
        assignProducts table (fetched (swept ok p d w) (w.pages p).farmerId) := by
      funext c
      rw [showProducts, hempty, if_neg Bool.false_ne_true]
    rw [if_neg Bool.false_ne_true, same]
    exact .change _

theorem shown_loaded (hl : loadsProducts ok p d w) :
    (afterFetch table ok p d w).pages p =
      showProducts table (fetched (swept ok p d w) (w.pages p).farmerId)
        { w.pages p with accountType := accountTypeRead ok d w } := by
  rw [afterFetch, (yields_loaded hl).task]
  simp only [ShopWorld.setPage, Function.update_self, swept_page]

theorem yields_noFarm (hfarm : (w.pages p).farmerId = "") :
    Yields ok (getFarmerProducts table p d) w (.ok ()) w := by
  refine .tryCatch (.bind (.look _) ?_)
  rw [if_pos hfarm]
  exact .pure ()

theorem shown_not_loaded (hl : ¬ loadsProducts ok p d w) :
    ((afterFetch table ok p d w).pages p).farmerProducts = (w.pages p).farmerProducts := by
  by_cases hfarm : (w.pages p).farmerId = ""
  · rw [afterFetch, (yields_noFarm hfarm).task]
  · rcases yields_removeExpiredFields ok (typed ok p d w) d.uid w.today with
      ⟨⟨hquery, hclear⟩, cleared⟩ | ⟨-, w', stopped, hpages⟩
    · have hfetch : ok (.fetchProducts (w.pages p).farmerId) = false := by
        by_contra h
        exact hl ⟨hfarm, hquery, hclear, by simpa using h⟩
      have cleared : Yields ok (removeExpiredFields d.uid w.today) (typed ok p d w) (.ok ())
        (swept ok p d w) := cleared
      have fetches := yields_fetchFarmerProducts ok (swept ok p d w) hfarm
      have page : ((swept ok p d w).pages p).farmerId = (w.pages p).farmerId := by rw [swept_page]
      have run : Yields ok (getFarmerProducts table p d) w (.ok ()) (swept ok p d w) := by
        refine .tryCatch (.bind (.look _) ?_)
        rw [if_neg hfarm]
        refine .bind yields_getAccountType (.bind (.look _) (.bind cleared (.bind (.look _) ?_)))
        rw [page]
        refine .bind fetches ?_
        rw [hfetch]
        exact .pure ()
      rw [afterFetch, run.task, swept_page]
    · have run : Yields ok (getFarmerProducts table p d) w (.ok ()) w' := by
        refine .caught (e := .firestore) ?_ (.pure ())
        refine .bind (.look _) ?_
        rw [if_neg hfarm]
        exact .bind yields_getAccountType (.bind (.look _) (.bind_error stopped))
      rw [afterFetch, run.task, hpages, typed_page]

theorem mem_shown_fetched (hopen : (w.pages p).farmerProducts = []) (hl : loadsProducts ok p d w)
    {m : Fields} : m ∈ ((afterFetch table ok p d w).pages p).farmerProducts ↔
      m ∈ fetched (swept ok p d w) (w.pages p).farmerId ∧
        passes (accountTypeRead ok d w) m = true ∧ isListed table m := by
  rw [shown_loaded hl, showProducts]
  split
  case isTrue hempty =>
    rw [hopen, List.isEmpty_iff.1 hempty]
    simp
  case isFalse => exact mem_assignProducts

theorem mem_fetched {farmerId : String} {m : Fields} : m ∈ fetched w farmerId ↔
    ∃ (id : String) (m' : Fields), (w.products farmerId)[id]? = some m' ∧ m = m'.withId id := by
  simp only [fetched, List.mem_map, Prod.exists, Std.TreeMap.mem_toList_iff_getElem?_eq_some,
    @eq_comm _ m]

theorem mem_shown (hopen : (w.pages p).farmerProducts = []) (hl : loadsProducts ok p d w)
    {m : Fields} : m ∈ ((afterFetch table ok p d w).pages p).farmerProducts ↔
      ∃ (id : String) (m' : Fields),
        ((swept ok p d w).products (w.pages p).farmerId)[id]? = some m' ∧ m = m'.withId id ∧
        passes (accountTypeRead ok d w) m' = true ∧ isListed table m' := by
  rw [mem_shown_fetched hopen hl, mem_fetched]
  constructor
  · rintro ⟨⟨id, m', hm', rfl⟩, hpass, hlist⟩
    exact ⟨id, m', hm', rfl, (passes_congr (withId_same id m')).symm.trans hpass,
      (isListed_congr (withId_same id m')).1 hlist⟩
  · rintro ⟨id, m', hm', rfl, hpass, hlist⟩
    exact ⟨⟨id, m', hm', rfl⟩, (passes_congr (withId_same id m')).trans hpass,
      (isListed_congr (withId_same id m')).2 hlist⟩

end Gherass.Shop
