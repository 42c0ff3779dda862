import Gherass.FarmPage

set_option autoImplicit false

/-!
# Promotions and the discounts they give

A discount is kept twice, in the promotion and in its product. Creating a promotion writes
both; what deletes, moves or sweeps a promotion forgets the product, and what sweeps the
product forgets the promotion.
-/
namespace Gherass.Shop

open EventLoop EventLoop.Async Gherass.Shop.FirebaseHelper

def latest (docs : List PromotionDoc) (name : Value) : Option PromotionDoc :=
  (docs.filter fun q => Value.text q.product = name).getLast?

def terms : Option PromotionDoc → Value × Value
  | some q => (.text q.newPrice, .text q.endDate)
  | none => (.null, .null)

def discount (m : Fields) : Value × Value := (m.get "discount_price", m.get "discount_end_date")

def unexpired (date : String) (docs : List PromotionDoc) : List PromotionDoc :=
  docs.filter fun q => ¬ q.endDate < date

def without (docId : String) (docs : List PromotionDoc) : List PromotionDoc :=
  if docId = "" then docs else docs.filter fun q => q.docId ≠ docId

section Latest

variable {docs : List PromotionDoc} {q : PromotionDoc} {name : Value} {date : String}

theorem latest_append_same : latest (docs ++ [q]) (.text q.product) = some q := by
  simp [latest]

theorem latest_append_other (h : Value.text q.product ≠ name) :
    latest (docs ++ [q]) name = latest docs name := by
  simp [latest, h]

theorem mem_of_latest (h : latest docs name = some q) : q ∈ docs :=
  (List.mem_filter.1 (List.mem_of_getLast? h)).1

theorem latest_unexpired (h : latest (unexpired date docs) name = some q) :
    ¬ q.endDate < date := by
  have hmem := mem_of_latest h
  simpa [unexpired] using (List.mem_filter.1 hmem).2

theorem unexpired_append : unexpired date (docs ++ [q]) =
    unexpired date docs ++ if q.endDate < date then [] else [q] := by
  rw [unexpired, List.filter_append, unexpired]
  by_cases h : q.endDate < date
  · rw [if_pos h, List.filter_cons_of_neg (by rw [decide_eq_true_eq]; exact not_not.2 h),
      List.filter_nil]
  · rw [if_neg h, List.filter_cons_of_pos (by rw [decide_eq_true_eq]; exact h), List.filter_nil]

theorem terms_written : terms (latest (unexpired date (docs ++ [q])) (.text q.product)) =
    terms (some q) ↔ ¬ q.endDate < date := by
  rw [unexpired_append]
  constructor
  · intro h hended
    rw [if_pos hended, List.append_nil] at h
    cases hlast : latest (unexpired date docs) (.text q.product) with
    | none => simp [hlast, terms] at h
    | some q' =>
      have hdate : q'.endDate = q.endDate := by
        rw [hlast] at h
        exact Value.text.inj (Prod.mk.inj h).2
      exact latest_unexpired hlast (hdate ▸ hended)
  · intro hruns
    rw [if_neg hruns, latest_append_same]

theorem latest_written_other (h : Value.text q.product ≠ name) :
    latest (unexpired date (docs ++ [q])) name = latest (unexpired date docs) name := by
  rw [unexpired_append]
  split
  · rw [List.append_nil]
  · exact latest_append_other h

end Latest

/-- Every product has the discount of its latest promotion, or none if it has no promotion. -/
def linked (uid : String) (w : ShopWorld) : Prop :=
  ∀ (id : String) (m : Fields), (w.products uid)[id]? = some m →
    discount m = terms (latest (w.promotions uid) (m.get "name"))

/-- No two products share a name, and no two promotions an id. -/
structure Tidy (uid : String) (w : ShopWorld) : Prop where
  names : ∀ (id id' : String) (m m' : Fields) (name : String), (w.products uid)[id]? = some m →
    (w.products uid)[id']? = some m' → m.get "name" = .text name → m'.get "name" = .text name →
    id = id'
  docs : ((w.promotions uid).map (·.docId)).Nodup

/-- The product selected on a farmer's pages, and its map, are the ones named in the form. -/
def selectsNamed (d : Device) (w : ShopWorld) : Prop :=
  let c := (w.apps d).promotions
  c.selectedProductId ≠ "" ∧
    ((w.products d.uid)[c.selectedProductId]?).map (·.get "name") =
      some (.text c.promotionProductName) ∧
    (w.map? d c.selectedProduct).map (·.fields.get "name") = some (.text c.promotionProductName)

instance (d : Device) (w : ShopWorld) : Decidable (selectsNamed d w) :=
  inferInstanceAs (Decidable (_ ∧ _ ∧ _))

/-- The farmer's own promotions and clean-ups, with every call going through. -/
def promotes (uid : Uid) : ShopEvent → (ShopAccess → Bool) → ShopWorld → Prop
  | .openFarm _ d _, ok, _ => d.uid = uid ∧ ∀ l, ok l = true
  | .getInventoryProducts d, ok, _ => d.uid = uid ∧ ∀ l, ok l = true
  | .buildItem d _, _, _ => d.uid = uid
  | .selectItem d _, _, _ => d.uid = uid
  | .getPromotionsList d, ok, _ => d.uid = uid ∧ ∀ l, ok l = true
  | .newPromotion d, _, _ => d.uid = uid
  | .openPromotion d _, _, _ => d.uid = uid
  | .fillForm d _ _ _ _, _, _ => d.uid = uid
  | .createPromotion d, ok, w => d.uid = uid ∧ (∀ l, ok l = true) ∧
    (PromotionsController.validationError (w.apps d).promotions = none → selectsNamed d w)
  | .updatePromotions d, ok, w => d.uid = uid ∧ (∀ l, ok l = true) ∧
    (PromotionsController.validationError (w.apps d).promotions = none → selectsNamed d w)
  | .deletePromotion d, ok, _ => d.uid = uid ∧ ∀ l, ok l = true
  | .nextDay _, _, _ => True
  | .order _ _ _, _, _ => False
  | .postProducts _ _ _, _, _ => False
  | .updateProduct _ _, _, _ => False
  | .deleteProduct _ _, _, _ => False

section Conditions

variable (uid : String) (w : ShopWorld)

def leavesTerms (left : List PromotionDoc) (except : Option String) : Prop :=
  ∀ (id : String) (m : Fields), (w.products uid)[id]? = some m →
    (∀ name ∈ except, m.get "name" ≠ .text name) →
    terms (latest left (m.get "name")) = terms (latest (w.promotions uid) (m.get "name"))

/-- The promotion that the form writes gives its product the terms of the form. -/
def givesTerms (docId : Option String) (c : PromotionsController) : Prop :=
  match docId with
  | none => ¬ c.endDate < w.today
  | some docId =>
    if docId ≠ "" ∧ ∃ q ∈ w.promotions uid, q.docId = docId then ¬ c.endDate < w.today
    else terms (latest (unexpired w.today (w.promotions uid)) (.text c.promotionProductName)) =
      (.text c.promotionNewPrice, .text c.endDate)

/-- When a step keeps the link: what it deletes, moves to another product or sweeps was not what
    gave a product its discount, and what it writes has not ended. -/
def keepsLink : ShopEvent → (ShopAccess → Bool) → ShopWorld → Prop
  | .openFarm _ _ farmerId, _, w => farmerId ≠ "" → ∀ (id : String) (m : Fields),
    (w.products uid)[id]? = some m → isExpired w.today m = false
  | .getPromotionsList _, _, w =>
    leavesTerms uid w (unexpired w.today (w.promotions uid)) none
  | .createPromotion d, _, w =>
    PromotionsController.validationError (w.apps d).promotions = none →
      givesTerms uid w none (w.apps d).promotions ∧
      leavesTerms uid w (unexpired w.today (w.promotions uid))
        (some (w.apps d).promotions.promotionProductName)
  | .updatePromotions d, _, w =>
    PromotionsController.validationError (w.apps d).promotions = none →
      givesTerms uid w (some (w.apps d).promotions.promotionId) (w.apps d).promotions ∧
      leavesTerms uid w
        (unexpired w.today (without (w.apps d).promotions.promotionId (w.promotions uid)))
        (some (w.apps d).promotions.promotionProductName)
  | .deletePromotion d, _, w => leavesTerms uid w
    (unexpired w.today (without (w.apps d).promotions.promotionId (w.promotions uid))) none
  | _, _, _ => True

end Conditions

def Leaves (ok : ShopAccess → Bool) (program : ShopProgram Unit) (w : ShopWorld) (uid : String)
    (docs : List PromotionDoc) (products : Std.TreeMap String Fields) : Prop :=
  ∃ w', Yields ok program w (.ok ()) w' ∧ w'.promotions uid = docs ∧ w'.products uid = products

section Programs

variable {ok : ShopAccess → Bool} {d : Device} {w : ShopWorld} {uid : Uid}

theorem yields_query {α : Type} {l : ShopAccess} (hl : ok l = true) (f : ShopWorld → α) :
    Yields ok (query l f) w (.ok (f w)) w := .call_answer hl rfl

theorem Leaves.alone {program : ShopProgram Unit} {docs : List PromotionDoc}
    {products : Std.TreeMap String Fields} (h : Leaves ok program w uid docs products) :
    ((program.task.alone ok w).2).promotions uid = docs ∧
      ((program.task.alone ok w).2).products uid = products := by
  obtain ⟨w', hrun, hdocs, hproducts⟩ := h
  rw [hrun.task]
  exact ⟨hdocs, hproducts⟩

def deleteDocs (uid : Uid) (ids : List String) (w : ShopWorld) : ShopWorld :=
  ids.foldl (fun w id => deletePromotionDoc uid id w) w

theorem deleteDocs_stored (uid : Uid) (ids : List String) (w : ShopWorld) :
    (deleteDocs uid ids w).promotions uid =
        (w.promotions uid).filter (fun q => q.docId ∉ ids) ∧
      (deleteDocs uid ids w).products = w.products := by
  induction ids generalizing w with
  | nil => exact ⟨by simp [deleteDocs], rfl⟩
  | cons id ids ih =>
    obtain ⟨hdocs, hproducts⟩ := ih (deletePromotionDoc uid id w)
    refine ⟨hdocs.trans ?_, hproducts⟩
    have first : (deletePromotionDoc uid id w).promotions uid =
        (w.promotions uid).filter fun q => q.docId ≠ id :=
      ShopWorld.promotions_setPromotionDocs ..
    rw [first, List.filter_filter]
    refine List.filter_congr fun q _ => ?_
    rw [← Bool.decide_and, decide_eq_decide, List.mem_cons, not_or, and_comm]

theorem yields_deleteEach (hok : ∀ l, ok l = true) (uid : Uid) (ids : List String) :
    Yields ok (deleteEach uid ids) w (.ok ()) (deleteDocs uid ids w) := by
  induction ids generalizing w with
  | nil => exact .pure ()
  | cons id ids ih =>
    have first : Yields ok (call .plain (fun w => (deletePromotionDoc uid id w, .ok ()))
        .firestore : ShopProgram Unit) w (.ok ()) (deletePromotionDoc uid id w) :=
      .call_answer (hok _) rfl
    exact first.bind ih

theorem filter_expired {docs : List PromotionDoc} (hdocs : (docs.map (·.docId)).Nodup)
    (date : String) :
    docs.filter (fun q => q.docId ∉ (docs.filter fun q => q.endDate < date).map (·.docId)) =
      unexpired date docs := by
  refine List.filter_congr fun q hq => ?_
  have same : q.docId ∈ (docs.filter fun q => q.endDate < date).map (·.docId) ↔
      q.endDate < date := by
    rw [List.mem_map]
    constructor
    · rintro ⟨q', hq', hid⟩
      obtain ⟨hmem, hended⟩ := List.mem_filter.1 hq'
      rw [List.inj_on_of_nodup_map hdocs hmem hq hid] at hended
      exact of_decide_eq_true hended
    · exact fun h => ⟨q, List.mem_filter.2 ⟨hq, decide_eq_true h⟩, rfl⟩
  rw [decide_eq_decide, same]

def endedIds (uid : Uid) (w : ShopWorld) : List String :=
  ((w.promotions uid).filter fun q => q.endDate < w.today).map (·.docId)

def showPromotions (d : Device) (w : ShopWorld) : ShopWorld :=
  if (w.promotions d.uid).isEmpty then w
  else w.setPromotions d fun c => { c with promotionsList := w.promotions d.uid }

variable (d w) in
theorem yields_getPromotionsList (hok : ∀ l, ok l = true) :
    Yields ok (PromotionsController.getPromotionsList d) w (.ok ())
      (showPromotions d (deleteDocs d.uid (endedIds d.uid w) w)) := by
  obtain ⟨swept, hswept⟩ : ∃ swept, swept = deleteDocs d.uid (endedIds d.uid w) w := ⟨_, rfl⟩
  have sweep : Yields ok (removeExpiredDoc d.uid w.today) w (.ok ()) swept := by
    rw [hswept]
    exact .bind (yields_query (hok _) _) (yields_deleteEach hok d.uid (endedIds d.uid w))
  have fetched : Yields ok (fetchFarmerPromotions d.uid) swept
      (.ok (if (swept.promotions d.uid).isEmpty then none else some (swept.promotions d.uid)))
      swept := by
    refine .tryCatch (.bind (yields_query (hok _) _) ?_)
    split
    · exact .pure none
    · exact .pure _
  rw [← hswept, showPromotions]
  cases hempty : (swept.promotions d.uid).isEmpty with
  | true =>
    rw [hempty] at fetched
    exact .tryCatch (.bind (.look _) (.bind sweep (.bind fetched (.pure ()))))
  | false =>
    rw [hempty] at fetched
    exact .tryCatch (.bind (.look _) (.bind sweep (.bind fetched (.change _))))

theorem showPromotions_stored (d : Device) (w : ShopWorld) :
    (showPromotions d w).promotions = w.promotions ∧
      (showPromotions d w).products = w.products := by
  unfold showPromotions
  split
  · exact ⟨rfl, rfl⟩
  · exact ⟨rfl, rfl⟩

theorem leaves_getPromotionsList (hok : ∀ l, ok l = true)
    (hdocs : ((w.promotions d.uid).map (·.docId)).Nodup) :
    Leaves ok (PromotionsController.getPromotionsList d) w d.uid
      (unexpired w.today (w.promotions d.uid)) (w.products d.uid) := by
  obtain ⟨hkept, hproducts⟩ := deleteDocs_stored d.uid (endedIds d.uid w) w
  obtain ⟨samePromotions, sameProducts⟩ :=
    showPromotions_stored d (deleteDocs d.uid (endedIds d.uid w) w)
  refine ⟨_, yields_getPromotionsList d w hok, ?_, ?_⟩
  · rw [samePromotions, hkept]
    exact filter_expired hdocs w.today
  · rw [sameProducts, hproducts]

structure SameAside (w w' : ShopWorld) : Prop where
  products : w'.products = w.products
  apps : w'.apps = w.apps
  now : w'.now = w.now

theorem updatePromotionDoc_found {docId : String} {f : PromotionDoc → PromotionDoc}
    {q : PromotionDoc} (h : (w.promotions uid).find? (fun q => q.docId = docId) = some q) :
    updatePromotionDoc uid docId f w =
      (w.setPromotionDocs uid fun docs => docs.filter (fun q => q.docId ≠ docId) ++ [f q],
        .ok ()) := by
  rw [updatePromotionDoc, h]

theorem find_append_self {docs : List PromotionDoc} {q : PromotionDoc}
    (h : q.docId ∉ docs.map (·.docId)) :
    (docs ++ [q]).find? (fun q' => q'.docId = q.docId) = some q := by
  have none : docs.find? (fun q' => q'.docId = q.docId) = none := by
    rw [List.find?_eq_none]
    intro q' hq' heq
    exact h (List.mem_map.2 ⟨q', hq', of_decide_eq_true heq⟩)
  rw [List.find?_append, none, Option.none_or, List.find?_cons_of_pos (by simp)]

theorem filter_append_self {docs : List PromotionDoc} {q : PromotionDoc}
    (h : q.docId ∉ docs.map (·.docId)) :
    (docs ++ [q]).filter (fun q' => q'.docId ≠ q.docId) = docs := by
  have all : docs.filter (fun q' => q'.docId ≠ q.docId) = docs :=
    List.filter_eq_self.2 fun q' hq' => decide_eq_true fun heq =>
      h (List.mem_map.2 ⟨q', hq', heq⟩)
  rw [List.filter_append, all, List.filter_cons_of_neg (by simp), List.filter_nil,
    List.append_nil]

def addedDoc (ids : IdSupply) (uid : Uid) (data : Promotion) (w : ShopWorld) : PromotionDoc :=
  ⟨data, ids.newId (w.usedIds uid).length (w.usedIds uid),
    some (ids.newId (w.usedIds uid).length (w.usedIds uid))⟩

theorem addedDoc_fresh (ids : IdSupply) (data : Promotion) :
    (addedDoc ids uid data w).docId ∉ (w.promotions uid).map (·.docId) := fun h =>
  ids.fresh (w.usedIds uid).length (w.usedIds uid) (List.mem_append_left _ h)

theorem addedDoc_nodup (hdocs : ((w.promotions uid).map (·.docId)).Nodup) (ids : IdSupply)
    (data : Promotion) :
    ((w.promotions uid ++ [addedDoc ids uid data w]).map (·.docId)).Nodup := by
  rw [List.map_append]
  refine List.nodup_append.2 ⟨hdocs, List.nodup_singleton _, fun a ha b hb heq => ?_⟩
  obtain rfl := List.mem_singleton.1 hb
  exact addedDoc_fresh ids data (heq ▸ ha)

variable (uid) in
theorem yields_addPromotionsToFarmer (hok : ∀ l, ok l = true) (ids : IdSupply)
    (data : Promotion) : ∃ w', Yields ok (addPromotionsToFarmer ids uid data) w (.ok ()) w' ∧
      w'.promotions uid = w.promotions uid ++ [addedDoc ids uid data w] ∧ SameAside w w' := by
  obtain ⟨added, hadded⟩ : ∃ added, added = (addPromotionDoc ids uid data w).1 := ⟨_, rfl⟩
  let q : PromotionDoc := { addedDoc ids uid data w with id := none }
  have fresh : q.docId ∉ (w.promotions uid).map (·.docId) := addedDoc_fresh ids data
  have docs : added.promotions uid = w.promotions uid ++ [q] := by
    rw [hadded]
    exact ShopWorld.promotions_setPromotionDocs w uid (· ++ [q])
  have first : Yields ok (call .plain (addPromotionDoc ids uid data) .firestore :
      ShopProgram String) w (.ok q.docId) added := by
    rw [hadded]
    exact .call_answer (hok _) rfl
  have found : updatePromotionDoc uid q.docId (fun q' => { q' with id := some q.docId }) added =
      _ := updatePromotionDoc_found (by rw [docs, find_append_self fresh])
  refine ⟨_, .tryCatch (first.bind (.call_eq (hok _) found)), ?_, ?_⟩
  · rw [ShopWorld.promotions_setPromotionDocs, docs, filter_append_self fresh]
    rfl
  · rw [hadded]
    exact ⟨rfl, rfl, rfl⟩

def updatedDocs (docId : String) (data : Promotion) (docs : List PromotionDoc) :
    List PromotionDoc :=
  match docs.find? fun q => docId ≠ "" ∧ q.docId = docId with
  | some q => without docId docs ++ [{ q with toPromotion := data }]
  | none => docs

variable (uid) in
theorem yields_updatePromotions (hok : ∀ l, ok l = true) (docId : String) (data : Promotion) :
    ∃ w', Yields ok (updatePromotions uid docId data) w (.ok ()) w' ∧
      w'.promotions uid = updatedDocs docId data (w.promotions uid) ∧ SameAside w w' := by
  by_cases hid : docId = ""
  · have none : (w.promotions uid).find? (fun q => docId ≠ "" ∧ q.docId = docId) = none := by
      simp [hid]
    refine ⟨w, .caught (e := .argument) (.bind_error ?_) (.pure ()), ?_, ⟨rfl, rfl, rfl⟩⟩
    · rw [checkDoc, if_pos hid]
      exact .throw _
    · rw [updatedDocs, none]
  · have same : (fun q : PromotionDoc => decide (docId ≠ "" ∧ q.docId = docId)) =
        fun q => decide (q.docId = docId) := by
      funext q
      simp [hid]
    rw [updatedDocs, same]
    cases hfind : (w.promotions uid).find? fun q => q.docId = docId with
    | some q =>
      refine ⟨_, .tryCatch (.bind (yields_checkDoc hid)
        (.call_eq (hok _) (updatePromotionDoc_found hfind))), ?_, ⟨rfl, rfl, rfl⟩⟩
      rw [ShopWorld.promotions_setPromotionDocs, without, if_neg hid]
    | none =>
      have missing : updatePromotionDoc uid docId (fun q => { q with toPromotion := data }) w =
          (w, .error .firestore) := by rw [updatePromotionDoc, hfind]
      exact ⟨w, .caught (.bind (yields_checkDoc hid) (.call_eq (hok _) missing)) (.pure ()), rfl,
        ⟨rfl, rfl, rfl⟩⟩

theorem leaves_writeSelected (hok : ∀ l, ok l = true)
    (hdocs : ((w.promotions d.uid).map (·.docId)).Nodup)
    (hid : (w.apps d).promotions.selectedProductId ≠ "") {m : Fields} {selected : ProductMap}
    (hm : (w.products d.uid)[(w.apps d).promotions.selectedProductId]? = some m)
    (hsel : w.map? d (w.apps d).promotions.selectedProduct = some selected) :
    Leaves ok (PromotionsController.writeSelected d) w d.uid
      (unexpired w.today (w.promotions d.uid))
      ((w.products d.uid).insert (w.apps d).promotions.selectedProductId
        (m.merge selected.fields)) := by
  obtain ⟨id, hidEq⟩ : ∃ id, id = (w.apps d).promotions.selectedProductId := ⟨_, rfl⟩
  rw [← hidEq] at hid hm ⊢
  obtain ⟨written, hwritten⟩ : ∃ written, written =
    { w.setProducts d.uid (·.insert id (m.merge selected.fields)) with
      promotionWrites := ⟨selected.loaded, m, m.merge selected.fields⟩ :: w.promotionWrites } :=
    ⟨_, rfl⟩
  have store : promoteDoc d.uid id selected.fields selected.loaded w = (written, .ok ()) := by
    rw [promoteDoc, hm, hwritten]
  have first : Yields ok (updateProductToFarmer d.uid id selected.fields (some selected.loaded)) w
      (.ok ()) written := .tryCatch (.bind (yields_checkDoc hid) (.call_eq (hok _) store))
  have promotions : written.promotions = w.promotions := by rw [hwritten]; rfl
  have today : written.today = w.today := by rw [hwritten]; rfl
  have products : written.products d.uid = (w.products d.uid).insert id
      (m.merge selected.fields) := by
    rw [hwritten]
    exact ShopWorld.products_setProducts w d.uid (·.insert id (m.merge selected.fields))
  obtain ⟨w', hlist, hpromotions, hproducts⟩ := leaves_getPromotionsList (w := written) (d := d) hok
    (by rw [promotions]; exact hdocs)
  rw [promotions, today] at hpromotions
  refine ⟨w'.setPromotions d PromotionsController.emptyForm, .bind (.look _) (.bind (.look _) ?_),
    hpromotions, hproducts.trans products⟩
  rw [hsel, ← hidEq]
  exact .bind first (.bind (.spawned hlist) (.change _))

theorem map?_setMap {ref : ℕ} {m : ProductMap} (h : w.map? d ref = some m) (f : Fields → Fields) :
    (w.setMap d ref f).map? d ref = some { m with fields := f m.fields } := by
  have hm : (w.apps d).maps[ref]? = some m := h
  simp [ShopWorld.map?, ShopWorld.setMap, ShopWorld.setApp, hm]

theorem promotions_setMap (ref : ℕ) (f : Fields → Fields) :
    ((w.setMap d ref f).apps d).promotions = (w.apps d).promotions := by
  simp [ShopWorld.setMap, ShopWorld.setApp]

theorem leaves_afterWrite (hok : ∀ l, ok l = true) {c : PromotionsController}
    (hc : (w.apps d).promotions = c) {m : Fields} {selected : ProductMap}
    (hid : c.selectedProductId ≠ "") (hm : (w.products d.uid)[c.selectedProductId]? = some m)
    (hsel : w.map? d c.selectedProduct = some selected) {write : ShopProgram Unit}
    {stored : ShopWorld} (hwrite : Yields ok write (w.setMap d c.selectedProduct
      (PromotionsController.withDiscount c)) (.ok ()) stored)
    (aside : SameAside (w.setMap d c.selectedProduct (PromotionsController.withDiscount c)) stored)
    (hdocs : ((stored.promotions d.uid).map (·.docId)).Nodup) :
    Leaves ok (do
      change fun w => w.setMap d c.selectedProduct (PromotionsController.withDiscount c)
      tryCatch (do write; PromotionsController.writeSelected d) fun _ => pure ()) w d.uid
      (unexpired w.today (stored.promotions d.uid))
      ((w.products d.uid).insert c.selectedProductId
        (m.merge (PromotionsController.withDiscount c selected.fields))) := by
  have promotions : (stored.apps d).promotions = c := by
    rw [aside.apps, promotions_setMap, hc]
  have today : stored.today = w.today := congrArg formatDate aside.now
  have products : stored.products d.uid = w.products d.uid := congrFun aside.products _
  have map : stored.map? d c.selectedProduct = some { selected with
      fields := PromotionsController.withDiscount c selected.fields } := by
    rw [ShopWorld.map?, aside.apps]
    exact map?_setMap hsel _
  have tail := leaves_writeSelected (w := stored) (d := d) hok hdocs (by rw [promotions]; exact hid)
    (m := m) (by rw [promotions, products]; exact hm) (by rw [promotions]; exact map)
  rw [promotions, today, products] at tail
  obtain ⟨w', hrun, hpromotions, hproducts⟩ := tail
  exact ⟨w', .bind (.change _) (.tryCatch (.bind hwrite hrun)), hpromotions, hproducts⟩

theorem leaves_createPromotion (hok : ∀ l, ok l = true) (ids : IdSupply)
    (hdocs : ((w.promotions d.uid).map (·.docId)).Nodup)
    (hvalid : PromotionsController.validationError (w.apps d).promotions = none) {m : Fields}
    {selected : ProductMap} (hid : (w.apps d).promotions.selectedProductId ≠ "")
    (hm : (w.products d.uid)[(w.apps d).promotions.selectedProductId]? = some m)
    (hsel : w.map? d (w.apps d).promotions.selectedProduct = some selected) :
    Leaves ok (PromotionsController.createPromotion ids d) w d.uid
      (unexpired w.today (w.promotions d.uid ++ [addedDoc ids d.uid
        (PromotionsController.promotionData (w.apps d).promotions) w]))
      ((w.products d.uid).insert (w.apps d).promotions.selectedProductId (m.merge
        (PromotionsController.withDiscount (w.apps d).promotions selected.fields))) := by
  obtain ⟨stored, hwrite, hpromotions, aside⟩ := yields_addPromotionsToFarmer d.uid
    (w := w.setMap d (w.apps d).promotions.selectedProduct
      (PromotionsController.withDiscount (w.apps d).promotions)) hok ids
    (PromotionsController.promotionData (w.apps d).promotions)
  have distinct : ((stored.promotions d.uid).map (·.docId)).Nodup := by
    rw [hpromotions]
    exact addedDoc_nodup hdocs ids _
  obtain ⟨w', hrun, hdocs', hproducts⟩ :=
    leaves_afterWrite hok rfl hid hm hsel hwrite aside distinct
  refine ⟨w', .bind (.look _) ?_, by rw [hdocs', hpromotions]; rfl, hproducts⟩
  rw [hvalid]
  exact hrun

theorem updatedDocs_nodup {docs : List PromotionDoc} (hdocs : (docs.map (·.docId)).Nodup)
    (docId : String) (data : Promotion) : ((updatedDocs docId data docs).map (·.docId)).Nodup := by
  unfold updatedDocs
  split
  case h_2 => exact hdocs
  case h_1 q hfind =>
    have found := List.find?_some hfind
    obtain ⟨hne, hid⟩ := of_decide_eq_true (p := docId ≠ "" ∧ q.docId = docId) found
    rw [without, if_neg hne, List.map_append]
    refine List.nodup_append.2 ⟨hdocs.sublist (List.filter_sublist.map _), List.nodup_singleton _,
      fun a ha b hb heq => ?_⟩
    obtain ⟨q', hq', rfl⟩ := List.mem_map.1 ha
    have other := of_decide_eq_true (List.mem_filter.1 hq').2
    exact other (heq.trans ((List.mem_singleton.1 hb).trans hid))

theorem leaves_updatePromotions (hok : ∀ l, ok l = true)
    (hdocs : ((w.promotions d.uid).map (·.docId)).Nodup)
    (hvalid : PromotionsController.validationError (w.apps d).promotions = none) {m : Fields}
    {selected : ProductMap} (hid : (w.apps d).promotions.selectedProductId ≠ "")
    (hm : (w.products d.uid)[(w.apps d).promotions.selectedProductId]? = some m)
    (hsel : w.map? d (w.apps d).promotions.selectedProduct = some selected) :
    Leaves ok (PromotionsController.updatePromotions d) w d.uid
      (unexpired w.today (updatedDocs (w.apps d).promotions.promotionId
        (PromotionsController.promotionData (w.apps d).promotions) (w.promotions d.uid)))
      ((w.products d.uid).insert (w.apps d).promotions.selectedProductId (m.merge
        (PromotionsController.withDiscount (w.apps d).promotions selected.fields))) := by
  obtain ⟨stored, hwrite, hpromotions, aside⟩ := yields_updatePromotions d.uid
    (w := w.setMap d (w.apps d).promotions.selectedProduct
      (PromotionsController.withDiscount (w.apps d).promotions)) hok
    (w.apps d).promotions.promotionId
    (PromotionsController.promotionData (w.apps d).promotions)
  have distinct : ((stored.promotions d.uid).map (·.docId)).Nodup := by
    rw [hpromotions]
    exact updatedDocs_nodup hdocs _ _
  obtain ⟨w', hrun, hdocs', hproducts⟩ :=
    leaves_afterWrite hok rfl hid hm hsel hwrite aside distinct
  refine ⟨w', .bind (.look _) ?_, by rw [hdocs', hpromotions]; rfl, hproducts⟩
  rw [hvalid]
  exact hrun

theorem leaves_deletePromotion (hok : ∀ l, ok l = true)
    (hdocs : ((w.promotions d.uid).map (·.docId)).Nodup) :
    Leaves ok (PromotionsController.deletePromotion d) w d.uid
      (unexpired w.today (without (w.apps d).promotions.promotionId (w.promotions d.uid)))
      (w.products d.uid) := by
  obtain ⟨id, hid⟩ : ∃ id, id = (w.apps d).promotions.promotionId := ⟨_, rfl⟩
  rw [← hid]
  obtain ⟨stored, hwrite, hpromotions, aside⟩ : ∃ stored,
      Yields ok (deletePromotion d.uid id) w (.ok ()) stored ∧
      stored.promotions d.uid = without id (w.promotions d.uid) ∧ SameAside w stored := by
    by_cases hempty : id = ""
    · refine ⟨w, .caught (e := .argument) (.bind_error ?_) (.pure ()), ?_, ⟨rfl, rfl, rfl⟩⟩
      · rw [checkDoc, if_pos hempty]
        exact .throw _
      · rw [without, if_pos hempty]
    · refine ⟨deletePromotionDoc d.uid id w, .tryCatch (.bind (yields_checkDoc hempty)
        (.call_answer (hok _) rfl)), ?_, ⟨rfl, rfl, rfl⟩⟩
      rw [without, if_neg hempty]
      exact ShopWorld.promotions_setPromotionDocs w d.uid _
  let shown : ShopWorld := stored.setPromotions d fun c =>
    { c with promotionsList := c.promotionsList.filter (·.id ≠ some c.promotionId) }
  have distinct : ((shown.promotions d.uid).map (·.docId)).Nodup := by
    change ((stored.promotions d.uid).map (·.docId)).Nodup
    rw [hpromotions, without]
    split
    · exact hdocs
    · exact hdocs.sublist (List.filter_sublist.map _)
  obtain ⟨w', hlist, hdocs', hproducts⟩ := leaves_getPromotionsList hok distinct
  refine ⟨w', .tryCatch (.bind (.look _) ?_), ?_, ?_⟩
  · rw [← hid]
    exact .bind hwrite (.bind (.change _) (.spawned hlist))
  · have today : shown.today = w.today := congrArg formatDate aside.now
    rw [hdocs', today]
    exact congrArg _ hpromotions
  · exact hproducts.trans (congrFun aside.products _)

end Programs

section Steps

variable {uid : String} {w w' : ShopWorld} {docs : List PromotionDoc}

theorem linked_same (hproducts : w'.products uid = w.products uid)
    (hdocs : w'.promotions uid = w.promotions uid) : linked uid w' ↔ linked uid w := by
  rw [linked, linked, hproducts, hdocs]

theorem Tidy.same (h : Tidy uid w) (hproducts : w'.products uid = w.products uid)
    (hdocs : ((w'.promotions uid).map (·.docId)).Nodup) : Tidy uid w' := by
  refine ⟨?_, hdocs⟩
  rw [hproducts]
  exact h.names

theorem unexpired_nodup (h : (docs.map (·.docId)).Nodup) (date : String) :
    ((unexpired date docs).map (·.docId)).Nodup := h.sublist (List.filter_sublist.map _)

theorem without_nodup (h : (docs.map (·.docId)).Nodup) (docId : String) :
    ((without docId docs).map (·.docId)).Nodup := by
  rw [without]
  split
  · exact h
  · exact h.sublist (List.filter_sublist.map _)

theorem linked_left (hl : linked uid w) (hproducts : w'.products uid = w.products uid)
    (hdocs : w'.promotions uid = docs) : linked uid w' ↔ leavesTerms uid w docs none := by
  rw [linked, hproducts, hdocs]
  constructor
  · intro h id m hm _
    exact (h id m hm).symm.trans (hl id m hm)
  · intro h id m hm
    exact (hl id m hm).trans (h id m hm fun _ hname => by cases hname).symm

section Promoted

variable {c : PromotionsController} {id : String} {m fields : Fields}

theorem price_promoted : (m.merge (PromotionsController.withDiscount c fields)) "discount_price" =
    some (.text c.promotionNewPrice) :=
  Fields.merge_of_some ((Fields.set_of_ne (by decide)).trans Fields.set_self)

theorem discount_promoted : discount (m.merge (PromotionsController.withDiscount c fields)) =
    (.text c.promotionNewPrice, .text c.endDate) := by
  have ends : PromotionsController.withDiscount c fields "discount_end_date" =
      some (.text c.endDate) := Fields.set_self
  rw [discount, Fields.get, Fields.get, price_promoted, Fields.merge_of_some ends]
  rfl

theorem name_promoted {name : String} (hfields : fields.get "name" = .text name) :
    (m.merge (PromotionsController.withDiscount c fields)).get "name" = .text name := by
  have same : PromotionsController.withDiscount c fields "name" = fields "name" :=
    (Fields.set_of_ne (by decide)).trans (Fields.set_of_ne (by decide))
  cases hname : fields "name" with
  | none => simp [Fields.get, hname] at hfields
  | some v =>
    rw [Fields.get, Fields.merge_of_some (same.trans hname)]
    simpa [Fields.get, hname] using hfields

variable (hm : (w.products uid)[id]? = some m) (hname : m.get "name" = .text c.promotionProductName)
  (hfields : fields.get "name" = .text c.promotionProductName)
  (hproducts : w'.products uid =
    (w.products uid).insert id (m.merge (PromotionsController.withDiscount c fields)))
include hm hname hfields hproducts

theorem Tidy.promoted (h : Tidy uid w) (hdocs : ((w'.promotions uid).map (·.docId)).Nodup) :
    Tidy uid w' := by
  have names : ∀ (k : String) (m' : Fields), (w'.products uid)[k]? = some m' →
      ∃ m₀, (w.products uid)[k]? = some m₀ ∧ m'.get "name" = m₀.get "name" := by
    intro k m' hm'
    rw [hproducts, Std.TreeMap.getElem?_insert] at hm'
    split at hm'
    case isTrue hk =>
      obtain rfl := Std.compare_eq_iff_eq.1 hk
      cases hm'
      exact ⟨m, hm, (name_promoted hfields).trans hname.symm⟩
    case isFalse => exact ⟨m', hm', rfl⟩
  refine ⟨fun k k' m₁ m₂ name h₁ h₂ hn₁ hn₂ => ?_, hdocs⟩
  obtain ⟨m₁', h₁', heq₁⟩ := names k m₁ h₁
  obtain ⟨m₂', h₂', heq₂⟩ := names k' m₂ h₂
  exact h.names k k' m₁' m₂' name h₁' h₂' (heq₁.symm.trans hn₁) (heq₂.symm.trans hn₂)

theorem linked_promoted (hl : linked uid w) (ht : Tidy uid w) (hdocs : w'.promotions uid = docs) :
    linked uid w' ↔ terms (latest docs (.text c.promotionProductName)) =
        (.text c.promotionNewPrice, .text c.endDate) ∧
      leavesTerms uid w docs (some c.promotionProductName) := by
  rw [linked, hdocs, hproducts]
  constructor
  · intro h
    refine ⟨?_, fun k m' hm' hother => ?_⟩
    · have promoted := h id _ (Std.TreeMap.getElem?_insert_self)
      rw [discount_promoted, name_promoted hfields] at promoted
      exact promoted.symm
    · have hne : compare id k ≠ .eq := fun heq => by
        obtain rfl := Std.compare_eq_iff_eq.1 heq
        rw [hm] at hm'
        cases hm'
        exact hother _ rfl hname
      have kept := h k m' (by rw [Std.TreeMap.getElem?_insert, if_neg hne, hm'])
      exact kept.symm.trans (hl k m' hm')
  · rintro ⟨hterms, hleft⟩ k m' hm'
    rw [Std.TreeMap.getElem?_insert] at hm'
    split at hm'
    case isTrue =>
      cases hm'
      rw [discount_promoted, name_promoted hfields, hterms]
    case isFalse hne =>
      refine (hl k m' hm').trans (hleft k m' hm' fun name hn heq => ?_).symm
      cases hn
      exact hne (Std.compare_eq_iff_eq.2 (ht.names id k m m' _ hm hm' hname heq))

end Promoted

theorem leavesTerms_written {q : PromotionDoc} {date : String} :
    leavesTerms uid w (unexpired date (docs ++ [q])) (some q.product) ↔
      leavesTerms uid w (unexpired date docs) (some q.product) := by
  refine forall_congr' fun id => forall_congr' fun m => forall_congr' fun _ =>
    forall_congr' fun hother => ?_
  rw [latest_written_other fun h => hother q.product rfl h.symm]

end Steps

section Events

variable {table : Char → List Char} {ids : IdSupply} {ok : ShopAccess → Bool} {uid : Uid}
  {w : ShopWorld} {d : Device}

def afterEvent (table : Char → List Char) (ids : IdSupply) (ok : ShopAccess → Bool)
    (e : ShopEvent) (w : ShopWorld) : ShopWorld := ((shopHandler table ids e).alone ok w).2

theorem after_leaves {e : ShopEvent} {docs : List PromotionDoc}
    {products : Std.TreeMap String Fields}
    (h : Leaves ok (shopProgram table ids e) w uid docs products) :
    (afterEvent table ids ok e w).promotions uid = docs ∧
      (afterEvent table ids ok e w).products uid = products := h.alone

theorem refused_run (K : PromotionsController → ShopProgram Unit)
    (h : PromotionsController.validationError (w.apps d).promotions ≠ none) :
    Yields ok (do
      let c ← PromotionsController.controller d
      match PromotionsController.validationError c with
      | some _ => pure ()
      | none => K c) w (.ok ()) w := by
  obtain ⟨error, herror⟩ := Option.ne_none_iff_exists'.1 h
  refine .bind (.look _) ?_
  rw [herror]
  exact .pure ()

theorem stays_create (h : PromotionsController.validationError (w.apps d).promotions ≠ none) :
    afterEvent table ids ok (.createPromotion d) w = w :=
  (refused_run _ h : Yields ok (PromotionsController.createPromotion ids d) w (.ok ()) w).task

theorem stays_update (h : PromotionsController.validationError (w.apps d).promotions ≠ none) :
    afterEvent table ids ok (.updatePromotions d) w = w :=
  (refused_run _ h : Yields ok (PromotionsController.updatePromotions d) w (.ok ()) w).task

theorem step_create (hok : ∀ l, ok l = true)
    (hsel : PromotionsController.validationError (w.apps d).promotions = none → selectsNamed d w)
    (hl : linked d.uid w) (ht : Tidy d.uid w) :
    (linked d.uid (afterEvent table ids ok (.createPromotion d) w) ↔
        keepsLink d.uid (.createPromotion d) ok w) ∧
      Tidy d.uid (afterEvent table ids ok (.createPromotion d) w) := by
  by_cases hvalid : PromotionsController.validationError (w.apps d).promotions = none
  · obtain ⟨hid, hstored, hshown⟩ := hsel hvalid
    obtain ⟨m, hm, hname⟩ := Option.map_eq_some_iff.1 hstored
    obtain ⟨selected, hmap, hfields⟩ := Option.map_eq_some_iff.1 hshown
    have leaves : Leaves ok (shopProgram table ids (.createPromotion d)) w d.uid _ _ :=
      leaves_createPromotion hok ids ht.docs hvalid hid hm hmap
    obtain ⟨hdocs, hproducts⟩ := after_leaves leaves
    refine ⟨?_, Tidy.promoted hm hname hfields hproducts ht ?_⟩
    · rw [linked_promoted hm hname hfields hproducts hl ht hdocs]
      let written := addedDoc ids d.uid (PromotionsController.promotionData (w.apps d).promotions) w
      change terms (latest (unexpired w.today (_ ++ [written])) (.text written.product)) =
        terms (some written) ∧ leavesTerms d.uid w _ (some written.product) ↔ _
      refine (and_congr terms_written leavesTerms_written).trans ?_
      exact ⟨fun h _ => h, fun h => h hvalid⟩
    · rw [hdocs]
      exact unexpired_nodup (addedDoc_nodup ht.docs ids _) _
  · rw [stays_create hvalid]
    exact ⟨⟨fun _ h => absurd h hvalid, fun _ => hl⟩, ht⟩

theorem updatedDocs_missing {docId : String} {docs : List PromotionDoc} (data : Promotion)
    (h : ¬ (docId ≠ "" ∧ ∃ q ∈ docs, q.docId = docId)) :
    updatedDocs docId data docs = docs ∧ without docId docs = docs := by
  have none : docs.find? (fun q => docId ≠ "" ∧ q.docId = docId) = none := by
    rw [List.find?_eq_none]
    intro q hq hfound
    obtain ⟨hne, hid⟩ := of_decide_eq_true (p := docId ≠ "" ∧ q.docId = docId) hfound
    exact h ⟨hne, q, hq, hid⟩
  refine ⟨by unfold updatedDocs; rw [none], ?_⟩
  rw [without]
  split
  · rfl
  · rename_i hne
    exact List.filter_eq_self.2 fun q hq => decide_eq_true fun hid => h ⟨hne, q, hq, hid⟩

theorem updatedDocs_found {docId : String} {docs : List PromotionDoc} (data : Promotion)
    (h : docId ≠ "" ∧ ∃ q ∈ docs, q.docId = docId) :
    ∃ q : PromotionDoc,
      updatedDocs docId data docs = without docId docs ++ [{ q with toPromotion := data }] := by
  obtain ⟨hne, q, hq, hid⟩ := h
  have found : (docs.find? fun q => docId ≠ "" ∧ q.docId = docId).isSome :=
    List.find?_isSome.2 ⟨q, hq, decide_eq_true ⟨hne, hid⟩⟩
  obtain ⟨q', hq'⟩ := Option.isSome_iff_exists.1 found
  exact ⟨q', by unfold updatedDocs; rw [hq']⟩

theorem step_update (hok : ∀ l, ok l = true)
    (hsel : PromotionsController.validationError (w.apps d).promotions = none → selectsNamed d w)
    (hl : linked d.uid w) (ht : Tidy d.uid w) :
    (linked d.uid (afterEvent table ids ok (.updatePromotions d) w) ↔
        keepsLink d.uid (.updatePromotions d) ok w) ∧
      Tidy d.uid (afterEvent table ids ok (.updatePromotions d) w) := by
  by_cases hvalid : PromotionsController.validationError (w.apps d).promotions = none
  · obtain ⟨hid, hstored, hshown⟩ := hsel hvalid
    obtain ⟨m, hm, hname⟩ := Option.map_eq_some_iff.1 hstored
    obtain ⟨selected, hmap, hfields⟩ := Option.map_eq_some_iff.1 hshown
    have leaves : Leaves ok (shopProgram table ids (.updatePromotions d)) w d.uid _ _ :=
      leaves_updatePromotions hok ht.docs hvalid hid hm hmap
    obtain ⟨hdocs, hproducts⟩ := after_leaves leaves
    refine ⟨?_, Tidy.promoted hm hname hfields hproducts ht ?_⟩
    · rw [linked_promoted hm hname hfields hproducts hl ht hdocs]
      have valid : keepsLink d.uid (.updatePromotions d) ok w ↔
          givesTerms d.uid w (some (w.apps d).promotions.promotionId) (w.apps d).promotions ∧
          leavesTerms d.uid w (unexpired w.today
            (without (w.apps d).promotions.promotionId (w.promotions d.uid)))
            (some (w.apps d).promotions.promotionProductName) :=
        ⟨fun h => h hvalid, fun h _ => h⟩
      rw [valid, givesTerms]
      by_cases hfind : (w.apps d).promotions.promotionId ≠ "" ∧
          ∃ q ∈ w.promotions d.uid, q.docId = (w.apps d).promotions.promotionId
      · obtain ⟨q, hq⟩ := updatedDocs_found
          (PromotionsController.promotionData (w.apps d).promotions) hfind
        rw [hq, if_pos hfind]
        let written : PromotionDoc :=
          { q with toPromotion := PromotionsController.promotionData (w.apps d).promotions }
        change terms (latest (unexpired w.today (_ ++ [written])) (.text written.product)) =
          terms (some written) ∧ _ ↔ _
        exact and_congr terms_written leavesTerms_written
      · obtain ⟨hupdated, hwithout⟩ := updatedDocs_missing
          (PromotionsController.promotionData (w.apps d).promotions) hfind
        rw [hupdated, hwithout, if_neg hfind]
    · rw [hdocs]
      exact unexpired_nodup (updatedDocs_nodup ht.docs _ _) _
  · rw [stays_update hvalid]
    exact ⟨⟨fun _ h => absurd h hvalid, fun _ => hl⟩, ht⟩

variable (table ids) in
theorem openFarm_alone (hok : ∀ l, ok l = true) (p : ℕ) {farmerId : String}
    (hfarm : farmerId ≠ "") :
    (afterEvent table ids ok (.openFarm p d farmerId) w).promotions d.uid = w.promotions d.uid ∧
      ∀ k : String, ((afterEvent table ids ok (.openFarm p d farmerId) w).products d.uid)[k]? =
        if k ∈ expiredDocs w d.uid w.today then
          ((w.products d.uid)[k]?).map (·.without discountFields)
        else (w.products d.uid)[k]? := by
  let opened : ShopWorld :=
    { w with pages := Function.update w.pages p { farmerId := farmerId } }
  have page : (opened.pages p).farmerId = farmerId := by
    simp only [opened, Function.update_self]
  have run : Yields ok (shopProgram table ids (.openFarm p d farmerId)) w (.ok ()) _ :=
    .bind (.change _) (yields_loaded (w := opened)
      ⟨page.symm ▸ hfarm, hok _, fun _ _ => hok _, hok _⟩)
  have after : afterEvent table ids ok (.openFarm p d farmerId) w = _ := run.task
  rw [after]
  refine ⟨congrFun (clearDocs_frame (w := typed ok p d opened) d.uid _).2 _, fun k => ?_⟩
  have products : ((swept ok p d opened).products d.uid)[k]? = _ := swept_products d.uid k
  simp only [true_and] at products
  exact products

theorem step_openFarm (hok : ∀ l, ok l = true) (p : ℕ) (farmerId : String)
    (hl : linked d.uid w) (ht : Tidy d.uid w) :
    (linked d.uid (afterEvent table ids ok (.openFarm p d farmerId) w) ↔
        keepsLink d.uid (.openFarm p d farmerId) ok w) ∧
      Tidy d.uid (afterEvent table ids ok (.openFarm p d farmerId) w) := by
  by_cases hfarm : farmerId = ""
  · have run : Yields ok (shopProgram table ids (.openFarm p d farmerId)) w (.ok ()) _ :=
      .bind (.change _) (yields_noFarm (by simp only [Function.update_self, hfarm]))
    have after : afterEvent table ids ok (.openFarm p d farmerId) w = _ := run.task
    rw [after]
    exact ⟨⟨fun _ h => absurd hfarm h, fun _ => hl⟩, ht.same rfl ht.docs⟩
  · obtain ⟨hdocs, hproducts⟩ := openFarm_alone table ids hok p hfarm (w := w) (d := d)
    -- a product that is swept keeps its name and loses its discount
    have swept : ∀ (k : String) (m' : Fields),
        ((afterEvent table ids ok (.openFarm p d farmerId) w).products d.uid)[k]? = some m' →
        ∃ m, (w.products d.uid)[k]? = some m ∧ m'.get "name" = m.get "name" ∧
          (isExpired w.today m = false → m' = m) := by
      intro k m' hm'
      rw [hproducts] at hm'
      split at hm'
      case isTrue hk =>
        obtain ⟨m, hm, rfl⟩ := Option.map_eq_some_iff.1 hm'
        obtain ⟨m₀, hm₀, hended⟩ := mem_expiredDocs.1 hk
        rw [hm] at hm₀
        cases hm₀
        exact ⟨m, hm, Fields.get_congr (without_same m _ (by decide)), fun h => by
          rw [hended] at h
          cases h⟩
      case isFalse => exact ⟨m', hm', rfl, fun _ => rfl⟩
    refine ⟨⟨fun h _ id m hm => ?_, fun h k m' hm' => ?_⟩, ⟨?_, by rw [hdocs]; exact ht.docs⟩⟩
    · by_contra hnot
      have hended : isExpired w.today m = true := by simpa using hnot
      have bare := h id (m.without discountFields) (by
        rw [hproducts, if_pos (mem_expiredDocs.2 ⟨m, hm, hended⟩), hm]
        rfl)
      rw [hdocs, Fields.get_congr (without_same m "name" (by decide)), ← hl id m hm] at bare
      have ends : m.get "discount_end_date" = .null := (Prod.mk.inj bare).2.symm
      rw [isExpired, ends] at hended
      cases hended
    · obtain ⟨m, hm, hname, hsame⟩ := swept k m' hm'
      rw [hsame (h hfarm k m hm), hdocs]
      exact hl k m hm
    · intro k k' m₁ m₂ name h₁ h₂ hn₁ hn₂
      obtain ⟨m₁', h₁', heq₁, -⟩ := swept k m₁ h₁
      obtain ⟨m₂', h₂', heq₂, -⟩ := swept k' m₂ h₂
      exact ht.names k k' m₁' m₂' name h₁' h₂' (heq₁.symm.trans hn₁) (heq₂.symm.trans hn₂)

theorem leaves_getInventoryProducts (hok : ∀ l, ok l = true) :
    Leaves ok (InventoryController.getInventoryProducts d) w d.uid (w.promotions d.uid)
      (w.products d.uid) := by
  have fetches := yields_fetchFarmerProducts ok w d.uid.2
  rw [if_pos (hok _)] at fetches
  cases hempty : (fetched w d.uid).isEmpty with
  | true =>
    rw [hempty] at fetches
    exact ⟨w, .tryCatch (.bind fetches (.pure ())), rfl, rfl⟩
  | false =>
    rw [hempty] at fetches
    exact ⟨w.setApp d (InventoryController.assignProducts (fetched w d.uid)),
      .tryCatch (.bind fetches (.change _)), rfl, rfl⟩

variable (table ids) in
theorem linked_step (e : ShopEvent) (hmeets : promotes uid e ok w) (hl : linked uid w)
    (ht : Tidy uid w) :
    (linked uid (afterEvent table ids ok e w) ↔ keepsLink uid e ok w) ∧
      Tidy uid (afterEvent table ids ok e w) := by
  have same (h : (afterEvent table ids ok e w).promotions uid = w.promotions uid ∧
      (afterEvent table ids ok e w).products uid = w.products uid) (hk : keepsLink uid e ok w) :
      (linked uid (afterEvent table ids ok e w) ↔ keepsLink uid e ok w) ∧
        Tidy uid (afterEvent table ids ok e w) :=
    ⟨⟨fun _ => hk, fun _ => (linked_same h.2 h.1).2 hl⟩, ht.same h.2 (by rw [h.1]; exact ht.docs)⟩
  cases e with
  | openFarm p d farmerId =>
    obtain ⟨rfl, hok⟩ := hmeets
    exact step_openFarm hok p farmerId hl ht
  | getInventoryProducts d =>
    obtain ⟨rfl, hok⟩ := hmeets
    have leaves : Leaves ok (shopProgram table ids (.getInventoryProducts d)) w d.uid _ _ :=
      leaves_getInventoryProducts hok
    exact same (after_leaves leaves) trivial
  | getPromotionsList d =>
    obtain ⟨rfl, hok⟩ := hmeets
    have leaves : Leaves ok (shopProgram table ids (.getPromotionsList d)) w d.uid _ _ :=
      leaves_getPromotionsList hok ht.docs
    obtain ⟨hdocs, hproducts⟩ := after_leaves leaves
    exact ⟨linked_left hl hproducts hdocs,
      ht.same hproducts (by rw [hdocs]; exact unexpired_nodup ht.docs _)⟩
  | createPromotion d =>
    obtain ⟨rfl, hok, hsel⟩ := hmeets
    exact step_create hok hsel hl ht
  | updatePromotions d =>
    obtain ⟨rfl, hok, hsel⟩ := hmeets
    exact step_update hok hsel hl ht
  | deletePromotion d =>
    obtain ⟨rfl, hok⟩ := hmeets
    have leaves : Leaves ok (shopProgram table ids (.deletePromotion d)) w d.uid _ _ :=
      leaves_deletePromotion hok ht.docs
    obtain ⟨hdocs, hproducts⟩ := after_leaves leaves
    exact ⟨linked_left hl hproducts hdocs, ht.same hproducts (by
      rw [hdocs]
      exact unexpired_nodup (without_nodup ht.docs _) _)⟩
  | buildItem | selectItem | newPromotion | openPromotion | fillForm | nextDay =>
    exact same ⟨rfl, rfl⟩ trivial
  | order | postProducts | updateProduct | deleteProduct => exact hmeets.elim

end Events

/-- In a run of a farmer's promotions and clean-ups, one after another, every product always has
    the discount of its latest promotion exactly if every step keeps the link. -/
theorem linked_iff (table : Char → List Char) (ids : IdSupply) {uid : Uid} {w : ShopWorld}
    (hl : linked uid w) (ht : Tidy uid w) {turns : List (ShopEvent × (ShopAccess → Bool))}
    (hmeets : EachMeets (shopHandler table ids) (promotes uid) w turns) :
    (∀ n, linked uid (runEach (shopHandler table ids) w (turns.take n))) ↔
      EachMeets (shopHandler table ids) (keepsLink uid) w turns := by
  induction turns generalizing w with
  | nil =>
    refine ⟨fun _ => trivial, fun _ n => ?_⟩
    rw [List.take_nil]
    exact hl
  | cons turn turns ih =>
    obtain ⟨e, ok⟩ := turn
    obtain ⟨hstep, htidy⟩ := linked_step table ids e hmeets.1 hl ht
    constructor
    · intro h
      have next : linked uid (afterEvent table ids ok e w) := h 1
      exact ⟨hstep.1 next, (ih next htidy hmeets.2).1 fun n => h (n + 1)⟩
    · rintro ⟨hkeeps, hrest⟩ n
      cases n with
      | zero => exact hl
      | succ n => exact (ih (hstep.2 hkeeps) htidy hmeets.2).2 hrest n

def seller : Device := ⟨⟨"farmer", farmer_ne_empty⟩, .farmer, 0⟩

def plainFigs : Fields :=
  .ofList [("id", .text "figs"), ("name", .text "Figs"), ("price", .int 8)]

def plainShop : ShopWorld where
  products := fun uid => if uid = "farmer" then .ofList [("figs", plainFigs)] else ∅

def inTurn (events : List ShopEvent) : List (ShopEvent × (ShopAccess → Bool)) :=
  events.map fun e => (e, fun _ => true)

def figSale : List (ShopEvent × (ShopAccess → Bool)) :=
  inTurn [.getInventoryProducts seller, .selectItem seller 0,
    .fillForm seller "2025-01-01" "2025-02-01" "Sale" "4", .createPromotion seller]

def singleLetters : Char → List Char := fun c => [c]

theorem linked_of_list {uid : String} {w : ShopWorld}
    (h : ∀ doc ∈ (w.products uid).toList,
      discount doc.2 = terms (latest (w.promotions uid) (doc.2.get "name"))) : linked uid w :=
  fun id m hm => h (id, m) (Std.TreeMap.mem_toList_iff_getElem?_eq_some.2 hm)

theorem Tidy.of_single {uid : String} {w : ShopWorld} {id : String}
    (h : ∀ doc ∈ (w.products uid).toList, doc.1 = id)
    (hdocs : ((w.promotions uid).map (·.docId)).Nodup) : Tidy uid w := by
  refine ⟨fun k k' m m' name hm hm' _ _ => ?_, hdocs⟩
  have first := h (k, m) (Std.TreeMap.mem_toList_iff_getElem?_eq_some.2 hm)
  have second := h (k', m') (Std.TreeMap.mem_toList_iff_getElem?_eq_some.2 hm')
  exact first.trans second.symm

def saleHandler : ShopEvent → EventLoop.Task ShopWorld ShopAccess Bool :=
  shopHandler singleLetters IdSupply.longer

theorem linked_figSale : linked seller.uid (runEach saleHandler plainShop figSale) := by
  have start : linked seller.uid plainShop := linked_of_list (by decide +kernel)
  have single : ∀ doc ∈ (plainShop.products seller.uid).toList, doc.1 = "figs" := by
    decide +kernel
  have promoted : EachMeets saleHandler (promotes seller.uid) plainShop figSale :=
    ⟨⟨rfl, fun _ => rfl⟩, rfl, rfl, ⟨rfl, fun _ => rfl, fun _ => by decide +kernel⟩, trivial⟩
  have named : ∀ doc ∈ ((runEach saleHandler plainShop (figSale.take 3)).products
      seller.uid).toList, doc.2.get "name" = .text "Figs" := by decide +kernel
  have form : ((runEach saleHandler plainShop (figSale.take 3)).apps
      seller).promotions.promotionProductName = "Figs" := by decide +kernel
  have runs : ¬ ((runEach saleHandler plainShop (figSale.take 3)).apps
      seller).promotions.endDate < (runEach saleHandler plainShop (figSale.take 3)).today := by
    decide +kernel
  have keeps : EachMeets saleHandler (keepsLink seller.uid) plainShop figSale := by
    refine ⟨trivial, trivial, trivial, fun _ => ⟨runs, fun id m hm hother => ?_⟩, trivial⟩
    have name := named (id, m) (Std.TreeMap.mem_toList_iff_getElem?_eq_some.2 hm)
    exact absurd name (form ▸ hother _ rfl)
  exact (linked_iff singleLetters IdSupply.longer start (.of_single single .nil) promoted).2 keeps 4

def saleShop : ShopWorld where
  products := fun uid => if uid = "farmer" then
    .ofList [("figs", plainFigs.merge (.ofList [("discount_price", .text "4"),
      ("discount_end_date", .text "2025-02-01")]))] else ∅
  promotions := fun uid => if uid = "farmer" then
    [⟨⟨"Figs", "Sale", "4", "2025-01-01", "2025-02-01"⟩, "sale", some "sale"⟩] else []

/-- The farmer deletes the promotion, and the figs keep their discount. -/
theorem deleted_promotion_stays : ¬ ∀ (table : Char → List Char) (ids : IdSupply) (uid : Uid)
    (w : ShopWorld) (turns : List (ShopEvent × (ShopAccess → Bool))), linked uid w → Tidy uid w →
    EachMeets (shopHandler table ids) (promotes uid) w turns →
    linked uid (runEach (shopHandler table ids) w turns) := by
  intro h
  let turns := inTurn [.getPromotionsList seller, .openPromotion seller 0,
    .deletePromotion seller]
  have start : linked seller.uid saleShop := linked_of_list (by decide +kernel)
  have single : ∀ doc ∈ (saleShop.products seller.uid).toList, doc.1 = "figs" := by
    decide +kernel
  have kept := h singleLetters IdSupply.longer seller.uid saleShop turns start
    (.of_single single (by decide +kernel)) ⟨⟨rfl, fun _ => rfl⟩, rfl, ⟨rfl, fun _ => rfl⟩, trivial⟩
  have wrong : ((runEach saleHandler saleShop turns).products seller.uid).toList.any (fun doc =>
      discount doc.2 ≠ terms (latest ((runEach saleHandler saleShop turns).promotions seller.uid)
        (doc.2.get "name"))) = true := by decide +kernel
  obtain ⟨doc, hdoc, hne⟩ := List.any_eq_true.1 wrong
  exact of_decide_eq_true hne (kept doc.1 doc.2
    (Std.TreeMap.mem_toList_iff_getElem?_eq_some.1 hdoc))

end Gherass.Shop
