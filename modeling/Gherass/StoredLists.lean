import Gherass.DiscountLinks
import Gherass.ExpiredEvents
import Gherass.FarmPage
import Gherass.HomeAddress
import Gherass.ListReloads

set_option autoImplicit false

/-!
# What the owners' pages show after a reload

Five controllers load a list from a collection. An empty collection is answered with null, as a
failed query is, and null leaves the list as it was.
-/

namespace Gherass

open EventLoop EventLoop.Async FirebaseHelper ListReloads

theorem exists_stored_iff {α : Type} (docs : Std.TreeMap String α) :
    (∃ (id : String) (m : α), docs[id]? = some m) ↔ docs.toList ≠ [] := by
  constructor
  · rintro ⟨id, m, hm⟩ hnone
    have listed := Std.TreeMap.mem_toList_iff_getElem?_eq_some.2 hm
    rw [hnone] at listed
    cases listed
  · intro h
    obtain ⟨doc, hdoc⟩ := List.exists_mem_of_ne_nil _ h
    exact ⟨doc.1, doc.2, Std.TreeMap.mem_toList_iff_getElem?_eq_some.1 hdoc⟩

section Events

variable {d : Device} {w : EventWorld} {uid : Uid}

theorem deleteDocs_eventPages (uid : Uid) (ids : List String) (w : EventWorld) :
    (deleteDocs uid ids w).eventPages = w.eventPages := by
  induction ids generalizing w with
  | nil => rfl
  | cons id ids ih =>
    refine (ih (deleteEventDoc uid id w)).trans ?_
    unfold deleteEventDoc
    split
    · rfl
    · rfl

def sweptEvents (d : Device) (w : EventWorld) : EventWorld :=
  deleteDocs d.uid (expiredDocs d.uid (formatDateTime w.now) w) w

def showEvents (d : Device) (w : EventWorld) : EventWorld :=
  if farmEvents d.uid w = [] then w
  else w.setEventPage d fun c => { c with farmerEvents := farmEvents d.uid w }

theorem afterList_getEventList (d : Device) (w : EventWorld) :
    afterList (EventController.getEventList d) w = showEvents d (sweptEvents d w) := by
  have sweep := yields_removeExpiredDoc (w := w) d.uid (formatDateTime w.now)
  have fetched := yields_fetchFarmerEvents (sweptEvents d w) d.uid
  rw [afterList, showEvents]
  split
  case isTrue hempty =>
    rw [if_pos hempty] at fetched
    have run : Yields _ (EventController.getEventList d) w (.ok ()) (sweptEvents d w) :=
      .tryCatch (.bind (.look _) (sweep.bind (fetched.bind (.pure ()))))
    exact run.task
  case isFalse hfound =>
    rw [if_neg hfound] at fetched
    have run : Yields _ (EventController.getEventList d) w (.ok ()) _ :=
      .tryCatch (.bind (.look _) (sweep.bind (fetched.bind (.change _))))
    exact run.task

theorem showEvents_stored (d : Device) (w : EventWorld) :
    farmEvents d.uid (showEvents d w) = farmEvents d.uid w := by
  unfold showEvents
  split
  · rfl
  · rfl

theorem farmEvents_ne_nil_iff :
    farmEvents uid w ≠ [] ↔
      ∃ (id : String) (e : FarmEvent), w.events[id]? = some e ∧ e.farmerId = uid := by
  rw [farmEvents, Ne, List.map_eq_nil_iff, List.filter_eq_nil_iff]
  push Not
  simp only [Prod.exists, Std.TreeMap.mem_toList_iff_getElem?_eq_some, decide_eq_true_eq]

def hasEvent (d : Device) (w : EventWorld) : Prop :=
  ∃ (id : String) (e : FarmEvent), w.events[id]? = some e ∧ e.farmerId = d.uid ∧
    ¬ e.startDate < formatDateTime w.now

theorem hasEvent_iff : hasEvent d w ↔ farmEvents d.uid (sweptEvents d w) ≠ [] := by
  rw [farmEvents_ne_nil_iff]
  constructor
  · rintro ⟨id, e, he, howner, hrunning⟩
    refine ⟨id, e, ?_, howner⟩
    rw [sweptEvents, deleteDocs_stored he, if_neg fun h => hrunning ((mem_expiredDocs he).1 h.1).2]
  · rintro ⟨id, e, he, howner⟩
    cases hbefore : w.events[id]? with
    | none =>
      rw [sweptEvents, deleteDocs_none hbefore] at he
      cases he
    | some e' =>
      rw [sweptEvents, deleteDocs_stored hbefore] at he
      split at he
      case isTrue => cases he
      case isFalse hkept =>
        obtain rfl := Option.some_inj.1 he
        exact ⟨id, e', hbefore, howner, fun hended =>
          hkept ⟨(mem_expiredDocs hbefore).2 ⟨howner, hended⟩, howner⟩⟩

def eventReload (d : Device) : Reload EventWorld EventData (List EventData) where
  run := afterList (EventController.getEventList d)
  stored := farmEvents d.uid
  shown w := (w.eventPages d).farmerEvents
  view _ docs := docs
  blank := []
  left := hasEvent d
  view_nil _ := rfl
  left_iff w := by
    rw [hasEvent_iff, afterList_getEventList, showEvents_stored]
  fills w h := by
    rw [afterList_getEventList, showEvents_stored, showEvents, if_neg (hasEvent_iff.1 h)]
    simp only [EventWorld.setEventPage, Function.update_self]
  keeps w h := by
    have none : farmEvents d.uid (sweptEvents d w) = [] := not_not.1 (mt hasEvent_iff.2 h)
    rw [afterList_getEventList, showEvents, if_pos none, sweptEvents, deleteDocs_eventPages]

def eventTurn (ids : IdSupply) (e : TicketEvent) (w : EventWorld) : EventWorld :=
  ((ticketHandler ids e).alone (fun _ => true) w).2

end Events

end Gherass

namespace Gherass.Shop

open EventLoop EventLoop.Async Gherass.Shop.FirebaseHelper ListReloads

section Promotions

variable {d : Device} {w : ShopWorld}

theorem deleteDocs_apps (uid : Uid) (ids : List String) (w : ShopWorld) :
    (deleteDocs uid ids w).apps = w.apps := by
  induction ids generalizing w with
  | nil => rfl
  | cons id ids ih => exact ih (deletePromotionDoc uid id w)

def sweptPromotions (d : Device) (w : ShopWorld) : ShopWorld :=
  deleteDocs d.uid (endedIds d.uid w) w

def afterPromotionsList (d : Device) (w : ShopWorld) : ShopWorld :=
  ((PromotionsController.getPromotionsList d).task.alone (fun _ => true) w).2

theorem afterPromotionsList_eq (d : Device) (w : ShopWorld) :
    afterPromotionsList d w = showPromotions d (sweptPromotions d w) :=
  (yields_getPromotionsList d w fun _ => rfl).task

def hasPromotion (d : Device) (w : ShopWorld) : Prop :=
  ∃ q ∈ w.promotions d.uid, q.docId ∉ endedIds d.uid w

theorem hasPromotion_iff : hasPromotion d w ↔ (sweptPromotions d w).promotions d.uid ≠ [] := by
  rw [sweptPromotions, (deleteDocs_stored d.uid _ w).1, Ne, List.filter_eq_nil_iff]
  push Not
  simp only [decide_eq_true_eq]
  rfl

def promotionReload (d : Device) : Reload ShopWorld PromotionDoc (List PromotionDoc) where
  run := afterPromotionsList d
  stored w := w.promotions d.uid
  shown w := (w.apps d).promotions.promotionsList
  view _ docs := docs
  blank := []
  left := hasPromotion d
  view_nil _ := rfl
  left_iff w := by
    rw [hasPromotion_iff, afterPromotionsList_eq, (showPromotions_stored d _).1]
  fills w h := by
    have found := hasPromotion_iff.1 h
    rw [afterPromotionsList_eq, (showPromotions_stored d _).1, showPromotions,
      if_neg (by rwa [List.isEmpty_iff])]
    simp only [ShopWorld.setPromotions, ShopWorld.setApp, Function.update_self]
  keeps w h := by
    have none : (sweptPromotions d w).promotions d.uid = [] := not_not.1 (mt hasPromotion_iff.2 h)
    rw [afterPromotionsList_eq, showPromotions, if_pos (List.isEmpty_iff.2 none), sweptPromotions,
      deleteDocs_apps]

end Promotions

section Products

variable {d : Device} {w : ShopWorld} {farmerId : String}

def hasProduct (farmerId : String) (w : ShopWorld) : Prop :=
  ∃ (id : String) (m : Fields), (w.products farmerId)[id]? = some m

theorem hasProduct_iff : hasProduct farmerId w ↔ fetched w farmerId ≠ [] := by
  rw [fetched, Ne, List.map_eq_nil_iff]
  exact exists_stored_iff _

theorem filterMap_range {α : Type} (l : List α) :
    (List.range l.length).filterMap (fun i => l[i]?) = l := by
  induction l with
  | nil => rfl
  | cons x l ih =>
    rw [List.length_cons, List.range_succ_eq_map, List.filterMap_cons, List.filterMap_map]
    exact congrArg (x :: ·) ih

def shownProducts (a : FarmerApp) : List Fields :=
  a.farmerProducts.filterMap fun ref => a.maps[ref]?.map (·.fields)

theorem shownProducts_assignProducts (response : List Fields) (a : FarmerApp) :
    shownProducts (InventoryController.assignProducts response a) = response := by
  have each (i : ℕ) : ((a.maps ++ response.map fun m => (⟨m, m⟩ : ProductMap))[a.maps.length + i]?).map
      (·.fields) = response[i]? := by
    rw [List.getElem?_append_right (Nat.le_add_right _ _), Nat.add_sub_cancel_left,
      List.getElem?_map, Option.map_map]
    exact Option.map_id'
  rw [shownProducts, InventoryController.assignProducts, List.filterMap_map]
  refine Eq.trans (congrArg (fun f => List.filterMap f (List.range response.length)) ?_)
    (filterMap_range response)
  exact funext each

/-- `deleteProduct` of the inventory: the product goes from the collection and from the list. -/
def InventoryController.deleteProduct (d : Device) (productId : String) : ShopProgram Unit := do
  try
    FirebaseHelper.deleteFarmProduct d.uid productId
    change fun w => w.setApp d fun a =>
      { a with
        farmerProducts := a.farmerProducts.filter fun ref =>
          (a.maps[ref]?.map (·.fields.get "id")) ≠ some (.text productId) }
  catch _ => pure ()

def afterInventory (d : Device) (w : ShopWorld) : ShopWorld :=
  ((InventoryController.getInventoryProducts d).task.alone (fun _ => true) w).2

def showInventory (d : Device) (w : ShopWorld) : ShopWorld :=
  if (fetched w d.uid).isEmpty then w
  else w.setApp d (InventoryController.assignProducts (fetched w d.uid))

theorem afterInventory_eq (d : Device) (w : ShopWorld) : afterInventory d w = showInventory d w := by
  have fetches := yields_fetchFarmerProducts (fun _ => true) w d.uid.2
  rw [if_pos rfl] at fetches
  rw [afterInventory, showInventory]
  split
  case isTrue hempty =>
    rw [if_pos hempty] at fetches
    have run : Yields _ (InventoryController.getInventoryProducts d) w (.ok ()) w :=
      .tryCatch (fetches.bind (.pure ()))
    exact run.task
  case isFalse hfound =>
    rw [if_neg hfound] at fetches
    have run : Yields _ (InventoryController.getInventoryProducts d) w (.ok ()) _ :=
      .tryCatch (fetches.bind (.change _))
    exact run.task

theorem showInventory_products (d : Device) (w : ShopWorld) :
    (showInventory d w).products = w.products := by
  unfold showInventory
  split
  · rfl
  · rfl

def inventoryReload (d : Device) : Reload ShopWorld Fields (List Fields) where
  run := afterInventory d
  stored w := fetched w d.uid
  shown w := shownProducts (w.apps d)
  view _ docs := docs
  blank := []
  left := hasProduct d.uid
  view_nil _ := rfl
  left_iff w := by
    rw [hasProduct_iff, afterInventory_eq, fetched, fetched, showInventory_products]
  fills w h := by
    have same : fetched (showInventory d w) d.uid = fetched w d.uid := by
      rw [fetched, fetched, showInventory_products]
    rw [afterInventory_eq, same, showInventory, if_neg (by rwa [List.isEmpty_iff, ← Ne,
      ← hasProduct_iff])]
    simp only [ShopWorld.setApp, Function.update_self]
    exact shownProducts_assignProducts _ _
  keeps w h := by
    have none : fetched w d.uid = [] := not_not.1 (mt hasProduct_iff.2 h)
    rw [afterInventory_eq, showInventory, if_pos (List.isEmpty_iff.2 none)]

structure PageLists where
  fruits : List Fields := []
  vegetables : List Fields := []
  others : List Fields := []
  farmerProducts : List Fields := []

def ProductController.lists (c : ProductController) : PageLists :=
  ⟨c.fruits, c.vegetables, c.others, c.farmerProducts⟩

def pageProducts (p : ℕ) (w : ShopWorld) : List Fields :=
  if (w.pages p).farmerId = "" then [] else fetched w (w.pages p).farmerId

variable (table : Char → List Char) (p : ℕ)

def hasPageProduct (w : ShopWorld) : Prop :=
  (w.pages p).farmerId ≠ "" ∧ hasProduct (w.pages p).farmerId w

variable {table p}

theorem loadsProducts_all (hfarm : (w.pages p).farmerId ≠ "") :
    loadsProducts (fun _ => true) p d w := ⟨hfarm, rfl, fun _ _ => rfl, rfl⟩

theorem afterFetch_products (hfarm : (w.pages p).farmerId ≠ "") :
    (afterFetch table (fun _ => true) p d w).products = (swept (fun _ => true) p d w).products := by
  rw [afterFetch, (yields_loaded (loadsProducts_all hfarm)).task]
  rfl

theorem hasProduct_swept : hasProduct farmerId (swept (fun _ => true) p d w) ↔
    hasProduct farmerId w := by
  refine exists_congr fun id => ?_
  rw [swept_products]
  split
  · cases (w.products farmerId)[id]? with
    | none => simp
    | some m => simp
  · rfl

theorem showProducts_farmerId (docs : List Fields) (c : ProductController) :
    (showProducts table docs c).farmerId = c.farmerId := by
  unfold showProducts
  split
  · rfl
  · rfl

theorem afterFetch_farmerId (hfarm : (w.pages p).farmerId ≠ "") :
    ((afterFetch table (fun _ => true) p d w).pages p).farmerId = (w.pages p).farmerId := by
  rw [shown_loaded (loadsProducts_all hfarm), showProducts_farmerId]

theorem pageProducts_afterFetch (hfarm : (w.pages p).farmerId ≠ "") :
    pageProducts p (afterFetch table (fun _ => true) p d w) =
      fetched (swept (fun _ => true) p d w) (w.pages p).farmerId := by
  rw [pageProducts, afterFetch_farmerId hfarm, if_neg hfarm, fetched, fetched,
    afterFetch_products hfarm]

theorem afterFetch_noFarm (hfarm : (w.pages p).farmerId = "") :
    afterFetch table (fun _ => true) p d w = w := (yields_noFarm hfarm).task

/-- The page keeps of its farm's products those that its account type may see. -/
def pageReload (table : Char → List Char) (p : ℕ) (d : Device) :
    Reload ShopWorld Fields PageLists where
  run := afterFetch table (fun _ => true) p d
  stored := pageProducts p
  shown w := (w.pages p).lists
  view w docs := (ProductController.assignProducts table docs (w.pages p)).lists
  blank := {}
  left := hasPageProduct p
  view_nil _ := rfl
  left_iff w := by
    by_cases hfarm : (w.pages p).farmerId = ""
    · rw [afterFetch_noFarm hfarm, pageProducts, if_pos hfarm]
      exact iff_of_false (fun h => h.1 hfarm) (fun h => h rfl)
    · rw [pageProducts_afterFetch hfarm, ← hasProduct_iff, hasProduct_swept]
      exact and_iff_right hfarm
  fills w h := by
    have found : fetched (swept (fun _ => true) p d w) (w.pages p).farmerId ≠ [] :=
      hasProduct_iff.1 (hasProduct_swept.2 h.2)
    rw [pageProducts_afterFetch h.1, shown_loaded (loadsProducts_all h.1), showProducts,
      if_neg (by rwa [List.isEmpty_iff])]
    rfl
  keeps w h := by
    by_cases hfarm : (w.pages p).farmerId = ""
    · rw [afterFetch_noFarm hfarm]
    · have none : fetched (swept (fun _ => true) p d w) (w.pages p).farmerId = [] := by
        by_contra hfound
        exact h ⟨hfarm, hasProduct_swept.1 (hasProduct_iff.2 hfound)⟩
      rw [shown_loaded (loadsProducts_all hfarm), showProducts, if_pos (List.isEmpty_iff.2 none)]
      rfl

end Products

/-- What happens in the shop, with the inventory's own way to delete a product. -/
inductive OwnerEvent where
  | shop (e : ShopEvent)
  | deleteProduct (d : Device) (productId : String)

def ownerProgram (table : Char → List Char) (ids : IdSupply) : OwnerEvent → ShopProgram Unit
  | .shop e => shopProgram table ids e
  | .deleteProduct d productId => InventoryController.deleteProduct d productId

def ownerTurn (table : Char → List Char) (ids : IdSupply) (e : OwnerEvent) (w : ShopWorld) :
    ShopWorld :=
  ((ownerProgram table ids e).task.alone (fun _ => true) w).2

end Gherass.Shop

namespace Gherass.Profiles

open EventLoop EventLoop.Async Gherass.Account ListReloads

section Addresses

variable {d : Device} {w : ProfileWorld}

def customerAddresses (uid : Uid) (w : ProfileWorld) : List AddressMap :=
  (w.addressList uid).toList.map (·.2)

def afterAddressList (d : Device) (w : ProfileWorld) : ProfileWorld :=
  ((DeliveryAddressController.getAddressList d).task.alone (fun _ => true) w).2

def showAddresses (d : Device) (w : ProfileWorld) : ProfileWorld :=
  if (customerAddresses d.uid w).isEmpty then w
  else w.setAddressPage d fun c => { c with addressList := customerAddresses d.uid w }

theorem afterAddressList_eq (d : Device) (w : ProfileWorld) :
    afterAddressList d w = showAddresses d w := by
  have asked : Yields (fun _ => true) (call .readAddresses
      (fun w => (w, .ok (customerAddresses d.uid w))) (.dart .firestore) :
        ProfileProgram (List AddressMap)) w (.ok (customerAddresses d.uid w)) w :=
    .call_answer rfl rfl
  have fetched : Yields (fun _ => true) (FirebaseHelper.fetchAddressList d.uid) w
      (.ok (if (customerAddresses d.uid w).isEmpty then none
        else some (customerAddresses d.uid w))) w := by
    refine .tryCatch (asked.bind ?_)
    split
    · exact .pure none
    · exact .pure _
  rw [afterAddressList, showAddresses]
  cases hempty : (customerAddresses d.uid w).isEmpty with
  | true =>
    rw [hempty] at fetched
    have run : Yields _ (DeliveryAddressController.getAddressList d) w (.ok ()) w :=
      .tryCatch (fetched.bind (.pure ()))
    exact run.task
  | false =>
    rw [hempty] at fetched
    have run : Yields _ (DeliveryAddressController.getAddressList d) w (.ok ()) _ :=
      .tryCatch (fetched.bind (.change _))
    exact run.task

theorem showAddresses_stored (d : Device) (w : ProfileWorld) :
    customerAddresses d.uid (showAddresses d w) = customerAddresses d.uid w := by
  unfold showAddresses
  split
  · rfl
  · rfl

def hasAddress (d : Device) (w : ProfileWorld) : Prop :=
  ∃ (id : String) (m : AddressMap), (w.addressList d.uid)[id]? = some m

theorem hasAddress_iff : hasAddress d w ↔ customerAddresses d.uid w ≠ [] := by
  rw [customerAddresses, Ne, List.map_eq_nil_iff]
  exact exists_stored_iff _

def addressReload (d : Device) : Reload ProfileWorld AddressMap (List AddressMap) where
  run := afterAddressList d
  stored := customerAddresses d.uid
  shown w := (w.addressPages d).addressList
  view _ docs := docs
  blank := []
  left := hasAddress d
  view_nil _ := rfl
  left_iff w := by
    rw [hasAddress_iff, afterAddressList_eq, showAddresses_stored]
  fills w h := by
    rw [afterAddressList_eq, showAddresses_stored, showAddresses,
      if_neg (by rwa [List.isEmpty_iff, ← Ne, ← hasAddress_iff])]
    simp only [ProfileWorld.setAddressPage, Function.update_self]
  keeps w h := by
    have none : customerAddresses d.uid w = [] := not_not.1 (mt hasAddress_iff.2 h)
    rw [afterAddressList_eq, showAddresses, if_pos (List.isEmpty_iff.2 none)]

end Addresses

end Gherass.Profiles

namespace Gherass

open ListReloads

/-- In every run, from whatever was stored and on show before, the reloads show what is stored
exactly if each finds a document or starts from an empty list. -/
theorem reloads_show_stored_iff (ids : IdSupply) (table : Char → List Char) (d : Device) (p : ℕ) :
    (∀ (w : EventWorld) (turns : List (Turn TicketEvent)),
      (eventReload d).EveryReload (eventTurn ids) (eventReload d).ShowsStored w turns ↔
        (eventReload d).EveryReload (eventTurn ids) (eventReload d).Fresh w turns) ∧
    (∀ (w : Shop.ShopWorld) (turns : List (Turn Shop.OwnerEvent)),
      ((Shop.promotionReload d).EveryReload (Shop.ownerTurn table ids)
          (Shop.promotionReload d).ShowsStored w turns ↔
        (Shop.promotionReload d).EveryReload (Shop.ownerTurn table ids)
          (Shop.promotionReload d).Fresh w turns) ∧
      ((Shop.inventoryReload d).EveryReload (Shop.ownerTurn table ids)
          (Shop.inventoryReload d).ShowsStored w turns ↔
        (Shop.inventoryReload d).EveryReload (Shop.ownerTurn table ids)
          (Shop.inventoryReload d).Fresh w turns) ∧
      ((Shop.pageReload table p d).EveryReload (Shop.ownerTurn table ids)
          (Shop.pageReload table p d).ShowsStored w turns ↔
        (Shop.pageReload table p d).EveryReload (Shop.ownerTurn table ids)
          (Shop.pageReload table p d).Fresh w turns)) ∧
    ∀ (w : Profiles.ProfileWorld) (turns : List (Turn Profiles.AddressTurn)),
      (Profiles.addressReload d).EveryReload (Profiles.afterTurn ids)
          (Profiles.addressReload d).ShowsStored w turns ↔
        (Profiles.addressReload d).EveryReload (Profiles.afterTurn ids)
          (Profiles.addressReload d).Fresh w turns :=
  ⟨fun w turns => (eventReload d).everyReload_iff _ turns w,
    fun w turns => ⟨(Shop.promotionReload d).everyReload_iff _ turns w,
      (Shop.inventoryReload d).everyReload_iff _ turns w,
      (Shop.pageReload table p d).everyReload_iff _ turns w⟩,
    fun w turns => (Profiles.addressReload d).everyReload_iff _ turns w⟩

def guide : Device := ⟨⟨"guide", by decide⟩, .farmer, 0⟩

def onlyTour : List (Turn TicketEvent) :=
  [.own (.typeText guide .name "Tour"), .own (.typeText guide .date "01 Jan 9:00 AM"),
    .own (.typeText guide .number "20"), .own (.typeText guide .description "Palms"),
    .own (.pickLocation guide 24 39 (some "Grove road")), .own (.postEvents guide),
    .own (.clock ⟨2025, 1, 2, 8, 0⟩), .reload]

/-- The clean-up deletes the event, and the list still shows it. -/
theorem expired_tour_shown : ¬ ∀ (ids : IdSupply) (d : Device) (w : EventWorld)
    (turns : List (Turn TicketEvent)),
    (eventReload d).EveryReload (eventTurn ids) (eventReload d).ShowsStored w turns := by
  intro h
  obtain ⟨shows, -⟩ := h IdSupply.longer guide {} onlyTour
  exact absurd (congrArg List.length shows) (by decide +kernel)

end Gherass
