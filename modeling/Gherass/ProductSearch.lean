import Gherass.HomeFarms
import Mathlib.Data.List.Infix

set_option autoImplicit false

/-!
# What a found product is called

`searchData` of `home_controller.dart` looks for the trimmed text of the search field;
`getTranslatedSearchedName` looks for the text as it stands.
-/
namespace Gherass.Shop

variable {K : Type}

def contains (s part : String) : Bool := part.toList <:+: s.toList

/-- `toString()` -/
def Value.asText (v : Value) : String := v.toText?.getD "null"

/-- `(v ?? "").toString()` -/
def Value.orEmpty (v : Value) : String := v.toText?.getD ""

/-- The home page, as far as it searches products. -/
structure SearchController (K : Type) where
  searchField : String := ""
  productList : List (HomeProduct K) := []
  searchedProductList : List (HomeProduct K) := []

namespace SearchController

variable (table : Char → List Char) (c : SearchController K)

def query : String := toLowerCase table (trim c.searchField)

def finds (product : HomeProduct K) : Bool :=
  let productName := toLowerCase table (product.fields.get "name").orEmpty
  let productNameTranslated := toLowerCase table (product.fields.get "translatedName").orEmpty
  contains productName (c.query table) ∨ contains productNameTranslated (c.query table)

def searchData : SearchController K :=
  { c with
    searchedProductList :=
      if c.query table = "" then [] else c.productList.filter (c.finds table) }

/-- The condition of `getTranslatedSearchedName` on a field. -/
def inField (product : HomeProduct K) (field : String) : Bool :=
  contains (toLowerCase table (product.fields.get field).asText) (toLowerCase table c.searchField)

/-- `values = product[field]` -/
def asName : Value → Except DartError String
  | .text s => .ok s
  | _ => .error .type

def getTranslatedSearchedName (product : HomeProduct K) : Except DartError String :=
  if c.inField table product "translatedName" then asName (product.fields.get "translatedName")
  else if c.inField table product "name" then asName (product.fields.get "name")
  else .ok "Unnamed Product"

def LabelledByMatch (product : HomeProduct K) : Prop :=
  (∃ label, c.getTranslatedSearchedName table product = .ok label ∧
    (product.fields.get "translatedName" = .text label ∨ product.fields.get "name" = .text label) ∧
    contains (toLowerCase table label) (c.query table)) ∧
  (c.inField table product "translatedName" ∨ c.inField table product "name")

def LabelsMatch : Prop :=
  ∀ product ∈ (c.searchData table).searchedProductList, c.LabelledByMatch table product

/-- The text as it stands is in the translated name, or it is in the name and not in what is shown
of the translated name. -/
def NameHolds (product : HomeProduct K) : Prop :=
  (∃ s, product.fields.get "translatedName" = .text s ∧
    contains (toLowerCase table s) (toLowerCase table c.searchField)) ∨
  (contains (toLowerCase table (product.fields.get "translatedName").asText)
      (toLowerCase table c.searchField) = false ∧
    ∃ s, product.fields.get "name" = .text s ∧
      contains (toLowerCase table s) (toLowerCase table c.searchField))

variable {table c} {product : HomeProduct K}

theorem query_within :
    (c.query table).toList <:+: (toLowerCase table c.searchField).toList := by
  rw [query, toLowerCase, toLowerCase, String.toList_ofList, String.toList_ofList]
  exact (trim_within _).flatMap _

theorem contains_query {s : String}
    (h : contains s (toLowerCase table c.searchField)) : contains s (c.query table) := by
  have part := of_decide_eq_true (p := _ <:+: _) h
  exact decide_eq_true (query_within.trans part)

theorem asName_eq_ok {v : Value} {s : String} : asName v = .ok s ↔ v = .text s := by
  cases v with
  | text t => simp [asName]
  | null | bool | int => simp [asName]

theorem inField_text {field s : String} (h : product.fields.get field = .text s) :
    c.inField table product field =
      contains (toLowerCase table s) (toLowerCase table c.searchField) := by
  rw [inField, h]
  rfl

theorem getTranslatedSearchedName_translated
    (h : c.inField table product "translatedName" = true) :
    c.getTranslatedSearchedName table product = asName (product.fields.get "translatedName") :=
  if_pos h

theorem getTranslatedSearchedName_name (h : c.inField table product "translatedName" = false)
    (hname : c.inField table product "name" = true) :
    c.getTranslatedSearchedName table product = asName (product.fields.get "name") := by
  rw [getTranslatedSearchedName, if_neg (by simp [h]), if_pos hname]

theorem labelledByMatch_iff : c.LabelledByMatch table product ↔ c.NameHolds table product := by
  constructor
  · rintro ⟨⟨label, hlabel, -, -⟩, hfound⟩
    cases htranslated : c.inField table product "translatedName" with
    | true =>
      rw [getTranslatedSearchedName_translated htranslated, asName_eq_ok] at hlabel
      exact .inl ⟨label, hlabel, inField_text hlabel ▸ htranslated⟩
    | false =>
      have hname := hfound.resolve_left (by simp [htranslated])
      rw [getTranslatedSearchedName_name htranslated hname, asName_eq_ok] at hlabel
      exact .inr ⟨htranslated, label, hlabel, inField_text hlabel ▸ hname⟩
  · rintro (⟨s, hs, hin⟩ | ⟨htranslated, s, hs, hin⟩)
    · have found : c.inField table product "translatedName" = true := inField_text hs ▸ hin
      refine ⟨⟨s, ?_, .inl hs, contains_query hin⟩, .inl found⟩
      rw [getTranslatedSearchedName_translated found, asName_eq_ok]
      exact hs
    · have found : c.inField table product "name" = true := inField_text hs ▸ hin
      refine ⟨⟨s, ?_, .inr hs, contains_query hin⟩, .inr found⟩
      rw [getTranslatedSearchedName_name htranslated found, asName_eq_ok]
      exact hs

theorem mem_searchedProductList :
    product ∈ (c.searchData table).searchedProductList ↔
      product ∈ c.productList ∧ c.query table ≠ "" ∧ c.finds table product := by
  unfold searchData
  dsimp only
  split
  case isTrue h => simp [h]
  case isFalse h => simp [h]

end SearchController

open SearchController

/-- For every list of products and every text: all labels are right exactly if each product that
is found has the text in a name that is looked at, blanks included. -/
theorem labels_match_iff (table : Char → List Char) (c : SearchController K) :
    c.LabelsMatch table ↔ ∀ product ∈ c.productList, c.query table ≠ "" →
      c.finds table product → c.NameHolds table product := by
  constructor
  · intro h product hmem hquery hfinds
    exact labelledByMatch_iff.1 (h product (mem_searchedProductList.2 ⟨hmem, hquery, hfinds⟩))
  · intro h product hmem
    obtain ⟨hlisted, hquery, hfinds⟩ := mem_searchedProductList.1 hmem
    exact labelledByMatch_iff.2 (h product hlisted hquery hfinds)

def tomatoes : HomeProduct ℤ where
  fields := .ofList [("name", .text "Tomato"), ("translatedName", .text "Tomatoes")]
  farmDetails := none

/-- The blank after the word is trimmed for the search and not for the label. -/
theorem blank_loses_label : ¬ ∀ (table : Char → List Char) (c : SearchController ℤ),
    c.LabelsMatch table := by
  intro h
  let c : SearchController ℤ := { searchField := "tomato ", productList := [tomatoes] }
  have listed : tomatoes ∈ (c.searchData fun x => [x]).searchedProductList :=
    mem_searchedProductList.2 ⟨List.mem_singleton_self _, by decide +kernel, by decide +kernel⟩
  have found := (h (fun x => [x]) c tomatoes listed).2
  exact absurd found (by decide +kernel)

end Gherass.Shop
