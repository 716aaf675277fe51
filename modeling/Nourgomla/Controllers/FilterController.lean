import Nourgomla.Library.Machine

set_option autoImplicit false

/-! # The product filter (`controllers/filter_contoller.dart`)

Four groups of entries, of which each has at most one selected. A selection is kept twice: as a flag
on the entry, which the filter screen shows, and as a text of the controller, which the product
request sends. The roots in `filterEntries` hold the very lists of the controller, so their children
are read off those here; the entries of a list are objects of their own, as `Category.fromJson` makes
them, and are named by their position. -/

namespace Nourgomla

/-- Of `models/category.dart` what the filter reads. -/
structure Category where
  id : Option Int := none
  nameEn : Option String := none
  isSelected : Bool := false
deriving DecidableEq

/-- `entry.id != null ? entry.id.toString() : entry.nameEn` -/
def Category.filterId (entry : Category) : Option String :=
  match entry.id with
  | some id => some (toString id)
  | none => entry.nameEn

/-- `element.isSelected = false` -/
def Category.unselect (entry : Category) : Category := { entry with isSelected := false }

/-- `entry.isSelected = true` -/
def Category.select (entry : Category) : Category := { entry with isSelected := true }

/-- The roots of `filterEntries`. -/
inductive FilterGroup
  | order
  | company
  | trademark
  | type
deriving DecidableEq

namespace FilterGroup

def nameEn : FilterGroup → String
  | .order => "order"
  | .company => "company"
  | .trademark => "trademark"
  | .type => "type"

end FilterGroup

structure FilterController where
  companiesFilterList : List Category := []
  trademarksFilterList : List Category := []
  typesFilterList : List Category := []
  filterEntries : List FilterGroup := []
  orderList : List Category :=
    ["new", "old", "a-z", "z-a", "lowest_price", "highest_price"].map fun name =>
      { nameEn := some name }
  selectedOrder : Option String := some ""
  selectedCompany : Option String := some ""
  selectedTrademark : Option String := some ""
  selectedType : Option String := some ""
deriving DecidableEq

namespace FilterController

/-- `root.children` -/
def children (con : FilterController) : FilterGroup → List Category
  | .order => con.orderList
  | .company => con.companiesFilterList
  | .trademark => con.trademarksFilterList
  | .type => con.typesFilterList

/-- Write to the entries of a root. -/
def setChildren (con : FilterController) (root : FilterGroup) (entries : List Category) :
    FilterController :=
  match root with
  | .order => { con with orderList := entries }
  | .company => { con with companiesFilterList := entries }
  | .trademark => { con with trademarksFilterList := entries }
  | .type => { con with typesFilterList := entries }

/-- The text that is sent for a group. -/
def selected (con : FilterController) : FilterGroup → Option String
  | .order => con.selectedOrder
  | .company => con.selectedCompany
  | .trademark => con.selectedTrademark
  | .type => con.selectedType

def selectEntryId (con : FilterController) (rootName : String) (filterId : Option String) :
    FilterController :=
  match rootName with
  | "order" => { con with selectedOrder := filterId }
  | "company" => { con with selectedCompany := filterId }
  | "trademark" => { con with selectedTrademark := filterId }
  | "type" => { con with selectedType := filterId }
  | _ => con

/-- `children.forEach((e) { e.isSelected = false; })` -/
def unselectChildren (root : FilterGroup) (con : FilterController) : FilterController :=
  con.setChildren root ((con.children root).map Category.unselect)

/-- `selectFilter` on the entry at position `i` of the root. -/
def selectFilter (root : FilterGroup) (i : Nat) (con : FilterController) : FilterController :=
  let con := con.unselectChildren root
  match (con.children root)[i]? with
  | some entry =>
    let con := con.setChildren root ((con.children root).set i entry.select)
    con.selectEntryId root.nameEn entry.filterId
  | none => con

def initFilter (companiesList trademarksList typesList : List Category)
    (con : FilterController) : FilterController :=
  let con := if companiesList.isEmpty then con else { con with companiesFilterList := companiesList }
  let con := if trademarksList.isEmpty then con
    else { con with trademarksFilterList := trademarksList }
  let con := if typesList.isEmpty then con else { con with typesFilterList := typesList }
  { con with filterEntries := [.order, .company, .trademark, .type] }

def resetFilter (con : FilterController) : FilterController :=
  let con := { con with
    selectedOrder := some "", selectedCompany := some ""
    selectedTrademark := some "", selectedType := some "" }
  con.filterEntries.foldl (fun con root => con.unselectChildren root) con

/-- Clear the text and the flags of one group. -/
def resetGroup (root : FilterGroup) (con : FilterController) : FilterController :=
  unselectChildren root (con.selectEntryId root.nameEn (some ""))

def resetCompaniesFilter : FilterController → FilterController := resetGroup .company

def resetTradeMarksFilter : FilterController → FilterController := resetGroup .trademark

def resetTypesFilter : FilterController → FilterController := resetGroup .type

end FilterController

inductive FilterEvent
  | initFilter (companiesList trademarksList typesList : List Category)
  | selectFilter (root : FilterGroup) (i : Nat)
  | resetFilter
  | resetCompaniesFilter
  | resetTradeMarksFilter
  | resetTypesFilter

/-- A tap can only select an entry of a root that is there. -/
def FilterController.step (con : FilterController) : FilterEvent → Option FilterController
  | .initFilter companies trademarks types => some (con.initFilter companies trademarks types)
  | .selectFilter root i =>
    if root ∈ con.filterEntries ∧ i < (con.children root).length then some (con.selectFilter root i)
    else none
  | .resetFilter => some con.resetFilter
  | .resetCompaniesFilter => some con.resetCompaniesFilter
  | .resetTradeMarksFilter => some con.resetTradeMarksFilter
  | .resetTypesFilter => some con.resetTypesFilter

/-- The filter as a machine. -/
def productFilter : Machine FilterController FilterEvent where
  step := FilterController.step

end Nourgomla
