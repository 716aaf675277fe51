import Nourgomla.Controllers.SearchController
import Nourgomla.Controllers.VendorController
import Nourgomla.Library.Pages

set_option autoImplicit false

/-! # Search results belong to one query

What is shown should be consecutive pages of the last search. Both controllers add whatever page is
answered: to a search that was replaced by another one, to an index that another answer has moved, and
to a further page that was asked for with another text (products) or with none (vendors). If every
page that is added is current in these three respects, the list belongs to one query. -/

namespace Nourgomla

open LoadedPage

variable {α : Type} {fromJson : Json → Except DartError α}

/-- A query and the pages of the list with what they were asked for. -/
structure ShownPages (κ α : Type) where
  submitted : κ
  shown : List (LoadedPage κ α) := []
deriving DecidableEq

/-- The list consists of consecutive pages of the last query. -/
def ShowsOneQuery {κ : Type} (list : List α) (pages : ShownPages κ α) : Prop :=
  list = listed pages.shown ∧ Consecutive itemsPerPage pages.submitted pages.shown

instance {κ : Type} [DecidableEq κ] [DecidableEq α] (list : List α) (pages : ShownPages κ α) :
    Decidable (ShowsOneQuery list pages) := inferInstanceAs (Decidable (_ ∧ _))

theorem ShowsOneQuery.add {κ : Type} {list : List α} {pages : ShownPages κ α} {page : LoadedPage κ α}
    (h : ShowsOneQuery list pages) (hkey : page.key = pages.submitted)
    (hindex : page.startIndex = itemsPerPage * pages.shown.length) :
    ShowsOneQuery (list ++ page.items) { pages with shown := pages.shown ++ [page] } :=
  ⟨by rw [h.1, listed_append], consecutive_append.2 ⟨h.2, hkey, hindex⟩⟩

/-! ## Products -/

/-- What is searched for. -/
structure ProductQuery where
  name : String := ""
  barcode : String := ""
deriving DecidableEq

def SearchBody.query (body : SearchBody) : ProductQuery :=
  { name := body.name, barcode := body.barcode }

/-- The page of a body. -/
def SearchBody.page (body : SearchBody) (items : List α) : LoadedPage ProductQuery α :=
  { key := body.query, startIndex := body.startIndex, items := items }

/-- What a search submits, and the pages since then. -/
def noteSearch (fromJson : Json → Except DartError α) (s : SearchState α) :
    SearchEvent → ShownPages ProductQuery α → ShownPages ProductQuery α
  | .search, _ | .sortBy _, _ => { submitted := { name := s.con.text } }
  | .scanned (some barCode), _ => { submitted := { barcode := barCode } }
  | .answer k response, pages =>
    match s.waiting[k]?, (SearchProductsService.searchProducts fromJson response).products with
    | some (_, body), some products => { pages with shown := pages.shown ++ [body.page products] }
    | _, _ => pages
  | _, pages => pages

/-- An answer that brings products is current: its request has the name and the barcode of the last
    search, and the index is still the one it asked for. -/
@[reducible] def CurrentProducts (fromJson : Json → Except DartError α)
    (sh : SearchState α × ShownPages ProductQuery α) : SearchEvent → Prop
  | .answer k response => ∀ w ∈ sh.1.waiting[k]?,
    (SearchProductsService.searchProducts fromJson response).products.isSome →
      w.2.query = sh.2.submitted ∧ w.2.startIndex = sh.1.con.startIndex
  | _ => True

/-- The list belongs to the last search, and the index is past its pages. -/
structure SearchInv (sh : SearchState α × ShownPages ProductQuery α) : Prop where
  shows : ShowsOneQuery sh.1.con.searchList sh.2
  index : sh.1.con.startIndex = itemsPerPage * sh.2.shown.length

/-- After a search nothing is shown. -/
theorem searchInv_submit (s : SearchState α) (barCode : Option String) (query : ProductQuery) :
    SearchInv (s.submit barCode, { submitted := query }) where
  shows := ⟨(SearchState.submit_fields s barCode).1, consecutive_nil⟩
  index := (SearchState.submit_fields s barCode).2

/-- An answer keeps the invariant exactly if it is current. -/
theorem searchInv_answer {s s' : SearchState α} {pages : ShownPages ProductQuery α} {k : Nat}
    {response : Except DartError Json} (h : SearchInv (s, pages))
    (hstep : (productSearch fromJson).step s (.answer k response) = some s') :
    SearchInv (s', noteSearch fromJson s (.answer k response) pages) ↔
      CurrentProducts fromJson (s, pages) (.answer k response) := by
  obtain ⟨⟨method, body⟩, hk, rfl⟩ := Option.map_eq_some_iff.1 hstep
  cases hproducts : (SearchProductsService.searchProducts fromJson response).products with
  | none =>
      simp only [noteSearch, hk, hproducts, CurrentProducts,
        SearchState.assign_of_no_products hproducts]
      exact iff_of_true ⟨h.shows, h.index⟩ fun w _ hsome => by cases hsome
  | some products =>
      obtain ⟨hlist, hindex⟩ := SearchState.assign_of_products hproducts s method
      simp only [noteSearch, hk, hproducts, CurrentProducts]
      constructor
      · rintro ⟨⟨-, hpages⟩, -⟩ w hw -
        obtain rfl := Option.mem_some_iff.1 hw
        obtain ⟨-, hquery, hat⟩ := consecutive_append.1 hpages
        exact ⟨hquery, hat.trans h.index.symm⟩
      · intro hcurrent
        obtain ⟨hquery, hat⟩ := hcurrent _ rfl rfl
        constructor
        · have hshown : ShowsOneQuery (s.con.searchList ++ (body.page products).items)
              { pages with shown := pages.shown ++ [body.page products] } :=
            h.shows.add hquery (hat.trans h.index)
          show ShowsOneQuery (s.assign method _).searchList _
          rw [hlist]
          exact hshown
        · show (s.assign method _).startIndex = _
          have hold : s.con.startIndex = itemsPerPage * pages.shown.length := h.index
          rw [hindex, hold, index_append]

theorem searchInv_step {sh sh' : SearchState α × ShownPages ProductQuery α} {e : SearchEvent}
    (h : SearchInv sh)
    (hstep : ((productSearch fromJson).track (noteSearch fromJson)).step sh e = some sh') :
    SearchInv sh' ↔ CurrentProducts fromJson sh e := by
  obtain ⟨s, pages⟩ := sh
  obtain ⟨s', pages'⟩ := sh'
  obtain ⟨hnext, hnote⟩ := Machine.track_step.1 hstep
  obtain rfl : pages' = noteSearch fromJson s e pages := hnote
  cases e with
  | answer k response => exact searchInv_answer h hnext
  | editText text =>
      obtain rfl := (Option.some.inj hnext).symm
      exact iff_of_true ⟨h.shows, h.index⟩ trivial
  | changeContext context =>
      obtain rfl := (Option.some.inj hnext).symm
      exact iff_of_true ⟨h.shows, h.index⟩ trivial
  | search =>
      obtain ⟨-, hnext⟩ := Option.ite_none_right_eq_some.1 hnext
      obtain rfl := (Option.some.inj hnext).symm
      exact iff_of_true (searchInv_submit s none _) trivial
  | sortBy sortBy =>
      obtain rfl := (Option.some.inj hnext).symm
      exact iff_of_true (searchInv_submit _ none _) trivial
  | scanned barcodeScanRes =>
      obtain rfl := (Option.some.inj hnext).symm
      cases barcodeScanRes with
      | none => exact iff_of_true h trivial
      | some barCode => exact iff_of_true (searchInv_submit _ (some barCode) _) trivial
  | scrolledToEnd =>
      obtain rfl := (Option.some.inj hnext).symm
      obtain ⟨hlist, hindex⟩ := SearchState.start_getMoreProducts s
      refine iff_of_true ⟨?_, ?_⟩ trivial
      · show ShowsOneQuery (s.start .more _).con.searchList pages
        rw [hlist]
        exact h.shows
      · show (s.start .more _).con.startIndex = _
        rw [hindex]
        exact h.index

/-! ### What the user has to keep to -/

/-- Nothing is submitted while a request is out, and the list is scrolled to its end only then and with the
    text of the last search still in the field, which was no scan. -/
@[reducible] def PacedSearch (sh : SearchState α × ShownPages ProductQuery α) : SearchEvent → Prop
  | .search | .sortBy _ | .scanned (some _) => sh.1.waiting = []
  | .scrolledToEnd => sh.1.waiting = [] ∧ sh.2.submitted = { name := sh.1.con.text }
  | _ => True

/-- The one request that may be out is for the next page of the last search. -/
structure AsksNext (sh : SearchState α × ShownPages ProductQuery α) : Prop where
  one : sh.1.waiting.length ≤ 1
  next : ∀ w ∈ sh.1.waiting, w.2.query = sh.2.submitted ∧ w.2.startIndex = sh.1.con.startIndex

theorem asksNext_submit {s : SearchState α} (barCode : Option String) (hnone : s.waiting = []) :
    AsksNext (s.submit barCode, { submitted := { name := s.con.text, barcode := barCode.getD "" } }) := by
  have hwaiting : (s.submit barCode).waiting = [(.first,
      SearchController.firstBody s.context barCode (s.submit barCode).con)] := by
    rw [SearchState.submit, SearchState.start, hnone]
    rfl
  constructor
  · simp [hwaiting]
  · intro w hw
    rw [hwaiting] at hw
    obtain rfl := List.mem_singleton.1 hw
    exact ⟨rfl, rfl⟩

theorem asksNext_scrolledToEnd {s : SearchState α} {pages : ShownPages ProductQuery α} (hnone : s.waiting = [])
    (htext : pages.submitted = { name := s.con.text }) :
    AsksNext (s.start .more (SearchController.getMoreProducts s.context), pages) := by
  obtain ⟨hlist, hindex⟩ := SearchState.start_getMoreProducts s
  have hposted : ∀ body ∈ ((SearchController.getMoreProducts s.context).post s.con).1,
      body = SearchController.moreBody s.context s.con := by
    intro body hbody
    simp only [SearchController.getMoreProducts] at hbody
    split at hbody
    · split at hbody
      · exact (Option.mem_some_iff.1 hbody).symm
      · cases hbody
    · cases hbody
  constructor
  · cases hpost : ((SearchController.getMoreProducts s.context).post s.con).1 <;>
      simp [SearchState.start, hnone, hpost]
  · intro w hw
    rw [SearchState.start, hnone] at hw
    obtain ⟨body, hbody, rfl⟩ := List.mem_map.1 hw
    obtain rfl := hposted body (Option.mem_toList.1 hbody)
    exact ⟨htext.symm, hindex.symm⟩

theorem asksNext_step {sh sh' : SearchState α × ShownPages ProductQuery α} {e : SearchEvent} (h : AsksNext sh)
    (hpaced : PacedSearch sh e)
    (hstep : ((productSearch fromJson).track (noteSearch fromJson)).step sh e = some sh') :
    CurrentProducts fromJson sh e ∧ AsksNext sh' := by
  obtain ⟨s, pages⟩ := sh
  obtain ⟨s', pages'⟩ := sh'
  obtain ⟨hnext, hnote⟩ := Machine.track_step.1 hstep
  obtain rfl : pages' = noteSearch fromJson s e pages := hnote
  cases e with
  | editText text =>
      obtain rfl := (Option.some.inj hnext).symm
      exact ⟨trivial, h.one, h.next⟩
  | changeContext context =>
      obtain rfl := (Option.some.inj hnext).symm
      exact ⟨trivial, h.one, h.next⟩
  | search =>
      obtain ⟨-, hnext⟩ := Option.ite_none_right_eq_some.1 hnext
      obtain rfl := (Option.some.inj hnext).symm
      exact ⟨trivial, asksNext_submit none hpaced⟩
  | sortBy sortBy =>
      obtain rfl := (Option.some.inj hnext).symm
      exact ⟨trivial, asksNext_submit (s := { s with context := { s.context with sortBy } }) none hpaced⟩
  | scanned barcodeScanRes =>
      obtain rfl := (Option.some.inj hnext).symm
      cases barcodeScanRes with
      | none => exact ⟨trivial, h⟩
      | some barCode =>
          exact ⟨trivial, asksNext_submit (s := { s with con := { s.con with text := "", searchList := [] } })
            (some barCode) hpaced⟩
  | scrolledToEnd =>
      obtain rfl := (Option.some.inj hnext).symm
      exact ⟨trivial, asksNext_scrolledToEnd hpaced.1 hpaced.2⟩
  | answer k response =>
      obtain ⟨⟨method, body⟩, hk, rfl⟩ := Option.map_eq_some_iff.1 hnext
      refine ⟨fun w hw _ => h.next w (List.mem_of_getElem? hw), ?_, ?_⟩
      · simp [eraseIdx_of_length_le_one h.one hk]
      · intro w hw
        simp [eraseIdx_of_length_le_one h.one hk] at hw

/-- A user who keeps to that gets current answers only, whatever they bring. -/
theorem currentProducts_of_paced (context : SearchContext) (events : List SearchEvent)
    (hpaced : ((productSearch fromJson).track (noteSearch fromJson)).Meets PacedSearch
      ({ context := context }, { submitted := {} }) events) :
    ((productSearch fromJson).track (noteSearch fromJson)).Meets (CurrentProducts fromJson)
      ({ context := context }, { submitted := {} }) events := by
  have hstart : AsksNext (({ context := context } : SearchState α), { submitted := {} }) :=
    ⟨Nat.zero_le 1, fun w hw => nomatch hw⟩
  exact Machine.Meets.of_inv (fun _ _ _ h hpaced hstep => asksNext_step h hpaced hstep) hstart hpaced

/-! ## Vendors -/

/-- What vendors are searched by. -/
structure VendorQuery where
  searchName : String
  vendorCategoryId : Option String
deriving DecidableEq

def VendorsBody.query (body : VendorsBody) : VendorQuery :=
  { searchName := body.name, vendorCategoryId := body.vendorCategoryId }

/-- The page of a body. -/
def VendorsBody.page (body : VendorsBody) (items : List α) : LoadedPage VendorQuery α :=
  { key := body.query, startIndex := body.startIndex, items := items }

/-- What `getVendors` submits. -/
def VendorController.query (con : VendorController α) : VendorQuery :=
  { searchName := con.text, vendorCategoryId := con.vendorId }

/-- What a search submits, and the pages in the list: a first page replaces them. -/
def noteVendors (fromJson : Json → Except DartError α) (s : VendorState α) :
    VendorEvent → ShownPages VendorQuery α → ShownPages VendorQuery α
  | .search, pages => { pages with submitted := s.con.query }
  | .answer k response, pages =>
    match s.waiting[k]? with
    | some (method, posted) =>
      match posted, (VendorsServices.getVendors fromJson s.locationCon posted response).items with
      | .ok body, some vendors =>
        match method with
        | .first => { pages with shown := [body.page vendors] }
        | .more => { pages with shown := pages.shown ++ [body.page vendors] }
      | _, _ => pages
    | none => pages
  | _, pages => pages

/-- A page that is there is one of a body that was posted. -/
theorem VendorsServices.posted_of_items {locationCon : LocationController}
    {posted : Except DartError VendorsBody} {answer : Except DartError Json} {vendors : List α}
    (h : (getVendors fromJson locationCon posted answer).items = some vendors) :
    ∃ body, posted = .ok body := by
  cases posted with
  | ok body => exact ⟨body, rfl⟩
  | error e => cases h

/-- The answer to a search is to the last one, finds the index at 0 and has a total that is a number;
    or it brings nothing, and nothing was shown before. The answer to a further page that brings one
    is to a request with the name and the category of the last search, and finds the index it asked
    for. -/
def CurrentPage (data : PageData α) (posted : Except DartError VendorsBody)
    (sh : VendorState α × ShownPages VendorQuery α) : PagedMethod → Prop
  | .first => if data.items.isSome then
      (∀ body ∈ posted.toOption, body.query = sh.2.submitted) ∧ sh.1.con.startIndex = 0 ∧
        data.totalCount.asInt.isOk = true
    else sh.2.shown = []
  | .more => data.items.isSome → ∀ body ∈ posted.toOption,
      body.query = sh.2.submitted ∧ body.startIndex = sh.1.con.startIndex

@[reducible] def CurrentVendors (fromJson : Json → Except DartError α)
    (sh : VendorState α × ShownPages VendorQuery α) : VendorEvent → Prop
  | .answer k response => ∀ w ∈ sh.1.waiting[k]?,
    CurrentPage (VendorsServices.getVendors fromJson sh.1.locationCon w.2 response) w.2 sh w.1
  | _ => True

/-- The list is that of the pages; unless the answer to a search is still to come, they belong to the
    last search, and the index is past them. -/
structure VendorInv (sh : VendorState α × ShownPages VendorQuery α) : Prop where
  list : sh.1.con.vendorData = listed sh.2.shown
  settled : (∀ w ∈ sh.1.waiting, w.1 ≠ .first) →
    Consecutive itemsPerPage sh.2.submitted sh.2.shown ∧
      sh.1.con.startIndex = itemsPerPage * sh.2.shown.length
  fresh : sh.2.shown = [] → sh.1.con.startIndex = 0
  posted : ∀ w ∈ sh.1.waiting, w.1 = .first → ∀ body ∈ w.2.toOption, body.startIndex = 0

theorem VendorInv.shows {sh : VendorState α × ShownPages VendorQuery α} (h : VendorInv sh)
    (hnone : sh.1.waiting = []) : ShowsOneQuery sh.1.con.vendorData sh.2 :=
  ⟨h.list, (h.settled (by simp [hnone])).1⟩

/-- A search leaves the pages and waits for the first one. -/
theorem vendorInv_submit {s : VendorState α} {pages : ShownPages VendorQuery α}
    (h : VendorInv (s, pages)) (query : VendorQuery) :
    VendorInv (s.submit, { pages with submitted := query }) where
  list := h.list
  settled hnone := absurd rfl (hnone _ (List.mem_append_right _ (List.mem_singleton_self _)))
  fresh _ := rfl
  posted := by
    intro w hw hfirst body hbody
    rcases List.mem_append.1 hw with hw | hw
    · exact h.posted w hw hfirst body hbody
    · obtain rfl := List.mem_singleton.1 hw
      exact VendorsServices.startIndex_of_vendorsBody (toOption_eq_some.1 hbody)

/-- Scrolling to the end leaves list, index and pages. -/
theorem vendorInv_scrolledToEnd {s : VendorState α} {pages : ShownPages VendorQuery α}
    (h : VendorInv (s, pages)) :
    VendorInv (s.start .more VendorController.getMoreVendors, pages) := by
  obtain ⟨hlist, hindex, hwaiting⟩ := VendorState.start_getMoreVendors s
  constructor
  · exact hlist.trans h.list
  · intro hnone
    show _ ∧ (s.start .more _).con.startIndex = _
    rw [hindex]
    exact h.settled fun w hw => hnone w (List.mem_append_left _ hw)
  · intro hshown
    exact hindex.trans (h.fresh hshown)
  · intro w hw hfirst
    rcases hwaiting w hw with hw | hmore
    · exact h.posted w hw hfirst
    · exact absurd (hfirst.symm.trans hmore) (by decide)

/-- The answer to a search: its page is all that is shown, or nothing is shown as before. -/
theorem vendorInv_answer_first {s : VendorState α} {pages : ShownPages VendorQuery α} {k : Nat}
    {posted : Except DartError VendorsBody} {response : Except DartError Json}
    (h : VendorInv (s, pages)) (hk : s.waiting[k]? = some (.first, posted))
    (hcurrent : CurrentPage (VendorsServices.getVendors fromJson s.locationCon posted response) posted
      (s, pages) .first) :
    VendorInv ({ s with
      con := s.assign .first (VendorsServices.getVendors fromJson s.locationCon posted response)
      waiting := s.waiting.eraseIdx k }, noteVendors fromJson s (.answer k response) pages) := by
  have herase : ∀ w ∈ s.waiting.eraseIdx k, w.1 = .first →
      ∀ body ∈ w.2.toOption, body.startIndex = 0 :=
    fun w hw => h.posted w (List.mem_of_mem_eraseIdx hw)
  cases hitems : (VendorsServices.getVendors fromJson s.locationCon posted response).items with
  | none =>
      have hshown : pages.shown = [] := by simpa [CurrentPage, hitems] using hcurrent
      have hpages : noteVendors fromJson s (.answer k response) pages = pages := by
        simp only [noteVendors, hk, hitems]
      rw [hpages, VendorState.assign_first_none hitems]
      refine ⟨h.list, fun _ => ?_, h.fresh, herase⟩
      have hindex : s.con.startIndex = 0 := h.fresh hshown
      rw [hshown]
      exact ⟨consecutive_nil, hindex⟩
  | some vendors =>
      obtain ⟨body, rfl⟩ := VendorsServices.posted_of_items hitems
      obtain ⟨hquery, hindex, htotal⟩ : (∀ b ∈ (Except.ok body : Except DartError _).toOption,
          b.query = pages.submitted) ∧ s.con.startIndex = 0 ∧ _ := by
        simpa only [CurrentPage, hitems, Option.isSome_some, if_true] using hcurrent
      have hat : body.startIndex = 0 := h.posted _ (List.mem_of_getElem? hk) rfl body rfl
      obtain ⟨total, htotal⟩ := exists_of_isOk htotal
      have hpages : noteVendors fromJson s (.answer k response) pages
          = { pages with shown := [body.page vendors] } := by
        simp only [noteVendors, hk, hitems]
      rw [hpages, VendorState.assign_first hitems htotal]
      refine ⟨(listed_singleton (body.page vendors)).symm, fun _ => ⟨?_, ?_⟩, fun hnil => ?_, herase⟩
      · exact consecutive_singleton.2 ⟨hquery body rfl, hat⟩
      · show s.con.startIndex + itemsPerPage = itemsPerPage * 1
        rw [hindex, Int.zero_add, Int.mul_one]
      · cases hnil

/-- The answer to a further page: it is the next one, or the list stays. -/
theorem vendorInv_answer_more {s : VendorState α} {pages : ShownPages VendorQuery α} {k : Nat}
    {posted : Except DartError VendorsBody} {response : Except DartError Json}
    (h : VendorInv (s, pages)) (hk : s.waiting[k]? = some (.more, posted))
    (hcurrent : CurrentPage (VendorsServices.getVendors fromJson s.locationCon posted response) posted
      (s, pages) .more) :
    VendorInv ({ s with
      con := s.assign .more (VendorsServices.getVendors fromJson s.locationCon posted response)
      waiting := s.waiting.eraseIdx k }, noteVendors fromJson s (.answer k response) pages) := by
  have herase : ∀ w ∈ s.waiting.eraseIdx k, w.1 = .first →
      ∀ body ∈ w.2.toOption, body.startIndex = 0 :=
    fun w hw => h.posted w (List.mem_of_mem_eraseIdx hw)
  -- a further page is not the answer a search waits for
  have hstill : (∀ w ∈ s.waiting.eraseIdx k, w.1 ≠ .first) → ∀ w ∈ s.waiting, w.1 ≠ .first := by
    intro hnone w hw hfirst
    obtain ⟨i, hi, rfl⟩ := List.getElem_of_mem hw
    have hik : i ≠ k := by
      rintro rfl
      rw [List.getElem?_eq_getElem hi, Option.some.injEq] at hk
      rw [hk] at hfirst
      cases hfirst
    exact hnone _ (List.mem_eraseIdx_iff_getElem.2 ⟨i, hi, hik, rfl⟩) hfirst
  cases hitems : (VendorsServices.getVendors fromJson s.locationCon posted response).items with
  | none =>
      have hpages : noteVendors fromJson s (.answer k response) pages = pages := by
        simp only [noteVendors, hk, hitems]
      rw [hpages, VendorState.assign_more_none hitems]
      exact ⟨h.list, fun hnone => h.settled (hstill hnone), h.fresh, herase⟩
  | some vendors =>
      obtain ⟨body, rfl⟩ := VendorsServices.posted_of_items hitems
      have hnext : ∀ b ∈ (Except.ok body : Except DartError _).toOption,
          b.query = pages.submitted ∧ b.startIndex = s.con.startIndex := by
        simpa only [CurrentPage, hitems, Option.isSome_some, true_implies] using hcurrent
      obtain ⟨hquery, hat⟩ := hnext body rfl
      have hpages : noteVendors fromJson s (.answer k response) pages
          = { pages with shown := pages.shown ++ [body.page vendors] } := by
        simp only [noteVendors, hk, hitems]
      rw [hpages, VendorState.assign_more hitems]
      refine ⟨?_, fun hnone => ?_, fun hnil => ?_, herase⟩
      · show s.con.vendorData ++ vendors = _
        rw [listed_append, show s.con.vendorData = listed pages.shown from h.list]
        rfl
      · obtain ⟨hold, hindex⟩ := h.settled (hstill hnone)
        have hindex' : s.con.startIndex = itemsPerPage * pages.shown.length := hindex
        refine ⟨consecutive_append.2 ⟨hold, hquery, hat.trans hindex'⟩, ?_⟩
        show s.con.startIndex + itemsPerPage = _
        rw [hindex', index_append]
      · exact absurd hnil (List.append_ne_nil_of_right_ne_nil _ (List.cons_ne_nil _ _))

theorem vendorInv_step {sh sh' : VendorState α × ShownPages VendorQuery α} {e : VendorEvent}
    (h : VendorInv sh) (hcurrent : CurrentVendors fromJson sh e)
    (hstep : ((vendorSearch fromJson).track (noteVendors fromJson)).step sh e = some sh') :
    VendorInv sh' := by
  obtain ⟨s, pages⟩ := sh
  obtain ⟨s', pages'⟩ := sh'
  obtain ⟨hnext, hnote⟩ := Machine.track_step.1 hstep
  obtain rfl : pages' = noteVendors fromJson s e pages := hnote
  cases e with
  | editText text =>
      obtain rfl := (Option.some.inj hnext).symm
      exact ⟨h.list, h.settled, h.fresh, h.posted⟩
  | changeLocation locationCon =>
      obtain rfl := (Option.some.inj hnext).symm
      exact ⟨h.list, h.settled, h.fresh, h.posted⟩
  | search =>
      obtain ⟨-, hnext⟩ := Option.ite_none_right_eq_some.1 hnext
      obtain rfl := (Option.some.inj hnext).symm
      exact vendorInv_submit h s.con.query
  | scrolledToEnd =>
      obtain rfl := (Option.some.inj hnext).symm
      exact vendorInv_scrolledToEnd h
  | answer k response =>
      obtain ⟨⟨method, posted⟩, hk, rfl⟩ := Option.map_eq_some_iff.1 hnext
      have hpage := hcurrent _ hk
      cases method with
      | first => exact vendorInv_answer_first h hk hpage
      | more => exact vendorInv_answer_more h hk hpage

/-! ### What the user and the server have to keep to -/

/-- The answer to a search brings vendors and a total that is a number, or nothing as long as nothing is shown. -/
def BringsFirst (data : PageData α) (pages : ShownPages VendorQuery α) : Prop :=
  if data.items.isSome then data.totalCount.asInt.isOk = true else pages.shown = []

theorem currentPage_first {data : PageData α} {posted : Except DartError VendorsBody}
    {sh : VendorState α × ShownPages VendorQuery α} (hbrings : BringsFirst data sh.2)
    (hquery : ∀ body ∈ posted.toOption, body.query = sh.2.submitted) (hindex : sh.1.con.startIndex = 0) :
    CurrentPage data posted sh .first := by
  unfold BringsFirst at hbrings
  simp only [CurrentPage]
  split
  · rename_i hsome
    rw [if_pos hsome] at hbrings
    exact ⟨hquery, hindex, hbrings⟩
  · rename_i hnone
    rwa [if_neg hnone] at hbrings

/-- A search is submitted, and the list is scrolled to its end, only while no request is out, and the list only
    after a search without a name; and a search is answered as it should be. -/
def PacedVendors (fromJson : Json → Except DartError α) (sh : VendorState α × ShownPages VendorQuery α) :
    VendorEvent → Prop
  | .search => sh.1.waiting = []
  | .scrolledToEnd => sh.1.waiting = [] ∧ sh.2.submitted.searchName = ""
  | .answer k response => ∀ w ∈ sh.1.waiting[k]?, w.1 = .first →
    BringsFirst (VendorsServices.getVendors fromJson sh.1.locationCon w.2 response) sh.2
  | _ => True

/-- The one request that may be out is for the next page of the last search. -/
structure AsksNextVendors (sh : VendorState α × ShownPages VendorQuery α) : Prop where
  one : sh.1.waiting.length ≤ 1
  category : sh.2.submitted.vendorCategoryId = sh.1.con.vendorId
  next : ∀ w ∈ sh.1.waiting, (w.1 = .first → sh.1.con.startIndex = 0) ∧
    ∀ body ∈ w.2.toOption, body.query = sh.2.submitted ∧ body.startIndex = sh.1.con.startIndex

theorem asksNextVendors_submit {s : VendorState α} {pages : ShownPages VendorQuery α} (hnone : s.waiting = []) :
    AsksNextVendors (s.submit, { pages with submitted := s.con.query }) := by
  have hwaiting : s.submit.waiting = [(.first, VendorsServices.vendorsBody s.locationCon
      { itemsPerPage := itemsPerPage, startIndex := 0, vendorCategoryId := s.con.vendorId
        searchName := some s.con.text })] := by
    rw [VendorState.submit, VendorState.start, hnone]
    rfl
  refine ⟨by simp [hwaiting], rfl, fun w hw => ?_⟩
  rw [hwaiting] at hw
  obtain rfl := List.mem_singleton.1 hw
  refine ⟨fun _ => rfl, fun body hbody => ?_⟩
  obtain ⟨areaName, -, hbody⟩ := bind_eq_ok.1 (toOption_eq_some.1 hbody)
  obtain rfl := Except.ok.inj hbody
  exact ⟨rfl, rfl⟩

theorem asksNextVendors_scrolledToEnd {s : VendorState α} {pages : ShownPages VendorQuery α}
    (h : AsksNextVendors (s, pages)) (hnone : s.waiting = []) (hname : pages.submitted.searchName = "") :
    AsksNextVendors (s.start .more VendorController.getMoreVendors, pages) := by
  obtain ⟨-, hindex, -⟩ := VendorState.start_getMoreVendors s
  have hposted : ∀ call ∈ (VendorController.getMoreVendors.post s.con).1,
      call = { itemsPerPage := itemsPerPage, startIndex := s.con.startIndex, vendorCategoryId := s.con.vendorId } := by
    intro call hcall
    simp only [VendorController.getMoreVendors] at hcall
    split at hcall
    · split at hcall
      · exact (Option.mem_some_iff.1 hcall).symm
      · cases hcall
    · cases hcall
  have hvendorId : (s.start .more VendorController.getMoreVendors).con.vendorId = s.con.vendorId := by
    simp only [VendorState.start, VendorController.getMoreVendors]
    split
    · split <;> rfl
    · rfl
  refine ⟨?_, h.category.trans hvendorId.symm, fun w hw => ?_⟩
  · cases hpost : (VendorController.getMoreVendors.post s.con).1 <;> simp [VendorState.start, hnone, hpost]
  · rw [VendorState.start, hnone] at hw
    obtain ⟨call, hcall, rfl⟩ := List.mem_map.1 hw
    obtain rfl := hposted call (Option.mem_toList.1 hcall)
    refine ⟨(by intro hfirst; cases hfirst), fun body hbody => ?_⟩
    obtain ⟨areaName, -, hbody⟩ := bind_eq_ok.1 (toOption_eq_some.1 hbody)
    obtain rfl := Except.ok.inj hbody
    refine ⟨?_, hindex.symm⟩
    rw [VendorsBody.query, ← h.category, Option.getD_none, ← hname]

theorem asksNextVendors_answer {s : VendorState α} {pages : ShownPages VendorQuery α} {k : Nat}
    {response : Except DartError Json} {method : PagedMethod} {posted : Except DartError VendorsBody}
    (h : AsksNextVendors (s, pages)) (hk : s.waiting[k]? = some (method, posted)) :
    AsksNextVendors ({ s with
      con := s.assign method (VendorsServices.getVendors fromJson s.locationCon posted response)
      waiting := s.waiting.eraseIdx k }, noteVendors fromJson s (.answer k response) pages) := by
  have hnone := eraseIdx_of_length_le_one h.one hk
  have hsubmitted : (noteVendors fromJson s (.answer k response) pages).submitted = pages.submitted := by
    simp only [noteVendors, hk]
    split
    · cases method <;> rfl
    · rfl
  refine ⟨by simp [hnone], ?_, fun w hw => ?_⟩
  · exact (congrArg _ hsubmitted).trans (h.category.trans (s.vendorId_assign method _).symm)
  · simp [hnone] at hw

theorem asksNextVendors_step {sh sh' : VendorState α × ShownPages VendorQuery α} {e : VendorEvent}
    (h : AsksNextVendors sh) (hpaced : PacedVendors fromJson sh e)
    (hstep : ((vendorSearch fromJson).track (noteVendors fromJson)).step sh e = some sh') :
    CurrentVendors fromJson sh e ∧ AsksNextVendors sh' := by
  obtain ⟨s, pages⟩ := sh
  obtain ⟨s', pages'⟩ := sh'
  obtain ⟨hnext, hnote⟩ := Machine.track_step.1 hstep
  obtain rfl : pages' = noteVendors fromJson s e pages := hnote
  cases e with
  | editText text =>
      obtain rfl := (Option.some.inj hnext).symm
      exact ⟨trivial, h.one, h.category, h.next⟩
  | changeLocation locationCon =>
      obtain rfl := (Option.some.inj hnext).symm
      exact ⟨trivial, h.one, h.category, h.next⟩
  | search =>
      obtain ⟨-, hnext⟩ := Option.ite_none_right_eq_some.1 hnext
      obtain rfl := (Option.some.inj hnext).symm
      exact ⟨trivial, asksNextVendors_submit hpaced⟩
  | scrolledToEnd =>
      obtain rfl := (Option.some.inj hnext).symm
      exact ⟨trivial, asksNextVendors_scrolledToEnd h hpaced.1 hpaced.2⟩
  | answer k response =>
      obtain ⟨⟨method, posted⟩, hk, rfl⟩ := Option.map_eq_some_iff.1 hnext
      refine ⟨fun w hw => ?_, asksNextVendors_answer h hk⟩
      obtain rfl := Option.some.inj (hk.symm.trans hw)
      obtain ⟨hindex, hbody⟩ := h.next _ (List.mem_of_getElem? hk)
      cases method with
      | more => exact fun _ => hbody
      | first => exact currentPage_first (hpaced _ hw rfl) (fun body hmem => (hbody body hmem).1) (hindex rfl)

/-- A user and a server that keep to that get a current answer each time. -/
theorem currentVendors_of_paced (vendorId : Option String) (isFromSearch : Bool) (locationCon : LocationController)
    (events : List VendorEvent)
    (hpaced : ((vendorSearch fromJson).track (noteVendors fromJson)).Meets (PacedVendors fromJson)
      (VendorState.opened vendorId isFromSearch locationCon,
        { submitted := { searchName := "", vendorCategoryId := vendorId } }) events) :
    ((vendorSearch fromJson).track (noteVendors fromJson)).Meets (CurrentVendors fromJson)
      (VendorState.opened vendorId isFromSearch locationCon,
        { submitted := { searchName := "", vendorCategoryId := vendorId } }) events := by
  have hstart : AsksNextVendors (VendorState.opened (α := α) vendorId isFromSearch locationCon,
      { submitted := { searchName := "", vendorCategoryId := vendorId } }) := by
    cases isFromSearch with
    | true => exact ⟨Nat.zero_le 1, rfl, fun w hw => nomatch hw⟩
    | false =>
        have hsubmit := @asksNextVendors_submit α { con := { vendorId := vendorId }, locationCon := locationCon }
          { submitted := { searchName := "", vendorCategoryId := vendorId } } rfl
        exact hsubmit
  exact Machine.Meets.of_inv (fun _ _ _ h hpaced hstep => asksNextVendors_step h hpaced hstep) hstart hpaced

/-! ## Every run -/

/-- A run of the product search in which every answer that brings products is current shows one query
    at every moment; and a run in which the list belongs to the last search, with the index past its
    pages, at every moment has no other answers. -/
theorem searchInv_iff_current (context : SearchContext) (events : List SearchEvent) :
    ((productSearch fromJson).track (noteSearch fromJson)).Throughout SearchInv
        ({ context := context }, { submitted := {} }) events ↔
      ((productSearch fromJson).track (noteSearch fromJson)).Meets (CurrentProducts fromJson)
        ({ context := context }, { submitted := {} }) events := by
  have hstart : SearchInv (({ context := context } : SearchState α), { submitted := {} }) :=
    ⟨⟨rfl, consecutive_nil⟩, rfl⟩
  exact Machine.throughout_iff_of_good_step (fun _ _ _ h _ hstep => searchInv_step h hstep) events hstart
    (Machine.meets_true events)

theorem vendorInv_opened (vendorId : Option String) (isFromSearch : Bool)
    (locationCon : LocationController) : VendorInv (VendorState.opened (α := α) vendorId isFromSearch
      locationCon, { submitted := { searchName := "", vendorCategoryId := vendorId } }) := by
  have hempty : VendorInv (({ con := { vendorId := vendorId }, locationCon := locationCon } :
      VendorState α), { submitted := { searchName := "", vendorCategoryId := vendorId } }) :=
    ⟨rfl, fun _ => ⟨consecutive_nil, rfl⟩, fun _ => rfl, fun w hw => by cases hw⟩
  cases isFromSearch with
  | true => exact hempty
  | false => exact vendorInv_submit hempty { searchName := "", vendorCategoryId := vendorId }

/-- From the start, over every order of searches, scans, edits, scrolls and answers: if every page that
    is added is current, both lists consist of consecutive pages of the last search whenever nothing is
    waiting. -/
theorem showsOneQuery_of_current (context : SearchContext) (searches : List SearchEvent)
    (vendorId : Option String) (isFromSearch : Bool) (locationCon : LocationController)
    (vendorEvents : List VendorEvent)
    (hsearches : ((productSearch fromJson).track (noteSearch fromJson)).Meets
      (CurrentProducts fromJson) ({ context := context }, { submitted := {} }) searches)
    (hvendors : ((vendorSearch fromJson).track (noteVendors fromJson)).Meets
      (CurrentVendors fromJson) (VendorState.opened vendorId isFromSearch locationCon,
        { submitted := { searchName := "", vendorCategoryId := vendorId } }) vendorEvents) :
    ((productSearch fromJson).track (noteSearch fromJson)).Throughout
        (fun sh => sh.1.waiting = [] → ShowsOneQuery sh.1.con.searchList sh.2)
        ({ context := context }, { submitted := {} }) searches ∧
      ((vendorSearch fromJson).track (noteVendors fromJson)).Throughout
        (fun sh => sh.1.waiting = [] → ShowsOneQuery sh.1.con.vendorData sh.2)
        (VendorState.opened vendorId isFromSearch locationCon,
          { submitted := { searchName := "", vendorCategoryId := vendorId } }) vendorEvents := by
  constructor
  · have hstart : SearchInv (({ context := context } : SearchState α), { submitted := {} }) :=
      ⟨⟨rfl, consecutive_nil⟩, rfl⟩
    have hquiet : ∀ sh : SearchState α × ShownPages ProductQuery α, SearchInv sh →
        sh.1.waiting = [] → ShowsOneQuery sh.1.con.searchList sh.2 := fun _ h _ => h.shows
    exact Machine.throughout_of_meets SearchInv hquiet
      (fun _ _ _ h hcurrent hstep => (searchInv_step h hstep).2 hcurrent) searches hstart hsearches
  · exact Machine.throughout_of_meets VendorInv (fun _ h hnone => h.shows hnone)
      (fun _ _ _ h hcurrent hstep => vendorInv_step h hcurrent hstep) vendorEvents
      (vendorInv_opened vendorId isFromSearch locationCon) hvendors

/-! ## Another text, a barcode, and a name -/

def sampleFound (json : Json) : Except DartError Int := do notNull (← json.asInt)

/-- A page of 25 results. -/
def samplePage (first : Int) : Except DartError Json :=
  .ok (.obj [("data", .arr ((List.range 10).map fun i => .num (.int (first + i)))),
    ("totalCount", .num (.int 25))])

def sampleContext : SearchContext := { user := {}, langId := "1", sortBy := "new" }

def sampleLocation : LocationController :=
  { userLocation := some { adminArea := some "Cairo", subAdminArea := some "Maadi" } }

/-- `tea` is found, then the text is edited to `milk`, and the list is scrolled to its end. -/
def sampleEdited : List SearchEvent :=
  [.editText "tea", .search, .answer 0 (samplePage 0), .editText "milk", .scrolledToEnd,
    .answer 0 (samplePage 10)]

/-- A barcode is found, and the list is scrolled to its end. -/
def sampleScanned : List SearchEvent :=
  [.scanned (some "6221"), .answer 0 (samplePage 0), .scrolledToEnd, .answer 0 (samplePage 10)]

/-- `milk` is searched for before `tea` is answered. -/
def sampleOverlapping : List SearchEvent :=
  [.editText "tea", .search, .editText "milk", .search, .answer 0 (samplePage 0),
    .answer 0 (samplePage 100)]

/-- A vendor is found by name, and the list is scrolled to its end. -/
def sampleVendors : List VendorEvent :=
  [.editText "bakery", .search, .answer 0 (samplePage 0), .scrolledToEnd, .answer 0 (samplePage 10)]

/-- The state a sample ends in, without anything waiting, shows more than one query. -/
theorem not_showsOneQuery_of_samples :
    (∀ events ∈ [sampleEdited, sampleScanned, sampleOverlapping],
      ∃ sh, ((productSearch sampleFound).track (noteSearch sampleFound)).run
          ({ context := sampleContext }, { submitted := {} }) events = some sh ∧
        sh.1.waiting = [] ∧ ¬ ShowsOneQuery sh.1.con.searchList sh.2) ∧
    ∃ sh, ((vendorSearch sampleFound).track (noteVendors sampleFound)).run
        (VendorState.opened none true sampleLocation,
          { submitted := { searchName := "", vendorCategoryId := none } }) sampleVendors = some sh ∧
      sh.1.waiting.isEmpty = true ∧ ¬ ShowsOneQuery sh.1.con.vendorData sh.2 := by
  constructor
  · intro events hevents
    simp only [List.mem_cons, List.not_mem_nil, or_false] at hevents
    rcases hevents with rfl | rfl | rfl
    · exact Machine.reaches (by decide +kernel)
    · exact Machine.reaches (by decide +kernel)
    · exact Machine.reaches (by decide +kernel)
  · exact Machine.reaches (by decide +kernel)

instance (sh : SearchState Int × ShownPages ProductQuery Int) (e : SearchEvent) :
    Decidable (CurrentProducts sampleFound sh e) := by
  apply @SearchEvent.casesOn (fun e => Decidable (CurrentProducts sampleFound sh e)) e <;>
    intros <;> infer_instance

instance (data : PageData α) (posted : Except DartError VendorsBody)
    (sh : VendorState α × ShownPages VendorQuery α) (method : PagedMethod) :
    Decidable (CurrentPage data posted sh method) :=
  match method with
  | .first => inferInstanceAs (Decidable (if data.items.isSome then
      (∀ body ∈ posted.toOption, body.query = sh.2.submitted) ∧ sh.1.con.startIndex = 0 ∧
        data.totalCount.asInt.isOk = true
    else sh.2.shown = []))
  | .more => inferInstanceAs (Decidable (data.items.isSome → ∀ body ∈ posted.toOption,
      body.query = sh.2.submitted ∧ body.startIndex = sh.1.con.startIndex))

instance (sh : VendorState Int × ShownPages VendorQuery Int) (e : VendorEvent) :
    Decidable (CurrentVendors sampleFound sh e) := by
  apply @VendorEvent.casesOn (fun e => Decidable (CurrentVendors sampleFound sh e)) e <;>
    intros <;> infer_instance

/-- Two searches one after the other, each scrolled to its end with its text in the field; and the
    vendors of a category, scrolled to their end. -/
theorem showsOneQuery_of_sampleScrolls :
    ((productSearch sampleFound).track (noteSearch sampleFound)).Throughout
        (fun sh => sh.1.waiting = [] → ShowsOneQuery sh.1.con.searchList sh.2)
        ({ context := sampleContext }, { submitted := {} })
        [.editText "tea", .search, .answer 0 (samplePage 0), .scrolledToEnd,
          .answer 0 (samplePage 10), .editText "milk", .search, .answer 0 (samplePage 100),
          .scrolledToEnd, .answer 0 (.error .httpFailure), .scrolledToEnd,
          .answer 0 (samplePage 110)] ∧
      ((vendorSearch sampleFound).track (noteVendors sampleFound)).Throughout
        (fun sh => sh.1.waiting = [] → ShowsOneQuery sh.1.con.vendorData sh.2)
        (VendorState.opened (some "7") false sampleLocation,
          { submitted := { searchName := "", vendorCategoryId := some "7" } })
        [.answer 0 (samplePage 0), .scrolledToEnd, .answer 0 (samplePage 10)] :=
  showsOneQuery_of_current sampleContext _ (some "7") false sampleLocation _
    (by decide +kernel) (by decide +kernel)

end Nourgomla
