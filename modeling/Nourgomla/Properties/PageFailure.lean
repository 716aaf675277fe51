import Nourgomla.Controllers.PageLoads

set_option autoImplicit false

/-! # A page that fails to load

A load should return with both flags reset: with the page shown and the index past it if the request
succeeded, and with fields that still describe what is shown if not. The controllers use what the
service returns without a look, so every failed request throws and leaves its flag set: a load
survives exactly if its request succeeds, or if there is nothing to ask for (`loads_survive_iff`). -/

namespace Nourgomla

open Method

variable {α : Type}

/-! ## Loads and requests -/

/-- The two methods of a controller. -/
def PageLoader.run (left : List α → List α) (loader : PageLoader α) :
    PagedMethod → Method DartError (PageState α) Unit
  | .first => loader.loadFirst left
  | .more => loader.loadMore

/-- The index the method asks for in this state, if it asks. -/
def PageState.asks (con : PageState α) : PagedMethod → Option Int
  | .first => some 0
  | .more => con.totalCount.bind fun total =>
    if con.startIndex < total then some con.startIndex else none

/-- What the method leaves of the list in front of the page. -/
def PageState.kept (con : PageState α) : PagedMethod → List α
  | .first => []
  | .more => con.items

/-- What a request of the orders comes to: a map, or whatever went wrong. -/
def OrdersController.outcome (fromJson : Json → Except DartError α)
    (server : OrdersBody → Except DartError Json) (context : PageContext) (startIndex : Int) :
    Except DartError (PageData α) := do
  let user ← notNull context.currentUser
  pageData fromJson (server {
    itemsPerPage := itemsPerPage, startIndex := startIndex, userId := user.id
    sortBy := context.sortBy, vendorId := "" })

/-- What a request of the favorites comes to. -/
def FavoritesController.outcome (fromJson : Json → Except DartError α)
    (server : FavoritesBody → Except DartError Json) (context : PageContext) (startIndex : Int) :
    Except DartError (PageData α) := do
  let user ← notNull context.currentUser
  pageData fromJson (server {
    itemsPerPage := itemsPerPage, startIndex := startIndex, userId := user.id
    userRoleId := user.role, languageId := context.langId, sortBy := context.sortBy })

/-- A page that is read has a list. -/
theorem items_of_pageData {fromJson : Json → Except DartError α} {answer : Except DartError Json}
    {data : PageData α} (h : pageData fromJson answer = .ok data) :
    ∃ items, data.items = some items := by
  obtain ⟨response, -, h⟩ := bind_eq_ok.1 h
  obtain ⟨values, -, h⟩ := bind_eq_ok.1 h
  obtain ⟨entries, -, h⟩ := bind_eq_ok.1 h
  obtain ⟨items, -, h⟩ := bind_eq_ok.1 h
  obtain ⟨total, -, h⟩ := bind_eq_ok.1 h
  obtain rfl := Except.ok.inj h
  exact ⟨items, rfl⟩

/-- The loader gets a list for an index exactly if the request succeeds, and then it is the one of
    the page. -/
def Backs (outcome : Int → Except DartError (PageData α)) (loader : PageLoader α) : Prop :=
  ∀ index data, (∃ items, data.items = some items) →
    (loader.load index = .ok data ↔ outcome index = .ok data)

theorem OrdersController.backs (fromJson : Json → Except DartError α)
    (server : OrdersBody → Except DartError Json) (context : PageContext) :
    Backs (outcome fromJson server context) (loader fromJson server context) := by
  rintro index data ⟨items, hitems⟩
  have hload : (loader fromJson server context).load index
      = .ok (OrderServices.getUserOrders fromJson server context itemsPerPage index) := rfl
  rw [hload]
  cases houtcome : outcome fromJson server context index with
  | ok ordersData =>
      unfold outcome at houtcome
      simp [OrderServices.getUserOrders, houtcome]
  | error e =>
      -- the empty map has no list
      unfold outcome at houtcome
      simp only [OrderServices.getUserOrders, houtcome, Except.ok.injEq, reduceCtorEq, iff_false]
      rintro rfl
      cases hitems

theorem FavoritesController.backs (fromJson : Json → Except DartError α)
    (server : FavoritesBody → Except DartError Json) (context : PageContext) :
    Backs (outcome fromJson server context) (loader fromJson server context) := by
  rintro index data -
  cases huser : context.currentUser with
  | none => simp [loader, outcome, huser, notNull, bind, Except.bind]
  | some user =>
      cases hpage : pageData fromJson (server {
          itemsPerPage := itemsPerPage, startIndex := index, userId := user.id
          userRoleId := user.role, languageId := context.langId, sortBy := context.sortBy }) <;>
        simp [loader, outcome, FavouriteService.getFavoriteItems, huser, hpage, notNull, bind,
          Except.bind, pure, Except.pure]

theorem OrdersController.items_of_outcome {fromJson : Json → Except DartError α}
    {server : OrdersBody → Except DartError Json} {context : PageContext} {index : Int}
    {data : PageData α} (h : outcome fromJson server context index = .ok data) :
    ∃ items, data.items = some items := by
  obtain ⟨user, -, hpage⟩ := bind_eq_ok.1 h
  exact items_of_pageData hpage

theorem FavoritesController.items_of_outcome {fromJson : Json → Except DartError α}
    {server : FavoritesBody → Except DartError Json} {context : PageContext} {index : Int}
    {data : PageData α} (h : outcome fromJson server context index = .ok data) :
    ∃ items, data.items = some items := by
  obtain ⟨user, -, hpage⟩ := bind_eq_ok.1 h
  exact items_of_pageData hpage

/-! ## Surviving -/

/-- The load returns with both flags reset. If a page was asked for and there is one, it is shown,
    its total is stored, and the index is past it; if there is none, or nothing was asked for, list
    and index are those of before or those with a page that was read, and the total is known and the
    one of before. -/
structure LoadSurvives (left : List α → List α) (loader : PageLoader α)
    (outcome : Int → Except DartError (PageData α)) (method : PagedMethod) (con after : PageState α) :
    Prop where
  returned : (loader.run left method).exec con = (.ok (), after)
  isLoading : after.isLoading = false
  loadingMore : after.loadingMore = false
  success : ∀ index data items total, con.asks method = some index → outcome index = .ok data →
    data.items = some items → data.totalCount.asInt = .ok (some total) →
    after.items = con.kept method ++ items ∧ after.totalCount = some total ∧
      after.startIndex = index + itemsPerPage
  failure : (∀ index data total, con.asks method = some index → outcome index = .ok data →
      data.totalCount.asInt ≠ .ok (some total)) →
    after.totalCount = con.totalCount ∧ con.totalCount.isSome = true ∧
      (after.items = con.items ∧ after.startIndex = con.startIndex ∨
      ∃ index data items, con.asks method = some index ∧ outcome index = .ok data ∧
        data.items = some items ∧ after.items = con.kept method ++ items ∧
        after.startIndex = index + itemsPerPage)

/-- The request succeeds, or there is none: the page is read with a whole number as its total, which
    for a further page is the total that is stored, if it is a number; and no other load is on. -/
def RequestSucceeds (outcome : Int → Except DartError (PageData α)) (con : PageState α) :
    PagedMethod → Prop
  | .first => con.loadingMore = false ∧
      ∃ data total, outcome 0 = .ok data ∧ data.totalCount.asInt = .ok (some total)
  | .more => con.isLoading = false ∧ ∃ stored, con.totalCount = some stored ∧
      if con.startIndex < stored then
        ∃ data, outcome con.startIndex = .ok data ∧
          ∀ total, data.totalCount.asInt = .ok (some total) → total = stored
      else con.loadingMore = false

/-! ## The first page -/

section

variable {left : List α → List α} {loader : PageLoader α}
  {outcome : Int → Except DartError (PageData α)} {con : PageState α}

theorem survives_first_iff (hback : Backs outcome loader)
    (hlist : ∀ {index data}, outcome index = .ok data → ∃ items, data.items = some items) :
    (∃ after, LoadSurvives left loader outcome .first con after) ↔
      loader.prepare = .ok () ∧ RequestSucceeds outcome con .first := by
  constructor
  · rintro ⟨after, h⟩
    obtain ⟨hprepare, data, items, total, hload, hitems, htotal⟩ :=
      PageLoader.of_loadFirst (congrArg Prod.fst h.returned)
    have houtcome : outcome 0 = .ok data := (hback 0 data ⟨items, hitems⟩).1 hload
    have hexec := @PageLoader.exec_loadFirst _ left _ _ _ _ hprepare hload hitems htotal con
    obtain rfl := (Prod.ext_iff.1 (hexec.symm.trans h.returned)).2
    refine ⟨hprepare, h.loadingMore, data, ?_⟩
    cases total with
    | some total => exact ⟨total, houtcome, htotal⟩
    | none =>
        -- a total that is null is stored, and the index cannot be compared with it
        obtain ⟨hsame, hsome, -⟩ := h.failure fun index data' total hasks houtcome' => by
          obtain rfl := Option.some.inj hasks
          obtain rfl := Except.ok.inj (houtcome.symm.trans houtcome')
          simp [htotal]
        rw [← hsame] at hsome
        cases hsome
  · rintro ⟨hprepare, hmore, data, total, houtcome, htotal⟩
    obtain ⟨items, hitems⟩ := hlist houtcome
    have hload : loader.load 0 = .ok data := (hback 0 data ⟨items, hitems⟩).2 houtcome
    refine ⟨_, PageLoader.exec_loadFirst hprepare hload hitems htotal con, rfl, hmore, ?_, ?_⟩
    · intro index data' items' total' hasks houtcome' hitems' htotal'
      obtain rfl := Option.some.inj hasks
      obtain rfl := Except.ok.inj (houtcome.symm.trans houtcome')
      obtain rfl := Option.some.inj (hitems.symm.trans hitems')
      obtain rfl := Option.some.inj (Except.ok.inj (htotal.symm.trans htotal'))
      exact ⟨rfl, rfl, by simp⟩
    · intro hnone
      exact absurd htotal (hnone 0 data total rfl houtcome)

/-! ## A further page -/

theorem asks_more {stored : Int} (hstored : con.totalCount = some stored) :
    con.asks .more = if con.startIndex < stored then some con.startIndex else none := by
  simp [PageState.asks, hstored]

theorem survives_more_iff (hback : Backs outcome loader)
    (hlist : ∀ {index data}, outcome index = .ok data → ∃ items, data.items = some items) :
    (∃ after, LoadSurvives left loader outcome .more con after) ↔
      loader.prepare = .ok () ∧ RequestSucceeds outcome con .more := by
  constructor
  · rintro ⟨after, h⟩
    obtain ⟨hprepare, stored, hstored, hasked⟩ :=
      PageLoader.of_loadMore (congrArg Prod.fst h.returned)
    refine ⟨hprepare, ?_⟩
    have hasks := asks_more hstored
    by_cases hmore : con.startIndex < stored
    · rw [if_pos hmore] at hasks
      obtain ⟨data, items, hload, hitems⟩ := hasked hmore
      have houtcome : outcome con.startIndex = .ok data := (hback _ data ⟨items, hitems⟩).1 hload
      have hexec := PageLoader.exec_loadMore hprepare hstored hmore hload hitems
      obtain rfl := (Prod.ext_iff.1 (hexec.symm.trans h.returned)).2
      refine ⟨h.isLoading, stored, hstored, ?_⟩
      rw [if_pos hmore]
      refine ⟨data, houtcome, fun total htotal => ?_⟩
      obtain ⟨-, hsame, -⟩ := h.success _ data items total hasks houtcome hitems htotal
      exact Option.some.inj (hsame.symm.trans hstored)
    · have hexec := PageLoader.exec_loadMore_end hprepare hstored (by omega)
      obtain rfl := (Prod.ext_iff.1 (hexec.symm.trans h.returned)).2
      refine ⟨h.isLoading, stored, hstored, ?_⟩
      rw [if_neg hmore]
      exact h.loadingMore
  · rintro ⟨hprepare, hloading, stored, hstored, hrequest⟩
    have hasks := asks_more hstored
    by_cases hmore : con.startIndex < stored
    · rw [if_pos hmore] at hasks hrequest
      obtain ⟨data, houtcome, htotals⟩ := hrequest
      obtain ⟨items, hitems⟩ := hlist houtcome
      have hload : loader.load con.startIndex = .ok data :=
        (hback _ data ⟨items, hitems⟩).2 houtcome
      refine ⟨_, PageLoader.exec_loadMore hprepare hstored hmore hload hitems, hloading, rfl, ?_, ?_⟩
      · intro index data' items' total hasks' houtcome' hitems' htotal
        obtain rfl := Option.some.inj (hasks.symm.trans hasks')
        obtain rfl := Except.ok.inj (houtcome.symm.trans houtcome')
        obtain rfl := Option.some.inj (hitems.symm.trans hitems')
        exact ⟨rfl, by rw [htotals total htotal]; exact hstored, rfl⟩
      · -- without a total the page is still shown and counted
        intro _
        exact ⟨rfl, by rw [hstored]; rfl, Or.inr ⟨_, data, items, hasks, houtcome, hitems, rfl, rfl⟩⟩
    · rw [if_neg hmore] at hasks hrequest
      refine ⟨con, PageLoader.exec_loadMore_end hprepare hstored (by omega), hloading, hrequest,
        ?_, ?_⟩
      · intro index data items total hasks'
        cases hasks.symm.trans hasks'
      · intro _
        exact ⟨rfl, by rw [hstored]; rfl, Or.inl ⟨rfl, rfl⟩⟩

theorem survives_iff (hback : Backs outcome loader)
    (hlist : ∀ {index data}, outcome index = .ok data → ∃ items, data.items = some items)
    (method : PagedMethod) :
    (∃ after, LoadSurvives left loader outcome method con after) ↔
      loader.prepare = .ok () ∧ RequestSucceeds outcome con method := by
  cases method with
  | first => exact survives_first_iff hback hlist
  | more => exact survives_more_iff hback hlist

end

/-! ## The two controllers -/

/-- In every state, and whatever the server answers to the request: the loads of the orders survive
    exactly if their request succeeds, those of the favorites if moreover there is a user. -/
theorem loads_survive_iff (fromJson : Json → Except DartError α) (left : List α → List α)
    (orders : OrdersBody → Except DartError Json) (favorites : FavoritesBody → Except DartError Json)
    (context : PageContext) (method : PagedMethod) (con : PageState α) :
    ((∃ after, LoadSurvives left (OrdersController.loader fromJson orders context)
        (OrdersController.outcome fromJson orders context) method con after) ↔
      RequestSucceeds (OrdersController.outcome fromJson orders context) con method) ∧
    ((∃ after, LoadSurvives left (FavoritesController.loader fromJson favorites context)
        (FavoritesController.outcome fromJson favorites context) method con after) ↔
      context.currentUser ≠ none ∧
        RequestSucceeds (FavoritesController.outcome fromJson favorites context) con method) := by
  constructor
  · rw [survives_iff (OrdersController.backs fromJson orders context)
      OrdersController.items_of_outcome method]
    exact and_iff_right rfl
  · rw [survives_iff (FavoritesController.backs fromJson favorites context)
      FavoritesController.items_of_outcome method]
    refine and_congr_left fun _ => ?_
    unfold FavoritesController.loader
    cases context.currentUser with
    | none => simp [notNull, bind, Except.bind]
    | some user => simp [notNull, bind, Except.bind, pure, Except.pure]

/-! ## A request that fails -/

/-- A user who is logged in. -/
def samplePageContext : PageContext :=
  { currentUser := some { id := some 1, role := some 2 }, langId := 1, sortBy := "new" }

/-- Ten of twenty-five elements are shown. -/
def sampleShown : PageState Int :=
  { items := List.range 10 |>.map Int.ofNat, startIndex := 10, totalCount := some 25 }

def sampleElement (json : Json) : Except DartError Int := do notNull (← json.asInt)

/-- Both controllers, both methods, with a request that fails: the method throws with its flag set,
    and starting over has put the index to 0 (and emptied the orders, as `assignAll` clears before it
    adds). -/
theorem stuck_after_failure :
    (((OrdersController.loader sampleElement (fun _ => .error .httpFailure)
        samplePageContext).loadFirst fun _ => []).exec sampleShown = (.error .noSuchMethod,
          { sampleShown with items := [], startIndex := 0, isLoading := true })) ∧
    ((OrdersController.loader sampleElement (fun _ => .error .httpFailure)
        samplePageContext).loadMore.exec sampleShown = (.error .noSuchMethod,
          { sampleShown with loadingMore := true })) ∧
    (((FavoritesController.loader sampleElement (fun _ => .error .httpFailure)
        samplePageContext).loadFirst fun _ => []).exec sampleShown = (.error .noSuchMethod,
          { sampleShown with startIndex := 0, isLoading := true })) ∧
    (FavoritesController.loader sampleElement (fun _ => .error .httpFailure)
        samplePageContext).loadMore.exec sampleShown = (.error .noSuchMethod,
          { sampleShown with loadingMore := true }) :=
  ⟨rfl, rfl, rfl, rfl⟩

end Nourgomla
