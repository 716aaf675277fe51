import Nourgomla.Widgets.ProductsPage

set_option autoImplicit false

/-! # One filter per product list

The pages of a product list should all be asked for with the same four values, at 0, 10, 20 and so on.
The values are read off the shared controller when a page is asked for, whether or not they were
applied to the list, and an answer is added wherever `_startIndex` is by then. If every answer that
brings products finds the index it asked for, and further pages come with the values of those that are
there, each list has one filter, on every page of the stack. -/

namespace Nourgomla

open LoadedPage

variable {α : Type} {fromJson : Json → Except DartError α}

/-- The list is put together from consecutive pages that were asked for with the same values. -/
structure OneFilter (p : OpenPage α) : Prop where
  list : ∀ products, p.page.products = some products → products = listed p.loaded
  pages : ∀ first ∈ p.loaded.head?, Consecutive itemsPerPage first.key p.loaded

/-- An answer that brings products: a first page finds the index at 0 and has a total that is a number;
    a further page finds the index it asked for, and was asked for with the values of the pages that
    are there. -/
def NextPage (productsData : PageData α) (posted : Except DartError ProductsBody) (p : OpenPage α) :
    PagedMethod → Prop
  | .first => productsData.items.isSome →
      p.page.startIndex = 0 ∧ productsData.totalCount.asInt.isOk = true
  | .more => productsData.items.isSome → ∀ body ∈ posted.toOption,
      body.startIndex = p.page.startIndex ∧ ∀ first ∈ p.loaded.head?, body.filter = first.key

@[reducible] def NextAnswer (fromJson : Json → Except DartError α) (s : ProductsScreens α) :
    ProductsEvent → Prop
  | .answer i k response => ∀ p ∈ s.stack[i]?, ∀ w ∈ p.waiting[k]?,
    NextPage (ProductsService.getProducts fromJson w.2 response) w.2 p w.1
  | _ => True

/-- The index is past the pages of the list; after a failure there is neither. -/
structure PageInv (p : OpenPage α) : Prop extends OneFilter p where
  index : p.page.products.isSome → p.page.startIndex = itemsPerPage * p.loaded.length
  none : p.page.products = none → p.loaded = []
  posted : ∀ w ∈ p.waiting, w.1 = .first → ∀ body ∈ w.2.toOption, body.startIndex = 0

/-! ## One page -/

/-- `initData` empties the list. -/
theorem pageInv_initData {p : OpenPage α} (h : PageInv p) (filter : FilterValues)
    (userCon : UserState) (langId : String) : PageInv (p.initData filter userCon langId) where
  list products hproducts := (Option.some.inj hproducts).symm
  pages first hfirst := by cases hfirst
  index _ := rfl
  none hnone := by cases hnone
  posted := by
    intro w hw hfirst body hbody
    rcases List.mem_append.1 hw with hw | hw
    · exact h.posted w hw hfirst body hbody
    · obtain rfl := List.mem_singleton.1 hw
      exact (ProductsService.of_productsBody (toOption_eq_some.1 hbody)).1

/-- Scrolling to the end asks for a page and leaves the rest. -/
theorem pageInv_getMore {p : OpenPage α} (h : PageInv p) (filter : FilterValues)
    (userCon : UserState) (langId : String) : PageInv (p.getMore filter userCon langId) := by
  obtain ⟨hproducts, hindex⟩ := ProductsPage.post_getMoreProducts filter p.page
  have hpage : (p.getMore filter userCon langId).page.products = p.page.products := hproducts
  have hat : (p.getMore filter userCon langId).page.startIndex = p.page.startIndex := hindex
  refine ⟨⟨?_, h.pages⟩, ?_, ?_, ?_⟩
  · rw [hpage]
    exact h.list
  · rw [hpage, hat]
    exact h.index
  · rw [hpage]
    exact h.none
  · intro w hw hfirst
    rcases List.mem_append.1 hw with hw | hw
    · exact h.posted w hw hfirst
    · -- what is posted is no first page
      obtain ⟨call, -, rfl⟩ := List.mem_map.1 hw
      cases hfirst

/-- The answer of `initData`: the list is its page, or null. -/
theorem pageInv_answer_first {p : OpenPage α} {k : Nat} {posted : Except DartError ProductsBody}
    {response : Except DartError Json} (h : PageInv p) (hk : p.waiting[k]? = some (.first, posted))
    (hnext : NextPage (ProductsService.getProducts fromJson posted response) posted p .first)
    (filter : FilterValues) : PageInv (p.answer fromJson filter k response) := by
  have herase : ∀ w ∈ p.waiting.eraseIdx k, w.1 = .first →
      ∀ body ∈ w.2.toOption, body.startIndex = 0 :=
    fun w hw => h.posted w (List.mem_of_mem_eraseIdx hw)
  have hlist := ProductsPage.products_initData filter
    (ProductsService.getProducts fromJson posted response) p.page
  simp only [OpenPage.answer, hk]
  cases hitems : (ProductsService.getProducts fromJson posted response).items with
  | none =>
      rw [hitems] at hlist
      have hloaded : p.loadedAfter .first posted
          (ProductsService.getProducts fromJson posted response) = [] := by
        simp only [OpenPage.loadedAfter, hitems]
      rw [hloaded]
      refine ⟨⟨?_, fun first hfirst => by cases hfirst⟩, ?_, fun _ => rfl, herase⟩
      · intro products hproducts
        cases hlist.symm.trans hproducts
      · intro hsome
        simp [hlist] at hsome
  | some products =>
      obtain ⟨body, rfl⟩ := ProductsService.posted_of_items hitems
      obtain ⟨hindex, htotal⟩ := hnext (by rw [hitems]; rfl)
      have hat : body.startIndex = 0 := h.posted _ (List.mem_of_getElem? hk) rfl body rfl
      obtain ⟨total, htotal⟩ := exists_of_isOk htotal
      have hloaded : p.loadedAfter .first (.ok body)
          (ProductsService.getProducts fromJson (.ok body) response) = [body.page products] := by
        simp only [OpenPage.loadedAfter, hitems]
      rw [hloaded, ProductsPage.assign_initData htotal, hitems]
      refine ⟨⟨?_, ?_⟩, fun _ => ?_, (fun hnone => nomatch hnone), herase⟩
      · intro products' hproducts
        obtain rfl := Option.some.inj hproducts
        exact (listed_singleton (body.page products)).symm
      · intro first hfirst
        obtain rfl := Option.some.inj hfirst
        exact consecutive_singleton.2 ⟨rfl, hat⟩
      · show p.page.startIndex + itemsPerPage = itemsPerPage * 1
        rw [hindex, Int.zero_add, Int.mul_one]

/-- The answer of `getMoreProducts`: the next page is added, or the list stays. -/
theorem pageInv_answer_more {p : OpenPage α} {k : Nat} {posted : Except DartError ProductsBody}
    {response : Except DartError Json} (h : PageInv p) (hk : p.waiting[k]? = some (.more, posted))
    (hnext : NextPage (ProductsService.getProducts fromJson posted response) posted p .more)
    (filter : FilterValues) : PageInv (p.answer fromJson filter k response) := by
  have herase : ∀ w ∈ p.waiting.eraseIdx k, w.1 = .first →
      ∀ body ∈ w.2.toOption, body.startIndex = 0 :=
    fun w hw => h.posted w (List.mem_of_mem_eraseIdx hw)
  simp only [OpenPage.answer, hk]
  cases hproducts : p.page.products with
  | none =>
      have hloaded : p.loadedAfter .more posted
          (ProductsService.getProducts fromJson posted response) = p.loaded := by
        unfold OpenPage.loadedAfter
        split <;> simp_all
      rw [hloaded, ProductsPage.assign_getMoreProducts_none (Or.inl hproducts)]
      exact ⟨⟨h.list, h.pages⟩, h.index, h.none, herase⟩
  | some products =>
      cases hitems : (ProductsService.getProducts fromJson posted response).items with
      | none =>
          have hloaded : p.loadedAfter .more posted
              (ProductsService.getProducts fromJson posted response) = p.loaded := by
            simp only [OpenPage.loadedAfter, hitems]
          rw [hloaded, ProductsPage.assign_getMoreProducts_none (Or.inr hitems)]
          exact ⟨⟨h.list, h.pages⟩, h.index, h.none, herase⟩
      | some more =>
          obtain ⟨body, rfl⟩ := ProductsService.posted_of_items hitems
          obtain ⟨hat, hfilter⟩ := hnext (by rw [hitems]; rfl) body rfl
          have hindex : p.page.startIndex = itemsPerPage * p.loaded.length :=
            h.index (by rw [hproducts]; rfl)
          have hloaded : p.loadedAfter .more (.ok body)
              (ProductsService.getProducts fromJson (.ok body) response)
                = p.loaded ++ [body.page more] := by
            simp only [OpenPage.loadedAfter, hitems, hproducts, Option.isSome_some, if_true]
          rw [hloaded, ProductsPage.assign_getMoreProducts hproducts hitems]
          refine ⟨⟨?_, ?_⟩, fun _ => ?_, (fun hnone => nomatch hnone), herase⟩
          · intro products' hproducts'
            obtain rfl := Option.some.inj hproducts'
            rw [listed_append, h.list products hproducts]
            rfl
          · exact consecutive_head_append h.pages hfilter (hat.trans hindex)
          · show p.page.startIndex + itemsPerPage = _
            rw [hindex, index_append]

theorem pageInv_answer {p : OpenPage α} {k : Nat} {response : Except DartError Json} (h : PageInv p)
    (hnext : ∀ w ∈ p.waiting[k]?,
      NextPage (ProductsService.getProducts fromJson w.2 response) w.2 p w.1)
    (filter : FilterValues) : PageInv (p.answer fromJson filter k response) := by
  cases hk : p.waiting[k]? with
  | none =>
      simp only [OpenPage.answer, hk]
      exact h
  | some w =>
      obtain ⟨method, posted⟩ := w
      have hpage := hnext _ hk
      cases method with
      | first => exact pageInv_answer_first h hk hpage filter
      | more => exact pageInv_answer_more h hk hpage filter

/-! ## The stack -/

/-- Every page of the stack has its invariant. -/
def StackInv (s : ProductsScreens α) : Prop := ∀ p ∈ s.stack, PageInv p

/-- A method of the page on top leaves the pages below. -/
theorem forall_mem_modifyHead {P : OpenPage α → Prop} {f : OpenPage α → OpenPage α}
    {stack : List (OpenPage α)} (h : ∀ p ∈ stack, P p) (hf : ∀ p ∈ stack.head?, P p → P (f p)) :
    ∀ p ∈ stack.modifyHead f, P p := by
  cases stack with
  | nil => exact h
  | cons top below =>
      intro p hp
      rcases List.mem_cons.1 hp with rfl | hp
      · exact hf top rfl (h top List.mem_cons_self)
      · exact h p (List.mem_cons_of_mem top hp)

/-- An answer is to one page. -/
theorem forall_mem_modify {P : OpenPage α → Prop} {f : OpenPage α → OpenPage α} {i : Nat} {stack : List (OpenPage α)}
    (h : ∀ p ∈ stack, P p) (hf : ∀ p ∈ stack[i]?, P p → P (f p)) : ∀ p ∈ stack.modify i f, P p := by
  intro p hp
  obtain ⟨j, hj⟩ := List.mem_iff_getElem?.1 hp
  rw [List.getElem?_modify] at hj
  obtain ⟨old, hold, rfl⟩ := Option.map_eq_some_iff.1 hj
  have holds := h old (List.mem_of_getElem? hold)
  by_cases hij : i = j
  · subst hij
    simp only [if_true]
    exact hf old hold holds
  · simp only [if_neg hij]
    exact holds

theorem stackInv_step {s s' : ProductsScreens α} {e : ProductsEvent} (h : StackInv s)
    (hnext : NextAnswer fromJson s e) (hstep : (productsScreens fromJson).step s e = some s') :
    StackInv s' := by
  have hafter := stackAfter_of_step hstep
  unfold StackInv
  generalize s'.stack = stack at hafter ⊢
  cases hafter with
  | kept => exact h
  | opened categoryId =>
      intro p hp
      rcases List.mem_cons.1 hp with rfl | hp
      · -- the page before its `initState`
        have hnew : PageInv ({ page := { categoryId := categoryId } } : OpenPage α) :=
          ⟨⟨fun _ hproducts => (Option.some.inj hproducts).symm, fun _ hfirst => nomatch hfirst⟩,
            fun _ => rfl, fun _ => rfl, fun _ hw => nomatch hw⟩
        exact pageInv_initData hnew _ _ _
      · exact h p hp
  | closed => exact fun p hp => h p (List.mem_of_mem_tail hp)
  | scrolled => exact forall_mem_modifyHead h fun _ _ hp => pageInv_getMore hp _ _ _
  | reloaded _ filter => exact forall_mem_modifyHead h fun _ _ hp => pageInv_initData hp _ _ _
  | answered i k response => exact forall_mem_modify h fun p hget hp => pageInv_answer hp (hnext p hget) _

/-! ## What the user and the server have to keep to -/

/-- A filter is applied or reset, and the list is scrolled to its end, only while the page on top waits for nothing, and
    the list only while the selections are those of the pages that are there; a first page has a total that is a
    number. -/
def PacedPages (fromJson : Json → Except DartError α) (s : ProductsScreens α) : ProductsEvent → Prop
  | .applyFilter | .resetFilter | .selectInBar _ _ | .resetBar _ => ∀ top ∈ s.stack.head?, top.waiting = []
  | .scrolledToEnd => ∀ top ∈ s.stack.head?, top.waiting = [] ∧
    ∀ first ∈ top.loaded.head?, first.key = s.filterCon.values
  | .answer i k response => ∀ p ∈ s.stack[i]?, ∀ w ∈ p.waiting[k]?, w.1 = .first →
    (ProductsService.getProducts fromJson w.2 response).items.isSome →
      (ProductsService.getProducts fromJson w.2 response).totalCount.asInt.isOk = true
  | _ => True

/-- The one request that a page may have out is for its next page. -/
structure AsksNextPage (p : OpenPage α) : Prop where
  one : p.waiting.length ≤ 1
  first : ∀ w ∈ p.waiting, w.1 = .first → p.page.startIndex = 0
  more : ∀ w ∈ p.waiting, w.1 = .more → ∀ body ∈ w.2.toOption,
    body.startIndex = p.page.startIndex ∧ ∀ first ∈ p.loaded.head?, body.filter = first.key

theorem ProductsService.filter_of_productsBody {con : UserState} {langId : String} {call : ProductsCall}
    {body : ProductsBody} (h : productsBody con langId call = .ok body) : body.filter = call.filter := by
  obtain ⟨role, -, h⟩ := bind_eq_ok.1 h
  obtain ⟨id, -, h⟩ := bind_eq_ok.1 h
  obtain rfl := Except.ok.inj h
  rfl

namespace AsksNextPage

variable {p : OpenPage α}

theorem of_nil (hnone : p.waiting = []) : AsksNextPage p where
  one := by simp [hnone]
  first w hw := by simp [hnone] at hw
  more w hw := by simp [hnone] at hw

theorem initData (hnone : p.waiting = []) (filter : FilterValues) (userCon : UserState) (langId : String) :
    AsksNextPage (p.initData filter userCon langId) := by
  have hwaiting : (p.initData filter userCon langId).waiting =
      OpenPage.posted userCon langId .first ((ProductsPage.initData filter).post p.page).1 := by
    rw [OpenPage.initData, hnone]
    rfl
  refine ⟨?_, fun _ _ _ => rfl, fun w hw hmore => ?_⟩
  · rw [hwaiting]
    exact le_rfl
  · rw [hwaiting] at hw
    obtain ⟨call, -, rfl⟩ := List.mem_map.1 hw
    cases hmore

theorem getMore {filter : FilterValues} (hnone : p.waiting = []) (hfilter : ∀ first ∈ p.loaded.head?, first.key = filter)
    (userCon : UserState) (langId : String) : AsksNextPage (p.getMore filter userCon langId) := by
  obtain ⟨-, hindex⟩ := ProductsPage.post_getMoreProducts filter p.page
  have hposted : ∀ call ∈ ((ProductsPage.getMoreProducts filter).post p.page).1, call = p.page.call filter := by
    intro call hcall
    simp only [ProductsPage.getMoreProducts] at hcall
    split at hcall
    · split at hcall
      · exact (Option.mem_some_iff.1 hcall).symm
      · cases hcall
    · cases hcall
  have hwaiting : (p.getMore filter userCon langId).waiting =
      OpenPage.posted userCon langId .more ((ProductsPage.getMoreProducts filter).post p.page).1 := by
    rw [OpenPage.getMore, hnone]
    rfl
  refine ⟨?_, fun w hw hfirst => ?_, fun w hw _ body hbody => ?_⟩
  · rw [hwaiting, OpenPage.posted, List.length_map]
    cases ((ProductsPage.getMoreProducts filter).post p.page).1 <;> simp
  · rw [hwaiting] at hw
    obtain ⟨call, -, rfl⟩ := List.mem_map.1 hw
    cases hfirst
  · rw [hwaiting] at hw
    obtain ⟨call, hcall, rfl⟩ := List.mem_map.1 hw
    obtain rfl := hposted call (Option.mem_toList.1 hcall)
    have hbody := toOption_eq_some.1 hbody
    refine ⟨(ProductsService.of_productsBody hbody).1.trans hindex.symm, fun first hfirst => ?_⟩
    exact (ProductsService.filter_of_productsBody hbody).trans (hfilter first hfirst).symm

theorem answer (h : AsksNextPage p) (filter : FilterValues) (k : Nat) (response : Except DartError Json) :
    AsksNextPage (p.answer fromJson filter k response) := by
  cases hk : p.waiting[k]? with
  | none =>
      simp only [OpenPage.answer, hk]
      exact h
  | some w =>
      simp only [OpenPage.answer, hk]
      exact of_nil (eraseIdx_of_length_le_one h.one hk)

/-- Its answer is the next one. -/
theorem nextPage (h : AsksNextPage p) {k : Nat} {w : PagedMethod × Except DartError ProductsBody}
    {response : Except DartError Json} (hw : w ∈ p.waiting[k]?)
    (htotal : w.1 = .first → (ProductsService.getProducts fromJson w.2 response).items.isSome →
      (ProductsService.getProducts fromJson w.2 response).totalCount.asInt.isOk = true) :
    NextPage (ProductsService.getProducts fromJson w.2 response) w.2 p w.1 := by
  have hmem := List.mem_of_getElem? hw
  obtain ⟨method, posted⟩ := w
  cases method with
  | first => exact fun hsome => ⟨h.first _ hmem rfl, htotal rfl hsome⟩
  | more => exact fun _ => h.more _ hmem rfl

end AsksNextPage

/-- Every page of the stack asks for its next page only. -/
def StackAsksNext (s : ProductsScreens α) : Prop := ∀ p ∈ s.stack, AsksNextPage p

theorem PacedPages.none_waits {s : ProductsScreens α} {e : ProductsEvent} (h : PacedPages fromJson s e) (he : e.Reloads) :
    ∀ top ∈ s.stack.head?, top.waiting = [] := by
  cases e with
  | applyFilter | resetFilter | selectInBar _ _ | resetBar _ => exact h
  | _ => exact he.elim

theorem nextAnswer_of_asksNext {s : ProductsScreens α} {e : ProductsEvent} (h : StackAsksNext s)
    (hpaced : PacedPages fromJson s e) : NextAnswer fromJson s e := by
  cases e with
  | answer i k response => exact fun p hp w hw => (h p (List.mem_of_getElem? hp)).nextPage hw (hpaced p hp w hw)
  | _ => trivial

theorem stackAsksNext_step {s s' : ProductsScreens α} {e : ProductsEvent} (h : StackAsksNext s)
    (hpaced : PacedPages fromJson s e) (hstep : (productsScreens fromJson).step s e = some s') : StackAsksNext s' := by
  have hafter := stackAfter_of_step hstep
  unfold StackAsksNext
  generalize s'.stack = stack at hafter ⊢
  cases hafter with
  | kept => exact h
  | opened categoryId =>
      intro p hp
      rcases List.mem_cons.1 hp with rfl | hp
      · exact .initData rfl _ _ _
      · exact h p hp
  | closed => exact fun p hp => h p (List.mem_of_mem_tail hp)
  | scrolled => exact forall_mem_modifyHead h fun top htop _ => .getMore (hpaced top htop).1 (hpaced top htop).2 _ _
  | reloaded he filter => exact forall_mem_modifyHead h fun top htop _ => .initData (hpaced.none_waits he top htop) _ _ _
  | answered i k response => exact forall_mem_modify h fun p _ hp => hp.answer _ _ _

/-- A user and a server that keep to that get the next page each time. -/
theorem nextAnswer_of_paced (filterCon : FilterController) (userCon : UserState) (langId : String)
    (events : List ProductsEvent)
    (hpaced : (productsScreens fromJson).Meets (PacedPages fromJson)
      { filterCon := filterCon, userCon := userCon, langId := langId } events) :
    (productsScreens fromJson).Meets (NextAnswer fromJson)
      { filterCon := filterCon, userCon := userCon, langId := langId } events := by
  have hstart : StackAsksNext ({ filterCon := filterCon, userCon := userCon, langId := langId } :
      ProductsScreens α) := fun p hp => nomatch hp
  refine Machine.Meets.of_inv ?_ hstart hpaced
  exact fun _ _ _ h hpaced hstep => ⟨nextAnswer_of_asksNext h hpaced, stackAsksNext_step h hpaced hstep⟩

/-! ## Every run -/

/-- Whatever the filter and the user are at first, over every order of pages that are opened and closed,
    selections, filters that are applied or not, scrolls and answers: if every answer that brings
    products is the next page, each list has one filter whenever its page waits for nothing. -/
theorem oneFilter_of_nextAnswer (filterCon : FilterController) (userCon : UserState) (langId : String)
    (events : List ProductsEvent)
    (hnext : (productsScreens fromJson).Meets (NextAnswer fromJson)
      { filterCon := filterCon, userCon := userCon, langId := langId } events) :
    (productsScreens fromJson).Throughout (fun s => ∀ p ∈ s.stack, p.waiting = [] → OneFilter p)
      { filterCon := filterCon, userCon := userCon, langId := langId } events := by
  have hstart : StackInv ({ filterCon := filterCon, userCon := userCon, langId := langId } :
      ProductsScreens α) := fun p hp => nomatch hp
  have hgood : ∀ s : ProductsScreens α, StackInv s →
      ∀ p ∈ s.stack, p.waiting = [] → OneFilter p := fun s h p hp _ => (h p hp).toOneFilter
  exact Machine.throughout_of_meets StackInv hgood
    (fun _ _ _ h hnext hstep => stackInv_step h hnext hstep) events hstart hnext

/-! ## A selection that is not applied -/

def sampleListed (json : Json) : Except DartError Int := do notNull (← json.asInt)

/-- Ten of 25 products. -/
def sampleProducts (first : Int) : Except DartError Json :=
  .ok (.obj [("data", .arr ((List.range 10).map fun i => .num (.int (first + i)))),
    ("totalCount", .num (.int 25))])

/-- A category with a company; its first page is there. -/
def sampleOpened : List ProductsEvent :=
  [.openPage 1, .initFilter [{ id := some 5, nameEn := some "company" }] [] [],
    .answer 0 0 (sampleProducts 0)]

/-- The company is selected, the filter screen is closed, and the list is scrolled to its end. -/
def sampleNotApplied : List ProductsEvent :=
  sampleOpened ++ [.openFilterScreen, .select .company 0, .closeFilterScreen, .scrolledToEnd,
    .answer 0 0 (sampleProducts 10)]

/-- The company is applied on the page of a sub-category. -/
def sampleSubCategory : List ProductsEvent :=
  sampleOpened ++ [.openPage 2, .answer 0 0 (sampleProducts 0), .openFilterScreen,
    .select .company 0, .applyFilter, .answer 0 0 (sampleProducts 0), .closePage, .scrolledToEnd,
    .answer 0 0 (sampleProducts 10)]

/-- The list is scrolled to its end twice before the next page is there. -/
def samplePageTwice : List ProductsEvent :=
  sampleOpened ++ [.scrolledToEnd, .scrolledToEnd, .answer 0 0 (sampleProducts 10),
    .answer 0 0 (sampleProducts 10)]

/-- After the run nothing is waiting, and a list has pages of two filters, or the same page twice. -/
def EndsMixed (events : List ProductsEvent) : Prop :=
  ∃ s, (productsScreens sampleListed).run {} events = some s ∧ (∀ p ∈ s.stack, p.waiting = []) ∧
    ¬ ∀ p ∈ s.stack, p.waiting = [] → OneFilter p

/-- The pages alone tell. -/
theorem endsMixed_of_pages {events : List ProductsEvent}
    (h : ((productsScreens sampleListed).run {} events).any (fun s =>
      decide ((∀ p ∈ s.stack, p.waiting = []) ∧ ¬ ∀ p ∈ s.stack,
        ∀ first ∈ p.loaded.head?, Consecutive itemsPerPage first.key p.loaded)) = true) :
    EndsMixed events := by
  obtain ⟨s, hrun, hwaiting, hnot⟩ := Machine.reaches h
  exact ⟨s, hrun, hwaiting, fun hone => hnot fun p hp => (hone p hp (hwaiting p hp)).pages⟩

theorem not_oneFilter_of_samples :
    EndsMixed sampleNotApplied ∧ EndsMixed sampleSubCategory ∧ EndsMixed samplePageTwice := by
  refine ⟨endsMixed_of_pages ?_, endsMixed_of_pages ?_, endsMixed_of_pages ?_⟩
  · decide +kernel
  · decide +kernel
  · decide +kernel

instance (productsData : PageData α) (posted : Except DartError ProductsBody) (p : OpenPage α)
    (method : PagedMethod) : Decidable (NextPage productsData posted p method) :=
  match method with
  | .first => inferInstanceAs (Decidable (productsData.items.isSome →
      p.page.startIndex = 0 ∧ productsData.totalCount.asInt.isOk = true))
  | .more => inferInstanceAs (Decidable (productsData.items.isSome → ∀ body ∈ posted.toOption,
      body.startIndex = p.page.startIndex ∧ ∀ first ∈ p.loaded.head?, body.filter = first.key))

instance (s : ProductsScreens Int) (e : ProductsEvent) :
    Decidable (NextAnswer sampleListed s e) := by
  apply @ProductsEvent.casesOn (fun e => Decidable (NextAnswer sampleListed s e)) e <;>
    intros <;> infer_instance

/-- A list that is scrolled, a filter that is applied, and a list that is scrolled again. -/
theorem oneFilter_of_sampleApplied :
    (productsScreens sampleListed).Throughout (fun s => ∀ p ∈ s.stack, p.waiting = [] → OneFilter p)
      {} (sampleOpened ++ [.scrolledToEnd, .answer 0 0 (sampleProducts 10), .openFilterScreen,
        .select .company 0, .applyFilter, .answer 0 0 (sampleProducts 0), .scrolledToEnd,
        .answer 0 0 (sampleProducts 10), .openPage 2, .answer 0 0 (sampleProducts 0), .closePage,
        .scrolledToEnd, .answer 0 0 (sampleProducts 20)]) :=
  oneFilter_of_nextAnswer {} {} "1" _ (by decide +kernel)

end Nourgomla
