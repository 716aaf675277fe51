import Nourgomla.Services.DynamicLinks

set_option autoImplicit false

/-! # Which page a link opens

A link of the app itself is read back as the page it was built for, and it opens that page unless the page
in front is one of the same kind that was opened by its widget too. A link from outside opens at most one page exactly
if it can be decoded, has an id if it names a kind, and names one kind. -/

namespace Nourgomla

variable {Location : Type}

/-- The pages a method has put on top; it has changed nothing else, and it has returned. -/
def Opens (m : Method DartError (StartupState Location) Unit) (s : StartupState Location)
    (pages : List PageRoute) : Prop :=
  m.exec s = (.ok (), { s with above := pages.map .page ++ s.above })

/-- The page in front is of this kind, and its widget was opened, as links do and the home page does. -/
def InFront (s : StartupState Location) (screen : Screen) : Prop :=
  ∃ page, currentPage s.above = some page ∧ page.screen = screen ∧ page.opener = .widget

/-! ## One page -/

/-- `Get.to` opens a page unless one of its name is in front. -/
theorem opens_toPage {s : StartupState Location} {screen : Screen} {id : Option Int}
    (h : ¬ InFront s screen) : Opens (Get.toPage ⟨screen, .widget, id⟩) s [⟨screen, .widget, id⟩] := by
  have hname : (currentPage s.above).any (fun current =>
      current.screen = screen ∧ current.opener = .widget) = false := by
    refine Bool.eq_false_iff.2 fun hany => h ?_
    obtain ⟨page, hpage, hsame⟩ := (Option.any_eq_true _ _).1 hany
    exact ⟨page, hpage, of_decide_eq_true hsame⟩
  rw [Opens, exec_toPage, withPage, hname]
  rfl

theorem opens_toPage_inFront {s : StartupState Location} {screen : Screen} {id : Option Int}
    (h : InFront s screen) : Opens (Get.toPage ⟨screen, .widget, id⟩) s [] := by
  obtain ⟨page, hpage, hsame⟩ := h
  have hname : (currentPage s.above).any (fun current =>
      current.screen = screen ∧ current.opener = .widget) = true :=
    (Option.any_eq_true _ _).2 ⟨page, hpage, decide_eq_true hsame⟩
  rw [Opens, exec_toPage, withPage, hname]
  rfl

theorem Opens.trans {m m' : Method DartError (StartupState Location) Unit}
    {s : StartupState Location} {pages pages' : List PageRoute} (hm : Opens m s pages)
    (hm' : Opens m' { s with above := pages.map .page ++ s.above } pages') :
    Opens (m >>= fun _ => m') s (pages' ++ pages) := by
  rw [Opens, Method.exec_bind_ok hm, hm']
  simp

/-! ## What a decoded link does -/

section Decoded

variable {s : StartupState Location} {link : DeepLink} {id : Int}

open Method

/-- The id is only looked at if there is a kind. -/
theorem handleDeepLink_unnamed (hproduct : "product" ∉ link.pathSegments)
    (hcategory : "category" ∉ link.pathSegments) : Opens (Nourgomla.handleDeepLink link) s [] := by
  simp [Opens, Nourgomla.handleDeepLink, hproduct, hcategory]

theorem handleDeepLink_noId (hid : link.id = none)
    (hkind : "product" ∈ link.pathSegments ∨ "category" ∈ link.pathSegments) :
    ((Nourgomla.handleDeepLink link).exec s).1 = .error .noSuchMethod := by
  by_cases hproduct : "product" ∈ link.pathSegments
  · simp [Nourgomla.handleDeepLink, exec_bind, hid, hproduct, notNull]
  · have hcategory := hkind.resolve_left hproduct
    simp [Nourgomla.handleDeepLink, exec_bind, hid, hproduct, hcategory, notNull]

theorem handleDeepLink_product (hid : link.id = some id)
    (hproduct : "product" ∈ link.pathSegments) (hcategory : "category" ∉ link.pathSegments) :
    (Nourgomla.handleDeepLink link).exec s = (Get.toPage ⟨.product, .widget, some id⟩).exec s := by
  simp [Nourgomla.handleDeepLink, exec_bind, hid, hproduct, hcategory, notNull]

theorem handleDeepLink_category (hid : link.id = some id)
    (hproduct : "product" ∉ link.pathSegments) (hcategory : "category" ∈ link.pathSegments) :
    (Nourgomla.handleDeepLink link).exec s = (Get.toPage ⟨.category, .widget, some id⟩).exec s := by
  simp [Nourgomla.handleDeepLink, exec_bind, hid, hproduct, hcategory, notNull]

/-- With both kinds the second page is opened on top of the first. -/
theorem handleDeepLink_both (hid : link.id = some id)
    (hproduct : "product" ∈ link.pathSegments) (hcategory : "category" ∈ link.pathSegments) :
    (Nourgomla.handleDeepLink link).exec s = (Get.toPage ⟨.product, .widget, some id⟩ >>= fun _ =>
      Get.toPage ⟨.category, .widget, some id⟩ : Method DartError _ _).exec s := by
  simp [Nourgomla.handleDeepLink, exec_bind, hid, hproduct, hcategory, notNull]

end Decoded

theorem exec_handleDeepLink_decoded {deepLink : Uri} {pathSegments : List String}
    {parameters : Dictionary String String} (s : StartupState Location)
    (hsegments : deepLink.pathSegments = some pathSegments)
    (hparameters : deepLink.queryParameters = some parameters) :
    (DynamicLinkService.handleDeepLink (some ⟨some deepLink⟩)).exec s
      = (Nourgomla.handleDeepLink ⟨pathSegments, (parameters "id").bind parseInt⟩).exec s := by
  simp [DynamicLinkService.handleDeepLink, Method.exec_bind, hsegments, hparameters, notNull]

theorem exec_handleDeepLink_undecoded {deepLink : Uri} (s : StartupState Location)
    (h : deepLink.pathSegments = none ∨ deepLink.queryParameters = none) :
    ((DynamicLinkService.handleDeepLink (some ⟨some deepLink⟩)).exec s).1
      = .error .noSuchMethod := by
  cases hsegments : deepLink.pathSegments with
  | none => simp [DynamicLinkService.handleDeepLink, Method.exec_bind, hsegments, notNull]
  | some pathSegments =>
      have hparameters := h.resolve_left (by simp [hsegments])
      simp [DynamicLinkService.handleDeepLink, Method.exec_bind, hsegments, hparameters, notNull]

/-! ## The link of the app -/

def linkedPage (id : Int64) (isProduct : Bool) : PageRoute :=
  ⟨if isProduct then .product else .category, .widget, some id.toInt⟩

/-- The app is opened with the link it has shared. -/
def openShared (service : FirebaseDynamicLinks) (id : Int64) (isProduct : Bool) :
    Method DartError (StartupState Location) Unit :=
  DynamicLinkService.handleDeepLink
    (service.pending (DynamicLinkController.createSharableDynamicLink service id isProduct))

/-- The encoder and the decoder are inverse. -/
theorem exec_openShared {service : FirebaseDynamicLinks} (hservice : service.HandsBack) (s : StartupState Location)
    (id : Int64) (isProduct : Bool) :
    (openShared service id isProduct).exec s = (Get.toPage (linkedPage id isProduct)).exec s := by
  obtain ⟨parameters, hparameters, hid⟩ := queryParameters_linkText id isProduct
  have hpending : service.pending (DynamicLinkController.createSharableDynamicLink service id isProduct)
      = some ⟨some (Uri.parse (DynamicLinkController.linkText id isProduct))⟩ := by
    rw [FirebaseDynamicLinks.pending, DynamicLinkController.createSharableDynamicLink, hservice]
    rfl
  have hdecoded := exec_handleDeepLink_decoded s (pathSegments_linkText id isProduct) hparameters
  rw [hid] at hdecoded
  rw [openShared, hpending]
  cases isProduct with
  | true => exact hdecoded.trans (handleDeepLink_product rfl (by simp) (by simp))
  | false => exact hdecoded.trans (handleDeepLink_category rfl (by simp) (by simp))

theorem opens_shared_iff {service : FirebaseDynamicLinks} (hservice : service.HandsBack) (s : StartupState Location)
    (id : Int64) (isProduct : Bool) :
    Opens (openShared service id isProduct) s [linkedPage id isProduct]
      ↔ ¬ InFront s (if isProduct then .product else .category) := by
  unfold Opens
  rw [exec_openShared hservice]
  constructor
  · -- nothing is opened over a page of the same name
    intro h hfront
    have hnone : Opens (Get.toPage (linkedPage id isProduct)) s [] := opens_toPage_inFront hfront
    rw [hnone] at h
    simp at h
  · exact fun hfront => opens_toPage hfront

/-! ## Any link -/

/-- The link opens at most one page, and nothing is thrown. -/
def OpensAtMostOne (s : StartupState Location) (data : Option PendingDynamicLinkData) : Prop :=
  ∃ pages, Opens (DynamicLinkService.handleDeepLink data) s pages ∧ pages.length ≤ 1

/-- The URI can be decoded, has an id if it names a kind, and names one kind; a second kind does no harm
    if the first opens nothing. -/
def HasOneMeaning (s : StartupState Location) (deepLink : Uri) : Prop :=
  ∃ pathSegments parameters, deepLink.pathSegments = some pathSegments ∧
    deepLink.queryParameters = some parameters ∧
    ("product" ∈ pathSegments ∨ "category" ∈ pathSegments →
      ((parameters "id").bind parseInt).isSome = true) ∧
    ("product" ∈ pathSegments → "category" ∈ pathSegments → InFront s .product)

theorem Opens.length_eq {m : Method DartError (StartupState Location) Unit}
    {s : StartupState Location} {pages pages' : List PageRoute} (h : Opens m s pages)
    (h' : Opens m s pages') : pages.length = pages'.length := by
  have hexec := congrArg (fun r => r.2.above.length) (h.symm.trans h')
  simpa using hexec

/-- After a page of one kind is opened, one of the other kind is not in front. -/
theorem not_inFront_category {s : StartupState Location} (h : InFront s .product) :
    ¬ InFront s .category := by
  rintro ⟨page, hpage, hcategory, -⟩
  obtain ⟨page', hpage', hproduct, -⟩ := h
  obtain rfl := Option.some.inj (hpage.symm.trans hpage')
  rw [hproduct] at hcategory
  cases hcategory

theorem toPage_opensAtMostOne (s : StartupState Location) (screen : Screen) (id : Option Int) :
    ∃ pages, Opens (Get.toPage ⟨screen, .widget, id⟩) s pages ∧ pages.length ≤ 1 := by
  by_cases hfront : InFront s screen
  · exact ⟨[], opens_toPage_inFront hfront, Nat.zero_le 1⟩
  · exact ⟨[_], opens_toPage hfront, le_rfl⟩

/-- Both pages are opened, the second over the first. -/
theorem opens_both {s : StartupState Location} {link : DeepLink} {id : Int}
    (hid : link.id = some id) (hproduct : "product" ∈ link.pathSegments)
    (hcategory : "category" ∈ link.pathSegments) (hfront : ¬ InFront s .product) :
    Opens (Nourgomla.handleDeepLink link) s
      [⟨.category, .widget, some id⟩, ⟨.product, .widget, some id⟩] := by
  have hfirst : Opens (Get.toPage ⟨.product, .widget, some id⟩) s [⟨.product, .widget, some id⟩] :=
    opens_toPage hfront
  have hsecond := (hfirst.trans (opens_toPage (not_inFront_category ⟨_, rfl, rfl, rfl⟩)) :
    Opens (Get.toPage ⟨.product, .widget, some id⟩ >>= fun _ =>
      Get.toPage ⟨.category, .widget, some id⟩) s _)
  exact (handleDeepLink_both hid hproduct hcategory).trans hsecond

theorem opensAtMostOne_of_meaning {s : StartupState Location} {deepLink : Uri}
    (h : HasOneMeaning s deepLink) : OpensAtMostOne s (some ⟨some deepLink⟩) := by
  obtain ⟨pathSegments, parameters, hsegments, hparameters, hid, hboth⟩ := h
  have hexec := exec_handleDeepLink_decoded s hsegments hparameters
  unfold OpensAtMostOne Opens
  rw [hexec]
  by_cases hkind : "product" ∈ pathSegments ∨ "category" ∈ pathSegments
  · obtain ⟨id, hid⟩ := Option.isSome_iff_exists.1 (hid hkind)
    by_cases hproduct : "product" ∈ pathSegments
    · by_cases hcategory : "category" ∈ pathSegments
      · have hfront := hboth hproduct hcategory
        rw [handleDeepLink_both hid hproduct hcategory]
        refine ⟨[⟨.category, .widget, some id⟩], ?_, le_rfl⟩
        exact (opens_toPage_inFront hfront).trans (opens_toPage (not_inFront_category hfront))
      · rw [handleDeepLink_product hid hproduct hcategory]
        exact toPage_opensAtMostOne s .product (some id)
    · rw [handleDeepLink_category hid hproduct (hkind.resolve_left hproduct)]
      exact toPage_opensAtMostOne s .category (some id)
  · obtain ⟨hproduct, hcategory⟩ := not_or.1 hkind
    exact ⟨[], handleDeepLink_unnamed hproduct hcategory, Nat.zero_le 1⟩

theorem meaning_of_opensAtMostOne {s : StartupState Location} {deepLink : Uri}
    (h : OpensAtMostOne s (some ⟨some deepLink⟩)) : HasOneMeaning s deepLink := by
  obtain ⟨pages, hpages, hlength⟩ := h
  have hreturns : ((DynamicLinkService.handleDeepLink (some ⟨some deepLink⟩)).exec s).1
      = .ok () := congrArg Prod.fst hpages
  have hthrows : ¬ (deepLink.pathSegments = none ∨ deepLink.queryParameters = none) := by
    intro hnone
    rw [exec_handleDeepLink_undecoded s hnone] at hreturns
    cases hreturns
  obtain ⟨hsegments, hparameters⟩ := not_or.1 hthrows
  obtain ⟨pathSegments, hsegments⟩ := Option.ne_none_iff_exists'.1 hsegments
  obtain ⟨parameters, hparameters⟩ := Option.ne_none_iff_exists'.1 hparameters
  have hexec := exec_handleDeepLink_decoded s hsegments hparameters
  have hid : "product" ∈ pathSegments ∨ "category" ∈ pathSegments →
      ((parameters "id").bind parseInt).isSome = true := by
    intro hkind
    by_contra hnone
    rw [hexec, handleDeepLink_noId (Option.not_isSome_iff_eq_none.1 hnone) hkind] at hreturns
    cases hreturns
  refine ⟨pathSegments, parameters, hsegments, hparameters, hid, fun hproduct hcategory => ?_⟩
  by_contra hfront
  obtain ⟨id, hid⟩ := Option.isSome_iff_exists.1 (hid (.inl hproduct))
  have htwo := @opens_both _ _ ⟨pathSegments, _⟩ _ hid hproduct hcategory hfront
  have hlength' := Opens.length_eq (hexec.symm.trans hpages) htwo
  simp at hlength'
  omega

/-- **Deep links.** The link of a product or a category, handed back by the link service, is read back as that page,
    and opens it, and only it, exactly if no page of its kind that was opened by its widget is in front. A link from
    outside opens at most one page and throws nothing exactly if there is none, or it has one meaning. -/
theorem deepLinks_iff {service : FirebaseDynamicLinks} (hservice : service.HandsBack) (s : StartupState Location) :
    (∀ id isProduct, Opens (openShared service id isProduct) s [linkedPage id isProduct]
      ↔ ¬ InFront s (if isProduct then .product else .category)) ∧
    ∀ data, OpensAtMostOne s data
      ↔ ∀ deepLink, data.bind (·.link) = some deepLink → HasOneMeaning s deepLink := by
  refine ⟨opens_shared_iff hservice s, fun data => ?_⟩
  cases hlink : data.bind (·.link) with
  | none =>
      refine ⟨fun _ _ h => by simp at h, fun _ => ⟨[], ?_, Nat.zero_le 1⟩⟩
      rw [Opens, DynamicLinkService.handleDeepLink, hlink]
      rfl
  | some deepLink =>
      obtain ⟨pending, rfl, hpending⟩ := Option.bind_eq_some_iff.1 hlink
      obtain ⟨link⟩ := pending
      obtain rfl : link = some deepLink := hpending
      constructor
      · intro h deepLink' h'
        obtain rfl := Option.some.inj h'
        exact meaning_of_opensAtMostOne h
      · exact fun h => opensAtMostOne_of_meaning (h deepLink rfl)

/-- The prefix of the sample service's short links. -/
def samplePrefix : String :=
  "https://nourgomla.page.link/?link="

/-- A service whose short links are the links after its prefix. -/
def sampleService : FirebaseDynamicLinks where
  buildShortLink link := samplePrefix ++ link
  resolve shortLink := some (String.ofList (shortLink.toList.drop samplePrefix.toList.length))

theorem handsBack_sampleService : sampleService.HandsBack := by
  intro link
  simp only [sampleService, String.toList_append, List.drop_left, String.ofList_toList]

/-- The link of product 5 opens it over the page of category 3. -/
theorem opens_sampleShared : Opens (openShared sampleService 5 true)
    ({ base := .main, above := [.page ⟨.category, .widget, some 3⟩] } : StartupState Unit)
    [⟨.product, .widget, some 5⟩] := by
  have hlinked : linkedPage 5 true = ⟨.product, .widget, some 5⟩ := by decide +kernel
  have hfront : ¬ InFront ({ base := .main, above := [.page ⟨.category, .widget, some 3⟩] } :
      StartupState Unit) (if true then .product else .category) := by
    rintro ⟨page, hpage, hproduct, -⟩
    obtain rfl := Option.some.inj hpage
    cases hproduct
  have hopens := ((deepLinks_iff handsBack_sampleService _).1 5 true).2 hfront
  rwa [hlinked] at hopens

/-- The app at its main screen is opened with this link. -/
def openedWith (text : String) : Except DartError Unit × StartupState Unit :=
  (DynamicLinkService.handleDeepLink (some ⟨some (Uri.parse text)⟩)).exec { base := .main }

/-- A link that names a kind and has no id throws, and one that names both kinds opens two pages. -/
theorem links_from_outside_misread :
    ¬ OpensAtMostOne ({ base := .main } : StartupState Unit)
        (some ⟨some (Uri.parse "http://api.nourgomla.com/public/product")⟩) ∧
    ¬ OpensAtMostOne ({ base := .main } : StartupState Unit)
        (some ⟨some (Uri.parse "http://api.nourgomla.com/category/product?id=7")⟩) := by
  constructor
  · rintro ⟨pages, hpages, -⟩
    have hthrows : (openedWith "http://api.nourgomla.com/public/product").1.isOk = false := by
      decide +kernel
    rw [openedWith, hpages] at hthrows
    cases hthrows
  · rintro ⟨pages, hpages, hlength⟩
    have htwo : (openedWith "http://api.nourgomla.com/category/product?id=7").2.above.length = 2 := by
      decide +kernel
    rw [openedWith, hpages] at htwo
    simp at htwo
    omega

end Nourgomla
