import Nourgomla.SystemSpec

set_option autoImplicit false

/-! # The shipping of the cart's vendor

In multi-vendor mode every addition looks its vendor's shipping up again, in a list of vendors that
another screen fills and filters, and a vendor that is not listed has the empty shipping. Once the
shipping was found for the first line of a cart, it stays that vendor's shipping at every moment of
a run exactly if every later addition finds the vendor listed too (`shippingKept_iff_listed`). -/

namespace Nourgomla

open CartController

/-- The vendor of the product is listed. -/
def Config.lists (config : Config) (product : Product) : Bool :=
  (config.vendorData.bind (·.find? (·.id == some product.vendorId))).isSome

/-- Multi-vendor mode, with the vendors listed at their shipping. -/
def Config.Consistent (shipping : Int → Option Num) (config : Config) : Prop :=
  config.isMultiVendor = true ∧
    ∀ vendors ∈ config.vendorData, ∀ v ∈ vendors, ∀ id ∈ v.id, v.shipping = shipping id

theorem nullableText_ne_empty (n : Option Num) : nullableText n ≠ "" := by
  cases n with
  | none => decide
  | some n => exact n.text_ne_empty

/-- A listed vendor is looked up at its shipping. -/
theorem getVendorShipping_of_lists {shipping : Int → Option Num} {config : Config}
    {product : Product} (hconfig : config.Consistent shipping)
    (hlists : config.lists product = true) :
    App.getVendorShipping config product = nullableText (shipping product.vendorId) := by
  unfold Config.lists at hlists
  unfold App.getVendorShipping
  obtain ⟨v, hv⟩ := Option.isSome_iff_exists.1 hlists
  obtain ⟨vendors, hvendors, hfind⟩ := Option.bind_eq_some_iff.1 hv
  have hid : v.id = some product.vendorId := by simpa using List.find?_some hfind
  simp only [hv]
  rw [hconfig.2 vendors hvendors v (List.mem_of_find?_eq_some hfind) _ hid]

/-- A vendor that is not listed has the empty shipping. -/
theorem getVendorShipping_of_not_lists {config : Config} {product : Product}
    (h : config.lists product = false) : App.getVendorShipping config product = "" := by
  unfold Config.lists at h
  unfold App.getVendorShipping
  rw [Option.isSome_eq_false_iff, Option.isNone_iff_eq_none] at h
  rw [h]

/-! ## The property -/

/-- Whether the shipping was found when the first line of the cart was added. -/
def noteFound (s : System) (e : Event) (found : Bool) : Bool :=
  match e with
  | .addToCart config draft =>
    if s.app.con.cartProducts = [] then config.lists draft.product else found
  | _ => found

/-- The shipping that would be posted is that of the cart's vendor, if it was found at first. -/
def ShippingKept (shipping : Int → Option Num) (sh : System × Bool) : Prop :=
  ∀ first ∈ sh.1.app.con.cartProducts.head?, sh.2 = true →
    sh.1.app.con.vendorShipping = some (nullableText (shipping first.product.vendorId))

/-- The operations, each completed before the next. The server answers a cart update with lines of
    the cart's vendor only, leaves out no product that is paid for, and gives every line a
    quantity. -/
@[reducible] def MultiVendor (shipping : Int → Option Num) (s : System) : Event → Prop
  | .addToCart config _ => config.Consistent shipping
  | .deleteFromCart _ | .clearCart | .restart => True
  | .refresh _ answer => CompleteAnswer answer ∧ ∀ r ∈ CartServices.cartUpdate answer,
      (∀ c ∈ s.app.con.cartProducts, c.isPaid = true →
        ∃ d ∈ r.1, d.isPaid = true ∧ d.product.id = c.product.id) ∧
      ∀ c ∈ r.1, ∀ first ∈ s.app.con.cartProducts.head?,
        c.product.vendorId = first.product.vendorId
  | _ => False

/-- An addition to a cart whose shipping was found, if it passes the checks, finds it too. -/
@[reducible] def FindsAgain (sh : System × Bool) : Event → Prop
  | .addToCart config draft => sh.1.app.accepts draft.item = true →
      sh.1.app.con.cartProducts ≠ [] → sh.2 = true → config.lists draft.product = true
  | _ => True

/-! ## The invariant -/

/-- Lines and rows are of one vendor, every row belongs to a paid line, and where the shipping was
    found it is in memory and in every row. -/
structure Shipped (shipping : Int → Option Num) (found : Bool) (app : App) : Prop where
  known : ∀ row ∈ app.cartTable,
    ∃ c ∈ app.con.cartProducts, c.isPaid = true ∧ c.product.id = some row.id
  vendor : ∃ v, (∀ c ∈ app.con.cartProducts, c.product.vendorId = v) ∧
    (∀ row ∈ app.cartTable, row.vendorId = v) ∧
    (found = true → app.con.cartProducts ≠ [] →
      app.con.vendorShipping = some (nullableText (shipping v)) ∧
      ∀ row ∈ app.cartTable, row.vendorShipping = some (nullableText (shipping v)))

theorem Shipped.kept {shipping : Int → Option Num} {sh : System × Bool}
    (h : Shipped shipping sh.2 sh.1.app) : ShippingKept shipping sh := by
  intro first hfirst hfound
  obtain ⟨v, hlines, -, hshipping⟩ := h.vendor
  have hmem : first ∈ sh.1.app.con.cartProducts := List.mem_of_mem_head? hfirst
  rw [hlines first hmem]
  exact (hshipping hfound (List.ne_nil_of_mem hmem)).1

/-- Without lines there are no rows. -/
theorem Shipped.table_nil {shipping : Int → Option Num} {found : Bool} {app : App}
    (h : Shipped shipping found app) (hnil : app.con.cartProducts = []) : app.cartTable = [] := by
  refine List.eq_nil_iff_forall_not_mem.2 fun row hrow => ?_
  obtain ⟨c, hc, -⟩ := h.known row hrow
  simp [hnil] at hc

/-- The one vendor is that of any product `addToCart` accepts. -/
theorem Shipped.of_accepts {shipping : Int → Option Num} {found : Bool} {app : App}
    {cart : CartItem} (h : Shipped shipping found app) (ha : app.accepts cart = true) :
    (∀ c ∈ app.con.cartProducts, c.product.vendorId = cart.product.vendorId) ∧
      (∀ row ∈ app.cartTable, row.vendorId = cart.product.vendorId) ∧
      (found = true → app.con.cartProducts ≠ [] → ∀ row ∈ app.cartTable,
        row.vendorShipping = some (nullableText (shipping cart.product.vendorId))) := by
  obtain ⟨v, hlines, hrows, hshipping⟩ := h.vendor
  rcases (App.accepts_iff.1 ha).2 with hnil | ⟨d, hd, hdv⟩
  · simp [hnil, h.table_nil hnil]
  · obtain rfl : v = cart.product.vendorId := (hlines d hd).symm.trans hdv
    exact ⟨hlines, hrows, fun hfound hne => (hshipping hfound hne).2⟩

/-! ## Steps -/

/-- What an accepted addition looks up, once the shipping counts as found. -/
theorem lookup_of_found {shipping : Int → Option Num} {s : System} {found : Bool}
    {config : Config} {draft : Draft} (hconfig : config.Consistent shipping)
    (ha : s.app.accepts draft.item = true)
    (hguard : FindsAgain (s, found) (.addToCart config draft))
    (hfound : noteFound s (.addToCart config draft) found = true) :
    App.getVendorShipping config draft.product
      = nullableText (shipping draft.product.vendorId) := by
  refine getVendorShipping_of_lists hconfig ?_
  simp only [noteFound] at hfound
  split at hfound
  · exact hfound
  · rename_i hne
    exact hguard ha hne hfound

/-- An accepted addition of a line that is stored. -/
theorem shipped_adding {shipping : Int → Option Num} {s : System} {found : Bool} {config : Config}
    {draft : Draft} {row : CartRow} (hship : Shipped shipping found s.app)
    (hconfig : config.Consistent shipping) (ha : s.app.accepts draft.item = true)
    (hguard : FindsAgain (s, found) (.addToCart config draft))
    (hrow : (App.withShipping config draft.item).toRow = some row) :
    Shipped shipping (noteFound s (.addToCart config draft) found)
      (s.adding config draft.item row) := by
  obtain ⟨hid, hvendor, -, -, -, hrowShipping⟩ := CartItem.toRow_eq_some hrow
  simp only [App.withShipping_product, Draft.item_product] at hid hvendor
  rw [App.withShipping_vendorShipping _ hconfig.1, Draft.item_product] at hrowShipping
  obtain ⟨hlines, hrows, hrowsShipping⟩ := hship.of_accepts ha
  rw [Draft.item_product] at hlines hrows hrowsShipping
  have hcon : (s.adding config draft.item row).con.cartProducts
      = (s.app.con.cartProducts ++ [App.withShipping config draft.item]).map
        CartItem.withPoints := by
    simp [System.adding, appended]
  have htable : (s.adding config draft.item row).cartTable = s.app.cartTable ++ [row] := rfl
  have hcaptured : (s.adding config draft.item row).con.vendorShipping
      = some (App.getVendorShipping config draft.product) := by
    simp [System.adding, appended, App.captured, hconfig.1]
  refine ⟨?_, draft.product.vendorId, ?_, ?_, ?_⟩
  · intro r hr
    rw [hcon]
    rcases List.mem_append.1 (htable ▸ hr) with hr | hr
    · obtain ⟨c, hc, hpaid, hcid⟩ := hship.known r hr
      exact ⟨c.withPoints, List.mem_map_of_mem (List.mem_append_left _ hc), hpaid, hcid⟩
    · obtain rfl := List.mem_singleton.1 hr
      exact ⟨(App.withShipping config draft.item).withPoints,
        List.mem_map_of_mem (List.mem_append_right _ List.mem_cons_self), by simp, by simp [hid]⟩
  · intro c hc
    rw [hcon] at hc
    obtain ⟨d, hd, rfl⟩ := List.mem_map.1 hc
    rcases List.mem_append.1 hd with hd | hd
    · exact hlines d hd
    · simp [List.mem_singleton.1 hd]
  · intro r hr
    rcases List.mem_append.1 (htable ▸ hr) with hr | hr
    · exact hrows r hr
    · rw [List.mem_singleton.1 hr, hvendor]
  · intro hfound _
    have hlookup := lookup_of_found hconfig ha hguard hfound
    refine ⟨by rw [hcaptured, hlookup], fun r hr => ?_⟩
    rcases List.mem_append.1 (htable ▸ hr) with hr | hr
    · by_cases hnil : s.app.con.cartProducts = []
      · simp [hship.table_nil hnil] at hr
      · exact hrowsShipping (by simpa [noteFound, hnil] using hfound) hnil r hr
    · rw [List.mem_singleton.1 hr, hrowShipping, hlookup]

theorem shipped_addToCart {shipping : Int → Option Num} {s s' : System} {found : Bool}
    {config : Config} {draft : Draft} (hs : s.Sound) (hship : Shipped shipping found s.app)
    (hconfig : config.Consistent shipping)
    (hguard : FindsAgain (s, found) (.addToCart config draft))
    (h : shop.step s (.addToCart config draft) = some s') :
    Shipped shipping (noteFound s (.addToCart config draft) found) s'.app := by
  rcases System.step_addToCart hs h with ⟨ha, rfl⟩ | ⟨ha, -, rfl⟩ | ⟨ha, row, hrow, rfl⟩
  · -- an empty cart refuses nothing
    have hne : s'.app.con.cartProducts ≠ [] := by
      intro hnil
      have hempty : s'.app.accepts draft.item = true :=
        App.accepts_iff.2 ⟨by simp [hnil], Or.inl hnil⟩
      simp [hempty] at ha
    simpa [noteFound, hne] using hship
  · -- nothing is stored, but the shipping was looked up
    obtain ⟨hlines, hrows, hrowsShipping⟩ := hship.of_accepts ha
    rw [Draft.item_product] at hlines hrows hrowsShipping
    refine ⟨by simpa using hship.known, draft.product.vendorId, by simpa using hlines, hrows, ?_⟩
    intro hfound hne
    have hlookup := lookup_of_found hconfig ha hguard hfound
    rw [App.captured_cartProducts] at hne
    exact ⟨by simp [App.captured, hconfig.1, hlookup],
      hrowsShipping (by simpa [noteFound, hne] using hfound) hne⟩
  · exact shipped_adding hship hconfig ha hguard hrow

theorem shipped_deleteFromCart {shipping : Int → Option Num} {s s' : System} {found : Bool}
    {productId : Option Int} (hs : s.Sound) (hship : Shipped shipping found s.app)
    (h : shop.step s (.deleteFromCart productId) = some s') : Shipped shipping found s'.app := by
  obtain rfl := System.step_deleteFromCart hs h
  obtain ⟨v, hlines, hrows, hshipping⟩ := hship.vendor
  have hleft : ∀ c ∈ (s.app.con.without productId).cartProducts, c ∈ s.app.con.cartProducts := by
    rw [without_cartProducts]
    exact fun c hc => List.mem_of_mem_eraseP hc
  have hkept : (s.app.con.without productId).recount.vendorShipping
      = s.app.con.vendorShipping := (without_fields s.app.con productId).2.2.2.1
  refine ⟨fun row hrow => ?_, v, fun c hc => ?_, fun row hrow => ?_, fun hfound hne => ?_⟩
  · obtain ⟨hmem, hlines'⟩ := App.mem_rowsWithout hrow
    obtain ⟨c, hc, hpaid, hid⟩ := hship.known row hmem
    exact ⟨c.withPoints, List.mem_map_of_mem (hlines' c hc hid), hpaid, hid⟩
  · obtain ⟨d, hd, rfl⟩ := List.mem_map.1 hc
    exact hlines d (hleft d hd)
  · exact hrows row (App.mem_rowsWithout hrow).1
  · -- a line that is left was there before, so the shipping was known
    obtain ⟨c, hc⟩ := List.exists_mem_of_ne_nil _ hne
    obtain ⟨d, hd, rfl⟩ := List.mem_map.1 hc
    obtain ⟨hcon, hall⟩ := hshipping hfound (List.ne_nil_of_mem (hleft d hd))
    exact ⟨hkept.trans hcon, fun row hrow => hall row (App.mem_rowsWithout hrow).1⟩

theorem shipped_refresh {shipping : Int → Option Num} {s s' : System} {found : Bool}
    {session : Session} {answer : Except DartError Json} (hship : Shipped shipping found s.app)
    (he : MultiVendor shipping s (.refresh session answer))
    (h : shop.step s (.refresh session answer) = some s') : Shipped shipping found s'.app := by
  rcases System.step_refresh he.1 h with rfl | rfl | ⟨hne, cartList, details, hupdate, rfl⟩
  · exact hship
  · exact ⟨hship.known, hship.vendor⟩
  · obtain ⟨hposted, hvendor⟩ := he.2 _ hupdate
    obtain ⟨v, hlines, hrows, hshipping⟩ := hship.vendor
    obtain ⟨first, rest, hfirst⟩ := List.exists_cons_of_ne_nil hne
    refine ⟨fun row hrow => ?_, v, fun c hc => ?_, hrows, fun hfound _ => hshipping hfound hne⟩
    · obtain ⟨c, hc, hpaid, hid⟩ := hship.known row hrow
      obtain ⟨d, hd, hdpaid, hdid⟩ := hposted c hc hpaid
      refine ⟨d.repriced.withPoints, List.mem_map_of_mem (List.mem_map_of_mem hd), ?_, ?_⟩
      · exact (congrArg CartItem.isPaid d.repriced_core).trans hdpaid
      · simp [hdid, hid]
    · obtain ⟨c', hc', rfl⟩ := List.mem_map.1 hc
      obtain ⟨d, hd, rfl⟩ := List.mem_map.1 hc'
      simp only [CartItem.withPoints_product, CartItem.repriced_product]
      rw [hvendor d hd first (by simp [hfirst])]
      exact hlines first (by simp [hfirst])

/-- A restart takes the shipping from the first row, where it is the vendor's as in every row. -/
theorem shipped_restart {shipping : Int → Option Num} {s s' : System} {found : Bool}
    (hship : Shipped shipping found s.app) (h : shop.step s .restart = some s') :
    Shipped shipping found s'.app := by
  obtain rfl := System.step_restart h
  obtain ⟨v, hlines, hrows, hshipping⟩ := hship.vendor
  refine ⟨fun row hrow => ?_, v, fun c hc => ?_, hrows, fun hfound hne => ?_⟩
  · exact ⟨row.toItem.withPoints, List.mem_map_of_mem (List.mem_map_of_mem hrow), rfl, rfl⟩
  · obtain ⟨c', hc', rfl⟩ := List.mem_map.1 hc
    obtain ⟨row, hrow, rfl⟩ := List.mem_map.1 hc'
    exact hrows row hrow
  · cases htable : s.app.cartTable with
    | nil => simp [htable, CartDbHelper.getAllProducts] at hne
    | cons row rows =>
        have hrow : row ∈ s.app.cartTable := by simp [htable]
        obtain ⟨c, hc, -⟩ := hship.known row hrow
        obtain ⟨-, hall⟩ := hshipping hfound (List.ne_nil_of_mem hc)
        exact ⟨hall row hrow, by simpa [htable] using hall⟩

/-- Every completed operation that meets the condition keeps the invariant. -/
theorem shipped_step {shipping : Int → Option Num} {s s' : System} {found : Bool} {e : Event}
    (hs : s.Sound) (hship : Shipped shipping found s.app) (he : MultiVendor shipping s e)
    (hguard : FindsAgain (s, found) e) (h : shop.step s e = some s') :
    Shipped shipping (noteFound s e found) s'.app := by
  cases e with
  | addToCart config draft => exact shipped_addToCart hs hship he hguard h
  | deleteFromCart productId => exact shipped_deleteFromCart hs hship h
  | clearCart =>
      obtain rfl := System.step_clearCart h
      exact ⟨by simp, 0, by simp [cleared], by simp, by simp [cleared]⟩
  | refresh session answer => exact shipped_refresh hship he h
  | restart => exact shipped_restart hship h
  | _ => exact he.elim

/-- An operation after which the shipping is still the vendor's meets the condition. -/
theorem findsAgain_of_kept {shipping : Int → Option Num} {s s' : System} {found : Bool} {e : Event}
    (hs : s.Sound) (he : MultiVendor shipping s e) (h : shop.step s e = some s')
    (hs' : ShippingKept shipping (s', noteFound s e found)) : FindsAgain (s, found) e := by
  cases e with
  | addToCart config draft =>
      intro ha hne hfound
      by_contra hlists
      -- the lookup fails, and the text of a shipping is never empty
      have hlookup := getVendorShipping_of_not_lists (Bool.eq_false_iff.2 hlists)
      have hnote : noteFound s (.addToCart config draft) found = true := by
        simpa [noteFound, hne] using hfound
      obtain ⟨first, rest, hfirst⟩ := List.exists_cons_of_ne_nil hne
      have hhead : s.app.con.cartProducts = first :: rest := hfirst
      rcases System.step_addToCart hs h with ⟨hrefused, -⟩ | ⟨-, -, rfl⟩ | ⟨-, row, -, rfl⟩
      · simp [hrefused] at ha
      · have hkept := hs' first (by simp [hhead]) hnote
        simp only [App.captured, he.1, if_true, Draft.item_product, hlookup,
          Option.some.injEq] at hkept
        exact nullableText_ne_empty _ hkept.symm
      · have hkept := hs' first.withPoints (by simp [System.adding, appended, hhead]) hnote
        simp only [System.adding, appended, recount_vendorShipping, App.captured, he.1, if_true,
          Draft.item_product, hlookup, Option.some.injEq] at hkept
        exact nullableText_ne_empty _ hkept.symm
  | _ => trivial

theorem MultiVendor.complete {shipping : Int → Option Num} {s : System} {e : Event}
    (h : MultiVendor shipping s e) : e.Complete := by
  cases e with
  | refresh _ _ => exact h.1
  | answerUpdate _ _ => exact h.elim
  | _ => trivial

/-- From an empty cart: the shipping found for the first line is at every moment what would be
    posted, exactly if every later addition finds the vendor listed too. -/
theorem shippingKept_iff_listed {shipping : Int → Option Num} {events : List Event}
    (henv : (shop.track noteFound).Meets (fun sh e => MultiVendor shipping sh.1 e) ({}, false)
      events) :
    (shop.track noteFound).Throughout (ShippingKept shipping) ({}, false) events ↔
      (shop.track noteFound).Meets FindsAgain ({}, false) events := by
  refine Machine.throughout_iff_meets
    (fun sh => sh.1.Sound ∧ Shipped shipping sh.2 sh.1.app) (fun _ hs => hs.2.kept) ?_ ?_ events ?_
    henv
  · rintro ⟨s, found⟩ e ⟨s', found'⟩ ⟨hs, hship⟩ he hguard h
    obtain ⟨hstep, rfl⟩ := Machine.track_step.1 h
    exact ⟨hs.step he.complete hstep, shipped_step hs hship he hguard hstep⟩
  · rintro ⟨s, found⟩ e ⟨s', found'⟩ ⟨hs, -⟩ he h hs'
    obtain ⟨hstep, rfl⟩ := Machine.track_step.1 h
    exact findsAgain_of_kept hs he hstep hs'
  · exact ⟨System.sound_of_idle (by simp) rfl rfl, by simp, 0, by simp, by simp, by simp⟩

/-! ## A vendor that is no longer listed -/

instance (shipping : Int → Option Num) (config : Config) :
    Decidable (config.Consistent shipping) := inferInstanceAs (Decidable (_ ∧ _))

instance (shipping : Int → Option Num) (sh : System × Bool) :
    Decidable (ShippingKept shipping sh) :=
  inferInstanceAs (Decidable (∀ first ∈ sh.1.app.con.cartProducts.head?, _ → _))

instance (shipping : Int → Option Num) (s : System) (e : Event) :
    Decidable (MultiVendor shipping s e) := by
  apply @Event.casesOn (fun e => Decidable (MultiVendor shipping s e)) e <;> intros <;> infer_instance

instance (sh : System × Bool) (e : Event) : Decidable (FindsAgain sh e) := by
  apply @Event.casesOn (fun e => Decidable (FindsAgain sh e)) e <;> intros <;> infer_instance

/-- Two lines of one vendor, the second added while the vendor is not listed: the shipping is the
    empty text. -/
theorem not_shippingKept_after_filter : ∃ sh,
    (shop.track noteFound).Meets (fun sh e => MultiVendor (fun _ => some (.int 15)) sh.1 e)
      ({}, false) [.addToCart (Sample.multiVendor [7, 8]) (Sample.draft 1 7 (.int 5) 1),
        .addToCart (Sample.multiVendor [8]) (Sample.draft 2 7 (.int 3) 1)] ∧
    (shop.track noteFound).run ({}, false)
      [.addToCart (Sample.multiVendor [7, 8]) (Sample.draft 1 7 (.int 5) 1),
        .addToCart (Sample.multiVendor [8]) (Sample.draft 2 7 (.int 3) 1)] = some sh ∧
    ¬ ShippingKept (fun _ => some (.int 15)) sh := by
  have hrun : ((shop.track noteFound).run ({}, false)
      [.addToCart (Sample.multiVendor [7, 8]) (Sample.draft 1 7 (.int 5) 1),
        .addToCart (Sample.multiVendor [8]) (Sample.draft 2 7 (.int 3) 1)]).any
      (fun sh => decide (¬ ShippingKept (fun _ => some (.int 15)) sh)) = true := by decide +kernel
  obtain ⟨sh, hsh, hlost⟩ := Machine.reaches hrun
  exact ⟨sh, by decide +kernel, hsh, hlost⟩

theorem shippingKept_of_sampleListed :
    (shop.track noteFound).Throughout (ShippingKept fun _ => some (.int 15)) ({}, false)
      [.addToCart (Sample.multiVendor [7, 8]) (Sample.draft 1 7 (.int 5) 1),
        .addToCart (Sample.multiVendor [7]) (Sample.draft 2 7 (.int 3) 1),
        .refresh {} (Sample.answer [Sample.line 1 7 (.int 5) 1 false,
          Sample.line 2 7 (.int 3) 1 false, Sample.line 1 7 (.int 5) 1 true] (.int 0) (.int 8)),
        .deleteFromCart (some 1), .restart] :=
  (shippingKept_iff_listed (by decide +kernel)).2 (by decide +kernel)

end Nourgomla
