import Nourgomla.SystemSpec

set_option autoImplicit false

/-! # The cart after a restart

The cart table has a row for every line in memory, in the same order. `changeQuantity` writes only
the quantity column, so a row keeps the total the line had before; and `deleteFromCart` does not
reset the points of a cart it empties. A fresh controller restores the cart in memory, at every
moment of a run, exactly if no quantity is written that changes its line's total and no last line is
removed that earns points (`restorable_iff_storesAll`). -/

namespace Nourgomla

open Method CartController

/-! ## A line and its row -/

/-- What a restart should bring back of a line. -/
structure LineView where
  productId : Option Int
  vendorId : Int
  type : Option Int
  quantity : Option Int
  unitPrice : Option Rat
  stock : Option Int
  minimumOrder : Int
  maxOrder : Int
  vendorShipping : Option String
  totalPrice : Option Rat
deriving DecidableEq

def CartItem.view (c : CartItem) : LineView :=
  { productId := c.product.id
    vendorId := c.product.vendorId
    type := c.type
    quantity := c.quantity
    unitPrice := c.unitPrice
    stock := c.selectedPackagingStock
    minimumOrder := c.product.minimumOrder
    maxOrder := c.product.maxOrder
    vendorShipping := c.vendorShipping
    totalPrice := c.totalPrice }

@[simp] theorem CartItem.withPoints_view (c : CartItem) : c.withPoints.view = c.view := rfl
@[simp] theorem CartItem.withPoints_toRow (c : CartItem) : c.withPoints.toRow = c.toRow := rfl
@[simp] theorem CartItem.withPoints_points (c : CartItem) : c.withPoints.points = c.points := rfl

/-- The effective price survives the INTEGER columns, a missing sale price being stored as 0. -/
theorem salePrice_stored (c : CartItem) {price stored : Num} (h : stored.toRat = price.toRat) :
    (c.stored.salePrice.getD stored).toRat = (c.salePrice.getD price).toRat := by
  have hzero : (Num.int 0).toRat = 0 := by simp [Num.toRat]
  unfold CartItem.salePrice CartItem.stored
  cases c.selectedSalePrice with
  | none => simp [Option.filter, hzero, h]
  | some p =>
      by_cases hp : 0 < p.toRat
      · simp [Option.filter, hp]
      · simp [Option.filter, hp, h]

theorem unitPrice_stored (c : CartItem) : c.stored.unitPrice = c.unitPrice := by
  unfold CartItem.unitPrice Product.packagePrice
  simp only [show c.stored.type = c.type from rfl]
  split
  · exact congrArg some (salePrice_stored c (Num.toRat_inIntegerColumn _))
  · exact congrArg some (salePrice_stored c (Num.toRat_inIntegerColumn _))
  · exact congrArg some (salePrice_stored c (Num.toRat_inIntegerColumn _))
  · rfl

@[simp] theorem view_stored (c : CartItem) : c.stored.view = c.view := by
  simp only [CartItem.view, unitPrice_stored]
  rfl

@[simp] theorem points_stored (c : CartItem) : c.stored.points = c.points := rfl

/-! ## The table and the lines -/

/-- The table has exactly the rows of the lines, in their order. -/
def RowsOf (lines : List CartItem) (table : List CartRow) : Prop :=
  lines.map CartItem.toRow = table.map some

theorem RowsOf.items {lines : List CartItem} {table : List CartRow} (h : RowsOf lines table) :
    CartDbHelper.getAllProducts table = lines.map CartItem.stored := by
  induction lines generalizing table with
  | nil =>
      obtain rfl : table = [] := List.map_eq_nil_iff.1 h.symm
      rfl
  | cons c lines ih =>
      cases table with
      | nil => simp [RowsOf] at h
      | cons row table =>
          simp only [RowsOf, List.map_cons, List.cons.injEq] at h
          obtain ⟨hrow, hrest⟩ := h
          simp only [CartDbHelper.getAllProducts, List.map_cons] at ih ⊢
          rw [(CartItem.toItem_of_toRow hrow).1, ih hrest]

theorem RowsOf.exists_row {lines : List CartItem} {table : List CartRow} (h : RowsOf lines table)
    {c : CartItem} (hc : c ∈ lines) : ∃ row, c.toRow = some row := by
  have hmem : c.toRow ∈ table.map some := h ▸ List.mem_map_of_mem hc
  obtain ⟨row, -, hrow⟩ := List.mem_map.1 hmem
  exact ⟨row, hrow.symm⟩

theorem RowsOf.append {lines : List CartItem} {table : List CartRow} (h : RowsOf lines table)
    {c : CartItem} {row : CartRow} (hrow : c.toRow = some row) :
    RowsOf (lines ++ [c]) (table ++ [row]) := by
  simp only [RowsOf, List.map_append, List.map_cons, List.map_nil, hrow]
  rw [h]

/-- Deleting by id from both: the rows stay those of the lines. -/
theorem RowsOf.filter {lines : List CartItem} {table : List CartRow} (h : RowsOf lines table)
    (productId : Option Int) :
    RowsOf (lines.filter fun c => c.product.id ≠ productId)
      (table.filter fun row => some row.id ≠ productId) := by
  have hsame : lines.filter (fun c => c.product.id ≠ productId)
      = lines.filter ((fun o : Option CartRow => o.any fun row => some row.id ≠ productId)
          ∘ CartItem.toRow) :=
    List.filter_congr fun c hc => by
      obtain ⟨row, hrow⟩ := h.exists_row hc
      simp [hrow, (CartItem.toRow_eq_some hrow).1]
  unfold RowsOf
  rw [hsame, ← List.filter_map, h, List.filter_map]
  rfl

/-- The line with its quantity written and nothing else. -/
def setQuantity (quantity : Int) (c : CartItem) : CartItem := { c with quantity := some quantity }

/-- Writing the quantity by id in both. -/
theorem RowsOf.setQuantity {lines : List CartItem} {table : List CartRow} (h : RowsOf lines table)
    (productId : Option Int) (quantity : Int) :
    RowsOf (lines.map fun c => if c.product.id = productId then setQuantity quantity c else c)
      (App.rowsWithQuantity table productId quantity) := by
  have hline : ∀ c ∈ lines,
      (if c.product.id = productId then Nourgomla.setQuantity quantity c else c).toRow
        = c.toRow.map (App.rowWithQuantity productId quantity) := by
    intro c hc
    obtain ⟨row, hrow⟩ := h.exists_row hc
    rw [(CartItem.toRow_eq_some hrow).1, hrow, Option.map_some, App.rowWithQuantity]
    split
    · exact (CartItem.toItem_of_toRow hrow).2 quantity
    · exact hrow
  calc (lines.map _).map CartItem.toRow
      = lines.map (fun c => c.toRow.map (App.rowWithQuantity productId quantity)) := by
        rw [List.map_map]
        exact List.map_congr_left hline
    _ = (table.map some).map (Option.map (App.rowWithQuantity productId quantity)) := by
        rw [← h, List.map_map]
        rfl
    _ = (App.rowsWithQuantity table productId quantity).map some := by
        rw [App.rowsWithQuantity, List.map_map, List.map_map]
        rfl

/-! ## What a restart restores -/

/-- The controller a fresh start builds from the table. -/
def restored (app : App) : CartController := (App.restart.exec app).2.con

/-- A restart restores the cart in memory: its lines, its total and its points. -/
def Restorable (s : System) : Prop :=
  (restored s.app).cartProducts.map CartItem.view = s.app.con.cartProducts.map CartItem.view ∧
    (restored s.app).cartTotalPrices = s.app.con.cartTotalPrices ∧
    (restored s.app).totalPoints = s.app.con.totalPoints

theorem restored_of_rows (app : App) {lines : List CartItem} (h : RowsOf lines app.cartTable)
    (hpaid : ∀ c ∈ lines, c.isPaid = true) :
    (restored app).cartProducts.map CartItem.view = lines.map CartItem.view ∧
      (restored app).cartTotalPrices = paidTotal lines ∧
      (restored app).totalPoints = linesPoints lines := by
  have hstored : ∀ c ∈ lines, c.stored.isPaid = c.isPaid ∧ c.stored.totalPrice = c.totalPrice :=
    fun c hc => ⟨(hpaid c hc).symm, rfl⟩
  rw [restored, App.exec_restart, h.items]
  refine ⟨?_, ?_, ?_⟩
  · simp [List.map_map, Function.comp_def]
  · rw [recount_cartTotalPrices, loaded_cartProducts, paidTotal_map hstored]
  · cases lines <;> simp [recount, pointed, loaded, linesPoints, App.loading, Function.comp_def]

/-! ## The invariant -/

/-- Memory and table agree. -/
structure Stored (app : App) : Prop where
  rows : RowsOf app.con.cartProducts app.cartTable
  ids : (app.con.cartProducts.map (·.product.id)).Nodup
  paid : ∀ c ∈ app.con.cartProducts, c.isPaid = true
  total : app.con.cartTotalPrices = paidTotal app.con.cartProducts
  points : app.con.totalPoints = linesPoints app.con.cartProducts

theorem Stored.restorable {s : System} (h : Stored s.app) : Restorable s := by
  obtain ⟨hlines, htotal, hpoints⟩ := restored_of_rows s.app h.rows h.paid
  exact ⟨hlines, htotal.trans h.total.symm, hpoints.trans h.points.symm⟩

/-- A recounted controller agrees with the table if its lines do, and if no points are left over
    from a cart that is now empty. -/
theorem stored_recount {con : CartController} {table : List CartRow}
    (hrows : RowsOf con.cartProducts table) (hids : (con.cartProducts.map (·.product.id)).Nodup)
    (hpaid : ∀ c ∈ con.cartProducts, c.isPaid = true)
    (hpoints : con.cartProducts = [] → con.totalPoints = 0) :
    Stored { con := con.recount, cartTable := table } where
  rows := by
    rw [RowsOf, recount_cartProducts, List.map_map]
    exact hrows
  ids := by
    rw [recount_cartProducts, List.map_map]
    exact hids
  paid c hc := by
    obtain ⟨d, hd, rfl⟩ := List.mem_map.1 hc
    exact hpaid d hd
  total := (paidTotal_withPoints con.cartProducts).symm
  points := by
    cases hlines : con.cartProducts with
    | nil => simp [recount, pointed, hlines, hpoints hlines, linesPoints]
    | cons c cs => simp [recount, pointed, hlines, linesPoints, Function.comp_def]

/-- The operations that change the cart without a server. -/
@[reducible] def Offline : Event → Prop
  | .addToCart _ _ | .changeQuantity _ _ | .deleteFromCart _ | .clearCart => True
  | _ => False

/-- The edit is one the table and the cached points can follow: the quantity does not change the
    total of its line, the line removed is not the last one or earns no points. -/
def StoresAll (s : System) : Event → Prop
  | .changeQuantity productId quantity => ∀ c, s.app.con.getCartById productId = some c →
      ∀ t, (setQuantity quantity c).newTotal = .ok (some t) → c.totalPrice = some t
  | .deleteFromCart productId => ∀ c, s.app.con.getCartById productId = some c →
      s.app.con.cartProducts = [c] → c.points = 0
  | _ => True

theorem requantified_totalPrice_iff {c : CartItem} {quantity : Int} :
    (requantified quantity c).totalPrice = c.totalPrice ↔
      ∀ t, (setQuantity quantity c).newTotal = .ok (some t) → c.totalPrice = some t := by
  obtain ⟨t, ht⟩ := CartItem.newTotal_ok (c := setQuantity quantity c) rfl
  have heq : requantified quantity c = _ := CartItem.repriced_eq ht
  rw [heq, ht]
  cases t with
  | none => simp
  | some t => simp [eq_comm]

theorem requantified_eq {c : CartItem} {quantity : Int}
    (h : (requantified quantity c).totalPrice = c.totalPrice) :
    requantified quantity c = setQuantity quantity c := by
  obtain ⟨t, ht⟩ := CartItem.newTotal_ok (c := setQuantity quantity c) rfl
  have heq : requantified quantity c = _ := CartItem.repriced_eq ht
  rw [heq] at h ⊢
  simp only [setQuantity] at h ⊢
  rw [h]

/-! ## Steps -/

/-- The lines `deleteFromCart` leaves and the rows it leaves are still each other's. -/
theorem rowsOf_without {app : App} (h : Stored app) (productId : Option Int) :
    RowsOf (app.con.without productId).cartProducts (app.rowsWithout productId) := by
  rw [without_cartProducts, App.rowsWithout]
  split
  · rename_i hfind
    rw [eraseP_of_find?_none hfind]
    exact h.rows
  · rw [eraseP_eq_filter hasId_iff h.ids]
    exact h.rows.filter productId

/-- The lines `changeQuantity` leaves. -/
theorem withQuantity_lines {app : App} (h : Stored app) (productId : Option Int) (quantity : Int) :
    (app.con.withQuantity productId quantity).cartProducts = app.con.cartProducts.map fun c =>
      if c.product.id = productId then requantified quantity c else c :=
  updateFirst_eq_map hasId_iff h.ids (requantified quantity)

/-- The points that are left over when the last line is removed. -/
theorem linesPoints_of_eraseP {con : CartController} {productId : Option Int}
    (hnil : con.cartProducts.eraseP (hasId productId) = [])
    (hguard : ∀ c, con.getCartById productId = some c → con.cartProducts = [c] → c.points = 0) :
    linesPoints con.cartProducts = 0 := by
  cases hfind : con.getCartById productId with
  | none =>
      rw [eraseP_of_find?_none hfind] at hnil
      simp [hnil, linesPoints]
  | some c =>
      obtain ⟨pre, post, hl, -, -, -, her⟩ := find?_split hfind
      rw [her, List.append_eq_nil_iff] at hnil
      obtain ⟨rfl, rfl⟩ := hnil
      simp [hl, linesPoints, hguard c hfind hl]

theorem stored_addToCart {s s' : System} {config : Config} {draft : Draft} (hs : s.Sound)
    (hstored : Stored s.app) (h : shop.step s (.addToCart config draft) = some s') :
    Stored s'.app := by
  rcases System.step_addToCart hs h with ⟨-, rfl⟩ | ⟨-, -, rfl⟩ | ⟨ha, row, hrow, rfl⟩
  · exact hstored
  · -- the table refuses the row; only the captured shipping has changed
    obtain ⟨shipping, hcaptured⟩ := App.captured_eq config draft.item s.app.con
    rw [hcaptured]
    exact ⟨hstored.rows, hstored.ids, hstored.paid, hstored.total, hstored.points⟩
  · obtain ⟨hnew, -⟩ := App.accepts_iff.1 ha
    refine stored_recount ?_ ?_ ?_ (by simp [appended])
    · rw [appended, App.captured_cartProducts]
      exact hstored.rows.append hrow
    · rw [appended, App.captured_cartProducts, List.map_append, List.nodup_append]
      refine ⟨hstored.ids, by simp, ?_⟩
      simpa using hnew
    · rw [appended, App.captured_cartProducts]
      intro c hc
      rcases List.mem_append.1 hc with hc | hc
      · exact hstored.paid c hc
      · simp [List.mem_singleton.1 hc]

theorem stored_changeQuantity {s s' : System} {productId : Option Int} {quantity : Int}
    (hs : s.Sound) (hstored : Stored s.app)
    (hguard : StoresAll s (.changeQuantity productId quantity))
    (h : shop.step s (.changeQuantity productId quantity) = some s') : Stored s'.app := by
  rcases System.step_changeQuantity hs h with ⟨-, rfl⟩ | ⟨cart, hfind, rfl⟩
  · exact hstored
  · -- the guard: pricing the line anew changes nothing that its row does not have
    have hline : ∀ c ∈ s.app.con.cartProducts,
        (if c.product.id = productId then requantified quantity c else c)
          = if c.product.id = productId then setQuantity quantity c else c := by
      intro c hc
      split
      · rename_i hid
        exact requantified_eq (requantified_totalPrice_iff.2
          (hguard c ((find?_eq_some_iff_key hasId_iff hstored.ids).2 ⟨hc, hid⟩)))
      · rfl
    have hlines := (withQuantity_lines hstored productId quantity).trans
      (List.map_congr_left hline)
    have hids : (updateFirst (hasId productId) (requantified quantity)
        s.app.con.cartProducts).map (·.product.id) = s.app.con.cartProducts.map (·.product.id) :=
      map_updateFirst fun c _ => by simp
    refine stored_recount ?_ ?_ ?_ ?_
    · rw [hlines]
      exact hstored.rows.setQuantity productId quantity
    · rw [withQuantity, hids]
      exact hstored.ids
    · exact forall_mem_updateFirst hstored.paid fun c hc => by
        simpa using hstored.paid c (List.mem_of_find?_eq_some hc)
    · intro hnil
      rw [withQuantity_lines hstored, List.map_eq_nil_iff] at hnil
      simp [getCartById, hnil] at hfind

theorem stored_deleteFromCart {s s' : System} {productId : Option Int} (hs : s.Sound)
    (hstored : Stored s.app) (hguard : StoresAll s (.deleteFromCart productId))
    (h : shop.step s (.deleteFromCart productId) = some s') : Stored s'.app := by
  obtain rfl := System.step_deleteFromCart hs h
  refine stored_recount (rowsOf_without hstored productId) ?_ ?_ ?_
  · rw [without_cartProducts]
    exact hstored.ids.sublist (List.eraseP_sublist.map _)
  · rw [without_cartProducts]
    exact fun c hc => hstored.paid c (List.mem_of_mem_eraseP hc)
  · intro hnil
    rw [(without_fields s.app.con productId).2.2.2.2, hstored.points]
    rw [without_cartProducts] at hnil
    exact linesPoints_of_eraseP hnil hguard

/-- Memory and table still agree after an operation that meets the condition. -/
theorem stored_step {s s' : System} {e : Event} (hs : s.Sound) (hstored : Stored s.app)
    (he : Offline e) (hguard : StoresAll s e) (h : shop.step s e = some s') : Stored s'.app := by
  cases e with
  | addToCart config draft => exact stored_addToCart hs hstored h
  | changeQuantity productId quantity => exact stored_changeQuantity hs hstored hguard h
  | deleteFromCart productId => exact stored_deleteFromCart hs hstored hguard h
  | clearCart =>
      obtain rfl := System.step_clearCart h
      exact ⟨rfl, List.nodup_nil, by simp [cleared], rfl, rfl⟩
  | _ => exact he.elim

/-- An operation after which a restart would still restore the cart meets the condition. -/
theorem storesAll_of_restorable {s s' : System} {e : Event} (hs : s.Sound)
    (hstored : Stored s.app) (h : shop.step s e = some s') (hs' : Restorable s') :
    StoresAll s e := by
  cases e with
  | changeQuantity productId quantity =>
      intro c hfind
      rcases System.step_changeQuantity hs h with ⟨hnone, -⟩ | ⟨cart, -, rfl⟩
      · simp [hnone] at hfind
      · -- the table brings back the lines with the quantity written and the old totals
        have hrows := hstored.rows.setQuantity productId quantity
        have hpaid : ∀ c ∈ s.app.con.cartProducts.map fun c =>
            if c.product.id = productId then setQuantity quantity c else c, c.isPaid = true := by
          intro c hc
          obtain ⟨d, hd, rfl⟩ := List.mem_map.1 hc
          have hd' := hstored.paid d hd
          split
          · exact hd'
          · exact hd'
        have hviews : (s.app.con.cartProducts.map fun c =>
            if c.product.id = productId then setQuantity quantity c else c).map CartItem.view
              = ((s.app.con.withQuantity productId quantity).recount.cartProducts).map
                CartItem.view :=
          (restored_of_rows ⟨_, _⟩ hrows hpaid).1.symm.trans hs'.1
        rw [recount_cartProducts, withQuantity_lines hstored, List.map_map, List.map_map,
          List.map_map, List.map_inj_left] at hviews
        obtain ⟨hc, hid⟩ := (find?_eq_some_iff_key hasId_iff hstored.ids).1 hfind
        have hview := hviews c hc
        simp only [Function.comp_apply, if_pos hid, CartItem.withPoints_view] at hview
        exact requantified_totalPrice_iff.1 (congrArg LineView.totalPrice hview).symm
  | deleteFromCart productId =>
      intro c hfind hone
      obtain rfl := System.step_deleteFromCart hs h
      have hnil : (s.app.con.without productId).cartProducts = [] := by
        have hid : hasId productId c = true := List.find?_some hfind
        rw [without_cartProducts, hone, List.eraseP_cons_of_pos hid]
      -- a restart over no rows has no points
      have hrows := rowsOf_without hstored productId
      rw [hnil] at hrows
      have hpoints := (restored_of_rows ⟨_, _⟩ hrows (by simp)).2.2.symm.trans hs'.2.2
      simp only [recount, pointed, hnil, if_true] at hpoints
      rw [(without_fields s.app.con productId).2.2.2.2, hstored.points, hone] at hpoints
      simpa [linesPoints, eq_comm] using hpoints
  | _ => trivial

theorem Offline.complete {e : Event} (h : Offline e) : e.Complete := by
  cases e with
  | refresh _ _ => exact h.elim
  | answerUpdate _ _ => exact h.elim
  | _ => trivial

/-- After any operations on an empty cart, a restart would at every moment restore the cart in
    memory exactly if no quantity that changes its line's total is written and no last line that
    earns points is removed. -/
theorem restorable_iff_storesAll {events : List Event}
    (henv : shop.Meets (fun _ e => Offline e) {} events) :
    shop.Throughout Restorable {} events ↔ shop.Meets StoresAll {} events := by
  refine Machine.throughout_iff_meets (fun s => s.Sound ∧ Stored s.app)
    (fun _ hs => hs.2.restorable) ?_ ?_ events ?_ henv
  · exact fun s e s' hs he hguard h =>
      ⟨hs.1.step he.complete h, stored_step hs.1 hs.2 he hguard h⟩
  · exact fun s e s' hs _ h hs' => storesAll_of_restorable hs.1 hs.2 h hs'
  · exact ⟨System.sound_of_idle (by simp) rfl rfl, rfl, List.nodup_nil, by simp, rfl, rfl⟩

/-! ## A quantity written before a restart -/

instance (s : System) : Decidable (Restorable s) := inferInstanceAs (Decidable (_ ∧ _))

instance (e : Event) : Decidable (Offline e) := by
  apply @Event.casesOn (fun e => Decidable (Offline e)) e <;> intros <;> infer_instance

instance (s : System) : (e : Event) → Decidable (StoresAll s e)
  | .changeQuantity productId quantity =>
    decidable_of_iff (∀ c ∈ s.app.con.getCartById productId,
        (requantified quantity c).totalPrice = c.totalPrice)
      (forall₂_congr fun _ _ => requantified_totalPrice_iff)
  | .deleteFromCart productId =>
    inferInstanceAs (Decidable (∀ c ∈ s.app.con.getCartById productId,
      s.app.con.cartProducts = [c] → c.points = 0))
  | .addToCart _ _ | .tapAdd _ _ | .resumeAdd _ | .clearCart | .postUpdate _ | .answerUpdate _ _
  | .refresh _ _ | .startLoad | .finishLoad _ | .postCoupon _ | .answerCoupon _ _ | .tapOrder _
  | .insertOrder _ | .answerOrder _ _ | .restart => isTrue trivial

/-- One item for 5 is added and made three: after a restart the cart costs 5 again. -/
theorem not_restorable_after_changeQuantity : ∃ s,
    shop.Meets (fun _ e => Offline e) {} [.addToCart Sample.singleVendor
      (Sample.draft 1 7 (.int 5) 1), .changeQuantity (some 1) 3] ∧
    shop.run {} [.addToCart Sample.singleVendor (Sample.draft 1 7 (.int 5) 1),
      .changeQuantity (some 1) 3] = some s ∧ ¬ Restorable s := by
  have hrun : (shop.run {} [.addToCart Sample.singleVendor (Sample.draft 1 7 (.int 5) 1),
      .changeQuantity (some 1) 3]).any (fun s => decide (¬ Restorable s)) = true := by
    decide +kernel
  obtain ⟨s, hs, hlost⟩ := Machine.reaches hrun
  exact ⟨s, by decide +kernel, hs, hlost⟩

theorem restorable_of_sampleEdits : shop.Throughout Restorable {} [
    .addToCart Sample.singleVendor (Sample.draft 1 7 (.double (25 / 2)) 2),
    .addToCart Sample.singleVendor (Sample.draft 2 7 (.int 3) 1), .changeQuantity (some 1) 2,
    .deleteFromCart (some 1), .clearCart] :=
  (restorable_iff_storesAll (by decide +kernel)).2 (by decide +kernel)

end Nourgomla
