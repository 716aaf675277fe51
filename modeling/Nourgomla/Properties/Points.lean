import Nourgomla.SystemSpec

set_option autoImplicit false

/-! # The cached points

`totalPoints` and the field each line posts as its points are caches of `cartItemPoints`. Every
operation ends with `calculateTotalPoints`, which writes both, but does nothing for a cart without
lines. Over the operations that return, the caches are exact at every moment if and only if no
deletion, refresh or load leaves the cart without lines while it has points
(`pointsExact_iff_losesNoPoints`). No line is assumed to have a quantity: that a method returned is
enough. -/

namespace Nourgomla

open Method CartController

/-- Both caches are right: each line has the points `cartItemPoints` gives it, and the cart their
    sum. -/
structure CartController.PointsExact (con : CartController) : Prop where
  lines : ∀ c ∈ con.cartProducts, CartController.cartItemPoints c = .ok c.cartItemPoints
  total : con.totalPoints = (con.cartProducts.map CartItem.cartItemPoints).sum

/-- What the two caches are about. -/
def CartController.pointsView (con : CartController) : List CartItem × Int :=
  (con.cartProducts, con.totalPoints)

theorem pointsExact_congr {a b : CartController} (h : a.pointsView = b.pointsView) :
    a.PointsExact ↔ b.PointsExact := by
  obtain ⟨hlines, htotal⟩ := Prod.mk.inj h
  constructor
  · intro ha
    exact ⟨hlines ▸ ha.lines, hlines ▸ htotal ▸ ha.total⟩
  · intro hb
    exact ⟨hlines ▸ hb.lines, hlines ▸ htotal ▸ hb.total⟩

/-! ## The points loop -/

/-- If the loop returned, every line has points, and each has got its own. -/
theorem exec_calculateTotalPoints_of_ok {con : CartController}
    (h : (calculateTotalPoints.exec con).1 = .ok ()) :
    calculateTotalPoints.exec con = (.ok (), con.pointed) ∧
      ∀ c ∈ con.cartProducts, CartController.cartItemPoints c = .ok c.points := by
  by_cases hnil : con.cartProducts = []
  · rw [exec_calculateTotalPoints (by simp [hnil])]
    exact ⟨rfl, by simp [hnil]⟩
  · have hbodies : ∀ c ∈ con.cartProducts, ∃ n, (addPoints.exec (c, n)).1 = .ok () := by
      refine ok_of_forEachItem (s := 0) ?_
      simpa [calculateTotalPoints, exec_bind, hnil] using h
    have hpoints : ∀ c ∈ con.cartProducts, CartController.cartItemPoints c = .ok c.points := by
      intro c hc
      obtain ⟨n, hn⟩ := hbodies c hc
      cases hline : CartController.cartItemPoints c with
      | error e => simp [addPoints, exec_bind, hline] at hn
      | ok p => simp [CartItem.points, hline, Except.toOption]
    have hturn : ∀ c ∈ con.cartProducts, ∀ n,
        addPoints.exec (c, n) = (.ok (), c.withPoints, n + c.points) := by
      intro c hc n
      simp [addPoints, exec_bind, hpoints c hc, CartItem.withPoints]
    have hloop := forEachItem_eq con.cartProducts hturn 0
    rw [foldl_points, zero_add] at hloop
    refine ⟨?_, hpoints⟩
    simp [calculateTotalPoints, exec_bind, pointed, hnil, hloop]

theorem pointsExact_calculateTotalPoints_iff {con : CartController}
    (h : (calculateTotalPoints.exec con).1 = .ok ()) :
    (calculateTotalPoints.exec con).2.PointsExact
      ↔ (con.cartProducts = [] → con.totalPoints = 0) := by
  obtain ⟨hexec, hlines⟩ := exec_calculateTotalPoints_of_ok h
  rw [hexec]
  constructor
  · intro hexact hnil
    have htotal := hexact.total
    simpa [pointed, hnil] using htotal
  · intro hempty
    refine ⟨fun c hc => ?_, ?_⟩
    · obtain ⟨d, hd, rfl⟩ := List.mem_map.1 hc
      exact hlines d hd
    · by_cases hnil : con.cartProducts = []
      · simp [pointed, hnil, hempty hnil]
      · simp only [pointed, if_neg hnil, linesPoints, List.map_map]
        rfl

/-- The same for a body that goes on after the loop and leaves lines and points alone. -/
theorem pointsExact_bind_iff {β : Type} {k : PUnit → Method DartError CartController β}
    (hk : ∀ a, Keeps pointsView (k a)) {con : CartController} {b : β}
    (h : ((calculateTotalPoints >>= k).exec con).1 = .ok b) :
    ((calculateTotalPoints >>= k).exec con).2.PointsExact
      ↔ (con.cartProducts = [] → con.totalPoints = 0) := by
  obtain ⟨_, _, hloop, -⟩ := ok_of_exec_bind h
  rw [pointsExact_congr (view_bind hk con)]
  exact pointsExact_calculateTotalPoints_iff (congrArg Prod.fst hloop)

theorem keeps_pointsView_changeTotalPrice : Keeps pointsView changeTotalPrice := by
  refine keeps_bind (keeps_modify fun _ => rfl) fun _ => keeps_onPart fun con => ?_
  have hlines := map_forEachItem (v := id) keeps_line_addTotal con.cartProducts con.cartTotalPrices
  rw [List.map_id, List.map_id] at hlines
  simp [pointsView, hlines]

/-! ## The methods that call it -/

theorem pointsExact_appendLine {cart : CartItem} {con : CartController}
    (h : ((appendLine cart).exec con).1 = .ok ()) :
    ((appendLine cart).exec con).2.PointsExact := by
  have hiff := @pointsExact_bind_iff _ _ (fun _ => keeps_pointsView_changeTotalPrice)
    (con.appended cart) _ h
  refine hiff.2 fun hnil => ?_
  simp [appended] at hnil

theorem pointsExact_removeLine_iff {productId : Option Int} {con : CartController}
    (h : ((removeLine productId).exec con).1 = .ok ()) :
    ((removeLine productId).exec con).2.PointsExact
      ↔ ((con.without productId).cartProducts = [] → con.totalPoints = 0) := by
  have hpoints : (con.without productId).totalPoints = con.totalPoints := by
    simp only [without]
    split <;> rfl
  rw [← hpoints]
  exact @pointsExact_bind_iff _ _ (fun _ => keeps_pointsView_changeTotalPrice)
    (con.without productId) _ h

theorem pointsExact_writeQuantity {productId : Option Int} {quantity : Int} {con : CartController}
    (h : ((writeQuantity productId quantity).exec con).1 = .ok ()) :
    ((writeQuantity productId quantity).exec con).2.PointsExact := by
  cases hfind : con.getCartById productId with
  | none => simp [exec_writeQuantity_none quantity hfind] at h
  | some cart =>
      have hrest := exec_bind_ok (k := fun _ => calculateTotalPoints)
        (exec_onCartById quantity hfind)
      have hexec : (writeQuantity productId quantity).exec con
          = calculateTotalPoints.exec (con.withQuantity productId quantity) := hrest
      rw [hexec] at h ⊢
      refine (pointsExact_calculateTotalPoints_iff h).2 fun hnil => ?_
      -- the line that was found is still there
      obtain ⟨pre, post, -, -, -, hup, -⟩ := find?_split hfind
      simp [withQuantity, hup] at hnil

theorem pointsExact_assignAnswer_iff {cartList : List CartItem} {details : CartDetails}
    {con : CartController} (h : ((assignAnswer cartList details).exec con).1 = .ok ()) :
    ((assignAnswer cartList details).exec con).2.PointsExact
      ↔ (cartList = [] → con.totalPoints = 0) := by
  simp only [assignAnswer, exec_modify_bind] at h ⊢
  obtain ⟨_, con', hloop, hok⟩ := ok_of_exec_bind h
  rw [exec_bind_ok hloop, pointsExact_calculateTotalPoints_iff hok]
  obtain rfl := congrArg Prod.snd hloop
  -- the pricing loop has a line for every line of the answer
  have hlength := congrArg List.length (map_forEachItem keeps_core_addFreshTotal cartList 0)
  simp only [List.length_map] at hlength
  simp only [exec_onPart, exec_forEach, ← List.length_eq_zero_iff, hlength]

theorem pointsExact_assignLines_iff {cartList : List CartItem} {con : CartController}
    (h : ((assignLines cartList).exec con).1 = .ok ()) :
    ((assignLines cartList).exec con).2.PointsExact ↔ (cartList = [] → con.totalPoints = 0) := by
  have hrest : ∀ a : PUnit, Keeps pointsView (do
      modify fun con => { con with isLoading := false }
      changeTotalPrice : Method DartError CartController Unit) :=
    fun _ => keeps_bind (keeps_modify fun _ => rfl) fun _ => keeps_pointsView_changeTotalPrice
  simp only [assignLines, exec_modify_bind] at h ⊢
  rw [pointsExact_bind_iff hrest h]
  cases cartList <;> simp

/-! ## Runs -/

/-- The operations, each completed: `getAllProducts` from its query to its last line, a refresh that
    succeeds, and the others without an exception. Opening the app loads the table into a fresh
    controller. -/
@[reducible] def Completed (s : System) : Event → Prop
  | .addToCart config draft => s.returned (App.addToCart config draft.item) = some ()
  | .changeQuantity productId quantity =>
    s.returned (App.changeQuantity productId quantity) = some ()
  | .deleteFromCart productId => s.returned (App.deleteFromCart productId) = some ()
  | .refresh session answer => s.returned (App.updateCartData session answer) = some true
  | .finishLoad k => ∀ cartList ∈ s.queries[k]?,
      s.returned (App.getAllProductsAssign cartList) = some ()
  | .clearCart | .startLoad | .restart => True
  | _ => False

/-- The operation does not leave the cart without lines while it has points. -/
@[reducible] def LosesNoPoints (s : System) : Event → Prop
  | .deleteFromCart productId =>
    (s.app.con.without productId).cartProducts = [] → s.app.con.totalPoints = 0
  | .refresh _ answer => ∀ r ∈ CartServices.cartUpdate answer, r.1 = [] → s.app.con.totalPoints = 0
  | .finishLoad k => ∀ cartList ∈ s.queries[k]?, cartList = [] → s.app.con.totalPoints = 0
  | _ => True

theorem ok_of_returned {α : Type} {s : System} {m : Method DartError App α} {a : α}
    (h : s.returned m = some a) : (m.exec s.app).1 = .ok a :=
  System.returned_eq_some.1 h

theorem pointsExact_opened (table : List CartRow) :
    (System.opened table).app.con.PointsExact := by
  have hok : ((assignLines (CartDbHelper.getAllProducts table)).exec
      (({} : App).loading).con).1 = .ok () := by
    rw [exec_assignLines (App.soundLines_getAllProducts table)]
  exact (pointsExact_assignLines_iff hok).2 fun _ => rfl

/-- Each completed operation keeps the points exact, or makes them so, if it loses none, and not
    otherwise. -/
theorem pointsExact_step_iff {s s' : System} {e : Event} (hs : s.app.con.PointsExact)
    (he : Completed s e) (h : shop.step s e = some s') :
    s'.app.con.PointsExact ↔ LosesNoPoints s e := by
  cases e with
  | addToCart config draft =>
      obtain rfl := (Option.some.inj h).symm
      have hok := ok_of_returned he
      refine iff_of_true ?_ trivial
      rcases App.addToCart_cases config draft.item s.app with
        ⟨-, hexec⟩ | ⟨-, -, hexec⟩ | ⟨-, row, -, hexec⟩
      · simpa [System.perform, hexec] using hs
      · simp [hexec] at hok
      · rw [hexec, App.addToCartAppend, App.exec_inCon] at hok
        rw [System.perform, hexec]
        exact pointsExact_appendLine hok
  | changeQuantity productId quantity =>
      obtain rfl := (Option.some.inj h).symm
      refine iff_of_true ?_ trivial
      obtain ⟨_, _, hwrite, -⟩ := ok_of_exec_bind (ok_of_returned he)
      have hexact := pointsExact_writeQuantity (congrArg Prod.fst hwrite)
      -- the rest writes a row and the total
      have hrest : ∀ a : PUnit, Keeps (fun app : App => app.con.pointsView) (do
          App.inDb (CartDbHelper.updateProductQuantity quantity productId)
          App.inCon changeTotalPrice : Method DartError App Unit) :=
        fun _ => keeps_bind (fun _ => rfl) fun _ app => keeps_pointsView_changeTotalPrice app.con
      exact (pointsExact_congr (view_bind hrest s.app)).2 hexact
  | deleteFromCart productId =>
      obtain rfl := (Option.some.inj h).symm
      have hok := App.ok_of_deleteFromCart (ok_of_returned he)
      rw [System.perform, App.con_deleteFromCart]
      exact pointsExact_removeLine_iff hok
  | clearCart =>
      obtain rfl := System.step_clearCart h
      exact iff_of_true ⟨by simp [cleared], by simp [cleared]⟩ trivial
  | refresh session answer =>
      obtain rfl := (Option.some.inj h).symm
      obtain ⟨-, -, cartList, details, hanswer, hassign, -⟩ :=
        App.updateCartData_true (Prod.ext (ok_of_returned he) rfl)
      have hexact := pointsExact_assignAnswer_iff (congrArg Prod.fst hassign)
      rw [hassign] at hexact
      refine hexact.trans ⟨fun hempty r hr => ?_, fun hguard => hguard _ hanswer⟩
      obtain rfl := Option.some.inj (hanswer.symm.trans hr)
      exact hempty
  | startLoad =>
      obtain rfl := System.step_startLoad h
      exact iff_of_true ((pointsExact_congr (by rfl)).1 hs) trivial
  | finishLoad k =>
      obtain ⟨cartList, hquery, rfl⟩ := Option.map_eq_some_iff.1 h
      have hok : ((assignLines cartList).exec s.app.con).1 = .ok () :=
        ok_of_returned (he cartList hquery)
      simp only [LosesNoPoints, hquery, Option.mem_def, Option.some.injEq, forall_eq']
      exact pointsExact_assignLines_iff hok
  | restart =>
      obtain rfl := (Option.some.inj h).symm
      exact iff_of_true (pointsExact_opened s.app.cartTable) trivial
  | _ => exact he.elim

/-- From the start of the app on any table, over any completed operations: the cart's points are at
    every moment the sum of the points of its lines, each as `cartItemPoints` gives them, exactly if
    no deletion, refresh or load leaves the cart without lines while it has points. -/
theorem pointsExact_iff_losesNoPoints {table : List CartRow} {events : List Event}
    (henv : shop.Meets Completed (System.opened table) events) :
    shop.Throughout (fun s => s.app.con.PointsExact) (System.opened table) events
      ↔ shop.Meets LosesNoPoints (System.opened table) events := by
  refine Machine.throughout_iff_of_good_step ?_ events (pointsExact_opened table) henv
  intro s e s' hs he h
  exact pointsExact_step_iff hs he h

/-! ## Points of a line that is gone -/

instance (con : CartController) : Decidable con.PointsExact :=
  decidable_of_iff ((∀ c ∈ con.cartProducts, CartController.cartItemPoints c = .ok c.cartItemPoints)
      ∧ con.totalPoints = (con.cartProducts.map CartItem.cartItemPoints).sum)
    ⟨fun h => ⟨h.1, h.2⟩, fun h => ⟨h.lines, h.total⟩⟩

instance (s : System) (e : Event) : Decidable (Completed s e) := by
  apply @Event.casesOn (fun e => Decidable (Completed s e)) e <;> intros <;> infer_instance

instance (s : System) (e : Event) : Decidable (LosesNoPoints s e) := by
  apply @Event.casesOn (fun e => Decidable (LosesNoPoints s e)) e <;> intros <;> infer_instance

/-- One item with four points is added and removed again: the empty cart still has four points. -/
theorem not_pointsExact_after_deleteFromCart : ∃ s,
    shop.Meets Completed (System.opened []) [.addToCart Sample.singleVendor
      (Sample.draft 1 7 (.int 5) 1), .deleteFromCart (some 1)] ∧
    shop.run (System.opened []) [.addToCart Sample.singleVendor (Sample.draft 1 7 (.int 5) 1),
      .deleteFromCart (some 1)] = some s ∧
    s.app.con.cartProducts = [] ∧ s.app.con.totalPoints = 4 ∧ ¬ s.app.con.PointsExact := by
  obtain ⟨s, hrun, hs⟩ : ∃ s, shop.run (System.opened []) [.addToCart Sample.singleVendor
      (Sample.draft 1 7 (.int 5) 1), .deleteFromCart (some 1)] = some s ∧
      s.app.con.cartProducts = [] ∧ s.app.con.totalPoints = 4 ∧ ¬ s.app.con.PointsExact :=
    Machine.reaches (by decide +kernel)
  exact ⟨s, by decide +kernel, hrun, hs⟩

/-- A session with a refresh and a load, that empties its cart by clearing it. -/
theorem pointsExact_of_sampleEdits : shop.Throughout (fun s => s.app.con.PointsExact)
    (System.opened []) [
      .addToCart Sample.singleVendor (Sample.draft 1 7 (.double (25 / 2)) 2),
      .addToCart Sample.singleVendor (Sample.draft 2 7 (.int 3) 1), .changeQuantity (some 2) 4,
      .refresh {} (Sample.answer [Sample.line 1 7 (.double (25 / 2)) 2 false,
        Sample.line 2 7 (.int 3) 4 false] (.int 0) (.int 37)),
      .deleteFromCart (some 1), .startLoad, .finishLoad 0, .clearCart] :=
  (pointsExact_iff_losesNoPoints (by decide +kernel)).2 (by decide +kernel)

end Nourgomla
