import Nourgomla.SystemSpec
import Mathlib.Data.List.Perm.Basic

set_option autoImplicit false

/-! # Memory and table

An answer to a cart update, and the rows of a query, replace the list in memory as a whole; edits
write to the list and to the table. A run in which no answer and no rows arrive that an edit has
overtaken, and in which no edit is aimed at a gift in place of a paid line, ends with the paid lines
in memory being the rows of the table whenever nothing is on its way (`synced_of_undisturbed`). -/

namespace Nourgomla

open CartController

/-- The rows of a table as posted lines: product, package type and quantity. -/
def rowsJson (table : List CartRow) : List PostedLine := table.map fun row => row.toItem.toJson

/-! ## The property -/

/-- The paid lines in memory are the rows of the table. -/
def App.Agrees (app : App) : Prop :=
  (paidJson app.con.cartProducts).Perm (rowsJson app.cartTable)

/-- With no request and no query on its way, memory and table agree. -/
def Synced (s : System) : Prop := s.updates = [] → s.queries = [] → s.app.Agrees

/-- A controller that was just created: nothing in memory, its first query on the way. -/
def System.opening (table : List CartRow) : System :=
  { app := ({ cartTable := table } : App).loading
    queries := [CartDbHelper.getAllProducts table] }

/-- Cart updates and loads, each in two steps, and edits. The server answers with the paid lines
    that were posted and any gifts. -/
@[reducible] def Exchanges (s : System) : Event → Prop
  | .addToCart _ _ | .changeQuantity _ _ | .deleteFromCart _ | .postUpdate _ | .startLoad
  | .finishLoad _ => True
  | .answerUpdate k answer => ∀ body ∈ s.updates[k]?,
      ∀ r ∈ CartServices.cartUpdate answer, (paidJson r.1).Perm body.productsJson
  | _ => False

/-- The line found under a product id is the only paid one of the product, or a gift of a product
    that is not paid for. -/
def SolePaid (productId : Option Int) (lines : List CartItem) : Prop :=
  ∀ c ∈ lines.find? (hasId productId),
    (lines.filter CartItem.isPaid).filter (hasId productId) = [c].filter CartItem.isPaid

/-- Nothing is assigned that an edit has overtaken: an answer that can be read belongs to the paid
    lines of this moment, and a query has read the rows of this moment. The lines of an answer can
    be counted, and an edit finds the paid line of its product. -/
@[reducible] def Undisturbed (s : System) : Event → Prop
  | .answerUpdate k answer => CompleteAnswer answer ∧
      ((CartServices.cartUpdate answer).isSome = true →
        ∀ body ∈ s.updates[k]?, body.productsJson.Perm (paidJson s.app.con.cartProducts))
  | .finishLoad k => ∀ cartList ∈ s.queries[k]?,
      (paidJson cartList).Perm (rowsJson s.app.cartTable)
  | .changeQuantity productId _ | .deleteFromCart productId =>
      SolePaid productId s.app.con.cartProducts
  | _ => True

/-! ## Edits on posted lines -/

/-- A posted line after `changeQuantity`. -/
def PostedLine.withCount (productId : Option Int) (quantity : Int) (posted : PostedLine) :
    PostedLine :=
  if posted.productId = productId then { posted with productCount := some quantity } else posted

/-- Where the paid line of a product is found, there is none of it on either side. -/
theorem SolePaid.split {productId : Option Int} {lines : List CartItem} {c : CartItem}
    (h : SolePaid productId lines) (hfind : lines.find? (hasId productId) = some c) :
    ∃ pre post, lines = pre ++ c :: post ∧ c.product.id = productId ∧
      (∀ posted ∈ paidJson pre ++ paidJson post, posted.productId ≠ productId) ∧
      (∀ f, updateFirst (hasId productId) f lines = pre ++ f c :: post) ∧
      lines.eraseP (hasId productId) = pre ++ post := by
  obtain ⟨pre, post, hl, hc, hpre, hup, her⟩ := find?_split hfind
  refine ⟨pre, post, hl, (hasId_iff c).1 hc, ?_, hup, her⟩
  have hsole := h c hfind
  have hnone : (pre.filter CartItem.isPaid).filter (hasId productId) = [] :=
    List.filter_eq_nil_iff.2 fun x hx => by simp [hpre x (List.mem_of_mem_filter hx)]
  have hrest : (post.filter CartItem.isPaid).filter (hasId productId) = [] := by
    rw [hl] at hsole
    cases hp : c.isPaid <;> simpa [hp, hc, hnone] using hsole
  intro posted hposted hid
  rw [← paidJson_append] at hposted
  obtain ⟨x, hx, hpaid, rfl⟩ := mem_paidJson.1 hposted
  have hx' : hasId productId x = true := (hasId_iff x).2 hid
  rcases List.mem_append.1 hx with hx | hx
  · simp [hpre x hx] at hx'
  · exact absurd hx' (List.filter_eq_nil_iff.1 hrest x (List.mem_filter.2 ⟨hx, hpaid⟩))

theorem paidJson_withQuantity {productId : Option Int} {lines : List CartItem} {c : CartItem}
    (quantity : Int) (h : SolePaid productId lines)
    (hfind : lines.find? (hasId productId) = some c) :
    paidJson (updateFirst (hasId productId) (requantified quantity) lines)
      = (paidJson lines).map (PostedLine.withCount productId quantity) := by
  obtain ⟨pre, post, hl, hid, hrest, hup, -⟩ := h.split hfind
  have hkeep : ∀ l : List PostedLine, (∀ posted ∈ l, posted.productId ≠ productId) →
      l.map (PostedLine.withCount productId quantity) = l := fun l hne =>
    (List.map_congr_left fun x hx => if_neg (hne x hx)).trans (List.map_id l)
  have hpre := hkeep (paidJson pre) fun x hx => hrest x (List.mem_append_left _ hx)
  have hpost := hkeep (paidJson post) fun x hx => hrest x (List.mem_append_right _ hx)
  rw [hup, hl, paidJson_append, paidJson_append, List.map_append, hpre]
  cases hp : c.isPaid with
  | false => rw [paidJson_cons_gift hp, paidJson_cons_gift (by simp [hp]), hpost]
  | true =>
      have hc : PostedLine.withCount productId quantity c.toJson
          = (requantified quantity c).toJson := by
        rw [requantified_toJson]
        exact if_pos hid
      rw [paidJson_cons_paid hp, paidJson_cons_paid (by simp [hp]), List.map_cons, hpost, hc]

theorem paidJson_without {productId : Option Int} {lines : List CartItem} {c : CartItem}
    (h : SolePaid productId lines) (hfind : lines.find? (hasId productId) = some c) :
    paidJson (lines.eraseP (hasId productId))
      = (paidJson lines).filter fun posted => posted.productId ≠ productId := by
  obtain ⟨pre, post, hl, hid, hrest, -, her⟩ := h.split hfind
  have hkeep : (paidJson pre ++ paidJson post).filter
      (fun posted => posted.productId ≠ productId) = paidJson pre ++ paidJson post :=
    List.filter_eq_self.2 fun x hx => by simpa using hrest x hx
  rw [her, hl, paidJson_append, paidJson_append, ← hkeep, List.filter_append, List.filter_append]
  cases hp : c.isPaid with
  | false => rw [paidJson_cons_gift hp]
  | true => simp [paidJson_cons_paid hp, CartItem.toJson, hid]

theorem rowsJson_rowsWithQuantity (table : List CartRow) (productId : Option Int) (quantity : Int) :
    rowsJson (App.rowsWithQuantity table productId quantity)
      = (rowsJson table).map (PostedLine.withCount productId quantity) := by
  rw [rowsJson, App.rowsWithQuantity, rowsJson, List.map_map, List.map_map]
  refine List.map_congr_left fun row _ => ?_
  by_cases hid : some row.id = productId <;>
    simp [App.rowWithQuantity, PostedLine.withCount, CartRow.toItem, CartItem.toJson, hid]

theorem rowsJson_rowsWithout {app : App} {productId : Option Int} {c : CartItem}
    (hfind : app.con.getCartById productId = some c) :
    rowsJson (app.rowsWithout productId)
      = (rowsJson app.cartTable).filter fun posted => posted.productId ≠ productId := by
  rw [App.rowsWithout, if_neg (by simp [hfind]), rowsJson, rowsJson, List.filter_map]
  rfl

/-! ## Steps -/

/-- An addition, as long as memory and table agree. -/
theorem agrees_addToCart {s s' : System} {config : Config} {draft : Draft} (hs : s.Sound)
    (hagrees : s.app.Agrees) (h : shop.step s (.addToCart config draft) = some s') :
    s'.app.Agrees := by
  rcases System.step_addToCart hs h with ⟨-, rfl⟩ | ⟨-, -, rfl⟩ | ⟨-, row, hrow, rfl⟩
  · exact hagrees
  · simpa [App.Agrees] using hagrees
  · have hjson : row.toItem.toJson = (App.withShipping config draft.item).toJson := by
      rw [(CartItem.toItem_of_toRow hrow).1]
      rfl
    have hlines : paidJson (s.adding config draft.item row).con.cartProducts
        = paidJson s.app.con.cartProducts ++ [(App.withShipping config draft.item).toJson] := by
      simp only [System.adding, appended, recount_cartProducts, paidJson_withPoints,
        App.captured_cartProducts, paidJson_append]
      rw [paidJson_cons_paid (by simp)]
      rfl
    have hrows : rowsJson (s.adding config draft.item row).cartTable
        = rowsJson s.app.cartTable ++ [(App.withShipping config draft.item).toJson] := by
      simp [System.adding, System.inserting, rowsJson, hjson]
    show (paidJson (s.adding config draft.item row).con.cartProducts).Perm _
    rw [hlines, hrows]
    exact List.Perm.append_right _ hagrees

theorem agrees_changeQuantity {s s' : System} {productId : Option Int} {quantity : Int}
    (hs : s.Sound) (hagrees : s.app.Agrees) (hsole : SolePaid productId s.app.con.cartProducts)
    (h : shop.step s (.changeQuantity productId quantity) = some s') : s'.app.Agrees := by
  rcases System.step_changeQuantity hs h with ⟨-, rfl⟩ | ⟨cart, hcart, rfl⟩
  · exact hagrees
  · simp only [App.Agrees, recount_cartProducts, paidJson_withPoints, withQuantity]
    rw [paidJson_withQuantity quantity hsole hcart, rowsJson_rowsWithQuantity]
    exact hagrees.map _

theorem agrees_deleteFromCart {s s' : System} {productId : Option Int} (hs : s.Sound)
    (hagrees : s.app.Agrees) (hsole : SolePaid productId s.app.con.cartProducts)
    (h : shop.step s (.deleteFromCart productId) = some s') : s'.app.Agrees := by
  obtain rfl := System.step_deleteFromCart hs h
  simp only [App.Agrees, recount_cartProducts, paidJson_withPoints, without_cartProducts]
  cases hfind : s.app.con.getCartById productId with
  | none =>
      rw [eraseP_of_find?_none hfind, App.rowsWithout, if_pos hfind]
      exact hagrees
  | some cart =>
      rw [paidJson_without hsole hfind, rowsJson_rowsWithout hfind]
      exact hagrees.filter _

/-- While nothing is read from the table, memory and table agree. -/
def Settled (s : System) : Prop := s.queries = [] → s.app.Agrees

theorem settled_step {s s' : System} {e : Event} (hs : s.Sound) (hsettled : Settled s)
    (he : Exchanges s e) (hguard : Undisturbed s e) (h : shop.step s e = some s') : Settled s' := by
  cases e with
  | addToCart config draft =>
      have hqueries : s'.queries = s.queries := by obtain rfl := (Option.some.inj h).symm; rfl
      exact fun hidle => agrees_addToCart hs (hsettled (hqueries ▸ hidle)) h
  | changeQuantity productId quantity =>
      have hqueries : s'.queries = s.queries := by obtain rfl := (Option.some.inj h).symm; rfl
      exact fun hidle => agrees_changeQuantity hs (hsettled (hqueries ▸ hidle)) hguard h
  | deleteFromCart productId =>
      have hqueries : s'.queries = s.queries := by obtain rfl := (Option.some.inj h).symm; rfl
      exact fun hidle => agrees_deleteFromCart hs (hsettled (hqueries ▸ hidle)) hguard h
  | postUpdate session =>
      rcases System.step_postUpdate h with rfl | rfl | ⟨_, _, _, -, -, -, rfl⟩
      · exact hsettled
      · exact hsettled
      · exact hsettled
  | answerUpdate k answer =>
      obtain ⟨body, hbody, ⟨-, rfl⟩ | ⟨cartList, details, hupdate, rfl⟩⟩ :=
        System.step_answerUpdate hguard.1 h
      · exact hsettled
      · -- the answer has the lines that were posted, and the cart still holds those
        intro hidle
        have hposted := hguard.2 (by simp [hupdate]) body hbody
        have hechoed := he body hbody _ hupdate
        have hlines : paidJson (s.answering cartList details).con.cartProducts
            = paidJson cartList := by
          simp only [System.answering, answered, recount_cartProducts, paidJson_withPoints,
            paidJson_repriced]
        show (paidJson (s.answering cartList details).con.cartProducts).Perm _
        rw [hlines]
        exact (hechoed.trans hposted).trans (hsettled hidle)
  | startLoad =>
      obtain rfl := System.step_startLoad h
      -- now a query is on its way
      intro hidle
      simp at hidle
  | finishLoad k =>
      obtain ⟨cartList, hquery, rfl⟩ := System.step_finishLoad hs h
      intro _
      simp only [App.Agrees, recount_cartProducts, paidJson_withPoints, loaded_cartProducts]
      exact hguard cartList hquery
  | _ => exact he.elim

theorem complete_of_undisturbed {s : System} {e : Event} (he : Exchanges s e)
    (hguard : Undisturbed s e) : e.Complete := by
  cases e with
  | answerUpdate _ _ => exact hguard.1
  | refresh _ _ => exact he.elim
  | _ => trivial

/-- From a controller that was just created over any table: if no answer and no rows arrive that an
    edit has overtaken, and every edit finds the paid line of its product, then whenever nothing is
    on its way the paid lines in memory are the rows of the table. -/
theorem synced_of_undisturbed {table : List CartRow} {events : List Event}
    (henv : shop.Meets Exchanges (System.opening table) events)
    (hguard : shop.Meets Undisturbed (System.opening table) events) :
    shop.Throughout Synced (System.opening table) events := by
  have hgood : ∀ s, s.Sound ∧ Settled s → Synced s := fun s hs _ => hs.2
  have hstart : (System.opening table).Sound := by
    refine ⟨soundLines_nil, by simp [System.opening], fun cartList hquery => ?_⟩
    obtain rfl := List.mem_singleton.1 hquery
    exact App.soundLines_getAllProducts table
  refine Machine.throughout_of_meets (fun s => s.Sound ∧ Settled s) hgood
    (fun s e s' hs he h => ?_) events ⟨hstart, fun hidle => ?_⟩ (henv.and hguard)
  · exact ⟨hs.1.step (complete_of_undisturbed he.1 he.2) h, settled_step hs.1 hs.2 he.1 he.2 h⟩
  · simp [System.opening] at hidle

/-! ## An answer that an addition has overtaken -/

instance (app : App) : Decidable app.Agrees := inferInstanceAs (Decidable (List.Perm _ _))

instance (s : System) : Decidable (Synced s) := inferInstanceAs (Decidable (_ → _ → _))

instance (productId : Option Int) (lines : List CartItem) : Decidable (SolePaid productId lines) :=
  inferInstanceAs (Decidable (∀ c ∈ lines.find? (hasId productId), _ = _))

instance (s : System) (e : Event) : Decidable (Exchanges s e) := by
  apply @Event.casesOn (fun e => Decidable (Exchanges s e)) e <;> intros <;> infer_instance

instance (s : System) (e : Event) : Decidable (Undisturbed s e) := by
  apply @Event.casesOn (fun e => Decidable (Undisturbed s e)) e <;> intros <;> infer_instance

/-- A second product is added while the answer for the first is on its way: the answer takes it out
    of memory, and it stays in the table. -/
def sampleOvertaken : List Event :=
  [.finishLoad 0, .addToCart Sample.singleVendor (Sample.draft 1 7 (.int 5) 2), .postUpdate {},
    .addToCart Sample.singleVendor (Sample.draft 2 7 (.int 3) 1),
    .answerUpdate 0 (Sample.answer [Sample.line 1 7 (.int 5) 2 false] (.int 0) (.int 10))]

theorem not_synced_of_overtaken : ∃ s, shop.Meets Exchanges (System.opening []) sampleOvertaken ∧
    shop.run (System.opening []) sampleOvertaken = some s ∧ ¬ Synced s := by
  have hrun : (shop.run (System.opening []) sampleOvertaken).any
      (fun s => decide (¬ Synced s)) = true := by decide +kernel
  obtain ⟨s, hs, hlost⟩ := Machine.reaches hrun
  exact ⟨s, by decide +kernel, hs, hlost⟩

/-- Two requests on the way at once, answered with a gift, then edits and a load. -/
def sampleUndisturbed : List Event :=
  [.finishLoad 0, .addToCart Sample.singleVendor (Sample.draft 1 7 (.int 5) 2),
    .addToCart Sample.singleVendor (Sample.draft 2 7 (.int 3) 1), .postUpdate {}, .postUpdate {},
    .answerUpdate 1 (Sample.answer [Sample.line 2 7 (.int 3) 1 false,
      Sample.line 3 7 (.int 5) 1 true, Sample.line 1 7 (.int 5) 2 false] (.int 0) (.int 13)),
    .answerUpdate 0 (.error .httpFailure), .changeQuantity (some 1) 4, .deleteFromCart (some 2),
    .startLoad, .finishLoad 0]

theorem synced_of_sampleUndisturbed :
    shop.Throughout Synced (System.opening []) sampleUndisturbed :=
  synced_of_undisturbed (by decide +kernel) (by decide +kernel)

end Nourgomla
