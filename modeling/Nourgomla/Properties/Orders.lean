import Nourgomla.SystemSpec
import Mathlib.Data.List.Perm.Basic

set_option autoImplicit false

/-! # Ordering exactly once

A tap on the order button posts the cart, the server inserts an order, and a successful answer
clears whatever the cart holds by then. Nothing keeps the user from tapping again or from editing
while the answer is on its way. In a run in which a tap finds no line that a request on its way has
posted already, and a successful answer finds only lines that its request posted, every line is in
one order at most and every line that is cleared was ordered (`orderedOnce_of_sequential`).

A line is told apart from a later one of the same product by its number: how many lines of the
product had been added when it was. -/

namespace Nourgomla

open CartController

/-! ## Orders as lines -/

/-- An entry of an order, as a cart update posts the line. -/
def OrderProduct.posted (entry : OrderProduct) : PostedLine :=
  { productId := entry.productId
    packageType := entry.packageType
    priceType := entry.packageType
    productCount := entry.productCount }

/-- The paid lines of an order: product, package type and quantity. -/
def OrderBody.paidLines (body : OrderBody) : List PostedLine :=
  (body.ordersProductsJson.filter OrderProduct.isPaid).map OrderProduct.posted

theorem paidLines_eq {lines : List CartItem} {body : OrderBody}
    (h : body.ordersProductsJson = lines.map CartItem.orderProduct) :
    body.paidLines = paidJson lines := by
  rw [OrderBody.paidLines, h, List.filter_map, List.map_map]
  rfl

/-- A paid line: the number it has among the lines of its product, and what is posted of it. -/
structure LineRecord where
  number : Nat
  posted : PostedLine
deriving DecidableEq

/-- What stays the same of a line while its quantity changes. -/
def LineRecord.identity (r : LineRecord) : Option Int × Nat := (r.posted.productId, r.number)

/-- No line is in both. -/
def Apart (order order' : List LineRecord) : Prop :=
  ∀ r ∈ order, ∀ r' ∈ order', r.identity ≠ r'.identity

/-- What happened so far: the products added, the requests on their way and the orders inserted,
    each with the lines it was posted with, and the lines that were cleared. -/
structure OrderLog where
  added : List (Option Int) := []
  sent : List (OrderRequest × List LineRecord) := []
  placed : List (List LineRecord) := []
  cleared : List LineRecord := []

/-- The paid lines of a cart, numbered. -/
def OrderLog.records (log : OrderLog) (lines : List CartItem) : List LineRecord :=
  (paidJson lines).map fun posted => ⟨log.added.count posted.productId, posted⟩

def noteOrder (s : System) (e : Event) (log : OrderLog) : OrderLog :=
  match e with
  | .addToCart config draft =>
    if s.app.accepts draft.item && (App.withShipping config draft.item).toRow.isSome then
      { log with added := log.added ++ [draft.product.id] }
    else log
  | .tapOrder checkout =>
    match (s.returned (App.placeOrderPost checkout)).join with
    | some body => { log with
        sent := log.sent ++ [({ body }, log.records s.app.con.cartProducts)] }
    | none => log
  | .insertOrder k =>
    match log.sent[k]? with
    | some (request, lines) => { log with
        sent := log.sent.set k ({ request with inserted := true }, lines)
        placed := log.placed ++ [lines] }
    | none => log
  | .answerOrder k answer => { log with
      sent := log.sent.eraseIdx k
      cleared :=
        if OrderServices.succeeds answer then log.cleared ++ log.records s.app.con.cartProducts
        else log.cleared }
  | _ => log

/-! ## The property -/

/-- The lines recorded with the inserted orders are those of the orders; no line is in two of them;
    and every line that a successful answer cleared is, as it was then, in one of them. -/
structure OrderedOnce (sl : System × OrderLog) : Prop where
  recorded : sl.2.placed.map (·.map LineRecord.posted) = sl.1.placed.map OrderBody.paidLines
  once : sl.2.placed.Pairwise Apart
  ordered : ∀ r ∈ sl.2.cleared, ∃ order ∈ sl.2.placed, r ∈ order

/-- Taps, inserts, answers and edits. The server answers success exactly if it inserted the
    order. -/
@[reducible] def OrderSession (s : System) : Event → Prop
  | .addToCart _ _ | .changeQuantity _ _ | .deleteFromCart _ | .tapOrder _ | .insertOrder _ => True
  | .answerOrder k answer => ∀ request ∈ s.orders[k]?,
      OrderServices.succeeds answer = request.inserted
  | _ => False

/-- A tap finds no line in the cart that a request on its way has posted, and a successful answer
    finds no paid line that its request has not posted as it is now. -/
@[reducible] def Sequential (sl : System × OrderLog) : Event → Prop
  | .tapOrder _ => ∀ x ∈ sl.2.sent, Apart x.2 (sl.2.records sl.1.app.con.cartProducts)
  | .answerOrder k answer => OrderServices.succeeds answer = true → ∀ x ∈ sl.2.sent[k]?,
      ∀ r ∈ sl.2.records sl.1.app.con.cartProducts, r ∈ x.2
  | _ => True

/-! ## The invariant -/

/-- The lines of the requests whose orders are not inserted. -/
def OrderLog.pending (log : OrderLog) : List (List LineRecord) :=
  (log.sent.filter fun x => !x.1.inserted).map Prod.snd

/-- The log is about the system's requests; inserted and pending orders share no line, and an
    inserted order shares a line with the cart only while its request waits. -/
structure Logged (s : System) (log : OrderLog) : Prop where
  sent : log.sent.map Prod.fst = s.orders
  bodies : ∀ x ∈ log.sent, x.2.map LineRecord.posted = x.1.body.paidLines
  recorded : log.placed.map (·.map LineRecord.posted) = s.placed.map OrderBody.paidLines
  inserted : ∀ x ∈ log.sent, x.1.inserted = true → x.2 ∈ log.placed
  apart : (log.placed ++ log.pending).Pairwise Apart
  left : ∀ order ∈ log.placed, (∃ x ∈ log.sent, x.1.inserted = true ∧ x.2 = order) ∨
    Apart order (log.records s.app.con.cartProducts)
  old : ∀ order ∈ log.placed, ∀ r ∈ order, r.number ≤ log.added.count r.posted.productId
  oldSent : ∀ x ∈ log.sent, ∀ r ∈ x.2, r.number ≤ log.added.count r.posted.productId
  ordered : ∀ r ∈ log.cleared, ∃ order ∈ log.placed, r ∈ order

theorem Logged.orderedOnce {s : System} {log : OrderLog} (h : Logged s log) :
    OrderedOnce (s, log) :=
  ⟨h.recorded, (List.pairwise_append.1 h.apart).1, h.ordered⟩

theorem Apart.symm {order order' : List LineRecord} (h : Apart order order') :
    Apart order' order := fun r hr r' hr' => (h r' hr' r hr).symm

/-- A cart with no new lines shares no more with an order than the one before. -/
theorem Apart.mono {order lines lines' : List LineRecord} (h : Apart order lines)
    (hlines : ∀ r ∈ lines', ∃ r' ∈ lines, r'.identity = r.identity) : Apart order lines' := by
  intro r hr r' hr'
  obtain ⟨r'', hr'', hid⟩ := hlines r' hr'
  exact hid ▸ h r hr r'' hr''

theorem mem_records {log : OrderLog} {lines : List CartItem} {r : LineRecord} :
    r ∈ log.records lines ↔
      ∃ c ∈ lines, c.isPaid = true ∧ r = ⟨log.added.count c.product.id, c.toJson⟩ := by
  simp only [OrderLog.records, List.mem_map, mem_paidJson]
  constructor
  · rintro ⟨_, ⟨c, hc, hpaid, rfl⟩, rfl⟩
    exact ⟨c, hc, hpaid, rfl⟩
  · rintro ⟨c, hc, hpaid, rfl⟩
    exact ⟨_, ⟨c, hc, hpaid, rfl⟩, rfl⟩

@[simp] theorem records_withPoints (log : OrderLog) (lines : List CartItem) :
    log.records (lines.map CartItem.withPoints) = log.records lines := by
  simp [OrderLog.records]

/-! ## Edits -/

/-- An edit that only removes lines or changes quantities. -/
theorem Logged.edited {s : System} {log : OrderLog} {app : App} (h : Logged s log)
    (hlines : ∀ r ∈ log.records app.con.cartProducts,
      ∃ r' ∈ log.records s.app.con.cartProducts, r'.identity = r.identity) :
    Logged { s with app } log where
  sent := h.sent
  bodies := h.bodies
  recorded := h.recorded
  inserted := h.inserted
  apart := h.apart
  left order horder := (h.left order horder).imp_right fun hapart => hapart.mono hlines
  old := h.old
  oldSent := h.oldSent
  ordered := h.ordered

theorem logged_changeQuantity {s s' : System} {log : OrderLog} {productId : Option Int}
    {quantity : Int} (hs : s.Sound) (hlog : Logged s log)
    (h : shop.step s (.changeQuantity productId quantity) = some s') : Logged s' log := by
  rcases System.step_changeQuantity hs h with ⟨-, rfl⟩ | ⟨cart, -, rfl⟩
  · exact hlog
  · refine hlog.edited fun r hr => ?_
    rw [recount_cartProducts, records_withPoints] at hr
    obtain ⟨c, hc, hpaid, rfl⟩ := mem_records.1 hr
    have horigin : ∀ c ∈ (s.app.con.withQuantity productId quantity).cartProducts,
        ∃ d ∈ s.app.con.cartProducts, d.isPaid = c.isPaid ∧ d.product = c.product :=
      forall_mem_updateFirst (fun c hc => ⟨c, hc, rfl, rfl⟩) fun c hc =>
        ⟨c, List.mem_of_find?_eq_some hc, by simp, by simp⟩
    obtain ⟨d, hd, hsame, hproduct⟩ := horigin c hc
    refine ⟨_, mem_records.2 ⟨d, hd, hsame.trans hpaid, rfl⟩, ?_⟩
    simp [LineRecord.identity, CartItem.toJson, hproduct]

theorem logged_deleteFromCart {s s' : System} {log : OrderLog} {productId : Option Int}
    (hs : s.Sound) (hlog : Logged s log)
    (h : shop.step s (.deleteFromCart productId) = some s') : Logged s' log := by
  obtain rfl := System.step_deleteFromCart hs h
  refine hlog.edited fun r hr => ?_
  rw [recount_cartProducts, records_withPoints, without_cartProducts] at hr
  obtain ⟨c, hc, hpaid, rfl⟩ := mem_records.1 hr
  exact ⟨_, mem_records.2 ⟨c, List.mem_of_mem_eraseP hc, hpaid, rfl⟩, rfl⟩

/-- An added line has a number that no recorded line of its product has. -/
theorem Logged.appended {s : System} {log : OrderLog} {app : App} {cart : CartItem}
    (h : Logged s log)
    (hnew : ∀ c ∈ s.app.con.cartProducts, c.product.id ≠ cart.product.id)
    (hlines : app.con.cartProducts = (s.app.con.cartProducts ++ [cart]).map CartItem.withPoints) :
    Logged { s with app } { log with added := log.added ++ [cart.product.id] } := by
  have hgrow : ∀ id, log.added.count id ≤ (log.added ++ [cart.product.id]).count id :=
    fun id => by simp [List.count_append]
  refine { h with
    left := fun order horder => (h.left order horder).imp_right fun hapart => ?_
    old := fun order horder r hr => (h.old order horder r hr).trans (hgrow _)
    oldSent := fun x hx r hr => (h.oldSent x hx r hr).trans (hgrow _) }
  intro r hr r' hr'
  rw [hlines, records_withPoints] at hr'
  obtain ⟨c, hc, hpaid, rfl⟩ := mem_records.1 hr'
  rcases List.mem_append.1 hc with hc | hc
  · -- a line from before: its number is the one it had
    have hcount : (log.added ++ [cart.product.id]).count c.product.id
        = log.added.count c.product.id := by
      simp [List.count_append, (hnew c hc).symm]
    rw [hcount]
    exact hapart r hr _ (mem_records.2 ⟨c, hc, hpaid, rfl⟩)
  · -- the new line: its number is above all recorded ones
    obtain rfl := List.mem_singleton.1 hc
    intro hid
    have hnumber := h.old order horder r hr
    simp only [LineRecord.identity, CartItem.toJson, Prod.mk.injEq] at hid
    obtain ⟨hproduct, hcount⟩ := hid
    rw [hcount, hproduct] at hnumber
    simp [List.count_append] at hnumber

theorem logged_addToCart {s s' : System} {log : OrderLog} {config : Config} {draft : Draft}
    (hs : s.Sound) (hlog : Logged s log)
    (h : shop.step s (.addToCart config draft) = some s') :
    Logged s' (noteOrder s (.addToCart config draft) log) := by
  rcases System.step_addToCart hs h with ⟨ha, rfl⟩ | ⟨ha, hrow, rfl⟩ | ⟨ha, row, hrow, rfl⟩
  · simpa [noteOrder, ha] using hlog
  · simp only [noteOrder, ha, hrow, Option.isSome_none, Bool.and_false, Bool.false_eq_true,
      if_false]
    exact hlog.edited fun r hr => ⟨r, by simpa using hr, rfl⟩
  · simp only [noteOrder, ha, hrow, Option.isSome_some, Bool.and_true, if_true]
    have hproduct : draft.product.id = (App.withShipping config draft.item).product.id := by simp
    rw [hproduct]
    refine hlog.appended ?_ (by simp [System.adding, appended])
    simpa using (App.accepts_iff.1 ha).1

/-! ## Requests -/

theorem logged_tapOrder {s s' : System} {log : OrderLog} {checkout : Checkout}
    (hlog : Logged s log) (hguard : Sequential (s, log) (.tapOrder checkout))
    (h : shop.step s (.tapOrder checkout) = some s') :
    Logged s' (noteOrder s (.tapOrder checkout) log) := by
  obtain rfl := (Option.some.inj h).symm
  obtain ⟨happ, hposted⟩ := App.placeOrderPost_cases checkout s.app
  rcases hposted with hnone | ⟨body, vendorId, hsome, hbody⟩
  · have hjoin : (s.returned (App.placeOrderPost checkout)).join = none := hnone
    simpa [noteOrder, hjoin, System.perform, happ] using hlog
  · have hjoin : (s.returned (App.placeOrderPost checkout)).join = some body := hsome
    obtain ⟨-, -, hentries, -⟩ := OrderServices.placeOrderBody_fields hbody
    have hnumber : ∀ r ∈ log.records s.app.con.cartProducts,
        r.number ≤ log.added.count r.posted.productId := by
      intro r hr
      obtain ⟨posted, -, rfl⟩ := List.mem_map.1 hr
      exact le_rfl
    have hposted : (log.records s.app.con.cartProducts).map LineRecord.posted = body.paidLines := by
      rw [paidLines_eq hentries, OrderLog.records, List.map_map]
      exact List.map_id _
    -- an order still on its way is apart by the guard, one answered already by the invariant
    have hapart : ∀ order ∈ log.placed ++ log.pending,
        Apart order (log.records s.app.con.cartProducts) := by
      intro order horder
      rcases List.mem_append.1 horder with hplaced | hpending
      · rcases hlog.left order hplaced with ⟨x, hx, -, rfl⟩ | hapart
        · exact hguard x hx
        · exact hapart
      · obtain ⟨x, hx, rfl⟩ := List.mem_map.1 hpending
        exact hguard x (List.mem_of_mem_filter hx)
    simp only [noteOrder, hjoin, System.perform, happ, Option.toList_some, List.map_cons,
      List.map_nil]
    refine { hlog with
      sent := by simp [hlog.sent]
      bodies := List.forall_mem_append.2 ⟨hlog.bodies, by simpa using hposted⟩
      inserted := List.forall_mem_append.2 ⟨hlog.inserted, by simp⟩
      apart := ?_
      left := fun order horder => (hlog.left order horder).imp_left ?_
      oldSent := List.forall_mem_append.2 ⟨hlog.oldSent, by simpa using hnumber⟩ }
    · have hpending : OrderLog.pending { log with
          sent := log.sent ++ [({ body }, log.records s.app.con.cartProducts)] }
            = log.pending ++ [log.records s.app.con.cartProducts] := by
        simp [OrderLog.pending]
      rw [hpending, ← List.append_assoc]
      exact List.pairwise_append.2 ⟨hlog.apart, List.pairwise_singleton _ _, fun order horder r hr =>
        List.mem_singleton.1 hr ▸ hapart order horder⟩
    · rintro ⟨x, hx, hinserted, rfl⟩
      exact ⟨x, List.mem_append_left _ hx, hinserted, rfl⟩

/-- The log has the lines of the `k`-th request. -/
theorem Logged.cut {s : System} {log : OrderLog} {k : Nat} {request : OrderRequest}
    (h : Logged s log) (hrequest : s.orders[k]? = some request) :
    ∃ lines pre post, log.sent[k]? = some (request, lines) ∧
      log.sent = pre ++ (request, lines) :: post ∧
      (∀ x, log.sent.set k x = pre ++ x :: post) ∧ log.sent.eraseIdx k = pre ++ post := by
  rw [← h.sent, List.getElem?_map] at hrequest
  obtain ⟨⟨request, lines⟩, hx, rfl⟩ := Option.map_eq_some_iff.1 hrequest
  obtain ⟨pre, post, hcut⟩ := getElem?_split hx
  exact ⟨lines, pre, post, hx, hcut⟩

/-- Inserting the `k`-th order: its lines move from the pending orders to the inserted ones. -/
theorem Logged.apart_insert {s : System} {log : OrderLog} {k : Nat} {request : OrderRequest}
    {lines : List LineRecord} {pre post : List (OrderRequest × List LineRecord)}
    (h : Logged s log) (hinserted : request.inserted = false)
    (hsent : log.sent = pre ++ (request, lines) :: post)
    (hset : ∀ x, log.sent.set k x = pre ++ x :: post) :
    (log.placed ++ [lines] ++ OrderLog.pending { log with
      sent := log.sent.set k ({ request with inserted := true }, lines)
      placed := log.placed ++ [lines] }).Pairwise Apart := by
  have hbefore : log.pending = OrderLog.pending { sent := pre } ++
      lines :: OrderLog.pending { sent := post } := by
    simp [OrderLog.pending, hsent, hinserted]
  have hafter : ∀ placed, OrderLog.pending { log with
      sent := log.sent.set k ({ request with inserted := true }, lines), placed := placed }
        = OrderLog.pending { sent := pre } ++ OrderLog.pending { sent := post } := by
    simp [OrderLog.pending, hset]
  have hapart := h.apart
  rw [hbefore] at hapart
  have hmoved : (log.placed ++ [lines] ++ (OrderLog.pending { sent := pre } ++
      OrderLog.pending { sent := post })).Perm (log.placed ++ (OrderLog.pending { sent := pre } ++
        lines :: OrderLog.pending { sent := post })) := by
    rw [List.append_assoc, List.singleton_append]
    exact List.perm_middle.symm.append_left log.placed
  rw [hafter]
  exact (List.Perm.pairwise_iff Apart.symm hmoved).2 hapart

theorem logged_insertOrder {s s' : System} {log : OrderLog} {k : Nat} (hlog : Logged s log)
    (h : shop.step s (.insertOrder k) = some s') :
    Logged s' (noteOrder s (.insertOrder k) log) := by
  obtain ⟨request, hrequest, hinserted, rfl⟩ := System.step_insertOrder h
  obtain ⟨lines, pre, post, hx, hsent, hset, -⟩ := hlog.cut hrequest
  have hmem : (request, lines) ∈ log.sent := by simp [hsent]
  simp only [noteOrder, hx]
  -- what holds of every request sent, and of this one when inserted, still holds of all
  have hothers : ∀ P : OrderRequest × List LineRecord → Prop, (∀ x ∈ log.sent, P x) →
      P ({ request with inserted := true }, lines) →
      ∀ x ∈ log.sent.set k ({ request with inserted := true }, lines), P x := by
    intro P hall hnew x hx
    rw [hset] at hx
    rcases List.mem_append.1 hx with hx | hx
    · exact hall x (by simp [hsent, hx])
    · rcases List.mem_cons.1 hx with rfl | hx
      · exact hnew
      · exact hall x (by simp [hsent, hx])
  refine {
    sent := by rw [List.map_set, hlog.sent]
    bodies := hothers (fun x => x.2.map LineRecord.posted = x.1.body.paidLines) hlog.bodies
      (hlog.bodies (request, lines) hmem :)
    recorded := by
      rw [List.map_append, List.map_append, hlog.recorded]
      exact congrArg _ (congrArg (fun l => [l]) (hlog.bodies _ hmem))
    inserted := hothers _ (fun x hx hin => List.mem_append_left _ (hlog.inserted x hx hin))
      fun _ => List.mem_append_right _ List.mem_cons_self
    apart := hlog.apart_insert hinserted hsent hset
    left := ?_
    old := List.forall_mem_append.2 ⟨hlog.old, by simpa using hlog.oldSent _ hmem⟩
    oldSent := hothers (fun x => ∀ r ∈ x.2, r.number ≤ log.added.count r.posted.productId)
      hlog.oldSent (hlog.oldSent (request, lines) hmem :)
    ordered := fun r hr => ?_ }
  · intro order horder
    rw [hset]
    rcases List.mem_append.1 horder with horder | horder
    · -- an order inserted before: the request it waits for is another one
      refine (hlog.left order horder).imp_left ?_
      rintro ⟨x, hx, hin, rfl⟩
      rw [hsent] at hx
      rcases List.mem_append.1 hx with hx | hx
      · exact ⟨x, by simp [hx], hin, rfl⟩
      · rcases List.mem_cons.1 hx with rfl | hx
        · simp [hinserted] at hin
        · exact ⟨x, by simp [hx], hin, rfl⟩
    · obtain rfl := List.mem_singleton.1 horder
      exact Or.inl ⟨({ request with inserted := true }, order), by simp, rfl, rfl⟩
  · obtain ⟨order, horder, hr⟩ := hlog.ordered r hr
    exact ⟨order, List.mem_append_left _ horder, hr⟩

theorem logged_answerOrder {s s' : System} {log : OrderLog} {k : Nat}
    {answer : Except DartError Json} (hlog : Logged s log)
    (he : OrderSession s (.answerOrder k answer))
    (hguard : Sequential (s, log) (.answerOrder k answer))
    (h : shop.step s (.answerOrder k answer) = some s') :
    Logged s' (noteOrder s (.answerOrder k answer) log) := by
  obtain ⟨request, hrequest, hanswer⟩ := System.step_answerOrder h
  obtain ⟨lines, pre, post, hx, hsent, -, herase⟩ := hlog.cut hrequest
  have hagree := he request hrequest
  have hmem : (request, lines) ∈ log.sent := by simp [hsent]
  have hsub : (log.sent.eraseIdx k).Sublist log.sent := List.eraseIdx_sublist log.sent k
  have hapart : (log.placed ++ OrderLog.pending { log with sent := log.sent.eraseIdx k }).Pairwise
      Apart :=
    hlog.apart.sublist (((hsub.filter _).map _).append_left _)
  rcases hanswer with ⟨hfailed, rfl⟩ | ⟨hok, rfl⟩
  · simp only [noteOrder, hfailed, Bool.false_eq_true, if_false]
    -- the request that failed was not inserted, so the inserted ones are still there
    have hkept : ∀ {order}, (∃ x ∈ log.sent, x.1.inserted = true ∧ x.2 = order) →
        ∃ x ∈ log.sent.eraseIdx k, x.1.inserted = true ∧ x.2 = order := by
      rintro order ⟨x, hx, hin, hlines⟩
      rw [hsent] at hx
      rw [herase]
      rcases List.mem_append.1 hx with hx | hx
      · exact ⟨x, by simp [hx], hin, hlines⟩
      · rcases List.mem_cons.1 hx with rfl | hx
        · simp [← hagree, hfailed] at hin
        · exact ⟨x, by simp [hx], hin, hlines⟩
    exact { hlog with
      sent := by rw [map_eraseIdx, hlog.sent]
      bodies := fun x hx => hlog.bodies x (hsub.mem hx)
      inserted := fun x hx => hlog.inserted x (hsub.mem hx)
      apart := hapart
      left := fun order horder => (hlog.left order horder).imp_left hkept
      oldSent := fun x hx => hlog.oldSent x (hsub.mem hx) }
  · simp only [noteOrder, hok, if_true]
    -- the cart is empty now, and what it held was in the order by the guard
    exact { hlog with
      sent := by rw [map_eraseIdx, hlog.sent]
      bodies := fun x hx => hlog.bodies x (hsub.mem hx)
      inserted := fun x hx => hlog.inserted x (hsub.mem hx)
      apart := hapart
      left := fun order _ => Or.inr fun r _ r' hr' => by
        simp [cleared, OrderLog.records] at hr'
      oldSent := fun x hx => hlog.oldSent x (hsub.mem hx)
      ordered := List.forall_mem_append.2 ⟨hlog.ordered, fun r hr =>
        ⟨lines, hlog.inserted _ hmem (hagree ▸ hok), hguard hok _ hx r hr⟩⟩ }

theorem logged_step {s s' : System} {log : OrderLog} {e : Event} (hs : s.Sound)
    (hlog : Logged s log) (he : OrderSession s e) (hguard : Sequential (s, log) e)
    (h : shop.step s e = some s') : Logged s' (noteOrder s e log) := by
  cases e with
  | addToCart config draft => exact logged_addToCart hs hlog h
  | changeQuantity productId quantity => exact logged_changeQuantity hs hlog h
  | deleteFromCart productId => exact logged_deleteFromCart hs hlog h
  | tapOrder checkout => exact logged_tapOrder hlog hguard h
  | insertOrder k => exact logged_insertOrder hlog h
  | answerOrder k answer => exact logged_answerOrder hlog he hguard h
  | _ => exact he.elim

theorem OrderSession.complete {s : System} {e : Event} (h : OrderSession s e) : e.Complete := by
  cases e with
  | answerUpdate _ _ | refresh _ _ => exact h.elim
  | _ => trivial

/-- From an app just opened on any table: if a tap finds no line that a request on its way has
    posted, and a successful answer finds only lines that its request posted, then at every moment
    no line is in two inserted orders and every line that was cleared is in one. -/
theorem orderedOnce_of_sequential {table : List CartRow} {events : List Event}
    (henv : (shop.track noteOrder).Meets (fun sl e => OrderSession sl.1 e)
      (System.opened table, {}) events)
    (hguard : (shop.track noteOrder).Meets Sequential (System.opened table, {}) events) :
    (shop.track noteOrder).Throughout OrderedOnce (System.opened table, {}) events := by
  have hstart : Logged (System.opened table) {} :=
    ⟨rfl, by simp, rfl, by simp, by simp [OrderLog.pending], by simp, by simp, by simp, by simp⟩
  refine Machine.throughout_of_meets (fun sl => sl.1.Sound ∧ Logged sl.1 sl.2)
    (fun _ h => h.2.orderedOnce) ?_ events ⟨System.sound_opened table, hstart⟩ (henv.and hguard)
  rintro ⟨s, log⟩ e ⟨s', log'⟩ ⟨hs, hlog⟩ ⟨he, hg⟩ h
  obtain ⟨hstep, rfl⟩ := Machine.track_step.1 h
  exact ⟨hs.step he.complete hstep, logged_step hs hlog he hg hstep⟩

/-! ## Two taps, and an edit on the way -/

instance (order order' : List LineRecord) : Decidable (Apart order order') :=
  inferInstanceAs (Decidable (∀ r ∈ order, ∀ r' ∈ order', _ ≠ _))

instance (s : System) (e : Event) : Decidable (OrderSession s e) := by
  apply @Event.casesOn (fun e => Decidable (OrderSession s e)) e <;> intros <;> infer_instance

instance (sl : System × OrderLog) (e : Event) : Decidable (Sequential sl e) := by
  apply @Event.casesOn (fun e => Decidable (Sequential sl e)) e <;> intros <;> infer_instance

def sampleOrder : Checkout :=
  { currentUser := some {}, selectedAddress := some { cost := some 20 }
    isMultiVendor := false, orderComment := "" }

def sampleSuccess : Except DartError Json := .ok (.obj [("success", .bool true)])

/-- A line is added while the answer is on its way; then the button is tapped twice. -/
def sampleOverlap : List Event :=
  [.addToCart Sample.singleVendor (Sample.draft 1 7 (.int 5) 2), .tapOrder sampleOrder,
    .insertOrder 0, .addToCart Sample.singleVendor (Sample.draft 2 7 (.int 3) 1),
    .answerOrder 0 sampleSuccess, .addToCart Sample.singleVendor (Sample.draft 3 7 (.int 4) 1),
    .tapOrder sampleOrder, .tapOrder sampleOrder, .insertOrder 0, .insertOrder 1]

/-- The line added late is cleared without an order, and the one after it is ordered twice. -/
theorem not_orderedOnce_of_overlap : ∃ sl,
    (shop.track noteOrder).Meets (fun sl e => OrderSession sl.1 e) (System.opened [], {})
      sampleOverlap ∧
    (shop.track noteOrder).run (System.opened [], {}) sampleOverlap = some sl ∧
    ¬ sl.2.placed.Pairwise Apart ∧ ¬ ∀ r ∈ sl.2.cleared, ∃ order ∈ sl.2.placed, r ∈ order := by
  have hrun : ((shop.track noteOrder).run (System.opened [], {}) sampleOverlap).any (fun sl =>
      decide (¬ sl.2.placed.Pairwise Apart ∧
        ¬ ∀ r ∈ sl.2.cleared, ∃ order ∈ sl.2.placed, r ∈ order)) = true := by decide +kernel
  obtain ⟨sl, hsl, hbroken⟩ := Machine.reaches hrun
  exact ⟨sl, by decide +kernel, hsl, hbroken⟩

/-- The first request fails; a line is taken out while the answer to the second is on its way, and
    the product is ordered once more afterwards. -/
theorem orderedOnce_of_sample :
    (shop.track noteOrder).Throughout OrderedOnce (System.opened [], {})
      [.addToCart Sample.singleVendor (Sample.draft 1 7 (.int 5) 2),
        .addToCart Sample.singleVendor (Sample.draft 2 7 (.int 3) 1), .tapOrder sampleOrder,
        .answerOrder 0 (.error .httpFailure), .tapOrder sampleOrder, .insertOrder 0,
        .deleteFromCart (some 2), .answerOrder 0 sampleSuccess,
        .addToCart Sample.singleVendor (Sample.draft 1 7 (.int 5) 1), .tapOrder sampleOrder,
        .insertOrder 0, .answerOrder 0 sampleSuccess] :=
  orderedOnce_of_sequential (by decide +kernel) (by decide +kernel)

end Nourgomla
