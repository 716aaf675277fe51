import Nourgomla.System

set_option autoImplicit false

/-! # Refreshing twice

Against a server whose answer is a function of the posted lines and the vendor, echoes the lines and
adds gifts, a refresh right after a successful one changes nothing. The lines posted are decoded to
lines that post the same (`paidJson_of_echo`), a gift among them posts nothing, and the first line
has the vendor that was posted, gift or not: so the second request is the first one again. -/

namespace Nourgomla

open Method CartController

/-! ## A server that echoes -/

/-- Whether a line of an answer is decoded to a gift. -/
def Json.isGift (line : Json) : Bool :=
  match line.intField "cart_is_gift" with
  | .ok (some 1) => true
  | _ => false

/-- A line of an answer echoes a posted one: its product, type and count. -/
structure PostedLine.EchoedBy (posted : PostedLine) (line : Json) : Prop where
  id : line.intField "id" = .ok posted.productId
  type : line.intField "cart_package_type" = .ok posted.packageType
  count : line.intField "cart_product_count" = .ok posted.productCount

/-- The lines of an answer that are no gifts echo the posted lines in order, and all lines, gifts
    included and wherever they stand, are of the posted vendor. -/
structure Echoes (posted : List PostedLine) (vendorId : Int) (data : List Json) : Prop where
  paid : List.Forall₂ PostedLine.EchoedBy posted (data.filter fun line => !line.isGift)
  vendor : ∀ line ∈ data, line.intField "vendor_id" = .ok (some vendorId)

/-- What the server answers to the posted lines and vendor. -/
abbrev Server : Type := List PostedLine → Int → Except DartError Json

/-- Every answer of the server that has lines echoes what was posted. -/
def Server.Echoing (server : Server) : Prop :=
  ∀ posted vendorId json data, server posted vendorId = .ok json →
    json.listField "data" = .ok (some data) → Echoes posted vendorId data

/-- `updateCartData`, answered by the server. -/
def App.updateCartDataFrom (server : Server) (session : Session) : Method DartError App Bool := do
  match ← updateCartDataPost session with
  | some body =>
    updateCartDataAssign (CartServices.cartUpdate (server body.productsJson body.vendorId))
  | none => return false

/-! ## The lines of an echo -/

theorem isGift_eq {line : Json} {c : CartItem} (h : CartServices.cartLine line = .ok c) :
    line.isGift = !c.isPaid := by
  obtain ⟨-, -, hgift⟩ := CartServices.cartLine_posted h
  rw [Json.isGift, hgift, CartItem.isPaid]
  by_cases hone : c.cartIsGift = some 1
  · simp [hone]
  · simp only [bne, Bool.not_not, beq_eq_false_iff_ne.2 hone]
    split
    · rename_i heq
      exact absurd (Except.ok.inj heq) hone
    · rfl

/-- A line decoded from an echo posts what was echoed. -/
theorem toJson_of_echo {posted : PostedLine} {line : Json} {c : CartItem}
    (hline : CartServices.cartLine line = .ok c) (hecho : posted.EchoedBy line)
    (htype : posted.priceType = posted.packageType) : c.toJson = posted := by
  obtain ⟨htype', hcount, -⟩ := CartServices.cartLine_posted hline
  obtain ⟨-, hproduct, -⟩ := CartServices.cartLine_fields hline
  obtain ⟨hid, -⟩ := Product.fromJson_ids hproduct
  have hid' : c.product.id = posted.productId := Except.ok.inj (hid.symm.trans hecho.id)
  have htype'' : c.type = posted.packageType := Except.ok.inj (htype'.symm.trans hecho.type)
  have hcount' : c.quantity = posted.productCount := Except.ok.inj (hcount.symm.trans hecho.count)
  cases posted
  simp_all [CartItem.toJson]

/-- The lines decoded from an echo post the lines that were echoed: a gift posts nothing. -/
theorem paidJson_of_echo {posted : List PostedLine} {data : List Json} {cartList : List CartItem}
    (hlines : List.Forall₂ (fun line c => CartServices.cartLine line = .ok c) data cartList)
    (hecho : List.Forall₂ PostedLine.EchoedBy posted (data.filter fun line => !line.isGift))
    (htype : ∀ p ∈ posted, p.priceType = p.packageType) : paidJson cartList = posted := by
  induction hlines generalizing posted with
  | nil =>
      cases hecho
      rfl
  | @cons line c data cartList hline _ ih =>
      cases hpaid : c.isPaid with
      | false =>
          have hgift : line.isGift = true := by rw [isGift_eq hline, hpaid]; rfl
          rw [paidJson_cons_gift hpaid]
          exact ih (by simpa [hgift] using hecho) htype
      | true =>
          have hgift : line.isGift = false := by rw [isGift_eq hline, hpaid]; rfl
          rw [List.filter_cons_of_pos (by simp [hgift])] at hecho
          cases hecho with
          | @cons p _ ps _ hp hps =>
              rw [paidJson_cons_paid hpaid, ih hps fun q hq => htype q (List.mem_cons_of_mem p hq),
                toJson_of_echo hline hp (htype p List.mem_cons_self)]

/-- Every line decoded from an echo has the vendor that was posted. -/
theorem vendorId_of_echo {vendorId : Int} {line : Json} {c : CartItem}
    (hline : CartServices.cartLine line = .ok c)
    (hvendor : line.intField "vendor_id" = .ok (some vendorId)) : c.product.vendorId = vendorId := by
  obtain ⟨-, hproduct, -⟩ := CartServices.cartLine_fields hline
  obtain ⟨-, hzero⟩ := Product.fromJson_ids hproduct
  simpa [Json.intOrZero, hvendor, bind, Except.bind, pure, Except.pure, eq_comm] using hzero

/-! ## Assigning an answer again -/

namespace CartController

/-- With lines in the cart the points are counted from 0, whatever they were. -/
theorem exec_calculateTotalPoints_congr {con con' : CartController}
    (hsame : { con' with totalPoints := 0 } = { con with totalPoints := 0 })
    (hne : con.cartProducts ≠ []) :
    calculateTotalPoints.exec con' = calculateTotalPoints.exec con := by
  have hlines : con'.cartProducts = con.cartProducts := (congrArg CartController.cartProducts hsame :)
  have hstart : ∀ c : CartController, c.cartProducts ≠ [] → calculateTotalPoints.exec c
      = ((Method.forEach addPoints).onPart (fun con => (con.cartProducts, con.totalPoints))
          fun t con => { con with cartProducts := t.1, totalPoints := t.2 }).exec
            { c with totalPoints := 0 } := by
    intro c hc
    simp [calculateTotalPoints, exec_bind, hc]
  rw [hstart con hne, hstart con' (hlines ▸ hne), hsame]

/-- Assigning an answer with lines leaves nothing of the cart there was: two carts with the same
    coupon and shipping end in the same one. -/
theorem exec_assignAnswer_congr {con con' : CartController} {cartList : List CartItem}
    {details : CartDetails} (hne : cartList ≠ []) (hcoupon : con'.userCoupon = con.userCoupon)
    (hshipping : con'.vendorShipping = con.vendorShipping)
    (hok : ((assignAnswer cartList details).exec con).1 = .ok ()) :
    (assignAnswer cartList details).exec con' = (assignAnswer cartList details).exec con := by
  have hlines := map_forEachItem (v := CartItem.core) keeps_core_addFreshTotal cartList 0
  simp only [assignAnswer, exec_modify_bind] at hok ⊢
  rw [exec_bind, exec_onPart, exec_forEach] at hok ⊢
  rw [exec_bind, exec_onPart, exec_forEach]
  rcases hloop : forEachItem addFreshTotal cartList 0 with ⟨_ | _, lines, total⟩
  · simp [hloop] at hok
  · rw [hloop] at hlines
    have hne' : lines ≠ [] := fun hnil => hne (by simpa [hnil] using hlines.symm)
    cases con
    cases con'
    simp only at hcoupon hshipping
    subst hcoupon hshipping
    exact exec_calculateTotalPoints_congr rfl hne'

end CartController

/-! ## The second refresh -/

namespace App

/-- The request of a cart is answered by the server. -/
theorem exec_updateCartDataFrom (server : Server) (session : Session) {app : App}
    {first : CartItem} {rest : List CartItem} (hlines : app.con.cartProducts = first :: rest) :
    (updateCartDataFrom server session).exec app = (updateCartData session
      (server (paidJson app.con.cartProducts) first.product.vendorId)).exec app := by
  rcases updateCartDataPost_cases session app with
    ⟨hnil, -⟩ | ⟨-, -, he⟩ | ⟨first', rest', body, hcons, hvendor, hposted, he⟩
  · simp [hlines] at hnil
  · rw [updateCartDataFrom, updateCartData, exec_bind_error he, exec_bind_error he]
  · obtain ⟨rfl, -⟩ := List.cons.inj (hlines.symm.trans hcons)
    rw [updateCartDataFrom, updateCartData, exec_bind_ok he, exec_bind_ok he, ← hvendor, ← hposted]

/-- **Refreshing twice.** After a refresh that returned true, of a cart with a paid line, another
    one returns true and changes nothing; the lines it posts are the ones posted first. -/
theorem updateCartDataFrom_twice {server : Server} {session : Session} {app app' : App}
    (hecho : server.Echoing) (hpaid : ∃ c ∈ app.con.cartProducts, c.isPaid = true)
    (hrefresh : (updateCartDataFrom server session).exec app = (.ok true, app')) :
    (updateCartDataFrom server session).exec app' = (.ok true, app') ∧
      paidJson app'.con.cartProducts = paidJson app.con.cartProducts := by
  obtain ⟨paid, hmem, hpaid⟩ := hpaid
  obtain ⟨first, rest, hlines⟩ := List.exists_cons_of_ne_nil (List.ne_nil_of_mem hmem)
  rw [exec_updateCartDataFrom server session hlines] at hrefresh
  obtain ⟨hne, huser, cartList, details, hupdate, hassign, -⟩ := updateCartData_true hrefresh
  have hcore : app'.con.core = (app.loading.con.answered cartList details).core := by
    rw [← core_assignAnswer, hassign]
  -- the answer decodes to lines that post what was posted, all of the vendor that was posted
  obtain ⟨json, data, hjson, hdata, hdecoded⟩ := CartServices.exists_data hupdate
  have hechoed := hecho _ _ json data hjson hdata
  have hposted : paidJson cartList = paidJson app.con.cartProducts := by
    refine paidJson_of_echo hdecoded hechoed.paid fun p hp => ?_
    obtain ⟨c, -, -, rfl⟩ := mem_paidJson.1 hp
    rfl
  have hsame : paidJson app'.con.cartProducts = paidJson app.con.cartProducts :=
    (fields_of_core hcore).1.trans hposted
  have hcartList : cartList ≠ [] := by
    rintro rfl
    have hnone : paid.toJson ∈ paidJson app.con.cartProducts :=
      mem_paidJson.2 ⟨paid, hmem, hpaid, rfl⟩
    simp [← hposted] at hnone
  have hcores : app'.con.cartProducts.map CartItem.core = cartList.map CartItem.core :=
    (congrArg CartController.cartProducts hcore :)
  -- so the second request is the first one
  obtain ⟨first', rest', hlines', hvendor⟩ : ∃ first' rest',
      app'.con.cartProducts = first' :: rest' ∧
        first'.product.vendorId = first.product.vendorId := by
    cases hdecoded with
    | nil => exact absurd rfl hcartList
    | @cons line c data cartList hline _ =>
        obtain ⟨first', rest', hcons, hfirst, -⟩ := List.map_eq_cons_iff.1 hcores
        refine ⟨first', rest', hcons, ?_⟩
        have hproduct : first'.product = c.product := (congrArg CartItem.product hfirst :)
        rw [hproduct]
        exact vendorId_of_echo hline (hechoed.vendor line List.mem_cons_self)
  refine ⟨?_, hsame⟩
  rw [exec_updateCartDataFrom server session hlines', hsame, hvendor,
    exec_updateCartData _ (by simp [hlines']) huser, hupdate]
  have hagain : (assignAnswer cartList details).exec app'.loading.con = (.ok (), app'.con) := by
    rw [← hassign]
    refine exec_assignAnswer_congr hcartList ?_ ?_ (by rw [hassign])
    · exact (congrArg CartController.userCoupon hcore :)
    · exact (congrArg CartController.vendorShipping hcore :)
  rw [updateCartDataAssign, exec_bind, exec_inCon, hagain]
  rfl

/-! ## A server with a gift -/

/-- The server's line for a posted one, at a price of 5. -/
def sampleEchoLine (vendorId : Int) (posted : PostedLine) : Json :=
  .obj [("id", jsonInt posted.productId), ("vendor_id", .num (.int vendorId)),
    ("cart_package_type", jsonInt posted.packageType),
    ("cart_product_count", jsonInt posted.productCount), ("cart_is_gift", .num (.int 0)),
    ("package_1_count", .num (.int 1)), ("package_1_price", .num (.int 5)),
    ("points", .num (.int 4))]

/-- A server that puts a gift of product 1 before the lines it echoes. -/
def sampleServer : Server := fun posted vendorId =>
  Sample.answer (Sample.line 1 vendorId (.int 5) 1 true :: posted.map (sampleEchoLine vendorId))
    (.int 0) (.int (5 * posted.length))

theorem sampleServer_echoing : sampleServer.Echoing := by
  intro posted vendorId json data hjson hdata
  obtain rfl : Sample.line 1 vendorId (.int 5) 1 true :: posted.map (sampleEchoLine vendorId)
      = data := by
    simp only [sampleServer, Sample.answer, Except.ok.injEq] at hjson
    subst hjson
    simpa [Json.listField, Json.field, Json.asList, bind, Except.bind] using hdata
  have hgift : (Sample.line 1 vendorId (.int 5) 1 true).isGift = true := by
    simp [Sample.line, Json.isGift, Json.intField, Json.field, Json.asInt, bind, Except.bind]
  have hpaid : ∀ p, (sampleEchoLine vendorId p).isGift = false := fun p => by
    simp [sampleEchoLine, Json.isGift, Json.intField, Json.field, Json.asInt, bind, Except.bind]
  constructor
  · have hall : (posted.map (sampleEchoLine vendorId)).filter (fun line => !line.isGift)
        = posted.map (sampleEchoLine vendorId) := by
      simp [List.filter_eq_self, hpaid]
    rw [List.filter_cons_of_neg (by simp [hgift]), hall, List.forall₂_map_right_iff,
      List.forall₂_same]
    intro p _
    constructor <;>
      simp [sampleEchoLine, Json.intField, Json.field, asInt_jsonInt, bind, Except.bind]
  · intro line hline
    rcases List.mem_cons.1 hline with rfl | hline
    · simp [Sample.line, Json.intField, Json.field, Json.asInt, bind, Except.bind]
    · obtain ⟨p, -, rfl⟩ := List.mem_map.1 hline
      simp [sampleEchoLine, Json.intField, Json.field, Json.asInt, bind, Except.bind]

/-- A cart of two products. -/
def sampleTwoLines : App :=
  let add draft := addToCart Sample.singleVendor (Draft.item draft)
  ((add (Sample.draft 2 7 (.int 5) 1)).exec ((add (Sample.draft 1 7 (.int 5) 2)).exec {}).2).2

theorem updateCartDataFrom_twice_of_sample :
    let app' := ((updateCartDataFrom sampleServer {}).exec sampleTwoLines).2
    app'.con.cartProducts.length = 3 ∧
      (updateCartDataFrom sampleServer {}).exec app' = (.ok true, app') ∧
      paidJson app'.con.cartProducts = paidJson sampleTwoLines.con.cartProducts :=
  ⟨by decide +kernel, updateCartDataFrom_twice sampleServer_echoing (by decide +kernel)
    (Prod.ext (by decide +kernel) rfl)⟩

end App
end Nourgomla
