import Nourgomla.Controllers.AddressesController
import Nourgomla.Library.Flag
import Nourgomla.Services.OrderServices

set_option autoImplicit false

/-! # The selected address exists

The selected address should be null or the one flagged object of the list; then an order is only
placed to an address that is listed. A list that is loaded gets its first address selected, and so
does a tap; but `deleteAddress` empties the list and keeps the selection, and when the answer that
follows is empty or fails it stays that way. So the property holds throughout a run exactly if
nothing is deleted while an address is selected (`selectionListed_iff_unselected`). -/

namespace Nourgomla

open Method AddressesController

/-- The selected address is the one object of the list that has the flag. -/
def SelectionListed (con : AddressesController) : Prop :=
  ∀ address ∈ con.selectedAddress,
    (con.addressesData.filter ListedAddress.selected).map ListedAddress.toAddressObject = [address]

instance (con : AddressesController) : Decidable (SelectionListed con) :=
  inferInstanceAs (Decidable (∀ address ∈ con.selectedAddress, _))

/-- An order that is posted now goes to an address of the list. -/
def OrdersListed (con : AddressesController) : Prop :=
  ∀ (checkout : Checkout) (cart : CartController) (ordersList : List OrderProduct)
    (coupon : Option Coupon) (vendorId : String) (body : OrderBody),
    checkout.selectedAddress = con.selectedAddress.map AddressObject.model →
    OrderServices.placeOrderBody checkout cart ordersList coupon vendorId = .ok body →
    ∃ address ∈ con.addressesData, address.selected = true ∧
      body.addressId = address.model.id ∧ body.addressAddress = address.model.address

/-- Nothing is deleted while an address is selected. -/
@[reducible] def DeletesUnselected (s : AddressBook) : AddressEvent → Prop
  | .deleteAddress _ => s.con.selectedAddress = none
  | _ => True

/-! ## The selection -/

theorem ordersListed_of_selectionListed {con : AddressesController} (h : SelectionListed con) :
    OrdersListed con := by
  intro checkout cart ordersList coupon vendorId body hselected hbody
  obtain ⟨model, hmodel, hid, haddress⟩ := OrderServices.placeOrderBody_address hbody
  obtain ⟨address, hsome, rfl⟩ := Option.map_eq_some_iff.1 (hselected.symm.trans hmodel)
  obtain ⟨listed, hlisted, hsame⟩ := List.map_eq_singleton_iff.1 (h address hsome)
  obtain ⟨hmem, hflag⟩ := List.mem_filter.1 (hlisted ▸ List.mem_singleton_self listed)
  exact ⟨listed, hmem, hflag, hsame ▸ hid, hsame ▸ haddress⟩

/-- The controller with the address at `index` selected. -/
def withSelected (con : AddressesController) (index : Nat) (address : ListedAddress) :
    AddressesController :=
  { con with
    addressesData := (con.addressesData.map ListedAddress.unselect).set index address.select
    selectedAddress := some address.toAddressObject }

theorem exec_selectAddress {con : AddressesController} {index : Nat}
    (h : index < con.addressesData.length) : ∃ address,
    (con.addressesData.map ListedAddress.unselect)[index]? = some address ∧
      (selectAddress index).exec con = (.ok (), withSelected con index address) := by
  obtain ⟨address, haddress⟩ : ∃ address,
      (con.addressesData.map ListedAddress.unselect)[index]? = some address :=
    ⟨_, List.getElem?_eq_getElem (by simpa using h)⟩
  refine ⟨address, haddress, ?_⟩
  simp only [selectAddress, exec_modify_bind, exec_get_bind, haddress, exec_modify]
  rfl

/-- A selection is listed, whatever was selected before. -/
theorem selectionListed_withSelected {con : AddressesController} {index : Nat}
    {address : ListedAddress}
    (h : (con.addressesData.map ListedAddress.unselect)[index]? = some address) :
    SelectionListed (withSelected con index address) := by
  have honly : ((con.addressesData.map ListedAddress.unselect).set index address.select).filter
      ListedAddress.selected = [address.select] := filter_set_on (fun _ => rfl) (fun _ => rfl) h
  intro selected hselected
  obtain rfl := Option.some.inj hselected
  show List.map _ (List.filter _ _) = _
  rw [withSelected, honly]
  rfl

/-- What an answer with a list assigns is listed; any other answer keeps list and selection. -/
theorem selectionListed_assign {con : AddressesController} (next : Nat)
    (data : Option (List AddressModel)) (h : SelectionListed con) :
    SelectionListed ((getUserAddressesAssign next data).exec con).2 := by
  match data with
  | some (first :: rest) =>
      have hfirst : 0 < ({ con with addressesData := objects next (first :: rest) } :
          AddressesController).addressesData.length := by simp [objects]
      obtain ⟨address, haddress, hselect⟩ := exec_selectAddress hfirst
      have hlisted := selectionListed_withSelected haddress
      simp only [getUserAddressesAssign, exec_bind, exec_modify, hselect]
      exact hlisted
  | some [] => exact h
  | none => exact h

/-! ## Every run -/

theorem selectionListed_step {s s' : AddressBook} {e : AddressEvent} (h : SelectionListed s.con)
    (hdelete : DeletesUnselected s e) (hstep : addressBook.step s e = some s') :
    SelectionListed s'.con := by
  cases e with
  | getUserAddresses =>
      obtain rfl := Option.some.inj hstep
      exact h
  | addNewAddress =>
      obtain rfl := Option.some.inj hstep
      exact h
  | updateAddress addressId =>
      obtain rfl := Option.some.inj hstep
      exact h
  | deleteAddress addressId =>
      obtain rfl := Option.some.inj hstep
      intro address haddress
      -- the list is empty now, and nothing was selected
      have hnone : s.con.selectedAddress = some address := haddress
      rw [hdelete] at hnone
      cases hnone
  | selectAddress index =>
      obtain ⟨hindex, hstep⟩ := Option.ite_none_right_eq_some.1 hstep
      obtain rfl := Option.some.inj hstep
      obtain ⟨address, haddress, hselect⟩ := exec_selectAddress hindex
      show SelectionListed ((selectAddress index).exec s.con).2
      rw [hselect]
      exact selectionListed_withSelected haddress
  | answer k answer =>
      obtain ⟨request, -, rfl⟩ := Option.map_eq_some_iff.1 hstep
      cases request with
      | select => exact selectionListed_assign _ _ h
      | insert => exact h
      | update addressId => exact h
      | delete addressId => exact h

/-- After a deletion the list is empty, so nothing may have been selected. -/
theorem deletesUnselected_of_listed {s s' : AddressBook} {e : AddressEvent}
    (hstep : addressBook.step s e = some s') (h : SelectionListed s'.con) :
    DeletesUnselected s e := by
  cases e with
  | deleteAddress addressId =>
      obtain rfl := Option.some.inj hstep
      show s.con.selectedAddress = none
      cases hselected : s.con.selectedAddress with
      | none => rfl
      | some address =>
          have hlisted := h address hselected
          simp [AddressBook.perform, AddressBook.post, deleteAddressPost] at hlisted
  | _ => trivial

/-- The selected address is listed, and every order that is posted goes to a listed address, throughout
    a run exactly if nothing is deleted while an address is selected. -/
theorem selectionListed_iff_unselected (events : List AddressEvent) :
    addressBook.Throughout (fun s => SelectionListed s.con ∧ OrdersListed s.con) AddressBook.opened
        events ↔
      addressBook.Meets DeletesUnselected AddressBook.opened events := by
  have hopened : SelectionListed AddressBook.opened.con := by decide
  exact Machine.throughout_iff_meets (fun s => SelectionListed s.con)
    (fun s h => ⟨h, ordersListed_of_selectionListed h⟩)
    (fun _ _ _ h _ hdelete hstep => selectionListed_step h hdelete hstep)
    (fun _ _ _ _ _ hstep h => deletesUnselected_of_listed hstep h.1) events hopened
    (Machine.meets_true events)

/-! ## The last address is deleted -/

/-- An answer with addresses of the given ids. -/
def sampleAddresses (ids : List Int) : Except DartError Json :=
  .ok (.obj [("data", .arr (ids.map fun id => .obj [("id", .num (.int id))]))])

/-- The only address is loaded and deleted; the list that is loaded after it is empty. -/
def sampleDeleted : List AddressEvent :=
  [.answer 0 (sampleAddresses [5]), .deleteAddress (some 5), .answer 0 (.ok .null),
    .answer 0 (sampleAddresses [])]

/-- Nothing is waiting, the list is empty, and address 5 is still selected: an order would go there. -/
theorem not_selectionListed_of_deleted : ∃ s,
    addressBook.run AddressBook.opened sampleDeleted = some s ∧ s.waiting = [] ∧
    s.con.addressesData = [] ∧ (s.con.selectedAddress.map fun a => a.model.id) = some (some 5) ∧
    ¬ SelectionListed s.con := by
  refine Machine.reaches ?_
  decide +kernel

end Nourgomla
