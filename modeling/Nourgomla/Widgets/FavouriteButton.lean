import Nourgomla.Library.Machine
import Nourgomla.Models.Product

set_option autoImplicit false

/-! # The heart of a product card

The favourite button of `common_widgets/product_card_1.dart`, which the other cards repeat, with
`Product.toggleFavoriteStatus` and `FavouriteService.addFavoriteItem`. A tap sends the call and turns the
heart over at once; how the call ends is known to the service only, which shows it. -/

namespace Nourgomla

/-- The result is not awaited, and listeners only redraw. -/
def Product.toggleFavoriteStatus (product : Product) : Product :=
  if product.likeProduct = some 1 then { product with likeProduct := some 0 }
  else { product with likeProduct := some 1 }

/-- A card, the server's flag for its product and the user, and the calls that are on their way. -/
structure FavouriteState where
  product : Product
  serverFlag : Bool
  pending : Nat := 0

inductive FavouriteEvent
  /-- without a user the tap only asks to log in -/
  | tap (loggedIn : Bool)
  /-- a call of `addFavoriteItem` ends; one that succeeded has flipped the flag -/
  | finished (success : Bool)
deriving DecidableEq

def FavouriteState.step (s : FavouriteState) : FavouriteEvent → Option FavouriteState
  | .tap loggedIn =>
    if loggedIn then
      some { s with product := s.product.toggleFavoriteStatus, pending := s.pending + 1 }
    else some s
  | .finished success =>
    if 0 < s.pending then
      -- a snack or an error dialog, and no word to the card
      some { s with
        serverFlag := if success then !s.serverFlag else s.serverFlag
        pending := s.pending - 1 }
    else none

/-- Every order of taps and of the ends of their calls. -/
def favouriteButton : Machine FavouriteState FavouriteEvent where
  step := FavouriteState.step

end Nourgomla
