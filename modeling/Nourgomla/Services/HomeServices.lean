import Nourgomla.Controllers.UserController

set_option autoImplicit false

/-! # The home screen's request (`services/api_calls/home_services.dart`)

It names the caller and the place of `controllers/location_controller.dart`: the area that was chosen,
or the one the device is in. -/

namespace Nourgomla

/-- Of `models/location_model.dart` what the requests read. -/
structure LocationModel where
  adminArea : Option String
  subAdminArea : Option String
deriving DecidableEq

structure LocationController where
  userLocation : Option LocationModel := none
  /-- the chosen area, by its `keyArea` -/
  chosenArea : Option (Option String) := none
deriving DecidableEq

/-- The body of `getHomeData`. -/
structure HomeBody where
  userId : String
  userRoleId : Option Int
  location : Option String
deriving DecidableEq

/-- The body that is posted. -/
def HomeServices.homeBody (con : UserState) (locationCon : LocationController) : HomeBody :=
  { userId := if con.loggedIn then UserController.userId con else ""
    userRoleId := if con.loggedIn then UserController.userRole con else some 1
    location := match locationCon.chosenArea, locationCon.userLocation with
      | some keyArea, _ => keyArea
      | none, some location => location.subAdminArea
      | none, none => some "" }

end Nourgomla
