import Nourgomla.Models.Product

set_option autoImplicit false

/-! # The home page

The server says what is on the home page. `ui/home/widgets/home_builder.dart` turns its sections into widgets, the
widgets of `ui/home/widgets` show their lists, and `helpers/routers.dart` opens what is tapped. A section's entries
are taken apart into lists of one field each, which the widgets index together. -/

namespace Nourgomla

/-- What is opened from the home page. -/
inductive HomeRoute
  | productsPage (categoryId : Option Int) (title : Option String)
  | productById (productId : Option Int) (type : String)
  | product (product : Product)
  | vendorCategories (vendorCategoryId : Option Int)
  | vendor (vendorId : Option Int) (title : Option String)
deriving DecidableEq

/-- `json == text` for a text. -/
def Json.isText (text : String) : Json → Bool
  | .str s => s = text
  | _ => false

/-- `list[index]` -/
def listAt {α : Type} (l : List α) (index : Nat) : Except DartError α :=
  (l[index]?).elim (.error .rangeError) .ok

/-- A target of none of the three types opens nothing. -/
def homeRouter (index : Nat) (typesData routsIds : List Json) : Except DartError (Option HomeRoute) := do
  if (← listAt typesData index).isText "category" then
    return some (.productsPage (← (← listAt routsIds index).asInt) (some "Category"))
  else if (← listAt typesData index).isText "product" then
    return some (.productById (← (← listAt routsIds index).asInt) "1")
  else if (← listAt typesData index).isText "vendor" then
    return some (.vendorCategories (← (← listAt routsIds index).asInt))
  else return none

/-! ## The lists of a section -/

/-- The lists of a banner section. -/
structure BannerLists where
  images : List Json := []
  routesIds : List Json := []
  typesData : List Json := []

def BannerLists.add (lists : BannerLists) (e : Json) : Except DartError BannerLists := do
  let image ← e.field "images_path"
  let routeId ← e.field "target_id"
  let type ← e.field "type"
  return {
    images := lists.images ++ [image]
    routesIds := lists.routesIds ++ [routeId]
    typesData := lists.typesData ++ [type] }

/-- The lists of a section of categories or vendors. -/
structure TitledLists where
  images : List Json := []
  titlesAr : List Json := []
  titlesEn : List Json := []
  routesIds : List Json := []

def TitledLists.add (lists : TitledLists) (e : Json) : Except DartError TitledLists := do
  let image ← e.field "images_path"
  let titleAr ← e.field "name_ar"
  let titleEn ← e.field "name_en"
  let routeId ← e.field "id"
  return {
    images := lists.images ++ [image]
    titlesAr := lists.titlesAr ++ [titleAr]
    titlesEn := lists.titlesEn ++ [titleEn]
    routesIds := lists.routesIds ++ [routeId] }

/-! ## The widgets -/

inductive HomeWidget
  | title (titleAr titleEn : Option String)
  | homeImagesSlider (lists : BannerLists)
  | bannersGroupList (lists : BannerLists)
  | horizontalListOneLine (lists : BannerLists)
  | productsListBuilderVertical (products : List Product)
  | productsListBuilder (isVertical : Bool) (products : List Product)
  | categoryListBuilder (isVertical : Bool) (lists : TitledLists)
  | vendorsListBuilder (isVertical : Bool) (lists : TitledLists)

/-- What is seen: a title, an image and what a tap on it opens, or the error that stands in the place of a widget
    whose `build` throws. -/
inductive HomeLine
  | title (text : Option String)
  | item (image : Option String) (onTap : Except DartError (Option HomeRoute))
  | failed (error : DartError)

namespace HomeLine

/-- What is built by a builder of its own. -/
def alone : Except DartError HomeLine → HomeLine
  | .ok line => line
  | .error e => .failed e

/-- What is built by one `build`. -/
def together : Except DartError (List HomeLine) → List HomeLine
  | .ok lines => lines
  | .error e => [.failed e]

end HomeLine

namespace HomeWidget

/-- An image of a list of banners: `CachedImage` and `ImageButton` take a `String`. -/
def bannerItem (lists : BannerLists) (index : Nat) : Except DartError HomeLine := do
  let image ← listAt lists.images index >>= Json.asString
  return .item image (homeRouter index lists.typesData lists.routesIds)

/-- The title in the language of the app. -/
def titleAt (lang : String) (lists : TitledLists) (index : Nat) : Except DartError (Option String) :=
  if lang = "ar" then listAt lists.titlesAr index >>= Json.asString
  else listAt lists.titlesEn index >>= Json.asString

def categoryItem (lang : String) (lists : TitledLists) (index : Nat) : Except DartError HomeLine := do
  let image ← listAt lists.images index >>= Json.asString
  return .item image do
    return some (.productsPage (← (← listAt lists.routesIds index).asInt) (← titleAt lang lists index))

def vendorItem (lang : String) (lists : TitledLists) (index : Nat) : Except DartError HomeLine := do
  let image ← listAt lists.images index >>= Json.asString
  return .item image do
    return some (.vendor (← (← listAt lists.routesIds index).asInt) (← titleAt lang lists index))

def productItem (product : Product) : HomeLine :=
  .item (some product.imagesPath) (.ok (some (.product product)))

/-- What a widget shows, in order. -/
def build (lang : String) : HomeWidget → List HomeLine
  | .title titleAr titleEn => [.title (if lang = "ar" then titleAr else titleEn)]
  | .homeImagesSlider lists => HomeLine.together ((List.range lists.images.length).mapM (bannerItem lists))
  | .bannersGroupList lists => HomeLine.together do
    -- the first image is the large one, the others are built by the grid
    let first ← bannerItem lists 0
    return first :: (List.range (lists.images.length - 1)).map fun index => .alone (bannerItem lists (index + 1))
  | .horizontalListOneLine lists => (List.range lists.images.length).map fun index => .alone (bannerItem lists index)
  | .productsListBuilderVertical products => products.map productItem
  | .productsListBuilder _ products => products.map productItem
  | .categoryListBuilder _ lists =>
    (List.range lists.images.length).map fun index => .alone (categoryItem lang lists index)
  | .vendorsListBuilder _ lists =>
    (List.range lists.images.length).map fun index => .alone (vendorItem lang lists index)

end HomeWidget

/-! ## The builder -/

namespace HomeBuilder

/-- A section with data is its title, if that is shown, and its widget. -/
def buildSection (data : List Json) (title : List HomeWidget) (widget : List Json → Except DartError HomeWidget) :
    Except DartError (List HomeWidget) := do
  if data = [] then return []
  return title ++ [← widget data]

/-- What the builder adds for an element. -/
def buildElement (isMultiVendor : Bool) (element : Json) : Except DartError (List HomeWidget) := do
  let type ← element.stringField "type"
  let data ← element.listField "data"
  let showTitle := (← element.field "show_name").equalsInt 1
  let isVertical := (← element.field "h_v").isText "v"
  let nameAr ← element.stringField "name_ar"
  let nameEn ← element.stringField "name_en"
  let title := if showTitle then [HomeWidget.title nameAr nameEn] else []
  if type = some "banners" then
    buildSection (← notNull data) title fun data => return .homeImagesSlider (← data.foldlM BannerLists.add {})
  else if type = some "banners_group" then
    buildSection (← notNull data) title fun data => return .bannersGroupList (← data.foldlM BannerLists.add {})
  else if type = some "banners_h_list" then
    buildSection (← notNull data) title fun data => return .horizontalListOneLine (← data.foldlM BannerLists.add {})
  else if type = some "products" then
    buildSection (← notNull data) title fun data => do
      let products ← data.mapM Product.fromJson
      if isVertical then return .productsListBuilderVertical products
      else return .productsListBuilder isVertical products
  else if type = some "categories" then
    buildSection (← notNull data) title fun data =>
      return .categoryListBuilder isVertical (← data.foldlM TitledLists.add {})
  else if type = some "vendor_category" then
    let data ← notNull data
    if isMultiVendor then
      buildSection data title fun data => return .vendorsListBuilder isVertical (← data.foldlM TitledLists.add {})
    else return []
  else return []

def buildHomeElements (isMultiVendor : Bool) (homeDataList : List Json) : Except DartError (List HomeWidget) :=
  homeDataList.foldlM (fun children element => return children ++ (← buildElement isMultiVendor element)) []

/-- The page: the widgets are built, and each shows its lines. -/
def build (isMultiVendor : Bool) (lang : String) (homeData : Json) : Except DartError (List HomeLine) := do
  let homeDataList ← notNull (← homeData.listField "data")
  let children ← buildHomeElements isMultiVendor homeDataList
  return children.flatMap (HomeWidget.build lang)

end HomeBuilder

end Nourgomla
