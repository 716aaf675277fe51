import Nourgomla.Widgets.HomeBuilder

set_option autoImplicit false

/-! # The home page says what the server says

A section is shown as its title, if that is shown, and a line for each of its entries, in order. A line has the image
of its entry, and a tap on it opens what the entry is about. The builder comes to that through parallel lists, which
`Renders` relates to the entries section by section. -/

namespace Nourgomla

/-! ## What the server says -/

inductive SectionKind
  | banners
  | products
  | categories
  | vendors
deriving DecidableEq

def SectionKind.ofType (type : Option String) : Option SectionKind :=
  if type = some "banners" ∨ type = some "banners_group" ∨ type = some "banners_h_list" then some .banners
  else if type = some "products" then some .products
  else if type = some "categories" then some .categories
  else if type = some "vendor_category" then some .vendors
  else none

/-- What a banner opens: the target of its type. -/
def bannerOpens (entry : Json) : Except DartError (Option HomeRoute) := do
  let type ← entry.field "type"
  if type.isText "category" then return some (.productsPage (← entry.intField "target_id") (some "Category"))
  else if type.isText "product" then return some (.productById (← entry.intField "target_id") "1")
  else if type.isText "vendor" then return some (.vendorCategories (← entry.intField "target_id"))
  else return none

/-- The name of an entry in the language of the app. -/
def nameOf (lang : String) (entry : Json) : Except DartError (Option String) :=
  entry.stringField (if lang = "ar" then "name_ar" else "name_en")

/-- An image and what a tap on it opens; the path of an image is a text or null. -/
def imageItem (image : Json) (opens : Except DartError (Option HomeRoute)) : Except DartError HomeLine := do
  return .item (← image.asString) opens

/-- What an entry shows and what a tap on it opens. -/
def entryLine (lang : String) : SectionKind → Json → Except DartError HomeLine
  | .banners, entry => return .alone (imageItem (← entry.field "images_path") (bannerOpens entry))
  | .products, entry => return HomeWidget.productItem (← Product.fromJson entry)
  | .categories, entry => return .alone (imageItem (← entry.field "images_path") do
      return some (.productsPage (← entry.intField "id") (← nameOf lang entry)))
  | .vendors, entry => return .alone (imageItem (← entry.field "images_path") do
      return some (.vendor (← entry.intField "id") (← nameOf lang entry)))

def HomeLine.isFailed : HomeLine → Bool
  | .failed _ => true
  | _ => false

structure HomeSection where
  type : Option String
  data : Option (List Json)
  showTitle : Bool
  nameAr : Option String
  nameEn : Option String

namespace HomeSection

def fromJson (element : Json) : Except DartError HomeSection :=
  return {
    type := ← element.stringField "type"
    data := ← element.listField "data"
    showTitle := (← element.field "show_name").equalsInt 1
    nameAr := ← element.stringField "name_ar"
    nameEn := ← element.stringField "name_en" }

def title (lang : String) (homeSection : HomeSection) : List HomeLine :=
  if homeSection.showTitle then
    [.title (if lang = "ar" then homeSection.nameAr else homeSection.nameEn)]
  else []

/-- The images of a slider are built together, and those of a group after the first. -/
def shows (homeSection : HomeSection) (lines : List HomeLine) : List HomeLine :=
  if homeSection.type = some "banners" then (lines.find? HomeLine.isFailed).elim lines ([·])
  else if homeSection.type = some "banners_group" then (lines.head?.filter HomeLine.isFailed).elim lines ([·])
  else lines

/-- A section of another type, or with nothing in it, or of vendors where there is one only, shows nothing. -/
def lines (isMultiVendor : Bool) (lang : String) (homeSection : HomeSection) : Except DartError (List HomeLine) :=
  match SectionKind.ofType homeSection.type with
  | none => return []
  | some kind => do
    let data ← notNull homeSection.data
    if data = [] ∨ (kind = .vendors ∧ isMultiVendor = false) then return []
    else return homeSection.title lang ++ homeSection.shows (← data.mapM (entryLine lang kind))

end HomeSection

def sectionLines (isMultiVendor : Bool) (lang : String) (element : Json) : Except DartError (List HomeLine) := do
  (← HomeSection.fromJson element).lines isMultiVendor lang

/-- The home page, section by section. -/
def homePage (isMultiVendor : Bool) (lang : String) (homeData : Json) : Except DartError (List HomeLine) := do
  let elements ← notNull (← homeData.listField "data")
  return (← elements.mapM (sectionLines isMultiVendor lang)).flatten

/-! ## Widgets and lines -/

/-- Widgets that show the lines, or the same failure. -/
inductive Renders (lang : String) : Except DartError (List HomeWidget) → Except DartError (List HomeLine) → Prop
  | fails (e : DartError) : Renders lang (.error e) (.error e)
  | shows (widgets : List HomeWidget) : Renders lang (.ok widgets) (.ok (widgets.flatMap (HomeWidget.build lang)))

namespace Renders

variable {lang : String}

theorem nil : Renders lang (.ok []) (.ok []) :=
  shows []

theorem title (showTitle : Bool) (nameAr nameEn : Option String) :
    Renders lang (.ok (if showTitle then [.title nameAr nameEn] else []))
      (.ok (if showTitle then [.title (if lang = "ar" then nameAr else nameEn)] else [])) := by
  cases showTitle with
  | false => exact nil
  | true => exact shows [.title nameAr nameEn]

/-- One widget. -/
theorem widget (widget : Except DartError HomeWidget) :
    Renders lang (widget >>= fun w => pure [w]) (widget >>= fun w => pure (w.build lang)) := by
  cases widget with
  | error e => exact fails e
  | ok w =>
      have hone : Renders lang (.ok [w]) (.ok ([w].flatMap (HomeWidget.build lang))) := shows [w]
      rwa [List.flatMap_singleton] at hone

theorem append {widgets widgets' : Except DartError (List HomeWidget)} {lines lines' : Except DartError (List HomeLine)}
    (h : Renders lang widgets lines) (h' : Renders lang widgets' lines') :
    Renders lang (do return (← widgets) ++ (← widgets')) (do return (← lines) ++ (← lines')) := by
  cases h with
  | fails e => exact fails e
  | shows ws =>
      cases h' with
      | fails e => exact fails e
      | shows ws' =>
          have hboth : Renders lang (.ok (ws ++ ws')) (.ok ((ws ++ ws').flatMap (HomeWidget.build lang))) := shows (ws ++ ws')
          rwa [List.flatMap_append] at hboth

/-- After the same checks. -/
theorem bind {α : Type} {x : Except DartError α} {f : α → Except DartError (List HomeWidget)}
    {g : α → Except DartError (List HomeLine)} (h : ∀ a, x = .ok a → Renders lang (f a) (g a)) :
    Renders lang (x >>= f) (x >>= g) := by
  cases x with
  | error e => exact fails e
  | ok a => exact h a rfl

/-- What follows goes on from widgets that show the lines. -/
theorem andThen {widgets : Except DartError (List HomeWidget)} {lines : Except DartError (List HomeLine)}
    {f : List HomeWidget → Except DartError (List HomeWidget)} {g : List HomeLine → Except DartError (List HomeLine)}
    (h : Renders lang widgets lines) (hrest : ∀ ws ls, Renders lang (.ok ws) (.ok ls) → Renders lang (f ws) (g ls)) :
    Renders lang (widgets >>= f) (lines >>= g) := by
  cases h with
  | fails e => exact fails e
  | shows ws => exact hrest _ _ (shows ws)

/-- The page shows its widgets. -/
theorem page {widgets : Except DartError (List HomeWidget)} {lines : Except DartError (List HomeLine)}
    (h : Renders lang widgets lines) : (do return (← widgets).flatMap (HomeWidget.build lang)) = lines := by
  cases h <;> rfl

end Renders

/-! ## Items that fail -/

section Items

variable {ρ : Type} {item : ρ → Except DartError HomeLine}

theorem find_cons_item {row : ρ} {line : HomeLine} (hline : line.isFailed = false) (hrow : item row = .ok line)
    (lines : List HomeLine) : (.alone (item row) :: lines).find? HomeLine.isFailed = lines.find? HomeLine.isFailed := by
  rw [hrow, HomeLine.alone, List.find?_cons_of_neg (by simp [hline])]

/-- Items that are built one after another are all there, or the first failure is what is left. -/
theorem mapM_items (hitem : ∀ row line, item row = .ok line → line.isFailed = false) (rows : List ρ) :
    (rows.mapM item = .ok (rows.map fun row => .alone (item row)) ∧
      (rows.map fun row => HomeLine.alone (item row)).find? HomeLine.isFailed = none) ∨
    ∃ e, rows.mapM item = .error e ∧
      (rows.map fun row => HomeLine.alone (item row)).find? HomeLine.isFailed = some (.failed e) := by
  induction rows with
  | nil => exact .inl ⟨rfl, rfl⟩
  | cons row rows ih =>
      rw [List.mapM_cons, List.map_cons]
      cases hrow : item row with
      | error e => exact .inr ⟨e, rfl, rfl⟩
      | ok line =>
          have hfind := find_cons_item (hitem row line hrow) hrow (rows.map fun row => .alone (item row))
          rw [hrow] at hfind
          rw [hfind]
          obtain ⟨hrows, hnone⟩ | ⟨e, hrows, hsome⟩ := ih
          · exact .inl ⟨by rw [hrows]; rfl, hnone⟩
          · exact .inr ⟨e, by rw [hrows]; rfl, hsome⟩

theorem together_mapM (hitem : ∀ row line, item row = .ok line → line.isFailed = false) (rows : List ρ) :
    HomeLine.together (rows.mapM item) =
      ((rows.map fun row => HomeLine.alone (item row)).find? HomeLine.isFailed).elim
        (rows.map fun row => .alone (item row)) ([·]) := by
  obtain ⟨hrows, hfind⟩ | ⟨e, hrows, hfind⟩ := mapM_items hitem rows
  · rw [hrows, hfind]
    rfl
  · rw [hrows, hfind]
    rfl

end Items

theorem imageItem_notFailed {image : Json} {opens : Except DartError (Option HomeRoute)} {line : HomeLine}
    (h : imageItem image opens = .ok line) : line.isFailed = false := by
  obtain ⟨path, -, hline⟩ := bind_eq_ok.1 h
  obtain rfl := Except.ok.inj hline
  rfl

/-! ## Parallel lists -/

theorem listAt_map {α β : Type} {l : List α} {f : α → β} {index : Nat} {a : α} (h : l[index]? = some a) :
    listAt (l.map f) index = .ok (f a) := by
  simp [listAt, h]

/-- The fields of a banner, in the order they are read. -/
structure BannerRow where
  image : Json
  routeId : Json
  type : Json

namespace BannerRow

def ofEntry (e : Json) : Except DartError BannerRow :=
  return { image := ← e.field "images_path", routeId := ← e.field "target_id", type := ← e.field "type" }

def lists (rows : List BannerRow) : BannerLists :=
  { images := rows.map image, routesIds := rows.map routeId, typesData := rows.map type }

def put (lists : BannerLists) (row : BannerRow) : BannerLists :=
  { images := lists.images ++ [row.image]
    routesIds := lists.routesIds ++ [row.routeId]
    typesData := lists.typesData ++ [row.type] }

theorem foldl_put (rows before : List BannerRow) : rows.foldl put (lists before) = lists (before ++ rows) := by
  induction rows generalizing before with
  | nil => simp
  | cons row rows ih =>
      rw [List.foldl_cons, show put (lists before) row = lists (before ++ [row]) by simp [put, lists], ih]
      simp

theorem foldlM_add (data : List Json) :
    data.foldlM BannerLists.add {} = data.mapM ofEntry >>= fun rows => pure (lists rows) := by
  have hadd : BannerLists.add = fun acc e => ofEntry e >>= fun row => pure (put acc row) := by
    funext acc e
    simp only [BannerLists.add, ofEntry, bind_assoc, pure_bind]
    rfl
  rw [hadd, foldlM_bind_pure]
  exact congrArg _ (funext fun rows => congrArg pure (foldl_put rows []))

theorem foldlM_widget (widget : BannerLists → HomeWidget) (data : List Json) :
    (data.foldlM BannerLists.add {} >>= fun ls => pure (widget ls)) =
      data.mapM ofEntry >>= fun rows => pure (widget (lists rows)) := by
  rw [foldlM_add, bind_assoc]
  rfl

/-- What a tap on the banner opens. -/
def opens (row : BannerRow) : Except DartError (Option HomeRoute) := do
  if row.type.isText "category" then return some (.productsPage (← row.routeId.asInt) (some "Category"))
  else if row.type.isText "product" then return some (.productById (← row.routeId.asInt) "1")
  else if row.type.isText "vendor" then return some (.vendorCategories (← row.routeId.asInt))
  else return none

theorem opens_eq {e : Json} {row : BannerRow} (h : ofEntry e = .ok row) : bannerOpens e = row.opens := by
  obtain ⟨image, -, h⟩ := bind_eq_ok.1 h
  obtain ⟨routeId, hroute, h⟩ := bind_eq_ok.1 h
  obtain ⟨type, htype, h⟩ := bind_eq_ok.1 h
  obtain rfl : _ = row := Except.ok.inj h
  have hid : e.intField "target_id" = routeId.asInt := by
    rw [Json.intField, hroute]
    rfl
  rw [bannerOpens, htype, hid]
  rfl

theorem homeRouter_lists {rows : List BannerRow} {index : Nat} {row : BannerRow} (h : rows[index]? = some row) :
    homeRouter index (lists rows).typesData (lists rows).routesIds = row.opens := by
  rw [homeRouter, lists, listAt_map h, listAt_map h]
  rfl

def item (row : BannerRow) : Except DartError HomeLine := imageItem row.image row.opens

theorem bannerItem_lists {rows : List BannerRow} {index : Nat} {row : BannerRow} (h : rows[index]? = some row) :
    HomeWidget.bannerItem (lists rows) index = row.item := by
  rw [HomeWidget.bannerItem, homeRouter_lists h, lists, listAt_map h]
  rfl

def line (row : BannerRow) : HomeLine := .alone row.item

theorem entryLine_eq (lang : String) :
    entryLine lang .banners = fun e => ofEntry e >>= fun row => pure row.line := by
  funext e
  cases e with
  | obj fields =>
      obtain ⟨row, hrow⟩ : ∃ row, ofEntry (.obj fields) = .ok row := ⟨_, rfl⟩
      rw [entryLine, opens_eq hrow, hrow]
      obtain rfl : _ = row := Except.ok.inj hrow
      rfl
  | _ => rfl

theorem build_homeImagesSlider (lang : String) (rows : List BannerRow) :
    (HomeWidget.homeImagesSlider (lists rows)).build lang =
      ((rows.map line).find? HomeLine.isFailed).elim (rows.map line) ([·]) := by
  have hitems : (List.range rows.length).mapM (HomeWidget.bannerItem (lists rows)) = rows.mapM item :=
    mapM_range fun index row hget => bannerItem_lists hget
  rw [HomeWidget.build, lists, List.length_map, ← lists, hitems]
  exact together_mapM (fun row line h => imageItem_notFailed h) rows

theorem build_horizontalListOneLine (lang : String) (rows : List BannerRow) :
    (HomeWidget.horizontalListOneLine (lists rows)).build lang = rows.map line := by
  rw [HomeWidget.build, lists, List.length_map, ← lists]
  exact map_range fun index row hget => congrArg HomeLine.alone (bannerItem_lists hget)

/-- If the first image fails, there is nothing else. -/
theorem build_bannersGroupList (lang : String) {rows : List BannerRow} (hne : rows ≠ []) :
    (HomeWidget.bannersGroupList (lists rows)).build lang =
      ((rows.map line).head?.filter HomeLine.isFailed).elim (rows.map line) ([·]) := by
  obtain ⟨row, rows, rfl⟩ := List.exists_cons_of_ne_nil hne
  have hfirst : HomeWidget.bannerItem (lists (row :: rows)) 0 = row.item := bannerItem_lists rfl
  have hothers : ((List.range rows.length).map fun index =>
      HomeLine.alone (HomeWidget.bannerItem (lists (row :: rows)) (index + 1))) = rows.map line :=
    map_range fun index row' hget => congrArg HomeLine.alone (bannerItem_lists (by simpa using hget))
  have hlength : (lists (row :: rows)).images.length - 1 = rows.length := by simp [lists]
  rw [HomeWidget.build, hfirst, hlength, hothers, List.map_cons, List.head?_cons, line]
  cases hitem : row.item with
  | error e => rfl
  | ok line =>
      have hline : line.isFailed = false := imageItem_notFailed hitem
      simp [HomeLine.alone, Option.filter, hline, HomeLine.together, bind, Except.bind, pure, Except.pure]

end BannerRow

/-- The fields of a category or a vendor, in the order they are read. -/
structure TitledRow where
  image : Json
  titleAr : Json
  titleEn : Json
  routeId : Json

namespace TitledRow

def ofEntry (e : Json) : Except DartError TitledRow :=
  return {
    image := ← e.field "images_path"
    titleAr := ← e.field "name_ar"
    titleEn := ← e.field "name_en"
    routeId := ← e.field "id" }

def lists (rows : List TitledRow) : TitledLists :=
  { images := rows.map image
    titlesAr := rows.map titleAr
    titlesEn := rows.map titleEn
    routesIds := rows.map routeId }

def put (lists : TitledLists) (row : TitledRow) : TitledLists :=
  { images := lists.images ++ [row.image]
    titlesAr := lists.titlesAr ++ [row.titleAr]
    titlesEn := lists.titlesEn ++ [row.titleEn]
    routesIds := lists.routesIds ++ [row.routeId] }

theorem foldl_put (rows before : List TitledRow) : rows.foldl put (lists before) = lists (before ++ rows) := by
  induction rows generalizing before with
  | nil => simp
  | cons row rows ih =>
      rw [List.foldl_cons, show put (lists before) row = lists (before ++ [row]) by simp [put, lists], ih]
      simp

theorem foldlM_add (data : List Json) :
    data.foldlM TitledLists.add {} = data.mapM ofEntry >>= fun rows => pure (lists rows) := by
  have hadd : TitledLists.add = fun acc e => ofEntry e >>= fun row => pure (put acc row) := by
    funext acc e
    simp only [TitledLists.add, ofEntry, bind_assoc, pure_bind]
    rfl
  rw [hadd, foldlM_bind_pure]
  exact congrArg _ (funext fun rows => congrArg pure (foldl_put rows []))

theorem foldlM_widget (widget : TitledLists → HomeWidget) (data : List Json) :
    (data.foldlM TitledLists.add {} >>= fun ls => pure (widget ls)) =
      data.mapM ofEntry >>= fun rows => pure (widget (lists rows)) := by
  rw [foldlM_add, bind_assoc]
  rfl

def title (lang : String) (row : TitledRow) : Except DartError (Option String) :=
  if lang = "ar" then row.titleAr.asString else row.titleEn.asString

theorem titleAt_lists {lang : String} {rows : List TitledRow} {index : Nat} {row : TitledRow}
    (h : rows[index]? = some row) : HomeWidget.titleAt lang (lists rows) index = row.title lang := by
  rw [HomeWidget.titleAt, lists, listAt_map h, listAt_map h]
  rfl

theorem nameOf_eq {lang : String} {fields : List (String × Json)} {row : TitledRow}
    (h : ofEntry (.obj fields) = .ok row) : nameOf lang (.obj fields) = row.title lang := by
  obtain rfl : _ = row := Except.ok.inj h
  unfold nameOf title
  split <;> rfl

/-- An item of the list, which opens the page of the row. -/
def item (opens : Option Int → Option String → HomeRoute) (lang : String) (row : TitledRow) :
    Except DartError HomeLine :=
  imageItem row.image do return some (opens (← row.routeId.asInt) (← row.title lang))

def line (opens : Option Int → Option String → HomeRoute) (lang : String) (row : TitledRow) : HomeLine :=
  .alone (row.item opens lang)

/-- An entry that is a category or a vendor, read field by field. -/
theorem line_eq (opens : Option Int → Option String → HomeRoute) (lang : String) :
    (fun e : Json => do
      return HomeLine.alone (imageItem (← e.field "images_path") do
        return some (opens (← e.intField "id") (← nameOf lang e)))) =
      fun e => ofEntry e >>= fun row => pure (row.line opens lang) := by
  funext e
  cases e with
  | obj fields =>
      obtain ⟨row, hrow⟩ : ∃ row, ofEntry (.obj fields) = .ok row := ⟨_, rfl⟩
      rw [nameOf_eq hrow, hrow]
      obtain rfl : _ = row := Except.ok.inj hrow
      rfl
  | _ => rfl

theorem entryLine_categories (lang : String) :
    entryLine lang .categories = fun e => ofEntry e >>= fun row => pure (row.line .productsPage lang) :=
  line_eq .productsPage lang

theorem entryLine_vendors (lang : String) :
    entryLine lang .vendors = fun e => ofEntry e >>= fun row => pure (row.line .vendor lang) :=
  line_eq .vendor lang

theorem build_categories (lang : String) (isVertical : Bool) (rows : List TitledRow) :
    (HomeWidget.categoryListBuilder isVertical (lists rows)).build lang = rows.map (line .productsPage lang) := by
  rw [HomeWidget.build, lists, List.length_map, ← lists]
  refine map_range fun index row hget => congrArg HomeLine.alone ?_
  rw [HomeWidget.categoryItem, titleAt_lists hget, lists, listAt_map hget, listAt_map hget]
  rfl

theorem build_vendors (lang : String) (isVertical : Bool) (rows : List TitledRow) :
    (HomeWidget.vendorsListBuilder isVertical (lists rows)).build lang = rows.map (line .vendor lang) := by
  rw [HomeWidget.build, lists, List.length_map, ← lists]
  refine map_range fun index row hget => congrArg HomeLine.alone ?_
  rw [HomeWidget.vendorItem, titleAt_lists hget, lists, listAt_map hget, listAt_map hget]
  rfl

end TitledRow

/-! ## Sections -/

namespace Renders

variable {lang : String} {title : List HomeWidget} {titleLines : List HomeLine} {data : List Json}

/-- A section of one widget, which shows a line for each row. -/
theorem rows {ρ : Type} {read : Json → Except DartError ρ} {line : ρ → HomeLine} {kind : SectionKind}
    {widget : List Json → Except DartError HomeWidget} {put : List ρ → HomeWidget}
    {shows : List HomeLine → List HomeLine}
    (htitle : Renders lang (.ok title) (.ok titleLines))
    (hentries : entryLine lang kind = fun e => read e >>= fun row => pure (line row))
    (hwidget : widget data = data.mapM read >>= fun rows => pure (put rows))
    (hbuild : ∀ rows, rows ≠ [] → (put rows).build lang = shows (rows.map line)) :
    Renders lang (HomeBuilder.buildSection data title widget)
      (if data = [] then .ok [] else do return titleLines ++ shows (← data.mapM (entryLine lang kind))) := by
  unfold HomeBuilder.buildSection
  by_cases hnil : data = []
  · rw [if_pos hnil, if_pos hnil]
    exact nil
  rw [if_neg hnil, if_neg hnil, hwidget, hentries, mapM_bind_pure]
  have hlines : (data.mapM read >>= fun rows => pure (put rows) >>= fun w => pure (w.build lang)) =
      data.mapM read >>= fun rows => pure (shows (rows.map line)) := by
    cases hrows : data.mapM read with
    | error e => rfl
    | ok rows =>
        have hne : rows ≠ [] := by
          rintro rfl
          exact hnil (List.length_eq_zero_iff.1 (mapM_eq_ok hrows).length_eq)
        exact congrArg Except.ok (hbuild rows hne)
  have hone : Renders lang _ _ := Renders.widget (data.mapM read >>= fun rows => pure (put rows))
  rw [bind_assoc, bind_assoc, hlines] at hone
  have hboth := htitle.append hone
  simp only [bind_assoc, pure_bind] at hboth ⊢
  exact hboth

/-- The lines of a section whose kind is shown. -/
theorem sections {isMultiVendor showTitle : Bool} {type nameAr nameEn : Option String} {entries : Option (List Json)}
    {kind : SectionKind} {widgets : List Json → Except DartError (List HomeWidget)}
    (hkind : SectionKind.ofType type = some kind) (hmulti : kind = .vendors → isMultiVendor = true)
    (h : ∀ data, Renders lang (widgets data) (if data = [] then .ok [] else do
      return HomeSection.title lang ⟨type, entries, showTitle, nameAr, nameEn⟩ ++
        HomeSection.shows ⟨type, entries, showTitle, nameAr, nameEn⟩ (← data.mapM (entryLine lang kind)))) :
    Renders lang (notNull entries >>= widgets)
      (HomeSection.lines isMultiVendor lang ⟨type, entries, showTitle, nameAr, nameEn⟩) := by
  unfold HomeSection.lines
  rw [hkind]
  refine bind fun data _ => ?_
  specialize h data
  generalize HomeSection.title lang ⟨type, entries, showTitle, nameAr, nameEn⟩ = title at h ⊢
  generalize HomeSection.shows ⟨type, entries, showTitle, nameAr, nameEn⟩ = shows at h ⊢
  have hlines : (if data = [] ∨ kind = .vendors ∧ isMultiVendor = false then pure []
      else do return title ++ shows (← data.mapM (entryLine lang kind))) =
      if data = [] then .ok [] else do return title ++ shows (← data.mapM (entryLine lang kind)) := by
    by_cases hnil : data = []
    · rw [if_pos (.inl hnil), if_pos hnil]
      rfl
    · have hnot : ¬(data = [] ∨ kind = .vendors ∧ isMultiVendor = false) := by
        rintro (hempty | ⟨hvendors, hsingle⟩)
        · exact hnil hempty
        · simp [hmulti hvendors] at hsingle
      rw [if_neg hnot, if_neg hnil]
  rw [hlines]
  exact h

end Renders

/-- The widget of a list of products. -/
def productsWidget (isVertical : Bool) (products : List Product) : HomeWidget :=
  if isVertical then .productsListBuilderVertical products else .productsListBuilder isVertical products

theorem build_productsWidget (lang : String) (isVertical : Bool) (products : List Product) :
    (productsWidget isVertical products).build lang = products.map HomeWidget.productItem := by
  cases isVertical <;> rfl

/-- An element is built as its section says. -/
theorem buildElement_renders (isMultiVendor : Bool) (lang : String) (element : Json) :
    Renders lang (HomeBuilder.buildElement isMultiVendor element) (sectionLines isMultiVendor lang element) := by
  cases element with
  | obj fields =>
      simp only [HomeBuilder.buildElement, sectionLines, HomeSection.fromJson, bind_assoc, pure_bind]
      refine Renders.bind fun type _ => Renders.bind fun data _ => Renders.bind fun shown _ => ?_
      -- the layout is read and does not matter
      obtain ⟨vertical, hvertical⟩ : ∃ v, (Json.obj fields).field "h_v" = .ok v := ⟨_, rfl⟩
      rw [hvertical]
      show Renders lang ((Json.obj fields).stringField "name_ar" >>= _) _
      refine Renders.bind fun nameAr _ => Renders.bind fun nameEn _ => ?_
      have htitle : Renders lang (.ok (if shown.equalsInt 1 then [HomeWidget.title nameAr nameEn] else []))
          (.ok (HomeSection.title lang ⟨type, data, shown.equalsInt 1, nameAr, nameEn⟩)) :=
        Renders.title (shown.equalsInt 1) nameAr nameEn
      by_cases hbanners : type = some "banners"
      · subst hbanners
        have hkind : SectionKind.ofType (some "banners") = some .banners := by decide
        rw [if_pos rfl]
        refine Renders.sections hkind nofun fun data => ?_
        exact Renders.rows htitle (BannerRow.entryLine_eq lang) (BannerRow.foldlM_widget .homeImagesSlider data)
          fun rows _ => BannerRow.build_homeImagesSlider lang rows
      rw [if_neg hbanners]
      by_cases hgroup : type = some "banners_group"
      · subst hgroup
        have hkind : SectionKind.ofType (some "banners_group") = some .banners := by decide
        rw [if_pos rfl]
        refine Renders.sections hkind nofun fun data => ?_
        exact Renders.rows htitle (BannerRow.entryLine_eq lang) (BannerRow.foldlM_widget .bannersGroupList data)
          fun rows hne => BannerRow.build_bannersGroupList lang hne
      rw [if_neg hgroup]
      by_cases hlist : type = some "banners_h_list"
      · subst hlist
        have hkind : SectionKind.ofType (some "banners_h_list") = some .banners := by decide
        rw [if_pos rfl]
        refine Renders.sections hkind nofun fun data => ?_
        exact Renders.rows htitle (BannerRow.entryLine_eq lang) (BannerRow.foldlM_widget .horizontalListOneLine data)
          fun rows _ => BannerRow.build_horizontalListOneLine lang rows
      rw [if_neg hlist]
      by_cases hproducts : type = some "products"
      · subst hproducts
        have hkind : SectionKind.ofType (some "products") = some .products := by decide
        rw [if_pos rfl]
        refine Renders.sections hkind nofun fun data => ?_
        refine Renders.rows htitle rfl ?_ fun rows _ => build_productsWidget lang (vertical.isText "v") rows
        exact congrArg _ (funext fun products => by cases vertical.isText "v" <;> rfl)
      rw [if_neg hproducts]
      by_cases hcategories : type = some "categories"
      · subst hcategories
        have hkind : SectionKind.ofType (some "categories") = some .categories := by decide
        rw [if_pos rfl]
        refine Renders.sections hkind nofun fun data => ?_
        exact Renders.rows htitle (TitledRow.entryLine_categories lang)
          (TitledRow.foldlM_widget (.categoryListBuilder (vertical.isText "v")) data)
          fun rows _ => TitledRow.build_categories lang _ rows
      rw [if_neg hcategories]
      by_cases hvendors : type = some "vendor_category"
      · subst hvendors
        have hkind : SectionKind.ofType (some "vendor_category") = some .vendors := by decide
        rw [if_pos rfl]
        cases isMultiVendor with
        | true =>
            refine Renders.sections hkind (fun _ => rfl) fun data => ?_
            rw [if_pos rfl]
            exact Renders.rows htitle (TitledRow.entryLine_vendors lang)
              (TitledRow.foldlM_widget (.vendorsListBuilder (vertical.isText "v")) data)
              fun rows _ => TitledRow.build_vendors lang _ rows
        | false =>
            rw [HomeSection.lines, hkind]
            refine Renders.bind fun entries _ => ?_
            rw [if_neg Bool.false_ne_true, if_pos (.inr ⟨rfl, rfl⟩)]
            exact Renders.nil
      · have hkind : SectionKind.ofType type = none := by
          simp [SectionKind.ofType, hbanners, hgroup, hlist, hproducts, hcategories, hvendors]
        rw [if_neg hvendors, HomeSection.lines, hkind]
        exact Renders.nil
  | _ => exact Renders.fails _

theorem buildHomeElements_renders (isMultiVendor : Bool) (lang : String) (elements : List Json) :
    Renders lang (HomeBuilder.buildHomeElements isMultiVendor elements)
      (do return (← elements.mapM (sectionLines isMultiVendor lang)).flatten) := by
  have hafter : ∀ (elements : List Json) (ws : List HomeWidget) (ls : List HomeLine),
      Renders lang (.ok ws) (.ok ls) →
        Renders lang
          (elements.foldlM (fun children element =>
            HomeBuilder.buildElement isMultiVendor element >>= fun added => pure (children ++ added)) ws)
          (do return ls ++ (← elements.mapM (sectionLines isMultiVendor lang)).flatten) := by
    intro elements
    induction elements with
    | nil =>
        intro ws ls h
        rw [List.foldlM_nil, List.mapM_nil, pure_bind, List.flatten_nil, List.append_nil]
        exact h
    | cons element elements ih =>
        intro ws ls h
        have hnext := (h.append (buildElement_renders isMultiVendor lang element)).andThen ih
        simp only [List.foldlM_cons, List.mapM_cons, bind_assoc, pure_bind, List.flatten_cons,
          ← List.append_assoc] at hnext ⊢
        exact hnext
  exact hafter elements [] [] Renders.nil

/-- **The home page says what the server says.** For every answer, in either mode and language, the builder shows the
    title and the entries of each section in the order of the answer, and a tap on an entry opens what the entry is
    about. The page fails exactly where the answer cannot be read; a path of an image that is no text is an error in
    the place of the slider it is in, of the group it is the first of, and else of its entry alone. -/
theorem home_page_meaning (isMultiVendor : Bool) (lang : String) (homeData : Json) :
    HomeBuilder.build isMultiVendor lang homeData = homePage isMultiVendor lang homeData := by
  unfold HomeBuilder.build homePage
  refine congrArg _ (funext fun dataList => congrArg _ (funext fun elements => ?_))
  exact (buildHomeElements_renders isMultiVendor lang elements).page

end Nourgomla
