import Mathlib.Data.List.TakeWhile
import Nourgomla.Controllers.SplashController
import Nourgomla.Library.Uri

set_option autoImplicit false

/-! # Links that are shared and opened

`controllers/dynamic_link_controller.dart` builds the link of a product or a category, and
`services/api_calls/dynamic_link_service.dart` takes apart the link the app was opened with. In between
the link is shortened and resolved again by the link service, which is a parameter. -/

namespace Nourgomla

/-- `link` of the `DynamicLinkParameters`; an id is a 64-bit integer. -/
def DynamicLinkController.linkText (id : Int64) (isProduct : Bool) : String :=
  "http://api.nourgomla.com/public/" ++ (if isProduct then "product" else "category")
    ++ "?id=" ++ toString id.toInt

/-- What the app is opened with. -/
structure PendingDynamicLinkData where
  link : Option Uri

/-- The link service: the short link of a link, and the link an app that is opened with a short link is given, none if
    it is no such link. -/
structure FirebaseDynamicLinks where
  buildShortLink : String → String
  resolve : String → Option String

namespace FirebaseDynamicLinks

/-- The link of the parameters is what the app is given. -/
def HandsBack (service : FirebaseDynamicLinks) : Prop :=
  ∀ link, service.resolve (service.buildShortLink link) = some link

/-- The data of `getInitialLink` and `onLink`. -/
def pending (service : FirebaseDynamicLinks) (shortLink : String) : Option PendingDynamicLinkData :=
  (service.resolve shortLink).map fun link => { link := some (Uri.parse link) }

end FirebaseDynamicLinks

def DynamicLinkController.createSharableDynamicLink (service : FirebaseDynamicLinks) (id : Int64) (isProduct : Bool) :
    String :=
  service.buildShortLink (linkText id isProduct)

/-- `_handleDeepLink` from the URI on. -/
def DynamicLinkService.handleDeepLink {Location : Type} (data : Option PendingDynamicLinkData) :
    Method DartError (StartupState Location) Unit :=
  match data.bind (·.link) with
  | none => pure ()
  | some deepLink => do
    let pathSegments ← Method.ofExcept (notNull deepLink.pathSegments)
    let queryParameters ← Method.ofExcept (notNull deepLink.queryParameters)
    Nourgomla.handleDeepLink
      { pathSegments
        id := (queryParameters "id").bind parseInt }

/-! ## The link that is built -/

theorem fitsInt64_toInt (id : Int64) : FitsInt64 id.toInt :=
  ⟨id.le_toInt, id.toInt_lt⟩

/-- An integer is written with digits and a minus sign. -/
theorem mem_toString_int {n : Int} {c : Char} (h : c ∈ (toString n).toList) :
    c = '-' ∨ c.isDigit = true := by
  rw [Int.toString_eq_repr, Int.repr_eq_if] at h
  split at h
  · rw [Nat.toList_repr] at h
    exact .inr (Nat.isDigit_of_mem_toDigits (by decide) (by decide) h)
  · rw [String.toList_append, Nat.toList_repr] at h
    rcases List.mem_append.1 h with h | h
    · exact .inl (by simpa using h)
    · exact .inr (Nat.isDigit_of_mem_toDigits (by decide) (by decide) h)

/-- None of them ends the query or the parameter, or has to be decoded. -/
theorem isPlain_of_mem_toString {n : Int} {c : Char} (h : c ∈ (toString n).toList) :
    IsPlain true c ∧ c ≠ '&' ∧ c ≠ '#' := by
  rcases mem_toString_int h with rfl | hdigit
  · decide
  · have hne : ∀ d : Char, d.isDigit = false → c ≠ d := by
      rintro d hd rfl
      rw [hd] at hdigit
      cases hdigit
    have hrange := toNat_of_isDigit hdigit
    exact ⟨⟨by omega, hne '%' rfl, fun hplus => hne '+' rfl hplus.2⟩, hne '&' rfl, hne '#' rfl⟩

/-- The link up to its query. -/
def linkHead (isProduct : Bool) : String :=
  "http://api.nourgomla.com/public/" ++ if isProduct then "product" else "category"

theorem toList_linkText (id : Int64) (isProduct : Bool) :
    (DynamicLinkController.linkText id isProduct).toList
      = (linkHead isProduct).toList ++ '?' :: (['i', 'd'] ++ '=' :: (toString id.toInt).toList) := by
  have hname : "?id=".toList = ['?', 'i', 'd', '='] := by decide +kernel
  change (linkHead isProduct ++ "?id=" ++ toString id.toInt).toList = _
  rw [String.toList_append, String.toList_append, hname]
  simp only [List.append_assoc, List.cons_append, List.nil_append]

theorem parse_linkText (id : Int64) (isProduct : Bool) :
    Uri.parse (DynamicLinkController.linkText id isProduct)
      = { path := Uri.withoutAuthority (Uri.withoutScheme (linkHead isProduct).toList)
          query := ['i', 'd'] ++ '=' :: (toString id.toInt).toList } := by
  have hhead : ∀ c ∈ (linkHead isProduct).toList, c ≠ '#' ∧ c ≠ '?' := by
    have hall : ∀ kind, (linkHead kind).toList.all (fun c => c ≠ '#' ∧ c ≠ '?') = true := by decide +kernel
    simpa using hall isProduct
  have htail : ∀ c ∈ '?' :: (['i', 'd'] ++ '=' :: (toString id.toInt).toList), c ≠ '#' := by
    intro c hc
    simp only [List.mem_cons, List.mem_append, List.not_mem_nil, or_false] at hc
    rcases hc with rfl | (rfl | rfl) | rfl | hc
    · decide
    · decide
    · decide
    · decide
    · exact (isPlain_of_mem_toString hc).2.2
  have hall : (DynamicLinkController.linkText id isProduct).toList.takeWhile (· ≠ '#')
      = (DynamicLinkController.linkText id isProduct).toList := by
    refine List.takeWhile_eq_self_iff.2 fun c hc => ?_
    rw [toList_linkText] at hc
    rcases List.mem_append.1 hc with hc | hc
    · simpa using (hhead c hc).1
    · simpa using htail c hc
  have htake : ∀ rest, ((linkHead isProduct).toList ++ '?' :: rest).takeWhile (· ≠ '?')
      = (linkHead isProduct).toList := by
    intro rest
    rw [List.takeWhile_append_of_pos fun c hc => by simpa using (hhead c hc).2]
    simp
  have hdrop : ∀ rest, ((linkHead isProduct).toList ++ '?' :: rest).dropWhile (· ≠ '?')
      = '?' :: rest := by
    intro rest
    rw [List.dropWhile_append_of_pos fun c hc => by simpa using (hhead c hc).2]
    simp
  rw [Uri.parse, hall, toList_linkText, htake, hdrop]
  rfl

/-- The segment of the kind, and no other that means anything. -/
theorem pathSegments_linkText (id : Int64) (isProduct : Bool) :
    (Uri.parse (DynamicLinkController.linkText id isProduct)).pathSegments
      = some ["public", if isProduct then "product" else "category"] := by
  have hpath : ∀ kind, (Uri.mk (Uri.withoutAuthority (Uri.withoutScheme (linkHead kind).toList))
      []).pathSegments = some ["public", if kind then "product" else "category"] := by
    decide +kernel
  rw [parse_linkText]
  exact hpath isProduct

/-- The id comes back as it was written. -/
theorem queryParameters_linkText (id : Int64) (isProduct : Bool) :
    ∃ parameters,
      (Uri.parse (DynamicLinkController.linkText id isProduct)).queryParameters = some parameters ∧
        (parameters "id").bind parseInt = some id.toInt := by
  rw [parse_linkText]
  have hnamePlain : ∀ c ∈ ['i', 'd'], IsPlain true c ∧ c ≠ '&' ∧ c ≠ '=' := by
    simp only [List.forall_mem_cons]
    exact ⟨by decide, by decide, by simp⟩
  refine ⟨_, Uri.queryParameters_single (by decide) hnamePlain
    fun c hc => ⟨(isPlain_of_mem_toString hc).1, (isPlain_of_mem_toString hc).2.1⟩, ?_⟩
  have hname : String.ofList ['i', 'd'] = "id" := by decide +kernel
  rw [hname, String.ofList_toList, Dictionary.assign, Function.update_self, Option.bind_some,
    parseInt_toString (fitsInt64_toInt id)]

end Nourgomla
