import Nourgomla.Controllers.CategoriesController
import Nourgomla.Controllers.LanguageController

set_option autoImplicit false

/-! # The latest choice wins

Neither controller looks at the request an answer belongs to, so the answer that arrives last is shown. It is
the one that counts if it is the answer to the newest request, or one that brings the same. -/

namespace Nourgomla

variable {α : Type}

/-! ## The labels -/

/-- The controller, and the answers so far by the number of their request. -/
abbrev LanguageHistory := LanguageState × Dictionary Nat (Except DartError Json)

def noteLabels (_ : LanguageState) (e : LanguageEvent) (answers : Dictionary Nat (Except DartError Json)) :
    Dictionary Nat (Except DartError Json) :=
  match e with
  | .toggled _ => answers
  | .answered number answer => answers.assign number answer

def languageChoices : Machine LanguageHistory LanguageEvent := languageController.track noteLabels

/-- With no request on its way, the labels are those of the answer for the current language. -/
def ShowsLanguage (h : LanguageHistory) : Prop :=
  ShowsNewest h.1.requests h.2 h.1.body fun answer => h.1.langData = LanguageServices.labels answer

/-- The last answer on its way is the newest request's and has no gap, or brings the same labels. -/
def LabelsPrevail (h : LanguageHistory) (e : LanguageEvent) : Prop :=
  ∀ number answer, e = .answered number answer →
    Prevails h.1.requests h.2 number (LanguageServices.Unbroken answer)
      fun newest => LanguageServices.getLabels answer = LanguageServices.labels newest

/-- Every request has been answered or will be, and the newest one is for the current language. -/
structure LanguageInv (h : LanguageHistory) : Prop where
  accounted : Accounted h.1.requests h.2
  current : h.1.requests.sent.getLast? = some h.1.body

theorem languageInv_step {h h' : LanguageHistory} {e : LanguageEvent} (hinv : LanguageInv h)
    (hstep : languageChoices.step h e = some h') : LanguageInv h' := by
  obtain ⟨hstep, hnote⟩ := Machine.track_step.1 hstep
  rcases h' with ⟨s', answers'⟩
  cases e with
  | toggled localValue =>
      obtain rfl : _ = s' := Option.some.inj hstep
      obtain rfl : answers' = h.2 := hnote
      exact ⟨hinv.accounted.send _, List.getLast?_concat⟩
  | answered number answer =>
      obtain ⟨-, hstep⟩ := Option.ite_none_right_eq_some.1 hstep
      obtain rfl : _ = s' := Option.some.inj hstep
      obtain rfl : answers' = h.2.assign number answer := hnote
      exact ⟨hinv.accounted.settle number answer, hinv.current⟩

/-- A choice shows nothing yet, and of an answer only what prevails is right. -/
theorem showsLanguage_step_iff {h h' : LanguageHistory} {e : LanguageEvent} (hinv : LanguageInv h)
    (hstep : languageChoices.step h e = some h') : ShowsLanguage h' ↔ LabelsPrevail h e := by
  obtain ⟨hstep, hnote⟩ := Machine.track_step.1 hstep
  rcases h' with ⟨s', answers'⟩
  cases e with
  | toggled localValue =>
      obtain rfl : _ = s' := Option.some.inj hstep
      refine iff_of_true (showsNewest_send _) ?_
      intro number answer he
      cases he
  | answered number answer =>
      obtain ⟨-, hstep⟩ := Option.ite_none_right_eq_some.1 hstep
      obtain rfl : _ = s' := Option.some.inj hstep
      obtain rfl : answers' = h.2.assign number answer := hnote
      refine (showsNewest_settle_iff hinv.accounted hinv.current number answer).trans ?_
      rw [LanguageState.langData_assignAll, LanguageServices.getLabels_eq_labels_iff]
      constructor
      · intro hprevails number' answer' he
        cases he
        exact hprevails
      · intro hprevails
        exact hprevails number answer rfl

theorem languageChoices_iff (stored : Option String) (events : List LanguageEvent) :
    languageChoices.Throughout ShowsLanguage (LanguageState.initLangData stored, Dictionary.empty) events ↔
      languageChoices.Meets LabelsPrevail (LanguageState.initLangData stored, Dictionary.empty) events := by
  have hinit : LanguageInv (LanguageState.initLangData stored, Dictionary.empty) :=
    ⟨Accounted.send_first _, List.getLast?_concat⟩
  refine Machine.throughout_iff_of_step LanguageInv ?_ events hinit (showsNewest_send _)
    (Machine.meets_true events)
  intro h e h' hinv _ _ hstep
  exact ⟨languageInv_step hinv hstep, showsLanguage_step_iff hinv hstep⟩

/-! ## The categories -/

/-- The controller, and the answers so far by the number of their request. -/
abbrev CategoriesHistory (α : Type) := CategoriesState α × Dictionary Nat (Except DartError Json)

def noteCategories (_ : CategoriesState α) (e : CategoriesEvent)
    (answers : Dictionary Nat (Except DartError Json)) : Dictionary Nat (Except DartError Json) :=
  match e with
  | .answered number answer => answers.assign number answer
  | .typeSelected _ | .queryTyped _ | .debounced => answers

theorem noteCategories_choice {s : CategoriesState α} {e : CategoriesEvent}
    {answers : Dictionary Nat (Except DartError Json)} (hchoice : ∀ number answer, e ≠ .answered number answer) :
    noteCategories s e answers = answers := by
  cases e with
  | typeSelected type => rfl
  | queryTyped queryName => rfl
  | debounced => rfl
  | answered number answer => exact absurd rfl (hchoice number answer)

variable (fromJson : Json → Except DartError α)

def categoryChoices : Machine (CategoriesHistory α) CategoriesEvent :=
  (categoriesController fromJson).track noteCategories

/-- With no request on its way and no search waiting for its turn, the list is the answer for the current type
    and name. -/
def ShowsCategories (h : CategoriesHistory α) : Prop :=
  h.1.debouncing = false → ShowsNewest h.1.requests h.2 h.1.body
    fun answer => h.1.state = CategoryServices.getCategories fromJson answer

/-- The last answer on its way is the newest request's or brings the same list, unless a search follows. -/
def CategoriesPrevail (h : CategoriesHistory α) (e : CategoriesEvent) : Prop :=
  ∀ number answer, e = .answered number answer → h.1.debouncing = false →
    Prevails h.1.requests h.2 number True fun newest =>
      CategoryServices.getCategories fromJson answer = CategoryServices.getCategories fromJson newest

/-- The newest request is for the current choice, unless a search follows. -/
structure CategoriesInv (h : CategoriesHistory α) : Prop where
  accounted : Accounted h.1.requests h.2
  current : h.1.debouncing = false → h.1.requests.sent.getLast? = some h.1.body

variable {fromJson}

theorem categoriesInv_step {h h' : CategoriesHistory α} {e : CategoriesEvent} (hinv : CategoriesInv h)
    (hstep : (categoryChoices fromJson).step h e = some h') : CategoriesInv h' := by
  obtain ⟨hstep, hnote⟩ := Machine.track_step.1 hstep
  rcases h' with ⟨s', answers'⟩
  by_cases hchoice : ∀ number answer, e ≠ .answered number answer
  · obtain rfl : answers' = h.2 := hnote.trans (noteCategories_choice hchoice)
    obtain rfl | ⟨t, hrequests, rfl⟩ | ⟨hdebouncing, hrequests⟩ := CategoriesState.choice_cases hstep hchoice
    · exact hinv
    · exact ⟨Accounted.send (hrequests ▸ hinv.accounted) _, fun _ => List.getLast?_concat⟩
    · refine ⟨?_, fun hsettled => ?_⟩
      · change Accounted s'.requests h.2
        rw [hrequests]
        exact hinv.accounted
      · exact absurd (hdebouncing.symm.trans hsettled) (by decide)
  · push Not at hchoice
    obtain ⟨number, answer, rfl⟩ := hchoice
    obtain ⟨-, hstep⟩ := Option.ite_none_right_eq_some.1 hstep
    obtain rfl : _ = s' := Option.some.inj hstep
    obtain rfl : answers' = h.2.assign number answer := hnote
    obtain ⟨status, hreceived⟩ := CategoriesState.received_eq fromJson h.1 number answer
    rw [hreceived]
    exact ⟨hinv.accounted.settle number answer, hinv.current⟩

/-- As with the labels, only an answer can leave the wrong list behind. -/
theorem showsCategories_step_iff {h h' : CategoriesHistory α} {e : CategoriesEvent} (hinv : CategoriesInv h)
    (hshows : ShowsCategories fromJson h) (hstep : (categoryChoices fromJson).step h e = some h') :
    ShowsCategories fromJson h' ↔ CategoriesPrevail fromJson h e := by
  obtain ⟨hstep, hnote⟩ := Machine.track_step.1 hstep
  rcases h' with ⟨s', answers'⟩
  by_cases hchoice : ∀ number answer, e ≠ .answered number answer
  · obtain rfl : answers' = h.2 := hnote.trans (noteCategories_choice hchoice)
    refine iff_of_true ?_ fun number answer he => absurd he (hchoice number answer)
    obtain rfl | ⟨t, -, rfl⟩ | ⟨hdebouncing, -⟩ := CategoriesState.choice_cases hstep hchoice
    · exact hshows
    · exact fun _ => showsNewest_send _
    · exact fun hsettled => absurd (hdebouncing.symm.trans hsettled) (by decide)
  · push Not at hchoice
    obtain ⟨number, answer, rfl⟩ := hchoice
    obtain ⟨-, hstep⟩ := Option.ite_none_right_eq_some.1 hstep
    obtain rfl : _ = s' := Option.some.inj hstep
    obtain rfl : answers' = h.2.assign number answer := hnote
    obtain ⟨status, hreceived⟩ := CategoriesState.received_eq fromJson h.1 number answer
    rw [hreceived]
    have hanswer : ShowsCategories fromJson ({ h.1 with
          state := CategoryServices.getCategories fromJson answer
          status := status
          requests := h.1.requests.settle number }, h.2.assign number answer) ↔
        (h.1.debouncing = false → Prevails h.1.requests h.2 number True fun newest =>
          CategoryServices.getCategories fromJson answer
            = CategoryServices.getCategories fromJson newest) := by
      refine forall_congr' fun hsettled => ?_
      refine (showsNewest_settle_iff hinv.accounted (hinv.current hsettled) number answer).trans ?_
      rw [eq_self_iff_true]
    refine hanswer.trans ?_
    constructor
    · intro hprevails number' answer' he
      cases he
      exact hprevails
    · intro hprevails
      exact hprevails number answer rfl

theorem categoryChoices_iff (events : List CategoriesEvent) :
    (categoryChoices fromJson).Throughout (ShowsCategories fromJson)
        (CategoriesState.onInit, Dictionary.empty) events ↔
      (categoryChoices fromJson).Meets (CategoriesPrevail fromJson)
        (CategoriesState.onInit, Dictionary.empty) events := by
  have hinit : CategoriesInv ((CategoriesState.onInit : CategoriesState α), Dictionary.empty) :=
    ⟨Accounted.send_first _, fun _ => List.getLast?_concat⟩
  refine Machine.throughout_iff_of_step CategoriesInv ?_ events hinit (fun _ => showsNewest_send _)
    (Machine.meets_true events)
  intro h e h' hinv hshows _ hstep
  exact ⟨categoriesInv_step hinv hstep, showsCategories_step_iff hinv hshows hstep⟩

/-! ## Both -/

variable (fromJson)

/-- **The latest choice.** For each controller: whenever nothing is on its way, what is shown is the answer for
    the current choice, exactly if the last answer on its way always is the newest request's, with the labels
    read without a gap, or brings the same. -/
theorem latestWins_iff (stored : Option String) (languageEvents : List LanguageEvent)
    (categoriesEvents : List CategoriesEvent) :
    (languageChoices.Throughout ShowsLanguage
        (LanguageState.initLangData stored, Dictionary.empty) languageEvents ↔
      languageChoices.Meets LabelsPrevail
        (LanguageState.initLangData stored, Dictionary.empty) languageEvents) ∧
    ((categoryChoices fromJson).Throughout (ShowsCategories fromJson)
        (CategoriesState.onInit, Dictionary.empty) categoriesEvents ↔
      (categoryChoices fromJson).Meets (CategoriesPrevail fromJson)
        (CategoriesState.onInit, Dictionary.empty) categoriesEvents) :=
  ⟨languageChoices_iff stored languageEvents, categoryChoices_iff categoriesEvents⟩

/-- An answer with one label. -/
def oneLabel (value : String) : Except DartError Json :=
  .ok (.obj [("data", .arr [.obj [("label_key", .str "cart"), ("label_value", .str value)]])])

/-- An answer with one category. -/
def oneCategory (id : Int) : Except DartError Json :=
  .ok (.obj [("data", .arr [.obj [("id", .num (.int id))]]), ("filter_1", .arr []), ("filter_2", .arr []),
    ("filter_3", .arr [])])

/-- English is chosen, and a second type, while the first request is on its way; its answer comes last. -/
theorem late_answers_stay :
    ¬ languageChoices.Throughout ShowsLanguage (LanguageState.initLangData none, Dictionary.empty)
      [.toggled "en", .answered 1 (oneLabel "Cart"), .answered 0 (oneLabel "السلة")] ∧
    ¬ (categoryChoices (Json.intField "id")).Throughout (ShowsCategories (Json.intField "id"))
      (CategoriesState.onInit, Dictionary.empty)
      [.typeSelected (some 2), .answered 1 (oneCategory 20), .answered 0 (oneCategory 10)] := by
  constructor
  · intro hgood
    obtain ⟨-, answer, hanswer, hlabels⟩ := ((hgood.2 _ rfl).2 _ rfl).2 _ rfl rfl
    obtain rfl : oneLabel "Cart" = answer := Option.some.inj hanswer
    have hcart := congrFun hlabels (some "cart")
    revert hcart
    decide
  · intro hgood
    obtain ⟨-, answer, hanswer, hlist⟩ := ((hgood.2 _ rfl).2 _ rfl).2 _ rfl rfl rfl
    obtain rfl : oneCategory 20 = answer := Option.some.inj hanswer
    revert hlist
    decide

end Nourgomla
