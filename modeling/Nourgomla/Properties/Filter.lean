import Nourgomla.Controllers.FilterController
import Nourgomla.Library.Flag

set_option autoImplicit false

/-! # What the filter shows is what it sends

For each group the flags of the entries and the text that is sent should name the same entry. The
taps and the resets keep the two together, whatever they were before (`coherent_selectFilter`,
`coherent_resetGroup`); a list that `initFilter` puts in place comes with its own flags, and the text
stays. So the two agree as long as nothing is selected in a group whose list is replaced, and, the
lists having no entry selected when they are decoded, only then (`showsSent_of_cleared`). -/

namespace Nourgomla

/-- The text for the entries that are selected: none, or a single one. -/
def IsTextOf (text : Option String) : List Category → Prop
  | [] => text = some ""
  | [entry] => text = entry.filterId
  | _ :: _ :: _ => False

instance (text : Option String) : (entries : List Category) → Decidable (IsTextOf text entries)
  | [] => inferInstanceAs (Decidable (_ = _))
  | [_] => inferInstanceAs (Decidable (_ = _))
  | _ :: _ :: _ => inferInstanceAs (Decidable False)

/-- At most one entry is selected, and the text is its id, or empty if there is none. -/
def NamesSelected (entries : List Category) (text : Option String) : Prop :=
  IsTextOf text (entries.filter Category.isSelected)

instance (entries : List Category) (text : Option String) : Decidable (NamesSelected entries text) :=
  inferInstanceAs (Decidable (IsTextOf _ _))

/-- What the filter screen shows of each group is what is sent. -/
def ShowsSent (con : FilterController) : Prop :=
  ∀ root ∈ con.filterEntries, NamesSelected (con.children root) (con.selected root)

instance (con : FilterController) : Decidable (ShowsSent con) :=
  inferInstanceAs (Decidable (∀ root ∈ con.filterEntries, _))

/-- The lists that `initFilter` puts in place fit the texts that stay. -/
@[reducible] def Fitting (con : FilterController) : FilterEvent → Prop
  | .initFilter companies trademarks types =>
    (companies ≠ [] → NamesSelected companies con.selectedCompany) ∧
      (trademarks ≠ [] → NamesSelected trademarks con.selectedTrademark) ∧
      (types ≠ [] → NamesSelected types con.selectedType)
  | _ => True

/-- The list put in place of a group's is the one it has already, or nothing is selected: no entry of it, and the text
    of the group is empty. An empty list is ignored. -/
def ReplacesCleared (con : FilterController) (group : FilterGroup) (entries : List Category) : Prop :=
  entries = [] ∨ entries = con.children group ∨
    con.selected group = some "" ∧ ∀ entry ∈ entries, entry.isSelected = false

/-- A list is replaced only in groups of which nothing is selected. -/
@[reducible] def Cleared (con : FilterController) : FilterEvent → Prop
  | .initFilter companies trademarks types =>
    ReplacesCleared con .company companies ∧ ReplacesCleared con .trademark trademarks ∧
      ReplacesCleared con .type types
  | _ => True

/-- No entry is selected when it is decoded. -/
@[reducible] def Unflagged : FilterEvent → Prop
  | .initFilter companies trademarks types =>
    ∀ entries ∈ [companies, trademarks, types], ∀ entry ∈ entries, entry.isSelected = false
  | _ => True

/-! ## Flags and texts -/

/-- No entry is selected after `forEach((e) { e.isSelected = false; })`. -/
theorem namesSelected_unselect (entries : List Category) :
    NamesSelected (entries.map Category.unselect) (some "") := by
  rw [NamesSelected, filter_map_off fun _ => rfl]
  exact rfl

/-- The entry that is tapped is the only one selected. -/
theorem namesSelected_select {entries : List Category} {i : Nat} {entry : Category}
    (h : (entries.map Category.unselect)[i]? = some entry) :
    NamesSelected ((entries.map Category.unselect).set i entry.select) entry.filterId := by
  have honly : ((entries.map Category.unselect).set i entry.select).filter Category.isSelected
      = [entry.select] := filter_set_on (fun _ => rfl) (fun _ => rfl) h
  rw [NamesSelected, honly]
  exact rfl

/-! ## The operations, group by group -/

namespace FilterController

@[simp] theorem selected_unselectChildren (root group : FilterGroup) (con : FilterController) :
    (con.unselectChildren root).selected group = con.selected group := by
  cases root <;> rfl

@[simp] theorem filterEntries_unselectChildren (root : FilterGroup) (con : FilterController) :
    (con.unselectChildren root).filterEntries = con.filterEntries := by
  cases root <;> rfl

theorem children_unselectChildren (root group : FilterGroup) (con : FilterController) :
    (con.unselectChildren root).children group
      = if group = root then (con.children root).map Category.unselect else con.children group := by
  cases root <;> cases group <;> rfl

/-- The name of a root selects its text. -/
theorem selectEntryId_nameEn (root : FilterGroup) (text : Option String) (con : FilterController) :
    (con.selectEntryId root.nameEn text).children = con.children ∧
      (con.selectEntryId root.nameEn text).filterEntries = con.filterEntries ∧
      ∀ group, (con.selectEntryId root.nameEn text).selected group
        = if group = root then text else con.selected group := by
  refine ⟨?_, ?_, fun group => ?_⟩
  · cases root <;> rfl
  · cases root <;> rfl
  · cases root <;> cases group <;> rfl

/-- What a tap on an entry does to each group. -/
theorem selectFilter_eq {root : FilterGroup} {i : Nat} {con : FilterController}
    (hi : i < (con.children root).length) : ∃ entry,
    ((con.children root).map Category.unselect)[i]? = some entry ∧
    (con.selectFilter root i).filterEntries = con.filterEntries ∧
    ∀ group, ((con.selectFilter root i).children group
        = if group = root
          then ((con.children root).map Category.unselect).set i entry.select
          else con.children group) ∧
      ((con.selectFilter root i).selected group
        = if group = root then entry.filterId else con.selected group) := by
  obtain ⟨entry, hentry⟩ : ∃ entry, ((con.children root).map Category.unselect)[i]? = some entry :=
    ⟨_, List.getElem?_eq_getElem (by simpa using hi)⟩
  have hroot : (con.unselectChildren root).children root
      = (con.children root).map Category.unselect := by simp [children_unselectChildren]
  simp only [selectFilter, hroot, hentry]
  refine ⟨entry, rfl, ?_, fun group => ?_⟩
  · cases root <;> rfl
  · cases root <;> cases group <;> exact ⟨rfl, rfl⟩

/-- `initFilter` keeps the list of a group for which it gets none, and every text. -/
theorem initFilter_eq (companies trademarks types : List Category) (con : FilterController) :
    (con.initFilter companies trademarks types).filterEntries = [.order, .company, .trademark, .type] ∧
    ∀ group, (con.initFilter companies trademarks types).selected group = con.selected group ∧
      (con.initFilter companies trademarks types).children group
        = match group with
          | .order => con.orderList
          | .company => if companies = [] then con.companiesFilterList else companies
          | .trademark => if trademarks = [] then con.trademarksFilterList else trademarks
          | .type => if types = [] then con.typesFilterList else types := by
  refine ⟨rfl, fun group => ?_⟩
  cases companies <;> cases trademarks <;> cases types <;> cases group <;> exact ⟨rfl, rfl⟩

/-- A loop over the roots unselects the entries of each. -/
theorem children_foldl (roots : List FilterGroup) (group : FilterGroup) (con : FilterController) :
    (roots.foldl (fun con root => con.unselectChildren root) con).children group
      = if group ∈ roots then (con.children group).map Category.unselect
        else con.children group := by
  have hagain : Category.unselect ∘ Category.unselect = Category.unselect := rfl
  induction roots generalizing con with
  | nil => simp
  | cons root roots ih =>
      rw [List.foldl_cons, ih, children_unselectChildren]
      by_cases hroot : group = root
      · subst hroot
        simp [hagain]
      · simp [hroot]

theorem fields_foldl (roots : List FilterGroup) (con : FilterController) :
    (∀ group, (roots.foldl (fun con root => con.unselectChildren root) con).selected group
        = con.selected group) ∧
      (roots.foldl (fun con root => con.unselectChildren root) con).filterEntries
        = con.filterEntries := by
  induction roots generalizing con with
  | nil => simp
  | cons root roots ih => simp [ih]

end FilterController

/-! ## The invariant -/

/-- Flags and texts agree in every group, and a group whose root is not there yet has no entry
    selected. -/
structure Coherent (con : FilterController) : Prop where
  agrees : ∀ group, NamesSelected (con.children group) (con.selected group)
  rooted : ∀ group, group ∈ con.filterEntries ∨ NamesSelected (con.children group) (some "")

theorem coherent_empty : Coherent {} where
  agrees group := by cases group <;> decide
  rooted group := Or.inr (by cases group <;> decide)

/-- An operation that leaves the other groups alone and makes its own agree. -/
theorem Coherent.of_group {con con' : FilterController} (h : Coherent con) (root : FilterGroup)
    (hentries : con'.filterEntries = con.filterEntries)
    (hroot : NamesSelected (con'.children root) (con'.selected root) ∧
      (root ∈ con.filterEntries ∨ NamesSelected (con'.children root) (some "")))
    (hothers : ∀ group, group ≠ root →
      con'.children group = con.children group ∧ con'.selected group = con.selected group) :
    Coherent con' := by
  constructor
  · intro group
    by_cases hgroup : group = root
    · exact hgroup ▸ hroot.1
    · obtain ⟨hchildren, hselected⟩ := hothers group hgroup
      rw [hchildren, hselected]
      exact h.agrees group
  · intro group
    rw [hentries]
    by_cases hgroup : group = root
    · exact hgroup ▸ hroot.2
    · rw [(hothers group hgroup).1]
      exact h.rooted group

theorem coherent_selectFilter {con : FilterController} {root : FilterGroup} {i : Nat}
    (h : Coherent con) (hroot : root ∈ con.filterEntries) (hi : i < (con.children root).length) :
    Coherent (con.selectFilter root i) := by
  obtain ⟨entry, hentry, hentries, hgroups⟩ := FilterController.selectFilter_eq hi
  refine h.of_group root hentries ⟨?_, Or.inl hroot⟩ fun group hgroup => ?_
  · rw [(hgroups root).1, (hgroups root).2, if_pos rfl, if_pos rfl]
    exact namesSelected_select hentry
  · rw [(hgroups group).1, (hgroups group).2, if_neg hgroup, if_neg hgroup]
    exact ⟨rfl, rfl⟩

/-- Each of the three resets clears its group. -/
theorem coherent_resetGroup {con : FilterController} (h : Coherent con) (root : FilterGroup) :
    Coherent (con.resetGroup root) := by
  obtain ⟨hchildren, hentries, hselected⟩ :=
    FilterController.selectEntryId_nameEn root (some "") con
  have hcleared : NamesSelected ((con.resetGroup root).children root) (some "") := by
    rw [FilterController.resetGroup, FilterController.children_unselectChildren, if_pos rfl]
    exact namesSelected_unselect _
  refine h.of_group root ?_ ⟨?_, Or.inr hcleared⟩ fun group hgroup => ⟨?_, ?_⟩
  · simp [FilterController.resetGroup, hentries]
  · simpa [FilterController.resetGroup, hselected] using hcleared
  · simp [FilterController.resetGroup, FilterController.children_unselectChildren, hgroup, hchildren]
  · simp [FilterController.resetGroup, hselected, hgroup]

/-- The reset of all groups clears every list that a root shows; the others had nothing selected. -/
theorem coherent_resetFilter {con : FilterController} (h : Coherent con) :
    Coherent con.resetFilter := by
  have hselected : ∀ group, con.resetFilter.selected group = some "" := by
    intro group
    rw [FilterController.resetFilter, (FilterController.fields_foldl _ _).1]
    cases group <;> rfl
  have hcleared : ∀ group, NamesSelected (con.resetFilter.children group) (some "") := by
    intro group
    rw [FilterController.resetFilter, FilterController.children_foldl]
    split
    · exact namesSelected_unselect _
    · rename_i hgroup
      have hnone := (h.rooted group).resolve_left hgroup
      cases group <;> exact hnone
  exact ⟨fun group => hselected group ▸ hcleared group, fun group => Or.inr (hcleared group)⟩

theorem coherent_initFilter {con : FilterController} {companies trademarks types : List Category}
    (h : Coherent con) (hfit : Fitting con (.initFilter companies trademarks types)) :
    Coherent (con.initFilter companies trademarks types) := by
  obtain ⟨hcompanies, htrademarks, htypes⟩ := hfit
  obtain ⟨hentries, hgroups⟩ := FilterController.initFilter_eq companies trademarks types con
  constructor
  · intro group
    rw [(hgroups group).1, (hgroups group).2]
    cases group with
    | order => exact h.agrees .order
    | company =>
        show NamesSelected (if companies = [] then _ else companies) con.selectedCompany
        split
        · exact h.agrees .company
        · exact hcompanies ‹_›
    | trademark =>
        show NamesSelected (if trademarks = [] then _ else trademarks) con.selectedTrademark
        split
        · exact h.agrees .trademark
        · exact htrademarks ‹_›
    | type =>
        show NamesSelected (if types = [] then _ else types) con.selectedType
        split
        · exact h.agrees .type
        · exact htypes ‹_›
  · intro group
    rw [hentries]
    exact Or.inl (by cases group <;> decide)

theorem coherent_step {con con' : FilterController} {e : FilterEvent} (h : Coherent con)
    (hfit : Fitting con e) (hstep : productFilter.step con e = some con') : Coherent con' := by
  simp only [productFilter, FilterController.step] at hstep
  cases e with
  | initFilter companies trademarks types =>
      obtain rfl := Option.some.inj hstep
      exact coherent_initFilter h hfit
  | selectFilter root i =>
      obtain ⟨⟨hroot, hi⟩, hstep⟩ := Option.ite_none_right_eq_some.1 hstep
      obtain rfl := Option.some.inj hstep
      exact coherent_selectFilter h hroot hi
  | resetFilter =>
      obtain rfl := Option.some.inj hstep
      exact coherent_resetFilter h
  | resetCompaniesFilter =>
      obtain rfl := Option.some.inj hstep
      exact coherent_resetGroup h .company
  | resetTradeMarksFilter =>
      obtain rfl := Option.some.inj hstep
      exact coherent_resetGroup h .trademark
  | resetTypesFilter =>
      obtain rfl := Option.some.inj hstep
      exact coherent_resetGroup h .type

/-- If all groups agree after `initFilter`, the lists it put in place did fit. -/
theorem fitting_of_showsSent {con con' : FilterController} {e : FilterEvent}
    (hstep : productFilter.step con e = some con') (h : ShowsSent con') : Fitting con e := by
  cases e with
  | initFilter companies trademarks types =>
      obtain rfl := Option.some.inj hstep
      obtain ⟨hentries, hgroups⟩ := FilterController.initFilter_eq companies trademarks types con
      have hagrees : ∀ group, NamesSelected ((con.initFilter companies trademarks types).children group)
          (con.selected group) := by
        intro group
        rw [← (hgroups group).1]
        exact h group (by rw [hentries]; cases group <;> decide)
      refine ⟨fun hne => ?_, fun hne => ?_, fun hne => ?_⟩
      · simpa [(hgroups .company).2, hne, FilterController.selected] using hagrees .company
      · simpa [(hgroups .trademark).2, hne, FilterController.selected] using hagrees .trademark
      · simpa [(hgroups .type).2, hne, FilterController.selected] using hagrees .type
  | _ => trivial

/-! ## Every run -/

theorem showsSent_iff_fitting (events : List FilterEvent) :
    productFilter.Throughout ShowsSent {} events ↔ productFilter.Meets Fitting {} events := by
  have hstep : ∀ con e con', Coherent con → True → Fitting con e →
      productFilter.step con e = some con' → Coherent con' :=
    fun _ _ _ h _ hfit hstep => coherent_step h hfit hstep
  exact Machine.throughout_iff_meets Coherent (fun con h group _ => h.agrees group) hstep
    (fun _ _ _ _ _ hstep h => fitting_of_showsSent hstep h) events coherent_empty
    (Machine.meets_true events)

theorem namesSelected_unflagged {entries : List Category} (h : ∀ entry ∈ entries, entry.isSelected = false)
    (text : Option String) : NamesSelected entries text ↔ text = some "" := by
  have hnone : entries.filter Category.isSelected = [] :=
    List.filter_eq_nil_iff.2 fun entry hentry => by simp [h entry hentry]
  rw [NamesSelected, hnone]
  exact Iff.rfl

/-- A list put in place of a cleared one fits the text, whatever it was. -/
theorem ReplacesCleared.fits {con : FilterController} (h : Coherent con) {group : FilterGroup}
    {entries : List Category} (hcleared : ReplacesCleared con group entries) (hne : entries ≠ []) :
    NamesSelected entries (con.selected group) := by
  rcases hcleared with hempty | rfl | ⟨htext, hunflagged⟩
  · exact absurd hempty hne
  · exact h.agrees group
  · exact (namesSelected_unflagged hunflagged _).2 htext

/-- A list without a flag that fits the text finds it empty. -/
theorem replacesCleared_of_fits {con : FilterController} {group : FilterGroup} {entries : List Category}
    (hunflagged : ∀ entry ∈ entries, entry.isSelected = false)
    (hfits : entries ≠ [] → NamesSelected entries (con.selected group)) : ReplacesCleared con group entries := by
  rcases eq_or_ne entries [] with hempty | hne
  · exact Or.inl hempty
  · exact Or.inr (Or.inr ⟨(namesSelected_unflagged hunflagged _).1 (hfits hne), hunflagged⟩)

/-- What the filter shows is what it sends throughout every run in which nothing is selected in a group whose list is
    replaced; and, no entry being selected when it is decoded, in no other run. -/
theorem showsSent_of_cleared (events : List FilterEvent) :
    (productFilter.Meets Cleared {} events → productFilter.Throughout ShowsSent {} events) ∧
      (productFilter.Meets (fun _ e => Unflagged e) {} events →
        productFilter.Throughout ShowsSent {} events → productFilter.Meets Cleared {} events) := by
  constructor
  · refine Machine.throughout_of_meets Coherent (fun con h group _ => h.agrees group) ?_ events coherent_empty
    intro con e con' h hcleared hstep
    refine coherent_step h ?_ hstep
    cases e with
    | initFilter companies trademarks types =>
        exact ⟨hcleared.1.fits h, hcleared.2.1.fits h, hcleared.2.2.fits h⟩
    | _ => trivial
  · intro hunflagged hshows
    refine (hunflagged.and ((showsSent_iff_fitting events).1 hshows)).imp fun con e he => ?_
    cases e with
    | initFilter companies trademarks types =>
        obtain ⟨hflags, hcompanies, htrademarks, htypes⟩ := he
        exact ⟨replacesCleared_of_fits (hflags companies (by simp)) hcompanies,
          replacesCleared_of_fits (hflags trademarks (by simp)) htrademarks,
          replacesCleared_of_fits (hflags types (by simp)) htypes⟩
    | _ => trivial

/-- Two companies. -/
def sampleCompanies (ids : List Int) : List Category :=
  ids.map fun id => { id := some id, nameEn := some "company" }

/-- Company 1 is selected, then another category is opened that has other companies. -/
def sampleReplaced : List FilterEvent :=
  [.initFilter (sampleCompanies [1, 2]) [] [], .selectFilter .company 0,
    .initFilter (sampleCompanies [3, 4]) [] []]

/-- No company is shown as selected, and company 1 is sent. -/
theorem not_showsSent_of_replaced : ∃ con, productFilter.run {} sampleReplaced = some con ∧
    ¬ ShowsSent con ∧ con.selectedCompany = some "1" ∧
    con.companiesFilterList.all (fun entry => !entry.isSelected) = true := by
  refine Machine.reaches ?_
  decide +kernel

end Nourgomla
