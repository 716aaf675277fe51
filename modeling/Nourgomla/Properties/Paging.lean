import Nourgomla.Controllers.PagedLists
import Mathlib.Data.List.TakeDrop

set_option autoImplicit false

/-! # Paged lists are prefixes

The shown list should be a prefix of the server's, and all of it once no request is waiting and the
index has passed the total. The invariant that carries this (`Paged`) ties the shown list to
`startIndex`, which holds if every answer finds the index it was asked for (`InOrder`). Nothing in
the controllers sees to that: two scroll events before an answer ask for the same page twice. -/

namespace Nourgomla

variable {α : Type} {pager : Pager} {server : List α}

/-- The shown list is a prefix of the server's, and complete where no more is loaded. -/
structure PrefixShown (server : List α) (s : PagedScreen α) : Prop where
  shown : s.con.items <+: server
  complete : s.waiting = [] → s.con.totalCount ≤ s.con.startIndex → s.con.items = server

/-- The index is still what the method of the waiting request left it at: 0, unless there is one page
    only, or the positive index of the page that was asked for. -/
def ExpectsIndex (server : List α) (con : PagedList α) (w : PagedMethod × PageRequest) : Prop :=
  (w.1 = .first → con.startIndex = 0 ∨ server.length ≤ con.itemsPerPage) ∧
    (w.1 = .more → con.startIndex = w.2.startIndex ∧ 0 < w.2.startIndex)

instance (con : PagedList α) (w : PagedMethod × PageRequest) :
    Decidable (ExpectsIndex server con w) := inferInstanceAs (Decidable (_ ∧ _))

/-- Every answer finds the index its request expects. -/
@[reducible] def InOrder (server : List α) (s : PagedScreen α) : PagedEvent → Prop
  | .answer k => ∀ w ∈ s.waiting[k]?, ExpectsIndex server s.con w
  | .refresh | .scrolledToEnd => True

instance (s : PagedScreen α) (e : PagedEvent) : Decidable (InOrder server s e) := by
  apply @PagedEvent.casesOn (fun e => Decidable (InOrder server s e)) e <;> intros <;> infer_instance

/-! ## The invariant -/

/-- Up to `startIndex` the shown list is the server's, except while it is loaded anew; then it is the
    prefix shown before. -/
structure Paged (server : List α) (s : PagedScreen α) : Prop where
  pages : s.con.itemsPerPage = 10
  shown : s.con.items <+: server
  loaded : s.con.startIndex ≠ 0 →
    s.con.items = server.take s.con.startIndex ∧ s.con.totalCount = server.length
  reloading : s.con.startIndex = 0 → ∃ request, (PagedMethod.first, request) ∈ s.waiting
  posted : ∀ w ∈ s.waiting, w.2.itemsPerPage = 10 ∧ (w.1 = .first → w.2.startIndex = 0)

theorem Paged.prefixShown {s : PagedScreen α} (h : Paged server s) : PrefixShown server s where
  shown := h.shown
  complete hnone htotal := by
    have hindex : s.con.startIndex ≠ 0 := by
      intro hzero
      obtain ⟨request, hrequest⟩ := h.reloading hzero
      simp [hnone] at hrequest
    obtain ⟨hitems, hcount⟩ := h.loaded hindex
    rw [hitems]
    exact List.take_of_length_le (by omega)

theorem paged_opened : Paged server (PagedScreen.opened pager) := by
  rw [PagedScreen.opened, Pager.first_eq]
  constructor
  · rfl
  · exact List.nil_prefix
  · exact fun h => absurd rfl h
  · exact fun _ => ⟨_, List.mem_singleton_self _⟩
  · intro w hw
    obtain rfl := List.mem_singleton.1 hw
    exact ⟨rfl, fun _ => rfl⟩

/-! ## One step -/

/-- A refresh puts the index back and waits for the first page. -/
theorem paged_refresh {s : PagedScreen α} (h : Paged server s) :
    Paged server (s.start .first PagedList.getFirst) := by
  constructor
  · exact h.pages
  · exact h.shown
  · intro hindex
    exact absurd rfl hindex
  · intro _
    exact ⟨_, List.mem_append_right _ (List.mem_singleton_self _)⟩
  · intro w hw
    rcases List.mem_append.1 hw with hw | hw
    · exact h.posted w hw
    · obtain rfl := List.mem_singleton.1 hw
      exact ⟨h.pages, fun _ => rfl⟩

/-- Scrolling to the end asks for the next page, or does nothing. -/
theorem paged_scrolledToEnd {s : PagedScreen α} (h : Paged server s) :
    Paged server (s.start .more PagedList.getMore) := by
  by_cases hmore : s.con.startIndex < s.con.totalCount
  · simp only [PagedScreen.start, PagedList.getMore, hmore, if_true]
    constructor
    · exact h.pages
    · exact h.shown
    · exact h.loaded
    · intro hzero
      obtain ⟨request, hrequest⟩ := h.reloading hzero
      exact ⟨request, List.mem_append_left _ hrequest⟩
    · intro w hw
      rcases List.mem_append.1 hw with hw | hw
      · exact h.posted w hw
      · obtain rfl := List.mem_singleton.1 hw
        exact ⟨h.pages, fun hfirst => by cases hfirst⟩
  · simp only [PagedScreen.start, PagedList.getMore, hmore, if_false, Option.toList_none,
      List.map_nil, List.append_nil]
    exact h

/-- What is still posted after an answer. -/
theorem posted_eraseIdx {waiting : List (PagedMethod × PageRequest)} {k : Nat}
    (h : ∀ w ∈ waiting, w.2.itemsPerPage = 10 ∧ (w.1 = .first → w.2.startIndex = 0)) :
    ∀ w ∈ waiting.eraseIdx k, w.2.itemsPerPage = 10 ∧ (w.1 = .first → w.2.startIndex = 0) :=
  fun w hw => h w (List.mem_of_mem_eraseIdx hw)

/-- The answer of a refresh that finds the index at 0, or of a list of one page. -/
theorem paged_answer_first {s : PagedScreen α} {k : Nat} {request : PageRequest}
    (h : Paged server s) (hk : s.waiting[k]? = some (.first, request))
    (horder : s.con.startIndex = 0 ∨ server.length ≤ s.con.itemsPerPage) :
    Paged server { con := PagedList.getFirst.assign (PagedScreen.pageOf server request) s.con
                   waiting := s.waiting.eraseIdx k } := by
  obtain ⟨hpages, hstart⟩ := h.posted _ (List.mem_of_getElem? hk)
  have hpage : (server.drop request.startIndex).take request.itemsPerPage
      = server.take (s.con.startIndex + s.con.itemsPerPage) := by
    rw [hstart rfl, hpages, List.drop_zero, h.pages]
    rcases horder with hzero | hone
    · rw [hzero, Nat.zero_add]
    · rw [List.take_of_length_le (h.pages ▸ hone), List.take_of_length_le]
      have := h.pages ▸ hone
      omega
  constructor
  · exact h.pages
  · show (server.drop request.startIndex).take request.itemsPerPage <+: server
    rw [hpage]
    exact List.take_prefix _ _
  · exact fun _ => ⟨hpage, rfl⟩
  · intro hzero
    have hadd : s.con.startIndex + s.con.itemsPerPage = 0 := hzero
    have := h.pages
    omega
  · exact posted_eraseIdx h.posted

/-- The answer of a page that is the next one. -/
theorem paged_answer_more {s : PagedScreen α} {k : Nat} {request : PageRequest}
    (h : Paged server s) (hk : s.waiting[k]? = some (.more, request))
    (hindex : s.con.startIndex = request.startIndex) (hpos : 0 < request.startIndex) :
    Paged server { con := PagedList.getMore.assign (PagedScreen.pageOf server request) s.con
                   waiting := s.waiting.eraseIdx k } := by
  obtain ⟨hpages, -⟩ := h.posted _ (List.mem_of_getElem? hk)
  obtain ⟨hitems, hcount⟩ := h.loaded (by omega)
  have hpage : s.con.items ++ (server.drop request.startIndex).take request.itemsPerPage
      = server.take (s.con.startIndex + s.con.itemsPerPage) := by
    rw [hitems, ← hindex, hpages, h.pages, List.take_add]
  constructor
  · exact h.pages
  · show s.con.items ++ (server.drop request.startIndex).take request.itemsPerPage <+: server
    rw [hpage]
    exact List.take_prefix _ _
  · exact fun _ => ⟨hpage, hcount⟩
  · intro hzero
    have hadd : s.con.startIndex + s.con.itemsPerPage = 0 := hzero
    omega
  · exact posted_eraseIdx h.posted

theorem paged_step {s s' : PagedScreen α} {e : PagedEvent} (h : Paged server s)
    (horder : InOrder server s e) (hstep : (pagedScreen pager server).step s e = some s') :
    Paged server s' := by
  simp only [pagedScreen, PagedScreen.step, Pager.first_eq, Pager.more_eq] at hstep
  cases e with
  | refresh =>
      obtain rfl := Option.some.inj hstep
      exact paged_refresh h
  | scrolledToEnd =>
      obtain rfl := Option.some.inj hstep
      exact paged_scrolledToEnd h
  | answer k =>
      obtain ⟨⟨method, request⟩, hk, rfl⟩ := Option.map_eq_some_iff.1 hstep
      obtain ⟨hfirst, hmore⟩ := horder _ hk
      cases method with
      | first => exact paged_answer_first h hk (hfirst rfl)
      | more => exact paged_answer_more h hk (hmore rfl).1 (hmore rfl).2

/-! ## Every run -/

/-- In a run whose answers all find the index they were asked for, the shown list is at every moment a
    prefix of the server's, and all of it where nothing is waiting and the index has passed the
    total. -/
theorem prefixShown_of_inOrder {events : List PagedEvent}
    (horder : (pagedScreen pager server).Meets (InOrder server) (PagedScreen.opened pager) events) :
    (pagedScreen pager server).Throughout (PrefixShown server) (PagedScreen.opened pager) events :=
  Machine.throughout_of_meets (Paged server) (fun _ h => h.prefixShown)
    (fun _ _ _ h horder hstep => paged_step h horder hstep) events paged_opened horder

/-- The first page, then two scrolls to the end before the next one is there. -/
def sampleScrolledTwice : List PagedEvent :=
  [.answer 0, .scrolledToEnd, .scrolledToEnd, .answer 0, .answer 0]

/-- The second page of 25 orders is shown twice. -/
theorem not_prefixShown_of_scrolledTwice : ∃ s : PagedScreen Nat,
    (pagedScreen .orders (List.range 25)).run (PagedScreen.opened .orders) sampleScrolledTwice
      = some s ∧ ¬ PrefixShown (List.range 25) s := by
  have hany : ((pagedScreen .orders (List.range 25)).run (PagedScreen.opened .orders)
      sampleScrolledTwice).any (fun s => decide (¬ s.con.items <+: List.range 25)) = true := by
    decide +kernel
  obtain ⟨s, hrun, hprefix⟩ := Machine.reaches hany
  exact ⟨s, hrun, fun h => hprefix h.shown⟩

/-- Scrolling to the end page by page, a refresh, and a page that is asked for after it. -/
def sampleScrolled : List PagedEvent :=
  [.answer 0, .scrolledToEnd, .answer 0, .refresh, .answer 0, .scrolledToEnd, .answer 0,
    .scrolledToEnd, .answer 0]

theorem prefixShown_of_sampleScrolled :
    (pagedScreen .orders (List.range 25)).Throughout (PrefixShown (List.range 25))
      (PagedScreen.opened .orders) sampleScrolled :=
  prefixShown_of_inOrder (by decide +kernel)

end Nourgomla
