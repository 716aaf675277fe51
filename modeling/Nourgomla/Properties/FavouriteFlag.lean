import Nourgomla.Widgets.FavouriteButton

set_option autoImplicit false

/-! # The heart and the server's flag

A tap that reaches the server turns over the heart and the flag, one that does not turns over the heart
only. So once no call is on its way the heart shows the flag again exactly if an even number of calls
failed. -/

namespace Nourgomla

/-- `likeProduct` is the server's flag. -/
def FavouriteState.ShowsFlag (s : FavouriteState) : Prop :=
  s.product.likeProduct = some (if s.serverFlag then 1 else 0)

def FavouriteEvent.failed (e : FavouriteEvent) : Bool := e = .finished false

namespace FavouriteState

/-- The heart is on or off. -/
def IsSet (s : FavouriteState) : Prop :=
  s.product.likeProduct = some 0 ∨ s.product.likeProduct = some 1

/-- Heart, flag and calls on their way, added up. -/
def total (s : FavouriteState) : Nat :=
  (if s.product.likeProduct = some 1 then 1 else 0) + (if s.serverFlag then 1 else 0) + s.pending

end FavouriteState

/-- Only a failed call changes the parity of the total. -/
theorem favouriteStep {s s' : FavouriteState} {e : FavouriteEvent} (hset : s.IsSet)
    (h : favouriteButton.step s e = some s') :
    s'.IsSet ∧ (s'.total + if e.failed then 1 else 0) % 2 = s.total % 2 := by
  cases e with
  | tap loggedIn =>
      cases loggedIn with
      | false =>
          obtain rfl := Option.some.inj h
          exact ⟨hset, rfl⟩
      | true =>
          obtain rfl := Option.some.inj h
          rcases hset with hoff | hon
          · simp [FavouriteState.IsSet, FavouriteState.total, Product.toggleFavoriteStatus, hoff,
              FavouriteEvent.failed]
            omega
          · simp [FavouriteState.IsSet, FavouriteState.total, Product.toggleFavoriteStatus, hon,
              FavouriteEvent.failed]
            omega
  | finished success =>
      obtain ⟨hpending, hs'⟩ := Option.ite_none_right_eq_some.1 h
      obtain rfl := Option.some.inj hs'
      refine ⟨hset, ?_⟩
      cases success with
      | true =>
          cases hflag : s.serverFlag <;>
            simp [FavouriteState.total, hflag, FavouriteEvent.failed] <;> omega
      | false =>
          simp [FavouriteState.total, FavouriteEvent.failed]
          omega

theorem favouriteRun {s t : FavouriteState} {events : List FavouriteEvent} (hset : s.IsSet)
    (h : favouriteButton.run s events = some t) :
    t.IsSet ∧ (t.total + events.countP FavouriteEvent.failed) % 2 = s.total % 2 := by
  induction events generalizing s with
  | nil =>
      obtain rfl := Option.some.inj h
      exact ⟨hset, rfl⟩
  | cons e events ih =>
      obtain ⟨s', hstep, hrun⟩ := Machine.run_cons.1 h
      obtain ⟨hset', htotal⟩ := favouriteStep hset hstep
      obtain ⟨ht, hcount⟩ := ih hset' hrun
      refine ⟨ht, ?_⟩
      rw [List.countP_cons]
      omega

/-- With nothing on its way an even total is agreement. -/
theorem showsFlag_iff_even {s : FavouriteState} (hset : s.IsSet) (hpending : s.pending = 0) :
    s.ShowsFlag ↔ s.total % 2 = 0 := by
  rcases hset with hlike | hlike
  · cases hflag : s.serverFlag <;>
      simp [FavouriteState.ShowsFlag, FavouriteState.total, hlike, hflag, hpending]
  · cases hflag : s.serverFlag <;>
      simp [FavouriteState.ShowsFlag, FavouriteState.total, hlike, hflag, hpending]

theorem FavouriteState.ShowsFlag.isSet {s : FavouriteState} (h : s.ShowsFlag) : s.IsSet := by
  unfold ShowsFlag at h
  cases hflag : s.serverFlag with
  | true => exact .inr (by simpa [hflag] using h)
  | false => exact .inl (by simpa [hflag] using h)

/-- **The heart.** Taps and calls in any order, from a heart that shows the flag: once all calls have
    finished it shows the flag exactly if the number of failed calls is even. -/
theorem heart_showsFlag_iff {s t : FavouriteState} {events : List FavouriteEvent}
    (hstart : s.ShowsFlag) (hidle : s.pending = 0)
    (hrun : favouriteButton.run s events = some t) (hdone : t.pending = 0) :
    t.ShowsFlag ↔ events.countP FavouriteEvent.failed % 2 = 0 := by
  have hset := hstart.isSet
  obtain ⟨hset', hparity⟩ := favouriteRun hset hrun
  have hbefore := (showsFlag_iff_even hset hidle).1 hstart
  rw [showsFlag_iff_even hset' hdone]
  omega

/-- A card whose heart is off, as the flag is. -/
def sampleCard : FavouriteState :=
  { product := { likeProduct := some 0 }, serverFlag := false }

/-- Two taps whose calls both fail. -/
def twoFailures : List FavouriteEvent :=
  [.tap true, .tap true, .finished false, .tap false, .finished false]

theorem heart_showsFlag_two_failures : favouriteButton.run sampleCard twoFailures = some sampleCard ∧
    (sampleCard.ShowsFlag ↔ twoFailures.countP FavouriteEvent.failed % 2 = 0) :=
  ⟨rfl, @heart_showsFlag_iff sampleCard sampleCard twoFailures rfl rfl rfl rfl⟩

/-- One call fails, and the heart stays on. -/
theorem heart_after_failure : sampleCard.ShowsFlag ∧
    ∃ t, favouriteButton.run sampleCard [.tap true, .finished false] = some t ∧ t.pending = 0 ∧
      ¬ t.ShowsFlag :=
  ⟨rfl, _, rfl, rfl, by simp [FavouriteState.ShowsFlag, Product.toggleFavoriteStatus, sampleCard]⟩

end Nourgomla
