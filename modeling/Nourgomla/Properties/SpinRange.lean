import Nourgomla.Properties.QuantityBound

set_option autoImplicit false

/-! # What a control emits

A control of the cart sheet starts at 0. It may be tapped, and built again with 0 or with the value
it emitted last. A tap on plus at 0 jumps to the least amount, which the decoder makes 0 where the
product has none: then the control emits 0 and stays there. With a least amount of at least 1 every
value it ever emits is one that can be ordered, and only then (`admissible_iff`). -/

namespace Nourgomla

/-- A control of the cart sheet for a package that is not selected. -/
def SpinWidget.inSheet (least most stock : Int) : SpinWidget :=
  { value := some 0, min := least, max := most, stock := some stock }

/-- A control and the values it passed to `onChanged`, the last one first. -/
structure SpinHistory where
  spin : SpinState
  emitted : List Int := []
deriving DecidableEq

inductive SpinInput
  | tap (button : SpinButton)
  /-- built again with this value -/
  | rebuild (value : Int)

/-- The control under its parent, which passes 0 or the last emitted value. -/
def spinning : Machine SpinHistory SpinInput where
  step t
  | .tap button => (t.spin.tap button).map fun spin =>
    { spin := spin, emitted := spin.value.toList ++ t.emitted }
  | .rebuild value =>
    if value = 0 ∨ t.emitted.head? = some value then
      some { t with spin := t.spin.didUpdateWidget { t.spin.widget with value := some value } }
    else none

def SpinHistory.start (least most stock : Int) : SpinHistory :=
  { spin := .initState (.inSheet least most stock) }

/-- A quantity that can be ordered. -/
def Orderable (least most stock value : Int) : Prop :=
  max 1 (min least stock) ≤ value ∧ value ≤ min most stock

/-- All values emitted so far can be ordered, and a tap on plus at 0 makes the value positive. -/
def Admissible (least most stock : Int) (t : SpinHistory) : Prop :=
  (∀ value ∈ t.emitted, Orderable least most stock value) ∧
    (t.spin.value = some 0 → ∃ t', spinning.step t (.tap .add) = some t' ∧
      ∃ value, t'.spin.value = some value ∧ 0 < value)

/-! ## The invariant -/

/-- The control has the bounds it started with and is at 0 or at a quantity that can be ordered. -/
structure InRange (least most stock : Int) (t : SpinHistory) : Prop where
  bounds : { t.spin.widget with value := some 0 } = SpinWidget.inSheet least most stock
  value : ∃ value, t.spin.value = some value ∧ (value = 0 ∨ Orderable least most stock value)
  emitted : ∀ value ∈ t.emitted, Orderable least most stock value

variable {least most stock : Int}

theorem inRange_start : InRange least most stock (.start least most stock) :=
  ⟨rfl, ⟨0, rfl, Or.inl rfl⟩, fun _ h => absurd h List.not_mem_nil⟩

theorem InRange.widget {t : SpinHistory} (h : InRange least most stock t) :
    t.spin.widget.min = least ∧ t.spin.widget.max = most ∧ t.spin.widget.stock = some stock ∧
      t.spin.widget.step = 1 ∧ t.spin.widget.enabled = true :=
  ⟨(congrArg SpinWidget.min h.bounds :), (congrArg SpinWidget.max h.bounds :),
    (congrArg SpinWidget.stock h.bounds :), (congrArg SpinWidget.step h.bounds :),
    (congrArg SpinWidget.enabled h.bounds :)⟩

/-- Minus is disabled at the least amount. -/
theorem SpinState.min_lt_of_tap_minus {spin spin' : SpinState} {value : Int}
    (hvalue : spin.value = some value) (h : spin.tap .minus = some spin') :
    spin.widget.min < value := by
  cases hstock : spin.widget.stock with
  | none => simp [SpinState.tap, hvalue, hstock] at h
  | some stock =>
      have hminus : spin.minusBtnDisabled value = false := by
        by_contra hdisabled
        simp [SpinState.tap, hvalue, hstock, hdisabled] at h
      simp only [SpinState.minusBtnDisabled, Bool.or_eq_false_iff, decide_eq_false_iff_not]
        at hminus
      omega

/-- What a tap emits can be ordered. -/
theorem InRange.tap {t : SpinHistory} {button : SpinButton} {spin : SpinState} (hleast : 1 ≤ least)
    (hmost : least ≤ most) (hstock : 1 ≤ stock) (ht : InRange least most stock t)
    (h : t.spin.tap button = some spin) :
    spin.widget = t.spin.widget ∧
      ∃ value, spin.value = some value ∧ Orderable least most stock value := by
  obtain ⟨hmin, hmax, hstocked, hstep, -⟩ := ht.widget
  obtain ⟨value, hvalue, hrange⟩ := ht.value
  unfold Orderable at hrange ⊢
  cases button with
  | add =>
      obtain ⟨stock', hstock', hbelow, hbelowMax, hwidget, hspin⟩ :=
        SpinState.tap_add hvalue hstep h
      obtain rfl : stock' = stock := Option.some.inj (hstock'.symm.trans hstocked)
      rw [hmin] at hspin
      rw [hmax] at hbelowMax
      refine ⟨hwidget, _, hspin, ?_⟩
      split
      · -- from 0 to the least amount, or to the stock if that is less
        split <;> omega
      · omega
  | minus =>
      have hnonneg : 0 ≤ value := by omega
      obtain ⟨habove, hwidget, hspin⟩ :=
        SpinState.tap_minus hvalue hstep hnonneg (fun _ => by omega) h
      have hleast' : least < value := hmin ▸ SpinState.min_lt_of_tap_minus hvalue h
      refine ⟨hwidget, _, hspin, ?_⟩
      omega

theorem InRange.step (hleast : 1 ≤ least) (hmost : least ≤ most) (hstock : 1 ≤ stock)
    {t t' : SpinHistory} {input : SpinInput} (ht : InRange least most stock t)
    (h : spinning.step t input = some t') : InRange least most stock t' := by
  cases input with
  | tap button =>
      obtain ⟨spin, hspin, rfl⟩ := Option.map_eq_some_iff.1 h
      obtain ⟨hwidget, value, hvalue, horderable⟩ := ht.tap hleast hmost hstock hspin
      refine ⟨?_, ⟨value, hvalue, Or.inr horderable⟩, ?_⟩
      · rw [hwidget]
        exact ht.bounds
      · intro v hv
        simp only [hvalue, Option.toList_some, List.singleton_append, List.mem_cons] at hv
        rcases hv with rfl | hv
        · exact horderable
        · exact ht.emitted v hv
  | rebuild value =>
      simp only [spinning] at h
      split at h
      · rename_i hparent
        obtain rfl := Option.some.inj h
        have hrange : value = 0 ∨ Orderable least most stock value :=
          hparent.imp_right fun hlast => ht.emitted value (List.mem_of_head? hlast)
        refine ⟨ht.bounds, ?_, ht.emitted⟩
        -- the value is the parent's if that has changed, else the one it was
        simp only [SpinState.didUpdateWidget]
        split
        · exact ⟨value, rfl, hrange⟩
        · exact ht.value
      · cases h

/-- At 0 the plus button is enabled and jumps. -/
theorem InRange.plus {t : SpinHistory} (hmost : 1 ≤ most) (hstock : 1 ≤ stock)
    (ht : InRange least most stock t) (hzero : t.spin.value = some 0) :
    ∃ t', spinning.step t (.tap .add) = some t' ∧
      t'.spin.value = some (if stock < least then stock else least) := by
  obtain ⟨hmin, hmax, hstocked, hstep, henabled⟩ := ht.widget
  have hadd : t.spin.addBtnDisabled 0 stock = false := by
    simp only [SpinState.addBtnDisabled, hmax, hstep, henabled, Bool.or_eq_false_iff,
      decide_eq_false_iff_not, Bool.not_true, and_true]
    omega
  have htap : t.spin.tap .add = some (t.spin.adjustValue 0 stock t.spin.widget.step) := by
    simp [SpinState.tap, hzero, hstocked, hadd]
  have hstep' : spinning.step t (.tap .add) = (t.spin.tap .add).map fun spin =>
      { spin := spin, emitted := spin.value.toList ++ t.emitted } := rfl
  rw [hstep', htap]
  refine ⟨_, rfl, ?_⟩
  simp [SpinState.adjustValue, hmin]

theorem InRange.admissible {t : SpinHistory} (hleast : 1 ≤ least) (hmost : least ≤ most)
    (hstock : 1 ≤ stock) (ht : InRange least most stock t) : Admissible least most stock t := by
  refine ⟨ht.emitted, fun hzero => ?_⟩
  obtain ⟨t', hstep, hvalue⟩ := ht.plus (by omega) hstock hzero
  refine ⟨t', hstep, _, hvalue, ?_⟩
  split <;> omega

/-! ## Every run -/

/-- For a least amount that is not negative, a limit of at least 1 and at least that amount, and a
    stock of at least 1: after every run of taps and rebuilds all emitted values are admissible and
    plus works at 0, exactly if the least amount is at least 1. -/
theorem admissible_iff (hleast : 0 ≤ least) (hmost : max 1 least ≤ most) (hstock : 1 ≤ stock) :
    (∀ inputs t, spinning.run (.start least most stock) inputs = some t →
      Admissible least most stock t) ↔ 1 ≤ least := by
  constructor
  · intro hall
    -- one tap on plus emits the least amount or the stock
    have hstart : InRange least most stock (.start least most stock) := inRange_start
    obtain ⟨t, hstep, hvalue⟩ := hstart.plus (by omega) hstock rfl
    obtain ⟨-, hplus⟩ := hall [] _ rfl
    obtain ⟨t', hstep', value, hvalue', hpositive⟩ := hplus rfl
    obtain rfl : t = t' := Option.some.inj (hstep.symm.trans hstep')
    have hjump := Option.some.inj (hvalue.symm.trans hvalue')
    split at hjump <;> omega
  · intro hleast' inputs t hrun
    have hstep : ∀ s input s', InRange least most stock s → True →
        spinning.step s input = some s' → InRange least most stock s' :=
      fun s input s' hs _ h => hs.step hleast' (by omega) hstock h
    have ht := Machine.inv_of_meets hstep inRange_start (Machine.meets_true inputs) hrun
    exact ht.admissible hleast' (by omega) hstock

/-- With no least amount the control emits 0, and a second tap emits it again. -/
theorem emits_zero_without_least : ∃ t,
    spinning.run (.start 0 5 10) [.tap .add, .rebuild 0, .tap .add] = some t ∧
      t.emitted = [0, 0] ∧ t.spin.value = some 0 :=
  Machine.reaches (by decide +kernel)

theorem admissible_of_sampleTaps : ∃ t, spinning.run (.start 3 5 10)
    [.tap .add, .rebuild 3, .tap .add, .rebuild 0, .tap .add] = some t ∧
      Admissible 3 5 10 t := by
  obtain ⟨t, hrun, -⟩ : ∃ t, spinning.run (.start 3 5 10)
      [.tap .add, .rebuild 3, .tap .add, .rebuild 0, .tap .add] = some t ∧ t.emitted = [3, 4, 3] :=
    Machine.reaches (by decide +kernel)
  exact ⟨t, hrun, (admissible_iff (by decide) (by decide) (by decide)).2 (by decide) _ t hrun⟩

end Nourgomla
