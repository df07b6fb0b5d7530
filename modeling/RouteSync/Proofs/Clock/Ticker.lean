import RouteSync.Clock.Ticker

/-! What a ticker drives, tick by tick. -/
namespace RouteSync.Clock.Ticker

variable {σ τ : Type} {clock : σ → Nat} {fire : Nat → σ → σ} {target : Nat}

/-- When the next tick comes. -/
def next (clock : σ → Nat) (t : Ticker) (s : σ) : Nat := max t.due (clock s)

theorem runUntil_of_le {t : Ticker} {s : σ} (h : t.next clock s ≤ target) :
    t.runUntil clock fire target s =
      (t.tick (t.next clock s)).runUntil clock fire target (fire (t.next clock s) s) := by
  rw [runUntil]
  exact if_pos h

theorem runUntil_of_lt {t : Ticker} {s : σ} (h : target < t.next clock s) :
    t.runUntil clock fire target s = (t, s) := by
  rw [runUntil]
  exact if_neg (Nat.not_le.2 h)

/-- What every tick up to a time keeps is there after all of them, and no other is due by then. -/
theorem runUntil_keeps {P : Ticker → σ → Prop}
    (hfire : ∀ t s, P t s → t.next clock s ≤ target →
      P (t.tick (t.next clock s)) (fire (t.next clock s) s))
    (t : Ticker) (s : σ) (h : P t s) :
    P (t.runUntil clock fire target s).1 (t.runUntil clock fire target s).2 ∧
      target < (t.runUntil clock fire target s).1.next clock
        (t.runUntil clock fire target s).2 := by
  induction t, s using runUntil.induct clock fire target with
  | case1 t s _ hnext ih =>
    rw [runUntil_of_le hnext]
    exact ih (hfire t s h hnext)
  | case2 t s _ hnext =>
    have hlate : target < t.next clock s := Nat.not_le.1 hnext
    rw [runUntil_of_lt hlate]
    exact ⟨h, hlate⟩

/-- A ticker drives what it sees of a larger state as it would by itself. -/
theorem runUntil_map (clock : σ → Nat) (view : τ → σ) {fire' : Nat → τ → τ}
    (hfire : ∀ now x, view (fire' now x) = fire now (view x)) (target : Nat) (t : Ticker) (x : τ) :
    t.runUntil clock fire target (view x) =
      ((t.runUntil (clock ∘ view) fire' target x).1,
        view (t.runUntil (clock ∘ view) fire' target x).2) := by
  induction t, x using runUntil.induct (clock ∘ view) fire' target with
  | case1 t x _ hnext ih =>
    have hnext' : t.next clock (view x) ≤ target := hnext
    rw [runUntil_of_le hnext, runUntil_of_le hnext', ← hfire]
    exact ih
  | case2 t x _ hnext =>
    have hlate : target < t.next clock (view x) := Nat.not_le.1 hnext
    have hlate' : target < t.next (clock ∘ view) x := hlate
    rw [runUntil_of_lt hlate, runUntil_of_lt hlate']

/-- After a tick the next one is due within an interval. -/
theorem due_tick_le {t : Ticker} {now : Nat} (h : t.due ≤ now) :
    (t.tick now).due ≤ now + t.interval := by
  simp only [tick]
  split
  · exact Nat.le_refl _
  · exact Nat.add_le_add_right h _

end RouteSync.Clock.Ticker
