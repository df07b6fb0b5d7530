import RouteSync.Table.Entry

/-! Tickers: they fire once in every interval, and after a late tick start over from it. -/
namespace RouteSync.Clock

structure Ticker where
  interval : Nat
  due : Nat
  interval_pos : 0 < interval

namespace Ticker

/-- A tick as little late as this keeps the rhythm. -/
def tolerance : Nat := 5

/-- The ticker after a tick at `now`. -/
def tick (t : Ticker) (now : Nat) : Ticker :=
  { t with due := if t.due + tolerance < now then now + t.interval else t.due + t.interval }

theorem due_lt_tick (t : Ticker) (now : Nat) : t.due < (t.tick now).due := by
  have := t.interval_pos
  simp only [tick]
  split <;> omega

/-- The ticker and what it drives, after all ticks up to `target`. What is driven has a clock of its
own, and a tick that is due while the clock is ahead of it comes late. -/
def runUntil {σ : Type} (clock : σ → Nat) (fire : Nat → σ → σ) (target : Nat) (t : Ticker) (s : σ) :
    Ticker × σ :=
  let now := max t.due (clock s)
  if now ≤ target then runUntil clock fire target (t.tick now) (fire now s) else (t, s)
termination_by target + 1 - t.due
decreasing_by
  have := t.due_lt_tick (max t.due (clock s))
  omega

end Ticker
end RouteSync.Clock
