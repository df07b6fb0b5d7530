/-! Cutting lists at a separator. -/
namespace RouteSync.Text

variable {α : Type} [DecidableEq α]

/-- Goes on after the items in `before`, which stand last first. -/
def splitAfter (sep : α) (before : List α) : List α → Option (List α × List α)
  | [] => none
  | x :: xs => if x = sep then some (before.reverse, xs) else splitAfter sep (x :: before) xs

/-- The part before the first separator and the part after it. -/
def splitFirst? (sep : α) (xs : List α) : Option (List α × List α) := splitAfter sep [] xs

theorem splitAfter_eq_none {sep : α} {before xs : List α} :
    splitAfter sep before xs = none ↔ sep ∉ xs := by
  induction xs generalizing before with
  | nil => simp [splitAfter]
  | cons x xs ih =>
    by_cases h : x = sep
    · simp [splitAfter, h]
    · simp [splitAfter, h, ih, Ne.symm h]

theorem splitFirst?_eq_none {sep : α} {xs : List α} : splitFirst? sep xs = none ↔ sep ∉ xs :=
  splitAfter_eq_none

theorem append_of_splitAfter {sep : α} {before xs first after : List α}
    (h : splitAfter sep before xs = some (first, after)) :
    before.reverse ++ xs = first ++ sep :: after := by
  induction xs generalizing before with
  | nil => simp [splitAfter] at h
  | cons x xs ih =>
    simp only [splitAfter] at h
    split at h
    · simp_all
    · simpa using ih h

theorem append_of_splitFirst? {sep : α} {xs first after : List α}
    (h : splitFirst? sep xs = some (first, after)) : xs = first ++ sep :: after := by
  simpa using append_of_splitAfter h

/-- An item in front of some parts: a separator starts a new one, another joins the first. -/
def joinPart (sep x : α) : List (List α) → List (List α)
  | [] => if x = sep then [[]] else [[x]]
  | part :: parts => if x = sep then [] :: part :: parts else (x :: part) :: parts

/-- All parts between separators: one more than there are separators. -/
def splitOn (sep : α) (xs : List α) : List (List α) := xs.foldr (joinPart sep) [[]]

end RouteSync.Text
