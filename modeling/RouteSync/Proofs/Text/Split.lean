import RouteSync.Text.Split

/-! Cutting at a separator is the inverse of joining with it. -/
namespace RouteSync.Text

variable {α : Type} [DecidableEq α]

theorem splitOn_cons (sep x : α) (xs : List α) :
    splitOn sep (x :: xs) = joinPart sep x (splitOn sep xs) := rfl

/-- The parts are those of the library's own function. -/
theorem splitOn_eq (sep : α) (xs : List α) : splitOn sep xs = xs.splitOn sep := by
  induction xs with
  | nil => rfl
  | cons x xs ih =>
    rw [splitOn_cons, ih, List.splitOn_cons_eq_if_modifyHead]
    cases hparts : xs.splitOn sep with
    | nil => exact absurd hparts (List.splitOn_ne_nil sep xs)
    | cons part parts => by_cases h : x = sep <;> simp [joinPart, h]

theorem splitOn_ne_nil (sep : α) (xs : List α) : splitOn sep xs ≠ [] := by
  rw [splitOn_eq]
  exact List.splitOn_ne_nil sep xs

/-- No part holds a separator. -/
theorem notMem_of_mem_splitOn {sep : α} {xs part : List α} (h : part ∈ splitOn sep xs) :
    sep ∉ part := by
  induction xs generalizing part with
  | nil =>
    obtain rfl := List.mem_singleton.1 h
    exact List.not_mem_nil
  | cons x xs ih =>
    rw [splitOn_cons] at h
    cases hparts : splitOn sep xs with
    | nil => exact absurd hparts (splitOn_ne_nil sep xs)
    | cons first parts =>
      have hfirst : sep ∉ first := ih (by rw [hparts]; exact List.mem_cons_self)
      have hrest : ∀ part ∈ parts, sep ∉ part := fun part hp =>
        ih (by rw [hparts]; exact List.mem_cons_of_mem _ hp)
      rw [hparts, joinPart] at h
      split at h
      · rcases List.mem_cons.1 h with rfl | h
        · exact List.not_mem_nil
        · rcases List.mem_cons.1 h with rfl | h
          · exact hfirst
          · exact hrest part h
      · rename_i hx
        rcases List.mem_cons.1 h with rfl | h
        · simp [hfirst, Ne.symm hx]
        · exact hrest part h

theorem splitAfter_append {sep : α} {first : List α} (h : sep ∉ first) (before rest : List α) :
    splitAfter sep before (first ++ sep :: rest) = some (before.reverse ++ first, rest) := by
  induction first generalizing before with
  | nil => simp [splitAfter]
  | cons x xs ih =>
    obtain ⟨hx, hxs⟩ := not_or.1 (mt List.mem_cons.2 h)
    rw [List.cons_append, splitAfter, if_neg (Ne.symm hx), ih hxs]
    simp

theorem splitFirst?_append {sep : α} {first : List α} (h : sep ∉ first) (rest : List α) :
    splitFirst? sep (first ++ sep :: rest) = some (first, rest) := splitAfter_append h [] rest

theorem intercalate_cons {α : Type} (sep : α) (part : List α) (parts : List (List α)) :
    [sep].intercalate (part :: parts) = part ++ parts.flatMap (sep :: ·) := by
  induction parts generalizing part with
  | nil => simp
  | cons next parts ih =>
    rw [List.intercalate_cons_cons, ih next, List.flatMap_cons, List.append_assoc,
      List.singleton_append, List.cons_append]

theorem mem_intercalate {α : Type} {sep x : α} {parts : List (List α)}
    (h : x ∈ [sep].intercalate parts) : x = sep ∨ ∃ part ∈ parts, x ∈ part := by
  cases parts with
  | nil => simp at h
  | cons part parts =>
    rw [intercalate_cons, List.mem_append, List.mem_flatMap] at h
    rcases h with hpart | ⟨next, hnext, hx⟩
    · exact .inr ⟨part, List.mem_cons_self, hpart⟩
    · rcases List.mem_cons.1 hx with hsep | hx
      · exact .inl hsep
      · exact .inr ⟨next, List.mem_cons_of_mem _ hnext, hx⟩

/-- Cutting and joining are each other's inverse. -/
theorem splitOn_eq_iff {sep : α} {xs : List α} {parts : List (List α)} :
    splitOn sep xs = parts ↔
      xs = [sep].intercalate parts ∧ parts ≠ [] ∧ ∀ part ∈ parts, sep ∉ part := by
  constructor
  · rintro rfl
    refine ⟨?_, splitOn_ne_nil sep xs, fun part => notMem_of_mem_splitOn⟩
    rw [splitOn_eq, List.intercalate_splitOn]
  · rintro ⟨rfl, hne, hparts⟩
    rw [splitOn_eq]
    exact List.splitOn_intercalate sep hparts hne

/-- The parts of a text between separators. -/
def cut (sep : Char) (s : String) : List String := (splitOn sep s.toList).map String.ofList

def join (sep : Char) (parts : List String) : String := (String.singleton sep).intercalate parts

theorem toList_join (sep : Char) (parts : List String) :
    (join sep parts).toList = [sep].intercalate (parts.map String.toList) := by
  rw [join, String.toList_intercalate, String.toList_singleton]

theorem join_cons {sep : Char} {part : String} {parts : List String} (h : parts ≠ []) :
    join sep (part :: parts) = part ++ (String.singleton sep ++ join sep parts) := by
  refine String.toList_inj.1 ?_
  have hne : parts.map String.toList ≠ [] := by simpa using h
  simp [toList_join, List.intercalate_cons_of_ne_nil hne]

theorem mem_join {sep c : Char} {parts : List String} (h : c ∈ (join sep parts).toList) :
    c = sep ∨ ∃ part ∈ parts, c ∈ part.toList := by
  rw [toList_join] at h
  rcases mem_intercalate h with hsep | ⟨cs, hcs, hc⟩
  · exact .inl hsep
  · obtain ⟨part, hpart, rfl⟩ := List.mem_map.1 hcs
    exact .inr ⟨part, hpart, hc⟩

theorem cut_eq_iff {sep : Char} {s : String} {parts : List String} :
    cut sep s = parts ↔ s = join sep parts ∧ parts ≠ [] ∧ ∀ part ∈ parts, sep ∉ part.toList := by
  have hchars : cut sep s = parts ↔ splitOn sep s.toList = parts.map String.toList := by
    constructor
    · rintro rfl
      simp [cut]
    · intro h
      simp [cut, h]
  rw [hchars, splitOn_eq_iff, ← toList_join, String.toList_inj, ne_eq, List.map_eq_nil_iff,
    List.forall_mem_map]

theorem join_cut (sep : Char) (s : String) : join sep (cut sep s) = s :=
  (cut_eq_iff.1 (rfl : cut sep s = cut sep s)).1.symm

theorem notMem_of_mem_cut {sep : Char} {s part : String} (h : part ∈ cut sep s) :
    sep ∉ part.toList :=
  (cut_eq_iff.1 (rfl : cut sep s = cut sep s)).2.2 part h

end RouteSync.Text
