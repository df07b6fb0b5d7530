import Mathlib.Data.List.DropRight
import RouteSync.Text.Blank

/-! White space at the ends of a text, and the text that is left without it. -/
namespace RouteSync.Text

/-- Nothing but white space. -/
def Blank (cs : List Char) : Prop := ∀ c ∈ cs, isBlank c = true

variable {cs before after : List Char} {c : Char}

theorem trimEnd_eq (cs : List Char) : trimEnd cs = (trimStart cs.reverse).reverse := rfl

theorem trimStart_eq_nil_iff : trimStart cs = [] ↔ Blank cs := List.dropWhile_eq_nil_iff

theorem Blank.reverse (h : Blank cs) : Blank cs.reverse := fun c hc => h c (List.mem_reverse.1 hc)

theorem mem_of_mem_trimStart (h : c ∈ trimStart cs) : c ∈ cs := (List.dropWhile_sublist _).mem h

theorem mem_of_mem_trim (h : c ∈ trim cs) : c ∈ cs := by
  rw [trim, trimEnd_eq, List.mem_reverse] at h
  exact mem_of_mem_trimStart (List.mem_reverse.1 (mem_of_mem_trimStart h))

theorem exists_trimStart (cs : List Char) : ∃ before, Blank before ∧ cs = before ++ trimStart cs :=
  ⟨cs.takeWhile isBlank, fun _ hc => List.mem_takeWhile_imp hc,
    List.takeWhile_append_dropWhile.symm⟩

theorem exists_trimEnd (cs : List Char) : ∃ after, Blank after ∧ cs = trimEnd cs ++ after := by
  obtain ⟨before, hblank, heq⟩ := exists_trimStart cs.reverse
  refine ⟨before.reverse, hblank.reverse, ?_⟩
  rw [trimEnd_eq, ← List.reverse_append, ← heq, List.reverse_reverse]

theorem trimStart_append (h : Blank before) (cs : List Char) :
    trimStart (before ++ cs) = trimStart cs := List.dropWhile_append_of_pos h

theorem trimEnd_append (h : Blank after) (cs : List Char) : trimEnd (cs ++ after) = trimEnd cs := by
  rw [trimEnd_eq, List.reverse_append, trimStart_append h.reverse, trimEnd_eq]

/-- A character that is not white space keeps all that is behind it. -/
theorem trimStart_append_cons (h : isBlank c = false) (before after : List Char) :
    trimStart (before ++ c :: after) = trimStart before ++ c :: after := by
  have hrest : trimStart (c :: after) = c :: after := by simp [trimStart, h]
  unfold trimStart at hrest ⊢
  rw [List.dropWhile_append]
  split
  · rename_i hempty
    rw [hrest, List.isEmpty_iff.1 hempty, List.nil_append]
  · rfl

theorem trimEnd_append_cons (h : isBlank c = false) (before after : List Char) :
    trimEnd (before ++ c :: after) = before ++ c :: trimEnd after := by
  rw [trimEnd_eq, List.reverse_append, List.reverse_cons, List.append_assoc, List.singleton_append,
    trimStart_append_cons h, List.reverse_append, List.reverse_cons, List.reverse_reverse,
    List.append_assoc, List.singleton_append, trimEnd_eq]

theorem trim_append_cons (h : isBlank c = false) (before after : List Char) :
    trim (before ++ c :: after) = trimStart before ++ c :: trimEnd after := by
  rw [trim, trimStart_append_cons h, trimEnd_append_cons h]

theorem trim_append_left (h : Blank before) (cs : List Char) : trim (before ++ cs) = trim cs := by
  rw [trim, trimStart_append h, trim]

theorem trim_append_right (h : Blank after) (cs : List Char) : trim (cs ++ after) = trim cs := by
  by_cases hcs : Blank cs
  · have hboth : Blank (cs ++ after) := List.forall_mem_append.2 ⟨hcs, h⟩
    rw [trim, trimStart_eq_nil_iff.2 hboth, trim, trimStart_eq_nil_iff.2 hcs]
  · simp only [Blank, not_forall, Bool.not_eq_true] at hcs
    obtain ⟨c, hc, hblank⟩ := hcs
    obtain ⟨before, rest, rfl⟩ := List.append_of_mem hc
    rw [List.append_assoc, List.cons_append, trim_append_cons hblank, trim_append_cons hblank,
      trimEnd_append h]

theorem trim_trimStart (cs : List Char) : trim (trimStart cs) = trim cs := by
  have hidem : trimStart (trimStart cs) = trimStart cs := List.dropWhile_idempotent isBlank cs
  rw [trim, hidem, trim]

theorem trim_trimEnd (cs : List Char) : trim (trimEnd cs) = trim cs := by
  obtain ⟨after, hblank, heq⟩ := exists_trimEnd cs
  conv_rhs => rw [heq, trim_append_right hblank]

theorem trim_trim (cs : List Char) : trim (trim cs) = trim cs :=
  (trim_trimEnd (trimStart cs)).trans (trim_trimStart cs)

theorem exists_trim (cs : List Char) :
    ∃ before after, Blank before ∧ Blank after ∧ cs = before ++ (trim cs ++ after) := by
  obtain ⟨before, hbefore, hstart⟩ := exists_trimStart cs
  obtain ⟨after, hafter, hend⟩ := exists_trimEnd (trimStart cs)
  exact ⟨before, after, hbefore, hafter, by rw [trim, ← hend, ← hstart]⟩

theorem trim_eq_nil_iff : trim cs = [] ↔ Blank cs := by
  constructor
  · intro h
    obtain ⟨before, after, hbefore, hafter, heq⟩ := exists_trim cs
    rw [heq, h]
    exact List.forall_mem_append.2 ⟨hbefore, hafter⟩
  · intro h
    rw [trim, trimStart_eq_nil_iff.2 h]
    rfl

theorem trim_of_forall (h : ∀ c ∈ cs, isBlank c = false) : trim cs = cs := by
  have hself : ∀ cs : List Char, (∀ c ∈ cs, isBlank c = false) → trimStart cs = cs := by
    intro cs hcs
    cases cs with
    | nil => rfl
    | cons c cs => simp [trimStart, hcs c List.mem_cons_self]
  rw [trim, hself cs h, trimEnd_eq, hself _ fun c hc => h c (List.mem_reverse.1 hc),
    List.reverse_reverse]

end RouteSync.Text
