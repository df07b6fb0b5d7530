import RouteSync.Text.Digits

/-! The texts of a number: its decimal digits after any number of zeros. -/
namespace RouteSync.Text

variable {cs : List Char} {c : Char} {n : Nat}

theorem isDigit_iff : c.isDigit = true ↔ 48 ≤ c.toNat ∧ c.toNat ≤ 57 := Char.isDigit_iff_toNat

/-- A digit is all there is to the text of its number. -/
theorem toDigits_of_isDigit (h : c.isDigit = true) : Nat.toDigits 10 (c.toNat - 48) = [c] := by
  obtain ⟨hlow, hhigh⟩ := isDigit_iff.1 h
  have hlt : c.toNat - 48 < 10 := by omega
  rw [Nat.toDigits_of_lt_base hlt, List.singleton_inj]
  refine Char.toNat_inj.1 ?_
  rw [Nat.toNat_digitChar_of_lt_ten hlt]
  omega

theorem natural?_eq_some_iff :
    natural? cs = some n ↔
      cs ≠ [] ∧ (∀ c ∈ cs, c.isDigit = true) ∧ Nat.ofDigitChars 10 cs 0 = n := by
  have hvalue : cs.foldl (fun n c => n * 10 + (c.toNat - 48)) 0 = Nat.ofDigitChars 10 cs 0 := by
    simp only [Nat.ofDigitChars_eq_foldl, Nat.mul_comm]
    rfl
  rw [natural?, Option.ite_none_right_eq_some, hvalue, List.all_eq_true, Option.some.injEq,
    and_assoc]

/-- Digits behind those of a number other than zero are the last of the whole number. -/
theorem toDigits_append (hcs : ∀ c ∈ cs, c.isDigit = true) (hn : 0 < n) :
    Nat.toDigits 10 n ++ cs = Nat.toDigits 10 (Nat.ofDigitChars 10 cs n) := by
  induction cs generalizing n with
  | nil => rw [List.append_nil, Nat.ofDigitChars_nil]
  | cons c cs ih =>
    obtain ⟨hc, hcs⟩ := List.forall_mem_cons.1 hcs
    have hlt : c.toNat - 48 < 10 := by
      have hhigh := (isDigit_iff.1 hc).2
      omega
    have hlast : Nat.toDigits 10 n ++ [c] = Nat.toDigits 10 (10 * n + (c.toNat - 48)) := by
      rw [← Nat.toDigits_append_toDigits (by decide) hn hlt, toDigits_of_isDigit hc]
    rw [← List.singleton_append, ← List.append_assoc, hlast, ih hcs (by omega),
      List.singleton_append, Nat.ofDigitChars_cons]
    rfl

theorem exists_zeros (hne : cs ≠ []) (hcs : ∀ c ∈ cs, c.isDigit = true) :
    ∃ zeros, cs = List.replicate zeros '0' ++ Nat.toDigits 10 (Nat.ofDigitChars 10 cs 0) := by
  induction cs with
  | nil => exact absurd rfl hne
  | cons c cs ih =>
    obtain ⟨hc, hrest⟩ := List.forall_mem_cons.1 hcs
    have hdigits := toDigits_of_isDigit hc
    have hfirst : Nat.ofDigitChars 10 (c :: cs) 0 = Nat.ofDigitChars 10 cs (c.toNat - 48) := by
      rw [Nat.ofDigitChars_cons, Nat.mul_zero, Nat.zero_add]
      rfl
    rw [hfirst]
    by_cases hzero : c.toNat - 48 = 0
    · rw [hzero] at hdigits ⊢
      obtain rfl : '0' = c := List.singleton_inj.1 hdigits
      by_cases hlast : cs = []
      · exact ⟨0, by rw [hlast]; rfl⟩
      · obtain ⟨zeros, heq⟩ := ih hlast hrest
        exact ⟨zeros + 1, by rw [List.replicate_succ, List.cons_append, ← heq]⟩
    · refine ⟨0, ?_⟩
      rw [← toDigits_append hrest (Nat.pos_of_ne_zero hzero), hdigits]
      rfl

theorem natural?_eq_some_iff_exists :
    natural? cs = some n ↔ ∃ zeros, cs = List.replicate zeros '0' ++ Nat.toDigits 10 n := by
  rw [natural?_eq_some_iff]
  constructor
  · rintro ⟨hne, hcs, rfl⟩
    exact exists_zeros hne hcs
  · rintro ⟨zeros, rfl⟩
    refine ⟨by simp [Nat.toDigits_ne_nil], fun c hc => ?_, ?_⟩
    · rcases List.mem_append.1 hc with hc | hc
      · rw [List.eq_of_mem_replicate hc]
        rfl
      · exact Nat.isDigit_of_mem_toDigits (by decide) (by decide) hc
    · rw [Nat.ofDigitChars_append, Nat.ofDigitChars_replicate_zero, Nat.mul_zero,
        Nat.ofDigitChars_ten_toDigits]

end RouteSync.Text
