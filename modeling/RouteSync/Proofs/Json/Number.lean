import RouteSync.Proofs.Json.Text
import RouteSync.Proofs.Text.Digits

/-! Whole numbers in decimal digits read back as those numbers. -/
namespace RouteSync.Json

/-! ### Digits -/

theorem digit?_of_isDigit {c : Char} (h : c.isDigit) : digit? (some c) = some (c.toNat - 48) := by
  have hrange : '0' ≤ c ∧ c ≤ '9' := by simpa [Char.isDigit, Char.le_def] using h
  exact if_pos hrange

theorem le_ofDigitChars (cs : List Char) (value : Nat) : value ≤ Nat.ofDigitChars 10 cs value := by
  induction cs generalizing value with
  | nil => exact Nat.le_refl value
  | cons c cs ih =>
    have hcons := ih (10 * value + (c.toNat - '0'.toNat))
    rw [Nat.ofDigitChars_cons]
    omega

theorem digits_append {limit : Nat} {cs : List Char} (hcs : ∀ c ∈ cs, c.isDigit)
    {rest : List Sign} (hrest : Closing rest) (value count : Nat)
    (hle : Nat.ofDigitChars 10 cs value ≤ limit) :
    digits limit value count (cs.map some ++ rest) =
      ⟨Nat.ofDigitChars 10 cs value, count + cs.length, false, rest⟩ := by
  induction cs generalizing value count with
  | nil => cases hrest <;> rfl
  | cons c cs ih =>
    obtain ⟨hc, hcs⟩ := List.forall_mem_cons.1 hcs
    have hvalue : 10 * value + (c.toNat - '0'.toNat) = value * 10 + (c.toNat - 48) := by
      rw [Nat.mul_comm]
      rfl
    rw [Nat.ofDigitChars_cons, hvalue] at hle ⊢
    have hfits : value * 10 + (c.toNat - 48) ≤ limit :=
      Nat.le_trans (le_ofDigitChars cs _) hle
    have hcount : count + (c :: cs).length = count + 1 + cs.length := by
      rw [List.length_cons]
      omega
    rw [List.map_cons, List.cons_append, digits, digit?_of_isDigit hc]
    dsimp only
    rw [if_pos hfits, ih hcs _ _ hle, hcount]

/-- No number but zero starts with a zero. -/
theorem exists_toDigits (n : Nat) :
    ∃ c cs, Nat.toDigits 10 n = c :: cs ∧ c.isDigit ∧ (n ≠ 0 → c.toNat ≠ 48) := by
  induction n using Nat.strongRecOn with
  | ind n ih =>
    rw [Nat.toDigits_eq_if (by decide)]
    split
    · rename_i hlt
      have hone : ∀ k < 10, (Nat.digitChar k).isDigit ∧ (k ≠ 0 → (Nat.digitChar k).toNat ≠ 48) := by
        decide
      exact ⟨_, [], rfl, hone n hlt⟩
    · obtain ⟨c, cs, hdigits, hc, hfirst⟩ := ih (n / 10) (by omega)
      rw [hdigits]
      exact ⟨c, cs ++ [Nat.digitChar (n % 10)], rfl, hc, fun _ => hfirst (by omega)⟩

/-! ### Numbers -/

theorem wholeEnd_closing (negative : Bool) (value : Nat) {rest : List Sign} (h : Closing rest) :
    wholeEnd negative value rest = .ok (whole negative value, rest) := by
  cases h <;> rfl

theorem unsigned_toDigits (negative : Bool) {n : Nat} (hn : n ≤ maxNatural) {rest : List Sign}
    (hrest : Closing rest) :
    unsigned negative ((Nat.toDigits 10 n).map some ++ rest) = .ok (whole negative n, rest) := by
  by_cases hzero : n = 0
  · subst hzero
    have hrun : digitRun rest = 0 := by cases hrest <;> rfl
    change (if digitRun rest ≠ 0 then _ else wholeEnd negative 0 rest) = _
    rw [if_neg (by simpa using hrun), wholeEnd_closing negative 0 hrest]
  · obtain ⟨c, cs, hdigits, hc, hfirst⟩ := exists_toDigits n
    have hvalue : Nat.ofDigitChars 10 (Nat.toDigits 10 n) 0 = n :=
      Nat.ofDigitChars_toDigits (by decide) (by decide)
    have hall : ∀ c ∈ Nat.toDigits 10 n, c.isDigit :=
      fun c hc => Nat.isDigit_of_mem_toDigits (by decide) (by decide) hc
    have hrun : digits maxNatural 0 0 ((Nat.toDigits 10 n).map some ++ rest) = _ :=
      digits_append hall hrest 0 0 (by rwa [hvalue])
    have hd : c.toNat - 48 ≠ 0 := by
      have hrange := Text.isDigit_iff.1 hc
      have hne := hfirst hzero
      omega
    obtain ⟨d, hd⟩ := Nat.exists_eq_succ_of_ne_zero hd
    rw [hvalue] at hrun
    rw [hdigits] at hrun ⊢
    rw [List.map_cons, List.cons_append] at hrun ⊢
    rw [unsigned, digit?_of_isDigit hc, hd]
    dsimp only
    rw [hrun]
    exact wholeEnd_closing negative n hrest

theorem startsNumber_of_isDigit {c : Char} (h : c.isDigit) : startsNumber (some c) := by
  simp [startsNumber, digit?_of_isDigit h]

theorem startsNumber_space {s : Sign} (h : startsNumber s) : isSpace s = false := by
  rw [Bool.eq_false_iff]
  intro hspace
  simp only [isSpace, Bool.or_eq_true, decide_eq_true_eq] at hspace
  rcases hspace with ((rfl | rfl) | rfl) | rfl <;> exact absurd h (by decide)

theorem toList_toString_natCast (n : Nat) : (toString (n : Int)).toList = Nat.toDigits 10 n :=
  Nat.toList_repr

theorem toList_toString_neg {n : Nat} (h : n ≠ 0) :
    (toString (-(n : Int))).toList = '-' :: Nat.toDigits 10 n := by
  obtain ⟨n, rfl⟩ := Nat.exists_eq_succ_of_ne_zero h
  have htext : toString (-((n + 1 : Nat) : Int)) = "-" ++ Nat.repr (n + 1) := rfl
  rw [htext, String.toList_append, Nat.toList_repr]
  rfl

/-- The text of a number starts with its sign or with a digit. -/
theorem exists_toString (n : Int) :
    ∃ c cs, (toString n).toList = c :: cs ∧ startsNumber (some c) := by
  by_cases hn : 0 ≤ n
  · obtain ⟨n, rfl⟩ := Int.eq_ofNat_of_zero_le hn
    obtain ⟨c, cs, hdigits, hc, -⟩ := exists_toDigits n
    exact ⟨c, cs, (toList_toString_natCast n).trans hdigits, startsNumber_of_isDigit hc⟩
  · have hneg : n = -(n.natAbs : Int) := by omega
    rw [hneg, toList_toString_neg (by omega)]
    exact ⟨'-', _, rfl, rfl⟩

/-- Whole numbers of 64 bits, with a sign or without one. -/
theorem takes_number {n : Int} (hlow : -9223372036854775808 ≤ n) (hhigh : n ≤ maxNatural) :
    Takes number (toString n).toList (.integer n) := by
  intro rest hrest
  by_cases hn : 0 ≤ n
  · obtain ⟨n, rfl⟩ := Int.eq_ofNat_of_zero_le hn
    obtain ⟨c, cs, hdigits, hc, -⟩ := exists_toDigits n
    have hsign : c ≠ '-' := by
      rintro rfl
      exact absurd hc (by decide)
    have hnumber : number ((Nat.toDigits 10 n).map some ++ rest) =
        unsigned false ((Nat.toDigits 10 n).map some ++ rest) := by
      rw [hdigits, List.map_cons, List.cons_append, number]
      simpa using hsign
    rw [toList_toString_natCast, hnumber, unsigned_toDigits false (by omega) hrest]
    rfl
  · have hneg : n = -(n.natAbs : Int) := by omega
    have hzero : n.natAbs ≠ 0 := by omega
    have hwhole : whole true n.natAbs = .integer n := by
      have hlimit : ¬ (n.natAbs = 0 ∨ 9223372036854775808 < n.natAbs) := by omega
      rw [whole, if_neg (by decide), if_neg hlimit, ← hneg]
    have hmax : n.natAbs ≤ maxNatural := by
      unfold maxNatural
      omega
    have htext : (toString n).toList = '-' :: Nat.toDigits 10 n.natAbs := by
      rw [← toList_toString_neg hzero, ← hneg]
    rw [htext, List.map_cons, List.cons_append]
    change unsigned true _ = _
    rw [unsigned_toDigits true hmax hrest, hwhole]

theorem Takes.optional_toString {α : Type} {r : Reader α} {n : Int} {a : α}
    (h : Takes r (toString n).toList a) : Takes (Json.optional r) (toString n).toList (some a) := by
  obtain ⟨c, cs, htext, hstart⟩ := exists_toString n
  have hnull : c ≠ 'n' := by
    rintro rfl
    exact absurd hstart (by decide)
  rw [htext] at h ⊢
  exact h.optional (startsNumber_space hstart) hnull

theorem Takes.optional_toString_nat {α : Type} {r : Reader α} {n : Nat} {a : α}
    (h : Takes r (toString n).toList a) : Takes (Json.optional r) (toString n).toList (some a) := by
  have htext : (toString n).toList = (toString (n : Int)).toList := rfl
  rw [htext] at h ⊢
  exact h.optional_toString

/-! ### Numbers of a range -/

theorem takes_integer {low high n : Int} (hlow : -9223372036854775808 ≤ n)
    (hhigh : n ≤ maxNatural) (h : low ≤ n ∧ n ≤ high) (expected : String) :
    Takes (integer low high expected) (toString n).toList n := by
  intro rest hrest
  obtain ⟨c, cs, htext, hstart⟩ := exists_toString n
  have hpeek : peek ((toString n).toList.map some ++ rest) =
      .ok (some c, (toString n).toList.map some ++ rest) := by
    rw [htext]
    exact peek_cons (startsNumber_space hstart) _
  rw [integer, bind_ok hpeek, if_pos hstart, bind_ok (takes_number hlow hhigh rest hrest)]
  dsimp only
  rw [if_pos h]
  rfl

theorem takes_natural {n high : Nat} (h : n ≤ high) (hhigh : high ≤ maxNatural)
    (expected : String) : Takes (natural high expected) (toString n).toList n := by
  have hinteger : Takes (integer 0 high expected) (toString (n : Int)).toList n :=
    takes_integer (by omega) (by omega) ⟨by omega, by omega⟩ expected
  have htext : (toString n).toList = (toString (n : Int)).toList := rfl
  rw [htext, natural]
  exact hinteger.map Int.toNat

theorem takes_uint32 (n : UInt32) : Takes uint32 (toString n.toNat).toList n := by
  have hlt := n.toNat_lt
  have hnatural : Takes (natural 4294967295 "u32") (toString n.toNat).toList n.toNat :=
    takes_natural (by omega) (by decide) "u32"
  have h := hnatural.map UInt32.ofNat
  rwa [UInt32.ofNat_toNat] at h

theorem takes_uint64 (n : UInt64) : Takes uint64 (toString n.toNat).toList n := by
  have hlt := n.toNat_lt
  have hnatural : Takes (natural 18446744073709551615 "u64") (toString n.toNat).toList n.toNat :=
    takes_natural (by omega) (by decide) "u64"
  have h := hnatural.map UInt64.ofNat
  rwa [UInt64.ofNat_toNat] at h

theorem takes_int32 (n : Int32) : Takes int32 (toString n.toInt).toList n := by
  have hlow := n.le_toInt
  have hhigh := n.toInt_lt
  have hmax : n.toInt ≤ maxNatural := by
    unfold maxNatural
    omega
  have hinteger : Takes (integer (-2147483648) 2147483647 "i32") (toString n.toInt).toList
      n.toInt := takes_integer (by omega) hmax ⟨by omega, by omega⟩ "i32"
  have h := hinteger.map Int32.ofInt
  rwa [Int32.ofInt_toInt] at h

end RouteSync.Json
