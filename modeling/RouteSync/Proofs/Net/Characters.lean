import RouteSync.Net.Address
import RouteSync.Proofs.Text.Reader

/-! The characters of host names, addresses and instance names: none of them is white space. -/
namespace RouteSync.Net

open Text

/-- Letters, digits, hyphens, dots and colons. -/
def isAddressChar (c : Char) : Bool := c.isAlphanum || c = '-' || c = '.' || c = ':'

theorem isAlphanum_iff {c : Char} :
    c.isAlphanum ↔ ((65 ≤ c.toNat ∧ c.toNat ≤ 90) ∨ 97 ≤ c.toNat ∧ c.toNat ≤ 122) ∨
      48 ≤ c.toNat ∧ c.toNat ≤ 57 := by
  unfold Char.isAlphanum Char.isAlpha Char.isUpper Char.isLower Char.isDigit
  simp only [Bool.or_eq_true, Bool.and_eq_true, decide_eq_true_eq, ge_iff_le,
    UInt32.le_iff_toNat_le]
  exact Iff.rfl

theorem toNat_of_isAlphanum {c : Char} (h : c.isAlphanum) :
    48 ≤ c.toNat ∧ c.toNat ≤ 122 ∧ c.toNat ≠ 95 := by
  rw [isAlphanum_iff] at h
  omega

theorem toNat_of_isAddressChar {c : Char} (h : isAddressChar c) :
    45 ≤ c.toNat ∧ c.toNat ≤ 122 ∧ c.toNat ≠ 95 := by
  simp only [isAddressChar, Bool.or_eq_true, decide_eq_true_eq] at h
  rcases h with ((h | rfl) | rfl) | rfl
  · obtain ⟨hlow, hhigh⟩ := toNat_of_isAlphanum h
    exact ⟨Nat.le_trans (by decide) hlow, hhigh⟩
  all_goals decide

theorem isUnbroken_of_isAddressChar {s : String} (h : ∀ c ∈ s.toList, isAddressChar c) :
    isUnbroken s := by
  refine isUnbroken_iff.2 fun c hc => ?_
  obtain ⟨hlow, hhigh, -⟩ := toNat_of_isAddressChar (h c hc)
  exact isBlank_of_toNat (by omega) (by omega)

theorem underscore_notMem_of_isAddressChar {s : String} (h : ∀ c ∈ s.toList, isAddressChar c) :
    '_' ∉ s.toList := by
  intro hmem
  exact absurd (toNat_of_isAddressChar (h _ hmem)).2.2 (by decide)

theorem isUnbroken_of_isInstanceName {s : String} (h : isInstanceName s) : isUnbroken s := by
  simp only [isInstanceName, Bool.and_eq_true, List.all_eq_true] at h
  refine isUnbroken_iff.2 fun c hc => ?_
  have hchar := h.2 c hc
  simp only [isInstanceChar, Bool.or_eq_true, decide_eq_true_eq] at hchar
  rcases hchar with ((halpha | rfl) | rfl) | rfl
  · obtain ⟨hlow, hhigh, -⟩ := toNat_of_isAlphanum halpha
    exact isBlank_of_toNat (by omega) (by omega)
  all_goals decide

/-! ### Host names -/

theorem isAddressChar_of_isHostName {s : String} (h : isHostName s) :
    ∀ c ∈ s.toList, isAddressChar c := by
  simp only [isHostName, Bool.and_eq_true, List.all_eq_true] at h
  intro c hc
  obtain ⟨hjoin, -, -⟩ := splitOn_eq_iff.1 (rfl : splitOn '.' s.toList = splitOn '.' s.toList)
  rw [hjoin] at hc
  rcases mem_intercalate hc with rfl | ⟨label, hlabel, hc⟩
  · decide
  · have hchars := h.2 label hlabel
    simp only [isLabel, Bool.and_eq_true, List.all_eq_true] at hchars
    have hchar := hchars.2 c hc
    simp only [isLabelChar, Bool.or_eq_true] at hchar
    simp only [isAddressChar, Bool.or_eq_true]
    exact .inl (.inl hchar)

/-! ### Internet addresses: what a reader takes off the front of a text -/

/-- The text goes on with `rest` after some characters of addresses. -/
def Took (cs rest : List Char) : Prop :=
  ∃ taken, cs = taken ++ rest ∧ ∀ c ∈ taken, isAddressChar c

theorem Took.refl (cs : List Char) : Took cs cs := ⟨[], rfl, fun _ h => nomatch h⟩

theorem Took.trans {cs ds es : List Char} (h : Took cs ds) (h' : Took ds es) : Took cs es := by
  obtain ⟨taken, rfl, htaken⟩ := h
  obtain ⟨taken', rfl, htaken'⟩ := h'
  refine ⟨taken ++ taken', (List.append_assoc _ _ _).symm, fun c hc => ?_⟩
  exact (List.mem_append.1 hc).elim (htaken c) (htaken' c)

theorem isAddressChar_of_digit? {base : Nat} {c : Char} (h : (digit? base c).isSome) :
    isAddressChar c := by
  have halpha : c.isAlphanum := by
    rw [isAlphanum_iff]
    unfold digit? at h
    by_cases hdigit : '0' ≤ c ∧ c ≤ '9'
    · exact .inr hdigit
    by_cases hlower : 'a' ≤ c ∧ c ≤ 'z'
    · exact .inl (.inr hlower)
    by_cases hupper : 'A' ≤ c ∧ c ≤ 'Z'
    · exact .inl (.inl hupper)
    · simp [hdigit, hlower, hupper] at h
  simp [isAddressChar, halpha]

theorem took_digits (base : Nat) (cs : List Char) : Took cs (digits base cs).2 := by
  have hsplit := List.prefix_iff_eq_append.1
    (List.takeWhile_prefix (l := cs) fun c => (digit? base c).isSome)
  refine ⟨cs.takeWhile fun c => (digit? base c).isSome, hsplit.symm, fun c hc => ?_⟩
  exact isAddressChar_of_digit? (List.all_eq_true.1 List.all_takeWhile c hc)

theorem took_octet {cs rest : List Char} {n : Nat} (h : octet? cs = some (n, rest)) :
    Took cs rest := by
  have hdigits := took_digits 10 cs
  unfold octet? at h
  split at h
  · cases h
  · rename_i tail hread
    obtain ⟨-, rfl⟩ := Prod.mk.inj (Option.some.inj h)
    rwa [hread] at hdigits
  · cases h
  · rename_i ds tail _ _ _ hread
    obtain ⟨-, h⟩ := Option.ite_none_right_eq_some.1 h
    obtain ⟨-, rfl⟩ := Prod.mk.inj (Option.some.inj h)
    rwa [hread] at hdigits

theorem took_group {cs rest : List Char} {n : Nat} (h : group? cs = some (n, rest)) :
    Took cs rest := by
  have hdigits := took_digits 16 cs
  unfold group? at h
  split at h
  · cases h
  · rename_i ds tail _ hread
    obtain ⟨-, h⟩ := Option.ite_none_right_eq_some.1 h
    obtain ⟨-, rfl⟩ := Prod.mk.inj (Option.some.inj h)
    rwa [hread] at hdigits

theorem took_char {c : Char} {cs rest : List Char} (hc : isAddressChar c)
    (h : char? c cs = some rest) : Took cs rest := by
  cases cs with
  | nil => cases h
  | cons d cs =>
    obtain ⟨rfl, hrest⟩ := Option.ite_none_right_eq_some.1 h
    obtain rfl := Option.some.inj hrest
    exact ⟨[d], rfl, fun x hx => by rwa [List.mem_singleton.1 hx]⟩

theorem took_dot {cs rest : List Char} (h : char? '.' cs = some rest) : Took cs rest :=
  took_char (by decide) h

theorem took_colon {cs rest : List Char} (h : char? ':' cs = some rest) : Took cs rest :=
  took_char (by decide) h

theorem took_ipv4 {cs rest : List Char} {a : Ipv4} (h : ipv4? cs = some (a, rest)) :
    Took cs rest := by
  unfold ipv4? at h
  simp only [Option.bind_eq_bind, Option.bind_eq_some_iff, Prod.exists] at h
  obtain ⟨_, _, hfirst, _, hdot, _, _, hsecond, _, hdot', _, _, hthird, _, hdot'', _, _, hfourth,
    h⟩ := h
  obtain ⟨-, rfl⟩ := Prod.mk.inj (Option.some.inj h)
  have htwo := ((took_octet hfirst).trans (took_dot hdot)).trans (took_octet hsecond)
  have hthree := (htwo.trans (took_dot hdot')).trans (took_octet hthird)
  exact (hthree.trans (took_dot hdot'')).trans (took_octet hfourth)

theorem took_readGroups (first : Bool) (cs : List Char) (room : Nat) :
    Took cs (readGroups first cs room).rest := by
  induction room generalizing first cs with
  | zero => exact .refl cs
  | succ room ih =>
    unfold readGroups
    split
    · exact .refl cs
    · rename_i after hafter
      have htook : Took cs after := by
        split at hafter
        · obtain rfl := Option.some.inj hafter
          exact .refl cs
        · exact took_colon hafter
      split
      · rename_i hdotted
        split at hdotted
        · cases hdotted
        · exact htook.trans (took_ipv4 hdotted)
      · split
        · exact .refl cs
        · rename_i hgroup
          exact (htook.trans (took_group hgroup)).trans (ih false _)

theorem took_ipv6 {cs rest : List Char} {a : Ipv6} (h : ipv6? cs = some (a, rest)) :
    Took cs rest := by
  have hhead := took_readGroups true cs 8
  unfold ipv6? at h
  simp only [Option.bind_eq_bind] at h
  split at h
  · obtain ⟨-, rfl⟩ := Prod.mk.inj (Option.some.inj h)
    exact hhead
  · split at h
    · cases h
    · obtain ⟨_, hcolon, h⟩ := Option.bind_eq_some_iff.1 h
      obtain ⟨_, hcolon', h⟩ := Option.bind_eq_some_iff.1 h
      obtain ⟨-, rfl⟩ := Prod.mk.inj (Option.some.inj h)
      have hcolons := (took_colon hcolon).trans (took_colon hcolon')
      exact (hhead.trans hcolons).trans (took_readGroups true _ _)

theorem took_ip {cs rest : List Char} {a : Ip} (h : ip? cs = some (a, rest)) : Took cs rest := by
  unfold ip? at h
  split at h
  · rename_i v4 tail hv4
    obtain ⟨-, rfl⟩ := Prod.mk.inj (Option.some.inj h)
    exact took_ipv4 hv4
  · obtain ⟨⟨v6, tail⟩, hv6, h⟩ := Option.map_eq_some_iff.1 h
    obtain ⟨-, rfl⟩ := Prod.mk.inj h
    exact took_ipv6 hv6

theorem isAddressChar_of_isIp {s : String} (h : isIp s) : ∀ c ∈ s.toList, isAddressChar c := by
  unfold isIp Ip.ofString? at h
  split at h
  · rename_i a hread
    obtain ⟨taken, htaken, hchars⟩ := took_ip hread
    rwa [htaken, List.append_nil]
  · cases h

theorem isAddressChar_of_isAddress {s : String} (h : isAddress s) :
    ∀ c ∈ s.toList, isAddressChar c := by
  rcases Bool.or_eq_true_iff.1 h with hip | hhost
  · exact isAddressChar_of_isIp hip
  · exact isAddressChar_of_isHostName hhost

end RouteSync.Net
