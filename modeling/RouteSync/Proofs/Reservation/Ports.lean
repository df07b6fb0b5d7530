import RouteSync.Proofs.Text.Blank
import RouteSync.Proofs.Text.Digits
import RouteSync.Proofs.Text.Reader
import RouteSync.Reservation.Ports

/-! Which texts name the ports that may be reserved, and which ports they name. -/
namespace RouteSync

section

variable {ε α β : Type} {f : α → Except ε β} {as : List α} {bs : List β} {a : α} {why : ε}

theorem mapM_cons_eq_ok_iff :
    (a :: as).mapM f = .ok bs ↔ ∃ b rest, f a = .ok b ∧ as.mapM f = .ok rest ∧ b :: rest = bs := by
  rw [List.mapM_cons]
  cases f a <;> cases as.mapM f <;> simp [bind, Except.bind, pure, Except.pure]

theorem mapM_cons_eq_error_iff :
    (a :: as).mapM f = .error why ↔
      f a = .error why ∨ (∃ b, f a = .ok b) ∧ as.mapM f = .error why := by
  rw [List.mapM_cons]
  cases f a <;> cases as.mapM f <;> simp [bind, Except.bind, pure, Except.pure]

theorem exists_mapM_eq_ok_iff : (∃ bs, as.mapM f = .ok bs) ↔ ∀ a ∈ as, ∃ b, f a = .ok b := by
  induction as with
  | nil => simp [pure, Except.pure]
  | cons a as ih =>
    rw [List.forall_mem_cons, ← ih]
    constructor
    · rintro ⟨bs, h⟩
      obtain ⟨b, rest, hb, hrest, -⟩ := mapM_cons_eq_ok_iff.1 h
      exact ⟨⟨b, hb⟩, rest, hrest⟩
    · rintro ⟨⟨b, hb⟩, rest, hrest⟩
      exact ⟨b :: rest, mapM_cons_eq_ok_iff.2 ⟨b, rest, hb, hrest, rfl⟩⟩

theorem mem_of_mapM_eq_ok (h : as.mapM f = .ok bs) {b : β} : b ∈ bs ↔ ∃ a ∈ as, f a = .ok b := by
  induction as generalizing bs with
  | nil =>
    obtain rfl : [] = bs := Except.ok.inj h
    simp
  | cons a as ih =>
    obtain ⟨first, rest, hfirst, hrest, rfl⟩ := mapM_cons_eq_ok_iff.1 h
    simp [ih hrest, hfirst, eq_comm]

/-- The first one at fault decides. -/
theorem mapM_eq_error_iff :
    as.mapM f = .error why ↔ ∃ before a after, as = before ++ a :: after ∧
      (∀ other ∈ before, ∃ b, f other = .ok b) ∧ f a = .error why := by
  induction as with
  | nil => simp [pure, Except.pure]
  | cons a as ih =>
    rw [mapM_cons_eq_error_iff, ih]
    constructor
    · rintro (ha | ⟨hok, before, other, after, rfl, hbefore, hother⟩)
      · exact ⟨[], a, as, rfl, nofun, ha⟩
      · exact ⟨a :: before, other, after, rfl, List.forall_mem_cons.2 ⟨hok, hbefore⟩, hother⟩
    · rintro ⟨before, other, after, heq, hbefore, hother⟩
      cases before with
      | nil =>
        obtain ⟨rfl, rfl⟩ := List.cons.inj heq
        exact .inl hother
      | cons first before =>
        obtain ⟨rfl, rfl⟩ := List.cons.inj heq
        obtain ⟨hok, hbefore⟩ := List.forall_mem_cons.1 hbefore
        exact .inr ⟨hok, before, other, after, rfl, hbefore, hother⟩

theorem mapM_map_eq_ok {g : β → α} (h : ∀ b, f (g b) = .ok b) (bs : List β) :
    (bs.map g).mapM f = .ok bs := by
  induction bs with
  | nil => rfl
  | cons b bs ih => exact mapM_cons_eq_ok_iff.2 ⟨b, bs, h b, ih, rfl⟩

end

namespace Reservation

open Text

/-! ### Ports -/

/-- A port in digits, and before them zeros and a plus sign and around it white space. -/
inductive Writes : List Char → UInt16 → Prop
  | intro {before sign after : List Char} {port : UInt16} (hbefore : Blank before)
      (hsign : sign = [] ∨ sign = ['+']) (zeros : Nat) (hport : port ≠ 0) (hafter : Blank after) :
      Writes (before ++ (sign ++ (List.replicate zeros '0' ++ Nat.toDigits 10 port.toNat) ++ after))
        port

variable {cs part before after : List Char} {port low high : UInt16}

theorem decimal?_eq_some_iff {n : Nat} :
    decimal? cs = some n ↔ ∃ sign zeros, (sign = [] ∨ sign = ['+']) ∧
      cs = sign ++ (List.replicate zeros '0' ++ Nat.toDigits 10 n) := by
  have hplus : ∀ rest zeros, '+' :: rest ≠ List.replicate zeros '0' ++ Nat.toDigits 10 n := by
    intro rest zeros heq
    obtain ⟨-, hdigits, -⟩ := natural?_eq_some_iff.1 (natural?_eq_some_iff_exists.2 ⟨zeros, heq⟩)
    exact absurd (hdigits '+' List.mem_cons_self) (by decide)
  unfold decimal?
  split
  · rename_i rest
    rw [natural?_eq_some_iff_exists]
    constructor
    · rintro ⟨zeros, rfl⟩
      exact ⟨['+'], zeros, .inr rfl, rfl⟩
    · rintro ⟨sign, zeros, rfl | rfl, heq⟩
      · exact absurd heq (hplus rest zeros)
      · exact ⟨zeros, List.tail_eq_of_cons_eq heq⟩
  · rename_i hnot
    rw [natural?_eq_some_iff_exists]
    constructor
    · rintro ⟨zeros, heq⟩
      exact ⟨[], zeros, .inl rfl, heq⟩
    · rintro ⟨sign, zeros, rfl | rfl, heq⟩
      · exact ⟨zeros, heq⟩
      · exact absurd heq (hnot _)

theorem mem_digits {zeros n : Nat} {c : Char}
    (h : c ∈ List.replicate zeros '0' ++ Nat.toDigits 10 n) : 48 ≤ c.toNat ∧ c.toNat ≤ 57 := by
  obtain ⟨-, hdigits, -⟩ := natural?_eq_some_iff.1 (natural?_eq_some_iff_exists.2 ⟨zeros, rfl⟩)
  exact isDigit_iff.1 (hdigits c h)

theorem mem_number {sign : List Char} (hsign : sign = [] ∨ sign = ['+']) {zeros n : Nat} {c : Char}
    (h : c ∈ sign ++ (List.replicate zeros '0' ++ Nat.toDigits 10 n)) :
    c = '+' ∨ (48 ≤ c.toNat ∧ c.toNat ≤ 57) := by
  rcases List.mem_append.1 h with hc | hc
  · obtain rfl | rfl := hsign
    · cases hc
    · exact .inl (List.mem_singleton.1 hc)
  · exact .inr (mem_digits hc)

theorem Writes.trim_eq (h : Writes cs port) :
    port ≠ 0 ∧ ∃ sign zeros, (sign = [] ∨ sign = ['+']) ∧
      trim cs = sign ++ (List.replicate zeros '0' ++ Nat.toDigits 10 port.toNat) := by
  obtain ⟨hbefore, hsign, zeros, hport, hafter⟩ := h
  refine ⟨hport, _, zeros, hsign, ?_⟩
  rw [trim_append_left hbefore, trim_append_right hafter]
  refine trim_of_forall fun c hc => ?_
  obtain rfl | ⟨hlow, hhigh⟩ := mem_number hsign hc
  · decide
  · exact isBlank_of_toNat (by omega) (by omega)

theorem Writes.of_mem (h : Writes cs port) {c : Char} (hc : c ∈ cs) :
    isBlank c = true ∨ c = '+' ∨ (48 ≤ c.toNat ∧ c.toNat ≤ 57) := by
  obtain ⟨hbefore, hsign, zeros, -, hafter⟩ := h
  rcases List.mem_append.1 hc with hc | hc
  · exact .inl (hbefore c hc)
  rcases List.mem_append.1 hc with hc | hc
  · exact .inr (mem_number hsign hc)
  · exact .inl (hafter c hc)

theorem Writes.notMem (h : Writes cs port) : '-' ∉ cs :=
  fun hmem => absurd (h.of_mem hmem) (by decide)

theorem writes_iff : Writes cs port ↔ port ≠ 0 ∧ decimal? (trim cs) = some port.toNat := by
  rw [decimal?_eq_some_iff]
  constructor
  · exact Writes.trim_eq
  · rintro ⟨hport, sign, zeros, hsign, heq⟩
    obtain ⟨before, after, hbefore, hafter, hcs⟩ := exists_trim cs
    rw [hcs, heq]
    exact .intro hbefore hsign zeros hport hafter

theorem portOf_eq_ok_iff {found : { port : UInt16 // port ≠ 0 }} :
    portOf cs = .ok found ↔ Writes cs found.1 := by
  rw [writes_iff]
  unfold portOf
  split
  · rename_i hnone
    simp [hnone]
  · rename_i n hn
    rw [hn, Option.some.injEq]
    split
    · rename_i h
      rw [Except.ok.injEq, Subtype.ext_iff]
      have hnat : n.toUInt16.toNat = n := UInt16.toNat_ofNat_of_lt' h.1
      constructor
      · intro heq
        exact ⟨found.2, by rw [← heq, hnat]⟩
      · rintro ⟨-, rfl⟩
        exact UInt16.toNat_inj.1 hnat
    · rename_i h
      refine ⟨nofun, ?_⟩
      rintro ⟨-, rfl⟩
      refine absurd ⟨found.1.toNat_lt, ?_⟩ h
      rw [show found.1.toNat.toUInt16 = found.1 from UInt16.ofNat_toNat]
      exact found.2

theorem Writes.ne_zero (h : Writes cs port) : port ≠ 0 := h.trim_eq.1

theorem Writes.portOf_eq (h : Writes cs port) : portOf cs = .ok ⟨port, h.ne_zero⟩ :=
  portOf_eq_ok_iff.2 h

theorem portOf_cases (cs : List Char) :
    (∃ found, portOf cs = .ok found) ∨
      portOf cs = .error (.port (trimmed (String.ofList cs))) := by
  unfold portOf
  split
  · exact .inr rfl
  · split
    · exact .inl ⟨_, rfl⟩
    · exact .inr rfl

theorem portOf_eq_error (h : ∀ port, ¬ Writes cs port) :
    portOf cs = .error (.port (trimmed (String.ofList cs))) := by
  refine (portOf_cases cs).resolve_left ?_
  rintro ⟨found, hfound⟩
  exact h _ (portOf_eq_ok_iff.1 hfound)

theorem portOf_congr {other : List Char} (h : trim cs = trim other) : portOf cs = portOf other := by
  unfold portOf trimmed
  rw [String.toList_ofList, String.toList_ofList, h]

/-! ### Ranges -/

/-- A part that names a port, or the ports from one to another with a hyphen between the two. It is
the first hyphen of the part, as no port is written with one. -/
inductive Spells : List Char → UInt16 → UInt16 → Prop
  | one {part : List Char} {port : UInt16} (hport : Writes part port) : Spells part port port
  | two {before after : List Char} {low high : UInt16} (hlow : Writes before low)
      (hhigh : Writes after high) (hle : low ≤ high) : Spells (before ++ '-' :: after) low high

/-- A part that is at fault. Of two ports around its first hyphen the former is looked at first. -/
inductive Faulty : List Char → PortsError → Prop
  | port {part : List Char} (hpart : '-' ∉ part) (hnot : ∀ port, ¬ Writes part port) :
      Faulty part (.port (trimmed (String.ofList part)))
  | low {before after : List Char} (hbefore : '-' ∉ before) (hnot : ∀ port, ¬ Writes before port) :
      Faulty (before ++ '-' :: after) (.port (trimmed (String.ofList before)))
  | high {before after : List Char} {low : UInt16} (hlow : Writes before low)
      (hnot : ∀ port, ¬ Writes after port) :
      Faulty (before ++ '-' :: after) (.port (trimmed (String.ofList after)))
  | order {before after : List Char} {low high : UInt16} (hlow : Writes before low)
      (hhigh : Writes after high) (hlt : high < low) :
      Faulty (before ++ '-' :: after)
        (.range (trimmed (String.ofList (before ++ '-' :: after))))

theorem ofPart_of_notMem (h : '-' ∉ part) :
    PortRange.ofPart (trim part) = match portOf part with
      | .error why => .error why
      | .ok found => .ok ⟨found.1, found.1, found.2, UInt16.le_refl found.1⟩ := by
  have htrim : '-' ∉ trim part := mt mem_of_mem_trim h
  rw [PortRange.ofPart, splitFirst?_eq_none.2 htrim, portOf_congr (trim_trim part)]
  cases portOf part <;> rfl

theorem ofPart_of_first (h : '-' ∉ before) (after : List Char) :
    PortRange.ofPart (trim (before ++ '-' :: after)) = match portOf before, portOf after with
      | .error why, _ => .error why
      | .ok _, .error why => .error why
      | .ok low, .ok high =>
        if le : low.1 ≤ high.1 then .ok ⟨low.1, high.1, low.2, le⟩
        else .error (.range (trimmed (String.ofList (before ++ '-' :: after)))) := by
  have htrim : '-' ∉ trimStart before := mt mem_of_mem_trimStart h
  have hpart := trim_append_cons (c := '-') (by decide) before after
  rw [PortRange.ofPart, trimmed, String.toList_ofList, hpart, splitFirst?_append htrim]
  dsimp only
  rw [portOf_congr (trim_trimStart before), portOf_congr (trim_trimEnd after)]
  cases portOf before with
  | error why => rfl
  | ok low =>
    cases portOf after with
    | error why => rfl
    | ok high => rfl

theorem Spells.ne_zero (h : Spells part low high) : low ≠ 0 := by
  cases h with
  | one hport => exact hport.ne_zero
  | two hlow => exact hlow.ne_zero

theorem Spells.le (h : Spells part low high) : low ≤ high := by
  cases h with
  | one => exact UInt16.le_refl _
  | two _ _ hle => exact hle

theorem Spells.ofPart_eq (h : Spells part low high) :
    PortRange.ofPart (trim part) = .ok ⟨low, high, h.ne_zero, h.le⟩ := by
  cases h with
  | one hport => rw [ofPart_of_notMem hport.notMem, hport.portOf_eq]
  | two hlow hhigh hle =>
    rw [ofPart_of_first hlow.notMem, hlow.portOf_eq, hhigh.portOf_eq]
    exact dif_pos hle

theorem Faulty.ofPart_eq {why : PortsError} (h : Faulty part why) :
    PortRange.ofPart (trim part) = .error why := by
  cases h with
  | port hpart hnot => rw [ofPart_of_notMem hpart, portOf_eq_error hnot]
  | low hbefore hnot => rw [ofPart_of_first hbefore, portOf_eq_error hnot]
  | high hlow hnot => rw [ofPart_of_first hlow.notMem, hlow.portOf_eq, portOf_eq_error hnot]
  | order hlow hhigh hlt =>
    rw [ofPart_of_first hlow.notMem, hlow.portOf_eq, hhigh.portOf_eq]
    exact dif_neg (UInt16.not_le.2 hlt)

theorem writes_or_not (cs : List Char) : (∃ port, Writes cs port) ∨ ∀ port, ¬ Writes cs port := by
  rw [← not_exists]
  exact Classical.em _

theorem spells_or_faulty (part : List Char) :
    (∃ low high, Spells part low high) ∨ ∃ why, Faulty part why := by
  by_cases hpart : '-' ∈ part
  · obtain ⟨before, after, rfl, hbefore⟩ := List.eq_append_cons_of_mem hpart
    obtain ⟨low, hlow⟩ | hnot := writes_or_not before
    · obtain ⟨high, hhigh⟩ | hnot := writes_or_not after
      · by_cases hle : low ≤ high
        · exact .inl ⟨low, high, .two hlow hhigh hle⟩
        · exact .inr ⟨_, .order hlow hhigh (UInt16.not_le.1 hle)⟩
      · exact .inr ⟨_, .high hlow hnot⟩
    · exact .inr ⟨_, .low hbefore hnot⟩
  · obtain ⟨port, hport⟩ | hnot := writes_or_not part
    · exact .inl ⟨port, port, .one hport⟩
    · exact .inr ⟨_, .port hpart hnot⟩

theorem ofPart_eq_ok_iff {r : PortRange} :
    PortRange.ofPart (trim part) = .ok r ↔ Spells part r.low r.high := by
  constructor
  · intro h
    obtain ⟨low, high, hspells⟩ | ⟨why, hfaulty⟩ := spells_or_faulty part
    · rw [hspells.ofPart_eq] at h
      obtain rfl := Except.ok.inj h
      exact hspells
    · rw [hfaulty.ofPart_eq] at h
      cases h
  · exact Spells.ofPart_eq

theorem ofPart_eq_error_iff {why : PortsError} :
    PortRange.ofPart (trim part) = .error why ↔ Faulty part why := by
  constructor
  · intro h
    obtain ⟨low, high, hspells⟩ | ⟨why', hfaulty⟩ := spells_or_faulty part
    · rw [hspells.ofPart_eq] at h
      cases h
    · rw [hfaulty.ofPart_eq] at h
      obtain rfl := Except.error.inj h
      exact hfaulty
  · exact Faulty.ofPart_eq

theorem exists_ofPart_iff :
    (∃ r, PortRange.ofPart (trim part) = .ok r) ↔ ∃ low high, Spells part low high := by
  constructor
  · rintro ⟨r, hr⟩
    exact ⟨r.low, r.high, ofPart_eq_ok_iff.1 hr⟩
  · rintro ⟨low, high, h⟩
    exact ⟨_, h.ofPart_eq⟩

theorem Spells.not_blank (h : Spells part low high) : ¬ Blank part := by
  intro hblank
  have hnil : PortRange.ofPart [] = .error (.port "") := by decide
  have hok := h.ofPart_eq
  rw [trim_eq_nil_iff.2 hblank, hnil] at hok
  cases hok

theorem Spells.notMem (h : Spells part low high) : ',' ∉ part := by
  intro hmem
  cases h with
  | one hport => exact absurd (hport.of_mem hmem) (by decide)
  | two hlow hhigh =>
    rcases List.mem_append.1 hmem with hc | hc
    · exact absurd (hlow.of_mem hc) (by decide)
    rcases List.mem_cons.1 hc with hc | hc
    · cases hc
    · exact absurd (hhigh.of_mem hc) (by decide)

/-! ### Lists of ranges -/

def hasText (part : List Char) : Bool := trim part ≠ []

@[simp]
theorem hasText_iff : hasText part = true ↔ ¬ Blank part := by
  rw [hasText, decide_eq_true_eq, ne_eq, trim_eq_nil_iff]

theorem parts_eq (s : String) :
    parts s = ((s.toList.splitOn ',').filter hasText).map trim := by
  rw [parts, splitOn_eq, List.filter_map]
  rfl

theorem ofString_eq (s : String) :
    Ports.ofString s = ((parts s).mapM PortRange.ofPart).map Ports.mk := by
  unfold Ports.ofString
  cases (parts s).mapM PortRange.ofPart <;> rfl

theorem ofString_eq_ok_iff {s : String} {ports : Ports} :
    Ports.ofString s = .ok ports ↔ (parts s).mapM PortRange.ofPart = .ok ports.ranges := by
  obtain ⟨ranges⟩ := ports
  rw [ofString_eq]
  cases (parts s).mapM PortRange.ofPart <;> simp [Except.map]

theorem ofString_eq_error_iff {s : String} {why : PortsError} :
    Ports.ofString s = .error why ↔ (parts s).mapM PortRange.ofPart = .error why := by
  rw [ofString_eq]
  cases (parts s).mapM PortRange.ofPart <;> simp [Except.map]

/-- There is nothing wrong with a part: it is white space or a range. -/
def Passes (part : List Char) : Prop := Blank part ∨ ∃ low high, Spells part low high

/-- A part of the text covers the port. -/
def Names (s : String) (port : UInt16) : Prop :=
  ∃ part ∈ s.toList.splitOn ',', ∃ low high, Spells part low high ∧ low ≤ port ∧ port ≤ high

variable {s : String}

theorem mem_parts :
    cs ∈ parts s ↔ ∃ part ∈ s.toList.splitOn ',', ¬ Blank part ∧ trim part = cs := by
  simp [parts_eq, and_assoc]

theorem exists_ofString_iff :
    (∃ ports, Ports.ofString s = .ok ports) ↔
      ∀ cs ∈ parts s, ∃ r, PortRange.ofPart cs = .ok r := by
  rw [← exists_mapM_eq_ok_iff]
  simp only [ofString_eq_ok_iff]
  exact ⟨fun ⟨ports, h⟩ => ⟨ports.ranges, h⟩, fun ⟨ranges, h⟩ => ⟨⟨ranges⟩, h⟩⟩

theorem parses_iff :
    (∃ ports, Ports.ofString s = .ok ports) ↔ ∀ part ∈ s.toList.splitOn ',', Passes part := by
  rw [exists_ofString_iff]
  constructor
  · intro h part hpart
    by_cases hblank : Blank part
    · exact .inl hblank
    · exact .inr (exists_ofPart_iff.1 (h _ (mem_parts.2 ⟨part, hpart, hblank, rfl⟩)))
  · intro h cs hcs
    obtain ⟨part, hpart, hblank, rfl⟩ := mem_parts.1 hcs
    exact exists_ofPart_iff.2 ((h part hpart).resolve_left hblank)

theorem fails_iff {why : PortsError} :
    Ports.ofString s = .error why ↔ ∃ before part after,
      s.toList.splitOn ',' = before ++ part :: after ∧ (∀ other ∈ before, Passes other) ∧
      ¬ Blank part ∧ Faulty part why := by
  rw [ofString_eq_error_iff, parts_eq, List.mapM_map, mapM_eq_error_iff]
  simp only [Function.comp_apply, exists_ofPart_iff, ofPart_eq_error_iff]
  constructor
  · rintro ⟨before, part, after, heq, hbefore, hfaulty⟩
    obtain ⟨first, rest, hparts, hfirst, hrest⟩ := List.filter_eq_append_iff.1 heq
    obtain ⟨blanks, last, rfl, hblanks, hpart, -⟩ := List.filter_eq_cons_iff.1 hrest
    refine ⟨first ++ blanks, part, last, by rw [hparts, List.append_assoc], ?_,
      hasText_iff.1 hpart, hfaulty⟩
    refine List.forall_mem_append.2 ⟨fun other hother => ?_, fun other hother => ?_⟩
    · by_cases hblank : Blank other
      · exact .inl hblank
      · refine .inr (hbefore other ?_)
        rw [← hfirst]
        exact List.mem_filter.2 ⟨hother, hasText_iff.2 hblank⟩
    · exact .inl (by simpa using hblanks other hother)
  · rintro ⟨before, part, after, heq, hbefore, hblank, hfaulty⟩
    refine ⟨before.filter hasText, part, after.filter hasText, ?_, fun other hother => ?_, hfaulty⟩
    · rw [heq, List.filter_append, List.filter_cons_of_pos (hasText_iff.2 hblank)]
    · obtain ⟨hmem, hother⟩ := List.mem_filter.1 hother
      exact (hbefore other hmem).resolve_left (hasText_iff.1 hother)

theorem mem_ranges_iff {ports : Ports} (h : Ports.ofString s = .ok ports) {r : PortRange} :
    r ∈ ports.ranges ↔ ∃ cs ∈ parts s, PortRange.ofPart cs = .ok r :=
  mem_of_mapM_eq_ok (ofString_eq_ok_iff.1 h)

theorem allows_iff {ports : Ports} :
    ports.allows port = true ↔
      ports.ranges = [] ∨ ∃ r ∈ ports.ranges, r.low ≤ port ∧ port ≤ r.high := by
  simp [Ports.allows, PortRange.covers]

theorem ranges_eq_nil_iff {ports : Ports} (h : Ports.ofString s = .ok ports) :
    ports.ranges = [] ↔ parts s = [] := by
  simp only [List.eq_nil_iff_forall_not_mem, mem_ranges_iff h, not_exists, not_and]
  constructor
  · intro hnone cs hcs
    obtain ⟨r, hr⟩ := exists_ofString_iff.1 ⟨ports, h⟩ cs hcs
    exact hnone r cs hcs hr
  · intro hnone r cs hcs
    exact absurd hcs (hnone cs)

/-- Every port is accepted where no part has text, and else those that the text names. -/
theorem allows_of_ofString {ports : Ports} (h : Ports.ofString s = .ok ports) (port : UInt16) :
    ports.allows port = true ↔ (∀ part ∈ s.toList.splitOn ',', Blank part) ∨ Names s port := by
  rw [allows_iff, ranges_eq_nil_iff h]
  refine or_congr ?_ ?_
  · simp only [List.eq_nil_iff_forall_not_mem, mem_parts, not_exists, not_and]
    constructor
    · intro hnone part hpart
      by_contra hblank
      exact hnone _ part hpart hblank rfl
    · intro hblank cs part hpart hnot
      exact absurd (hblank part hpart) hnot
  · constructor
    · rintro ⟨r, hr, hcovers⟩
      obtain ⟨cs, hcs, hread⟩ := (mem_ranges_iff h).1 hr
      obtain ⟨part, hpart, -, rfl⟩ := mem_parts.1 hcs
      exact ⟨part, hpart, r.low, r.high, ofPart_eq_ok_iff.1 hread, hcovers⟩
    · rintro ⟨part, hpart, low, high, hspells, hcovers⟩
      have hmem := mem_parts.2 ⟨part, hpart, hspells.not_blank, rfl⟩
      exact ⟨_, (mem_ranges_iff h).2 ⟨_, hmem, hspells.ofPart_eq⟩, hcovers⟩

/-- Neither the order of the parts nor how often one is given makes a difference. -/
theorem allows_congr {s' : String} (hsame : ∀ cs, cs ∈ parts s ↔ cs ∈ parts s')
    {ports ports' : Ports} (h : Ports.ofString s = .ok ports) (h' : Ports.ofString s' = .ok ports')
    (port : UInt16) : ports.allows port = ports'.allows port := by
  have hnil : parts s = [] ↔ parts s' = [] := by
    simp only [List.eq_nil_iff_forall_not_mem, hsame]
  have hmem : ∀ r, r ∈ ports.ranges ↔ r ∈ ports'.ranges := fun r => by
    simp only [mem_ranges_iff h, mem_ranges_iff h', hsame]
  rw [Bool.eq_iff_iff, allows_iff, allows_iff, ranges_eq_nil_iff h, ranges_eq_nil_iff h', hnil]
  simp only [hmem]

theorem parts_append (s t : String) : parts (s ++ "," ++ t) = parts s ++ parts t := by
  have hchars : (s ++ "," ++ t).toList = s.toList ++ ',' :: t.toList := by
    rw [String.toList_append, String.toList_append, List.append_assoc]
    rfl
  rw [parts_eq, hchars, List.splitOn_append_cons_self, List.filter_append, List.map_append,
    ← parts_eq, ← parts_eq]

/-- Ranges are never merged, also where they overlap. -/
theorem ofString_append {t : String} {ports more : Ports} (hs : Ports.ofString s = .ok ports)
    (ht : Ports.ofString t = .ok more) :
    Ports.ofString (s ++ "," ++ t) = .ok ⟨ports.ranges ++ more.ranges⟩ := by
  rw [ofString_eq_ok_iff] at hs ht ⊢
  rw [parts_append, List.mapM_append, hs, ht]
  rfl

/-! ### The text of ranges -/

theorem writes_toDigits (h : port ≠ 0) : Writes (Nat.toDigits 10 port.toNat) port := by
  have hwrites := @Writes.intro [] [] [] port nofun (.inl rfl) 0 h nofun
  rwa [List.nil_append, List.nil_append, List.append_nil] at hwrites

theorem PortRange.high_ne_zero (r : PortRange) : r.high ≠ 0 := by
  intro hzero
  have hle := UInt16.le_iff_toNat_le.1 r.low_le_high
  rw [hzero] at hle
  exact r.low_ne_zero (UInt16.toNat_inj.1 (Nat.le_zero.1 hle))

theorem PortRange.spells (r : PortRange) : Spells r.text.toList r.low r.high := by
  have hlow := writes_toDigits r.low_ne_zero
  have hhigh := writes_toDigits r.high_ne_zero
  unfold PortRange.text
  split
  · rename_i heq
    rw [toList_toString, ← heq]
    exact .one hlow
  · rw [String.toList_append, String.toList_append, toList_toString, toList_toString,
      List.append_assoc]
    exact .two hlow hhigh r.low_le_high

theorem parts_join (ranges : List PortRange) :
    parts (join ',' (ranges.map PortRange.text)) = ranges.map (trim ·.text.toList) := by
  by_cases hne : ranges = []
  · rw [hne]
    decide
  have hsplit : (join ',' (ranges.map PortRange.text)).toList.splitOn ',' =
      ranges.map (·.text.toList) := by
    rw [← splitOn_eq, splitOn_eq_iff, toList_join, List.map_map]
    refine ⟨rfl, by simpa using hne, fun part hpart => ?_⟩
    obtain ⟨r, -, rfl⟩ := List.mem_map.1 hpart
    exact r.spells.notMem
  have hall : ∀ part ∈ ranges.map (·.text.toList), hasText part = true := by
    intro part hpart
    obtain ⟨r, -, rfl⟩ := List.mem_map.1 hpart
    exact hasText_iff.2 r.spells.not_blank
  rw [parts_eq, hsplit, List.filter_eq_self.2 hall, List.map_map]
  rfl

theorem ofString_join (ranges : List PortRange) :
    Ports.ofString (join ',' (ranges.map PortRange.text)) = .ok ⟨ranges⟩ := by
  rw [ofString_eq_ok_iff, parts_join]
  exact mapM_map_eq_ok (fun r => ofPart_eq_ok_iff.2 r.spells) ranges

/-- A text is read if each of its parts is white space or a range; the first other part decides the
error. What is read accepts the ports of its parts, whatever their order and number and however they
overlap, and every port if there are none. The text of ranges is read as these. -/
theorem ofString_reads_ranges (s : String) :
    ((∃ ports, Ports.ofString s = .ok ports) ↔ ∀ part ∈ s.toList.splitOn ',', Passes part) ∧
    (∀ why, Ports.ofString s = .error why ↔ ∃ before part after,
      s.toList.splitOn ',' = before ++ part :: after ∧ (∀ other ∈ before, Passes other) ∧
      ¬ Blank part ∧ Faulty part why) ∧
    (∀ ports, Ports.ofString s = .ok ports → ∀ port, ports.allows port = true ↔
      (∀ part ∈ s.toList.splitOn ',', Blank part) ∨ Names s port) ∧
    (∀ s', (∀ cs, cs ∈ parts s ↔ cs ∈ parts s') →
      ((∃ ports, Ports.ofString s = .ok ports) ↔ ∃ ports, Ports.ofString s' = .ok ports) ∧
      ∀ ports ports', Ports.ofString s = .ok ports → Ports.ofString s' = .ok ports' →
        ∀ port, ports.allows port = ports'.allows port) ∧
    (∀ t ports more, Ports.ofString s = .ok ports → Ports.ofString t = .ok more →
      Ports.ofString (s ++ "," ++ t) = .ok ⟨ports.ranges ++ more.ranges⟩) ∧
    ∀ ranges, Ports.ofString (join ',' (ranges.map PortRange.text)) = .ok ⟨ranges⟩ := by
  refine ⟨parses_iff, fun why => fails_iff, fun ports h port => allows_of_ofString h port,
    fun s' hsame => ⟨?_, fun ports ports' h h' port => allows_congr hsame h h' port⟩,
    fun t ports more hs ht => ofString_append hs ht, ofString_join⟩
  rw [exists_ofString_iff, exists_ofString_iff]
  simp only [hsame]

/-- The second hyphen belongs to the second port. -/
example : Ports.ofString " 80, 1-2-3 ,x" = .error (.port "2-3") := by decide +kernel

end Reservation
end RouteSync
