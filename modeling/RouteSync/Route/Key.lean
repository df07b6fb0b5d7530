/-! What a route is known by: an inbound port and, where it serves one name only, that name. -/
namespace RouteSync

/-- The empty host stands for every connection that no other key of the port claims. -/
structure Key where
  port : UInt16
  host : String
  deriving DecidableEq, Inhabited

namespace Key

def valid (k : Key) : Bool := k.port ≠ 0

def text (k : Key) : String :=
  if k.host.isEmpty then toString k.port.toNat else toString k.port.toNat ++ "/" ++ k.host

/-- Ports come first, and the hosts of a port in the order of their characters. -/
instance : LT Key where
  lt a b := a.port < b.port ∨ (a.port = b.port ∧ a.host < b.host)

theorem lt_iff {a b : Key} : a < b ↔ a.port < b.port ∨ (a.port = b.port ∧ a.host < b.host) :=
  Iff.rfl

instance (a b : Key) : Decidable (a < b) :=
  inferInstanceAs (Decidable (a.port < b.port ∨ (a.port = b.port ∧ a.host < b.host)))

theorem lt_irrefl (a : Key) : ¬ a < a := by
  rintro (h | ⟨_, h⟩)
  · exact UInt16.lt_irrefl _ h
  · exact String.lt_irrefl _ h

theorem lt_trans {a b c : Key} (hab : a < b) (hbc : b < c) : a < c := by
  rcases hab with h | ⟨h, h'⟩ <;> rcases hbc with g | ⟨g, g'⟩
  · exact .inl (UInt16.lt_trans h g)
  · exact .inl (g ▸ h)
  · exact .inl (h ▸ g)
  · exact .inr ⟨h.trans g, String.lt_trans h' g'⟩

theorem lt_trichotomy (a b : Key) : a < b ∨ a = b ∨ b < a := by
  obtain ⟨p, s⟩ := a
  obtain ⟨q, t⟩ := b
  simp only [lt_iff, Key.mk.injEq]
  by_cases hpq : p = q
  · subst hpq
    by_cases hst : s = t
    · simp [hst]
    · by_cases hlt : s < t
      · simp [hlt]
      · by_cases hgt : t < s
        · simp [hgt]
        · exact absurd (String.le_antisymm (String.not_lt.1 hgt) (String.not_lt.1 hlt)) hst
  · by_cases hlt : p < q
    · simp [hlt]
    · have : q < p := UInt16.lt_of_le_of_ne (UInt16.not_lt.1 hlt) (Ne.symm hpq)
      simp [this]

end Key
end RouteSync
