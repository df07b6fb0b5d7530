import RouteSync.Proofs.Table.Follow
import RouteSync.Reservation.Request

/-! The routes of a request that is not refused. -/
namespace RouteSync

theorem bind_eq_ok_iff {ε α β : Type} {x : Except ε α} {f : α → Except ε β} {b : β} :
    x >>= f = .ok b ↔ ∃ a, x = .ok a ∧ f a = .ok b := by
  cases x <;> simp [bind, Except.bind]

theorem mapM_eq_ok_iff {ε α β : Type} {f : α → Except ε β} {P : α → Prop} {g : α → β}
    (hf : ∀ a b, f a = .ok b ↔ P a ∧ b = g a) {as : List α} {bs : List β} :
    as.mapM f = .ok bs ↔ (∀ a ∈ as, P a) ∧ bs = as.map g := by
  induction as generalizing bs with
  | nil => simp [pure, Except.pure, eq_comm]
  | cons a as ih =>
    simp only [List.mapM_cons, bind_eq_ok_iff, hf, ih, pure, Except.pure, Except.ok.injEq,
      List.forall_mem_cons, List.map_cons]
    constructor
    · rintro ⟨b, ⟨ha, rfl⟩, cs, ⟨has, rfl⟩, rfl⟩
      exact ⟨⟨ha, has⟩, rfl⟩
    · rintro ⟨⟨ha, has⟩, rfl⟩
      exact ⟨g a, ⟨ha, rfl⟩, as.map g, ⟨has, rfl⟩, rfl⟩

theorem port?_eq_some_iff {n : UInt32} {p : UInt16} :
    port? n = some p ↔ (n ≠ 0 ∧ n < 65536) ∧ p = n.toUInt16 := by
  rw [port?, Option.ite_none_right_eq_some, Option.some.injEq, eq_comm (b := p)]

namespace Reservation

theorem portNamed_eq_ok_iff {what : String} {n : UInt32} {p : UInt16} :
    portNamed what n = .ok p ↔ port? n = some p := by
  unfold portNamed
  cases port? n <;> simp

/-- A host that passes every check. -/
structure Host.Acceptable (h : Host) : Prop where
  stated : Text.allBlank h.address = false
  address : Net.isAddress h.address = true
  port : h.port ≠ 0 ∧ h.port < 65536

/-- The server that a host stands for, spoken to in clear text. -/
def Host.plain (h : Host) : Server := .plain h.address h.port.toUInt16

theorem Host.server_eq_ok_iff {h : Host} {port : UInt16} {s : Server} :
    h.server port = .ok s ↔ h.Acceptable ∧ s = h.plain := by
  unfold Host.server
  split
  · rename_i hblank
    refine ⟨nofun, fun ⟨hok, _⟩ => ?_⟩
    rw [hok.stated] at hblank
    cases hblank
  split
  · rename_i hstated hfaulty
    refine ⟨nofun, fun ⟨hok, _⟩ => ?_⟩
    rw [hok.address] at hfaulty
    cases hfaulty
  · rename_i hstated haddress
    have hmap : (portNamed "backend_port" h.port).map (Server.plain h.address) = .ok s ↔
        ∃ p, portNamed "backend_port" h.port = .ok p ∧ Server.plain h.address p = s := by
      cases portNamed "backend_port" h.port <;> simp [Except.map]
    simp only [hmap, portNamed_eq_ok_iff, port?_eq_some_iff]
    constructor
    · rintro ⟨p, ⟨hport, rfl⟩, rfl⟩
      exact ⟨⟨by simpa using hstated, by simpa using haddress, hport⟩, rfl⟩
    · rintro ⟨hok, rfl⟩
      exact ⟨_, ⟨hok.port, rfl⟩, rfl⟩

/-- A binding that passes every check, with all of its hosts. -/
structure Binding.Acceptable (ports : Ports) (b : Binding) : Prop where
  port : b.port ≠ 0 ∧ b.port < 65536
  reservable : ports.allows b.port.toUInt16 = true
  hosts : ∀ h ∈ b.hosts, h.Acceptable

namespace Binding

/-- The key of all connections to a port that no host name claims. -/
def key (b : Binding) : Key := ⟨b.port.toUInt16, ""⟩

def servers (b : Binding) : List Server := b.hosts.map Host.plain

variable {ports : Ports} {b c : Binding}

theorem route_eq_ok_iff {route : Key × List Server} :
    b.route ports = .ok route ↔ b.Acceptable ports ∧ route = (b.key, b.servers) := by
  have hhosts : ∀ (port : UInt16) (ss : List Server), b.hosts.mapM (Host.server port) = .ok ss ↔
      (∀ h ∈ b.hosts, h.Acceptable) ∧ ss = b.servers :=
    fun port ss => mapM_eq_ok_iff fun _ _ => Host.server_eq_ok_iff
  simp only [Binding.route, bind_eq_ok_iff, portNamed_eq_ok_iff, port?_eq_some_iff]
  constructor
  · rintro ⟨port, ⟨hport, rfl⟩, h⟩
    split at h
    · cases h
    · rename_i hreservable
      obtain ⟨ss, hss, h⟩ := bind_eq_ok_iff.1 h
      obtain ⟨hok, rfl⟩ := (hhosts _ _).1 hss
      exact ⟨⟨hport, by simpa using hreservable, hok⟩, (Except.ok.inj h).symm⟩
  · rintro ⟨hok, rfl⟩
    refine ⟨_, ⟨hok.port, rfl⟩, ?_⟩
    rw [if_neg (by simp [hok.reservable]), bind_eq_ok_iff]
    exact ⟨b.servers, (hhosts _ _).2 ⟨hok.hosts, rfl⟩, rfl⟩

theorem Acceptable.valid_key (h : b.Acceptable ports) : b.key.valid = true :=
  decide_eq_true (port?_ne_zero (port?_eq_some_iff.2 ⟨h.port, rfl⟩))

/-- Bindings of different ports are of different keys. -/
theorem Acceptable.port_eq (hb : b.Acceptable ports) (hc : c.Acceptable ports)
    (h : b.key = c.key) : b.port = c.port := by
  have hport : b.port.toUInt16.toNat = c.port.toUInt16.toNat :=
    congrArg (fun k : Key => k.port.toNat) h
  have hb' : b.port.toNat < 65536 := UInt32.lt_iff_toNat_lt.1 hb.port.2
  have hc' : c.port.toNat < 65536 := UInt32.lt_iff_toNat_lt.1 hc.port.2
  simp only [UInt32.toNat_toUInt16] at hport
  exact UInt32.toNat_inj.1 (by omega)

end Binding

/-- All bindings of a request are checked, and each that passes describes one route. -/
theorem routes_eq_ok_iff {ports : Ports} {bs : List Binding} {rs : List (Key × List Server)} :
    routes ports bs = .ok rs ↔
      (∀ b ∈ bs, b.Acceptable ports) ∧ rs = bs.map fun b => (b.key, b.servers) :=
  mapM_eq_ok_iff fun _ _ => Binding.route_eq_ok_iff

theorem valid_of_routes {ports : Ports} {bs : List Binding} {rs : List (Key × List Server)}
    (h : routes ports bs = .ok rs) : ∀ r ∈ rs, r.1.valid = true := by
  obtain ⟨hok, rfl⟩ := routes_eq_ok_iff.1 h
  intro r hr
  obtain ⟨b, hb, rfl⟩ := List.mem_map.1 hr
  exact (hok b hb).valid_key

end Reservation
end RouteSync
