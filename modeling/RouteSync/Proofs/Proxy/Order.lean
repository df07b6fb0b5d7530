import RouteSync.Proofs.Proxy.Served
import RouteSync.Proofs.Reconcile.Single
import RouteSync.Proofs.Table.Order

/-! The proxy sees the servers of a key in one order for as long as they are there, whatever comes
and goes among them. -/
namespace RouteSync

open Lineup Proxy

/-- What is served after some deeds. -/
def served (deeds : List Deed) : Snapshot := (performed .empty deeds).table.snapshot

section Served

variable {k : Key} {x y : String × UInt16}

theorem order_served (deeds : List Deed) (k : Key) :
    (served deeds).order k = ((performed .empty deeds).table.entry k).endpoints :=
  Table.order_snapshot _ k

theorem nodup_order (deeds : List Deed) (k : Key) : ((served deeds).order k).Nodup := by
  rw [order_served]
  exact (sound_performed Table.sound_empty deeds).distinct_entry k

theorem Deed.Single.keeps {d : Deed} (h : d.Single) (t : Table) (k : Key) :
    Keeps (t.entry k).endpoints ((d.change t).table.entry k).endpoints := by
  cases d with
  | event e now => exact t.keeps_apply k e now
  | listing answer now =>
    cases answer with
    | ok ms => exact t.keeps_merge k ms now
    | error what => exact .refl _
  | prune now => exact t.keeps_prune k now
  | replace routes now =>
    match routes, h with
    | [], _ => exact .refl _
    | [route], _ =>
      rw [Deed.change_replace_singleton]
      exact Table.keeps_setListed k now route t
  | note record => exact .refl _

theorem Deed.Single.keeps_served {d : Deed} (h : d.Single) (before : List Deed) (k : Key) :
    Keeps ((served before).order k) ((served (before ++ [d])).order k) := by
  rw [order_served, order_served, performed_table_append, performed_singleton]
  exact h.keeps _ k

theorem keeps_take (before : List Deed) {stretch : List Deed} (hsingle : ∀ d ∈ stretch, d.Single)
    (k : Key) (n : Nat) :
    Keeps ((served (before ++ stretch.take n)).order k)
      ((served (before ++ stretch.take (n + 1))).order k) := by
  rw [List.take_add_one]
  cases hd : stretch[n]? with
  | none =>
    rw [Option.toList_none, List.append_nil]
    exact .refl _
  | some d =>
    rw [Option.toList_some, ← List.append_assoc]
    exact (hsingle d (List.mem_of_getElem? hd)).keeps_served _ k

theorem precedes_served_iff {before stretch : List Deed} (hsingle : ∀ d ∈ stretch, d.Single)
    (h : ∀ n ≤ stretch.length, x ∈ (served (before ++ stretch.take n)).order k ∧
      y ∈ (served (before ++ stretch.take n)).order k) :
    Precedes ((served before).order k) x y ↔
      Precedes ((served (before ++ stretch)).order k) x y := by
  induction stretch generalizing before with
  | nil => rw [List.append_nil]
  | cons d stretch ih =>
    have hnow := h 0 (Nat.zero_le _)
    have hnext : ∀ n ≤ stretch.length, x ∈ (served (before ++ [d] ++ stretch.take n)).order k ∧
        y ∈ (served (before ++ [d] ++ stretch.take n)).order k := by
      intro n hn
      have hn := h (n + 1) (Nat.succ_le_succ hn)
      rwa [List.take_succ_cons, List.append_cons] at hn
    have hone := hnext 0 (Nat.zero_le _)
    rw [List.take_zero, List.append_nil] at hnow hone
    have hstep := ((hsingle d List.mem_cons_self).keeps_served before k).precedes_iff
      (nodup_order before k) (nodup_order _ k) ⟨hnow.1, hone.1⟩ ⟨hnow.2, hone.2⟩
    have hrest := ih (fun d' hd' => hsingle d' (List.mem_cons_of_mem _ hd')) hnext
    rw [List.append_cons before d stretch]
    exact hstep.trans hrest

end Served

namespace Proxy.TlsPolicy

variable {p : TlsPolicy} {s : Snapshot} {k : Key} {x y : String × UInt16} {l m : ServerLine}

/-- The lines that are written for a key, each with the endpoint of the server it stands for. -/
def placed (p : TlsPolicy) (s : Snapshot) (k : Key) : List ((String × UInt16) × ServerLine) :=
  (((s.get? k).getD []).filter p.Passes).map fun x => (x.endpoint, p.lineOf x)

theorem servers_of_render {b : Backend} (hb : b ∈ (p.render s).backends) :
    b.servers = (p.placed s b.key).map Prod.snd := by
  obtain ⟨f, hf, hb⟩ := List.mem_flatMap.1 hb
  obtain ⟨servers, hget, hbackend⟩ := backend_of_render hf hb
  rw [placed, hget, Option.getD_some, List.map_map, hbackend, servers_backend]
  rfl

theorem placed_sublist_order (p : TlsPolicy) (s : Snapshot) (k : Key) :
    ((p.placed s k).map Prod.fst).Sublist (s.order k) := by
  rw [placed, List.map_map]
  exact List.filter_sublist.map _

/-- Lines stand as their servers do. -/
theorem precedes_placed_iff (hs : (s.order k).Nodup) (hl : (x, l) ∈ p.placed s k)
    (hm : (y, m) ∈ p.placed s k) :
    Precedes (p.placed s k) (x, l) (y, m) ↔ Precedes (s.order k) x y := by
  have hsub := p.placed_sublist_order s k
  rw [← precedes_map_iff (f := Prod.fst) (hs.sublist hsub) hl hm,
    precedes_iff_of_sublist hsub hs (List.mem_map_of_mem hl) (List.mem_map_of_mem hm)]

end Proxy.TlsPolicy

/-- An operation leaves the servers of a key as they stood and adds others behind them. So two
servers that are there throughout a stretch of operations keep their order, and their lines keep
it too. -/
theorem served_in_order (before stretch : List Deed) (hsingle : ∀ d ∈ stretch, d.Single)
    (k : Key) :
    (∀ n, Keeps ((served (before ++ stretch.take n)).order k)
      ((served (before ++ stretch.take (n + 1))).order k)) ∧
    (∀ p : TlsPolicy, ∀ b ∈ (p.render (served (before ++ stretch))).backends, b.key = k →
      b.servers = (p.placed (served (before ++ stretch)) k).map Prod.snd) ∧
    ∀ x y, (∀ n ≤ stretch.length, x ∈ (served (before ++ stretch.take n)).order k ∧
        y ∈ (served (before ++ stretch.take n)).order k) →
      (Precedes ((served before).order k) x y ↔
        Precedes ((served (before ++ stretch)).order k) x y) ∧
      ∀ (p : TlsPolicy) (l m l' m' : ServerLine),
        (x, l) ∈ p.placed (served before) k → (y, m) ∈ p.placed (served before) k →
        (x, l') ∈ p.placed (served (before ++ stretch)) k →
        (y, m') ∈ p.placed (served (before ++ stretch)) k →
        (Precedes (p.placed (served before) k) (x, l) (y, m) ↔
          Precedes (p.placed (served (before ++ stretch)) k) (x, l') (y, m')) := by
  refine ⟨keeps_take before hsingle k, ?_, fun x y hthere => ⟨?_, ?_⟩⟩
  · rintro p b hb rfl
    exact TlsPolicy.servers_of_render hb
  · exact precedes_served_iff hsingle hthere
  · intro p l m l' m' hl hm hl' hm'
    rw [TlsPolicy.precedes_placed_iff (nodup_order before k) hl hm,
      TlsPolicy.precedes_placed_iff (nodup_order _ k) hl' hm']
    exact precedes_served_iff hsingle hthere

/-- A listing turns the order around and brings in another server, and a third one goes. -/
theorem served_in_order_despite_listing :
    ∃ before stretch : List Deed, (∀ d ∈ stretch, d.Single) ∧
      (served before).order ⟨80, ""⟩ =
        [("10.0.0.1", 8080), ("10.0.0.2", 8080), ("10.0.0.3", 8080)] ∧
      (served (before ++ stretch)).order ⟨80, ""⟩ =
        [("10.0.0.1", 8080), ("10.0.0.3", 8080), ("10.0.0.4", 8080), ("10.0.0.2", 8080)] ∧
      Precedes ((TlsPolicy.mk true "/ca.pem" none).placed (served (before ++ stretch)) ⟨80, ""⟩)
        (("10.0.0.1", 8080), ⟨"10.0.0.1", 8443, some ⟨"i-1", "/ca.pem", none⟩⟩)
        (("10.0.0.3", 8080), ⟨"10.0.0.3", 8080, none⟩) := by
  let mapping (address : String) (index : UInt32) : Mapping := .bare 80 address 8080 ⟨"a", index⟩
  let before : List Deed := ["10.0.0.1", "10.0.0.2", "10.0.0.3"].map fun address =>
    .event ⟨.upsert, mapping address 1⟩ 0
  let stretch : List Deed := [
    .listing (.ok [mapping "10.0.0.4" 1, mapping "10.0.0.3" 1, mapping "10.0.0.2" 1,
      { mapping "10.0.0.1" 2 with tlsPort := some 8443, instanceName := some "i-1" }]) 1,
    .event ⟨.delete, mapping "10.0.0.2" 1⟩ 2, .prune 3,
    .event ⟨.upsert, mapping "10.0.0.2" 3⟩ 4]
  have hsingle : ∀ d ∈ stretch, d.Single := by decide
  obtain ⟨-, -, hall⟩ := served_in_order before stretch hsingle ⟨80, ""⟩
  obtain ⟨-, hlines⟩ := hall ("10.0.0.1", 8080) ("10.0.0.3", 8080) (by decide +kernel)
  refine ⟨before, stretch, hsingle, by decide +kernel, by decide +kernel, ?_⟩
  exact (hlines ⟨true, "/ca.pem", none⟩ ⟨"10.0.0.1", 8080, none⟩ ⟨"10.0.0.3", 8080, none⟩ _ _
    (by decide +kernel) (by decide +kernel) (by decide +kernel) (by decide +kernel)).1
    (by decide +kernel)

end RouteSync
