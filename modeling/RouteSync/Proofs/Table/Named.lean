import RouteSync.Proofs.Table.Confirmed

/-! Where the servers of a table come from. An operation leaves servers that were there before it
and servers that it names, and no others. -/
namespace RouteSync
namespace Entry

variable {now : Nat} {s s' : Server} {e : Entry}

theorem mem_servers_of_upsert (h : s ∈ (upsert now s' e).entry.servers) :
    s ∈ e.servers ∨ s = s' := by
  induction e with
  | nil => exact .inr (List.mem_singleton.1 h)
  | cons b bs ih =>
    simp only [upsert] at h
    split at h
    · rcases List.mem_cons.1 h with hs | hs
      · have hnewest : s = s'.newest (some b.server) := hs.trans (server_replace now s' b)
        rcases s'.newest_eq (some b.server) with hnew | hkept
        · exact .inr (hnewest.trans hnew)
        · exact .inl (List.mem_cons.2 (.inl (hnewest.trans (Option.some.inj hkept).symm)))
      · exact .inl (List.mem_cons_of_mem _ hs)
    · rcases List.mem_cons.1 h with hs | hs
      · exact .inl (List.mem_cons.2 (.inl hs))
      · exact (ih hs).imp_left (List.mem_cons_of_mem _)

theorem mem_servers_of_delete (h : s ∈ (delete s' e).entry.servers) : s ∈ e.servers := by
  obtain ⟨b, hb, rfl⟩ := List.mem_map.1 h
  exact List.mem_map_of_mem (mem_of_delete hb)

theorem mem_servers_of_edit {a : Action} (h : s ∈ (a.edit s' now e).entry.servers) :
    s ∈ e.servers ∨ s = s' := by
  cases a with
  | upsert => exact mem_servers_of_upsert h
  | delete => exact .inl (mem_servers_of_delete h)

theorem mem_of_ofServers {ss : List Server} (h : s ∈ (ofServers ss now).servers) : s ∈ ss := by
  rw [(distinct_ofServers ss now).mem_servers_iff, server?_ofServers] at h
  rcases Server.mem_of_latest h with ⟨hs, -⟩ | hnone
  · exact hs
  · cases hnone

theorem mem_of_orderedLike_ofServers {ss : List Server}
    (h : s ∈ ((ofServers ss now).orderedLike e).servers) : s ∈ ss := by
  obtain ⟨b, hb, rfl⟩ := List.mem_map.1 h
  rw [mem_orderedLike (distinct_ofServers ss now)] at hb
  exact mem_of_ofServers (List.mem_map_of_mem hb)

end Entry

namespace Table

variable {t : Table} {now : Nat} {k : Key} {s : Server}

theorem mem_servers_of_apply {e : Event} (h : s ∈ ((t.apply e now).table.entry k).servers) :
    s ∈ (t.entry k).servers ∨ e.mapping.route = .ok (k, s) := by
  rcases t.entry_apply e now k with heq | ⟨s', hr, heq⟩ <;> rw [heq] at h
  · exact .inl h
  · exact (Entry.mem_servers_of_edit h).imp_right fun hs => by rw [hr, hs]

theorem mem_servers_of_merge {ms : List Mapping}
    (h : s ∈ ((t.merge ms now).table.entry k).servers) :
    s ∈ (t.entry k).servers ∨ ∃ m ∈ ms, m.route = .ok (k, s) := by
  rw [entry_merge] at h
  split at h
  · exact .inl h
  · obtain ⟨m, hm, hs⟩ := List.mem_filterMap.1 (Entry.mem_of_orderedLike_ofServers h)
    exact .inr ⟨m, hm, Mapping.serverFor_eq_some_iff.1 hs⟩

theorem mem_servers_of_set {k' : Key} {ss : List Server} {c : Change}
    (hc : t.set k' (Entry.ofServers ss now) = .ok c) (h : s ∈ (c.table.entry k).servers) :
    s ∈ (t.entry k).servers ∨ (k' = k ∧ s ∈ ss) := by
  obtain ⟨-, rfl⟩ := set_eq_ok_iff.1 hc
  rw [entry_store] at h
  split at h
  · rename_i hk
    exact .inr ⟨hk.symm, Entry.mem_of_orderedLike_ofServers h⟩
  · exact .inl h

theorem mem_servers_of_prune (h : s ∈ ((t.prune now).table.entry k).servers) :
    s ∈ (t.entry k).servers := by
  obtain ⟨b, hb, rfl⟩ := List.mem_map.1 h
  exact List.mem_map_of_mem (mem_of_prune hb)

end Table
end RouteSync
