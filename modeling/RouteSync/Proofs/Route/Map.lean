import RouteSync.Route.Map

/-! Maps from route keys, seen through what they hold under each key. -/
namespace RouteSync.RouteMap

variable {α β : Type}

theorem mem_place_iff {k : Key} {a : α} {es : List (Key × α)}
    (h : es.Pairwise fun a b => a.1 < b.1) {x : Key × α} :
    x ∈ place k a es ↔ x = (k, a) ∨ (x.1 ≠ k ∧ x ∈ es) := by
  induction es with
  | nil => simp [place]
  | cons e es ih =>
    obtain ⟨he, hes⟩ := List.pairwise_cons.1 h
    simp only [place]
    split
    · rename_i hk
      have hne : ∀ y ∈ e :: es, y.1 ≠ k := by
        intro y hy hyk
        rcases List.mem_cons.1 hy with rfl | hy
        · exact Key.lt_irrefl k (hyk ▸ hk)
        · exact Key.lt_irrefl k (Key.lt_trans hk (hyk ▸ he y hy))
      constructor
      · intro hx
        rcases List.mem_cons.1 hx with rfl | hx
        · exact .inl rfl
        · exact .inr ⟨hne x hx, hx⟩
      · rintro (rfl | ⟨-, hx⟩)
        · exact List.mem_cons_self
        · exact List.mem_cons_of_mem _ hx
    · split
      · rename_i hk
        have hne : ∀ y ∈ es, y.1 ≠ k := by
          intro y hy hyk
          have hlt := he y hy
          rw [hyk, ← hk] at hlt
          exact Key.lt_irrefl k hlt
        constructor
        · intro hx
          rcases List.mem_cons.1 hx with rfl | hx
          · exact .inl rfl
          · exact .inr ⟨hne x hx, List.mem_cons_of_mem _ hx⟩
        · rintro (rfl | ⟨hxk, hx⟩)
          · exact List.mem_cons_self
          · rcases List.mem_cons.1 hx with rfl | hx
            · exact absurd hk.symm hxk
            · exact List.mem_cons_of_mem _ hx
      · rename_i hne
        rw [List.mem_cons, ih hes, List.mem_cons]
        constructor
        · rintro (rfl | hx | ⟨hxk, hx⟩)
          · exact .inr ⟨fun hxk => hne hxk.symm, .inl rfl⟩
          · exact .inl hx
          · exact .inr ⟨hxk, .inr hx⟩
        · rintro (hx | ⟨hxk, hx | hx⟩)
          · exact .inr (.inl hx)
          · exact .inl hx
          · exact .inr (.inr ⟨hxk, hx⟩)

theorem get?_eq_some_iff {m : RouteMap α} {k : Key} {a : α} :
    m.get? k = some a ↔ (k, a) ∈ m.entries := by
  obtain ⟨es, h⟩ := m
  simp only [get?, Option.map_eq_some_iff]
  constructor
  · rintro ⟨e, he, rfl⟩
    have hk : e.1 = k := by simpa using List.find?_some he
    have : e = (k, e.2) := by rw [← hk]
    exact this ▸ List.mem_of_find?_eq_some he
  · intro hmem
    induction es with
    | nil => simp at hmem
    | cons e es ih =>
      obtain ⟨he, hes⟩ := List.pairwise_cons.1 h
      rcases List.mem_cons.1 hmem with rfl | hmem
      · exact ⟨(k, a), by simp, rfl⟩
      · have hne : e.1 ≠ k := by
          intro hk
          have hlt := he _ hmem
          rw [hk] at hlt
          exact Key.lt_irrefl k hlt
        rw [List.find?_cons_of_neg (by simpa using hne)]
        exact ih hes hmem

@[simp] theorem get?_empty (k : Key) : (empty : RouteMap α).get? k = none := rfl

theorem get?_insert (m : RouteMap α) (k k' : Key) (a : α) :
    (m.insert k a).get? k' = if k' = k then some a else m.get? k' := by
  ext x
  rw [get?_eq_some_iff, insert, mem_place_iff m.ascending]
  split
  · rename_i hk
    simp [hk, eq_comm]
  · rename_i hk
    simp [hk, get?_eq_some_iff]

theorem get?_erase (m : RouteMap α) (k k' : Key) :
    (m.erase k).get? k' = if k' = k then none else m.get? k' := by
  ext x
  rw [get?_eq_some_iff, erase, List.mem_filter]
  split
  · rename_i hk
    simp [hk]
  · rename_i hk
    simp [hk, get?_eq_some_iff]

theorem get?_filterMap (f : Key → α → Option β) (m : RouteMap α) (k : Key) :
    (m.filterMap f).get? k = (m.get? k).bind (f k) := by
  ext x
  rw [get?_eq_some_iff, filterMap, List.mem_filterMap, Option.bind_eq_some_iff]
  constructor
  · rintro ⟨⟨k', a⟩, he, hf⟩
    obtain ⟨b, hb, hx⟩ := Option.map_eq_some_iff.1 hf
    obtain ⟨rfl, rfl⟩ := Prod.mk.inj hx
    exact ⟨a, get?_eq_some_iff.2 he, hb⟩
  · rintro ⟨a, ha, hx⟩
    exact ⟨(k, a), get?_eq_some_iff.1 ha, by simp [keep, hx]⟩

theorem get?_map (f : α → β) (m : RouteMap α) (k : Key) :
    (m.map f).get? k = (m.get? k).map f := by
  ext x
  rw [get?_eq_some_iff, map, List.mem_map, Option.map_eq_some_iff]
  constructor
  · rintro ⟨⟨k', a⟩, he, hx⟩
    obtain ⟨rfl, rfl⟩ := Prod.mk.inj hx
    exact ⟨a, get?_eq_some_iff.2 he, rfl⟩
  · rintro ⟨a, ha, rfl⟩
    exact ⟨(k, a), get?_eq_some_iff.1 ha, rfl⟩

theorem nodup_entries (m : RouteMap α) : m.entries.Nodup := by
  refine m.ascending.imp ?_
  rintro a _ h rfl
  exact Key.lt_irrefl _ h

theorem ext_get? {m n : RouteMap α} (h : ∀ k, m.get? k = n.get? k) : m = n := by
  have hmem : ∀ x, x ∈ m.entries ↔ x ∈ n.entries := by
    rintro ⟨k, a⟩
    rw [← get?_eq_some_iff, ← get?_eq_some_iff, h k]
  have hperm := (List.perm_ext_iff_of_nodup m.nodup_entries n.nodup_entries).2 hmem
  have hentries := hperm.eq_of_pairwise
    (fun _ _ _ _ hab hba => absurd (Key.lt_trans hab hba) (Key.lt_irrefl _)) m.ascending n.ascending
  cases m
  cases n
  simpa using hentries

end RouteSync.RouteMap
