import RouteSync.Proofs.Table.Exact

/-! The operations of a table done in place, one step after another: what was done before a fault
stays done. They come to the same as the changes that are worked out first, and so every table that
they build is sound, and what they report is exact. -/
namespace RouteSync

theorem Entry.orderedLike_nil (e : Entry) : e.orderedLike [] = e := by
  simp [Entry.orderedLike, Entry.find?]

theorem Entry.upsert_ne_nil (now : Nat) (s : Server) (e : Entry) :
    (e.upsert now s).entry ≠ [] := by
  cases e with
  | nil => simp [Entry.upsert]
  | cons b bs =>
    unfold Entry.upsert
    split <;> simp [Entry.Edit.cons]

namespace Table

section Store

theorem ext_get? {t u : Table} (h : ∀ k, t.get? k = u.get? k) : t = u :=
  congrArg Table.mk (RouteMap.ext_get? h)

theorem get?_insert (t : Table) (k k' : Key) (e : Entry) :
    (⟨t.routes.insert k e⟩ : Table).get? k' = if k' = k then some e else t.get? k' :=
  RouteMap.get?_insert t.routes k k' e

theorem entry_of_get? {t : Table} {k : Key} {e : Entry} (h : t.get? k = some e) :
    t.entry k = e := by
  rw [entry, h, Option.getD_some]

theorem entry_of_get?_eq_none {t : Table} {k : Key} (h : t.get? k = none) : t.entry k = [] := by
  rw [entry, h, Option.getD_none]

theorem store_nil (t : Table) (k : Key) : t.store k [] = ⟨t.routes.erase k⟩ := rfl

theorem store_of_ne_nil (t : Table) (k : Key) {e : Entry} (he : e ≠ []) :
    t.store k e = ⟨t.routes.insert k e⟩ := by
  have hempty : e.isEmpty = false := by simpa using he
  simp [store, hempty]

theorem store_of_get?_eq_none {t : Table} {k : Key} (h : t.get? k = none) : t.store k [] = t := by
  refine ext_get? fun k' => ?_
  rw [get?_store]
  by_cases hk : k' = k <;> simp [hk, h]

/-- What stood at a key for a while leaves no trace in what is stored there afterwards. -/
theorem store_insert (t : Table) (k : Key) (e e' : Entry) :
    (⟨t.routes.insert k e⟩ : Table).store k e' = t.store k e' := by
  refine ext_get? fun k' => ?_
  rw [get?_store, get?_store, get?_insert]
  by_cases hk : k' = k <;> simp [hk]

end Store

/-- Work on a table that is changed in place. -/
abbrev Work (α : Type) := ExceptT TableError (StateM Table) α

namespace Work

/-- What some work comes to, and the table that it leaves. -/
def on {α : Type} (work : Work α) (t : Table) : Except TableError α × Table := work.run.run t

def check (k : Key) : Work Unit := if k.valid then pure () else throw ⟨k⟩

def put (k : Key) (e : Entry) : Work Unit := modify fun t => ⟨t.routes.insert k e⟩

def drop (k : Key) : Work Unit := modify fun t => ⟨t.routes.erase k⟩

def set (k : Key) (e : Entry) : Work Bool := do
  check k
  let stored := (← get).get? k
  let e := match stored with
    | some old => e.orderedLike old
    | none => e
  if e.isEmpty then
    drop k
    return stored.isSome
  else
    put k e
    return stored.map Entry.servers ≠ some e.servers

/-- A key that is not there yet gets an empty entry before its servers are looked at. -/
def upsert (k : Key) (s : Server) (now : Nat) : Work Bool := do
  check k
  if ((← get).get? k).isNone then put k []
  let edit := ((← get).entry k).upsert now s
  put k edit.entry
  return edit.changed

/-- An entry that lost its last server stands until its key is dropped. -/
def delete (k : Key) (s : Server) : Work Bool := do
  check k
  match (← get).get? k with
  | none => return false
  | some e =>
    let edit := e.delete s
    put k edit.entry
    if edit.entry.isEmpty then drop k
    return edit.changed

def prune (now : Nat) : Work Bool :=
  modifyGet fun t => ((t.prune now).changed, (t.prune now).table)

section On

variable {α β : Type}

theorem on_bind (work : Work α) (next : α → Work β) (t : Table) :
    (work >>= next).on t = match work.on t with
      | (.ok a, u) => (next a).on u
      | (.error why, u) => (.error why, u) := by
  have hbind : (work >>= next).on t = ExceptT.bindCont next (work t).1 (work t).2 := rfl
  have hon : work.on t = work t := rfl
  rw [hbind, hon]
  cases work t with
  | mk answer u => cases answer <;> rfl

@[simp] theorem on_pure (a : α) (t : Table) : (pure a : Work α).on t = (.ok a, t) := rfl

@[simp] theorem on_get (t : Table) : (get : Work Table).on t = (.ok t, t) := rfl

@[simp] theorem on_put (k : Key) (e : Entry) (t : Table) :
    (put k e).on t = (.ok (), ⟨t.routes.insert k e⟩) := rfl

@[simp] theorem on_drop (k : Key) (t : Table) : (drop k).on t = (.ok (), ⟨t.routes.erase k⟩) := rfl

@[simp] theorem on_check (k : Key) (t : Table) :
    (check k).on t = (if k.valid then .ok () else .error ⟨k⟩, t) := by
  unfold check
  split <;> rfl

theorem on_check_bind {k : Key} (hk : k.valid = false) (next : Unit → Work α) (t : Table) :
    (check k >>= next).on t = (.error ⟨k⟩, t) := by
  simp only [on_bind, on_check, hk, Bool.false_eq_true, if_false]

end On

end Work

/-- A change that may be refused, as what it reports and the table that there is then. -/
def settle (t : Table) : Except TableError Change → Except TableError Bool × Table
  | .ok c => (.ok c.changed, c.table)
  | .error why => (.error why, t)

namespace Work

variable {t : Table} {k : Key}

theorem on_upsert (t : Table) (k : Key) (s : Server) (now : Nat) :
    (Work.upsert k s now).on t = t.settle (t.upsert k s now) := by
  unfold Table.upsert checked
  cases hk : k.valid with
  | false => exact on_check_bind hk _ t
  | true =>
    have hne : ((t.entry k).upsert now s).entry ≠ [] := Entry.upsert_ne_nil now s _
    simp only [Work.upsert, on_bind, on_check, hk, if_true, on_get]
    cases ht : t.get? k with
    | none =>
      have hentry : (⟨t.routes.insert k []⟩ : Table).entry k = t.entry k := by
        rw [entry_of_get?_eq_none ht, entry_of_get? (by rw [get?_insert, if_pos rfl])]
      simp only [Option.isNone_none, if_true, on_bind, on_put, on_get, on_pure, hentry]
      rw [← store_of_ne_nil _ k hne, store_insert]
      rfl
    | some e =>
      simp only [Option.isNone_some, Bool.false_eq_true, if_false, on_bind, on_put, on_get, on_pure]
      rw [← store_of_ne_nil _ k hne]
      rfl

theorem on_delete (t : Table) (k : Key) (s : Server) :
    (Work.delete k s).on t = t.settle (t.delete k s) := by
  unfold Table.delete checked
  cases hk : k.valid with
  | false => exact on_check_bind hk _ t
  | true =>
    simp only [Work.delete, on_bind, on_check, hk, if_true, on_get]
    cases ht : t.get? k with
    | none =>
      rw [entry_of_get?_eq_none ht]
      simp only [on_pure, settle, Entry.delete, store_of_get?_eq_none ht]
    | some e =>
      rw [entry_of_get? ht]
      simp only [on_bind, on_put]
      cases he : (e.delete s).entry with
      | nil =>
        simp only [List.isEmpty_nil, if_true, on_bind, on_drop, on_pure, settle]
        rw [← store_nil, store_insert]
      | cons b bs =>
        simp only [List.isEmpty_cons, Bool.false_eq_true, if_false, on_pure, settle]
        rw [store_of_ne_nil _ k (List.cons_ne_nil b bs)]

/-- Without empty entries, a key is there exactly if it has servers to compare with. -/
theorem on_set (h : t.Sound) (k : Key) (e : Entry) :
    (Work.set k e).on t = t.settle (t.set k e) := by
  unfold Table.set checked
  cases hk : k.valid with
  | false => exact on_check_bind hk _ t
  | true =>
    have hordered : (match t.get? k with
        | some old => e.orderedLike old
        | none => e) = e.orderedLike (t.entry k) := by
      cases ht : t.get? k with
      | none => rw [entry_of_get?_eq_none ht, Entry.orderedLike_nil]
      | some old => rw [entry_of_get? ht]
    simp only [Work.set, on_bind, on_check, hk, if_true, on_get, hordered]
    cases he : e.orderedLike (t.entry k) with
    | nil =>
      have hgone : (t.get? k).isSome = decide (Entry.servers [] ≠ (t.entry k).servers) := by
        rw [h.get?_eq]
        cases hentry : t.entry k <;> simp [Entry.servers]
      simp only [List.isEmpty_nil, if_true, on_bind, on_drop, on_pure, settle, hgone, store_nil]
    | cons b bs =>
      have hother : decide ((t.get? k).map Entry.servers ≠ some (Entry.servers (b :: bs))) =
          decide (Entry.servers (b :: bs) ≠ (t.entry k).servers) := by
        rw [h.get?_eq]
        cases hentry : t.entry k with
        | nil => simp [Entry.servers]
        | cons c cs =>
          rw [if_neg (List.cons_ne_nil c cs), Option.map_some, decide_eq_decide, ne_eq,
            Option.some.injEq]
          exact ne_comm
      simp only [List.isEmpty_cons, Bool.false_eq_true, if_false, on_bind, on_put, on_pure, settle,
        hother]
      rw [store_of_ne_nil _ k (List.cons_ne_nil b bs)]

end Work

/-- One operation. -/
inductive Op where
  /-- The entry is made of servers as they are given, and empty if there are none. -/
  | set (k : Key) (servers : List Server) (now : Nat)
  /-- The entry was there before, as a copy of one that a table held. -/
  | restore (k : Key) (e : Entry) (h : e.Distinct)
  | upsert (k : Key) (s : Server) (now : Nat)
  | delete (k : Key) (s : Server)
  | prune (now : Nat)

namespace Op

def key? : Op → Option Key
  | .set k _ _ | .restore k _ _ | .upsert k _ _ | .delete k _ => some k
  | .prune _ => none

/-- The operation done in place: what it reports, and the table that it leaves. -/
def run (op : Op) (t : Table) : Except TableError Bool × Table :=
  match op with
  | .set k servers now => (Work.set k (Entry.ofServers servers now)).on t
  | .restore k e _ => (Work.set k e).on t
  | .upsert k s now => (Work.upsert k s now).on t
  | .delete k s => (Work.delete k s).on t
  | .prune now => (Work.prune now).on t

/-- The change that the operation makes, unless it is refused. -/
def change (op : Op) (t : Table) : Except TableError Change :=
  match op with
  | .set k servers now => t.set k (Entry.ofServers servers now)
  | .restore k e _ => t.set k e
  | .upsert k s now => t.upsert k s now
  | .delete k s => t.delete k s
  | .prune now => .ok (t.prune now)

end Op

variable {t : Table} {c : Change}

theorem Sound.run_eq (h : t.Sound) (op : Op) : op.run t = t.settle (op.change t) := by
  cases op with
  | set k servers now => exact Work.on_set h k _
  | restore k e _ => exact Work.on_set h k e
  | upsert k s now => exact Work.on_upsert t k s now
  | delete k s => exact Work.on_delete t k s
  | prune now => rfl

theorem Sound.change (h : t.Sound) {op : Op} (hc : op.change t = .ok c) :
    c.table.Sound ∧ t.Exact c := by
  cases op with
  | set k servers now =>
    have hd := Entry.distinct_ofServers servers now
    exact ⟨h.set hd hc, h.exact_set hd hc⟩
  | restore k e hd => exact ⟨h.set hd hc, h.exact_set hd hc⟩
  | upsert k s now => exact ⟨h.upsert hc, h.exact_upsert hc⟩
  | delete k s => exact ⟨h.delete hc, h.exact_delete hc⟩
  | prune now =>
    obtain rfl := Except.ok.inj hc
    exact ⟨h.prune now, h.exact_prune now⟩

/-- The key is all that an operation may be refused for. -/
theorem change_error (op : Op) (t : Table) :
    (∃ c, op.change t = .ok c ∧ op.key?.all Key.valid = true) ∨
      ∃ k, op.change t = .error ⟨k⟩ ∧ op.key? = some k ∧ k.valid = false := by
  have hchecked : ∀ (k : Key) (c : Change), (∃ c', checked k c = .ok c' ∧ k.valid = true) ∨
      ∃ k', checked k c = .error ⟨k'⟩ ∧ some k = some k' ∧ k'.valid = false := by
    intro k c
    unfold checked
    cases hk : k.valid with
    | true => exact .inl ⟨c, rfl, rfl⟩
    | false => exact .inr ⟨k, rfl, rfl, hk⟩
  cases op with
  | set k servers now => exact hchecked k _
  | restore k e _ => exact hchecked k _
  | upsert k s now => exact hchecked k _
  | delete k s => exact hchecked k _
  | prune now => exact .inl ⟨_, rfl, rfl⟩

/-- The table after some operations, of which those that are refused have done what they did. -/
def built (ops : List Op) : Table := ops.foldl (fun t op => (op.run t).2) .empty

theorem Sound.run (h : t.Sound) (op : Op) : (op.run t).2.Sound := by
  rw [h.run_eq]
  cases hc : op.change t with
  | ok c => exact (h.change hc).1
  | error why => exact h

/-- Whatever is done to a table, its keys have ports and servers, and no two servers of a key have
the same endpoint. -/
theorem sound_built (ops : List Op) : (built ops).Sound := by
  suffices h : ∀ t : Table, t.Sound → (ops.foldl (fun t op => (op.run t).2) t).Sound from
    h .empty sound_empty
  induction ops with
  | nil => exact fun _ h => h
  | cons op ops ih => exact fun t h => ih _ (h.run op)

/-- An operation reports a change exactly if what is served is not what it was. It is refused
exactly for a key without a port, and then it has not touched the table. -/
theorem run_built_exact (ops : List Op) (op : Op) :
    op.run (built ops) = (built ops).settle (op.change (built ops)) ∧
      match op.run (built ops) with
      | (.ok changed, after) =>
        op.key?.all (·.port ≠ 0) = true ∧
          (changed = true ↔ after.snapshot ≠ (built ops).snapshot)
      | (.error why, after) =>
        op.key? = some why.key ∧ why.key.port = 0 ∧ after = built ops := by
  have h := sound_built ops
  refine ⟨h.run_eq op, ?_⟩
  rw [h.run_eq op]
  obtain ⟨c, hc, hkey⟩ | ⟨k, hc, hkey, hport⟩ := change_error op (built ops)
  · rw [hc]
    exact ⟨hkey, (h.change hc).2⟩
  · rw [hc]
    exact ⟨hkey, by simpa [Key.valid] using hport, rfl⟩

end Table
end RouteSync
