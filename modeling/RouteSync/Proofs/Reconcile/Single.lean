import RouteSync.Proofs.Reconcile.Moves

/-! Deeds taken apart into operations, of which every table is made one at a time. -/
namespace RouteSync

namespace Deed

/-- One operation, as opposed to several replacements that a request asks for at once. -/
def Single : Deed → Prop
  | .replace routes _ => routes.length ≤ 1
  | .event _ _ | .listing _ _ | .prune _ | .note _ => True

instance : DecidablePred Single
  | .replace routes _ => inferInstanceAs (Decidable (routes.length ≤ 1))
  | .event _ _ | .listing _ _ | .prune _ | .note _ => .isTrue trivial

/-- The operations that a deed consists of. Replacements end with the first that is refused. -/
def parts : Deed → List Deed
  | .replace routes now => (routes.takeWhile (·.1.valid)).map fun r => .replace [r] now
  | d => [d]

theorem single_of_parts {d part : Deed} (h : part ∈ d.parts) : part.Single := by
  cases d with
  | replace routes now =>
    obtain ⟨r, -, rfl⟩ := List.mem_map.1 h
    exact Nat.le_refl 1
  | event | listing | prune | note =>
    rw [List.mem_singleton.1 h]
    trivial

theorem change_replace_singleton (t : Table) (route : Key × List Server) (now : Nat) :
    ((Deed.replace [route] now).change t).table = (t.setListed now route).table := by
  cases hset : t.set route.1 (Entry.ofServers route.2 now) <;>
    simp [change, Reconciler.setAll, Table.setListed, Table.unchanged, hset]

end Deed

theorem Reconciler.table_setAll (now : Nat) (c : Change) (routes : List (Key × List Server)) :
    (setAll now c routes).1.table =
      (performed c.table (Deed.replace routes now).parts).table := by
  induction routes generalizing c with
  | nil => rfl
  | cons route routes ih =>
    unfold setAll
    cases hset : c.table.set route.1 (Entry.ofServers route.2 now) with
    | ok next =>
      have hvalid := (Table.set_eq_ok_iff.1 hset).1
      have hone : ((Deed.replace [route] now).change c.table).table = next.table := by
        rw [Deed.change_replace_singleton, Table.setListed, hset]
      have hparts : (Deed.replace (route :: routes) now).parts =
          .replace [route] now :: (Deed.replace routes now).parts := by
        simp [Deed.parts, hvalid]
      rw [hparts, performed_cons, hone]
      exact ih _
    | error why =>
      have hvalid : ¬ route.1.valid := by
        intro hvalid
        rw [Table.set_eq_ok_iff.2 ⟨hvalid, rfl⟩] at hset
        cases hset
      have hparts : (Deed.replace (route :: routes) now).parts = [] := by
        simp [Deed.parts, hvalid]
      rw [hparts]
      rfl

/-- A deed comes to the same as its operations one at a time. -/
theorem performed_parts (t : Table) (d : Deed) :
    (performed t d.parts).table = (d.change t).table := by
  cases d with
  | replace routes now => exact (Reconciler.table_setAll now (t.unchanged []) routes).symm
  | event | listing | prune | note => exact congrArg Change.table (performed_singleton t _)

theorem performed_flatMap_parts (t : Table) (deeds : List Deed) :
    (performed t (deeds.flatMap Deed.parts)).table = (performed t deeds).table := by
  induction deeds generalizing t with
  | nil => rfl
  | cons d deeds ih =>
    rw [List.flatMap_cons, performed_table_append, performed_parts, ih, performed_cons]

/-- The table of a session is made by operations one at a time. -/
theorem Session.Reached.made_of_single {g : Session} {acts : List Act} (h : Reached g acts) :
    ∃ deeds, (∀ d ∈ deeds, d.Single) ∧
      g.reconciler.table = (performed .empty deeds).table := by
  induction h with
  | start => exact ⟨[], by simp, rfl⟩
  | @step g acts now move next _ hstep ih =>
    obtain ⟨deeds, hsingle, htable⟩ := ih
    refine ⟨deeds ++ (move.deeds g now).flatMap Deed.parts, fun d hd => ?_, ?_⟩
    · rcases List.mem_append.1 hd with hd | hd
      · exact hsingle d hd
      · obtain ⟨whole, -, hd⟩ := List.mem_flatMap.1 hd
        exact Deed.single_of_parts hd
    · rw [(effect_step hstep).table, htable, performed_table_append, performed_flatMap_parts]

end RouteSync
