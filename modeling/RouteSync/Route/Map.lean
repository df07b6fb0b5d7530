import RouteSync.Route.Key

/-! Finite maps from route keys, kept in the order of their keys. -/
namespace RouteSync

/-- Two maps with the same values under the same keys are equal. -/
structure RouteMap (α : Type) where
  entries : List (Key × α)
  ascending : entries.Pairwise fun a b => a.1 < b.1

namespace RouteMap

variable {α β : Type}

def empty : RouteMap α := ⟨[], .nil⟩

instance : Inhabited (RouteMap α) := ⟨empty⟩

instance [DecidableEq α] : DecidableEq (RouteMap α) := fun a b =>
  if h : a.entries = b.entries then isTrue (by cases a; cases b; simp_all)
  else isFalse fun e => h (e ▸ rfl)

def size (m : RouteMap α) : Nat := m.entries.length

def isEmpty (m : RouteMap α) : Bool := m.entries.isEmpty

def get? (m : RouteMap α) (k : Key) : Option α := (m.entries.find? (·.1 = k)).map (·.2)

/-- Puts an entry in its place, for one of the same key. -/
def place (k : Key) (a : α) : List (Key × α) → List (Key × α)
  | [] => [(k, a)]
  | e :: es =>
    if k < e.1 then (k, a) :: e :: es
    else if k = e.1 then (k, a) :: es
    else e :: place k a es

theorem mem_place {k : Key} {a : α} {es : List (Key × α)} {x : Key × α} (h : x ∈ place k a es) :
    x = (k, a) ∨ x ∈ es := by
  induction es with
  | nil => simpa [place] using h
  | cons e es ih =>
    simp only [place] at h
    split at h
    · simpa using h
    · split at h
      · rcases List.mem_cons.1 h with h | h
        · exact .inl h
        · exact .inr (List.mem_cons_of_mem _ h)
      · rcases List.mem_cons.1 h with h | h
        · exact .inr (h ▸ List.mem_cons_self)
        · exact (ih h).imp id (List.mem_cons_of_mem _)

theorem pairwise_place {k : Key} {a : α} {es : List (Key × α)}
    (h : es.Pairwise fun a b => a.1 < b.1) : (place k a es).Pairwise fun a b => a.1 < b.1 := by
  induction es with
  | nil => simp [place]
  | cons e es ih =>
    obtain ⟨he, hes⟩ := List.pairwise_cons.1 h
    simp only [place]
    split
    · rename_i hk
      refine List.pairwise_cons.2 ⟨fun x hx => ?_, h⟩
      rcases List.mem_cons.1 hx with rfl | hx
      · exact hk
      · exact Key.lt_trans hk (he x hx)
    · split
      · rename_i hk
        exact List.pairwise_cons.2 ⟨fun x hx => hk ▸ he x hx, hes⟩
      · rename_i hk hne
        refine List.pairwise_cons.2 ⟨fun x hx => ?_, ih hes⟩
        rcases mem_place hx with rfl | hx
        · exact ((Key.lt_trichotomy e.1 k).resolve_right fun h => h.elim (hne ·.symm) hk)
        · exact he x hx

def insert (m : RouteMap α) (k : Key) (a : α) : RouteMap α :=
  ⟨place k a m.entries, pairwise_place m.ascending⟩

def erase (m : RouteMap α) (k : Key) : RouteMap α :=
  ⟨m.entries.filter (·.1 ≠ k), m.ascending.filter _⟩

/-- The entry that `f` makes of each one, where it makes one. -/
def keep (f : Key → α → Option β) (e : Key × α) : Option (Key × β) :=
  (f e.1 e.2).map fun b => (e.1, b)

def filterMap (f : Key → α → Option β) (m : RouteMap α) : RouteMap β :=
  ⟨m.entries.filterMap (keep f), m.ascending.filterMap _ fun a b h a' ha b' hb => by
    obtain ⟨_, _, rfl⟩ := Option.map_eq_some_iff.1 ha
    obtain ⟨_, _, rfl⟩ := Option.map_eq_some_iff.1 hb
    exact h⟩

def map (f : α → β) (m : RouteMap α) : RouteMap β :=
  ⟨m.entries.map fun e => (e.1, f e.2), m.ascending.map _ fun _ _ h => h⟩

/-- Later entries replace earlier ones of the same key. -/
def ofList (es : List (Key × α)) : RouteMap α := es.foldl (fun m e => m.insert e.1 e.2) empty

end RouteMap
end RouteSync
