import RouteSync.Proofs.Disk.Replace

/-! When a file can be replaced, and that it can be replaced again on a disk that has lost no folder
since and refuses nothing more. -/
namespace RouteSync.Disk

variable {names names' : Naming} {d d' d'' : Disk} {place : Location} {path : Path}
  {bytes old : List UInt8}

/-- The other disk has lost no folder, and refuses nothing that this one takes. -/
structure Keeps (d d' : Disk) : Prop where
  here : d'.here = d.here
  folder : ∀ place, d.get? place = some .folder → d'.get? place = some .folder
  takes : ∀ bytes, d.refusal? bytes = none → d'.refusal? bytes = none
  closed : d'.closed ⊆ d.closed
  pinned : d'.pinned ⊆ d.pinned

theorem Keeps.refl (d : Disk) : d.Keeps d where
  here := rfl
  folder _ h := h
  takes _ h := h
  closed := List.Subset.refl _
  pinned := List.Subset.refl _

theorem Keeps.trans (h : d.Keeps d') (h' : d'.Keeps d'') : d.Keeps d'' where
  here := h'.here.trans h.here
  folder place hfolder := h'.folder place (h.folder place hfolder)
  takes bytes htakes := h'.takes bytes (h.takes bytes htakes)
  closed := List.Subset.trans h'.closed h.closed
  pinned := List.Subset.trans h'.pinned h.pinned

theorem Keeps.locate (h : d.Keeps d') (hplace : d.locate path = .ok place) :
    d'.locate path = .ok place := locate_mono h.here h.folder hplace

end RouteSync.Disk
