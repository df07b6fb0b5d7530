import RouteSync.Disk.Basic
import RouteSync.Proofs.Disk.Path

/-! Where paths lead to, and what of a disk that depends on. -/
namespace RouteSync.Disk

variable {d d' : Disk} {place : Location} {path : Path}

/-- Where the way along a path starts. -/
def root (d : Disk) (path : Path) : Location :=
  if path.toList.head? = some '/' then [] else d.here

theorem root_eq {first : String} {rest : List String} (h : path.parts = first :: rest) :
    d.root path = if first = "" ∧ rest ≠ [] then [] else d.here := by
  have htop : path.toList.head? = some '/' ↔ first = "" ∧ rest ≠ [] := by
    rw [Path.head?_eq_slash_iff, h]
    cases rest <;> simp
  simp only [root, htop]

theorem locate_eq_ok_iff :
    d.locate path = .ok place ↔ path.toList.contains '\x00' = false ∧ path.isEmpty = false ∧
      path.utf8ByteSize ≤ maxPath ∧ d.walk (d.root path) path.parts = .ok place := by
  have hroot : (if path.toList.head? = some '/' then d.walk [] path.parts
      else d.walk d.here path.parts) = d.walk (d.root path) path.parts := by
    unfold root
    split <;> rfl
  unfold locate
  rw [hroot]
  cases path.toList.contains '\x00' with
  | true => simp
  | false =>
    cases path.isEmpty with
    | true => simp
    | false =>
      by_cases hlong : maxPath < path.utf8ByteSize
      · simp [hlong, Nat.not_le.2 hlong]
      · simp [hlong, Nat.le_of_not_lt hlong]

theorem walk_append (ps qs : List String) :
    d.walk place (ps ++ qs) = d.walk place ps >>= fun inner => d.walk inner qs := by
  induction ps generalizing place with
  | nil => rfl
  | cons part ps ih =>
    simp only [List.cons_append, walk]
    split
    · rfl
    · rfl
    · split
      · exact ih
      split
      · exact ih
      split
      · rfl
      · exact ih

theorem walk_idle (h : d.get? place = some .folder) {idle : List String}
    (hall : ∀ part ∈ idle, Path.isIdle part = true) : d.walk place idle = .ok place := by
  induction idle with
  | nil => rfl
  | cons part idle ih =>
    rw [walk, h]
    simp only [hall part List.mem_cons_self, if_true]
    exact ih fun part hpart => hall part (List.mem_cons_of_mem _ hpart)

theorem walk_name (h : d.get? place = some .folder) {name : String}
    (hidle : Path.isIdle name = false) (hup : name ≠ "..") (hsize : name.utf8ByteSize ≤ maxName) :
    d.walk place [name] = .ok (place ++ [name]) := by
  simp [walk, h, hidle, hup, Nat.not_lt.2 hsize]

/-- The way to a file leads through its folder. -/
theorem locate_of_folder {name : String} (hname : path.name? = some name)
    (hnull : path.toList.contains '\x00' = false) (hlong : path.utf8ByteSize ≤ maxPath)
    (hsize : name.utf8ByteSize ≤ maxName) (hplace : d.locate path.folder = .ok place)
    (hfolder : d.get? place = some .folder) : d.locate path = .ok (place ++ [name]) := by
  obtain ⟨-, hidle, hup⟩ := Path.name?_eq_some_iff.1 hname
  have hlast := walk_name hfolder hidle hup hsize
  obtain ⟨-, -, -, hwalk⟩ := locate_eq_ok_iff.1 hplace
  have hempty : path.isEmpty = false := by
    rw [← Bool.not_eq_true, String.isEmpty_iff]
    rintro rfl
    obtain ⟨⟨init, hparts⟩, -, -⟩ := Path.name?_eq_some_iff.1 hname
    have hone : init = [] ∧ name = "" := by
      simpa [Path.parts, Text.splitOn, List.singleton_eq_append_iff] using hparts
    rw [hone.2] at hidle
    cases hidle
  refine locate_eq_ok_iff.2 ⟨hnull, hempty, hlong, ?_⟩
  rcases Path.folder_cases hname with ⟨hparts, hdot⟩ | ⟨idle, hparts, htop, hall⟩ |
      ⟨first, kept, idle, hparts, hkept, hfirst, hall⟩
  · have hdotparts : Path.parts "." = ["."] := by decide
    rw [hdot, root_eq hdotparts, hdotparts, walk] at hwalk
    split at hwalk
    · cases hwalk
    · cases hwalk
    · obtain rfl : d.here = place := by simpa [Path.isIdle, walk] using hwalk
      rw [root_eq hparts, if_neg (fun h => h.2 rfl), hparts]
      exact hlast
  · have htopparts : Path.parts "/" = ["", ""] := by decide
    have htopwalk : d.walk [] ["", ""] = .ok [] := walk_idle rfl (by simp [Path.isIdle])
    rw [htop, root_eq htopparts, htopparts] at hwalk
    obtain rfl : [] = place := Except.ok.inj (htopwalk.symm.trans hwalk)
    have hdown : d.walk [] ("" :: idle) = .ok [] := walk_idle rfl (by simpa [Path.isIdle] using hall)
    rw [root_eq hparts, if_pos ⟨rfl, by simp⟩, hparts, walk_append, hdown]
    exact hlast
  · have hwhole : path.parts = first :: (kept ++ idle ++ [name]) := by simpa using hparts
    have hroot : d.root path = d.root path.folder := by
      rw [root_eq hwhole, root_eq hkept]
      by_cases h : first = "" <;> simp [h, hfirst]
    have hdown : d.walk place (idle ++ [name]) = .ok (place ++ [name]) := by
      rw [walk_append, walk_idle hfolder hall]
      exact hlast
    rw [hroot, hparts, List.append_assoc, walk_append, ← hkept, hwalk]
    exact hdown

/-- The way along folders that are kept is kept. -/
theorem walk_mono (h : ∀ place, d.get? place = some .folder → d'.get? place = some .folder)
    {parts : List String} {inner : Location} (hw : d.walk place parts = .ok inner) :
    d'.walk place parts = .ok inner := by
  induction parts generalizing place with
  | nil => exact hw
  | cons part parts ih =>
    rw [walk] at hw
    split at hw
    · cases hw
    · cases hw
    · rename_i hfolder
      rw [walk, h place hfolder]
      dsimp only
      split at hw
      · rename_i hidle
        rw [if_pos hidle]
        exact ih hw
      rename_i hidle
      rw [if_neg hidle]
      split at hw
      · rename_i hup
        rw [if_pos hup]
        exact ih hw
      rename_i hup
      rw [if_neg hup]
      split at hw
      · cases hw
      · rename_i hsize
        rw [if_neg hsize]
        exact ih hw

end RouteSync.Disk
