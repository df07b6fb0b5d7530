import Mathlib.Data.List.TakeWhile
import RouteSync.Disk.Path
import RouteSync.Proofs.Text.Split

/-! A path, its parts, and the path of its folder. -/
namespace RouteSync.Disk.Path

theorem slash_notMem_of_mem_parts {path : Path} {part : String} (h : part ∈ path.parts) :
    '/' ∉ part.toList := by
  obtain ⟨cs, hcs, rfl⟩ := List.mem_map.1 h
  simpa using Text.notMem_of_mem_splitOn hcs

theorem parts_intercalate {ps : List String} (hne : ps ≠ [])
    (h : ∀ part ∈ ps, '/' ∉ part.toList) : parts ("/".intercalate ps) = ps := by
  have hjoin : "/".intercalate ps = Text.join '/' ps := rfl
  exact Text.cut_eq_iff.2 ⟨hjoin, hne, h⟩

/-- A path from the top has an empty first part. -/
theorem head?_eq_slash_iff (path : Path) :
    path.toList.head? = some '/' ↔ ∃ part rest, path.parts = "" :: part :: rest := by
  unfold parts
  cases path.toList with
  | nil => simp [Text.splitOn]
  | cons c cs =>
    rw [Text.splitOn_cons]
    cases hparts : Text.splitOn '/' cs with
    | nil => exact absurd hparts (Text.splitOn_ne_nil '/' cs)
    | cons first rest => by_cases hc : c = '/' <;> simp [Text.joinPart, hc]

theorem trimmed_cons (first : String) (rest : List String) :
    ∃ kept idle, rest = kept ++ idle ∧ trimmed (first :: rest) = first :: kept ∧
      ∀ part ∈ idle, isIdle part = true := by
  refine ⟨(rest.reverse.dropWhile isIdle).reverse, (rest.reverse.takeWhile isIdle).reverse, ?_,
    rfl, fun part hpart => ?_⟩
  · rw [← List.reverse_append, List.takeWhile_append_dropWhile, List.reverse_reverse]
  · exact List.mem_takeWhile_imp (List.mem_reverse.1 hpart)

theorem trimmed_concat (init : List String) {name : String} (h : isIdle name = false) :
    trimmed (init ++ [name]) = init ++ [name] := by
  cases init with
  | nil => rfl
  | cons first rest => simp [trimmed, h]

theorem name?_eq_some_iff {path : Path} {name : String} :
    path.name? = some name ↔
      (∃ init, path.parts = init ++ [name]) ∧ isIdle name = false ∧ name ≠ ".." := by
  rw [name?, Option.filter_eq_some_iff, List.getLast?_eq_some_iff]
  simp

/-- The parts of a file's folder are those before its name, but for some that lead nowhere. -/
theorem folder_cases {path : Path} {name : String} (h : path.name? = some name) :
    (path.parts = [name] ∧ path.folder = ".") ∨
    (∃ idle, path.parts = "" :: idle ++ [name] ∧ path.folder = "/" ∧
      ∀ part ∈ idle, isIdle part = true) ∨
    (∃ first kept idle, path.parts = first :: kept ++ idle ++ [name] ∧
      path.folder.parts = first :: kept ∧ (first = "" → kept ≠ []) ∧
      ∀ part ∈ idle, isIdle part = true) := by
  obtain ⟨⟨init, hparts⟩, hidle, -⟩ := name?_eq_some_iff.1 h
  have hinit : (trimmed path.parts).dropLast = init := by
    rw [hparts, trimmed_concat init hidle, List.dropLast_concat]
  cases init with
  | nil =>
    have hfolder : path.folder = "." := by
      unfold folder
      rw [hinit]
      rfl
    exact .inl ⟨hparts, hfolder⟩
  | cons first rest =>
    obtain ⟨kept, idle, rfl, htrimmed, hall⟩ := trimmed_cons first rest
    by_cases htop : first = "" ∧ kept = []
    · obtain ⟨rfl, rfl⟩ := htop
      have htrimmed' : trimmed ("" :: idle) = [""] := htrimmed
      exact .inr (.inl ⟨idle, hparts, by simp [folder, hinit, htrimmed'], hall⟩)
    · have hjoin : path.folder = "/".intercalate (first :: kept) := by
        unfold folder
        rw [hinit, htrimmed]
        split
        · rename_i heq
          cases heq
        · rename_i heq
          obtain ⟨hfirst, hkept⟩ := List.cons.inj heq
          exact absurd ⟨hfirst, hkept⟩ htop
        · rfl
      refine .inr (.inr ⟨first, kept, idle, hparts, ?_, fun hfirst hkept => htop ⟨hfirst, hkept⟩,
        hall⟩)
      rw [hjoin]
      refine parts_intercalate (List.cons_ne_nil first kept) fun part hpart => ?_
      have hmem : part ∈ path.parts := by
        rw [hparts]
        rcases List.mem_cons.1 hpart with rfl | hpart
        · exact List.mem_cons_self
        · simp [hpart]
      exact slash_notMem_of_mem_parts hmem

end RouteSync.Disk.Path
