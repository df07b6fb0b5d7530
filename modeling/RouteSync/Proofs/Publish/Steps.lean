import RouteSync.Publish.Publisher

/-! A configuration by its steps: the base is read, the text compared with the one that is applied,
the file replaced, and the script run on the disk with the new file. -/
namespace RouteSync.Publish

theorem reload_disk (launch : Launcher) (script : Disk.Path) (drain : Bool) (d : Disk) :
    (reload launch script drain d).disk = (launch script drain d).1 := by
  unfold reload
  split <;> rename_i heq <;> rw [heq]

section

variable {names : Disk.Naming} {d : Disk} {path : Disk.Path} {text : String}

theorem writeFile_of_ok (h : (d.replace names path (Text.Utf8.bytes text)).2 = .ok ()) :
    writeFile names d path text =
      ⟨(d.replace names path (Text.Utf8.bytes text)).1, .ok (), []⟩ := by
  unfold writeFile
  split <;> rename_i heq <;> rw [heq] at h ⊢
  cases h

theorem writeFile_of_error {why : Disk.ReplaceFault}
    (h : (d.replace names path (Text.Utf8.bytes text)).2 = .error why) :
    writeFile names d path text =
      ⟨(d.replace names path (Text.Utf8.bytes text)).1, .error (.ofReplace path why), []⟩ := by
  unfold writeFile
  split <;> rename_i heq <;> rw [heq] at h ⊢
  · cases h
  · obtain rfl := Except.error.inj h
    rfl

end

namespace Publisher

/-- What is to stand in the live file: the base and the routes. -/
def text (p : Publisher) (s : Snapshot) (base : String) : String := base ++ (p.tls.render s).text

variable {p : Publisher} {names : Disk.Naming} {s : Snapshot} {d : Disk} {base : String}

theorem configure_of_noBase {why : Disk.Fault} (hbase : d.readText p.basePath = .error why)
    (launch : Launcher) :
    p.configure names launch s d = ⟨p, ⟨d, .error (.base p.basePath), (p.tls.render s).log⟩⟩ := by
  simp only [configure, hbase]

theorem configure_of_applied (hbase : d.readText p.basePath = .ok base)
    (happlied : p.applied = some (p.text s base)) (launch : Launcher) :
    p.configure names launch s d = ⟨p, ⟨d, .ok (), (p.tls.render s).log ++ [unchanged]⟩⟩ := by
  have htext : base ++ (p.tls.render s).text = p.text s base := rfl
  unfold configure
  rw [hbase]
  dsimp only
  rw [htext, if_pos happlied]

theorem configure_of_other (hbase : d.readText p.basePath = .ok base)
    (happlied : p.applied ≠ some (p.text s base)) (launch : Launcher) :
    p.configure names launch s d =
      let published := p.apply names launch (p.text s base) s.entries.length d
      { published with
        done := { published.done with log := (p.tls.render s).log ++ published.done.log } } := by
  have htext : base ++ (p.tls.render s).text = p.text s base := rfl
  unfold configure
  rw [hbase]
  dsimp only
  rw [htext, if_neg happlied]

theorem configure_of_notWritten {why : Disk.ReplaceFault}
    (hbase : d.readText p.basePath = .ok base) (happlied : p.applied ≠ some (p.text s base))
    (hwritten : (d.replace names p.livePath (Text.Utf8.bytes (p.text s base))).2 = .error why)
    (launch : Launcher) :
    p.configure names launch s d =
      ⟨p, ⟨(d.replace names p.livePath (Text.Utf8.bytes (p.text s base))).1,
        .error (.ofReplace p.livePath why), (p.tls.render s).log⟩⟩ := by
  rw [configure_of_other hbase happlied]
  unfold apply
  rw [writeFile_of_error hwritten]
  dsimp only
  rw [List.append_nil]

/-- Once the file is replaced, all that follows is up to the script. -/
theorem configure_of_written (hbase : d.readText p.basePath = .ok base)
    (happlied : p.applied ≠ some (p.text s base))
    (hwritten : (d.replace names p.livePath (Text.Utf8.bytes (p.text s base))).2 = .ok ())
    (launch : Launcher) :
    let loaded := reload launch p.scriptPath false
      (d.replace names p.livePath (Text.Utf8.bytes (p.text s base))).1
    (p.configure names launch s d).done.disk = loaded.disk ∧
      (p.configure names launch s d).done.answer = loaded.answer ∧
      (p.configure names launch s d).after = match loaded.answer with
        | .ok _ => { p with applied := some (p.text s base) }
        | .error _ => p := by
  rw [configure_of_other hbase happlied]
  unfold apply
  rw [writeFile_of_ok hwritten]
  dsimp only
  split
  · rename_i heq
    exact ⟨rfl, rfl, by rw [heq]⟩
  · rename_i heq
    exact ⟨rfl, rfl, by rw [heq]⟩

end Publisher
end RouteSync.Publish
