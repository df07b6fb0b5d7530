import RouteSync.Disk.Basic

/-! The disk that rehearsals start from. -/
namespace RouteSync.Rehearsal

def workplace : Disk.Location := ["tmp", "workplace"]

/-- Folders outside the workplace, and it. -/
def folders : List Disk.Location :=
  [["bin"], ["dev"], ["etc"], ["home"], ["root"], ["tmp"], ["usr"], ["var"], workplace]

def basePath : Disk.Path := "haproxy.cfg.template"

/-- The workplace holds a base file and one empty folder. -/
def freshDisk : Disk where
  here := workplace
  entries := folders.map (·, .folder) ++
    [(workplace ++ ["conf.d"], .folder),
      (workplace ++ [basePath], .file ⟨Text.Utf8.bytes "global\n", Disk.newMode⟩)]

end RouteSync.Rehearsal
