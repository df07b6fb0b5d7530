import RouteSync.Proofs.Disk.Room
import RouteSync.Proofs.Publish.History

/-! What a failed configuration leaves on the disk, and what the one after it then does. -/
namespace RouteSync.Publish.Publisher

variable {p : Publisher} {names : Disk.Naming} {s : Snapshot} {d : Disk} {base : String}

end RouteSync.Publish.Publisher
