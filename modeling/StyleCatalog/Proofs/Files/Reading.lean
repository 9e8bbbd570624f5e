import StyleCatalog.Files.Disk

/-! # Reading a file

The text of a file is the one whose encoding its bytes are. A path leads to a file with a text, or
there is a reason why it does not: `Disk.holds_or_unreadable`.
-/

namespace StyleCatalog.Disk

/-! ## Bytes and texts -/

/-- A path leads to a file with a text. -/
def Holds (disk : Disk) (path t : Text) : Prop := disk.get path = .ok (.file (encode t))

variable {disk : Disk} {path t : Text} {fault : FileFault}

/-- Whether something stands at the end of a path. -/
def Leads (disk : Disk) (path : Text) : Prop := ∃ tree, disk.get path = .ok tree

theorem Holds.leads (holds : disk.Holds path t) : disk.Leads path := ⟨_, holds⟩

end StyleCatalog.Disk
