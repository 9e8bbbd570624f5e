import StyleCatalog.Proofs.Catalog.Gathering
import StyleCatalog.Proofs.Command.Sessions
import StyleCatalog.Proofs.Files.Opening

/-! # The stages of a build

What each stage of a build is about, said by the files of the disk and the texts in them and not by
the part of a run that looks for them: what settings and stylesheets it gives, and how it fails. The
parts of a run come to just that.
-/

namespace StyleCatalog

namespace Arguments

variable {asked : Arguments} {disk : Disk} {environment : Environment}

/-! ## Stages -/

/-- The paths of a build: those of the arguments, or else those of the settings. -/
inductive Searches (asked : Arguments) (settings : Settings) : List Text → Prop
  | given (some : asked.paths ≠ []) : Searches asked settings asked.paths
  | configured (none : asked.paths = []) : Searches asked settings settings.sourcePaths

/-- The builder of a build. The arguments can turn Markdown off but not on. -/
structure Chooses (asked : Arguments) (settings : Settings) (builder : Builder) : Prop where
  marker : builder.marker = settings.options.marker
  markdown (on : settings.options.markdown = true) (kept : asked.noMarkdown = false) :
    builder.render = Renderer.markdown
  plain (off : settings.options.markdown = false ∨ asked.noMarkdown = true) :
    builder.render = Renderer.plain

end Arguments

/-! ## Settings -/

namespace Settings

variable {disk : Disk} {environment : Environment} {settings : Settings} {path t : Text}
  {fault : FileFault}

end Settings

namespace Arguments

variable {asked : Arguments} {disk : Disk} {environment : Environment} {session : Session}
  {settings : Settings} {sources : List SourceFile} {paths : List Text} {builder : Builder}

theorem Searches.eq (searches : asked.Searches settings paths) : asked.searched settings = paths := by
  cases searches with
  | given some => rw [searched, if_neg (by simpa using some)]
  | configured none => rw [searched, none, List.isEmpty_nil, if_pos rfl]

theorem Chooses.unique {other : Builder} (first : asked.Chooses settings builder)
    (second : asked.Chooses settings other) : builder = other := by
  have marker : builder.marker = other.marker := first.marker.trans second.marker.symm
  have render : builder.render = other.render := by
    cases on : settings.options.markdown with
    | false => rw [first.plain (.inl on), second.plain (.inl on)]
    | true =>
        cases off : asked.noMarkdown with
        | false => rw [first.markdown on off, second.markdown on off]
        | true => rw [first.plain (.inr off), second.plain (.inr off)]
  cases builder
  cases other
  exact congrArg₂ Builder.mk marker render

end Arguments

end StyleCatalog
