import StyleCatalog.Renderer

/-! # Options of a build -/

namespace StyleCatalog

def defaultMarker : Text := "sg-".toList

structure Options where
  /-- Whether headers and descriptions are Markdown; otherwise they are plain text. -/
  markdown : Bool := true
  marker : Text := defaultMarker
  deriving DecidableEq, Repr

def Options.renderer (options : Options) : Renderer :=
  if options.markdown then Renderer.markdown else Renderer.plain

end StyleCatalog
