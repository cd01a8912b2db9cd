import PipelineDepot.Config.File
import PipelineDepot.Toml.Table
import PipelineDepot.Url.Basic

/-! # Readers

The readers that the program is run with. The rules for URLs and for TOML documents belong to these
readers: nothing that takes a reader goes by them.
-/

namespace PipelineDepot

instance : UrlReader where
  scheme text := (Url.scheme text).mapError UrlError.message

instance : TomlReader where
  document? := Toml.document?

end PipelineDepot
