import AliasBinding.FilePath

/-!
# The place of a manifest

The manifest of a module lies beside it under the same name with another extension.
-/

namespace AliasBinding.Manifest

/-- The extension of manifests. -/
def extension : String := "aliases.json"

/-- The path of the manifest of the module at `path`. -/
def location (path : String) : String := FilePath.withExtension path extension

end AliasBinding.Manifest
