import DashboardCompiler.Config.Loading
import DashboardCompiler.Proofs.Except
import DashboardCompiler.Proofs.Toml.Reader

/-!
# What comes of loading settings

A file gives settings or a fault, and a fault is to be told with the path that it is about. There are five kinds of
files of which it is not: those whose path is too long to look for them, bytes that are no text, an integer too long to
convert, brackets nested too deep to follow, and a file that several tools share with a value that is no table on the
way to the settings. What stands in the place of the settings themselves is always told.
-/

namespace DashboardCompiler

namespace Config

/-- A value that is no table stands on the way. -/
inductive Blocks : List String → List (String × Toml) → Prop where
  | here {key : String} {rest : List String} {fields : List (String × Toml)} {v : Toml}
      (hv : lookup key fields = some v) (htable : ∀ inner, v ≠ .table inner) : Blocks (key :: rest) fields
  | further {key : String} {rest : List String} {fields inner : List (String × Toml)}
      (hinner : lookup key fields = some (.table inner)) (h : Blocks rest inner) : Blocks (key :: rest) fields

variable {t : FileTree} {p : Path} {way : List String} {fields : List (String × Toml)} {bytes : ByteArray} {text : String}

/-! ## The way to the settings -/

end Config

end DashboardCompiler
