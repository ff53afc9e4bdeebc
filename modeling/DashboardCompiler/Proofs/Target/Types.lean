import DashboardCompiler.Generation.Target
import DashboardCompiler.Proofs.Text.Declarations

/-!
# Types that programs declare

Go and Rust programs declare their types at the outermost level, each with its name on the line that opens the
declaration. A widget brings the one type that is named after it; all other types are those of the templates,
which depend on the design only in whether it has data sources and samples the host.
-/

namespace DashboardCompiler

open Code Text

/-- The types that the fixed parts of a program declare, by the sections that hold them. -/
structure TemplateTypes where
  helpers : List String
  dataSources : List String
  app : List String
  deriving DecidableEq

namespace TemplateTypes

def all (types : TemplateTypes) : List String := types.helpers ++ types.dataSources ++ types.app

/-- The types in the header of a file: only files with widgets have the helpers. -/
def inHeader (types : TemplateTypes) : FileRole → List String
  | .single | .widgets => types.helpers
  | .app | .dataSources => []

end TemplateTypes

/-- What the sections of a target declare, as a reader of lines finds it. -/
structure Target.Declares (t : Target) (read : List Char → Option (List Char)) (types : Design → TemplateTypes) :
    Prop where
  separator : t.separator = "\n\n"
  skipsBlank : SkipsBlank read
  widget : ∀ b o, declaredNames read (t.widget b o) = [b.typeName]
  dataSources : ∀ s text, s.hasDataSources = true → t.dataSources s = .ok text →
    declaredNames read text = (types s.design).dataSources
  unfed : ∀ s : Scene, s.hasDataSources = false → (types s.design).dataSources = []
  app : ∀ s text, t.app s = .ok text → declaredNames read text = (types s.design).app
  entryPoint : ∀ s, declaredNames read (t.entryPoint s) = []
  header : ∀ s role body, declaredNames read (t.header s role body) = (types s.design).inHeader role
  footer : ∀ s role, t.footer s role = ""
  moduleIndex : ∀ s, ∀ entry ∈ t.moduleIndex s, declaredNames read entry.2 = []

end DashboardCompiler
