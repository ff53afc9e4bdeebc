import DashboardCompiler.CommandLine.Validate
import DashboardCompiler.Proofs.CommandLine.Generate
import DashboardCompiler.Proofs.Json.Reader

/-!
# What comes of loading a design

A file gives a design or a fault, and a fault is to be told or to list what is wrong with the design. There are four
that do neither: a path with a null character, bytes that are no text, an integer too long to convert, and brackets
nested too deep to follow. A command that meets one of them is aborted and tells nothing.
-/

namespace DashboardCompiler

namespace Design

variable {t : FileTree} {p : Path}

/-! ## Faults -/

end Design

/-! ## Commands -/

namespace CommandLine

end CommandLine

end DashboardCompiler
