import DashboardCompiler.Generation.Scene

/-!
# Use declarations

The items that each file of a Ratatui program uses, grouped by path; groups of one path count as one. They
are written with one line for each path, the standard library first and each block in the order of the
paths; in a line the module itself comes first and the other names follow without regard to case.
-/

namespace DashboardCompiler.Ratatui

/-- Items of one module. -/
structure Use where
  path : String
  names : List String

def crateName : String := "dashboard"

/-- The module itself before its items, and those in the order of their lower-case forms. -/
def namedBefore (a b : String) : Bool :=
  if a = "self" then true
  else if b = "self" then false
  else decide (Unicode.lower a ≤ Unicode.lower b)

/-- The items used of a path, each once. -/
def namesAt (uses : List Use) (path : String) : List String :=
  ((uses.filter fun u => u.path = path).flatMap (·.names)).eraseDups.mergeSort namedBefore

def useLine (uses : List Use) (path : String) : String :=
  match namesAt uses path with
  | [name] => "use " ++ path ++ "::" ++ name ++ ";"
  | names => "use " ++ path ++ "::\x7b" ++ Text.joinWith ", " names ++ "\x7d;"

def isStandard (path : String) : Bool := "std".toList.isPrefixOf path.toList

/-- The use declarations, the standard library in a block of its own. -/
def useDeclarations (uses : List Use) : String :=
  let paths := (uses.map (·.path)).eraseDups.mergeSort fun a b => decide (a ≤ b)
  let blocks := [paths.filter isStandard, paths.filter fun p => !isStandard p].filter (!·.isEmpty)
  Text.joinWith "\n\n" (blocks.map fun block => Text.joinLines (block.map (useLine uses)))

def widgetUses : List Use :=
  [⟨"serde_json", ["Value"]⟩, ⟨"std::time", ["SystemTime", "UNIX_EPOCH"]⟩]

def sourceUses (d : Design) : List Use :=
  [⟨"std::collections", ["HashMap"]⟩,
   ⟨"std::fs", ["self", "OpenOptions"]⟩,
   ⟨"std::io", ["Read", "Write"]⟩,
   ⟨"std::process", ["Command", "Stdio"]⟩,
   ⟨"std", ["thread"]⟩,
   ⟨"std::time", ["Duration", "Instant", "SystemTime", "UNIX_EPOCH"]⟩,
   ⟨"serde_json", ["json", "Map", "Value"]⟩] ++
  if d.usesSystemMetrics then
    [⟨"std::path", ["Path"]⟩,
     ⟨"sysinfo", ["CpuExt", "DiskExt", "NetworkExt", "NetworksExt", "System", "SystemExt"]⟩]
  else []

def appUses (s : Scene) : List Use :=
  [⟨"std", ["io"]⟩,
   ⟨"std::time", ["Duration", "Instant"]⟩,
   ⟨"crossterm", ["execute"]⟩,
   ⟨"crossterm::event", ["self", "Event", "KeyCode", "KeyEventKind", "KeyModifiers"]⟩,
   ⟨"crossterm::terminal",
     ["disable_raw_mode", "enable_raw_mode", "EnterAlternateScreen", "LeaveAlternateScreen"]⟩,
   ⟨"ratatui::backend", ["CrosstermBackend"]⟩,
   ⟨"ratatui::layout", ["Rect"]⟩,
   ⟨"ratatui::style", ["Color", "Modifier", "Style"]⟩,
   ⟨"ratatui::text", ["Span"]⟩,
   ⟨"ratatui::widgets", ["Block", "BorderType", "Borders", "Paragraph"]⟩,
   ⟨"ratatui", ["Frame", "Terminal"]⟩] ++
  if s.hasDataSources then
    [⟨"std::collections", ["HashMap"]⟩,
     ⟨"std::sync::mpsc", ["self", "Receiver"]⟩,
     ⟨"std", ["thread"]⟩,
     ⟨"serde_json", ["Value"]⟩]
  else []

/-- What the application of a modular project uses of the other modules of its crate. -/
def crateUses (s : Scene) : List Use :=
  [⟨crateName ++ "::widgets", "DashboardWidget" :: s.behaviors.map Behavior.typeName⟩] ++
  if s.hasDataSources then
    [⟨crateName ++ "::data_sources",
      ["data_source_configs", "DataSourceUpdater", "MetricSource"] ++
        if s.design.usesSystemMetrics then ["SystemMetricsCollector"] else []⟩]
  else []

def fileUses (s : Scene) : FileRole → List Use
  | .single =>
    appUses s ++ widgetUses ++ (if s.hasDataSources then sourceUses s.design else [])
  | .app => appUses s ++ crateUses s
  | .widgets => widgetUses
  | .dataSources => sourceUses s.design

end DashboardCompiler.Ratatui
