import DashboardCompiler.Generation.Target
import DashboardCompiler.Target.Textual.DataSources
import DashboardCompiler.Target.Textual.Widget
import DashboardCompiler.Text.CodeScan
import DashboardCompiler.Text.Find

/-!
# The Textual target

The application class with its style sheet, the wiring of sources to widgets, file headers whose imports
are read off the code of the file, and the packaging of the project.
-/

namespace DashboardCompiler.Textual

def standardModules : List String := ["logging", "math", "os", "random", "subprocess", "time"]

def foreignModules : List String := ["httpx", "psutil"]

/-- The import block of a module: the standard library, other packages, then local modules. -/
def imports (body : String) (toolkit modules : List String) : String :=
  let standard := (Code.usedModules body standardModules).map ("import " ++ ·) ++
    (if Text.contains body "datetime.now" then ["from datetime import datetime"] else [])
  let foreign := (Code.usedModules body foreignModules).map ("import " ++ ·) ++ toolkit
  Text.joinWith "\n\n" (([standard, foreign, modules].filter (!·.isEmpty)).map Text.joinLines)

def borderName : BorderStyle → String
  | .single => "solid"
  | .double => "double"
  | .rounded => "round"
  | .heavy => "heavy"
  | .ascii => "ascii"
  | .none => "none"

/-- A widget without a style has a single border. -/
def borderRule (style : Option WidgetStyle) (color : String) : String :=
  let border := match style with
    | some s => s.borderStyle
    | none => .single
  if border = .none then "none" else borderName border ++ " " ++ color

/-- The rules for one widget. Colours are written as the design gives them. -/
def widgetRules (theme : Theme) (b : Behavior) : List String :=
  let colors := b.colors theme
  let w := b.widget
  ["",
   "#" ++ b.identifier ++ " \x7b",
   "    position: absolute;",
   "    offset: " ++ int w.position.x ++ " " ++ int w.position.y ++ ";",
   "    width: " ++ int w.size.width ++ ";",
   "    height: " ++ int w.size.height ++ ";",
   "    border: " ++ borderRule w.style colors.border ++ ";",
   "    color: " ++ colors.text ++ ";"] ++
  (match w.style.bind (·.backgroundColor) with
    | some color => if color.isEmpty then [] else ["    background: " ++ color ++ ";"]
    | none => []) ++
  (match w.style with
    | some s => if s.padding = 0 then [] else ["    padding: 0 " ++ int s.padding ++ ";"]
    | none => []) ++
  ["\x7d"]

def styleSheet (s : Scene) : List String :=
  let settings := s.design.settings
  ["#canvas \x7b"] ++
  (if settings.autoResize then
    ["    width: 100%;", "    height: 100%;", "    overflow: auto auto;"]
  else
    ["    width: " ++ int settings.dimensions.width ++ ";",
     "    height: " ++ int settings.dimensions.height ++ ";"]) ++
  ["\x7d"] ++ s.behaviors.flatMap (widgetRules settings.theme)

/-- A widget is added to the entry of its source; the first widget of a source opens the entry. -/
def subscribe (source widget : String) : List (String × List String) → List (String × List String)
  | [] => [(source, [widget])]
  | (s, ws) :: rest =>
    if s = source then (s, ws ++ [widget]) :: rest else (s, ws) :: subscribe source widget rest

/-- For each source that a widget names, the ids of the widgets that it feeds. -/
def subscribers (s : Scene) : List (String × List String) :=
  s.behaviors.foldl (fun table b =>
    match b.widget.dataSource with
    | some source => subscribe source b.identifier table
    | none => table) []

def wiringLines (s : Scene) : List String :=
  let table : Json := .object ((subscribers s).map fun (source, ws) => (source, texts ws))
  ["",
   "    def __init__(self) -> None:",
   "        super().__init__()",
   "        self.collector = " ++
     (if s.design.usesSystemMetrics then "SystemMetricsCollector()" else "None"),
   "        self.updater = DataSourceUpdater(DATA_SOURCES, self.collector)",
   "        self.subscribers = " ++ literal table]

def composeLines (s : Scene) : List String :=
  ["",
   "    def compose(self) -> ComposeResult:",
   "        yield Header()",
   "        with Container(id=\"canvas\"):"] ++
  (if s.behaviors.isEmpty then ["            yield Static(\"No widgets\")"]
   else s.behaviors.map fun b => "            yield " ++ b.typeName ++ "()") ++
  ["        yield Footer()"]

def refreshLines (s : Scene) : List String :=
  ["",
   "    def on_mount(self) -> None:",
   "        self.refresh_data_sources()",
   "        self.set_interval(" ++ (Literal.seconds s.design.settings.refreshRate).text ++
     ", self.refresh_data_sources)",
   "",
   "    @work(thread=True, exclusive=True)",
   "    def refresh_data_sources(self) -> None:",
   "        fresh = self.updater.update_all()",
   "        if fresh:",
   "            self.call_from_thread(self.push_values, fresh)",
   "",
   "    def push_values(self, fresh) -> None:",
   "        \"\"\"Push fresh source values to every widget bound to them.\"\"\"",
   "        for source_id, value in fresh.items():",
   "            for widget_id in self.subscribers.get(source_id, []):",
   "                self.query_one(f\"#\x7bwidget_id\x7d\").update_data(value)"]

def appLines (s : Scene) : List String :=
  let name := s.design.metadata.name
  (if s.options.includeComments then ["# Application"] else []) ++
  ["class DashboardApp(App):",
   "    \"\"\"" ++ Text.commentText name ++ "\"\"\"",
   "",
   "    TITLE = " ++ text name,
   "    CSS = \"\"\""] ++
  ((styleSheet s).map fun rule => if rule.isEmpty then "" else "    " ++ rule) ++
  ["    \"\"\"",
   "    BINDINGS = [(\"q\", \"quit\", \"Quit\")]"] ++
  (if s.hasDataSources then wiringLines s else []) ++
  composeLines s ++
  (if s.hasDataSources then refreshLines s else [])

def app (s : Scene) : String := Text.joinLines (appLines s)

def entryPoint : String :=
  Text.joinLines
    ["def main() -> None:",
     "    logging.basicConfig(",
     "        filename=\"dashboard.log\",",
     "        level=logging.INFO,",
     "        format=\"%(asctime)s %(levelname)s %(name)s: %(message)s\",",
     "    )",
     "    DashboardApp().run()",
     "",
     "",
     "if __name__ == \"__main__\":",
     "    main()"]

def banner (s : Scene) (role : FileRole) : String :=
  let name := Text.commentText s.design.metadata.name
  Text.joinLines
    ((match role with
      | .single | .app => ["#!/usr/bin/env python3"]
      | .widgets | .dataSources => []) ++
     ["\"\"\"" ++ name ++ ": " ++ Text.replaceAll (Named.name role) "_" " " ++ " module.\"\"\""] ++
     (if s.options.includeComments then
      ["# Generated by tuidesigner. Edit the design and regenerate instead."] else []))

def toolkitImports (s : Scene) (role : FileRole) : List String :=
  match role with
  | .single | .app =>
    (if s.hasDataSources then ["from textual import work"] else []) ++
    ["from textual.app import App, ComposeResult",
     "from textual.containers import Container",
     "from textual.widgets import Footer, Header, Static"]
  | .widgets => ["from textual.widgets import Static"]
  | .dataSources => []

/-- What the application imports from the other files of a modular project. -/
def moduleImports (s : Scene) (role : FileRole) : List String :=
  if role = .app then
    (if s.behaviors.isEmpty then []
     else ["from widgets import " ++ Text.joinWith ", " (s.behaviors.map (·.typeName))]) ++
    (if s.hasDataSources then
      ["from data_sources import DATA_SOURCES, DataSourceUpdater" ++
        (if s.design.usesSystemMetrics then ", SystemMetricsCollector" else "")] else [])
  else []

def sectionSeparator : String := "\n\n\n"

def header (s : Scene) (role : FileRole) (body : String) : String :=
  let shared := match role with
    | .single | .widgets => helpers
    | .app | .dataSources => ""
  let block := imports (shared ++ "\n" ++ body) (toolkitImports s role) (moduleImports s role)
  Text.joinSections [banner s role ++ "\n\n" ++ block, shared] sectionSeparator

def dependencies : Dependencies :=
  ⟨["textual>=0.86.0", "psutil>=5.9.0", "httpx>=0.25.0"], ["Python 3.9+"], []⟩

def instructions (s : Scene) : String :=
  Text.joinLines
    ["1. Create a virtual environment:",
     "   python -m venv venv",
     "   source venv/bin/activate  # On Windows: venv\\Scripts\\activate",
     "",
     "2. Install dependencies:",
     "   pip install -r requirements.txt",
     "",
     "3. Run the dashboard:",
     "   python " ++ s.entryFile "dashboard.py" "app.py",
     "",
     "Press q to quit. Data source errors are written to dashboard.log."]

end DashboardCompiler.Textual

namespace DashboardCompiler

/-- Dashboards in Python on Textual widgets, with psutil for metrics. -/
def Target.textual : Target where
  framework := .textual
  displayName := "Textual"
  language := "python"
  commentMark := "#"
  separator := Textual.sectionSeparator
  singleFile := "dashboard.py"
  appFile := "app.py"
  widgetsFile := "widgets.py"
  sourcesFile := "data_sources.py"
  widgetTypes := Named.names WidgetKind
  dependencies := Textual.dependencies
  widget := Textual.widget
  dataSources s := .ok (Textual.dataSources s.design s.options.includeComments)
  app s := .ok (Textual.app s)
  entryPoint _ := Textual.entryPoint
  header := Textual.header
  footer _ _ := ""
  manifests _ :=
    [("requirements.txt", Text.joinLines Textual.dependencies.packages ++ "\n", "text")]
  moduleIndex _ := []
  instructions := Textual.instructions

end DashboardCompiler
