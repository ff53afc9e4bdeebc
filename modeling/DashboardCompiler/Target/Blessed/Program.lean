import DashboardCompiler.Generation.Target
import DashboardCompiler.Target.Blessed.DataSources
import DashboardCompiler.Target.Blessed.Helpers
import DashboardCompiler.Target.Blessed.Widget
import DashboardCompiler.Text.CodeScan

/-!
# The blessed target

The application with a box for each widget, laid out by shares of the screen or by cells, file headers whose
requires are read off the code of the file, exports of the modules, and the packaging of the project.
-/

namespace DashboardCompiler.Blessed

/-- A module: the name that code uses for it, and the line that requires it. -/
structure Requirement where
  name : String
  line : String

def requirements : List Requirement :=
  [⟨"fs", "const fs = require(\"fs\");"⟩,
   ⟨"os", "const os = require(\"os\");"⟩,
   ⟨"axios", "const axios = require(\"axios\");"⟩,
   ⟨"blessed", "const blessed = require(\"blessed\");"⟩,
   ⟨"si", "const si = require(\"systeminformation\");"⟩]

/-- Whether the code of a text calls the function that runs a command. -/
def runsCommands (body : String) : Bool :=
  Code.occurs "exec(".toList false (Code.codeChars body.toList)

/-- The lines that require what a text uses. -/
def requires (body : String) : String :=
  let used := Code.usedModules body (requirements.map (·.name))
  Text.joinLines
    ((if runsCommands body then ["const \x7b exec \x7d = require(\"child_process\");"] else []) ++
     (requirements.filter fun r => used.contains r.name).map (·.line))

/-- A part of a whole in percent, with two decimal places and six significant digits. -/
def percent (part whole : Int) : Except ArithmeticFault String := do
  let share ← Double.ofQuotient (part * 100) whole
  return (share.roundPlaces 2).generalText ++ "%"

/-- Boxes have plain lines or no border. -/
def border : BorderStyle → Json
  | .single | .double | .rounded | .heavy | .ascii => .text "line"
  | .none => .null

def borderOf (w : Widget) : Json :=
  match w.style with
  | some s => border s.borderStyle
  | none => border .single

/-- Where the box of a widget is: in shares of the canvas, or in cells. -/
def boxFields (settings : Settings) (w : Widget) : Except ArithmeticFault (List (String × Json)) := do
  let canvas := settings.dimensions
  if settings.autoResize then
    let left ← percent w.position.x canvas.width
    let top ← percent w.position.y canvas.height
    let width ← percent w.size.width canvas.width
    let height ← percent w.size.height canvas.height
    return [("left", .text left), ("top", .text top), ("width", .text width), ("height", .text height)]
  else
    return [("left", .ofInt w.position.x), ("top", .ofInt w.position.y),
      ("width", .ofInt w.size.width), ("height", .ofInt w.size.height)]

def sourceField (w : Widget) : List (String × Json) :=
  match w.dataSource with
  | some id => if id.isEmpty then [] else [("source", .text id)]
  | none => []

/-- A slot puts a widget on the screen and says which source feeds it. -/
def slot (settings : Settings) (b : Behavior) : Except ArithmeticFault String := do
  let colors := b.colors settings.theme
  let box ← boxFields settings b.widget
  let fields := sourceField b.widget ++ box ++
    [("border", borderOf b.widget), ("borderColor", .text colors.border), ("textColor", .text colors.text)]
  let layout := Text.joinWith ", " (fields.map fun (key, value) => key ++ ": " ++ value.asciiLine)
  return "makeSlot(screen, new " ++ b.typeName ++ "(), \x7b " ++ layout ++ " \x7d),"

def slotFactory : List String :=
  ["function makeSlot(screen, widget, layout) \x7b",
   "  const box = blessed.box(\x7b",
   "    parent: screen,",
   "    label: ` $\x7bwidget.title\x7d `,",
   "    left: layout.left,",
   "    top: layout.top,",
   "    width: layout.width,",
   "    height: layout.height,",
   "    border: layout.border ? \x7b type: layout.border \x7d : undefined,",
   "    style: \x7b",
   "      fg: layout.textColor,",
   "      border: \x7b fg: layout.borderColor \x7d,",
   "      label: \x7b fg: ACCENT_COLOR, bold: true \x7d,",
   "    \x7d,",
   "  \x7d);",
   "  return \x7b source: layout.source || null, widget, box \x7d;",
   "\x7d"]

def appClass : List String :=
  ["class DashboardApp \x7b",
   "  constructor() \x7b",
   "    this.screen = blessed.screen(\x7b smartCSR: true, fullUnicode: true, title: DASHBOARD_TITLE \x7d);",
   "    this.slots = createSlots(this.screen);",
   "    this.updater = createUpdater();",
   "    this.timers = [];",
   "    this.refreshing = false;",
   "    this.screen.key([\"q\", \"escape\", \"C-c\"], () => this.stop());",
   "  \x7d",
   "",
   "  start() \x7b",
   "    this.draw();",
   "    this.timers.push(setInterval(() => this.animate(), ANIMATION_INTERVAL_MS));",
   "    if (this.updater) \x7b",
   "      this.refresh();",
   "      this.timers.push(setInterval(() => this.refresh(), REFRESH_INTERVAL_MS));",
   "    \x7d",
   "  \x7d",
   "",
   "  animate() \x7b",
   "    for (const slot of this.slots) slot.widget.tick();",
   "    this.draw();",
   "  \x7d",
   "",
   "  async refresh() \x7b",
   "    if (this.refreshing) return;",
   "    this.refreshing = true;",
   "    try \x7b",
   "      const fresh = await this.updater.updateAll();",
   "      for (const [sourceId, value] of Object.entries(fresh)) \x7b",
   "        for (const slot of this.slots) \x7b",
   "          if (slot.source === sourceId) slot.widget.update(value);",
   "        \x7d",
   "      \x7d",
   "      this.draw();",
   "    \x7d finally \x7b",
   "      this.refreshing = false;",
   "    \x7d",
   "  \x7d",
   "",
   "  draw() \x7b",
   "    for (const slot of this.slots) slot.box.setContent(slot.widget.render());",
   "    this.screen.render();",
   "  \x7d",
   "",
   "  stop() \x7b",
   "    for (const timer of this.timers) clearInterval(timer);",
   "    this.screen.destroy();",
   "    process.exit(0);",
   "  \x7d",
   "\x7d"]

def updaterLine (s : Scene) : String :=
  if s.hasDataSources then
    let collector := if s.design.usesSystemMetrics then "new SystemMetricsCollector()" else "null"
    "  return new DataSourceUpdater(DATA_SOURCES, " ++ collector ++ ");"
  else "  return null;"

def app (s : Scene) : Except ArithmeticFault String := do
  let settings := s.design.settings
  let slots ← s.behaviors.mapM (slot settings)
  return Text.joinLines
    ((if s.options.includeComments then ["// Application"] else []) ++
     [textConstant "DASHBOARD_TITLE" s.design.metadata.name,
      textConstant "ACCENT_COLOR" (Display.palette settings.theme).accent,
      numberConstant "ANIMATION_INTERVAL_MS" Display.animationTickMs,
      constant "REFRESH_INTERVAL_MS" (int settings.refreshRate),
      ""] ++
     slotFactory ++
     ["",
      "function createSlots(screen) \x7b",
      "  return ["] ++
     slots.map ("    " ++ ·) ++
     ["  ];",
      "\x7d",
      "",
      "function createUpdater() \x7b",
      updaterLine s,
      "\x7d",
      ""] ++
     appClass)

def entryPoint : String :=
  Text.joinLines
    ["function main() \x7b",
     "  new DashboardApp().start();",
     "\x7d",
     "",
     "if (require.main === module) \x7b",
     "  main();",
     "\x7d"]

def widgetExports (s : Scene) : List String := s.behaviors.map Behavior.typeName

def sourceExports (d : Design) : List String :=
  ["DATA_SOURCES", "DataSourceUpdater", "extractValue"] ++
  if d.usesSystemMetrics then ["SystemMetricsCollector"] else []

def requireLine (names : List String) (file : String) : String :=
  "const \x7b " ++ Text.joinWith ", " names ++ " \x7d = require(" ++ text file ++ ");"

/-- What the application of a modular project requires of its other files. -/
def localRequires (s : Scene) : String :=
  Text.joinLines
    ((if s.behaviors.isEmpty then [] else [requireLine (widgetExports s) "./widgets"]) ++
     if s.hasDataSources then [requireLine (sourceExports s.design) "./datasources"] else [])

def sectionSeparator : String := "\n\n"

def hasHelpers : FileRole → Bool
  | .single | .widgets => true
  | .app | .dataSources => false

/-- The files that a person runs. -/
def isProgram : FileRole → Bool
  | .single | .app => true
  | .widgets | .dataSources => false

def header (s : Scene) (role : FileRole) (body : String) : String :=
  let shared := if hasHelpers role then helpers else ""
  let banner :=
    (if isProgram role then ["#!/usr/bin/env node"] else []) ++
    (if s.options.includeComments then
      ["// " ++ Text.commentText s.design.metadata.name ++ ": " ++
         Text.replaceAll (Named.name role) "_" " " ++ " file.",
       "// Generated by tuidesigner. Edit the design and regenerate instead."] else []) ++
    ["\"use strict\";"]
  let ownFiles := if role = .app then localRequires s else ""
  Text.joinSections
    [Text.joinLines banner, requires (shared ++ "\n" ++ body), ownFiles, shared] sectionSeparator

/-- The export line of a module; programs export nothing. -/
def footer (s : Scene) : FileRole → String
  | .widgets => "module.exports = \x7b " ++ Text.joinWith ", " (widgetExports s) ++ " \x7d;"
  | .dataSources =>
    "module.exports = \x7b " ++ Text.joinWith ", " (sourceExports s.design) ++ " \x7d;"
  | .single | .app => ""

/-- The packages that a dashboard depends on, with their versions. -/
def packages : List (String × String) :=
  [("axios", "^1.6.0"),
   ("blessed", "^0.1.81"),
   ("systeminformation", "^5.21.15")]

def dependencies : Dependencies :=
  ⟨packages.map fun (name, version) => name ++ "@" ++ version, ["Node.js 18+", "npm"], []⟩

def singleFile : String := "dashboard.js"

def appFile : String := "app.js"

def mainFile (s : Scene) : String := s.entryFile singleFile appFile

def packageManifest (s : Scene) : Json :=
  let main := mainFile s
  .object
    [("name", .text "dashboard"),
     ("version", .text "1.0.0"),
     ("description", .text s.design.metadata.name),
     ("main", .text main),
     ("private", .bool true),
     ("scripts", .object [("start", .text ("node " ++ main))]),
     ("dependencies", .object (packages.map fun (name, version) => (name, .text version))),
     ("engines", .object [("node", .text ">=18")])]

def instructions (s : Scene) : String :=
  Text.joinLines
    ["1. Make sure Node.js 18 or newer is installed.",
     "",
     "2. Install dependencies:",
     "   npm install",
     "",
     "3. Run the dashboard:",
     "   node " ++ mainFile s,
     "   (or: npm start)",
     "",
     "Press q to quit. Data source errors are written to dashboard.log."]

end DashboardCompiler.Blessed

namespace DashboardCompiler

/-- Dashboards in JavaScript for Node.js on blessed, with systeminformation for metrics. -/
def Target.blessed : Target where
  framework := .blessed
  displayName := "blessed"
  language := "javascript"
  commentMark := "//"
  separator := Blessed.sectionSeparator
  singleFile := Blessed.singleFile
  appFile := Blessed.appFile
  widgetsFile := "widgets.js"
  sourcesFile := "datasources.js"
  widgetTypes := Named.names WidgetKind
  dependencies := Blessed.dependencies
  widget := Blessed.widget
  dataSources s := .ok (Blessed.dataSources s.design s.options.includeComments)
  app := Blessed.app
  entryPoint _ := Blessed.entryPoint
  header := Blessed.header
  footer := Blessed.footer
  manifests s := [("package.json", (Blessed.packageManifest s).indented ++ "\n", "json")]
  moduleIndex _ := []
  instructions := Blessed.instructions

end DashboardCompiler
