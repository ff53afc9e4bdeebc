import DashboardCompiler.Generation.Target
import DashboardCompiler.Target.BubbleTea.DataSources
import DashboardCompiler.Target.BubbleTea.Helpers
import DashboardCompiler.Target.BubbleTea.Widget
import DashboardCompiler.Text.CodeScan

/-!
# The Bubble Tea target

The model with its slots, which are drawn row by row, its update and view functions, file headers whose
imports are read off the code of the file, and the packaging of the project.
-/

namespace DashboardCompiler.BubbleTea

/-- A package: the name that code uses for it, and its import line. -/
structure Package where
  name : String
  spec : String

def standardPackages : List Package :=
  [⟨"bytes", "\"bytes\""⟩, ⟨"context", "\"context\""⟩, ⟨"json", "\"encoding/json\""⟩,
   ⟨"errors", "\"errors\""⟩, ⟨"fmt", "\"fmt\""⟩, ⟨"io", "\"io\""⟩, ⟨"log", "\"log\""⟩,
   ⟨"math", "\"math\""⟩, ⟨"rand", "\"math/rand\""⟩, ⟨"http", "\"net/http\""⟩, ⟨"os", "\"os\""⟩,
   ⟨"exec", "\"os/exec\""⟩, ⟨"sort", "\"sort\""⟩, ⟨"strconv", "\"strconv\""⟩,
   ⟨"strings", "\"strings\""⟩, ⟨"sync", "\"sync\""⟩, ⟨"time", "\"time\""⟩,
   ⟨"utf8", "\"unicode/utf8\""⟩]

def foreignPackages : List Package :=
  [⟨"tea", "tea \"github.com/charmbracelet/bubbletea\""⟩,
   ⟨"lipgloss", "\"github.com/charmbracelet/lipgloss\""⟩,
   ⟨"cpu", "\"github.com/shirou/gopsutil/v3/cpu\""⟩,
   ⟨"disk", "\"github.com/shirou/gopsutil/v3/disk\""⟩,
   ⟨"load", "\"github.com/shirou/gopsutil/v3/load\""⟩,
   ⟨"mem", "\"github.com/shirou/gopsutil/v3/mem\""⟩,
   ⟨"psnet", "psnet \"github.com/shirou/gopsutil/v3/net\""⟩,
   ⟨"process", "\"github.com/shirou/gopsutil/v3/process\""⟩]

/-- The import lines of the packages that a text uses. Both tables are in the order of import paths. -/
def importsOf (body : String) (packages : List Package) : List String :=
  let used := Code.usedModules body (packages.map (·.name))
  (packages.filter fun p => used.contains p.name).map fun p => "\t" ++ p.spec

/-- The import block of a file, the standard library first; nothing if no package is used. -/
def imports (body : String) : String :=
  let groups := [importsOf body standardPackages, importsOf body foreignPackages].filter (!·.isEmpty)
  if groups.isEmpty then ""
  else
    Text.joinLines ["import (", Text.joinWith "\n\n" (groups.map Text.joinLines), ")"]

def border : BorderStyle → String
  | .single => "lipgloss.NormalBorder()"
  | .double => "lipgloss.DoubleBorder()"
  | .rounded => "lipgloss.RoundedBorder()"
  | .heavy => "lipgloss.ThickBorder()"
  | .ascii => "lipgloss.Border\x7bTop: \"-\", Bottom: \"-\", Left: \"|\", Right: \"|\", " ++
      "TopLeft: \"+\", TopRight: \"+\", BottomLeft: \"+\", BottomRight: \"+\"\x7d"
  | .none => "lipgloss.HiddenBorder()"

def borderOf (w : Widget) : String :=
  match w.style with
  | some s => border s.borderStyle
  | none => border .single

/-- A slot puts a widget on the canvas and says which source feeds it. -/
def slot (theme : Theme) (b : Behavior) : String :=
  let w := b.widget
  let colors := b.colors theme
  let source := match w.dataSource with
    | some id => if id.isEmpty then [] else ["source: " ++ text id]
    | none => []
  "\x7b" ++
    commaList
      (source ++
       ["x: " ++ int w.position.x,
        "y: " ++ int w.position.y,
        "width: " ++ int w.size.width,
        "style: boxStyle(" ++ borderOf w ++ ", " ++ text (Display.ansiColor colors.border) ++ ", " ++
          text (Display.ansiColor colors.text) ++ ", " ++ int w.size.width ++ ", " ++
          int w.size.height ++ ")",
        "widget: New" ++ b.typeName ++ "()"]) ++
    "\x7d"

/-- Rows from the top, and in a row from the left. -/
def drawnBefore (a b : Behavior) : Bool :=
  let p := a.widget.position
  let q := b.widget.position
  p.y < q.y || (p.y = q.y && p.x ≤ q.x)

def drawingOrder (s : Scene) : List Behavior := s.behaviors.mergeSort drawnBefore

def styleLines (theme : Theme) : List String :=
  ["var titleStyle = lipgloss.NewStyle().Bold(true).Foreground(lipgloss.Color(" ++
     text (Display.ansiColor (Display.palette theme).accent) ++ "))",
   "",
   "func boxStyle(border lipgloss.Border, borderColor, textColor string, width, height int) lipgloss.Style \x7b",
   "    return lipgloss.NewStyle().",
   "        Border(border).",
   "        BorderForeground(lipgloss.Color(borderColor)).",
   "        Foreground(lipgloss.Color(textColor)).",
   "        Width(width - 2).",
   "        MaxHeight(height)",
   "\x7d",
   "",
   "type widgetSlot struct \x7b",
   "    source string",
   "    x      int",
   "    y      int",
   "    width  int",
   "    style  lipgloss.Style",
   "    widget DashboardWidget",
   "\x7d",
   "",
   "type animationMsg time.Time"]

def modelLines (s : Scene) : List String :=
  let sources := s.hasDataSources
  (if sources then
    ["type refreshMsg time.Time",
     "type dataMsg map[string]interface\x7b\x7d"] else []) ++
  ["",
   "// model is the " ++ Text.commentText s.design.metadata.name ++ " dashboard.",
   "type model struct \x7b",
   "    slots   []*widgetSlot"] ++
  (if sources then ["    updater *DataSourceUpdater"] else []) ++
  ["\x7d",
   "",
   "func newModel() model \x7b"] ++
  (if sources then
    ["    var metrics MetricSource"] ++
    (if s.design.usesSystemMetrics then ["    metrics = NewSystemMetricsCollector()"] else []) else []) ++
  ["    return model\x7b",
   "        slots: []*widgetSlot\x7b"] ++
  (drawingOrder s).map (fun b => "            " ++ slot s.design.settings.theme b ++ ",") ++
  ["        \x7d,"] ++
  (if sources then
    ["        updater: NewDataSourceUpdater(dataSourceConfigs(), metrics),"] else []) ++
  ["    \x7d",
   "\x7d",
   ""]

def timerLines (s : Scene) : List String :=
  ["func animationTick() tea.Cmd \x7b",
   "    return tea.Tick(" ++ toString Display.animationTickMs ++
     "*time.Millisecond, func(t time.Time) tea.Msg \x7b",
   "        return animationMsg(t)",
   "    \x7d)",
   "\x7d",
   ""] ++
  (if s.hasDataSources then
    ["func refreshTick() tea.Cmd \x7b",
     "    return tea.Tick(" ++ int s.design.settings.refreshRate ++
       "*time.Millisecond, func(t time.Time) tea.Msg \x7b",
     "        return refreshMsg(t)",
     "    \x7d)",
     "\x7d",
     "",
     "// fetchData runs the updater off the update loop.",
     "func fetchData(updater *DataSourceUpdater) tea.Cmd \x7b",
     "    return func() tea.Msg \x7b",
     "        return dataMsg(updater.UpdateAll())",
     "    \x7d",
     "\x7d",
     "",
     "func (m model) Init() tea.Cmd \x7b",
     "    return tea.Batch(animationTick(), fetchData(m.updater), refreshTick())",
     "\x7d"]
  else
    ["func (m model) Init() tea.Cmd \x7b",
     "    return animationTick()",
     "\x7d"])

def updateLines (s : Scene) : List String :=
  ["",
   "func (m model) Update(msg tea.Msg) (tea.Model, tea.Cmd) \x7b",
   "    switch msg := msg.(type) \x7b",
   "    case tea.KeyMsg:",
   "        switch msg.String() \x7b",
   "        case \"q\", \"esc\", \"ctrl+c\":",
   "            return m, tea.Quit",
   "        \x7d",
   "    case animationMsg:",
   "        for _, slot := range m.slots \x7b",
   "            slot.widget.Tick()",
   "        \x7d",
   "        return m, animationTick()"] ++
  (if s.hasDataSources then
    ["    case refreshMsg:",
     "        return m, tea.Batch(fetchData(m.updater), refreshTick())",
     "    case dataMsg:",
     "        for sourceID, value := range msg \x7b",
     "            for _, slot := range m.slots \x7b",
     "                if slot.source == sourceID \x7b",
     "                    slot.widget.Update(value)",
     "                \x7d",
     "            \x7d",
     "        \x7d"] else []) ++
  ["    \x7d",
   "    return m, nil",
   "\x7d"]

def viewLines : List String :=
  ["",
   "func (m model) View() string \x7b",
   "    var rows []string",
   "    var row []string",
   "    rowY, cursorX := -1, 0",
   "    for _, slot := range m.slots \x7b",
   "        if slot.y != rowY \x7b",
   "            if len(row) > 0 \x7b",
   "                rows = append(rows, lipgloss.JoinHorizontal(lipgloss.Top, row...))",
   "            \x7d",
   "            row = nil",
   "            rowY = slot.y",
   "            cursorX = 0",
   "        \x7d",
   "        if gap := slot.x - cursorX; gap > 0 \x7b",
   "            row = append(row, strings.Repeat(\" \", gap))",
   "        \x7d",
   "        content := titleStyle.Render(slot.widget.Title()) + \"\\n\" + slot.widget.Render()",
   "        row = append(row, slot.style.Render(content))",
   "        cursorX = slot.x + slot.width",
   "    \x7d",
   "    if len(row) > 0 \x7b",
   "        rows = append(rows, lipgloss.JoinHorizontal(lipgloss.Top, row...))",
   "    \x7d",
   "    if len(rows) == 0 \x7b",
   "        return \"No widgets\\n\"",
   "    \x7d",
   "    return lipgloss.JoinVertical(lipgloss.Left, rows...) + \"\\n\"",
   "\x7d"]

def app (s : Scene) : String :=
  Text.tabIndent <| Text.joinLines
    ((if s.options.includeComments then ["// Application"] else []) ++
     styleLines s.design.settings.theme ++ modelLines s ++ timerLines s ++ updateLines s ++ viewLines)

def entryPoint : String :=
  Text.tabIndent <| Text.joinLines
    ["func main() \x7b",
     "    logFile, err := os.OpenFile(\"dashboard.log\", os.O_CREATE|os.O_WRONLY|os.O_APPEND, 0o644)",
     "    if err == nil \x7b",
     "        log.SetOutput(logFile)",
     "        defer logFile.Close()",
     "    \x7d",
     "    program := tea.NewProgram(newModel(), tea.WithAltScreen())",
     "    if _, err := program.Run(); err != nil \x7b",
     "        fmt.Println(\"Error running dashboard:\", err)",
     "        os.Exit(1)",
     "    \x7d",
     "\x7d"]

def sectionSeparator : String := "\n\n"

def header (s : Scene) (role : FileRole) (body : String) : String :=
  let shared := match role with
    | .single | .widgets => helpers
    | .app | .dataSources => ""
  let banner :=
    (if s.options.includeComments then
      ["// " ++ Text.commentText s.design.metadata.name ++ ": " ++
         Text.replaceAll (Named.name role) "_" " " ++ " file.",
       "// Generated by tuidesigner. Edit the design and regenerate instead.",
       ""] else []) ++
    ["package main"]
  Text.joinSections [Text.joinLines banner, imports (shared ++ "\n" ++ body), shared] sectionSeparator

/-- The required modules with their versions. -/
def modules : List (String × String) :=
  [("github.com/charmbracelet/bubbletea", "v0.24.2"),
   ("github.com/charmbracelet/lipgloss", "v0.9.1"),
   ("github.com/shirou/gopsutil/v3", "v3.23.10")]

def dependencies : Dependencies :=
  ⟨modules.map fun (name, version) => name ++ "@" ++ version, ["Go 1.19+"], []⟩

def moduleFile : String :=
  Text.joinLines
    (["module dashboard", "", "go 1.19", "", "require ("] ++
     modules.map (fun (name, version) => "\t" ++ name ++ " " ++ version) ++ [")"]) ++ "\n"

def instructions : String :=
  Text.joinLines
    ["1. Make sure Go 1.19 or newer is installed.",
     "",
     "2. Resolve dependencies (this also writes go.sum):",
     "   go mod tidy",
     "",
     "3. Run the dashboard:",
     "   go run .",
     "",
     "4. Or build a binary:",
     "   go build -o dashboard .",
     "   ./dashboard",
     "",
     "Press q to quit. Data source errors are written to dashboard.log."]

end DashboardCompiler.BubbleTea

namespace DashboardCompiler

/-- Dashboards in Go on Bubble Tea and Lip Gloss, with gopsutil for metrics. -/
def Target.bubbleTea : Target where
  framework := .bubbleTea
  displayName := "Bubble Tea"
  language := "go"
  commentMark := "//"
  separator := BubbleTea.sectionSeparator
  singleFile := "main.go"
  appFile := "main.go"
  widgetsFile := "widgets.go"
  sourcesFile := "datasources.go"
  widgetTypes := Named.names WidgetKind
  dependencies := BubbleTea.dependencies
  widget := BubbleTea.widget
  dataSources s := BubbleTea.dataSources s.design s.options.includeComments
  app s := .ok (BubbleTea.app s)
  entryPoint _ := BubbleTea.entryPoint
  header := BubbleTea.header
  footer _ _ := ""
  manifests _ := [("go.mod", BubbleTea.moduleFile, "go")]
  moduleIndex _ := []
  instructions _ := BubbleTea.instructions

end DashboardCompiler
