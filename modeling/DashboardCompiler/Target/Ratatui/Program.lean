import DashboardCompiler.Generation.Target
import DashboardCompiler.Target.Ratatui.Color
import DashboardCompiler.Target.Ratatui.DataSources
import DashboardCompiler.Target.Ratatui.Helpers
import DashboardCompiler.Target.Ratatui.Uses
import DashboardCompiler.Target.Ratatui.Widget

/-!
# The Ratatui target

The application with its slots in document order, the placement of the slots on the terminal, file headers
with their use declarations, and the packaging of the crate. In modular output the widgets and the data
sources are modules of a library that the binary uses.
-/

namespace DashboardCompiler.Ratatui

/-- The borders and the border type of a slot; there is no border of ASCII characters. -/
def border : BorderStyle → String × String
  | .single => ("Borders::ALL", "BorderType::Plain")
  | .double => ("Borders::ALL", "BorderType::Double")
  | .rounded => ("Borders::ALL", "BorderType::Rounded")
  | .heavy => ("Borders::ALL", "BorderType::Thick")
  | .ascii => ("Borders::ALL", "BorderType::Plain")
  | .none => ("Borders::NONE", "BorderType::Plain")

def borderOf (w : Widget) : String × String :=
  match w.style with
  | some s => border s.borderStyle
  | none => border .single

def sourceOf (w : Widget) : String :=
  match w.dataSource with
  | some id => if id.isEmpty then "None" else "Some(" ++ text id ++ ")"
  | none => "None"

/-- A slot puts a widget on the canvas and says which source feeds it. -/
def slot (theme : Theme) (b : Behavior) : List String :=
  let w := b.widget
  let colors := b.colors theme
  let (borders, borderType) := borderOf w
  ["Slot \x7b",
   "    source: " ++ sourceOf w ++ ",",
   "    rect: Rect::new(" ++ int w.position.x ++ ", " ++ int w.position.y ++ ", " ++
     int w.size.width ++ ", " ++ int w.size.height ++ "),",
   "    borders: " ++ borders ++ ",",
   "    border_type: " ++ borderType ++ ",",
   "    border_color: " ++ color colors.border ++ ",",
   "    text_color: " ++ color colors.text ++ ",",
   "    widget: Box::new(" ++ b.typeName ++ "::new()),",
   "\x7d,"]

/-- The placement of a slot: scaled to the terminal, or at its own coordinates. -/
def placeLines (scaled : Bool) : List String :=
  if scaled then
    ["/// Scale a rectangle from design coordinates to the terminal area.",
     "fn place(rect: Rect, area: Rect) -> Rect \x7b",
     "    let scale = |v: u16, size: u16, design: u16| (v as u32 * size as u32 / design as u32) as u16;",
     "    Rect::new(",
     "        area.x + scale(rect.x, area.width, DESIGN_WIDTH),",
     "        area.y + scale(rect.y, area.height, DESIGN_HEIGHT),",
     "        scale(rect.width, area.width, DESIGN_WIDTH),",
     "        scale(rect.height, area.height, DESIGN_HEIGHT),",
     "    )",
     "    .intersection(area)",
     "\x7d"]
  else
    ["/// Place a rectangle at its design coordinates, clipped to the terminal.",
     "fn place(rect: Rect, area: Rect) -> Rect \x7b",
     "    Rect::new(area.x + rect.x, area.y + rect.y, rect.width, rect.height).intersection(area)",
     "\x7d"]

def constantLines (s : Scene) : List String :=
  let settings := s.design.settings
  ["const DESIGN_WIDTH: u16 = " ++ int settings.dimensions.width ++ ";",
   "const DESIGN_HEIGHT: u16 = " ++ int settings.dimensions.height ++ ";",
   "const ANIMATION_TICK: Duration = Duration::from_millis(" ++
     toString Display.animationTickMs ++ ");"] ++
  if s.hasDataSources then
    ["const REFRESH_INTERVAL: Duration = " ++ millis settings.refreshRate ++ ";"] else []

def structureLines (s : Scene) : List String :=
  ["",
   "struct Slot \x7b",
   "    source: Option<&'static str>,",
   "    rect: Rect,",
   "    borders: Borders,",
   "    border_type: BorderType,",
   "    border_color: Color,",
   "    text_color: Color,",
   "    widget: Box<dyn DashboardWidget>,",
   "\x7d",
   ""] ++
  ["/// " ++ Text.commentText s.design.metadata.name,
   "struct App \x7b",
   "    slots: Vec<Slot>,"] ++
  (if s.hasDataSources then ["    updates: Receiver<HashMap<String, Value>>,"] else []) ++
  ["\x7d"]

def metricsArgument (d : Design) : String :=
  if d.usesSystemMetrics then
    "Some(Box::new(SystemMetricsCollector::new()) as Box<dyn MetricSource>)"
  else "None"

def receiveLines : List String :=
  ["",
   "    /// Push every batch of fresh values to the widgets bound to them.",
   "    fn receive(&mut self) \x7b",
   "        while let Ok(fresh) = self.updates.try_recv() \x7b",
   "            for (source_id, value) in &fresh \x7b",
   "                for slot in self.slots.iter_mut() \x7b",
   "                    if slot.source == Some(source_id.as_str()) \x7b",
   "                        slot.widget.update(value);",
   "                    \x7d",
   "                \x7d",
   "            \x7d",
   "        \x7d",
   "    \x7d"]

def appLines (s : Scene) : List String :=
  let sources := s.hasDataSources
  ["",
   "impl App \x7b",
   "    fn new() -> Self \x7b"] ++
  (if sources then
    ["        let updater = DataSourceUpdater::new(data_source_configs(), " ++
       metricsArgument s.design ++ ");"] else []) ++
  ["        Self \x7b",
   "            slots: vec!["] ++
  (s.behaviors.flatMap (slot s.design.settings.theme)).map ("                " ++ ·) ++
  ["            ],"] ++
  (if sources then ["            updates: spawn_updater(updater),"] else []) ++
  ["        \x7d",
   "    \x7d",
   "",
   "    fn tick(&mut self) \x7b",
   "        for slot in self.slots.iter_mut() \x7b",
   "            slot.widget.tick();",
   "        \x7d",
   "    \x7d"] ++
  (if sources then receiveLines else []) ++
  ["\x7d",
   ""]

def spawnLines : List String :=
  ["/// Run the updater on its own thread so slow sources never stall drawing.",
   "fn spawn_updater(mut updater: DataSourceUpdater) -> Receiver<HashMap<String, Value>> \x7b",
   "    let (tx, rx) = mpsc::channel();",
   "    thread::spawn(move || loop \x7b",
   "        let fresh = updater.update_all();",
   "        if !fresh.is_empty() && tx.send(fresh).is_err() \x7b",
   "            break;",
   "        \x7d",
   "        thread::sleep(REFRESH_INTERVAL);",
   "    \x7d);",
   "    rx",
   "\x7d",
   ""]

def runLines (sources : Bool) : List String :=
  ["",
   "fn ui(frame: &mut Frame, app: &App) \x7b",
   "    let area = frame.size();",
   "    for slot in &app.slots \x7b",
   "        let rect = place(slot.rect, area);",
   "        if rect.width < 2 || rect.height < 2 \x7b",
   "            continue;",
   "        \x7d",
   "        let title = Span::styled(slot.widget.title().to_string(), Style::default().add_modifier(Modifier::BOLD));",
   "        let block = Block::default()",
   "            .title(title)",
   "            .borders(slot.borders)",
   "            .border_type(slot.border_type)",
   "            .border_style(Style::default().fg(slot.border_color));",
   "        let paragraph = Paragraph::new(slot.widget.render_text())",
   "            .style(Style::default().fg(slot.text_color))",
   "            .block(block);",
   "        frame.render_widget(paragraph, rect);",
   "    \x7d",
   "\x7d",
   "",
   "fn run(terminal: &mut Terminal<CrosstermBackend<io::Stdout>>, app: &mut App) -> io::Result<()> \x7b",
   "    let mut last_tick = Instant::now();",
   "    loop \x7b",
   "        terminal.draw(|frame| ui(frame, app))?;",
   "        let timeout = ANIMATION_TICK.saturating_sub(last_tick.elapsed());",
   "        if event::poll(timeout)? \x7b",
   "            if let Event::Key(key) = event::read()? \x7b",
   "                if key.kind == KeyEventKind::Press \x7b",
   "                    match key.code \x7b",
   "                        KeyCode::Char('q') | KeyCode::Esc => return Ok(()),",
   "                        KeyCode::Char('c') if key.modifiers.contains(KeyModifiers::CONTROL) => return Ok(()),",
   "                        _ => \x7b\x7d",
   "                    \x7d",
   "                \x7d",
   "            \x7d",
   "        \x7d",
   "        if last_tick.elapsed() >= ANIMATION_TICK \x7b",
   "            app.tick();",
   "            last_tick = Instant::now();",
   "        \x7d"] ++
  (if sources then ["        app.receive();"] else []) ++
  ["    \x7d", "\x7d"]

def app (s : Scene) : String :=
  let settings := s.design.settings
  Text.joinLines
    ((if s.options.includeComments then ["// Application"] else []) ++
     constantLines s ++ structureLines s ++ appLines s ++
     (if s.hasDataSources then spawnLines else []) ++
     placeLines settings.autoResize ++ runLines s.hasDataSources)

def entryPoint : String :=
  Text.joinLines
    ["fn main() -> io::Result<()> \x7b",
     "    enable_raw_mode()?;",
     "    let mut stdout = io::stdout();",
     "    execute!(stdout, EnterAlternateScreen)?;",
     "    let mut terminal = Terminal::new(CrosstermBackend::new(stdout))?;",
     "    let mut app = App::new();",
     "    let result = run(&mut terminal, &mut app);",
     "    disable_raw_mode()?;",
     "    execute!(terminal.backend_mut(), LeaveAlternateScreen)?;",
     "    terminal.show_cursor()?;",
     "    if let Err(err) = &result \x7b",
     "        eprintln!(\"Error running dashboard: \x7b\x7d\", err);",
     "    \x7d",
     "    result",
     "\x7d"]

def sectionSeparator : String := "\n\n"

/-- Only the files that hold widgets have the helpers, some of which no widget may call. -/
def hasHelpers : FileRole → Bool
  | .single | .widgets => true
  | .app | .dataSources => false

def header (s : Scene) (role : FileRole) : String :=
  let banner :=
    (if s.options.includeComments then
      ["// " ++ Text.commentText s.design.metadata.name ++ ": " ++
         Text.replaceAll (Named.name role) "_" " " ++ " module.",
       "// Generated by tuidesigner. Edit the design and regenerate instead.",
       ""] else []) ++
    (if hasHelpers role then ["#![allow(dead_code)]"] else [])
  Text.joinSections
    [Text.joinLines banner, useDeclarations (fileUses s role), if hasHelpers role then helpers else ""]
    sectionSeparator

/-- The crates that a dashboard depends on, with their requirements. -/
def crates : List (String × String) :=
  [("ratatui", "\"0.24\""),
   ("crossterm", "\"0.27\""),
   ("serde_json", "\"1.0\""),
   ("reqwest", "\x7b version = \"0.11\", features = [\"blocking\", \"json\"] \x7d"),
   ("sysinfo", "\"0.29\"")]

def crateLines : List String := crates.map fun (name, spec) => name ++ " = " ++ spec

def dependencies : Dependencies := ⟨crateLines, ["Rust 1.70+", "Cargo"], []⟩

def crateManifest : String :=
  Text.joinLines
    (["[package]",
      "name = \"" ++ crateName ++ "\"",
      "version = \"0.1.0\"",
      "edition = \"2021\"",
      "",
      "[dependencies]"] ++ crateLines) ++ "\n"

def moduleIndex (s : Scene) : String :=
  Text.joinLines
    (["pub mod widgets;"] ++ if s.hasDataSources then ["pub mod data_sources;"] else []) ++ "\n"

def instructions : String :=
  Text.joinLines
    ["1. Make sure Rust 1.70 or newer is installed (https://rustup.rs).",
     "",
     "2. Build and run the dashboard:",
     "   cargo run --release",
     "",
     "3. Or build a binary:",
     "   cargo build --release",
     "   ./target/release/" ++ crateName,
     "",
     "Press q to quit. Data source errors are written to dashboard.log."]

end DashboardCompiler.Ratatui

namespace DashboardCompiler

/-- Dashboards in Rust on Ratatui and crossterm, with sysinfo for metrics. -/
def Target.ratatui : Target where
  framework := .ratatui
  displayName := "Ratatui"
  language := "rust"
  commentMark := "//"
  separator := Ratatui.sectionSeparator
  singleFile := "src/main.rs"
  appFile := "src/main.rs"
  widgetsFile := "src/widgets.rs"
  sourcesFile := "src/data_sources.rs"
  widgetTypes := Named.names WidgetKind
  dependencies := Ratatui.dependencies
  widget := Ratatui.widget
  dataSources s := .ok (Ratatui.dataSources s.design s.options.includeComments)
  app s := .ok (Ratatui.app s)
  entryPoint _ := Ratatui.entryPoint
  header s role _ := Ratatui.header s role
  footer _ _ := ""
  manifests _ := [("Cargo.toml", Ratatui.crateManifest, "toml")]
  moduleIndex s := [("src/lib.rs", Ratatui.moduleIndex s)]
  instructions _ := Ratatui.instructions

end DashboardCompiler
