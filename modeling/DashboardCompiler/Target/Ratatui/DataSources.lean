import DashboardCompiler.Display.Glyphs
import DashboardCompiler.Generation.Scene
import DashboardCompiler.Target.Ratatui.Literal

/-!
# Data sources of Ratatui programs

An enum with one variant for each kind of source, the table of the sources that widgets bind to in the
order of their declaration, the updater that polls the table, and the collector of system metrics if one
of the sources samples the host.
-/

namespace DashboardCompiler.Ratatui

def sourceTypes : List String :=
  ["#[derive(Clone)]",
   "pub enum SourceConfig \x7b",
   "    Static \x7b value: Value \x7d,",
   "    SystemMetric \x7b metric: &'static str, interval: Duration \x7d,",
   "    Api \x7b",
   "        url: &'static str,",
   "        method: &'static str,",
   "        headers: Vec<(&'static str, &'static str)>,",
   "        interval: Duration,",
   "    \x7d,",
   "    File \x7b path: &'static str, watch: bool \x7d,",
   "    Command \x7b command: &'static str, interval: Duration \x7d,",
   "\x7d",
   "",
   "impl SourceConfig \x7b",
   "    /// Minimum time between fetches; None for sources that are read once.",
   "    fn interval(&self) -> Option<Duration> \x7b",
   "        match self \x7b",
   "            SourceConfig::SystemMetric \x7b interval, .. \x7d",
   "            | SourceConfig::Api \x7b interval, .. \x7d",
   "            | SourceConfig::Command \x7b interval, .. \x7d => Some(*interval),",
   "            _ => None,",
   "        \x7d",
   "    \x7d",
   "\x7d",
   "",
   "fn unix_time() -> u64 \x7b",
   "    SystemTime::now()",
   "        .duration_since(UNIX_EPOCH)",
   "        .map(|d| d.as_secs())",
   "        .unwrap_or(0)",
   "\x7d",
   "",
   "/// Append an error line to dashboard.log; the terminal belongs to the UI.",
   "pub fn log_error(message: &str) \x7b",
   "    if let Ok(mut file) = OpenOptions::new().create(true).append(true).open(\"dashboard.log\") \x7b",
   "        let _ = writeln!(file, \"\x7b\x7d ERROR \x7b\x7d\", unix_time(), message);",
   "    \x7d",
   "\x7d"]

/-- Samples the metrics of the host. -/
def collector : List String :=
  ["/// Samples host metrics with sysinfo.",
   "pub struct SystemMetricsCollector \x7b",
   "    system: System,",
   "\x7d",
   "",
   "impl SystemMetricsCollector \x7b",
   "    pub fn new() -> Self \x7b",
   "        let mut system = System::new_all();",
   "        system.refresh_all();",
   "        Self \x7b system \x7d",
   "    \x7d",
   "\x7d",
   "",
   "impl MetricSource for SystemMetricsCollector \x7b",
   "    fn get_metric(&mut self, name: &str) -> Result<f64, String> \x7b",
   "        let s = &mut self.system;",
   "        match name \x7b",
   "            \"cpu_percent\" => \x7b",
   "                s.refresh_cpu();",
   "                Ok(s.global_cpu_info().cpu_usage() as f64)",
   "            \x7d",
   "            \"memory_percent\" | \"memory_used\" | \"memory_total\" => \x7b",
   "                s.refresh_memory();",
   "                let total = s.total_memory() as f64;",
   "                let used = s.used_memory() as f64;",
   "                Ok(match name \x7b",
   "                    \"memory_used\" => used,",
   "                    \"memory_total\" => total,",
   "                    _ if total == 0.0 => 0.0,",
   "                    _ => used / total * 100.0,",
   "                \x7d)",
   "            \x7d",
   "            \"disk_percent\" | \"disk_used\" | \"disk_total\" => \x7b",
   "                s.refresh_disks_list();",
   "                s.refresh_disks();",
   "                let disk = s",
   "                    .disks()",
   "                    .iter()",
   "                    .find(|d| d.mount_point() == Path::new(\"/\"))",
   "                    .or_else(|| s.disks().first())",
   "                    .ok_or(\"no disks found\")?;",
   "                let total = disk.total_space() as f64;",
   "                let used = total - disk.available_space() as f64;",
   "                Ok(match name \x7b",
   "                    \"disk_used\" => used,",
   "                    \"disk_total\" => total,",
   "                    _ if total == 0.0 => 0.0,",
   "                    _ => used / total * 100.0,",
   "                \x7d)",
   "            \x7d",
   "            \"network_in\" | \"network_out\" => \x7b",
   "                s.refresh_networks_list();",
   "                s.refresh_networks();",
   "                let total: u64 = s",
   "                    .networks()",
   "                    .iter()",
   "                    .map(|(_, data)| \x7b",
   "                        if name == \"network_in\" \x7b",
   "                            data.total_received()",
   "                        \x7d else \x7b",
   "                            data.total_transmitted()",
   "                        \x7d",
   "                    \x7d)",
   "                    .sum();",
   "                Ok(total as f64)",
   "            \x7d",
   "            \"process_count\" => \x7b",
   "                s.refresh_processes();",
   "                Ok(s.processes().len() as f64)",
   "            \x7d",
   "            \"load_average\" => Ok(s.load_average().one),",
   "            other => Err(format!(\"unknown metric: \x7b\x7d\", other)),",
   "        \x7d",
   "    \x7d",
   "\x7d"]

def updater : List String :=
  ["/// Supplies system metric values to the updater.",
   "pub trait MetricSource: Send \x7b",
   "    fn get_metric(&mut self, name: &str) -> Result<f64, String>;",
   "\x7d",
   "",
   "/// The widget-facing value of a cache entry; error entries yield None.",
   "fn extract_value(entry: &Map<String, Value>) -> Option<Value> \x7b",
   "    if entry.contains_key(\"error\") \x7b",
   "        return None;",
   "    \x7d",
   "    VALUE_KEYS",
   "        .iter()",
   "        .filter_map(|key| entry.get(*key))",
   "        .find(|value| !value.is_null())",
   "        .cloned()",
   "\x7d",
   "",
   "fn error_entry(message: String) -> Map<String, Value> \x7b",
   "    let mut entry = Map::new();",
   "    entry.insert(\"error\".into(), Value::String(message));",
   "    entry",
   "\x7d",
   "",
   "/// Fetches data sources and caches the latest entry per source id.",
   "///",
   "/// Polled sources are fetched at most once per interval. File sources are",
   "/// re-read only when their modification time changes.",
   "pub struct DataSourceUpdater \x7b",
   "    sources: Vec<(&'static str, SourceConfig)>,",
   "    metrics: Option<Box<dyn MetricSource>>,",
   "    client: reqwest::blocking::Client,",
   "    cache: HashMap<String, Map<String, Value>>,",
   "    last_update: HashMap<String, Instant>,",
   "    file_mtimes: HashMap<String, SystemTime>,",
   "\x7d",
   "",
   "impl DataSourceUpdater \x7b",
   "    pub fn new(sources: Vec<(&'static str, SourceConfig)>, metrics: Option<Box<dyn MetricSource>>) -> Self \x7b",
   "        let client = reqwest::blocking::Client::builder()",
   "            .timeout(HTTP_TIMEOUT)",
   "            .build()",
   "            .unwrap_or_else(|_| reqwest::blocking::Client::new());",
   "        Self \x7b",
   "            sources,",
   "            metrics,",
   "            client,",
   "            cache: HashMap::new(),",
   "            last_update: HashMap::new(),",
   "            file_mtimes: HashMap::new(),",
   "        \x7d",
   "    \x7d",
   "",
   "    /// Refresh every due source and return fresh values by source id.",
   "    pub fn update_all(&mut self) -> HashMap<String, Value> \x7b",
   "        let mut fresh = HashMap::new();",
   "        for index in 0..self.sources.len() \x7b",
   "            let id = self.sources[index].0;",
   "            if self.update_source(index) \x7b",
   "                if let Some(value) = self.cache.get(id).and_then(extract_value) \x7b",
   "                    fresh.insert(id.to_string(), value);",
   "                \x7d",
   "            \x7d",
   "        \x7d",
   "        fresh",
   "    \x7d",
   "",
   "    pub fn get_data(&self, id: &str) -> Option<&Map<String, Value>> \x7b",
   "        self.cache.get(id)",
   "    \x7d",
   "",
   "    fn update_source(&mut self, index: usize) -> bool \x7b",
   "        let (id, config) = self.sources[index].clone();",
   "        if let SourceConfig::File \x7b path, watch \x7d = config \x7b",
   "            return self.update_file(id, path, watch);",
   "        \x7d",
   "        let now = Instant::now();",
   "        if let Some(last) = self.last_update.get(id) \x7b",
   "            match config.interval() \x7b",
   "                None => return false,",
   "                Some(interval) if now.duration_since(*last) < interval => return false,",
   "                _ => \x7b\x7d",
   "            \x7d",
   "        \x7d",
   "        self.last_update.insert(id.to_string(), now);",
   "        let mut entry = match self.fetch(&config) \x7b",
   "            Ok(entry) => entry,",
   "            Err(err) => \x7b",
   "                log_error(&format!(\"data source \x7b\x7d failed: \x7b\x7d\", id, err));",
   "                error_entry(err)",
   "            \x7d",
   "        \x7d;",
   "        entry.insert(\"timestamp\".into(), json!(unix_time()));",
   "        self.cache.insert(id.to_string(), entry);",
   "        true",
   "    \x7d",
   "",
   "    fn fetch(&mut self, config: &SourceConfig) -> Result<Map<String, Value>, String> \x7b",
   "        let mut entry = Map::new();",
   "        match config \x7b",
   "            SourceConfig::Static \x7b value \x7d => \x7b",
   "                entry.insert(\"value\".into(), value.clone());",
   "            \x7d",
   "            SourceConfig::SystemMetric \x7b metric, .. \x7d => \x7b",
   "                let collector = self.metrics.as_mut().ok_or(\"no metrics collector\")?;",
   "                entry.insert(\"value\".into(), json!(collector.get_metric(metric)?));",
   "            \x7d",
   "            SourceConfig::Api \x7b url, method, headers, .. \x7d => \x7b",
   "                let method = reqwest::Method::from_bytes(method.as_bytes()).map_err(|e| e.to_string())?;",
   "                let mut request = self.client.request(method, *url);",
   "                for (key, value) in headers \x7b",
   "                    request = request.header(*key, *value);",
   "                \x7d",
   "                let response = request.send().map_err(|e| e.to_string())?;",
   "                let status = response.status().as_u16();",
   "                let text = response.text().map_err(|e| e.to_string())?;",
   "                let body = match serde_json::from_str::<Value>(&text) \x7b",
   "                    Ok(body) => body,",
   "                    Err(_) => Value::String(text),",
   "                \x7d;",
   "                entry.insert(\"data\".into(), body);",
   "                entry.insert(\"status_code\".into(), json!(status));",
   "            \x7d",
   "            SourceConfig::Command \x7b command, .. \x7d => \x7b",
   "                let (output, stderr, code) = run_command(command)?;",
   "                entry.insert(\"output\".into(), json!(output.trim()));",
   "                entry.insert(\"stderr\".into(), json!(stderr.trim()));",
   "                entry.insert(\"return_code\".into(), json!(code));",
   "            \x7d",
   "            SourceConfig::File \x7b .. \x7d => return Err(\"file sources are read by update_file\".into()),",
   "        \x7d",
   "        Ok(entry)",
   "    \x7d",
   "",
   "    fn update_file(&mut self, id: &'static str, path: &'static str, watch: bool) -> bool \x7b",
   "        let outcome = match fs::metadata(path).and_then(|meta| meta.modified()) \x7b",
   "            Ok(mtime) => \x7b",
   "                if let Some(previous) = self.file_mtimes.get(id) \x7b",
   "                    if *previous == mtime || !watch \x7b",
   "                        return false;",
   "                    \x7d",
   "                \x7d",
   "                fs::read_to_string(path).map(|content| (mtime, content))",
   "            \x7d",
   "            Err(err) => Err(err),",
   "        \x7d;",
   "        let mut entry = match outcome \x7b",
   "            Ok((mtime, content)) => \x7b",
   "                self.file_mtimes.insert(id.to_string(), mtime);",
   "                let mut entry = Map::new();",
   "                entry.insert(\"content\".into(), Value::String(content));",
   "                entry.insert(\"file_path\".into(), json!(path));",
   "                entry",
   "            \x7d",
   "            Err(err) => \x7b",
   "                if self.cache.get(id).map_or(false, |cached| cached.contains_key(\"error\")) \x7b",
   "                    return false;",
   "                \x7d",
   "                let message = format!(\"\x7b\x7d: \x7b\x7d\", path, err);",
   "                log_error(&format!(\"data source \x7b\x7d failed: \x7b\x7d\", id, message));",
   "                error_entry(message)",
   "            \x7d",
   "        \x7d;",
   "        entry.insert(\"timestamp\".into(), json!(unix_time()));",
   "        self.cache.insert(id.to_string(), entry);",
   "        true",
   "    \x7d",
   "\x7d",
   "",
   "/// Run a shell command, killing it once COMMAND_TIMEOUT has passed.",
   "fn run_command(command: &str) -> Result<(String, String, i32), String> \x7b",
   "    let mut child = Command::new(\"sh\")",
   "        .arg(\"-c\")",
   "        .arg(command)",
   "        .stdout(Stdio::piped())",
   "        .stderr(Stdio::piped())",
   "        .spawn()",
   "        .map_err(|e| e.to_string())?;",
   "    let stdout = child.stdout.take();",
   "    let stderr = child.stderr.take();",
   "    let out_reader = thread::spawn(move || \x7b",
   "        let mut text = String::new();",
   "        if let Some(mut pipe) = stdout \x7b",
   "            let _ = pipe.read_to_string(&mut text);",
   "        \x7d",
   "        text",
   "    \x7d);",
   "    let err_reader = thread::spawn(move || \x7b",
   "        let mut text = String::new();",
   "        if let Some(mut pipe) = stderr \x7b",
   "            let _ = pipe.read_to_string(&mut text);",
   "        \x7d",
   "        text",
   "    \x7d);",
   "    let started = Instant::now();",
   "    let status = loop \x7b",
   "        if let Some(status) = child.try_wait().map_err(|e| e.to_string())? \x7b",
   "            break status;",
   "        \x7d",
   "        if started.elapsed() >= COMMAND_TIMEOUT \x7b",
   "            let _ = child.kill();",
   "            let _ = child.wait();",
   "            return Err(format!(\"command timed out after \x7b\x7ds\", COMMAND_TIMEOUT.as_secs()));",
   "        \x7d",
   "        thread::sleep(Duration::from_millis(50));",
   "    \x7d;",
   "    let output = out_reader.join().unwrap_or_default();",
   "    let errors = err_reader.join().unwrap_or_default();",
   "    Ok((output, errors, status.code().unwrap_or(-1)))",
   "\x7d"]

def millis (n : Int) : String := "Duration::from_millis(" ++ int n ++ ")"

/-- A source as a value of the enum. -/
def variant : SourceConfig → String
  | .static v => "SourceConfig::Static \x7b value: " ++ value v ++ " \x7d"
  | .systemMetric metric interval =>
    "SourceConfig::SystemMetric \x7b metric: " ++ text (Named.name metric) ++ ", interval: " ++
      millis interval ++ " \x7d"
  | .api c =>
    "SourceConfig::Api \x7b url: " ++ text c.url ++ ", method: " ++ text (Named.name c.method) ++
      ", headers: vec![" ++ commaList ((c.headers.getD []).map pair) ++ "], interval: " ++
      millis c.interval ++ " \x7d"
  | .file path watch =>
    "SourceConfig::File \x7b path: " ++ text path ++ ", watch: " ++ Literal.flag watch ++ " \x7d"
  | .command line interval =>
    "SourceConfig::Command \x7b command: " ++ text line ++ ", interval: " ++ millis interval ++ " \x7d"

def sourceRow (s : DataSource) : String :=
  "        (" ++ text s.id ++ ", " ++ variant s.config ++ "),"

def sourceTable (d : Design) : String :=
  Text.joinLines
    (["pub fn data_source_configs() -> Vec<(&'static str, SourceConfig)> \x7b", "    vec!["] ++
     d.referencedSources.map sourceRow ++
     ["    ]", "\x7d"])

def constants (comments : Bool) : List String :=
  (if comments then ["// Data sources"] else []) ++
  ["const HTTP_TIMEOUT: Duration = Duration::from_secs(" ++ toString Display.httpTimeoutSeconds ++ ");",
   "const COMMAND_TIMEOUT: Duration = Duration::from_secs(" ++
     toString Display.commandTimeoutSeconds ++ ");",
   "const VALUE_KEYS: [&str; " ++ toString Display.valueKeys.length ++ "] = [" ++
     commaList (Display.valueKeys.map text) ++ "];"]

def dataSources (d : Design) (comments : Bool) : String :=
  Text.joinWith "\n\n"
    ([Text.joinLines (constants comments), Text.joinLines sourceTypes, sourceTable d,
      Text.joinLines updater] ++
     if d.usesSystemMetrics then [Text.joinLines collector] else [])

end DashboardCompiler.Ratatui
