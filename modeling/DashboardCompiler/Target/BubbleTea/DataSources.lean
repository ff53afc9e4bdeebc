import DashboardCompiler.Display.Glyphs
import DashboardCompiler.Generation.Scene
import DashboardCompiler.Target.BubbleTea.Literal

/-!
# Data sources of Bubble Tea programs

The table of the sources that widgets bind to, one row for each in the order of their declaration, the
collector of system metrics if one of them samples the host, and the updater that polls the table.
-/

namespace DashboardCompiler.BubbleTea

/-- Samples the metrics of the host. -/
def collector : List String :=
  ["// SystemMetricsCollector samples host metrics with gopsutil.",
   "type SystemMetricsCollector struct\x7b\x7d",
   "",
   "func NewSystemMetricsCollector() *SystemMetricsCollector \x7b",
   "    return &SystemMetricsCollector\x7b\x7d",
   "\x7d",
   "",
   "func (c *SystemMetricsCollector) GetMetric(name string) (float64, error) \x7b",
   "    switch name \x7b",
   "    case \"cpu_percent\":",
   "        percents, err := cpu.Percent(0, false)",
   "        if err != nil \x7b",
   "            return 0, err",
   "        \x7d",
   "        if len(percents) == 0 \x7b",
   "            return 0, fmt.Errorf(\"no cpu samples\")",
   "        \x7d",
   "        return percents[0], nil",
   "    case \"memory_percent\", \"memory_used\", \"memory_total\":",
   "        vm, err := mem.VirtualMemory()",
   "        if err != nil \x7b",
   "            return 0, err",
   "        \x7d",
   "        switch name \x7b",
   "        case \"memory_used\":",
   "            return float64(vm.Used), nil",
   "        case \"memory_total\":",
   "            return float64(vm.Total), nil",
   "        \x7d",
   "        return vm.UsedPercent, nil",
   "    case \"disk_percent\", \"disk_used\", \"disk_total\":",
   "        usage, err := disk.Usage(\"/\")",
   "        if err != nil \x7b",
   "            return 0, err",
   "        \x7d",
   "        switch name \x7b",
   "        case \"disk_used\":",
   "            return float64(usage.Used), nil",
   "        case \"disk_total\":",
   "            return float64(usage.Total), nil",
   "        \x7d",
   "        return usage.UsedPercent, nil",
   "    case \"network_in\", \"network_out\":",
   "        counters, err := psnet.IOCounters(false)",
   "        if err != nil \x7b",
   "            return 0, err",
   "        \x7d",
   "        if len(counters) == 0 \x7b",
   "            return 0, fmt.Errorf(\"no network counters\")",
   "        \x7d",
   "        if name == \"network_in\" \x7b",
   "            return float64(counters[0].BytesRecv), nil",
   "        \x7d",
   "        return float64(counters[0].BytesSent), nil",
   "    case \"process_count\":",
   "        pids, err := process.Pids()",
   "        if err != nil \x7b",
   "            return 0, err",
   "        \x7d",
   "        return float64(len(pids)), nil",
   "    case \"load_average\":",
   "        avg, err := load.Avg()",
   "        if err != nil \x7b",
   "            return 0, err",
   "        \x7d",
   "        return avg.Load1, nil",
   "    \x7d",
   "    return 0, fmt.Errorf(\"unknown metric: %s\", name)",
   "\x7d"]

/-- Fetches the sources of the table and keeps the latest entry of each. -/
def updater : List String :=
  ["// MetricSource supplies system metric values to the updater.",
   "type MetricSource interface \x7b",
   "    GetMetric(name string) (float64, error)",
   "\x7d",
   "",
   "// extractValue returns the widget-facing value of a cache entry.",
   "// Error entries yield nothing.",
   "func extractValue(entry map[string]interface\x7b\x7d) (interface\x7b\x7d, bool) \x7b",
   "    if entry == nil \x7b",
   "        return nil, false",
   "    \x7d",
   "    if _, failed := entry[\"error\"]; failed \x7b",
   "        return nil, false",
   "    \x7d",
   "    for _, key := range valueKeys \x7b",
   "        if value, ok := entry[key]; ok && value != nil \x7b",
   "            return value, true",
   "        \x7d",
   "    \x7d",
   "    return nil, false",
   "\x7d",
   "",
   "// DataSourceUpdater fetches data sources and caches the latest entry per",
   "// source id. Polled sources are fetched at most once per interval; file",
   "// sources are re-read only when their modification time changes.",
   "type DataSourceUpdater struct \x7b",
   "    mu         sync.Mutex",
   "    sources    []NamedSource",
   "    metrics    MetricSource",
   "    client     *http.Client",
   "    cache      map[string]map[string]interface\x7b\x7d",
   "    lastUpdate map[string]time.Time",
   "    fileMtimes map[string]time.Time",
   "\x7d",
   "",
   "func NewDataSourceUpdater(sources []NamedSource, metrics MetricSource) *DataSourceUpdater \x7b",
   "    return &DataSourceUpdater\x7b",
   "        sources:    sources,",
   "        metrics:    metrics,",
   "        client:     &http.Client\x7bTimeout: httpTimeout\x7d,",
   "        cache:      map[string]map[string]interface\x7b\x7d\x7b\x7d,",
   "        lastUpdate: map[string]time.Time\x7b\x7d,",
   "        fileMtimes: map[string]time.Time\x7b\x7d,",
   "    \x7d",
   "\x7d",
   "",
   "// UpdateAll refreshes every due source and returns fresh values by source id.",
   "func (u *DataSourceUpdater) UpdateAll() map[string]interface\x7b\x7d \x7b",
   "    u.mu.Lock()",
   "    defer u.mu.Unlock()",
   "    fresh := map[string]interface\x7b\x7d\x7b\x7d",
   "    for _, source := range u.sources \x7b",
   "        if u.updateSource(source) \x7b",
   "            if value, ok := extractValue(u.cache[source.ID]); ok \x7b",
   "                fresh[source.ID] = value",
   "            \x7d",
   "        \x7d",
   "    \x7d",
   "    return fresh",
   "\x7d",
   "",
   "// GetData returns the cached entry for a source, if any.",
   "func (u *DataSourceUpdater) GetData(id string) map[string]interface\x7b\x7d \x7b",
   "    u.mu.Lock()",
   "    defer u.mu.Unlock()",
   "    return u.cache[id]",
   "\x7d",
   "",
   "func (u *DataSourceUpdater) updateSource(source NamedSource) bool \x7b",
   "    cfg := source.Config",
   "    if cfg.Type == \"file\" \x7b",
   "        return u.updateFile(source.ID, cfg)",
   "    \x7d",
   "    now := time.Now()",
   "    if last, ok := u.lastUpdate[source.ID]; ok \x7b",
   "        if cfg.Type == \"static\" || now.Sub(last) < cfg.Interval \x7b",
   "            return false",
   "        \x7d",
   "    \x7d",
   "    u.lastUpdate[source.ID] = now",
   "    entry, err := u.fetch(cfg)",
   "    if err != nil \x7b",
   "        log.Printf(\"data source %s failed: %v\", source.ID, err)",
   "        entry = map[string]interface\x7b\x7d\x7b\"error\": err.Error()\x7d",
   "    \x7d",
   "    entry[\"timestamp\"] = now.Unix()",
   "    u.cache[source.ID] = entry",
   "    return true",
   "\x7d",
   "",
   "func (u *DataSourceUpdater) fetch(cfg SourceConfig) (map[string]interface\x7b\x7d, error) \x7b",
   "    switch cfg.Type \x7b",
   "    case \"static\":",
   "        return map[string]interface\x7b\x7d\x7b\"value\": cfg.Value\x7d, nil",
   "    case \"system_metric\":",
   "        if u.metrics == nil \x7b",
   "            return nil, fmt.Errorf(\"no metrics collector\")",
   "        \x7d",
   "        value, err := u.metrics.GetMetric(cfg.Metric)",
   "        if err != nil \x7b",
   "            return nil, err",
   "        \x7d",
   "        return map[string]interface\x7b\x7d\x7b\"value\": value\x7d, nil",
   "    case \"api\":",
   "        return u.fetchAPI(cfg)",
   "    case \"command\":",
   "        return u.runCommand(cfg)",
   "    \x7d",
   "    return nil, fmt.Errorf(\"unknown data source type: %s\", cfg.Type)",
   "\x7d",
   "",
   "func (u *DataSourceUpdater) fetchAPI(cfg SourceConfig) (map[string]interface\x7b\x7d, error) \x7b",
   "    req, err := http.NewRequest(cfg.Method, cfg.URL, nil)",
   "    if err != nil \x7b",
   "        return nil, err",
   "    \x7d",
   "    for key, value := range cfg.Headers \x7b",
   "        req.Header.Set(key, value)",
   "    \x7d",
   "    resp, err := u.client.Do(req)",
   "    if err != nil \x7b",
   "        return nil, err",
   "    \x7d",
   "    defer resp.Body.Close()",
   "    raw, err := io.ReadAll(resp.Body)",
   "    if err != nil \x7b",
   "        return nil, err",
   "    \x7d",
   "    var body interface\x7b\x7d",
   "    if err := json.Unmarshal(raw, &body); err != nil \x7b",
   "        body = string(raw)",
   "    \x7d",
   "    return map[string]interface\x7b\x7d\x7b\"data\": body, \"status_code\": resp.StatusCode\x7d, nil",
   "\x7d",
   "",
   "func (u *DataSourceUpdater) runCommand(cfg SourceConfig) (map[string]interface\x7b\x7d, error) \x7b",
   "    ctx, cancel := context.WithTimeout(context.Background(), commandTimeout)",
   "    defer cancel()",
   "    cmd := exec.CommandContext(ctx, \"sh\", \"-c\", cfg.Command)",
   "    var stdout, stderr bytes.Buffer",
   "    cmd.Stdout = &stdout",
   "    cmd.Stderr = &stderr",
   "    err := cmd.Run()",
   "    if ctx.Err() != nil \x7b",
   "        return nil, fmt.Errorf(\"command timed out after %s\", commandTimeout)",
   "    \x7d",
   "    code := 0",
   "    if err != nil \x7b",
   "        var exitErr *exec.ExitError",
   "        if !errors.As(err, &exitErr) \x7b",
   "            return nil, err",
   "        \x7d",
   "        code = exitErr.ExitCode()",
   "    \x7d",
   "    return map[string]interface\x7b\x7d\x7b",
   "        \"output\":      strings.TrimSpace(stdout.String()),",
   "        \"stderr\":      strings.TrimSpace(stderr.String()),",
   "        \"return_code\": code,",
   "    \x7d, nil",
   "\x7d",
   "",
   "func (u *DataSourceUpdater) updateFile(id string, cfg SourceConfig) bool \x7b",
   "    info, err := os.Stat(cfg.Path)",
   "    if err == nil \x7b",
   "        previous, seen := u.fileMtimes[id]",
   "        if seen && (info.ModTime().Equal(previous) || !cfg.Watch) \x7b",
   "            return false",
   "        \x7d",
   "        var content []byte",
   "        content, err = os.ReadFile(cfg.Path)",
   "        if err == nil \x7b",
   "            u.fileMtimes[id] = info.ModTime()",
   "            u.cache[id] = map[string]interface\x7b\x7d\x7b",
   "                \"content\":   string(content),",
   "                \"file_path\": cfg.Path,",
   "                \"timestamp\": time.Now().Unix(),",
   "            \x7d",
   "            return true",
   "        \x7d",
   "    \x7d",
   "    if _, failed := u.cache[id][\"error\"]; failed \x7b",
   "        return false",
   "    \x7d",
   "    log.Printf(\"data source %s failed: %v\", id, err)",
   "    u.cache[id] = map[string]interface\x7b\x7d\x7b\"error\": err.Error(), \"timestamp\": time.Now().Unix()\x7d",
   "    return true",
   "\x7d"]

def sourceTypes : List String :=
  ["// SourceConfig describes one data source. Interval is zero for static",
   "// and file sources.",
   "type SourceConfig struct \x7b",
   "    Type     string",
   "    Value    interface\x7b\x7d",
   "    Metric   string",
   "    URL      string",
   "    Method   string",
   "    Headers  map[string]string",
   "    Path     string",
   "    Watch    bool",
   "    Command  string",
   "    Interval time.Duration",
   "\x7d",
   "",
   "// NamedSource pairs a source id with its config.",
   "type NamedSource struct \x7b",
   "    ID     string",
   "    Config SourceConfig",
   "\x7d"]

/-- Empty headers are left out. -/
def headerFields : Option (List (String × String)) → List String
  | none | some [] => []
  | some headers =>
    ["Headers: map[string]string\x7b" ++
      commaList (headers.map fun (k, v) => text k ++ ": " ++ text v) ++ "\x7d"]

def kindFields : SourceConfig → Except ArithmeticFault (List String)
  | .static v => do return ["Value: " ++ (← value v)]
  | .systemMetric metric _ => .ok ["Metric: " ++ text (Named.name metric)]
  | .api c => .ok
      (["URL: " ++ text c.url, "Method: " ++ text (Named.name c.method)] ++ headerFields c.headers)
  | .file path watch => .ok ["Path: " ++ text path, "Watch: " ++ Literal.flag watch]
  | .command line _ => .ok ["Command: " ++ text line]

def intervalFields (c : SourceConfig) : List String :=
  match c.interval? with
  | some ms => if ms = 0 then [] else ["Interval: " ++ int ms ++ " * time.Millisecond"]
  | none => []

/-- A row of the source table: the id and the fields of the source. -/
def sourceRow (s : DataSource) : Except ArithmeticFault String := do
  let fields := ["Type: " ++ text s.config.kind] ++ (← kindFields s.config) ++ intervalFields s.config
  return "        \x7bID: " ++ text s.id ++ ", Config: SourceConfig\x7b" ++ commaList fields ++ "\x7d\x7d,"

def sourceTable (d : Design) : Except ArithmeticFault String := do
  let rows ← d.referencedSources.mapM sourceRow
  return Text.joinLines
    (["func dataSourceConfigs() []NamedSource \x7b", "    return []NamedSource\x7b"] ++ rows ++
     ["    \x7d", "\x7d"])

def constants (comments : Bool) : List String :=
  (if comments then ["// Data sources"] else []) ++
  ["const (",
   "    httpTimeout    = " ++ toString Display.httpTimeoutSeconds ++ " * time.Second",
   "    commandTimeout = " ++ toString Display.commandTimeoutSeconds ++ " * time.Second",
   ")",
   "",
   "var valueKeys = " ++ strings Display.valueKeys]

def dataSources (d : Design) (comments : Bool) : Except ArithmeticFault String := do
  let table ← sourceTable d
  return Text.tabIndent <| Text.joinWith "\n\n"
    ([Text.joinLines (constants comments), Text.joinLines sourceTypes, table] ++
     (if d.usesSystemMetrics then [Text.joinLines collector] else []) ++
     [Text.joinLines updater])

end DashboardCompiler.BubbleTea
