import DashboardCompiler.Design.SourceTable
import DashboardCompiler.Display.Glyphs
import DashboardCompiler.Generation.Scene
import DashboardCompiler.Target.Blessed.Literal

/-!
# Data sources of blessed programs

The table of the sources that widgets bind to, each as a plain object, in the order of their declaration;
the collector of system metrics if one of them samples the host; and the updater that polls the table.
-/

namespace DashboardCompiler.Blessed

def logFunction : List String :=
  ["function logError(message) \x7b",
   "  const line = `$\x7bnew Date().toISOString()\x7d ERROR $\x7bmessage\x7d\\n`;",
   "  fs.appendFile(\"dashboard.log\", line, () => \x7b\x7d);",
   "\x7d"]

/-- Samples the metrics of the host. -/
def collector : List String :=
  ["// Samples host metrics with systeminformation.",
   "class SystemMetricsCollector \x7b",
   "  async getMetric(name) \x7b",
   "    switch (name) \x7b",
   "      case \"cpu_percent\":",
   "        return (await si.currentLoad()).currentLoad;",
   "      case \"memory_percent\": \x7b",
   "        const memory = await si.mem();",
   "        return (memory.active / memory.total) * 100;",
   "      \x7d",
   "      case \"memory_used\":",
   "        return (await si.mem()).active;",
   "      case \"memory_total\":",
   "        return (await si.mem()).total;",
   "      case \"disk_percent\":",
   "      case \"disk_used\":",
   "      case \"disk_total\": \x7b",
   "        const disks = await si.fsSize();",
   "        const disk = disks.find((d) => d.mount === \"/\") || disks[0];",
   "        if (!disk) throw new Error(\"no disks found\");",
   "        if (name === \"disk_used\") return disk.used;",
   "        if (name === \"disk_total\") return disk.size;",
   "        return disk.use;",
   "      \x7d",
   "      case \"network_in\":",
   "      case \"network_out\": \x7b",
   "        const stats = await si.networkStats(\"*\");",
   "        const key = name === \"network_in\" ? \"rx_bytes\" : \"tx_bytes\";",
   "        return stats.reduce((sum, iface) => sum + (iface[key] || 0), 0);",
   "      \x7d",
   "      case \"process_count\":",
   "        return (await si.processes()).all;",
   "      case \"load_average\":",
   "        return os.loadavg()[0];",
   "      default:",
   "        throw new Error(`unknown metric: $\x7bname\x7d`);",
   "    \x7d",
   "  \x7d",
   "\x7d"]

def updater : List String :=
  ["// Pick the widget value out of a cache entry; error entries yield nothing.",
   "function extractValue(entry) \x7b",
   "  if (!entry || \"error\" in entry) return null;",
   "  for (const key of VALUE_KEYS) \x7b",
   "    if (entry[key] !== undefined && entry[key] !== null) return entry[key];",
   "  \x7d",
   "  return null;",
   "\x7d",
   "",
   "class DataSourceUpdater \x7b",
   "  constructor(sources, collector = null) \x7b",
   "    this.sources = sources;",
   "    this.collector = collector;",
   "    this.cache = \x7b\x7d;",
   "    this.lastUpdate = \x7b\x7d;",
   "    this.fileMtimes = \x7b\x7d;",
   "  \x7d",
   "",
   "  // Refresh every due source; returns \x7bsourceId: value\x7d for fresh values.",
   "  async updateAll() \x7b",
   "    const fresh = \x7b\x7d;",
   "    for (const [sourceId, config] of Object.entries(this.sources)) \x7b",
   "      if (await this.updateSource(sourceId, config)) \x7b",
   "        const value = extractValue(this.cache[sourceId]);",
   "        if (value !== null) fresh[sourceId] = value;",
   "      \x7d",
   "    \x7d",
   "    return fresh;",
   "  \x7d",
   "",
   "  getData(sourceId) \x7b",
   "    return this.cache[sourceId] || null;",
   "  \x7d",
   "",
   "  async updateSource(sourceId, config) \x7b",
   "    if (config.type === \"file\") return this.updateFile(sourceId, config);",
   "    const now = Date.now();",
   "    const last = this.lastUpdate[sourceId];",
   "    if (last !== undefined && (config.type === \"static\" || now - last < config.interval)) \x7b",
   "      return false;",
   "    \x7d",
   "    this.lastUpdate[sourceId] = now;",
   "    let entry;",
   "    try \x7b",
   "      entry = await this.fetch(config);",
   "    \x7d catch (err) \x7b",
   "      logError(`data source $\x7bsourceId\x7d failed: $\x7berr.message\x7d`);",
   "      entry = \x7b error: err.message \x7d;",
   "    \x7d",
   "    entry.timestamp = now;",
   "    this.cache[sourceId] = entry;",
   "    return true;",
   "  \x7d",
   "",
   "  async fetch(config) \x7b",
   "    switch (config.type) \x7b",
   "      case \"static\":",
   "        return \x7b value: config.value \x7d;",
   "      case \"system_metric\":",
   "        if (!this.collector) throw new Error(\"no metrics collector\");",
   "        return \x7b value: await this.collector.getMetric(config.metric) \x7d;",
   "      case \"api\":",
   "        return this.fetchApi(config);",
   "      case \"command\":",
   "        return this.runCommand(config);",
   "      default:",
   "        throw new Error(`unknown data source type: $\x7bconfig.type\x7d`);",
   "    \x7d",
   "  \x7d",
   "",
   "  async fetchApi(config) \x7b",
   "    const response = await axios.request(\x7b",
   "      url: config.url,",
   "      method: config.method,",
   "      headers: config.headers || \x7b\x7d,",
   "      timeout: HTTP_TIMEOUT_MS,",
   "      validateStatus: () => true,",
   "    \x7d);",
   "    return \x7b data: response.data, status_code: response.status \x7d;",
   "  \x7d",
   "",
   "  runCommand(config) \x7b",
   "    return new Promise((resolve, reject) => \x7b",
   "      exec(config.command, \x7b timeout: COMMAND_TIMEOUT_MS \x7d, (error, stdout, stderr) => \x7b",
   "        if (error && error.killed) \x7b",
   "          reject(new Error(`command timed out after $\x7bCOMMAND_TIMEOUT_MS / 1000\x7ds`));",
   "          return;",
   "        \x7d",
   "        if (error && typeof error.code !== \"number\") \x7b",
   "          reject(error);",
   "          return;",
   "        \x7d",
   "        resolve(\x7b output: stdout.trim(), stderr: stderr.trim(), return_code: error ? error.code : 0 \x7d);",
   "      \x7d);",
   "    \x7d);",
   "  \x7d",
   "",
   "  // Files are re-read only when watched and their mtime moved.",
   "  async updateFile(sourceId, config) \x7b",
   "    let entry;",
   "    try \x7b",
   "      const stats = await fs.promises.stat(config.path);",
   "      const previous = this.fileMtimes[sourceId];",
   "      if (previous !== undefined && (stats.mtimeMs === previous || !config.watch)) return false;",
   "      const content = await fs.promises.readFile(config.path, \"utf8\");",
   "      this.fileMtimes[sourceId] = stats.mtimeMs;",
   "      entry = \x7b content, file_path: config.path \x7d;",
   "    \x7d catch (err) \x7b",
   "      const cached = this.cache[sourceId];",
   "      if (cached && \"error\" in cached) return false;",
   "      logError(`data source $\x7bsourceId\x7d failed: $\x7berr.message\x7d`);",
   "      entry = \x7b error: err.message \x7d;",
   "    \x7d",
   "    entry.timestamp = Date.now();",
   "    this.cache[sourceId] = entry;",
   "    return true;",
   "  \x7d",
   "\x7d"]

def sourceRow (s : DataSource) : String :=
  "  " ++ text s.id ++ ": " ++ literal s.config.tableEntry ++ ","

def sourceTable (d : Design) : String :=
  Text.joinLines (["const DATA_SOURCES = \x7b"] ++ d.referencedSources.map sourceRow ++ ["\x7d;"])

def constants (comments : Bool) : List String :=
  (if comments then ["// Data sources"] else []) ++
  ["const HTTP_TIMEOUT_MS = " ++ toString (Display.httpTimeoutSeconds * 1000) ++ ";",
   "const COMMAND_TIMEOUT_MS = " ++ toString (Display.commandTimeoutSeconds * 1000) ++ ";",
   "const VALUE_KEYS = " ++ literal (texts Display.valueKeys) ++ ";"]

def dataSources (d : Design) (comments : Bool) : String :=
  Text.joinWith "\n\n"
    ([Text.joinLines (constants comments), sourceTable d, Text.joinLines logFunction] ++
     (if d.usesSystemMetrics then [Text.joinLines collector] else []) ++
     [Text.joinLines updater])

end DashboardCompiler.Blessed
