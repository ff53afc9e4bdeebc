import DashboardCompiler.Design.SourceTable
import DashboardCompiler.Generation.Scene
import DashboardCompiler.Target.Textual.Literal

/-!
# Data sources of Textual programs

The table of the sources that widgets bind to, one row for each in the order of their declaration, the
collector of system metrics if one of them samples the host, and the updater that polls the table.
-/

namespace DashboardCompiler.Textual

/-- Samples the metrics of the host. -/
def collector : List String :=
  ["class SystemMetricsCollector:",
   "    \"\"\"Samples host metrics with psutil. Each getter may raise on its own.\"\"\"",
   "",
   "    def __init__(self) -> None:",
   "        self.getters = \x7b",
   "            \"cpu_percent\": self.cpu_percent,",
   "            \"memory_percent\": lambda: psutil.virtual_memory().percent,",
   "            \"memory_used\": lambda: psutil.virtual_memory().used,",
   "            \"memory_total\": lambda: psutil.virtual_memory().total,",
   "            \"disk_percent\": lambda: psutil.disk_usage(\"/\").percent,",
   "            \"disk_used\": lambda: psutil.disk_usage(\"/\").used,",
   "            \"disk_total\": lambda: psutil.disk_usage(\"/\").total,",
   "            \"network_in\": lambda: psutil.net_io_counters().bytes_recv,",
   "            \"network_out\": lambda: psutil.net_io_counters().bytes_sent,",
   "            \"process_count\": lambda: len(psutil.pids()),",
   "            \"load_average\": lambda: os.getloadavg()[0],",
   "        \x7d",
   "",
   "    def cpu_percent(self) -> float:",
   "        return psutil.cpu_percent(interval=None)",
   "",
   "    def get_metric(self, name: str) -> float:",
   "        getter = self.getters.get(name)",
   "        if getter is None:",
   "            raise KeyError(f\"Unknown metric: \x7bname\x7d\")",
   "        return getter()"]

/-- Fetches the sources of the table and keeps the latest entry of each. -/
def updater : List String :=
  ["def extract_value(entry):",
   "    \"\"\"The widget-facing value of a cache entry, or None for error entries.\"\"\"",
   "    if entry is None or \"error\" in entry:",
   "        return None",
   "    for key in VALUE_KEYS:",
   "        if key in entry:",
   "            return entry[key]",
   "    return None",
   "",
   "",
   "class DataSourceUpdater:",
   "    \"\"\"",
   "    Fetches data sources and caches the latest entry per source id.",
   "",
   "    Polled sources are fetched at most once per interval. File sources are",
   "    re-read only when their modification time changes. Every fetch catches",
   "    its own failure and caches an error entry instead.",
   "    \"\"\"",
   "",
   "    def __init__(self, sources, collector=None) -> None:",
   "        self.sources = sources",
   "        self.collector = collector",
   "        self.cache = \x7b\x7d",
   "        self.last_update = \x7b\x7d",
   "        self.file_mtimes = \x7b\x7d",
   "",
   "    def update_all(self):",
   "        \"\"\"Refresh every due source; return \x7bsource_id: value\x7d for fresh values.\"\"\"",
   "        fresh = \x7b\x7d",
   "        for source_id, config in self.sources.items():",
   "            if self.update_source(source_id, config):",
   "                value = extract_value(self.cache.get(source_id))",
   "                if value is not None:",
   "                    fresh[source_id] = value",
   "        return fresh",
   "",
   "    def update_source(self, source_id, config) -> bool:",
   "        kind = config[\"type\"]",
   "        now = time.time()",
   "        if kind == \"file\":",
   "            return self.update_file(source_id, config)",
   "        last = self.last_update.get(source_id)",
   "        if last is not None:",
   "            if kind == \"static\":",
   "                return False",
   "            if (now - last) * 1000 < config[\"interval\"]:",
   "                return False",
   "        self.last_update[source_id] = now",
   "        try:",
   "            if kind == \"static\":",
   "                entry = \x7b\"value\": config[\"value\"]\x7d",
   "            elif kind == \"system_metric\":",
   "                entry = \x7b\"value\": self.collector.get_metric(config[\"metric\"])\x7d",
   "            elif kind == \"api\":",
   "                entry = self.fetch_api(config)",
   "            elif kind == \"command\":",
   "                entry = self.run_command(config)",
   "            else:",
   "                raise ValueError(f\"Unknown data source type: \x7bkind\x7d\")",
   "        except Exception as e:",
   "            logger.error(\"Data source %s failed: %s\", source_id, e)",
   "            entry = \x7b\"error\": str(e)\x7d",
   "        entry[\"timestamp\"] = now",
   "        self.cache[source_id] = entry",
   "        return True",
   "",
   "    def fetch_api(self, config):",
   "        response = httpx.request(",
   "            config[\"method\"],",
   "            config[\"url\"],",
   "            headers=config.get(\"headers\") or \x7b\x7d,",
   "            timeout=HTTP_TIMEOUT,",
   "        )",
   "        try:",
   "            body = response.json()",
   "        except ValueError:",
   "            body = response.text",
   "        return \x7b\"data\": body, \"status_code\": response.status_code\x7d",
   "",
   "    def run_command(self, config):",
   "        result = subprocess.run(",
   "            config[\"command\"],",
   "            shell=True,",
   "            capture_output=True,",
   "            text=True,",
   "            timeout=COMMAND_TIMEOUT,",
   "        )",
   "        return \x7b",
   "            \"output\": result.stdout.strip(),",
   "            \"stderr\": result.stderr.strip(),",
   "            \"return_code\": result.returncode,",
   "        \x7d",
   "",
   "    def update_file(self, source_id, config) -> bool:",
   "        path = config[\"path\"]",
   "        try:",
   "            if not os.path.exists(path):",
   "                raise FileNotFoundError(f\"File not found: \x7bpath\x7d\")",
   "            mtime = os.path.getmtime(path)",
   "            previous = self.file_mtimes.get(source_id)",
   "            if previous is not None and (mtime == previous or not config[\"watch\"]):",
   "                return False",
   "            with open(path, encoding=\"utf-8\") as f:",
   "                content = f.read()",
   "            self.file_mtimes[source_id] = mtime",
   "            entry = \x7b\"content\": content, \"file_path\": path\x7d",
   "        except Exception as e:",
   "            if \"error\" in self.cache.get(source_id, \x7b\x7d):",
   "                return False",
   "            logger.error(\"Data source %s failed: %s\", source_id, e)",
   "            entry = \x7b\"error\": str(e)\x7d",
   "        entry[\"timestamp\"] = time.time()",
   "        self.cache[source_id] = entry",
   "        return True",
   "",
   "    def get_data(self, source_id):",
   "        return self.cache.get(source_id)"]

/-- A row of the source table: the id and the fields of the source. -/
def sourceRow (s : DataSource) : String :=
  "    " ++ text s.id ++ ": " ++ literal s.config.tableEntry ++ ","

def sourceTable (d : Design) : String :=
  Text.joinLines (["DATA_SOURCES = \x7b"] ++ d.referencedSources.map sourceRow ++ ["\x7d"])

def constants (comments : Bool) : List String :=
  (if comments then ["# Data sources"] else []) ++
  ["logger = logging.getLogger(__name__)",
   "",
   "HTTP_TIMEOUT = " ++ toString Display.httpTimeoutSeconds,
   "COMMAND_TIMEOUT = " ++ toString Display.commandTimeoutSeconds,
   "VALUE_KEYS = (" ++ Text.joinWith ", " (Display.valueKeys.map text) ++ ")"]

def dataSources (d : Design) (comments : Bool) : String :=
  Text.joinWith "\n\n\n"
    ([Text.joinLines (constants comments), sourceTable d] ++
     (if d.usesSystemMetrics then [Text.joinLines collector] else []) ++
     [Text.joinLines updater])

end DashboardCompiler.Textual
