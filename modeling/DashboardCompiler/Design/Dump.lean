import DashboardCompiler.Design.Properties

/-!
# Designs as documents

Every record as a document with all its fields under their main spellings. Enumerations are written by
name; properties and static values stay as they were given.
-/

namespace DashboardCompiler

def Json.ofNamed {α : Type} [Named α] (a : α) : Json := .text (Named.name a)

def Extent.toJson (e : Extent) : Json :=
  .object [("width", .ofInt e.width), ("height", .ofInt e.height)]

def Point.toJson (p : Point) : Json := .object [("x", .ofInt p.x), ("y", .ofInt p.y)]

def Metadata.toJson (m : Metadata) : Json :=
  .object
    [("name", .text m.name),
     ("description", .ofOptional .text m.description),
     ("author", .ofOptional .text m.author),
     ("version", .text m.version),
     ("created", .ofOptional .text m.created),
     ("modified", .ofOptional .text m.modified),
     ("targetFramework", .ofNamed m.targetFramework),
     ("tags", .list (m.tags.map .text))]

def Settings.toJson (s : Settings) : Json :=
  .object
    [("dimensions", s.dimensions.toJson),
     ("gridSize", .ofInt s.gridSize),
     ("theme", .ofNamed s.theme),
     ("refreshRate", .ofInt s.refreshRate),
     ("autoResize", .bool s.autoResize)]

def WidgetStyle.toJson (s : WidgetStyle) : Json :=
  .object
    [("borderStyle", .ofNamed s.borderStyle),
     ("borderColor", .ofOptional .text s.borderColor),
     ("backgroundColor", .ofOptional .text s.backgroundColor),
     ("textColor", .ofOptional .text s.textColor),
     ("padding", .ofInt s.padding)]

def Widget.toJson (w : Widget) : Json :=
  .object
    [("id", .text w.id),
     ("type", .text w.type),
     ("position", w.position.toJson),
     ("size", w.size.toJson),
     ("title", .ofOptional .text w.title),
     ("dataSource", .ofOptional .text w.dataSource),
     ("style", .ofOptional WidgetStyle.toJson w.style),
     ("properties", .object w.properties)]

def SourceConfig.toJson : SourceConfig → Json
  | .static value => .object [("type", .text "static"), ("value", value)]
  | .systemMetric metric interval =>
    .object [("type", .text "system_metric"), ("metric", .ofNamed metric), ("interval", .ofInt interval)]
  | .api config =>
    .object
      [("type", .text "api"),
       ("url", .text config.url),
       ("method", .ofNamed config.method),
       ("headers", .ofOptional (fun hs => .object (hs.map fun (k, v) => (k, .text v))) config.headers),
       ("interval", .ofInt config.interval)]
  | .file path watch =>
    .object [("type", .text "file"), ("path", .text path), ("watch", .bool watch)]
  | .command line interval =>
    .object [("type", .text "command"), ("command", .text line), ("interval", .ofInt interval)]

def DataSource.toJson (s : DataSource) : Json :=
  .object
    [("id", .text s.id), ("name", .ofOptional .text s.name), ("config", s.config.toJson)]

def Design.toJson (d : Design) : Json :=
  .object
    [("version", .text d.version),
     ("metadata", d.metadata.toJson),
     ("settings", d.settings.toJson),
     ("widgets", .list (d.widgets.map Widget.toJson)),
     ("dataSources", .list (d.dataSources.map DataSource.toJson))]

def Properties.toJson : Properties → Json
  | .text p =>
    .object [("content", .text p.content), ("align", .ofNamed p.align), ("wrap", .bool p.wrap)]
  | .lineChart p =>
    .object
      [("xLabel", .text p.xLabel),
       ("yLabel", .text p.yLabel),
       ("showGrid", .bool p.showGrid),
       ("showLegend", .bool p.showLegend),
       ("maxPoints", .ofInt p.maxPoints)]
  | .barChart p =>
    .object
      [("orientation", .ofNamed p.orientation),
       ("showValues", .bool p.showValues),
       ("showLegend", .bool p.showLegend),
       ("maxBars", .ofInt p.maxBars)]
  | .table p =>
    .object
      [("showHeaders", .bool p.showHeaders),
       ("sortable", .bool p.sortable),
       ("filterable", .bool p.filterable),
       ("maxRows", .ofInt p.maxRows)]
  | .progressBar p =>
    .object
      [("showPercentage", .bool p.showPercentage),
       ("color", .ofNamed p.color),
       ("animated", .bool p.animated),
       ("min", .number p.min),
       ("max", .number p.max)]
  | .sparkline p =>
    .object
      [("style", .ofNamed p.style),
       ("showMinMax", .bool p.showMinMax),
       ("showCurrent", .bool p.showCurrent)]
  | .gauge p =>
    .object
      [("min", .number p.min),
       ("max", .number p.max),
       ("showValue", .bool p.showValue),
       ("units", .text p.units)]
  | .logViewer p =>
    .object
      [("maxLines", .ofInt p.maxLines),
       ("autoScroll", .bool p.autoScroll),
       ("showTimestamp", .bool p.showTimestamp),
       ("filter", .text p.filter)]
  | .metricCard p =>
    .object
      [("label", .text p.label),
       ("format", .ofNamed p.format),
       ("trend", .bool p.trend),
       ("sparkline", .bool p.sparkline)]

/-- What a widget's properties mean: the typed record of its kind, or the raw properties of an unknown type. -/
def Widget.resolvedProperties (w : Widget) : Checked Json :=
  match w.kind? with
  | some kind => Properties.toJson <$> Properties.read kind w.properties
  | none => .accepted (.object w.properties)

end DashboardCompiler
