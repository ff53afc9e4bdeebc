import DashboardCompiler.Design.Address
import DashboardCompiler.Design.Basic
import DashboardCompiler.Json.Writer
import DashboardCompiler.Schema.Fields

/-!
# Reading a design

The schema of design documents: the fields of each record in their order, their spellings, bounds and
defaults. Problems come in the order of the fields, those of nested records where the record stands.
-/

namespace DashboardCompiler

open Schema

namespace Settings

def readDimensions : Json → Checked Extent :=
  readRecord "Dimensions" fun fields =>
    Extent.mk
      <$> defaulted fields ⟨"width", []⟩ 120 (readInteger (some 40) (some 300))
      <*> defaulted fields ⟨"height", []⟩ 40 (readInteger (some 20) (some 100))

def read : Json → Checked Settings :=
  readRecord "Settings" fun fields =>
    Settings.mk
      <$> defaulted fields ⟨"dimensions", []⟩ ⟨120, 40⟩ readDimensions
      <*> defaulted fields ⟨"gridSize", ["grid_size"]⟩ 4 (readInteger (some 1) (some 20))
      <*> defaulted fields ⟨"theme", []⟩ .dark readChoice
      <*> defaulted fields ⟨"refreshRate", ["refresh_rate"]⟩ 1000
        (readInteger (some 100) (some 60000))
      <*> defaulted fields ⟨"autoResize", ["auto_resize"]⟩ true readFlag

def default : Settings := ⟨⟨120, 40⟩, 4, .dark, 1000, true⟩

end Settings

def Metadata.read : Json → Checked Metadata :=
  readRecord "Metadata" fun fields =>
    Metadata.mk
      <$> required fields ⟨"name", []⟩ readFilledText
      <*> defaulted fields ⟨"description", []⟩ none (readOptional readText)
      <*> defaulted fields ⟨"author", []⟩ none (readOptional readText)
      <*> defaulted fields ⟨"version", []⟩ "1.0.0" readText
      <*> defaulted fields ⟨"created", []⟩ none (readOptional readText)
      <*> defaulted fields ⟨"modified", []⟩ none (readOptional readText)
      <*> defaulted fields ⟨"targetFramework", ["targetRuntime", "target_framework"]⟩ .textual
        readChoice
      <*> defaulted fields ⟨"tags", []⟩ [] (readList readText)

def WidgetStyle.read : Json → Checked WidgetStyle :=
  readRecord "WidgetStyle" fun fields =>
    WidgetStyle.mk
      <$> defaulted fields ⟨"borderStyle", ["border_style"]⟩ .single readChoice
      <*> defaulted fields ⟨"borderColor", ["border_color"]⟩ none (readOptional readText)
      <*> defaulted fields ⟨"backgroundColor", ["background_color"]⟩ none (readOptional readText)
      <*> defaulted fields ⟨"textColor", ["text_color"]⟩ none (readOptional readText)
      <*> defaulted fields ⟨"padding", []⟩ 0 (readInteger (some 0) (some 5))

namespace Widget

def readPosition : Json → Checked Point :=
  readRecord "Position" fun fields =>
    Point.mk
      <$> required fields ⟨"x", []⟩ (readInteger (some 0) none)
      <*> required fields ⟨"y", []⟩ (readInteger (some 0) none)

def readSize : Json → Checked Extent :=
  readRecord "Size" fun fields =>
    Extent.mk
      <$> required fields ⟨"width", []⟩ (readInteger (some 1) none)
      <*> required fields ⟨"height", []⟩ (readInteger (some 1) none)

def read : Json → Checked Widget :=
  readRecord "Widget" fun fields =>
    Widget.mk
      <$> required fields ⟨"id", []⟩ readFilledText
      <*> required fields ⟨"type", []⟩ readText
      <*> required fields ⟨"position", []⟩ readPosition
      <*> required fields ⟨"size", []⟩ readSize
      <*> defaulted fields ⟨"title", []⟩ none (readOptional readText)
      <*> defaulted fields ⟨"dataSource", ["data_source"]⟩ none (readOptional readText)
      <*> defaulted fields ⟨"style", []⟩ none (readOptional WidgetStyle.read)
      <*> defaulted fields ⟨"properties", []⟩ [] readMapping

end Widget

namespace SourceConfig

def readAddress (v : Json) : Checked String :=
  (readText v).andThen fun s =>
    match Address.fault? s with
    | none => .accepted s
    | some fault => .fail (.address fault)

def readApi (fields : Fields) : Checked ApiConfig :=
  ApiConfig.mk
    <$> required fields ⟨"url", []⟩ readAddress
    <*> defaulted fields ⟨"method", []⟩ .get readChoice
    <*> defaulted fields ⟨"headers", []⟩ none
      (readOptional fun v => (readMapping v).andThen (readValues readText))
    <*> defaulted fields ⟨"interval", []⟩ 5000 (readInteger (some 1000) none)

def tags : List String := ["static", "system_metric", "api", "file", "command"]

/-- The fields of a source of the tagged kind; nothing for other tags. -/
def readTagged? (fields : Fields) : String → Option (Checked SourceConfig)
  | "static" => some (SourceConfig.static <$> defaulted fields ⟨"value", []⟩ .null .accepted)
  | "system_metric" => some <| SourceConfig.systemMetric
      <$> required fields ⟨"metric", []⟩ readChoice
      <*> defaulted fields ⟨"interval", []⟩ 1000 (readInteger (some 100) none)
  | "api" => some (SourceConfig.api <$> readApi fields)
  | "file" => some <| SourceConfig.file
      <$> required fields ⟨"path", []⟩ readFilledText
      <*> defaulted fields ⟨"watch", []⟩ false readFlag
  | "command" => some <| SourceConfig.command
      <$> required fields ⟨"command", []⟩ readFilledText
      <*> defaulted fields ⟨"interval", []⟩ 5000 (readInteger (some 1000) none)
  | _ => none

/-- A tag as it is shown: text as it is, any other value as a literal. -/
def shownTag : Json → String
  | .text s => s
  | v => v.sourceLine

/-- The kind of a source is read off its `type`, and problems of its fields stand under the tag. -/
def read : Json → Checked SourceConfig
  | .object fields =>
    match Json.lookup "type" fields with
    | none => .fail .noTag
    | some tag =>
      let tagged := match tag with
        | .text s => (readTagged? fields s).map (Checked.under [s])
        | _ => none
      tagged.getD (.fail (.unknownTag (shownTag tag) tags))
  | _ => .fail .notUnion

end SourceConfig

def DataSource.read : Json → Checked DataSource :=
  readRecord "DataSource" fun fields =>
    DataSource.mk
      <$> required fields ⟨"id", []⟩ readFilledText
      <*> defaulted fields ⟨"name", []⟩ none (readOptional readText)
      <*> required fields ⟨"config", []⟩ SourceConfig.read

def Design.read : Json → Checked Design :=
  readRecord "Design" fun fields =>
    Design.mk
      <$> defaulted fields ⟨"version", []⟩ "1.0.0" readText
      <*> required fields ⟨"metadata", []⟩ Metadata.read
      <*> defaulted fields ⟨"settings", []⟩ Settings.default Settings.read
      <*> defaulted fields ⟨"widgets", []⟩ [] (readList Widget.read)
      <*> defaulted fields ⟨"dataSources", ["data_sources"]⟩ [] (readList DataSource.read)

end DashboardCompiler
