import DashboardCompiler.Design.Dump
import DashboardCompiler.Generation.Options
import DashboardCompiler.Storage.Path

/-!
# Configured settings

What a project may keep in a file so that it need not be given on every run. Each setting has a default;
a setting that is not known is a problem, reported after those of the known ones.
-/

namespace DashboardCompiler

open Schema

structure Config where
  framework : Framework
  outputFormat : OutputFormat
  includeComments : Bool
  useMockData : Bool
  outputDirectory : Path
  deriving DecidableEq

namespace Config

def default : Config := ⟨.textual, .single, true, true, .ofText "output"⟩

def settingNames : List String :=
  ["framework", "output_format", "include_comments", "use_mock_data", "output_dir"]

def readPath : Json → Checked Path
  | .text s => .accepted (.ofText s)
  | _ => .fail .notPath

/-- The fields that are no settings, in their order. -/
def unknownFields (fields : Fields) : Fields := fields.filter fun f => !settingNames.contains f.1

def refuseUnknown (fields : Fields) : Checked Unit :=
  match unknownFields fields with
  | [] => .accepted ()
  | found => .rejected (found.map fun f => ⟨[f.1], .extraField⟩)

def readKnown (fields : Fields) : Checked Config :=
  Config.mk
    <$> defaulted fields ⟨"framework", []⟩ default.framework readChoice
    <*> defaulted fields ⟨"output_format", []⟩ default.outputFormat readChoice
    <*> defaulted fields ⟨"include_comments", []⟩ default.includeComments readFlag
    <*> defaulted fields ⟨"use_mock_data", []⟩ default.useMockData readFlag
    <*> defaulted fields ⟨"output_dir", []⟩ default.outputDirectory readPath

def ofFields (fields : Fields) : Checked Config :=
  ((readKnown fields).map (Function.const Unit)).apply (refuseUnknown fields)

def optionFields (c : Config) : Fields :=
  [("framework", .ofNamed c.framework), ("output_format", .ofNamed c.outputFormat),
   ("include_comments", .bool c.includeComments), ("use_mock_data", .bool c.useMockData)]

def isGiven : Json → Bool
  | .null => false
  | _ => true

/-- The options of a run: the values given for it, and the configured ones where none or null is given. -/
def toOptions (c : Config) (given : Fields) : Checked Options :=
  Options.read (.object (given.filter (fun f => isGiven f.2) ++ c.optionFields))

end Config

end DashboardCompiler
