import DashboardCompiler.Schema.Fields
import DashboardCompiler.Design.Kinds

/-!
# Generation options

What one run of the generator is asked for.
-/

namespace DashboardCompiler

open Schema

structure Options where
  framework : Framework
  outputFormat : OutputFormat
  includeComments : Bool
  useMockData : Bool
  deriving DecidableEq

namespace Options

def default : Options := ⟨.textual, .single, true, true⟩

def isModular (o : Options) : Bool := o.outputFormat = .modular

def read : Json → Checked Options :=
  readRecord "CodeGenOptions" fun fields =>
    Options.mk
      <$> defaulted fields ⟨"framework", []⟩ .textual readChoice
      <*> defaulted fields ⟨"output_format", []⟩ .single readChoice
      <*> defaulted fields ⟨"include_comments", []⟩ true readFlag
      <*> defaulted fields ⟨"use_mock_data", []⟩ true readFlag

end Options

end DashboardCompiler
