import DashboardCompiler.Config.Loading
import DashboardCompiler.Console.Printed
import DashboardCompiler.Design.Loading
import DashboardCompiler.Generation.Generator

/-!
# Outcomes

What a run of a command leaves behind. A failure is told on the error stream and ends the run with 1; a
few faults have no wording, and the run is then aborted with nothing told.
-/

namespace DashboardCompiler.CommandLine

open Console

/-- A fault that no wording is foreseen for. -/
inductive Abort where
  | notText
  | longInteger
  | tooDeep
  | nullInPath
  | blocked
  | misfit
  | arithmetic (fault : ArithmeticFault)
  deriving DecidableEq

inductive Failure where
  | refused (faults : List DesignFault)
  | told (message : String)
  | unwritten (message : String)
  | aborted (cause : Abort)

structure Outcome where
  exitCode : Nat
  /-- what is printed, in texts that each end their line -/
  output : List String
  errors : List String
  abort : Option Abort
  tree : FileTree

namespace Failure

def ofAccess : AccessFault × Path → Failure
  | (fault, p) =>
    match fault.message? p with
    | some message => .unwritten message
    | none => .aborted .nullInPath

def ofConfig : ConfigFault × Path → Failure
  | (fault, p) =>
    match fault.message? p, fault with
    | some message, _ => .told message
    | none, .notText => .aborted .notText
    | none, .tooDeep => .aborted .tooDeep
    | none, .unreachable fault => .ofAccess (fault, p)
    | none, .blocked => .aborted .blocked
    | none, _ => .aborted .longInteger

def ofLoad (p : Path) (fault : LoadFault) : Failure :=
  match fault.message? p, fault with
  | some message, _ => .told message
  | none, .refused faults => .refused faults
  | none, .notText => .aborted .notText
  | none, .tooDeep => .aborted .tooDeep
  | none, .unreadable _ => .aborted .nullInPath
  | none, _ => .aborted .longInteger

def ofGeneration : GenerationFault → Failure
  | .noTarget framework => .told (noTargetMessage framework)
  | .unsuitable faults => .refused faults
  | .misfit _ => .aborted .misfit
  | .arithmetic fault => .aborted (.arithmetic fault)

/-- What is told of a failure. -/
def errors : Failure → List String
  | .refused faults =>
    "Design validation failed:" :: faults.map fun fault => "  - " ++ quoted fault.message
  | .told message => ["Error: " ++ quoted message]
  | .unwritten message => ["Error: cannot write output: " ++ quoted message]
  | .aborted _ => []

def abort? : Failure → Option Abort
  | .aborted cause => some cause
  | _ => none

def outcome (failure : Failure) (t : FileTree) : Outcome :=
  ⟨1, [], failure.errors.map printed, failure.abort?, t⟩

end Failure

/-- The texts as they go to a stream. -/
def streamed (texts : List String) : String := String.join (texts.map (· ++ "\n"))

end DashboardCompiler.CommandLine
