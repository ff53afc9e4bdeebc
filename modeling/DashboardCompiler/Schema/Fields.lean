import DashboardCompiler.Schema.Scalar

/-!
# Reading the fields of a record

A field has a main spelling and further ones. It is read under the first of its spellings that the record
holds, and its problems name that spelling; a field that is absent takes its default, or is missing under
its main spelling. Other keys of the record are passed over.
-/

namespace DashboardCompiler.Schema

abbrev Fields := List (String × Json)

structure FieldName where
  main : String
  others : List String

def FieldName.spellings (f : FieldName) : List String := f.main :: f.others

/-- The first spelling that is present, with its value. -/
def present? (fields : Fields) : List String → Option (String × Json)
  | [] => none
  | spelling :: rest =>
    match Json.lookup spelling fields with
    | some v => some (spelling, v)
    | none => present? fields rest

def required {α : Type} (fields : Fields) (f : FieldName) (read : Json → Checked α) : Checked α :=
  match present? fields f.spellings with
  | some (spelling, v) => (read v).under [spelling]
  | none => .rejected [⟨[f.main], .missing⟩]

def defaulted {α : Type} (fields : Fields) (f : FieldName) (default : α) (read : Json → Checked α) :
    Checked α :=
  match present? fields f.spellings with
  | some (spelling, v) => (read v).under [spelling]
  | none => .accepted default

/-- The fields of an object that is to be read as the named record. -/
def readRecord {α : Type} (record : String) (read : Fields → Checked α) : Json → Checked α
  | .object fields => read fields
  | _ => .fail (.notRecord record)

/-- An object of any shape, as it is. -/
def readMapping : Json → Checked Fields
  | .object fields => .accepted fields
  | _ => .fail .notMapping

/-- An object whose values are all read in one way, each under its key. -/
def readValues {α : Type} (read : Json → Checked α) : Fields → Checked (List (String × α))
  | [] => .accepted []
  | (key, v) :: rest =>
    Checked.apply (((read v).under [key]).map fun a more => (key, a) :: more) (readValues read rest)

end DashboardCompiler.Schema
