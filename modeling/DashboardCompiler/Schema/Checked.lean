import DashboardCompiler.Schema.Problem

/-!
# Checked values

A reading is a value or the list of all its problems. Readings of several fields combine side by side:
the problems of all fields are kept, in the order of the fields.
-/

namespace DashboardCompiler

inductive Checked (α : Type) where
  | accepted (value : α)
  | rejected (problems : List Problem)

namespace Checked

def fail {α : Type} (cause : Cause) : Checked α := .rejected [⟨[], cause⟩]

/-- The value of a computation; any fault of it is the one cause. -/
def ofExcept {ε α : Type} (cause : Cause) : Except ε α → Checked α
  | .ok a => .accepted a
  | .error _ => fail cause

def map {α β : Type} (f : α → β) : Checked α → Checked β
  | .accepted a => .accepted (f a)
  | .rejected ps => .rejected ps

/-- Both sides are read, and the problems of both are kept. -/
def apply {α β : Type} (f : Checked (α → β)) (x : Checked α) : Checked β :=
  match f, x with
  | .accepted g, .accepted a => .accepted (g a)
  | .accepted _, .rejected ps => .rejected ps
  | .rejected ps, .accepted _ => .rejected ps
  | .rejected ps, .rejected qs => .rejected (ps ++ qs)

/-- A later check that needs the value of an earlier one. -/
def andThen {α β : Type} (x : Checked α) (f : α → Checked β) : Checked β :=
  match x with
  | .accepted a => f a
  | .rejected ps => .rejected ps

instance : Applicative Checked where
  pure := .accepted
  map := map
  seq f x := apply f (x ())

/-- The problems seen from the record that holds the value. -/
def under {α : Type} (segments : List String) : Checked α → Checked α
  | .accepted a => .accepted a
  | .rejected ps => .rejected (ps.map (·.under segments))

def problems {α : Type} : Checked α → List Problem
  | .accepted _ => []
  | .rejected ps => ps

def toExcept {α : Type} : Checked α → Except (List Problem) α
  | .accepted a => .ok a
  | .rejected ps => .error ps

/-- All items are read, each under its position. -/
def all {α β : Type} (read : α → Checked β) (position : Nat) : List α → Checked (List β)
  | [] => .accepted []
  | a :: rest =>
    apply (map List.cons ((read a).under [toString position])) (all read (position + 1) rest)

end Checked

end DashboardCompiler
