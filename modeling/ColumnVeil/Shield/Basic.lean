import ColumnVeil.Failure
import ColumnVeil.Wire.Message

/-!
# Shields

A shield changes the statements of a query on their way to the server, and later the
descriptions and rows of its results on their way back.  Shields form a chain: statements
pass through it in order and results in reverse.
-/

namespace ColumnVeil

/-- A step that can fail; the state it has reached outlives the failure. -/
abbrev Step (σ : Type) := ExceptT Failure (StateM σ)

/-- The values of a row; an absent value is NULL. -/
abbrev Row := List (Option Bytes)

/-- What becomes of a row. -/
inductive RowAction
  | keep
  | discard
deriving DecidableEq, Repr

/-- A shield with its state. -/
structure Shield (σ : Type) where
  /-- Change the statements of a query. -/
  protect : List Sql.Statement → Step σ (List Sql.Statement)
  /-- Change the description of the rows that the statement of an index gives. -/
  describe : List Wire.Column → Nat → Step σ (List Wire.Column)
  /-- Change a row of the result set described last, and say whether it is kept. -/
  inspect : Row → Step σ (RowAction × Row)

namespace Step

variable {σ τ α : Type}

/-- A step on the first of two states. -/
def onFirst (step : Step σ α) : Step (σ × τ) α := fun (first, second) =>
  let (result, first) := step.run.run first
  (result, first, second)

/-- A step on the second of two states. -/
def onSecond (step : Step τ α) : Step (σ × τ) α := fun (first, second) =>
  let (result, second) := step.run.run second
  (result, first, second)

end Step

namespace Shield

variable {σ τ : Type}

/-- Two shields in a chain: queries pass the first before the second, results the second
before the first.  A row that is discarded passes no further. -/
def andThen (first : Shield σ) (second : Shield τ) : Shield (σ × τ) where
  protect statements := do
    (second.protect (← (first.protect statements).onFirst)).onSecond
  describe columns statement := do
    (first.describe (← (second.describe columns statement).onSecond) statement).onFirst
  inspect row := do
    match ← (second.inspect row).onSecond with
    | (.keep, row) => (first.inspect row).onFirst
    | discarded => return discarded

end Shield

end ColumnVeil
