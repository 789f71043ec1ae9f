/-!
# Depths

Collections of a settings file may stand inside one another, and steps that go
down into them call themselves. How far they can go is no matter of the file: it
hangs on how far calls may go inside one another where a run takes place, and on
how many are open already. So each limit is given with a session.

- `Depths`: how far each kind of step can go.
-/

namespace CssColor

/-- How far the steps can go that call themselves; one that would go further is a fault. -/
structure Depths where
  /-- How many collections may be open one inside the other while a document is read. -/
  collections : Nat := 490
  /-- How many mappings may take in one another, the first one counted. -/
  merges : Nat := 985
  /-- How many mappings may stand for a scalar by their own values, the scalar counted. -/
  ownValues : Nat := 983
  /-- How many values may be shown inside one another in a message. -/
  shown : Nat := 990
  /-- The same for a value in the place of a target. -/
  targets : Nat := 988
  deriving DecidableEq, Repr

end CssColor
