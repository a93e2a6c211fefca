import Reduct.Operation.Arithmetic
import Reduct.Operation.Control
import Reduct.Operation.Definition
import Reduct.Operation.Form
import Reduct.Operation.Logic
import Reduct.Operation.Output
import Reduct.Operation.Parts
import Reduct.Operation.Search
import Reduct.Operation.Strings

/-!
# The library of operations

Every evaluator knows the core operations; the others come in five groups, which can be added
one by one.
-/

namespace Reduct

/-- A group of operations. -/
inductive Group where
  | math
  | logic
  | list
  | string
  | io
deriving Repr, DecidableEq

namespace Group

/-- All groups. -/
def all : List Group := [.math, .logic, .list, .string, .io]

/-- The name of a group. -/
def name : Group → String
  | .math => "math"
  | .logic => "logic"
  | .list => "list"
  | .string => "string"
  | .io => "io"

/-- The group of a name. -/
def ofName? (name : String) : Option Group := all.find? fun group => group.name == name

/-- The operations of a group. -/
def operations : Group → List (String × Operation)
  | .math => Operation.Arithmetic.operations
  | .logic => Operation.Logic.operations
  | .list => Operation.Parts.operations
  | .string => Operation.Strings.operations ++ Operation.Search.operations
  | .io => Operation.Output.operations

end Group

namespace Operations

/-- The operations that every evaluator knows. -/
def core : List (String × Operation) :=
  Operation.Definition.operations ++ Operation.Control.operations ++ Operation.Form.operations

/-- The core operations and those of the given groups. -/
def ofGroups (groups : List Group) : Operations :=
  .ofList (core ++ groups.flatMap Group.operations)

end Operations

/-- The attributes that symbols have from the start, each symbol with one. -/
def Scopes.initialAttributes : List (String × String) := [
  ("Abort", "HoldAll"),
  ("Delayed", "HoldAll"),
  ("Seq", "HoldAll"),
  ("Block", "HoldAll"),
  ("Module", "HoldAll"),
  ("Hold", "HoldAll"),
  ("HoldForm", "HoldAll"),
  ("Func", "HoldAll"),
  ("SetAttrs", "HoldAll"),
  ("GetAttrs", "HoldAll"),
  ("ClearAttrs", "HoldAll"),
  ("Definition", "HoldAll"),
  ("Clear", "HoldAll"),
  ("Set", "HoldFirst"),
  ("Concat", "Flat"),
  ("ReplaceAll", "HoldRest"),
  ("Replace", "HoldRest")]

/-- The scopes an evaluation starts with: the root, with the initial attributes. -/
def Scopes.initial : Scopes :=
  initialAttributes.foldl (fun s entry => s.setAttributes entry.1 [.sym entry.2]) {}

end Reduct
