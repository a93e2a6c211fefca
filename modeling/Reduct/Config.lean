import Reduct.Json

/-!
# Configuration

Two limits keep every evaluation finite, and a switch turns on the record of steps. All three
can be set by a JSON text: an object that names them, other names being ignored, or an array
that gives the first few of them in order.
-/

namespace Reduct

/-- How far an evaluation may go. -/
structure Limits where
  /-- Steps at one level. -/
  iterations : Nat := 1024
  /-- Levels of evaluation inside each other. -/
  recursion : Nat := 256
deriving Repr, DecidableEq

/-- The settings of a session. -/
structure Config where
  limits : Limits := {}
  /-- Are steps recorded? -/
  trace : Bool := false
deriving Repr, DecidableEq

namespace Config

/-- What is said of a configuration that cannot be read. -/
def invalidMessage : String := "Invalid evaluator config"

/-- A limit: a natural number of 64 bits, written in digits alone. -/
def limit? : Json → Option Nat
  | .number (some n) => if n < UInt64.size then some n else none
  | _ => none

/-- A switch. -/
def switch? : Json → Option Bool
  | .bool b => some b
  | _ => none

/-- A member of an object that gives settings: at most one has the name. -/
def member? (members : List (Option String × Json)) (name : String) : Option (Option Json) :=
  match members.filter fun member => member.1 == some name with
  | [] => some none
  | [member] => some (some member.2)
  | _ => none

/-- A setting that may be missing. -/
def setting? {α : Type} (read? : Json → Option α) (default : α) : Option Json → Option α
  | none => some default
  | some value => read? value

/-- The configuration made of three settings. -/
def ofSettings? (iterations recursion trace : Option Json) : Option Config := do
  let iterations ← setting? limit? ({} : Limits).iterations iterations
  let recursion ← setting? limit? ({} : Limits).recursion recursion
  let trace ← setting? switch? ({} : Config).trace trace
  return ⟨⟨iterations, recursion⟩, trace⟩

/-- The configuration a JSON value describes. -/
def ofJson? : Json → Option Config
  | .array items =>
    if items.length ≤ 3 then ofSettings? items[0]? items[1]? items[2]? else none
  | .object members => do
    -- A name has to be text that can be compared.
    if members.any fun member => member.1.isNone then none
    let iterations ← member? members "iteration_limit"
    let recursion ← member? members "recursion_limit"
    let trace ← member? members "trace"
    ofSettings? iterations recursion trace
  | _ => none

/-- Reads a configuration. -/
def read? (text : String) : Option Config := (Json.read? text).bind ofJson?

end Config

end Reduct
