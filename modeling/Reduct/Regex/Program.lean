import Reduct.Regex.Basic

/-!
# Search programs

A regular expression is laid out as a graph of nodes. Going from a node to the next either
takes a character, or checks an assertion, or is free; a fork goes two ways, the better one
first. The order of the forks is what makes the first alternative and the greedier or lazier
repetition win.
-/

namespace Reduct.Regex

/-- A node of a program; nodes go on to others by their numbers. -/
inductive Node where
  /-- The expression has matched. -/
  | done
  | one (accepts : CharClass) (next : Nat)
  | check (assertion : Assertion) (next : Nat)
  | fork (better worse : Nat)

/-- The nodes laid out so far. -/
abbrev Nodes := Array Node

/-- Lays out nodes that go on to a given node in the end, and tells where they start. -/
abbrev Layout := (next : Nat) → StateM Nodes Nat

namespace Layout

/-- Adds a node. -/
def add (node : Node) : StateM Nodes Nat := fun nodes => (nodes.size, nodes.push node)

/-- The fork between another round of a repetition and going on. -/
def choice (isGreedy : Bool) (round next : Nat) : Node :=
  if isGreedy then .fork round next else .fork next round

/-- A number of rounds. -/
def times (body : Layout) : (count : Nat) → Layout
  | 0, next => return next
  | count + 1, next => do body (← times body count next)

/-- Up to a number of rounds; each but the first only after the one before it. -/
def upTo (body : Layout) (isGreedy : Bool) : (count : Nat) → Layout
  | 0, next => return next
  | count + 1, next => do
    let others ← upTo body isGreedy count next
    let round ← body others
    add (choice isGreedy round next)

/-- One round or more: the first round, and the fork after each. -/
def rounds (body : Layout) (isGreedy : Bool) (next : Nat) : StateM Nodes (Nat × Nat) := do
  let fork ← add .done
  let round ← body fork
  modify fun nodes => nodes.setIfInBounds fork (choice isGreedy round next)
  return (round, fork)

/-- Any number of rounds. If a round can be empty, the fork before the first is not the one
after the others: an empty round then counts as a round. -/
def anyRounds (body : Layout) (isNullable isGreedy : Bool) : Layout := fun next => do
  let (round, fork) ← rounds body isGreedy next
  if isNullable then add (choice isGreedy round next) else return fork

/-- A repetition. -/
def repeated (body : Layout) (isNullable : Bool) (least : Nat) (most : Option Nat)
    (isGreedy : Bool) : Layout := fun next => do
  match most, least with
  | some most, least => times body least (← upTo body isGreedy (most - least) next)
  | none, 0 => anyRounds body isNullable isGreedy next
  | none, least + 1 => times body least (← rounds body isGreedy next).1

/-- Lays out an expression. -/
def ofRegex : Regex → Layout
  | .empty => fun next => return next
  | .one accepts => fun next => add (.one accepts next)
  | .check assertion => fun next => add (.check assertion next)
  | .both first second => fun next => do ofRegex first (← ofRegex second next)
  | .either first second => fun next => do
    let better ← ofRegex first next
    let worse ← ofRegex second next
    add (.fork better worse)
  | .repeated body least most isGreedy =>
    repeated (ofRegex body) body.isNullable least most isGreedy

end Layout

/-- A program: nodes, and the one to start from. -/
structure Program where
  nodes : Nodes
  start : Nat

/-- The program of an expression. -/
def Program.ofRegex (r : Regex) : Program :=
  let (start, nodes) := Layout.ofRegex r 0 |>.run #[.done]
  ⟨nodes, start⟩

namespace Program

/-! ## Running -/

/-- The nodes that are ready to take a character or done, reached from those on the stack
without taking one, the best first. A node counts where it is reached first. Each node is
expanded once, and leaves two more on the stack at most, so that `fuel` of more than three
times the number of nodes is enough. -/
def reach (p : Program) (holds : Assertion → Bool) :
    (fuel : Nat) → (stack : List Nat) → (seen : Array Bool) → (ready : List Nat) →
      Array Bool × List Nat
  | 0, _, seen, ready => (seen, ready)
  | _, [], seen, ready => (seen, ready)
  | fuel + 1, n :: stack, seen, ready =>
    if seen.getD n true then p.reach holds fuel stack seen ready
    else
      let seen := seen.setIfInBounds n true
      match p.nodes.getD n .done with
      | .fork better worse => p.reach holds fuel (better :: worse :: stack) seen ready
      | .check assertion next =>
        p.reach holds fuel (if holds assertion then next :: stack else stack) seen ready
      | _ => p.reach holds fuel stack seen (n :: ready)

/-- The ready nodes reached from `ns`, the best first, between two characters. -/
def closure (p : Program) (before after : Option Char) (ns : List Nat) : List Nat :=
  let seen := Array.replicate p.nodes.size false
  (p.reach (Assertion.holds before after) (3 * p.nodes.size + ns.length + 1) ns seen []).2.reverse

/-- The nodes that a character leads to, from ready nodes down to the first that is done, and
whether there is one that is done. -/
def advance (p : Program) (c : Option Char) : List Nat → List Nat × Bool
  | [] => ([], false)
  | n :: ns =>
    match p.nodes.getD n .done with
    | .done => ([], true)
    | .one accepts next =>
      let (nexts, isDone) := p.advance c ns
      (if c.any accepts then next :: nexts else nexts, isDone)
    | _ => p.advance c ns

/-- The length of the best match of a text from its front on, given the character before it.
`ns` are the nodes to go on from, `taken` the characters taken since the start, and `best` is
the best match so far. -/
def lengthFrom? (p : Program) (before : Option Char) (taken : Nat) (best : Option Nat)
    (ns : List Nat) : List Char → Option Nat
  | [] =>
    if (p.advance none (p.closure before none ns)).2 then some taken else best
  | c :: cs =>
    let (nexts, isDone) := p.advance (some c) (p.closure before (some c) ns)
    let best := if isDone then some taken else best
    if nexts.isEmpty then best else p.lengthFrom? (some c) (taken + 1) best nexts cs

/-- The first place at which the program matches, and the length of the best match there. -/
def find? (p : Program) (before : Option Char) (index : Nat) (cs : List Char) :
    Option (Nat × Nat) :=
  match p.lengthFrom? before 0 none [p.start] cs, cs with
  | some length, _ => some (index, length)
  | none, [] => none
  | none, c :: cs => p.find? (some c) (index + 1) cs

end Program

end Reduct.Regex
