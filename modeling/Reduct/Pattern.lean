import Reduct.Expr.Order
import Reduct.Expr.Sharing

/-!
# Patterns

A pattern is an expression. In it, an application of `Pattern` to at least one argument is a
*capture*: it accepts any expression and binds it to its first argument, the *key*. Everything
else accepts an expression of its own shape: an application with a head and arguments that are
accepted one by one, an equal number, the same string or symbol. A key that comes again
accepts only what equals its binding. Bindings are then put into a template for their keys.
-/

namespace Reduct

/-- Keys and their bindings, in the order in which the keys were first met. -/
abbrev Captures := List (Expr × Expr)

namespace Captures

/-- The binding of a key. -/
def binding? (captures : Captures) (key : Expr) : Option Expr :=
  (captures.find? fun capture => capture.1.same key).map Prod.snd

/-- Binds a key, unless it has a binding that differs. -/
def bind? (captures : Captures) (key value : Expr) : Option Captures :=
  match captures.binding? key with
  | none => some (captures ++ [(key, value)])
  | some bound => if bound.same value then some captures else none

end Captures

namespace Pattern

/-- The key of a capture. -/
def key? : Expr → Option Expr
  | .apply (.symbol "Pattern" _) (key :: _) _ => some key
  | _ => none

/-- Does an atom, as a pattern, accept the expression? Numbers are compared by value: the two
zeros are equal, and the value that is no number equals nothing. -/
def acceptsAtom : Expr → Expr → Bool
  | .number a, .number b => a == b
  | .string a, .string b => a == b
  | .symbol a _, .symbol b _ => a == b
  | _, _ => false

mutual

/-- Matches an expression against a pattern, the head of an application before its arguments,
adding to the bindings there are. -/
def extend? : (pattern : Expr) → Expr → Captures → Option Captures
  | .apply f as held, e, captures =>
    match key? (.apply f as held) with
    | some key => captures.bind? key e
    | none =>
      match e with
      | .apply g bs _ =>
        match extend? f g captures with
        | some captures => extendAll? as bs captures
        | none => none
      | _ => none
  | atom, e, captures => if acceptsAtom atom e then some captures else none

/-- Matches expressions against as many patterns, from left to right. -/
def extendAll? : (patterns : List Expr) → List Expr → Captures → Option Captures
  | [], [], captures => some captures
  | p :: ps, e :: es, captures =>
    match extend? p e captures with
    | some captures => extendAll? ps es captures
    | none => none
  | _, _, _ => none

end

/-- Matches an expression against a pattern. -/
def match? (pattern e : Expr) : Option Captures := extend? pattern e []

end Pattern

namespace Captures

mutual

/-- Puts bindings into a template: each subtree that equals a key becomes its binding, and a
binding is not looked into again. `none` when nothing else than what is there was put in. -/
def instantiate? (captures : Captures) : (template : Expr) → (s : Sharing := .never) → Option Expr
  | .apply head args held, s =>
    match captures.binding? (.apply head args held) with
    | some bound => s.change? (.apply head args held) bound
    | none =>
      Expr.rebuilt? head args (captures.instantiate? head s.first)
        (captures.instantiateAll? args s.rest)
  | atom, s => (captures.binding? atom).bind (s.change? atom)

/-- Puts bindings into a list of templates. -/
def instantiateAll? (captures : Captures) :
    (templates : List Expr) → (s : Sharing := .never) → Option (List Expr)
  | [], _ => none
  | e :: es, s =>
    Expr.rebuiltArgs? e es (captures.instantiate? e s.first) (captures.instantiateAll? es s.rest)

end

/-- The template with its keys replaced by their bindings. -/
def instantiate (captures : Captures) (template : Expr) (s : Sharing := .never) : Expr :=
  (captures.instantiate? template s).getD template

end Captures

end Reduct
