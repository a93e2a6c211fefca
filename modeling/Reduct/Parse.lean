import Reduct.Number.Numeral
import Reduct.Operator
import Reduct.Rest
import Reduct.Text.Quoted

/-!
# Parsing

An expression is a leading part (an atom, a group, or a leading operator with its operand)
and then any number of extensions: arguments in brackets, or a joining operator with its right
operand. How far an operand reaches is settled by binding power: an operand takes in the
joining operators that bind tighter than the operator it belongs to. An operator that
associates to the right is also taken in by its own right operand. Brackets bind tighter than
any operator, with a power of their own.

Each function returns the tokens it leaves, with the proof that they are fewer.
-/

namespace Reduct.Parse

/-- The power of arguments in brackets. -/
def bracketPower : Int := 100000

/-- Does a power bind tighter than the floor under an operand? Without a floor every power
does. -/
def isAbove (power : Int) : Option Int → Bool
  | none => true
  | some floor => floor < power

/-- The closing parenthesis of a group. -/
def closeGroup : (ts : List Token) → Except SyntaxError (Shorter ts)
  | [] => .error .unexpectedEnd
  | t :: rest =>
    if t.kind = .closeGroup then .ok ⟨rest, by simp⟩
    else .error (.unexpected t.kind .closeGroup t.offset)

/-- The number token right after a minus sign, with nothing between them: the two are one
negative literal. -/
def gluedNumber? (sign : Token) : (ts : List Token) → Option (Token × Shorter ts)
  | [] => none
  | t :: rest =>
    if sign.text = "-" ∧ t.kind = .number ∧ t.offset = sign.offset + 1 then
      some (t, ⟨rest, by simp⟩)
    else none

/-- The value of a number token. -/
def numberValue (t : Token) : Except SyntaxError Float :=
  match Numeral.read? t.text with
  | some value => .ok value
  | none => .error (.invalidNumber t.text)

mutual

/-- An expression. `introducer` is the operator text right before it, if an operator stands
there, and `floor` the power that its own operators have to exceed. -/
def expression (table : OperatorTable) (introducer : Option String) (floor : Option Int)
    (ts : List Token) : Except SyntaxError (Expr × Shorter ts) := do
  let (left, ⟨rest, hRest⟩) ← leading table ts
  let (e, ⟨rest', hRest'⟩) ← extension table introducer floor left rest
  return (e, ⟨rest', by omega⟩)
termination_by (ts.length, 2)

/-- The part of an expression that stands on its own. -/
def leading (table : OperatorTable) (ts : List Token) :
    Except SyntaxError (Expr × Shorter ts) :=
  match ts with
  | [] => .error .unexpectedEnd
  | t :: rest =>
    match t.kind with
    | .number => do
      let value ← numberValue t
      return (.number value, ⟨rest, by simp⟩)
    | .symbol => .ok (.sym t.text, ⟨rest, by simp⟩)
    | .string => .ok (.string (Text.unquote t.text), ⟨rest, by simp⟩)
    | .openGroup => do
      let (inner, ⟨rest', h⟩) ← expression table none none rest
      let ⟨rest'', h'⟩ ← closeGroup rest'
      return (inner, ⟨rest'', by simp only [List.length_cons]; omega⟩)
    | .operator =>
      match table.leading.get? t.text with
      | none => .error (.operatorForm t.text .leading t.offset)
      | some op =>
        match gluedNumber? t rest with
        | some (n, ⟨rest', h⟩) => do
          let value ← numberValue n
          return (.number (-value), ⟨rest', by simp only [List.length_cons]; omega⟩)
        | none => do
          let (operand, ⟨rest', h⟩) ← expression table (some t.text) (some op.power) rest
          return (op.build operand, ⟨rest', by simp only [List.length_cons]; omega⟩)
    | _ => .error (.noLeadingForm t.text t.offset)
termination_by (ts.length, 1)

/-- Extends the expression `left` by what follows it, as far as the floor allows. -/
def extension (table : OperatorTable) (introducer : Option String) (floor : Option Int)
    (left : Expr) (ts : List Token) : Except SyntaxError (Expr × NotLonger ts) :=
  match ts with
  | [] => .ok (left, ⟨[], by simp⟩)
  | t :: rest =>
    match t.kind with
    | .openBracket =>
      if isAbove bracketPower floor then do
        let (args, ⟨rest', h⟩) ← arguments table rest
        let (e, ⟨rest'', h'⟩) ← extension table introducer floor (.app left args) rest'
        return (e, ⟨rest'', by simp only [List.length_cons]; omega⟩)
      else .ok (left, ⟨t :: rest, by simp⟩)
    | .operator =>
      match table.joining.get? t.text with
      | none => .error (.operatorForm t.text .joining t.offset)
      | some op =>
        let again := op.rightAssoc && introducer == some t.text
        if isAbove op.power floor || again then do
          let (right, ⟨rest', h⟩) ← expression table (some t.text) (some op.power) rest
          let (e, ⟨rest'', h'⟩) ← extension table introducer floor (op.build left right) rest'
          return (e, ⟨rest'', by simp only [List.length_cons]; omega⟩)
        else .ok (left, ⟨t :: rest, by simp⟩)
    | _ => .ok (left, ⟨t :: rest, by simp⟩)
termination_by (ts.length, 0)

/-- The arguments after an opening bracket, up to and with the closing one. -/
def arguments (table : OperatorTable) (ts : List Token) :
    Except SyntaxError (List Expr × Shorter ts) :=
  match ts with
  | [] => .error .unexpectedEnd
  | t :: rest =>
    if t.kind = .closeBracket then .ok ([], ⟨rest, by simp⟩)
    else do
      let (first, ⟨rest', h⟩) ← expression table none none (t :: rest)
      let (others, ⟨rest'', h'⟩) ← moreArguments table rest'
      return (first :: others, ⟨rest'', by omega⟩)
termination_by (ts.length, 3)

/-- What follows an argument: a comma and another argument, or the closing bracket. -/
def moreArguments (table : OperatorTable) (ts : List Token) :
    Except SyntaxError (List Expr × Shorter ts) :=
  match ts with
  | [] => .error .unexpectedEnd
  | t :: rest =>
    match t.kind with
    | .comma => do
      let (next, ⟨rest', h⟩) ← expression table none none rest
      let (others, ⟨rest'', h'⟩) ← moreArguments table rest'
      return (next :: others, ⟨rest'', by simp only [List.length_cons]; omega⟩)
    | .closeBracket => .ok ([], ⟨rest, by simp⟩)
    | kind => .error (.unexpected kind .closeBracket t.offset)
termination_by (ts.length, 0)

end

/-- Parses tokens that make up exactly one expression. -/
def ofTokens (table : OperatorTable) (ts : List Token) : Except SyntaxError Expr := do
  let (e, ⟨rest, _⟩) ← expression table none none ts
  match rest with
  | [] => return e
  | t :: _ => .error (.trailing t.text t.offset)

end Reduct.Parse

namespace Reduct

/-- Parses a source text that makes up exactly one expression, with the given operators. -/
def parse (table : OperatorTable) (source : String) : Except SyntaxError Expr := do
  let ts ← Token.tokenize table.texts source
  Parse.ofTokens table ts

end Reduct
