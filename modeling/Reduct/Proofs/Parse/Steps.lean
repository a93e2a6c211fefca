import Reduct.Parse

/-!
# The steps of the parser

The functions of the parser as readers: a reader gives a value and the tokens that it leaves, or an
error. The proofs that fewer tokens are left, which the functions carry so that they end, are
dropped, and each function gets one equation for each form of input. What is proved about the parser
is proved from these.
-/

namespace Reduct.Parse

variable {α β : Type} {table : OperatorTable} {introducer : Option String} {floor : Option Int}
  {left e : Expr} {t n : Token} {ts rest : List Token}

/-- Gives a value and the tokens that are left, or an error. -/
abbrev Reader (α : Type) := StateT (List Token) (Except SyntaxError) α

theorem bind_ok {p : Reader α} {q : α → Reader β} {a : α} (h : p ts = .ok (a, rest)) :
    (p >>= q) ts = q a rest := by
  simp only [bind, StateT.bind, h, Except.bind]

theorem bind_error {p : Reader α} {q : α → Reader β} {error : SyntaxError}
    (h : p ts = .error error) : (p >>= q) ts = .error error := by
  simp only [bind, StateT.bind, h, Except.bind]

theorem bind_eq_ok_iff {p : Reader α} {q : α → Reader β} {b : β} {rest' : List Token} :
    (p >>= q) ts = .ok (b, rest') ↔ ∃ a rest, p ts = .ok (a, rest) ∧ q a rest = .ok (b, rest') := by
  cases hp : p ts with
  | error error => simp [bind_error hp]
  | ok result => simp [bind_ok hp, and_assoc, Prod.ext_iff]

theorem bind_eq_error_iff {p : Reader α} {q : α → Reader β} {error : SyntaxError} :
    (p >>= q) ts = .error error ↔
      p ts = .error error ∨ ∃ a rest, p ts = .ok (a, rest) ∧ q a rest = .error error := by
  cases hp : p ts with
  | error error' => simp [bind_error hp]
  | ok result => simp [bind_ok hp, and_assoc, Prod.ext_iff]

/-- What a function of the parser gives, without the proof about the tokens that are left. -/
def bare {P : List Token → Prop} (r : Except SyntaxError (α × { l // P l })) :
    Except SyntaxError (α × List Token) :=
  r.map fun (a, rest) => (a, rest.1)

def readExpression (table : OperatorTable) (introducer : Option String) (floor : Option Int) :
    Reader Expr :=
  fun ts => bare (expression table introducer floor ts)

def readLeading (table : OperatorTable) : Reader Expr := fun ts => bare (leading table ts)

def readExtension (table : OperatorTable) (introducer : Option String) (floor : Option Int)
    (left : Expr) : Reader Expr :=
  fun ts => bare (extension table introducer floor left ts)

def readArguments (table : OperatorTable) : Reader (List Expr) :=
  fun ts => bare (arguments table ts)

def readMoreArguments (table : OperatorTable) : Reader (List Expr) :=
  fun ts => bare (moreArguments table ts)

def readCloseGroup : Reader Unit := fun ts => (closeGroup ts).map fun rest => ((), rest.1)

theorem ofTokens_eq : ofTokens table ts =
    match readExpression table none none ts with
    | .error error => .error error
    | .ok (e, []) => .ok e
    | .ok (_, t :: _) => .error (.trailing t.text t.offset) := by
  simp only [ofTokens, readExpression, bare, bind, Except.bind]
  cases expression table none none ts with
  | error error => rfl
  | ok result =>
      obtain ⟨e, rest, h⟩ := result
      cases rest <;> rfl

theorem ofTokens_eq_ok_iff : ofTokens table ts = .ok e ↔
    readExpression table none none ts = .ok (e, []) := by
  rw [ofTokens_eq]
  split <;> simp_all

/-! ### Fewer tokens are left -/

theorem length_lt_of_bare {n : Nat}
    {r : Except SyntaxError (α × { l : List Token // l.length < n })} {a : α}
    (h : bare r = .ok (a, rest)) : rest.length < n := by
  cases r with
  | error error => simp [bare, Except.map] at h
  | ok result =>
      obtain ⟨-, rfl⟩ := Prod.mk.inj (Except.ok.inj h)
      exact result.2.2

theorem length_lt_of_readExpression (h : readExpression table introducer floor ts = .ok (e, rest)) :
    rest.length < ts.length :=
  length_lt_of_bare h

theorem length_lt_of_readLeading (h : readLeading table ts = .ok (e, rest)) :
    rest.length < ts.length :=
  length_lt_of_bare h

theorem length_lt_of_readArguments {es : List Expr} (h : readArguments table ts = .ok (es, rest)) :
    rest.length < ts.length :=
  length_lt_of_bare h

/-! ### Expressions -/

theorem readExpression_eq :
    readExpression table introducer floor ts =
      (readLeading table >>= readExtension table introducer floor) ts := by
  simp only [readExpression, expression, bind, Except.bind, StateT.bind, readLeading,
    readExtension, bare]
  cases leading table ts with
  | error error => rfl
  | ok result =>
      simp only [Except.map]
      cases extension table introducer floor result.1 result.2.1 <;> rfl

/-! ### Leading parts -/

/-- The number token right behind a minus sign belongs to it. -/
def Glued (sign t : Token) : Prop :=
  sign.text = "-" ∧ t.kind = .number ∧ t.offset = sign.offset + 1

instance (sign t : Token) : Decidable (Glued sign t) := instDecidableAnd

theorem numberValue_of_read? {value : Float} (h : Numeral.read? t.text = some value) :
    numberValue t = .ok value := by
  rw [numberValue, h]

theorem readLeading_nil : readLeading table [] = .error .unexpectedEnd := by
  rw [readLeading, leading]
  rfl

theorem readLeading_number (h : t.kind = .number) :
    readLeading table (t :: rest) = (numberValue t).map fun value => (.number value, rest) := by
  rw [readLeading, leading]
  simp only [h, bind, Except.bind]
  cases numberValue t <;> rfl

theorem readLeading_symbol (h : t.kind = .symbol) :
    readLeading table (t :: rest) = .ok (.sym t.text, rest) := by
  rw [readLeading, leading]
  simp only [h]
  rfl

theorem readLeading_string (h : t.kind = .string) :
    readLeading table (t :: rest) = .ok (.string (Text.unquote t.text), rest) := by
  rw [readLeading, leading]
  simp only [h]
  rfl

theorem readLeading_group (h : t.kind = .openGroup) :
    readLeading table (t :: rest) =
      (do let inner ← readExpression table none none
          readCloseGroup
          return inner : Reader Expr) rest := by
  rw [readLeading, leading]
  simp only [h, bind, Except.bind, StateT.bind, readExpression, readCloseGroup, bare]
  cases expression table none none rest with
  | error error => rfl
  | ok result =>
      simp only [Except.map]
      cases closeGroup result.2.1 <;> rfl

theorem readLeading_glued {op : LeadingOperator} (h : t.kind = .operator)
    (hop : table.leading.get? t.text = some op) (hglued : Glued t n) :
    readLeading table (t :: n :: rest) =
      (numberValue n).map fun value => (.number (-value), rest) := by
  have hsome : gluedNumber? t (n :: rest) = some (n, ⟨rest, by simp⟩) := if_pos hglued
  rw [readLeading, leading]
  simp only [h, hop, hsome, bind, Except.bind]
  cases numberValue n <;> rfl

theorem readLeading_operator {op : LeadingOperator} (h : t.kind = .operator)
    (hop : table.leading.get? t.text = some op) (hglued : ∀ n ∈ rest.head?, ¬ Glued t n) :
    readLeading table (t :: rest) =
      (do let operand ← readExpression table (some t.text) (some op.power)
          return op.build operand : Reader Expr) rest := by
  have hnone : gluedNumber? t rest = none := by
    cases rest with
    | nil => rfl
    | cons n rest => exact if_neg (hglued n rfl)
  rw [readLeading, leading]
  simp only [h, hop, hnone, bind, Except.bind, StateT.bind, readExpression, bare]
  cases expression table (some t.text) (some op.power) rest <;> rfl

theorem readLeading_operator_none (h : t.kind = .operator)
    (hop : table.leading.get? t.text = none) :
    readLeading table (t :: rest) = .error (.operatorForm t.text .leading t.offset) := by
  rw [readLeading, leading]
  simp only [h, hop]
  rfl

/-- No expression begins with layout, a comma or anything in brackets. -/
theorem readLeading_other (h : t.kind ∈ [Token.Kind.layout, .comma, .openBracket, .closeBracket,
      .closeGroup]) :
    readLeading table (t :: rest) = .error (.noLeadingForm t.text t.offset) := by
  rw [readLeading, leading]
  simp only [List.mem_cons, List.not_mem_nil, or_false] at h
  rcases h with h | h | h | h | h <;> simp only [h] <;> rfl

/-! ### Extensions -/

/-- Does an operand take in a joining operator of the text `text`? It does if the operator binds
tighter than the floor, or associates to the right and introduced the operand itself. -/
def admits (introducer : Option String) (floor : Option Int) (text : String)
    (op : JoiningOperator) : Bool :=
  isAbove op.power floor || (op.rightAssoc && introducer == some text)

theorem readExtension_nil : readExtension table introducer floor left [] = .ok (left, []) := by
  rw [readExtension, extension]
  rfl

theorem readExtension_brackets (h : t.kind = .openBracket)
    (habove : isAbove bracketPower floor = true) :
    readExtension table introducer floor left (t :: rest) =
      (do let args ← readArguments table
          readExtension table introducer floor (.app left args) : Reader Expr) rest := by
  rw [readExtension, extension]
  simp only [h, habove, if_true, bind, Except.bind, StateT.bind, readArguments, readExtension, bare]
  cases arguments table rest with
  | error error => rfl
  | ok result =>
      simp only [Except.map]
      cases extension table introducer floor (.app left result.1) result.2.1 <;> rfl

theorem readExtension_brackets_left (h : t.kind = .openBracket)
    (habove : isAbove bracketPower floor = false) :
    readExtension table introducer floor left (t :: rest) = .ok (left, t :: rest) := by
  rw [readExtension, extension]
  simp only [h, habove]
  rfl

theorem readExtension_operator {op : JoiningOperator} (h : t.kind = .operator)
    (hop : table.joining.get? t.text = some op)
    (hadmits : admits introducer floor t.text op = true) :
    readExtension table introducer floor left (t :: rest) =
      (do let right ← readExpression table (some t.text) (some op.power)
          readExtension table introducer floor (op.build left right) : Reader Expr) rest := by
  rw [admits] at hadmits
  rw [readExtension, extension]
  simp only [h, hop, hadmits, if_true, bind, Except.bind, StateT.bind, readExpression,
    readExtension, bare]
  cases expression table (some t.text) (some op.power) rest with
  | error error => rfl
  | ok result =>
      simp only [Except.map]
      cases extension table introducer floor (op.build left result.1) result.2.1 <;> rfl

theorem readExtension_operator_left {op : JoiningOperator} (h : t.kind = .operator)
    (hop : table.joining.get? t.text = some op)
    (hadmits : admits introducer floor t.text op = false) :
    readExtension table introducer floor left (t :: rest) = .ok (left, t :: rest) := by
  rw [admits] at hadmits
  rw [readExtension, extension]
  simp only [h, hop, hadmits]
  rfl

theorem readExtension_operator_none (h : t.kind = .operator)
    (hop : table.joining.get? t.text = none) :
    readExtension table introducer floor left (t :: rest) =
      .error (.operatorForm t.text .joining t.offset) := by
  rw [readExtension, extension]
  simp only [h, hop]
  rfl

/-- Only brackets and operators extend an expression. -/
theorem readExtension_other (h : t.kind ≠ .openBracket) (h' : t.kind ≠ .operator) :
    readExtension table introducer floor left (t :: rest) = .ok (left, t :: rest) := by
  rw [readExtension, extension]
  cases hk : t.kind <;> first | exact absurd hk h | exact absurd hk h' | rfl

/-! ### Groups and arguments -/

theorem readCloseGroup_nil : readCloseGroup [] = .error .unexpectedEnd := rfl

theorem readCloseGroup_cons (h : t.kind = .closeGroup) :
    readCloseGroup (t :: rest) = .ok ((), rest) := by
  simp [readCloseGroup, closeGroup, h, Except.map]

theorem readCloseGroup_other (h : t.kind ≠ .closeGroup) :
    readCloseGroup (t :: rest) = .error (.unexpected t.kind .closeGroup t.offset) := by
  simp [readCloseGroup, closeGroup, h, Except.map]

theorem readArguments_nil : readArguments table [] = .error .unexpectedEnd := by
  rw [readArguments, arguments]
  rfl

theorem readArguments_close (h : t.kind = .closeBracket) :
    readArguments table (t :: rest) = .ok ([], rest) := by
  rw [readArguments, arguments]
  simp only [h, if_true]
  rfl

theorem readArguments_cons (h : t.kind ≠ .closeBracket) :
    readArguments table (t :: rest) =
      (do let first ← readExpression table none none
          let others ← readMoreArguments table
          return first :: others : Reader (List Expr)) (t :: rest) := by
  rw [readArguments, arguments]
  simp only [if_neg h, bind, Except.bind, StateT.bind, readExpression, readMoreArguments, bare]
  cases expression table none none (t :: rest) with
  | error error => rfl
  | ok result =>
      simp only [Except.map]
      cases moreArguments table result.2.1 <;> rfl

theorem readMoreArguments_nil : readMoreArguments table [] = .error .unexpectedEnd := by
  rw [readMoreArguments, moreArguments]
  rfl

theorem readMoreArguments_close (h : t.kind = .closeBracket) :
    readMoreArguments table (t :: rest) = .ok ([], rest) := by
  rw [readMoreArguments, moreArguments]
  simp only [h]
  rfl

theorem readMoreArguments_comma (h : t.kind = .comma) :
    readMoreArguments table (t :: rest) =
      (do let next ← readExpression table none none
          let others ← readMoreArguments table
          return next :: others : Reader (List Expr)) rest := by
  rw [readMoreArguments, moreArguments]
  simp only [h, bind, Except.bind, StateT.bind, readExpression, readMoreArguments, bare]
  cases expression table none none rest with
  | error error => rfl
  | ok result =>
      simp only [Except.map]
      cases moreArguments table result.2.1 <;> rfl

theorem readMoreArguments_other (h : t.kind ≠ .comma) (h' : t.kind ≠ .closeBracket) :
    readMoreArguments table (t :: rest) =
      .error (.unexpected t.kind .closeBracket t.offset) := by
  rw [readMoreArguments, moreArguments]
  cases hk : t.kind <;> first | exact absurd hk h | exact absurd hk h' | rfl

end Reduct.Parse
