import Reduct.Proofs.Expr.Atoms
import Reduct.Proofs.Token.Pieces

/-!
# The tokens of a rendered expression

Rendering writes the tokens of an expression one after the other, with a space behind each
comma and nothing else in between. `tokens` lists them with their places, and scanning the text
of an expression gives exactly these (`cuts_chars`), whatever the operators, as long as a minus
sign before a digit is a token of its own (`SplitsSign`).

The induction is on the expression. What follows an atom in the text is always the end, a
bracket or a comma, and that is the invariant that ends each run where the atom ends.
-/

namespace Reduct.Token

open Text Numeral

variable {operators : List (List Char)} {offset : Nat} {rest : List Char}

/-- Numbers are finite and symbols spelled as words. -/
abbrev Printable : Expr → Prop :=
  Expr.Atoms (fun x => x.isFinite) (fun name => Word name.toList)

/-- A minus sign before a digit is a token of its own. -/
structure SplitsSign (operators : List (List Char)) : Prop where
  minus : ['-'] ∈ operators
  digit : ∀ op ∈ operators, ∀ c cs, op = '-' :: c :: cs → c.isDigit = false

/-! ### The tokens -/

/-- The tokens of a number: its digits, perhaps with a minus sign before them. -/
def numberTokens (offset : Nat) (x : Float) : List Token :=
  match Numeral.chars x with
  | '-' :: ds => [⟨.operator, "-", offset⟩, ⟨.number, String.ofList ds, offset + 1⟩]
  | ds => [⟨.number, String.ofList ds, offset⟩]

mutual

/-- The tokens of an expression whose text starts at the byte `offset`. -/
def tokens (offset : Nat) : Expr → List Token
  | .number value => numberTokens offset value
  | .string text => [⟨.string, quote text, offset⟩]
  | .symbol name _ => [⟨.symbol, name, offset⟩]
  | .apply head args _ =>
      let inside := offset + byteWidth head.chars + 1
      tokens offset head ++ ⟨.openBracket, "[", offset + byteWidth head.chars⟩ ::
        (argTokens inside args ++
          [⟨.closeBracket, "]", inside + byteWidth (Expr.argChars args)⟩])

/-- The tokens of several arguments. -/
def argTokens (offset : Nat) : List Expr → List Token
  | [] => []
  | [e] => tokens offset e
  | e :: es =>
      tokens offset e ++ ⟨.comma, ",", offset + byteWidth e.chars⟩ ::
        argTokens (offset + byteWidth e.chars + 2) es

end

theorem argTokens_cons {e : Expr} {es : List Expr} (h : es ≠ []) :
    argTokens offset (e :: es) =
      tokens offset e ++ ⟨.comma, ",", offset + byteWidth e.chars⟩ ::
        argTokens (offset + byteWidth e.chars + 2) es := by
  cases es with
  | nil => exact absurd rfl h
  | cons _ _ => rfl

theorem numberTokens_plain {x : Float} {ds : List Char} (h : Plain ds) (hx : Numeral.chars x = ds) :
    numberTokens offset x = [⟨.number, String.ofList ds, offset⟩] := by
  obtain ⟨d, ds, rfl, hd⟩ := h.exists_cons
  rw [numberTokens, hx]
  split
  next heq =>
    obtain rfl := (List.cons.inj heq).1
    exact absurd hd (by decide)
  next => rfl

theorem numberTokens_minus {x : Float} {ds : List Char} (hx : Numeral.chars x = '-' :: ds) :
    numberTokens offset x =
      [⟨.operator, "-", offset⟩, ⟨.number, String.ofList ds, offset + 1⟩] := by
  rw [numberTokens, hx]
  rfl

/-! ### Cutting a text run by run -/

/-- The run at `offset` is cut into the tokens `ts`, and scanning goes on behind it. -/
def Cuts (operators : List (List Char)) (offset : Nat) (run : List Char) (ts : List Token)
    (rest : List Char) : Prop :=
  scan operators offset (run ++ rest) =
    (scan operators (offset + byteWidth run) rest).map (ts ++ ·)

theorem Cuts.nil : Cuts operators offset [] [] rest := by
  rw [Cuts, List.nil_append, byteWidth_nil, Nat.add_zero]
  cases scan operators offset rest <;> rfl

theorem Cuts.append {run run' : List Char} {ts ts' : List Token}
    (h : Cuts operators offset run ts (run' ++ rest))
    (h' : Cuts operators (offset + byteWidth run) run' ts' rest) :
    Cuts operators offset (run ++ run') (ts ++ ts') rest := by
  rw [Cuts] at h h' ⊢
  rw [List.append_assoc, h, h', byteWidth_append, Nat.add_assoc]
  cases scan operators (offset + (byteWidth run + byteWidth run')) rest with
  | error e => rfl
  | ok ts'' => simp [Except.map]

/-- A piece that is not layout is one token. -/
theorem cuts_token {kind : Kind} {run : List Char} (hne : run ≠ []) (hkind : kind ≠ .layout)
    (h : builtin? (run ++ rest) = some (kind, run.length)) :
    Cuts operators offset run [⟨kind, String.ofList run, offset⟩] rest := by
  rw [Cuts, scan_builtin hne h]
  cases scan operators (offset + byteWidth run) rest with
  | error e => rfl
  | ok ts => simp [Except.map, emit, hkind]

theorem cuts_comma : Cuts operators offset [','] [⟨.comma, ",", offset⟩] rest :=
  cuts_token (List.cons_ne_nil _ _) (by decide) (builtin?_comma rest)

theorem cuts_openBracket : Cuts operators offset ['['] [⟨.openBracket, "[", offset⟩] rest :=
  cuts_token (List.cons_ne_nil _ _) (by decide) (builtin?_openBracket rest)

theorem cuts_closeBracket : Cuts operators offset [']'] [⟨.closeBracket, "]", offset⟩] rest :=
  cuts_token (List.cons_ne_nil _ _) (by decide) (builtin?_closeBracket rest)

/-- A space before something that is not blank leaves no token. -/
theorem cuts_space (h : ∀ c ∈ rest.head?, isBlank c = false) :
    Cuts operators offset [' '] [] rest := by
  rw [Cuts, scan_builtin (List.cons_ne_nil _ _) (builtin?_space h)]
  cases scan operators (offset + byteWidth [' ']) rest <;> rfl

/-- The operator at a minus sign before a digit is the minus sign: nothing longer stands there. -/
theorem cuts_minus {d : Char} {ds : List Char} (hsign : SplitsSign operators) (hd : d.isDigit) :
    Cuts operators offset ['-'] [⟨.operator, "-", offset⟩] (d :: ds) := by
  have hfind : (operators.find? fun op => !op.isEmpty && op.isPrefixOf ('-' :: d :: ds)) =
      some ['-'] := by
    cases hf : operators.find? fun op => !op.isEmpty && op.isPrefixOf ('-' :: d :: ds) with
    | none => exact absurd (List.find?_eq_none.mp hf ['-'] hsign.minus) (by simp)
    | some op =>
        have hmem := List.mem_of_find?_eq_some hf
        have hop := List.find?_some hf
        match op with
        | [] => simp at hop
        | [c] =>
            obtain rfl : c = '-' := by simpa using hop
            rfl
        | c :: c' :: cs =>
            obtain ⟨rfl, rfl, -⟩ : c = '-' ∧ c' = d ∧ cs <+: ds := by simpa using hop
            exact absurd hd (by simp [hsign.digit _ hmem c' cs rfl])
  have hpiece : piece? operators (['-'] ++ d :: ds) = some (.operator, ['-'].length) := by
    rw [piece?, List.singleton_append, builtin?_minus, hfind]
    rfl
  rw [Cuts, scan_run (List.cons_ne_nil _ _) hpiece]
  cases scan operators (offset + byteWidth ['-']) (d :: ds) <;> rfl

/-! ### Cutting the text of an expression -/

theorem cuts_number {x : Float} (hsign : SplitsSign operators) (hx : x.isFinite)
    (hrest : Stops rest) :
    Cuts operators offset (Numeral.chars x) (numberTokens offset x) rest := by
  obtain ⟨ds, y, hplain, -, ⟨htext, -⟩ | ⟨htext, -⟩⟩ := chars_finite hx
  · rw [numberTokens_plain hplain htext, htext]
    obtain ⟨d, ds', hcons, -⟩ := hplain.exists_cons
    exact cuts_token (by simp [hcons]) (by decide) (builtin?_plain hplain hrest)
  · rw [numberTokens_minus htext, htext]
    obtain ⟨d, ds', rfl, hd⟩ := hplain.exists_cons
    have hdigits : Cuts operators (offset + byteWidth ['-']) (d :: ds')
        [⟨.number, String.ofList (d :: ds'), offset + 1⟩] rest :=
      cuts_token (List.cons_ne_nil _ _) (by decide) (builtin?_plain hplain hrest)
    exact (cuts_minus hsign hd).append hdigits

/-- The text of an expression does not begin with a blank. -/
theorem Printable.exists_cons {e : Expr} (he : Printable e) :
    ∃ c cs, e.chars = c :: cs ∧ isBlank c = false := by
  induction he with
  | @number x hx =>
      obtain ⟨ds, y, hplain, -, ⟨htext, -⟩ | ⟨htext, -⟩⟩ := chars_finite hx
      · obtain ⟨d, ds', rfl, hd⟩ := hplain.exists_cons
        exact ⟨d, ds', htext, isBlank_of_isWord (isWord_of_isDigit hd)⟩
      · exact ⟨'-', ds, htext, by decide⟩
  | string => exact ⟨'"', _, rfl, by decide⟩
  | @symbol name held h =>
      obtain ⟨c, cs, hcs⟩ := List.exists_cons_of_ne_nil h.ne_nil
      exact ⟨c, cs, hcs, isBlank_of_isWord (h.isWord c (by simp [hcs]))⟩
  | @apply head args held _ _ ih _ =>
      obtain ⟨c, cs, hcs, hc⟩ := ih
      exact ⟨c, cs ++ '[' :: (Expr.argChars args ++ [']']), by simp [Expr.chars, hcs], hc⟩

theorem Printable.exists_argChars {e : Expr} (he : Printable e) (es : List Expr) :
    ∃ c cs, Expr.argChars (e :: es) = c :: cs ∧ isBlank c = false := by
  obtain ⟨c, cs, hcs, hc⟩ := he.exists_cons
  by_cases hes : es = []
  · subst hes
    exact ⟨c, cs, hcs, hc⟩
  · exact ⟨c, _, by rw [Expr.argChars_cons hes, hcs, List.cons_append], hc⟩

/-- The arguments are cut one by one. -/
theorem cuts_argChars {args : List Expr} (hargs : ∀ a ∈ args, Printable a)
    (hcuts : ∀ a ∈ args, ∀ offset rest, Stops rest →
      Cuts operators offset a.chars (tokens offset a) rest) (hrest : Stops rest) :
    ∀ offset, Cuts operators offset (Expr.argChars args) (argTokens offset args) rest := by
  induction args with
  | nil => exact fun offset => .nil
  | cons e es ih =>
      intro offset
      by_cases hes : es = []
      · subst hes
        exact hcuts e (by simp) offset rest hrest
      · -- The argument, the comma, the space, and the other arguments.
        have hmore := ih (fun a ha => hargs a (by simp [ha])) (fun a ha => hcuts a (by simp [ha]))
          (offset + byteWidth e.chars + 2)
        have hspace : Cuts operators (offset + byteWidth e.chars + 1) [' '] []
            (Expr.argChars es ++ rest) := by
          obtain ⟨d, ds, rfl⟩ := List.exists_cons_of_ne_nil hes
          obtain ⟨c, cs, hcs, hc⟩ := (hargs d (by simp)).exists_argChars ds
          exact cuts_space (by simp [hcs, hc])
        have hfirst := hcuts e (by simp) offset (',' :: ' ' :: (Expr.argChars es ++ rest))
          (by simp [Stops])
        rw [Expr.argChars_cons hes, argTokens_cons hes]
        exact hfirst.append (cuts_comma.append (hspace.append hmore))

/-- **Scanning undoes rendering.** The text of an expression is cut into its tokens. -/
theorem cuts_chars {e : Expr} (hsign : SplitsSign operators) (he : Printable e) :
    ∀ offset rest, Stops rest → Cuts operators offset e.chars (tokens offset e) rest := by
  induction he with
  | number hx => exact fun offset rest hrest => cuts_number hsign hx hrest
  | @string text =>
      intro offset rest hrest
      exact cuts_token (List.cons_ne_nil _ _) (by decide) (builtin?_quotedChars text.toList rest)
  | @symbol name held h =>
      intro offset rest hrest
      have hname : Cuts operators offset name.toList
          [⟨.symbol, String.ofList name.toList, offset⟩] rest :=
        cuts_token h.ne_nil (by decide) (builtin?_word h hrest)
      rwa [String.ofList_toList] at hname
  | @apply head args held hhead hargs ihhead ihargs =>
      intro offset rest hrest
      -- The head, the opening bracket, the arguments, and the closing bracket.
      have hhead := ihhead offset ('[' :: (Expr.argChars args ++ [']']) ++ rest) (by simp [Stops])
      have hinside : Cuts operators (offset + byteWidth head.chars + 1) (Expr.argChars args)
          (argTokens (offset + byteWidth head.chars + 1) args) ([']'] ++ rest) :=
        cuts_argChars hargs ihargs (by simp [Stops]) _
      exact hhead.append (cuts_openBracket.append (hinside.append cuts_closeBracket))

end Reduct.Token
