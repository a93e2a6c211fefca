import Reduct.Proofs.Parse.Lookahead
import Reduct.Proofs.Token.Rendering

/-!
# Parsing undoes rendering

The text of an expression, with whatever operators, is parsed as that expression without hold
marks. Three things come together. An operator table only grows, and no operator begins like a
negative number, so a minus sign before a digit is a token of its own (`Grown.splitsSign`). Then
scanning gives the tokens of the expression (`cuts_chars`). And these are parsed as the expression
(`expression_tokens`), with what follows them taken as an extension of it: an application is its
head extended by the arguments in brackets, so the induction is on the head, for any extension
that follows.
-/

namespace Reduct

namespace OperatorTable

open Token

/-- Does the text begin like a negative number? -/
def startsNegative (text : String) : Bool :=
  match text.toList with
  | '-' :: c :: _ => c.isDigit
  | _ => false

/-- The tables that the default one grows into by further operators, none of them spelled like a
negative number. -/
inductive Grown : OperatorTable → Prop
  | default : Grown default
  | leading {t t' : OperatorTable} {text : String} {op : LeadingOperator} :
      Grown t → startsNegative text = false → t.addLeading text op = .ok t' → Grown t'
  | joining {t t' : OperatorTable} {text : String} {op : JoiningOperator} :
      Grown t → startsNegative text = false → t.addJoining text op = .ok t' → Grown t'

variable {t t' : OperatorTable} {text : String}

theorem eq_of_addLeading {op : LeadingOperator} (h : t.addLeading text op = .ok t') :
    t' = { t with leading := t.leading.put text op } := by
  rw [addLeading] at h
  cases hc : checkText text with
  | error e => simp [hc, bind, Except.bind] at h
  | ok _ => simpa [hc, bind, Except.bind, pure, Except.pure, eq_comm] using h

theorem eq_of_addJoining {op : JoiningOperator} (h : t.addJoining text op = .ok t') :
    t' = { t with joining := t.joining.put text op } := by
  rw [addJoining] at h
  cases hc : checkText text with
  | error e => simp [hc, bind, Except.bind] at h
  | ok _ => simpa [hc, bind, Except.bind, pure, Except.pure, eq_comm] using h

theorem mem_texts : text ∈ t.texts ↔ text ∈ t.leading.keys ∨ text ∈ t.joining.keys := by
  simp [texts, Table.mem_keys_merge]

/-- There is always a minus sign to stand before an operand. -/
theorem Grown.exists_minus (h : Grown t) : (t.leading.get? "-").isSome := by
  induction h with
  | default => rfl
  | @leading t t' text op _ _ hadd ih =>
      rw [eq_of_addLeading hadd]
      by_cases htext : "-" = text
      · simp [← htext]
      · rwa [Table.get?_put_of_ne _ htext]
  | joining _ _ hadd ih =>
      rw [eq_of_addJoining hadd]
      exact ih

theorem Grown.startsNegative_eq_false (h : Grown t) :
    ∀ text ∈ t.texts, startsNegative text = false := by
  induction h with
  | default => decide
  | leading _ hnew hadd ih =>
      rw [eq_of_addLeading hadd]
      intro text' h
      rw [mem_texts, Table.mem_keys_put, or_assoc] at h
      rcases h with rfl | h
      · exact hnew
      · exact ih text' (mem_texts.mpr h)
  | joining _ hnew hadd ih =>
      rw [eq_of_addJoining hadd]
      intro text' h
      rw [mem_texts, Table.mem_keys_put, or_left_comm] at h
      rcases h with rfl | h
      · exact hnew
      · exact ih text' (mem_texts.mpr h)

theorem Grown.splitsSign (h : Grown t) : SplitsSign (longestFirst t.texts) where
  minus := mem_longestFirst.mpr
    ⟨"-", mem_texts.mpr (.inl (Table.mem_keys_of_isSome h.exists_minus)), rfl⟩
  digit op hop c cs hcons := by
    obtain ⟨text, htext, rfl⟩ := mem_longestFirst.mp hop
    have hstarts := h.startsNegative_eq_false text htext
    rwa [startsNegative, hcons] at hstarts

end OperatorTable

theorem Text.unquote_quote (text : String) : unquote (quote text) = text := by
  simp [unquote, quote, quotedChars, unescape_escape]

namespace Parse

open Token Numeral

variable {table : OperatorTable} {introducer : Option String} {floor : Option Int}
  {ts rest rest' : List Token} {left e : Expr} {offset : Nat}

/-! ### What the functions of the parser give -/

/-- The reading succeeds with `a` and leaves `rest`. -/
def Yields {α : Type} {P : List Token → Prop} (r : Except SyntaxError (α × { l // P l })) (a : α)
    (rest : List Token) : Prop :=
  ∃ h, r = .ok (a, ⟨rest, h⟩)

theorem yields_iff {α : Type} {P : List Token → Prop} {a : α}
    {r : Except SyntaxError (α × { l // P l })} : Yields r a rest ↔ bare r = .ok (a, rest) := by
  cases r with
  | error error => simp [Yields, bare, Except.map]
  | ok result =>
      obtain ⟨b, l, hl⟩ := result
      simp only [Yields, bare, Except.map, Except.ok.injEq, Prod.mk.injEq, Subtype.mk.injEq]
      constructor
      · rintro ⟨-, hb, hrest⟩
        exact ⟨hb, hrest⟩
      · rintro ⟨rfl, rfl⟩
        exact ⟨hl, rfl, rfl⟩

theorem yields_expression (hl : Yields (leading table ts) left rest)
    (he : Yields (extension table introducer floor left rest) e rest') :
    Yields (expression table introducer floor ts) e rest' := by
  rw [yields_iff] at *
  exact readExpression_eq.trans ((bind_ok hl).trans he)

theorem leading_symbol {name : String} :
    Yields (leading table (⟨.symbol, name, offset⟩ :: rest)) (.sym name) rest :=
  yields_iff.mpr (readLeading_symbol rfl)

theorem leading_string {literal : String} :
    Yields (leading table (⟨.string, literal, offset⟩ :: rest))
      (.string (Text.unquote literal)) rest :=
  yields_iff.mpr (readLeading_string rfl)

theorem leading_number {text : String} {value : Float} (h : read? text = some value) :
    Yields (leading table (⟨.number, text, offset⟩ :: rest)) (.number value) rest := by
  have hvalue : numberValue ⟨.number, text, offset⟩ = .ok value := numberValue_of_read? h
  refine yields_iff.mpr ((readLeading_number rfl).trans ?_)
  rw [hvalue]
  rfl

/-- A minus sign and the number right behind it are one negative number. -/
theorem leading_negative {text : String} {value : Float}
    (hminus : (table.leading.get? "-").isSome) (h : read? text = some value) :
    Yields (leading table (⟨.operator, "-", offset⟩ :: ⟨.number, text, offset + 1⟩ :: rest))
      (.number (-value)) rest := by
  obtain ⟨op, hop⟩ := Option.isSome_iff_exists.mp hminus
  have hvalue : numberValue ⟨.number, text, offset + 1⟩ = .ok value := numberValue_of_read? h
  refine yields_iff.mpr ((readLeading_glued rfl hop ⟨rfl, rfl, rfl⟩).trans ?_)
  rw [hvalue]
  rfl

/-- Arguments in brackets extend what stands before them. -/
theorem extension_brackets {args : List Expr} (ha : Yields (arguments table ts) args rest)
    (he : Yields (extension table introducer none (.app left args) rest) e rest') :
    Yields (extension table introducer none left (⟨.openBracket, "[", offset⟩ :: ts)) e rest' := by
  rw [yields_iff] at *
  exact (readExtension_brackets rfl rfl).trans ((bind_ok ha).trans he)

/-- Nothing, a comma or a closing bracket extends nothing. -/
theorem extension_stops (h : ∀ t ∈ ts.head?, t.kind = .comma ∨ t.kind = .closeBracket) :
    Yields (extension table introducer floor left ts) left ts := by
  have hclosed : Closed ts := by
    intro t ht
    rcases h t ht with hk | hk <;> simp [hk]
  exact yields_iff.mpr (readExtension_closed hclosed)

theorem arguments_nil :
    Yields (arguments table (⟨.closeBracket, "]", offset⟩ :: rest)) [] rest :=
  yields_iff.mpr (readArguments_close rfl)

theorem arguments_cons {t : Token} {es : List Expr} (hk : t.kind ≠ .closeBracket)
    (he : Yields (expression table none none (t :: ts)) e rest)
    (hes : Yields (moreArguments table rest) es rest') :
    Yields (arguments table (t :: ts)) (e :: es) rest' := by
  rw [yields_iff] at *
  exact (readArguments_cons hk).trans ((bind_ok he).trans (bind_ok hes))

theorem moreArguments_nil :
    Yields (moreArguments table (⟨.closeBracket, "]", offset⟩ :: rest)) [] rest :=
  yields_iff.mpr (readMoreArguments_close rfl)

theorem moreArguments_cons {es : List Expr}
    (he : Yields (expression table none none ts) e rest)
    (hes : Yields (moreArguments table rest) es rest') :
    Yields (moreArguments table (⟨.comma, ",", offset⟩ :: ts)) (e :: es) rest' := by
  rw [yields_iff] at *
  exact (readMoreArguments_comma rfl).trans ((bind_ok he).trans (bind_ok hes))

/-! ### Parsing the tokens of an expression -/

/-- Whatever the tokens behind those of the expression extend it to is what is parsed. -/
def Parsed (table : OperatorTable) (e : Expr) : Prop :=
  ∀ (offset : Nat) (rest rest' : List Token) (result : Expr),
    Yields (extension table none none e.releaseHold rest) result rest' →
      Yields (expression table none none (tokens offset e ++ rest)) result rest'

theorem Parsed.argument (h : Parsed table e) (offset : Nat)
    (hrest : ∀ t ∈ rest.head?, t.kind = .comma ∨ t.kind = .closeBracket) :
    Yields (expression table none none (tokens offset e ++ rest)) e.releaseHold rest :=
  h offset rest rest _ (extension_stops hrest)

/-- No expression begins with a closing bracket. -/
theorem exists_tokens (e : Expr) (offset : Nat) :
    ∃ t ts, tokens offset e = t :: ts ∧ t.kind ≠ .closeBracket := by
  match e with
  | .symbol _ _ => exact ⟨_, _, rfl, by simp⟩
  | .string _ => exact ⟨_, _, rfl, by simp⟩
  | .number x =>
      rw [tokens, numberTokens]
      split
      · exact ⟨_, _, rfl, by simp⟩
      · exact ⟨_, _, rfl, by simp⟩
  | .apply head args held =>
      obtain ⟨t, ts, hts, hk⟩ := exists_tokens head offset
      exact ⟨t, _, by rw [tokens, hts, List.cons_append], hk⟩

theorem parsed_number {x : Float} (hminus : (table.leading.get? "-").isSome) (hx : x.isFinite) :
    Parsed table (.number x) := by
  intro offset rest rest' result hrest
  obtain ⟨ds, y, hplain, hread, ⟨htext, hval⟩ | ⟨htext, hval⟩⟩ := chars_finite hx
  · rw [tokens, numberTokens_plain hplain htext]
    exact yields_expression (leading_number (by rw [read?_plain hplain, hread, hval])) hrest
  · have hread' := (read?_plain hplain).trans hread
    rw [tokens, numberTokens_minus htext]
    exact yields_expression (hval ▸ leading_negative hminus hread') hrest

/-- The tokens of several arguments and the closing bracket are those of the first one and what
gives the others. -/
theorem argTokens_first {es : List Expr} (hes : ∀ d ∈ es, Parsed table d) (e : Expr)
    (offset offset' : Nat) (rest : List Token) :
    ∃ more, argTokens offset (e :: es) ++ ⟨.closeBracket, "]", offset'⟩ :: rest =
        tokens offset e ++ more ∧
      (∀ t ∈ more.head?, t.kind = .comma ∨ t.kind = .closeBracket) ∧
      Yields (moreArguments table more) (Expr.releaseHolds es) rest := by
  induction es generalizing e offset with
  | nil => exact ⟨_, rfl, by simp, moreArguments_nil⟩
  | cons d ds ih =>
      obtain ⟨more, htokens, hmore, hyields⟩ :=
        ih (fun d hd => hes d (by simp [hd])) d (offset + Text.byteWidth e.chars + 2)
      have hfirst := (hes d (by simp)).argument (offset + Text.byteWidth e.chars + 2) hmore
      refine ⟨⟨.comma, ",", offset + Text.byteWidth e.chars⟩ ::
        (tokens (offset + Text.byteWidth e.chars + 2) d ++ more), ?_, by simp,
        moreArguments_cons hfirst hyields⟩
      rw [argTokens_cons (List.cons_ne_nil d ds), List.append_assoc, List.cons_append, htokens]

/-- Arguments are parsed one by one. -/
theorem arguments_tokens {args : List Expr} (hargs : ∀ a ∈ args, Parsed table a)
    (offset offset' : Nat) (rest : List Token) :
    Yields (arguments table (argTokens offset args ++ ⟨.closeBracket, "]", offset'⟩ :: rest))
      (Expr.releaseHolds args) rest := by
  cases args with
  | nil => exact arguments_nil
  | cons e es =>
      obtain ⟨more, htokens, hmore, hyields⟩ :=
        argTokens_first (fun d hd => hargs d (List.mem_cons_of_mem e hd)) e offset offset' rest
      have hfirst := (hargs e (by simp)).argument offset hmore
      obtain ⟨t, ts, hts, hk⟩ := exists_tokens e offset
      rw [htokens]
      rw [hts, List.cons_append] at hfirst ⊢
      exact arguments_cons hk hfirst hyields

/-- **The tokens of an expression are parsed as the expression.** -/
theorem expression_tokens (hminus : (table.leading.get? "-").isSome) (he : Printable e) :
    Parsed table e := by
  induction he with
  | number hx => exact parsed_number hminus hx
  | string =>
      intro offset rest rest' result hrest
      refine yields_expression leading_string ?_
      rwa [Text.unquote_quote]
  | symbol =>
      intro offset rest rest' result hrest
      exact yields_expression leading_symbol hrest
  | @apply head args held _ _ ihhead ihargs =>
      intro offset rest rest' result hrest
      -- The head is parsed with the brackets as its extension, and they with what follows.
      have hargs := arguments_tokens ihargs (offset + Text.byteWidth head.chars + 1)
        (offset + Text.byteWidth head.chars + 1 + Text.byteWidth (Expr.argChars args)) rest
      rw [tokens, List.append_assoc, List.cons_append, List.append_assoc]
      exact ihhead offset _ rest' result (extension_brackets hargs hrest)

end Parse

/-- **Parsing undoes rendering.** With any operators that do not look like negative numbers, the
text of an expression whose numbers are finite and whose symbols are spelled as words is parsed,
and as that very expression without hold marks. -/
theorem parse_render {table : OperatorTable} {e : Expr} (ht : table.Grown)
    (he : Token.Printable e) :
    parse table e.render = .ok e.releaseHold := by
  have hscan : Token.tokenize table.texts e.render = .ok (Token.tokens 0 e) := by
    have hcuts := Token.cuts_chars ht.splitsSign he 0 [] (by simp [Token.Stops])
    rw [Token.Cuts, List.append_nil, Token.scan] at hcuts
    rw [Token.tokenize, Expr.render, String.toList_ofList, hcuts]
    simp [Except.map]
  have hparsed : Parse.Yields (Parse.expression table none none (Token.tokens 0 e))
      e.releaseHold [] := by
    rw [← List.append_nil (Token.tokens 0 e)]
    exact (Parse.expression_tokens ht.exists_minus he).argument 0 (by simp)
  obtain ⟨h, hexpression⟩ := hparsed
  simp only [parse, hscan, Parse.ofTokens, hexpression, bind, Except.bind, pure, Except.pure]

/-- A negative zero, a string with a quote and a bracket, and a marked symbol. -/
theorem parse_render_call :
    let e : Expr := .call "f" [.number (-0.0), .string "a\"]", .app (.symbol "x" true) []]
    OperatorTable.default.Grown ∧ Token.Printable e ∧
      parse .default e.render = .ok e.releaseHold := by
  intro e
  have hf : Token.Word "f".toList := by decide
  have hx : Token.Word "x".toList := by decide
  have he : Token.Printable e :=
    .apply (.symbol hf) (List.forall_mem_cons.mpr ⟨.number (by decide),
      List.forall_mem_cons.mpr ⟨.string,
        List.forall_mem_singleton.mpr (.apply (.symbol hx) (by simp))⟩⟩)
  exact ⟨.default, he, parse_render .default he⟩

end Reduct
