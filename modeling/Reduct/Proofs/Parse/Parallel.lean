import Reduct.Proofs.Parse.Steps

/-!
# Two runs of the parser

The parser looks at its tokens in few ways: at the kind and the text of one, at what the operators
have under the text of another, and at whether a number stands right behind a sign. Two runs on
tokens that are alike in these ways, each with its own operators, therefore do the same: they give
the same expression and leave tokens that are alike, or they fail with errors about tokens that are
alike (`Agree`).

What makes two tokens alike is a parameter (`Alike`). The induction over the parser is done once,
for any such relation (`agree`); what is said about two sources, about two tables, or about the
tokens that an error is about, comes from the choice of the relation.
-/

namespace Reduct.Parse

open Token (Kind)

variable {α β : Type} {R : Token → Token → Prop} {table table' : OperatorTable}
  {p p' : Reader α} {q q' : α → Reader β} {ts ts' rest rest' : List Token} {t t' n : Token}
  {introducer : Option String} {floor : Option Int} {left : Expr}

/-! ### Tokens that are alike -/

/-- Related tokens have the same kind and the same text, and under the text of an operator both
tables have the same. -/
structure Alike (R : Token → Token → Prop) (table table' : OperatorTable) : Prop where
  kind {t t' : Token} : R t t' → t.kind = t'.kind
  text {t t' : Token} : R t t' → t.text = t'.text
  leading {t t' : Token} : R t t' → t.kind = .operator →
    table.leading.get? t.text = table'.leading.get? t'.text
  joining {t t' : Token} : R t t' → t.kind = .operator →
    table.joining.get? t.text = table'.joining.get? t'.text

/-- Tokens of the same kinds and texts are alike for a single table. -/
theorem Alike.of_same (kind : ∀ {t t' : Token}, R t t' → t.kind = t'.kind)
    (text : ∀ {t t' : Token}, R t t' → t.text = t'.text) : Alike R table table where
  kind h := kind h
  text h := text h
  leading h _ := by rw [text h]
  joining h _ := by rw [text h]

/-- The tokens are related one by one, and a number stands right behind a sign on the one side
exactly if it does on the other. -/
inductive Matched (R : Token → Token → Prop) : List Token → List Token → Prop
  | nil : Matched R [] []
  | cons {t t' : Token} {ts ts' : List Token} : R t t' →
      (t.kind = .operator → ∀ n ∈ ts.head?, ∀ n' ∈ ts'.head?, (Glued t n ↔ Glued t' n')) →
        Matched R ts ts' → Matched R (t :: ts) (t' :: ts')

/-- Each token can be related to itself. -/
theorem Matched.of_self (h : ∀ t ∈ ts, R t t) : Matched R ts ts := by
  induction ts with
  | nil => exact .nil
  | cons t ts ih =>
      refine .cons (h t (by simp)) (fun _ n hn n' hn' => ?_) (ih fun u hu => h u (by simp [hu]))
      rw [Option.mem_unique hn hn']

/-- Where the second tokens begin, the first ones begin with a related token. -/
theorem Matched.exists_head (h : Matched R ts ts') (hn : n ∈ ts'.head?) :
    ∃ m ∈ ts.head?, R m n := by
  cases h with
  | nil => cases hn
  | @cons t t' ts ts' ht _ _ =>
      obtain rfl : t' = n := Option.some.inj hn
      exact ⟨t, rfl, ht⟩

/-! ### Results that agree -/

/-- The errors are of the same form, about related tokens if they are about tokens. -/
inductive BothAbout (R : Token → Token → Prop) : SyntaxError → SyntaxError → Prop
  | unexpectedEnd : BothAbout R .unexpectedEnd .unexpectedEnd
  | unexpected {t t' : Token} (expected : Kind) : R t t' →
      BothAbout R (.unexpected t.kind expected t.offset) (.unexpected t'.kind expected t'.offset)
  | noLeadingForm {t t' : Token} : R t t' →
      BothAbout R (.noLeadingForm t.text t.offset) (.noLeadingForm t'.text t'.offset)
  | operatorForm {t t' : Token} (form : Form) : R t t' →
      BothAbout R (.operatorForm t.text form t.offset) (.operatorForm t'.text form t'.offset)
  | trailing {t t' : Token} : R t t' →
      BothAbout R (.trailing t.text t.offset) (.trailing t'.text t'.offset)
  | invalidNumber {t t' : Token} : R t t' →
      BothAbout R (.invalidNumber t.text) (.invalidNumber t'.text)

/-- Two readings give the same value and leave matched tokens, or fail about related tokens. -/
inductive Agree (R : Token → Token → Prop) :
    Except SyntaxError (α × List Token) → Except SyntaxError (α × List Token) → Prop
  | ok {a : α} {rest rest' : List Token} : Matched R rest rest' →
      Agree R (.ok (a, rest)) (.ok (a, rest'))
  | error {error error' : SyntaxError} : BothAbout R error error' →
      Agree R (.error error) (.error error')

/-- **Sequences.** Readers one after the other agree if the first do, and the second do on whatever
the first leave. -/
theorem Agree.bind (hp : Agree R (p ts) (p' ts'))
    (hq : ∀ a rest rest', p ts = .ok (a, rest) → Matched R rest rest' →
      Agree R (q a rest) (q' a rest')) :
    Agree R ((p >>= q) ts) ((p' >>= q') ts') := by
  generalize hr : p ts = r at hp
  generalize hr' : p' ts' = r' at hp
  cases hp with
  | ok hrest =>
      rw [bind_ok hr, bind_ok hr']
      exact hq _ _ _ hr hrest
  | error hboth =>
      rw [bind_error hr, bind_error hr']
      exact .error hboth

theorem Agree.pure {a : α} (h : Matched R ts ts') :
    Agree R ((pure a : Reader α) ts) ((pure a : Reader α) ts') :=
  .ok h

/-- All the functions of the parser agree on the tokens. -/
structure AllAgree (R : Token → Token → Prop) (table table' : OperatorTable)
    (ts ts' : List Token) : Prop where
  expression : ∀ introducer floor,
    Agree R (readExpression table introducer floor ts) (readExpression table' introducer floor ts')
  leading : Agree R (readLeading table ts) (readLeading table' ts')
  extension : ∀ introducer floor left,
    Agree R (readExtension table introducer floor left ts)
      (readExtension table' introducer floor left ts')
  arguments : Agree R (readArguments table ts) (readArguments table' ts')
  moreArguments : Agree R (readMoreArguments table ts) (readMoreArguments table' ts')

/-! ### The functions of the parser -/

section Steps

variable (hR : Alike R table table')
include hR

/-- A number token, alone or behind its sign. -/
theorem agree_numberValue {f : Float → Float} (ht : R t t') (h : Matched R rest rest') :
    Agree R ((numberValue t).map fun value => (Expr.number (f value), rest))
      ((numberValue t').map fun value => (Expr.number (f value), rest')) := by
  simp only [numberValue, ← hR.text ht]
  cases Numeral.read? t.text with
  | some value => exact .ok h
  | none =>
      have herror := BothAbout.invalidNumber ht
      rw [← hR.text ht] at herror
      exact .error herror

theorem agree_closeGroup (h : Matched R ts ts') :
    Agree R (readCloseGroup ts) (readCloseGroup ts') := by
  cases h with
  | nil => exact .error .unexpectedEnd
  | @cons t t' ts ts' ht _ hts =>
      by_cases hclose : t.kind = .closeGroup
      · rw [readCloseGroup_cons hclose, readCloseGroup_cons (hR.kind ht ▸ hclose)]
        exact .ok hts
      · rw [readCloseGroup_other hclose, readCloseGroup_other (hR.kind ht ▸ hclose)]
        exact .error (.unexpected _ ht)

/-- A leading operator: one that is not registered, a sign with its number, or one with its
operand. -/
theorem agree_leading_operator (hk : t.kind = .operator) (ht : R t t')
    (hglue : ∀ n ∈ rest.head?, ∀ n' ∈ rest'.head?, (Glued t n ↔ Glued t' n'))
    (hrest : Matched R rest rest') (ih : AllAgree R table table' rest rest') :
    Agree R (readLeading table (t :: rest)) (readLeading table' (t' :: rest')) := by
  have hk' : t'.kind = .operator := hR.kind ht ▸ hk
  have hsame := hR.leading ht hk
  cases hop : table.leading.get? t.text with
  | none =>
      rw [readLeading_operator_none hk hop, readLeading_operator_none hk' (hsame ▸ hop)]
      exact .error (.operatorForm _ ht)
  | some op =>
      have hop' : table'.leading.get? t'.text = some op := hsame ▸ hop
      by_cases hglued : ∃ n ∈ rest.head?, Glued t n
      · obtain ⟨n, hn, hglued⟩ := hglued
        cases hrest with
        | nil => cases hn
        | @cons m m' rest rest' hm _ hrest =>
            obtain rfl : m = n := Option.some.inj hn
            have hglued' : Glued t' m' := (hglue m rfl m' rfl).mp hglued
            rw [readLeading_glued hk hop hglued, readLeading_glued hk' hop' hglued']
            exact agree_numberValue hR hm hrest
      · have hapart : ∀ n ∈ rest.head?, ¬ Glued t n := fun n hn h => hglued ⟨n, hn, h⟩
        have hapart' : ∀ n' ∈ rest'.head?, ¬ Glued t' n' := by
          intro n' hn' h
          obtain ⟨n, hn, -⟩ := hrest.exists_head hn'
          exact hapart n hn ((hglue n hn n' hn').mpr h)
        rw [readLeading_operator hk hop hapart, readLeading_operator hk' hop' hapart',
          ← hR.text ht]
        exact .bind (ih.expression _ _) fun _ _ _ _ h => .pure h

variable (ih : ∀ us us', us.length < ts.length → Matched R us us' → AllAgree R table table' us us')
include ih

theorem agree_leading (h : Matched R ts ts') :
    Agree R (readLeading table ts) (readLeading table' ts') := by
  cases h with
  | nil =>
      rw [readLeading_nil, readLeading_nil]
      exact .error .unexpectedEnd
  | @cons t t' rest rest' ht hglue hrest =>
      have hother (h : t.kind ∈ [Kind.layout, .comma, .openBracket, .closeBracket, .closeGroup]) :
          Agree R (readLeading table (t :: rest)) (readLeading table' (t' :: rest')) := by
        rw [readLeading_other h, readLeading_other (hR.kind ht ▸ h)]
        exact .error (.noLeadingForm ht)
      have hkind := hR.kind ht
      have ihrest := ih rest rest' (by simp) hrest
      cases hk : t.kind with
      | number =>
          rw [readLeading_number hk, readLeading_number (hkind ▸ hk)]
          exact agree_numberValue (f := id) hR ht hrest
      | symbol =>
          rw [readLeading_symbol hk, readLeading_symbol (hkind ▸ hk), ← hR.text ht]
          exact .ok hrest
      | string =>
          rw [readLeading_string hk, readLeading_string (hkind ▸ hk), ← hR.text ht]
          exact .ok hrest
      | openGroup =>
          rw [readLeading_group hk, readLeading_group (hkind ▸ hk)]
          refine .bind (ihrest.expression none none) fun inner us us' _ hus => ?_
          exact .bind (agree_closeGroup hR hus) fun _ _ _ _ h => .pure h
      | operator => exact agree_leading_operator hR hk ht (hglue hk) hrest ihrest
      | layout => exact hother (by simp [hk])
      | comma => exact hother (by simp [hk])
      | openBracket => exact hother (by simp [hk])
      | closeBracket => exact hother (by simp [hk])
      | closeGroup => exact hother (by simp [hk])

theorem agree_extension (h : Matched R ts ts') :
    Agree R (readExtension table introducer floor left ts)
      (readExtension table' introducer floor left ts') := by
  cases h with
  | nil =>
      rw [readExtension_nil, readExtension_nil]
      exact .ok .nil
  | @cons t t' rest rest' ht hglue hrest =>
      have hall : Matched R (t :: rest) (t' :: rest') := .cons ht hglue hrest
      have hkind := hR.kind ht
      have ihrest := ih rest rest' (by simp) hrest
      by_cases hbracket : t.kind = .openBracket
      · have hbracket' : t'.kind = .openBracket := hkind ▸ hbracket
        cases habove : isAbove bracketPower floor with
        | false =>
            rw [readExtension_brackets_left hbracket habove,
              readExtension_brackets_left hbracket' habove]
            exact .ok hall
        | true =>
            rw [readExtension_brackets hbracket habove, readExtension_brackets hbracket' habove]
            refine .bind ihrest.arguments fun args us us' hargs hus => ?_
            have hlength := length_lt_of_readArguments hargs
            exact (ih us us' (by simp only [List.length_cons]; omega) hus).extension _ _ _
      by_cases hoperator : t.kind = .operator
      · have hoperator' : t'.kind = .operator := hkind ▸ hoperator
        have hsame := hR.joining ht hoperator
        cases hop : table.joining.get? t.text with
        | none =>
            rw [readExtension_operator_none hoperator hop,
              readExtension_operator_none hoperator' (hsame ▸ hop)]
            exact .error (.operatorForm _ ht)
        | some op =>
            have hop' : table'.joining.get? t'.text = some op := hsame ▸ hop
            cases hadmits : admits introducer floor t.text op with
            | false =>
                rw [readExtension_operator_left hoperator hop hadmits,
                  readExtension_operator_left hoperator' hop' (hR.text ht ▸ hadmits)]
                exact .ok hall
            | true =>
                rw [readExtension_operator hoperator hop hadmits,
                  readExtension_operator hoperator' hop' (hR.text ht ▸ hadmits), ← hR.text ht]
                refine .bind (ihrest.expression _ _) fun right us us' hright hus => ?_
                have hlength := length_lt_of_readExpression hright
                exact (ih us us' (by simp only [List.length_cons]; omega) hus).extension _ _ _
      · rw [readExtension_other hbracket hoperator,
          readExtension_other (hkind ▸ hbracket) (hkind ▸ hoperator)]
        exact .ok hall

theorem agree_moreArguments (h : Matched R ts ts') :
    Agree R (readMoreArguments table ts) (readMoreArguments table' ts') := by
  cases h with
  | nil =>
      rw [readMoreArguments_nil, readMoreArguments_nil]
      exact .error .unexpectedEnd
  | @cons t t' rest rest' ht _ hrest =>
      have hkind := hR.kind ht
      by_cases hclose : t.kind = .closeBracket
      · rw [readMoreArguments_close hclose, readMoreArguments_close (hkind ▸ hclose)]
        exact .ok hrest
      by_cases hcomma : t.kind = .comma
      · rw [readMoreArguments_comma hcomma, readMoreArguments_comma (hkind ▸ hcomma)]
        refine .bind ((ih rest rest' (by simp) hrest).expression none none)
          fun next us us' hnext hus => ?_
        have hlength := length_lt_of_readExpression hnext
        exact .bind (ih us us' (by simp only [List.length_cons]; omega) hus).moreArguments
          fun _ _ _ _ h => .pure h
      · rw [readMoreArguments_other hcomma hclose,
          readMoreArguments_other (hkind ▸ hcomma) (hkind ▸ hclose)]
        exact .error (.unexpected _ ht)

omit hR in
theorem agree_expression (hleading : Agree R (readLeading table ts) (readLeading table' ts')) :
    Agree R (readExpression table introducer floor ts)
      (readExpression table' introducer floor ts') := by
  rw [readExpression_eq, readExpression_eq]
  refine .bind hleading fun left rest rest' hleft hrest => ?_
  exact (ih rest rest' (length_lt_of_readLeading hleft) hrest).extension _ _ _

theorem agree_arguments (h : Matched R ts ts')
    (hexpression : Agree R (readExpression table none none ts)
      (readExpression table' none none ts')) :
    Agree R (readArguments table ts) (readArguments table' ts') := by
  cases h with
  | nil =>
      rw [readArguments_nil, readArguments_nil]
      exact .error .unexpectedEnd
  | @cons t t' rest rest' ht _ hrest =>
      have hkind := hR.kind ht
      by_cases hclose : t.kind = .closeBracket
      · rw [readArguments_close hclose, readArguments_close (hkind ▸ hclose)]
        exact .ok hrest
      · rw [readArguments_cons hclose, readArguments_cons (hkind ▸ hclose)]
        refine .bind hexpression fun first us us' hfirst hus => ?_
        exact .bind (ih us us' (length_lt_of_readExpression hfirst) hus).moreArguments
          fun _ _ _ _ h => .pure h

end Steps

/-- **Two runs agree** on matched tokens, in every function of the parser. -/
theorem agree (hR : Alike R table table') (h : Matched R ts ts') :
    AllAgree R table table' ts ts' := by
  induction hn : ts.length using Nat.strongRecOn generalizing ts ts' with
  | ind n ih =>
      subst hn
      have ih' : ∀ us us', us.length < ts.length → Matched R us us' →
          AllAgree R table table' us us' := fun us us' hlt hus => ih us.length hlt hus rfl
      have hleading := agree_leading hR ih' h
      exact {
        expression := fun _ _ => agree_expression ih' hleading
        leading := hleading
        extension := fun _ _ _ => agree_extension hR ih' h
        arguments := agree_arguments hR ih' h (agree_expression ih' hleading)
        moreArguments := agree_moreArguments hR ih' h }

/-- Two runs over all of the tokens give the same expression, or fail about related tokens. -/
theorem ofTokens_agree (hR : Alike R table table') (h : Matched R ts ts') :
    (∃ e, ofTokens table ts = .ok e ∧ ofTokens table' ts' = .ok e) ∨
      ∃ error error', ofTokens table ts = .error error ∧ ofTokens table' ts' = .error error' ∧
        BothAbout R error error' := by
  have hread := (agree hR h).expression none none
  rw [ofTokens_eq, ofTokens_eq]
  generalize readExpression table none none ts = r at hread
  generalize readExpression table' none none ts' = r' at hread
  cases hread with
  | error hboth => exact .inr ⟨_, _, rfl, rfl, hboth⟩
  | @ok e rest rest' hrest =>
      cases hrest with
      | nil => exact .inl ⟨e, rfl, rfl⟩
      | cons ht _ _ => exact .inr ⟨_, _, rfl, rfl, .trailing ht⟩

end Reduct.Parse
