import Reduct.Proofs.Parse.Declarations
import Reduct.Proofs.Parse.Lookahead
import Reduct.Proofs.Parse.RoundTrip
import Reduct.Proofs.Scope.Kept
import Reduct.Proofs.Token.Segments

/-!
# What holds of what is parsed

The symbols in an expression that is read from tokens are those of symbol tokens, and those that
operators put in. A symbol token is made of word characters, and the operators of a session put in
a few fixed symbols and those with attributes that declare operators. So a property that evaluation
keeps and that holds of all the definitions holds of every expression that a session reads
(`Parse.holds_of_parse`, `Scopes.keeps_operators`).

The induction over the parser is the one for its lookahead: on the number of tokens, with the
equations of its functions.
-/

namespace Reduct

variable {P : String → Prop} {Q : Expr → Prop}

/-! ### Operators -/

/-- The operators build expressions with the property from such expressions. -/
structure OperatorTable.Keeps (Q : Expr → Prop) (table : OperatorTable) : Prop where
  leading : table.leading.All fun _ op => ∀ e : Expr, Q e → Q (op.build e)
  joining : table.joining.All fun _ op => ∀ a b : Expr, Q a → Q b → Q (op.build a b)

namespace Parse

open Token (Kind)

variable {α β : Type} {R : α → Prop} {S : β → Prop} {p : Reader α} {q : α → Reader β}
  {ts rest : List Token} {t : Token} {table : OperatorTable} {introducer : Option String}
  {floor : Option Int} {left e : Expr}

/-! ### Readers -/

/-- What `p` reads from `ts` satisfies `R`. -/
def Reads (R : α → Prop) (p : Reader α) (ts : List Token) : Prop :=
  ∀ a rest, p ts = .ok (a, rest) → R a

theorem Reads.pure {a : α} (h : R a) (ts : List Token) : Reads R (pure a) ts := by
  intro b rest hb
  obtain ⟨rfl, -⟩ := Prod.mk.inj (Except.ok.inj hb)
  exact h

theorem Reads.bind (hp : Reads R p ts)
    (hq : ∀ a rest, p ts = .ok (a, rest) → R a → Reads S (q a) rest) : Reads S (p >>= q) ts := by
  intro b rest' h
  obtain ⟨a, rest, ha, hb⟩ := bind_eq_ok_iff.mp h
  exact hq a rest ha (hp a rest ha) b rest' hb

theorem Reads.of_eq {p' : Reader α} {ts' : List Token} (h : Reads R p' ts')
    (heq : p ts = p' ts') : Reads R p ts :=
  fun a rest ha => h a rest (heq ▸ ha)

theorem Reads.of_error {error : SyntaxError} (h : p ts = .error error) : Reads R p ts :=
  fun a rest ha => absurd (h.symm.trans ha) (by simp)

theorem Reads.of_numberValue (hQ : Expr.Kept P Q) {p : Reader Expr} {f : Float → Float}
    (h : p ts = (numberValue t).map fun value => (.number (f value), rest)) :
    Reads Q p ts := by
  cases hvalue : numberValue t with
  | error error => exact .of_error (by rw [h, hvalue]; rfl)
  | ok value => exact (Reads.pure (hQ.number _) rest).of_eq (by rw [h, hvalue]; rfl)

/-- The symbol tokens have names with the property. -/
def Named (P : String → Prop) (ts : List Token) : Prop := ∀ t ∈ ts, t.kind = .symbol → P t.text

theorem Named.of_suffix (h : Named P ts) (hrest : rest <:+ ts) : Named P rest :=
  fun t ht => h t (hrest.subset ht)

/-! ### The functions of the parser -/

/-- All the functions of the parser read expressions with the property. -/
structure AllReads (Q : Expr → Prop) (table : OperatorTable) (ts : List Token) : Prop where
  expression : ∀ introducer floor, Reads Q (readExpression table introducer floor) ts
  leading : Reads Q (readLeading table) ts
  extension : ∀ introducer floor left, Q left →
    Reads Q (readExtension table introducer floor left) ts
  arguments : Reads (fun es => ∀ e ∈ es, Q e) (readArguments table) ts
  moreArguments : Reads (fun es => ∀ e ∈ es, Q e) (readMoreArguments table) ts

section Steps

variable (hQ : Expr.Kept P Q) (ht : table.Keeps Q) (hts : Named P ts)
  (ih : ∀ ts', ts'.length < ts.length → Named P ts' → AllReads Q table ts')
include hQ ht hts ih

theorem reads_leading : Reads Q (readLeading table) ts := by
  cases ts with
  | nil => exact .of_error readLeading_nil
  | cons t rest =>
      have ihrest := ih rest (by simp) (hts.of_suffix (List.suffix_cons t rest))
      have hother (h : t.kind ∈ [Kind.layout, .comma, .openBracket, .closeBracket, .closeGroup]) :
          Reads Q (readLeading table) (t :: rest) := .of_error (readLeading_other h)
      cases hk : t.kind with
      | number => exact .of_numberValue hQ (f := id) (readLeading_number hk)
      | symbol =>
          exact (Reads.pure (hQ.sym (hts t (by simp) hk)) rest).of_eq (readLeading_symbol hk)
      | string => exact (Reads.pure (hQ.string _) rest).of_eq (readLeading_string hk)
      | openGroup =>
          refine (Reads.bind (ihrest.expression none none) fun inner rest' _ hinner => ?_).of_eq
            (readLeading_group hk)
          exact Reads.bind (R := fun _ => True) (fun _ _ _ => trivial)
            fun _ rest'' _ _ => .pure hinner rest''
      | operator =>
          cases hop : table.leading.get? t.text with
          | none => exact .of_error (readLeading_operator_none hk hop)
          | some op =>
              by_cases hglued : ∃ n ∈ rest.head?, Glued t n
              · obtain ⟨n, hn, hglued⟩ := hglued
                obtain ⟨rest, rfl⟩ := List.head?_eq_some_iff.mp hn
                exact .of_numberValue hQ (readLeading_glued hk hop hglued)
              · refine (Reads.bind (ihrest.expression _ _) fun operand rest' _ hoperand => ?_).of_eq
                  (readLeading_operator hk hop fun n hn hn' => hglued ⟨n, hn, hn'⟩)
                exact .pure (ht.leading.of_get? hop operand hoperand) rest'
      | layout => exact hother (by simp [hk])
      | comma => exact hother (by simp [hk])
      | openBracket => exact hother (by simp [hk])
      | closeBracket => exact hother (by simp [hk])
      | closeGroup => exact hother (by simp [hk])

theorem reads_extension (hleft : Q left) :
    Reads Q (readExtension table introducer floor left) ts := by
  cases ts with
  | nil => exact (Reads.pure hleft []).of_eq readExtension_nil
  | cons t rest =>
      have hrest := hts.of_suffix (List.suffix_cons t rest)
      have ihrest := ih rest (by simp) hrest
      have hstop (h : readExtension table introducer floor left (t :: rest) =
          .ok (left, t :: rest)) :
          Reads Q (readExtension table introducer floor left) (t :: rest) :=
        (Reads.pure hleft (t :: rest)).of_eq h
      by_cases hbracket : t.kind = .openBracket
      · cases habove : isAbove bracketPower floor with
        | false => exact hstop (readExtension_brackets_left hbracket habove)
        | true =>
            refine (Reads.bind ihrest.arguments fun args rest' hargs hnames => ?_).of_eq
              (readExtension_brackets hbracket habove)
            have hlength := length_lt_of_readArguments hargs
            exact (ih rest' (by simp only [List.length_cons]; omega)
              (hrest.of_suffix ((online table rest).arguments.suffix hargs))).extension _ _ _
              (hQ.app hleft hnames)
      by_cases hoperator : t.kind = .operator
      · cases hop : table.joining.get? t.text with
        | none => exact .of_error (readExtension_operator_none hoperator hop)
        | some op =>
            cases hadmits : admits introducer floor t.text op with
            | false => exact hstop (readExtension_operator_left hoperator hop hadmits)
            | true =>
                refine (Reads.bind (ihrest.expression _ _)
                  fun right rest' hright hnames => ?_).of_eq
                  (readExtension_operator hoperator hop hadmits)
                have hlength := length_lt_of_readExpression hright
                exact (ih rest' (by simp only [List.length_cons]; omega)
                  (hrest.of_suffix (((online table rest).expression _ _).suffix hright))).extension
                  _ _ _ (ht.joining.of_get? hop left right hleft hnames)
      · exact hstop (readExtension_other hbracket hoperator)

omit hQ ht in
theorem reads_expression (hleading : Reads Q (readLeading table) ts) :
    Reads Q (readExpression table introducer floor) ts := by
  refine (Reads.bind hleading fun left rest hleft hnames => ?_).of_eq readExpression_eq
  exact (ih rest (length_lt_of_readLeading hleft)
    (hts.of_suffix ((online table ts).leading.suffix hleft))).extension introducer floor left hnames

omit hQ ht in
theorem reads_arguments
    (hexpression : Reads Q (readExpression table none none) ts) :
    Reads (fun es => ∀ e ∈ es, Q e) (readArguments table) ts := by
  cases ts with
  | nil => exact .of_error readArguments_nil
  | cons t rest =>
      by_cases hclose : t.kind = .closeBracket
      · exact (Reads.pure (by simp) rest).of_eq (readArguments_close hclose)
      · refine (Reads.bind hexpression fun first rest' hfirst hnames => ?_).of_eq
          (readArguments_cons hclose)
        have ihrest := ih rest' (length_lt_of_readExpression hfirst)
          (hts.of_suffix (((online table (t :: rest)).expression _ _).suffix hfirst))
        exact Reads.bind ihrest.moreArguments fun others rest'' _ hothers =>
          .pure (by simpa using ⟨hnames, hothers⟩) rest''

omit hQ ht in
theorem reads_moreArguments :
    Reads (fun es => ∀ e ∈ es, Q e) (readMoreArguments table) ts := by
  cases ts with
  | nil => exact .of_error readMoreArguments_nil
  | cons t rest =>
      have hrest := hts.of_suffix (List.suffix_cons t rest)
      by_cases hclose : t.kind = .closeBracket
      · exact (Reads.pure (by simp) rest).of_eq (readMoreArguments_close hclose)
      by_cases hcomma : t.kind = .comma
      · refine (Reads.bind ((ih rest (by simp) hrest).expression none none)
          fun next rest' hnext hnames => ?_).of_eq (readMoreArguments_comma hcomma)
        have hlength := length_lt_of_readExpression hnext
        have ihrest := ih rest' (by simp only [List.length_cons]; omega)
          (hrest.of_suffix (((online table rest).expression _ _).suffix hnext))
        exact Reads.bind ihrest.moreArguments fun others rest'' _ hothers =>
          .pure (by simpa using ⟨hnames, hothers⟩) rest''
      · exact .of_error (readMoreArguments_other hcomma hclose)

end Steps

/-- Whatever the parser reads, it consists of tokens and of what operators put in. -/
theorem allReads (hQ : Expr.Kept P Q) (ht : table.Keeps Q) (ts : List Token) (hts : Named P ts) :
    AllReads Q table ts := by
  induction hn : ts.length using Nat.strongRecOn generalizing ts with
  | ind n ih =>
      subst hn
      have ih' : ∀ ts', ts'.length < ts.length → Named P ts' → AllReads Q table ts' :=
        fun ts' hlt hts' => ih ts'.length hlt ts' hts' rfl
      have hleading := reads_leading hQ ht hts ih'
      exact {
        expression := fun _ _ => reads_expression hts ih' hleading
        leading := hleading
        extension := fun _ _ _ => reads_extension hQ ht hts ih'
        arguments := reads_arguments hts ih' (reads_expression hts ih' hleading)
        moreArguments := reads_moreArguments hts ih' }

/-- **What is read from a source text.** A symbol in it is a word of the text or put in by an
operator, so a property that evaluation keeps holds of it. -/
theorem holds_of_parse {source : String} (hQ : Expr.Kept P Q) (ht : table.Keeps Q)
    (h : Reduct.parse table source = .ok e) : Q e := by
  cases hts : Token.tokenize table.texts source with
  | error error => simp [Reduct.parse, hts, bind, Except.bind] at h
  | ok ts =>
      have hread : readExpression table none none ts = .ok (e, []) := by
        rw [← ofTokens_eq_ok_iff]
        simpa [Reduct.parse, hts, bind, Except.bind] using h
      refine (allReads hQ ht ts fun t hmem hk => ?_).expression none none e [] hread
      -- A symbol token is a word, and a dollar sign is no word character.
      obtain hoperator | hspelled := Token.spelled_of_scan hts t hmem
      · simp [hk] at hoperator
      · rw [hk] at hspelled
        cases hspelled with
        | symbol _ hword => exact hQ.plain _ fun hdollar => absurd (hword _ hdollar) (by decide)

end Parse

/-! ### The operators of a session -/

namespace OperatorTable

mutual

theorem holds_listItems (hQ : Expr.Kept P Q) : ∀ {e : Expr}, Q e → ∀ d ∈ listItems e, Q d
  | .apply (.symbol name mark) args held, he => by
      rw [listItems]
      split
      · exact holds_listItemsAll hQ fun _ => hQ.arg he
      · exact List.forall_mem_singleton.mpr he
  | .apply (.number _) _ _, he | .apply (.string _) _ _, he | .apply (.apply ..) _ _, he
  | .number _, he | .string _, he | .symbol .., he => List.forall_mem_singleton.mpr he

theorem holds_listItemsAll (hQ : Expr.Kept P Q) : ∀ {es : List Expr},
    (∀ e ∈ es, Q e) → ∀ d ∈ listItemsAll es, Q d
  | [], _ => by simp [listItemsAll]
  | e :: es, hes => by
      rw [List.forall_mem_cons] at hes
      exact List.forall_mem_append.mpr ⟨holds_listItems hQ hes.1, holds_listItemsAll hQ hes.2⟩

end

section Kept

variable (hQ : Expr.Kept P Q)
include hQ

theorem holds_negate {e : Expr} (h : Q e) : Q (negate e) := by
  have hsub : Q (.call "Sub" [.number 0, e]) := hQ.app (hQ.word "Sub" (by decide))
    (List.forall_mem_cons.mpr ⟨hQ.number 0, List.forall_mem_singleton.mpr h⟩)
  cases e with
  | number value => exact hQ.number _
  | string _ | symbol _ _ | apply _ _ _ => exact hsub

theorem holds_applying {name : String} (h : P name) (power : Int) (e : Expr) (he : Q e) :
    Q ((applying power name).build e) :=
  hQ.app (hQ.sym h) (List.forall_mem_singleton.mpr he)

theorem holds_combining {name : String} (h : P name) (power : Int) (rightAssoc : Bool)
    (a b : Expr) (ha : Q a) (hb : Q b) : Q ((combining power name rightAssoc).build a b) :=
  hQ.app (hQ.sym h) (List.forall_mem_cons.mpr ⟨ha, List.forall_mem_singleton.mpr hb⟩)

theorem keeps_default : OperatorTable.default.Keeps Q where
  leading := by
    simp only [default, Table.All, List.forall_mem_cons, List.not_mem_nil, false_implies,
      implies_true, and_true]
    exact ⟨holds_applying hQ (hQ.plain _ (by decide)) 15, fun _ he => he,
      fun _ he => holds_negate hQ he, holds_applying hQ (hQ.plain _ (by decide)) 0⟩
  joining := by
    have hlist (a b : Expr) (ha : Q a) (hb : Q b) : Q (.list (listItems a ++ listItems b)) :=
      hQ.list (List.forall_mem_append.mpr ⟨holds_listItems hQ ha, holds_listItems hQ hb⟩)
    simp only [default, Table.All, List.forall_mem_cons, List.not_mem_nil, false_implies,
      implies_true, and_true]
    and_intros
    all_goals first | exact hlist | exact holds_combining hQ (hQ.plain _ (by decide)) _ _

end Kept

end OperatorTable

/-- The operators that can be used put in fixed symbols and those with attributes. -/
theorem Scopes.keeps_operators {s : Scopes} (hQ : Expr.Kept P Q) (hs : s.Holds P Q) :
    s.operators.1.Keeps Q := by
  have hjoining := Declaration.puts_joining.addAll_induction
    (fun table d pair hpair (h : table.Keeps Q) =>
      ⟨h.leading, h.joining.put
        (OperatorTable.holds_combining hQ (hs.withAttribute "BinaryOp" pair hpair).1 _ _)⟩)
    (OperatorTable.keeps_default hQ)
  exact Declaration.puts_leading.addAll_induction
    (fun table d pair hpair (h : table.Keeps Q) =>
      ⟨h.leading.put (OperatorTable.holds_applying hQ (hs.withAttribute "UnaryOp" pair hpair).1 _),
        h.joining⟩)
    hjoining

end Reduct
