import Reduct.Proofs.Parse.Lookahead
import Reduct.Proofs.Token.Segments

/-!
# Chains of joining operators

A chain is an operand and any number of links, each a joining operator and the operand behind it.
The operands are said here by a grammar of their own (`IsOperand`): atoms and groups, with arguments
in brackets behind them, where what stands in a group or between commas is whatever is parsed by
itself.

On the tokens of a chain the parser does what can be said of the links alone (`Climbs`): an operand
takes in one link after the other, each with the right operand that the links behind it make up, as
long as it admits them. What is proved of the parser on chains is proved of that relation.
-/

namespace Reduct.Parse

open Token (Kind)

variable {table : OperatorTable} {introducer : Option String} {floor : Option Int}
  {ts inside rest us : List Token} {t o c : Token} {e x head : Expr} {args : List Expr}

/-! ### Operands -/

/-- A token that is an operand by itself. -/
inductive IsAtom : Token → Expr → Prop
  | number {t : Token} {value : Float} :
      t.kind = .number → numberValue t = .ok value → IsAtom t (.number value)
  | symbol {t : Token} : t.kind = .symbol → IsAtom t (.sym t.text)
  | string {t : Token} : t.kind = .string → IsAtom t (.string (Text.unquote t.text))

/-- Tokens between brackets: expressions with commas between them. -/
inductive IsListing (table : OperatorTable) : List Token → List Expr → Prop
  | nil : IsListing table [] []
  | one {ts : List Token} {e : Expr} : ofTokens table ts = .ok e → IsListing table ts [e]
  | cons {ts rest : List Token} {comma : Token} {e d : Expr} {es : List Expr} :
      ofTokens table ts = .ok e → comma.kind = .comma → IsListing table rest (d :: es) →
        IsListing table (ts ++ comma :: rest) (e :: d :: es)

/-- An operand: an atom or an expression in parentheses, and any number of arguments in brackets
behind it. -/
inductive IsOperand (table : OperatorTable) : List Token → Expr → Prop
  | atom {t : Token} {x : Expr} : IsAtom t x → IsOperand table [t] x
  | group {o c : Token} {inside : List Token} {e : Expr} :
      o.kind = .openGroup → ofTokens table inside = .ok e → c.kind = .closeGroup →
        IsOperand table (o :: (inside ++ [c])) e
  | brackets {ts inside : List Token} {o c : Token} {head : Expr} {args : List Expr} :
      IsOperand table ts head → o.kind = .openBracket → IsListing table inside args →
        c.kind = .closeBracket → IsOperand table (ts ++ o :: (inside ++ [c])) (.app head args)

theorem exists_decimal? {cs : List Char} (h : Numeral.Plain cs) :
    ∃ d, Numeral.decimal? cs = some d := by
  cases h with
  | whole hne hds => exact ⟨_, Numeral.decimal?_whole hne hds⟩
  | pointed hne hds _ hfs => exact ⟨_, Numeral.decimal?_pointed hne hds hfs⟩

/-- The numbers, names and string literals that a source text is cut into are atoms: the digits of
a number always have a value. -/
theorem exists_isAtom {operators : List String} (hops : ∀ op ∈ operators, op ≠ "") {source : String}
    (h : Token.tokenize operators source = .ok ts) (ht : t ∈ ts)
    (hk : t.kind ∈ [Kind.number, .symbol, .string]) : ∃ x, IsAtom t x := by
  obtain ⟨segments, htiles, rfl⟩ := Token.exists_tiles_of_scan hops h
  cases hkind : t.kind with
  | number =>
      have hspelled := (htiles.spelled 0 t ht).resolve_left (by simp [hkind])
      rw [hkind] at hspelled
      cases hspelled with
      | number hplain =>
          obtain ⟨d, hd⟩ := exists_decimal? hplain
          have hread : Numeral.read? t.text = some d.toFloat := by
            rw [← t.text.ofList_toList, Numeral.read?_plain hplain, Numeral.unsigned?_plain hplain,
              hd]
            rfl
          exact ⟨_, .number hkind (numberValue_of_read? hread)⟩
  | symbol => exact ⟨_, .symbol hkind⟩
  | string => exact ⟨_, .string hkind⟩
  | _ => simp [hkind] at hk

/-! ### Reading an operand -/

/-- What is parsed by itself is read as the same in front of tokens that do not extend it. -/
theorem readExpression_append (h : ofTokens table ts = .ok e) (hus : Closed us) :
    readExpression table none none (ts ++ us) = .ok (e, us) :=
  ((online table ts).expression none none).goesOn (ofTokens_eq_ok_iff.mp h) hus.apart fun _ => hus

/-- No expression begins with a closing bracket. -/
theorem exists_cons_of_ofTokens (h : ofTokens table ts = .ok e) :
    ∃ t rest, ts = t :: rest ∧ t.kind ≠ .closeBracket := by
  have hread := ofTokens_eq_ok_iff.mp h
  rw [readExpression_eq] at hread
  cases ts with
  | nil => simp [bind_error readLeading_nil] at hread
  | cons t rest =>
      refine ⟨t, rest, rfl, fun hk => ?_⟩
      have hother : readLeading table (t :: rest) = .error (.noLeadingForm t.text t.offset) :=
        readLeading_other (by simp [hk])
      simp [bind_error hother] at hread

/-- The tokens of a listing and the bracket behind it are those of the first expression and what
gives the others. -/
theorem IsListing.exists_first (h : IsListing table inside (e :: args))
    (hc : c.kind = .closeBracket) (rest : List Token) :
    ∃ ts more, inside ++ c :: rest = ts ++ more ∧ ofTokens table ts = .ok e ∧ Closed more ∧
      readMoreArguments table more = .ok (args, rest) := by
  generalize hall : e :: args = all at h
  induction h generalizing e args with
  | nil => cases hall
  | @one ts d hd =>
      obtain ⟨rfl, rfl⟩ := List.cons.inj hall
      exact ⟨ts, c :: rest, rfl, hd, by simp [Closed, hc], readMoreArguments_close hc⟩
  | @cons ts others comma d d' es hd hcomma _ ih =>
      obtain ⟨rfl, rfl⟩ := List.cons.inj hall
      obtain ⟨ts', more, htokens, hd', hmore, hread⟩ := ih rfl
      refine ⟨ts, comma :: (others ++ c :: rest), by simp, hd, by simp [Closed, hcomma], ?_⟩
      rw [readMoreArguments_comma hcomma, htokens, bind_ok (readExpression_append hd' hmore),
        bind_ok hread]
      rfl

theorem readArguments_listing (h : IsListing table inside args) (hc : c.kind = .closeBracket)
    (rest : List Token) : readArguments table (inside ++ c :: rest) = .ok (args, rest) := by
  cases args with
  | nil =>
      cases h
      exact readArguments_close hc
  | cons e es =>
      obtain ⟨ts, more, htokens, he, hmore, hread⟩ := h.exists_first hc rest
      obtain ⟨t, ts', rfl, ht⟩ := exists_cons_of_ofTokens he
      rw [htokens, List.cons_append, readArguments_cons ht, ← List.cons_append,
        bind_ok (readExpression_append he hmore), bind_ok hread]
      rfl

theorem readLeading_atom (h : IsAtom t x) (rest : List Token) :
    readLeading table (t :: rest) = .ok (x, rest) := by
  cases h with
  | number hk hvalue => rw [readLeading_number hk, hvalue]; rfl
  | symbol hk => exact readLeading_symbol hk
  | string hk => exact readLeading_string hk

theorem readExpression_atom (h : IsAtom t x) (rest : List Token) :
    readExpression table introducer floor (t :: rest) =
      readExtension table introducer floor x rest := by
  rw [readExpression_eq, bind_ok (readLeading_atom h rest)]

/-- **An operand is read whole,** and then extended by what follows it. -/
theorem readExpression_operand (h : IsOperand table ts x)
    (hfloor : isAbove bracketPower floor = true) (rest : List Token) :
    readExpression table introducer floor (ts ++ rest) =
      readExtension table introducer floor x rest := by
  induction h generalizing rest with
  | atom h => exact readExpression_atom h rest
  | @group o c inside e ho he hc =>
      have hclosed : Closed (c :: rest) := by simp [Closed, hc]
      have hgroup : readLeading table (o :: (inside ++ c :: rest)) = .ok (e, rest) := by
        rw [readLeading_group ho, bind_ok (readExpression_append he hclosed),
          bind_ok (readCloseGroup_cons hc)]
        rfl
      rw [List.cons_append, List.append_assoc, List.singleton_append, readExpression_eq,
        bind_ok hgroup]
  | @brackets ts inside o c head args _ ho hinside hc ih =>
      rw [List.append_assoc, List.cons_append, List.append_assoc, List.singleton_append, ih,
        readExtension_brackets ho hfloor, bind_ok (readArguments_listing hinside hc rest)]

/-! ### Links -/

/-- Tokens that a grammar of operands admits, and the expression that they stand for. -/
structure Operand (grammar : List Token → Expr → Prop) where
  tokens : List Token
  value : Expr
  wellFormed : grammar tokens value

/-- A joining operator of the table and the operand behind it. -/
structure Link (table : OperatorTable) (grammar : List Token → Expr → Prop) where
  sign : Token
  op : JoiningOperator
  operand : Operand grammar
  isOperator : sign.kind = .operator
  registered : table.joining.get? sign.text = some op

variable {grammar : List Token → Expr → Prop} {l : Link table grammar}
  {links more taken left : List (Link table grammar)}

namespace Link

def tokens (l : Link table grammar) : List Token := l.sign :: l.operand.tokens

/-- The operator with its right operand. -/
def joint (l : Link table grammar) : JoiningOperator × Expr := (l.op, l.operand.value)

/-- Does an operand with this introducer and floor take the link in? -/
def admittedBy (l : Link table grammar) (introducer : Option String) (floor : Option Int) : Bool :=
  admits introducer floor l.sign.text l.op

/-- The right operand of the link is read whole. -/
def Reads (l : Link table grammar) : Prop :=
  ∀ rest, readExpression table (some l.sign.text) (some l.op.power) (l.operand.tokens ++ rest) =
    readExtension table (some l.sign.text) (some l.op.power) l.operand.value rest

end Link

theorem admittedBy_iff {text : String} {power : Int} :
    l.admittedBy (some text) (some power) = true ↔
      power < l.op.power ∨ l.op.rightAssoc = true ∧ text = l.sign.text := by
  simp [Link.admittedBy, admits, isAbove]

theorem admittedBy_eq_false_iff {text : String} {power : Int} :
    l.admittedBy (some text) (some power) = false ↔
      l.op.power ≤ power ∧ ¬ (l.op.rightAssoc = true ∧ text = l.sign.text) := by
  rw [Bool.eq_false_iff, Ne, admittedBy_iff, not_or, Int.not_lt]

theorem op_eq_of_text_eq {m : Link table grammar} (h : m.sign.text = l.sign.text) :
    m.op = l.op := by
  have hm := m.registered
  rw [h] at hm
  exact Option.some.inj (hm.symm.trans l.registered)

/-- The tokens of several links. -/
def linkTokens (links : List (Link table grammar)) : List Token := links.flatMap Link.tokens

@[simp] theorem linkTokens_nil : linkTokens ([] : List (Link table grammar)) = [] := rfl

@[simp] theorem linkTokens_cons (l : Link table grammar) (links : List (Link table grammar)) :
    linkTokens (l :: links) = l.sign :: (l.operand.tokens ++ linkTokens links) := rfl

/-- The operand `x` with this introducer and floor becomes `e` by what it takes in of the links, and
leaves the others. -/
inductive Climbs : Option String → Option Int → Expr → List (Link table grammar) → Expr →
    List (Link table grammar) → Prop
  | done {introducer : Option String} {floor : Option Int} {x : Expr} :
      Climbs introducer floor x [] x []
  | stop {introducer : Option String} {floor : Option Int} {x : Expr} {l : Link table grammar}
      {links : List (Link table grammar)} :
      l.admittedBy introducer floor = false → Climbs introducer floor x (l :: links) x (l :: links)
  | join {introducer : Option String} {floor : Option Int} {x right e : Expr}
      {l : Link table grammar} {links more left : List (Link table grammar)} :
      l.admittedBy introducer floor = true →
        Climbs (some l.sign.text) (some l.op.power) l.operand.value links right more →
          Climbs introducer floor (l.op.build x right) more e left →
            Climbs introducer floor x (l :: links) e left

namespace Climbs

/-- What is left is an end of the links. -/
theorem suffix (h : Climbs introducer floor x links e left) : left <:+ links := by
  induction h with
  | done => exact List.suffix_refl []
  | stop _ => exact List.suffix_refl _
  | join _ _ _ ihright ihleft => exact (ihleft.trans ihright).trans (List.suffix_cons _ _)

/-- The first link that is left is not admitted. -/
theorem head_left (h : Climbs introducer floor x links e left) :
    ∀ l ∈ left.head?, l.admittedBy introducer floor = false := by
  induction h with
  | done => simp
  | stop hl =>
      rintro _ ⟨⟩
      exact hl
  | join _ _ _ _ ihleft => exact ihleft

/-- Without a floor nothing is left. -/
theorem eq_nil_of_no_floor (h : Climbs introducer none x links e left) : left = [] := by
  cases left with
  | nil => rfl
  | cons l left => exact absurd (h.head_left l rfl) (by simp [Link.admittedBy, admits, isAbove])

/-- Any links can be climbed, by any operand. -/
theorem exists_climbs (introducer : Option String) (floor : Option Int) (x : Expr)
    (links : List (Link table grammar)) : ∃ e left, Climbs introducer floor x links e left := by
  induction hn : links.length using Nat.strong_induction_on
    generalizing introducer floor x links with
  | _ n ih =>
      subst hn
      cases links with
      | nil => exact ⟨x, [], .done⟩
      | cons l links =>
          cases hl : l.admittedBy introducer floor with
          | false => exact ⟨x, l :: links, .stop hl⟩
          | true =>
              obtain ⟨right, more, hright⟩ := ih links.length (by simp) (some l.sign.text)
                (some l.op.power) l.operand.value links rfl
              have hshorter := hright.suffix.length_le
              obtain ⟨e, left, hleft⟩ := ih more.length (by simp only [List.length_cons]; omega)
                introducer floor (l.op.build x right) more rfl
              exact ⟨e, left, .join hl hright hleft⟩

/-- Links behind the others are left, if neither the operand nor any of the links takes the first of
them in. -/
theorem append (h : Climbs introducer floor x links e left)
    (hlinks : ∀ l ∈ links, ∀ m ∈ more.head?,
      m.admittedBy (some l.sign.text) (some l.op.power) = false)
    (hend : ∀ m ∈ more.head?, m.admittedBy introducer floor = false) :
    Climbs introducer floor x (links ++ more) e (left ++ more) := by
  induction h with
  | done =>
      cases more with
      | nil => exact .done
      | cons m more => exact .stop (hend m rfl)
  | stop hl => exact .stop hl
  | @join introducer floor x right e l links others left hl hright _ ihright ihleft =>
      have hothers : ∀ l ∈ others, l ∈ links := fun l => (hright.suffix.subset ·)
      have hright' := ihright (fun l' hl' => hlinks l' (.tail _ hl')) (hlinks l (.head _))
      have hleft' := ihleft (fun l' hl' => hlinks l' (.tail _ (hothers l' hl'))) hend
      exact .join hl hright' hleft'

/-- An operand that admits all the links takes them in as one without a floor does. -/
theorem of_no_floor {introducer' : Option String} (h : Climbs introducer' none x links e left)
    (hlinks : ∀ l ∈ links, l.admittedBy introducer floor = true) :
    Climbs introducer floor x links e left := by
  generalize hfloor : (none : Option Int) = floor' at h
  induction h with
  | done => exact .done
  | stop hl => exact absurd hl (by simp [← hfloor, Link.admittedBy, admits, isAbove])
  | @join introducer' floor' x right e l links others left hl hright _ _ ihleft =>
      refine .join (hlinks l (.head _)) hright (ihleft (fun l' hl' => ?_) hfloor)
      exact hlinks l' (.tail _ (hright.suffix.subset hl'))

/-- **Climbing.** The parser does on the tokens of the links what the relation says of them. -/
theorem readExtension_eq (h : Climbs introducer floor x links e left)
    (hreads : ∀ l ∈ links, l.Reads) :
    readExtension table introducer floor x (linkTokens links) = .ok (e, linkTokens left) := by
  induction h with
  | done => exact readExtension_nil
  | @stop introducer floor x l links hl =>
      exact readExtension_operator_left l.isOperator l.registered hl
  | @join introducer floor x right e l links more left hl hright _ ihright ihleft =>
      have hright' := ihright fun l' hl' => hreads l' (.tail _ hl')
      have hleft' := ihleft fun l' hl' => hreads l' (.tail _ (hright.suffix.subset hl'))
      have hoperand := hreads l (.head _) (linkTokens links)
      rw [linkTokens_cons, readExtension_operator l.isOperator l.registered hl,
        bind_ok (hoperand.trans hright'), hleft']

end Climbs

end Reduct.Parse
