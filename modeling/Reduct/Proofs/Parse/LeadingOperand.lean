import Reduct.Proofs.Parse.Chains

/-!
# The operand of a leading operator

In front of a chain of single tokens, a leading operator should take in the operand behind it and
the links that bind tighter than the operator does, up to the first one that does not. It does
(`readLeading_chain`), save for one case: a joining operator of the same text that associates to the
right is taken in whatever its power. What introduced an operand is known by its text only, so the
leading operator passes for a joining one there, and its operand for a right operand
(`readLeading_powers`).
-/

namespace Reduct.Parse

open OperatorTable (applying combining)

variable {table : OperatorTable} {introducer : Option String} {floor : Option Int}
  {u : Token} {form : LeadingOperator} {x e : Expr} {power : Int}

/-- A single token that is an operand. -/
inductive IsSingle : List Token → Expr → Prop
  | atom {t : Token} {x : Expr} : IsAtom t x → IsSingle [t] x

variable {first : Operand IsSingle} {links : List (Link table IsSingle)}

theorem readExpression_single (first : Operand IsSingle) (rest : List Token) :
    readExpression table introducer floor (first.tokens ++ rest) =
      readExtension table introducer floor first.value rest := by
  obtain ⟨tokens, value, hsingle⟩ := first
  cases hsingle with
  | atom h => exact readExpression_atom h rest

theorem Climbs.readExpression_eq {left : List (Link table IsSingle)}
    (h : Climbs introducer floor first.value links e left) :
    readExpression table introducer floor (first.tokens ++ linkTokens links) =
      .ok (e, linkTokens left) := by
  rw [readExpression_single]
  exact h.readExtension_eq fun l _ rest => readExpression_single l.operand rest

/-- The links up to the first one that does not bind tighter than the power. -/
def tighter (power : Int) (links : List (Link table IsSingle)) : List (Link table IsSingle) :=
  links.takeWhile fun l => power < l.op.power

/-- The links from the first one on that does not bind tighter than the power. -/
def fromLooser (power : Int) (links : List (Link table IsSingle)) : List (Link table IsSingle) :=
  links.dropWhile fun l => power < l.op.power

theorem tighter_append_fromLooser (power : Int) (links : List (Link table IsSingle)) :
    tighter power links ++ fromLooser power links = links :=
  List.takeWhile_append_dropWhile

theorem lt_power_of_mem_tighter {l : Link table IsSingle} (h : l ∈ tighter power links) :
    power < l.op.power := by
  simpa using List.mem_takeWhile_imp h

theorem power_le_of_head_fromLooser {l : Link table IsSingle}
    (h : l ∈ (fromLooser power links).head?) : l.op.power ≤ power := by
  have hfalse := List.head?_dropWhile_not
    (fun l : Link table IsSingle => decide (power < l.op.power)) links
  rw [← fromLooser, h] at hfalse
  simpa using hfalse

/-- An operand with the floor `power` takes in the tighter links as one without a floor does, if it
does not take in the link behind them. -/
theorem Climbs.upTo (h : Climbs none none x (tighter power links) e [])
    (hend : ∀ m ∈ (fromLooser power links).head?, m.admittedBy introducer (some power) = false) :
    Climbs introducer (some power) x links e (fromLooser power links) := by
  have hall : ∀ l ∈ tighter power links, l.admittedBy introducer (some power) = true := by
    intro l hl
    simp [Link.admittedBy, admits, isAbove, lt_power_of_mem_tighter hl]
  -- A right operand among them leaves the link behind them too, which has less power.
  have hinner : ∀ l ∈ tighter power links, ∀ m ∈ (fromLooser power links).head?,
      m.admittedBy (some l.sign.text) (some l.op.power) = false := by
    intro l hl m hm
    have hlt := (power_le_of_head_fromLooser hm).trans_lt (lt_power_of_mem_tighter hl)
    refine admittedBy_eq_false_iff.mpr ⟨hlt.le, fun hagain => ?_⟩
    rw [op_eq_of_text_eq hagain.2] at hlt
    exact absurd hlt (Int.lt_irrefl _)
  have hlinks := (h.of_no_floor hall).append hinner hend
  rwa [tighter_append_fromLooser, List.nil_append] at hlinks

/-- The operand of a leading operator is what the operand behind it becomes with the power of the
operator as its floor. -/
theorem readLeading_climbs {left : List (Link table IsSingle)} (hu : u.kind = .operator)
    (hform : table.leading.get? u.text = some form)
    (hglued : ∀ t ∈ first.tokens.head?, ¬ Glued u t)
    (h : Climbs (some u.text) (some form.power) first.value links e left) :
    readLeading table (u :: (first.tokens ++ linkTokens links)) =
      .ok (form.build e, linkTokens left) := by
  have hhead : ∀ n ∈ (first.tokens ++ linkTokens links).head?, ¬ Glued u n := by
    obtain ⟨tokens, value, hsingle⟩ := first
    cases hsingle
    exact hglued
  rw [readLeading_operator hu hform hhead, bind_ok h.readExpression_eq]
  rfl

/-- The first link that an operand leaves does not associate to the right with the text of its
introducer. -/
theorem Climbs.not_again {text : String} {left rest : List (Link table IsSingle)}
    (h : Climbs (some text) (some power) x links e left)
    (hleft : linkTokens left = linkTokens rest) :
    ∀ l ∈ rest.head?, ¬ (l.op.rightAssoc = true ∧ l.sign.text = text) := by
  intro l hl hagain
  obtain ⟨others, rfl⟩ := List.head?_eq_some_iff.mp hl
  cases left with
  | nil => simp at hleft
  | cons m left =>
      have hsign : m.sign = l.sign := by
        simp only [linkTokens_cons, List.cons.injEq] at hleft
        exact hleft.1
      have hnot := (admittedBy_eq_false_iff.mp (h.head_left m rfl)).2
      rw [op_eq_of_text_eq (congrArg Token.text hsign), hsign] at hnot
      exact hnot ⟨hagain.1, hagain.2.symm⟩

/-- **The operand of a leading operator** is what is parsed of the operand behind it and of the
links that bind tighter than the operator, and parsing goes on with the first link that does not:
exactly if that one does not associate to the right with the text of the leading operator. -/
theorem readLeading_chain (hu : u.kind = .operator)
    (hform : table.leading.get? u.text = some form) (first : Operand IsSingle)
    (hglued : ∀ t ∈ first.tokens.head?, ¬ Glued u t) (links : List (Link table IsSingle)) :
    (∃ operand,
      ofTokens table (first.tokens ++ linkTokens (tighter form.power links)) = .ok operand ∧
      readLeading table (u :: (first.tokens ++ linkTokens links)) =
        .ok (form.build operand, linkTokens (fromLooser form.power links)) ∧
      ∀ introducer floor,
        readExpression table introducer floor (u :: (first.tokens ++ linkTokens links)) =
          readExtension table introducer floor (form.build operand)
            (linkTokens (fromLooser form.power links))) ↔
    ∀ l ∈ (fromLooser form.power links).head?,
      ¬ (l.op.rightAssoc = true ∧ l.sign.text = u.text) := by
  constructor
  · rintro ⟨operand, -, hread, -⟩
    obtain ⟨e, left, hclimbs⟩ :=
      Climbs.exists_climbs (some u.text) (some form.power) first.value links
    rw [readLeading_climbs hu hform hglued hclimbs] at hread
    exact hclimbs.not_again (Prod.mk.inj (Except.ok.inj hread)).2
  · intro hend
    obtain ⟨operand, left, hclimbs⟩ :=
      Climbs.exists_climbs none none first.value (tighter form.power links)
    obtain rfl := hclimbs.eq_nil_of_no_floor
    have hstop : ∀ m ∈ (fromLooser form.power links).head?,
        m.admittedBy (some u.text) (some form.power) = false := by
      intro m hm
      refine admittedBy_eq_false_iff.mpr ⟨power_le_of_head_fromLooser hm, fun hagain => ?_⟩
      exact hend m hm ⟨hagain.1, hagain.2.symm⟩
    have hread := readLeading_climbs hu hform hglued (hclimbs.upTo hstop)
    refine ⟨operand, ofTokens_eq_ok_iff.mpr hclimbs.readExpression_eq, hread, ?_⟩
    intro introducer floor
    rw [readExpression_eq, bind_ok hread]

/-- A sum binds tighter than the operator in front of it, and an equation does not. -/
theorem readLeading_chain_not :
    OperatorTable.default.leading.get? "!" = some (applying 15 "Not") ∧
    (∀ t ∈ [(⟨.symbol, "a", 2⟩ : Token)].head?, ¬ Glued ⟨.operator, "!", 0⟩ t) ∧
    ∃ operand,
      ofTokens .default [⟨.symbol, "a", 2⟩, ⟨.operator, "+", 4⟩, ⟨.symbol, "b", 6⟩] = .ok operand ∧
      readLeading .default [⟨.operator, "!", 0⟩, ⟨.symbol, "a", 2⟩, ⟨.operator, "+", 4⟩,
          ⟨.symbol, "b", 6⟩, ⟨.operator, "==", 8⟩, ⟨.symbol, "c", 11⟩] =
        .ok (.call "Not" [operand], [⟨.operator, "==", 8⟩, ⟨.symbol, "c", 11⟩]) := by
  let named (name : String) (offset : Nat) : Operand IsSingle :=
    ⟨[⟨.symbol, name, offset⟩], .sym name, .atom (.symbol rfl)⟩
  let links : List (Link .default IsSingle) :=
    [⟨⟨.operator, "+", 4⟩, combining 20 "Sum" false, named "b" 6, rfl, rfl⟩,
      ⟨⟨.operator, "==", 8⟩, combining 9 "Equal" false, named "c" 11, rfl, rfl⟩]
  have hglued : ∀ t ∈ [(⟨.symbol, "a", 2⟩ : Token)].head?, ¬ Glued ⟨.operator, "!", 0⟩ t := by
    simp [Glued]
  have hend : ∀ l ∈ (fromLooser 15 links).head?,
      ¬ (l.op.rightAssoc = true ∧ l.sign.text = "!") := by
    simp [fromLooser, links, combining]
  obtain ⟨operand, hoperand, hread, -⟩ :=
    (readLeading_chain (u := ⟨.operator, "!", 0⟩) rfl rfl (named "a" 2) hglued links).mpr hend
  exact ⟨rfl, hglued, operand, hoperand, hread⟩

/-- A leading operator with the text of one that associates to the right takes in one of these that
binds looser: it should leave `** b` for its own result. -/
theorem readLeading_powers :
    ∃ table, OperatorTable.default.addLeading "**" (applying 50 "U") = .ok table ∧
      parse table "** a ** b" = .ok (.call "U" [.call "Power" [.sym "a", .sym "b"]]) ∧
      (table.joining.get? "**").map (·.power) = some 40 ∧
      ¬ ∃ operand, ofTokens table [⟨.symbol, "a", 3⟩] = .ok operand ∧
        readLeading table [⟨.operator, "**", 0⟩, ⟨.symbol, "a", 3⟩, ⟨.operator, "**", 5⟩,
            ⟨.symbol, "b", 8⟩] =
          .ok (.call "U" [operand], [⟨.operator, "**", 5⟩, ⟨.symbol, "b", 8⟩]) := by
  refine ⟨_, rfl, by cbv, rfl, ?_⟩
  rintro ⟨operand, -, hread⟩
  have hall : readLeading
      { OperatorTable.default with
        leading := OperatorTable.default.leading.put "**" (applying 50 "U") }
      [⟨.operator, "**", 0⟩, ⟨.symbol, "a", 3⟩, ⟨.operator, "**", 5⟩, ⟨.symbol, "b", 8⟩] =
        .ok (.call "U" [.call "Power" [.sym "a", .sym "b"]], []) := by cbv
  have hleft := (Prod.mk.inj (Except.ok.inj (hall.symm.trans hread))).2
  exact absurd hleft (by simp)

end Reduct.Parse
