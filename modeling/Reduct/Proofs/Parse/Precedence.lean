import Reduct.Proofs.Parse.Chains

/-!
# Precedence

What a chain of joining operators means, said of the whole chain: it falls into two parts at the
operator with the least power, at the last one of that power, or at the first if they associate to
the right, and each part is a chain again (`precedenceTree`). The parser decides locally, from the
power of the operator before an operand and from the next operator, and gets the same tree
(`ofTokens_chain`), if no two operators of one power disagree about which is the one to divide at
(`Graded`).

The induction is on the climb. An operand with a floor takes in the links down to that floor, and
their tree is what it becomes (`Climbs.exists_taken`): what a right operand took in binds tighter
than the operator before it, and what it left does not, so the operator divides what stands before
the links that are left (`linkTree_join`).
-/

namespace Reduct

/-- Brackets bind tighter than all joining operators, and no other text has the power of one that
associates to the right. -/
structure OperatorTable.Graded (table : OperatorTable) : Prop where
  below_brackets : ∀ {text op}, table.joining.get? text = some op → op.power < Parse.bracketPower
  alone : ∀ {text text' op op'}, table.joining.get? text = some op →
    table.joining.get? text' = some op' → op.rightAssoc = true → op'.power = op.power → text' = text

theorem OperatorTable.graded_default : OperatorTable.default.Graded := by
  have hbelow : ∀ entry ∈ OperatorTable.default.joining.entries,
      entry.2.power < Parse.bracketPower := by decide
  have halone : ∀ a ∈ OperatorTable.default.joining.entries,
      ∀ b ∈ OperatorTable.default.joining.entries,
        a.2.rightAssoc = true → b.2.power = a.2.power → b.1 = a.1 := by decide
  exact ⟨fun h => hbelow _ (Table.mem_of_get? h),
    fun h h' => halone _ (Table.mem_of_get? h) _ (Table.mem_of_get? h')⟩

namespace Parse

variable {table : OperatorTable} {introducer : Option String} {floor : Option Int} {x e : Expr}
  {grammar : List Token → Expr → Prop} {l : Link table grammar}
  {links taken rest left : List (Link table grammar)}

/-- A joining operator with its right operand. -/
abbrev Joint := JoiningOperator × Expr

variable {joints before after : List Joint} {j k : Joint}

/-! ### The tree of a chain -/

/-- Has no operator of the chain less power? -/
def isLoosest (joints : List Joint) (j : Joint) : Bool :=
  joints.all fun k => j.1.power ≤ k.1.power

/-- The place where a chain is divided: the last of the operators with the least power, or the first
of them if they associate to the right. -/
def dividingPlace (joints : List Joint) : Nat :=
  if joints.any fun j => isLoosest joints j && j.1.rightAssoc then
    joints.findIdx (isLoosest joints)
  else joints.length - 1 - joints.reverse.findIdx (isLoosest joints)

/-- The tree of a chain: that of the part before the dividing operator and that of the part behind
it, combined by the operator. -/
def precedenceTree (x : Expr) (joints : List Joint) : Expr :=
  match h : joints[dividingPlace joints]? with
  | none => x
  | some (op, y) =>
      op.build (precedenceTree x (joints.take (dividingPlace joints)))
        (precedenceTree y (joints.drop (dividingPlace joints + 1)))
termination_by joints.length
decreasing_by
  all_goals
    have := (List.getElem?_eq_some_iff.mp h).1
    simp only [List.length_take, List.length_drop]
    omega

/-- The operators of one power all associate to the same side. -/
def Uniform (joints : List Joint) : Prop :=
  ∀ j ∈ joints, ∀ k ∈ joints, j.1.power = k.1.power → j.1.rightAssoc = k.1.rightAssoc

theorem Uniform.of_sublist (h : Uniform joints) (hsub : before ⊆ joints) : Uniform before :=
  fun j hj k hk => h j (hsub hj) k (hsub hk)

/-- Among the operators before and after it, `j` is the one to divide at. -/
structure Divides (before : List Joint) (j : Joint) (after : List Joint) : Prop where
  before_le : ∀ k ∈ before, j.1.power ≤ k.1.power
  after_le : ∀ k ∈ after, j.1.power ≤ k.1.power
  first : j.1.rightAssoc = true → ∀ k ∈ before, j.1.power < k.1.power
  last : j.1.rightAssoc = false → ∀ k ∈ after, j.1.power < k.1.power

theorem findIdx_append_cons {α : Type} {p : α → Bool} {as bs : List α} {a : α}
    (has : ∀ b ∈ as, p b = false) (ha : p a = true) : (as ++ a :: bs).findIdx p = as.length := by
  rw [List.findIdx_append, List.findIdx_eq_length_of_false has]
  simp [List.findIdx_cons, ha]

/-- The dividing operator has the least power of the chain. -/
theorem Divides.power_le (h : Divides before j after) :
    ∀ k ∈ before ++ j :: after, j.1.power ≤ k.1.power := by
  intro k hk
  rcases List.mem_append.mp hk with hk | hk
  · exact h.before_le k hk
  · rcases List.mem_cons.mp hk with rfl | hk
    · exact le_rfl
    · exact h.after_le k hk

theorem Divides.isLoosest_iff (h : Divides before j after) :
    isLoosest (before ++ j :: after) k = true ↔ k.1.power ≤ j.1.power := by
  simp only [isLoosest, List.all_eq_true, decide_eq_true_eq]
  exact ⟨fun hk => hk j (by simp), fun hk m hm => hk.trans (h.power_le m hm)⟩

theorem Divides.isLoosest_of_lt (h : Divides before j after) (hk : j.1.power < k.1.power) :
    isLoosest (before ++ j :: after) k = false := by
  rw [Bool.eq_false_iff]
  exact fun hloosest => absurd (h.isLoosest_iff.mp hloosest) (Int.not_le.mpr hk)

theorem Divides.dividingPlace_eq (h : Divides before j after)
    (huniform : Uniform (before ++ j :: after)) :
    dividingPlace (before ++ j :: after) = before.length := by
  have hj : isLoosest (before ++ j :: after) j = true := h.isLoosest_iff.mpr (Int.le_refl _)
  unfold dividingPlace
  cases hassoc : j.1.rightAssoc with
  | true =>
      have hany : (before ++ j :: after).any fun k =>
          isLoosest (before ++ j :: after) k && k.1.rightAssoc := by
        rw [List.any_eq_true]
        exact ⟨j, by simp, by simp [hj, hassoc]⟩
      rw [if_pos hany]
      exact findIdx_append_cons (fun k hk => h.isLoosest_of_lt (h.first hassoc k hk)) hj
  | false =>
      have hnone : ¬ (before ++ j :: after).any fun k =>
          isLoosest (before ++ j :: after) k && k.1.rightAssoc := by
        rw [List.any_eq_true]
        rintro ⟨k, hk, hloosest⟩
        rw [Bool.and_eq_true, h.isLoosest_iff] at hloosest
        have hsame := huniform k hk j (by simp) (Int.le_antisymm hloosest.1 (h.power_le k hk))
        rw [hloosest.2, hassoc] at hsame
        exact absurd hsame (by simp)
      have hreverse : (before ++ j :: after).reverse = after.reverse ++ j :: before.reverse := by
        simp
      rw [if_neg hnone, hreverse, findIdx_append_cons
        (fun k hk => h.isLoosest_of_lt (h.last hassoc k (List.mem_reverse.mp hk))) hj]
      simp only [List.length_append, List.length_cons, List.length_reverse]
      omega

theorem precedenceTree_nil (x : Expr) : precedenceTree x [] = x := by
  rw [precedenceTree]
  rfl

theorem Divides.precedenceTree_eq (h : Divides before j after)
    (huniform : Uniform (before ++ j :: after)) (x : Expr) :
    precedenceTree x (before ++ j :: after) =
      j.1.build (precedenceTree x before) (precedenceTree j.2 after) := by
  have hplace := h.dividingPlace_eq huniform
  have hget : (before ++ j :: after)[dividingPlace (before ++ j :: after)]? = some j := by
    simp [hplace]
  rw [precedenceTree]
  split
  next hnone => exact absurd (hget.symm.trans hnone) (by simp)
  next op y hsome =>
    obtain rfl := Option.some.inj (hget.symm.trans hsome)
    simp [hplace]

/-- Every chain with an operator can be divided. -/
theorem exists_divides (hne : joints ≠ []) (huniform : Uniform joints) :
    ∃ before j after, joints = before ++ j :: after ∧ Divides before j after := by
  induction joints with
  | nil => exact absurd rfl hne
  | cons j joints ih =>
      by_cases hjoints : joints = []
      · subst hjoints
        exact ⟨[], j, [], rfl, by simp, by simp, by simp, by simp⟩
      obtain ⟨before, m, after, rfl, hm⟩ :=
        ih hjoints (huniform.of_sublist (List.subset_cons_self _ _))
      have hsame := huniform j (by simp) m (by simp)
      by_cases hfirst : j.1.power < m.1.power ∨ j.1.power = m.1.power ∧ j.1.rightAssoc = true
      · refine ⟨[], j, before ++ m :: after, rfl, by simp, fun k hk => ?_, by simp,
          fun hleft k hk => ?_⟩
        · have := hm.power_le k hk
          omega
        · have := hm.power_le k hk
          rw [hleft] at hfirst
          simp only [Bool.false_eq_true, and_false, or_false] at hfirst
          omega
      · refine ⟨j :: before, m, after, rfl, fun k hk => ?_, hm.after_le, fun hright k hk => ?_,
          hm.last⟩
        · rcases List.mem_cons.mp hk with rfl | hk
          · omega
          · exact hm.before_le k hk
        · rcases List.mem_cons.mp hk with rfl | hk
          · by_contra hlt
            have heq : k.1.power = m.1.power := by omega
            exact hfirst (.inr ⟨heq, (hsame heq).trans hright⟩)
          · exact hm.first hright k hk

/-! ### The tree of the links that an operand takes in -/

/-- The tree of an operand with its links. -/
abbrev linkTree (x : Expr) (links : List (Link table grammar)) : Expr :=
  precedenceTree x (links.map Link.joint)

theorem uniform_links (ht : table.Graded) (links : List (Link table grammar)) :
    Uniform (links.map Link.joint) := by
  intro j hj k hk hpower
  obtain ⟨l, -, rfl⟩ := List.mem_map.mp hj
  obtain ⟨m, -, rfl⟩ := List.mem_map.mp hk
  -- If one of the two associates to the right, the other one is the same operator.
  have hsame : ∀ {l m : Link table grammar}, l.op.power = m.op.power → l.op.rightAssoc = true →
      m.op.rightAssoc = true := by
    intro l m hpower hright
    have htext := ht.alone l.registered m.registered hright hpower.symm
    rw [op_eq_of_text_eq htext, hright]
  rw [Bool.eq_iff_iff]
  exact ⟨hsame hpower, hsame hpower.symm⟩

/-- What a right operand takes in does not bind looser than the operator before it. -/
theorem power_le_of_admittedBy {m : Link table grammar}
    (h : m.admittedBy (some l.sign.text) (some l.op.power) = true) : l.op.power ≤ m.op.power := by
  rcases admittedBy_iff.mp h with hlt | ⟨-, htext⟩
  · exact hlt.le
  · rw [op_eq_of_text_eq htext.symm]

/-- The operator before a right operand divides its own part of the chain. -/
theorem divides_of_admittedBy
    (h : ∀ m ∈ taken, m.admittedBy (some l.sign.text) (some l.op.power) = true) :
    Divides [] l.joint (taken.map Link.joint) where
  before_le := by simp
  after_le k hk := by
    obtain ⟨m, hm, rfl⟩ := List.mem_map.mp hk
    exact power_le_of_admittedBy (h m hm)
  first := by simp
  last hleft k hk := by
    obtain ⟨m, hm, rfl⟩ := List.mem_map.mp hk
    rcases admittedBy_iff.mp (h m hm) with hlt | ⟨hright, htext⟩
    · exact hlt
    · rw [op_eq_of_text_eq htext.symm] at hright
      exact absurd (hleft.symm.trans hright) (by simp)

/-- What divides the links that a right operand left has no more power than the operator before it,
and less if it associates to the right, or it would have been taken in. -/
theorem power_of_left (ht : table.Graded)
    (hrest : ∀ m ∈ rest.head?, m.admittedBy (some l.sign.text) (some l.op.power) = false)
    (hparts : rest.map Link.joint = before ++ j :: after) (h : Divides before j after) :
    j.1.power ≤ l.op.power ∧ (j.1.rightAssoc = true → j.1.power < l.op.power) := by
  obtain ⟨m, hm, rfl⟩ : ∃ m ∈ rest, m.joint = j := List.mem_map.mp (by rw [hparts]; simp)
  obtain ⟨first, hfirst⟩ : ∃ first, rest.head? = some first := by
    cases rest with
    | nil => simp at hparts
    | cons first rest => exact ⟨first, rfl⟩
  -- The first link left has no more power than `l`, and the dividing one no more than that.
  obtain ⟨hfirstle, hnot⟩ := admittedBy_eq_false_iff.mp (hrest first hfirst)
  have hmem : first.joint ∈ before ++ m.joint :: after := by
    rw [← hparts]
    exact List.mem_map_of_mem (List.mem_of_mem_head? hfirst)
  have hle : m.op.power ≤ first.op.power := h.power_le _ hmem
  refine ⟨hle.trans hfirstle, fun hright => ?_⟩
  show m.op.power < l.op.power
  by_contra hge
  have hfirsttext : first.sign.text = m.sign.text :=
    ht.alone m.registered first.registered hright (by omega)
  have hltext : l.sign.text = m.sign.text :=
    ht.alone m.registered l.registered hright (by omega)
  refine hnot ⟨?_, hltext.trans hfirsttext.symm⟩
  rw [op_eq_of_text_eq hfirsttext]
  exact hright

/-- What divides the links that a right operand left divides the whole chain: none of the links
before them binds as loosely as the first one left. -/
theorem divides_append (ht : table.Graded)
    (htaken : ∀ m ∈ taken, m.admittedBy (some l.sign.text) (some l.op.power) = true)
    (hrest : ∀ m ∈ rest.head?, m.admittedBy (some l.sign.text) (some l.op.power) = false)
    (hparts : rest.map Link.joint = before ++ j :: after) (h : Divides before j after) :
    Divides ((l :: taken).map Link.joint ++ before) j after := by
  obtain ⟨hle, hlt⟩ := power_of_left ht hrest hparts h
  have hpowers : ∀ k ∈ (l :: taken).map Link.joint, l.op.power ≤ k.1.power :=
    (divides_of_admittedBy htaken).power_le
  refine ⟨fun k hk => ?_, h.after_le, fun hright k hk => ?_, h.last⟩
  · rcases List.mem_append.mp hk with hk | hk
    · exact hle.trans (hpowers k hk)
    · exact h.before_le k hk
  · rcases List.mem_append.mp hk with hk | hk
    · exact (hlt hright).trans_le (hpowers k hk)
    · exact h.first hright k hk

/-- **One step of a climb.** A link taken in together with its right operand can be read as part of
the left operand: the links that follow do not tell the difference. -/
theorem linkTree_join (ht : table.Graded) (x : Expr)
    (htaken : ∀ m ∈ taken, m.admittedBy (some l.sign.text) (some l.op.power) = true)
    (hrest : ∀ m ∈ rest.head?, m.admittedBy (some l.sign.text) (some l.op.power) = false) :
    linkTree (l.op.build x (linkTree l.operand.value taken)) rest =
      linkTree x (l :: taken ++ rest) := by
  induction hn : rest.length using Nat.strong_induction_on generalizing rest with
  | _ n ih =>
      subst hn
      by_cases hnil : rest = []
      · subst hnil
        have hown : linkTree x (l :: taken) =
            l.op.build (precedenceTree x []) (linkTree l.operand.value taken) :=
          (divides_of_admittedBy htaken).precedenceTree_eq (uniform_links ht (l :: taken)) x
        rw [List.append_nil, hown, precedenceTree_nil]
        exact precedenceTree_nil _
      obtain ⟨before, j, after, hparts, hdivides⟩ :=
        exists_divides (by simpa using hnil) (uniform_links ht rest)
      obtain ⟨rest₁, rest₂, rfl, rfl, hrest₂⟩ := List.map_eq_append_iff.mp hparts
      have hall := divides_append ht htaken hrest hparts hdivides
      have hjoints : (l :: taken ++ (rest₁ ++ rest₂)).map Link.joint =
          ((l :: taken).map Link.joint ++ rest₁.map Link.joint) ++ j :: after := by
        simp [hrest₂]
      have hshorter : rest₁.length < (rest₁ ++ rest₂).length := by
        have := congrArg List.length hrest₂
        simp only [List.length_map, List.length_cons] at this
        rw [List.length_append]
        omega
      have hhead : ∀ m ∈ rest₁.head?,
          m.admittedBy (some l.sign.text) (some l.op.power) = false := by
        intro m hm
        exact hrest m (by rw [List.head?_append, hm]; rfl)
      have hbefore := ih rest₁.length hshorter hhead rfl
      have huniform := uniform_links ht (rest₁ ++ rest₂)
      have huniform' := uniform_links ht (l :: taken ++ (rest₁ ++ rest₂))
      rw [hparts] at huniform
      rw [hjoints] at huniform'
      calc linkTree (l.op.build x (linkTree l.operand.value taken)) (rest₁ ++ rest₂)
          = j.1.build (linkTree (l.op.build x (linkTree l.operand.value taken)) rest₁)
              (precedenceTree j.2 after) := by
            rw [linkTree, hparts, hdivides.precedenceTree_eq huniform]
        _ = j.1.build (linkTree x (l :: taken ++ rest₁)) (precedenceTree j.2 after) := by
            rw [hbefore]
        _ = linkTree x (l :: taken ++ (rest₁ ++ rest₂)) := by
            have hsplit := hall.precedenceTree_eq huniform' x
            rw [← hjoints, ← List.map_append] at hsplit
            exact hsplit.symm

/-- The introducer and the floor of an operand come from one operator. -/
def Introduces (table : OperatorTable) (introducer : Option String) (floor : Option Int) : Prop :=
  floor = none ∨ ∃ text op, introducer = some text ∧ table.joining.get? text = some op ∧
    floor = some op.power

theorem Link.introduces (l : Link table grammar) :
    Introduces table (some l.sign.text) (some l.op.power) :=
  .inr ⟨l.sign.text, l.op, rfl, l.registered, rfl⟩

/-- An operand that takes a link in takes in what the right operand of the link does. -/
theorem admittedBy_trans {m : Link table grammar} (hstart : Introduces table introducer floor)
    (hl : l.admittedBy introducer floor = true)
    (hm : m.admittedBy (some l.sign.text) (some l.op.power) = true) :
    m.admittedBy introducer floor = true := by
  rcases hstart with rfl | ⟨text, op, rfl, hop, rfl⟩
  · simp [Link.admittedBy, admits, isAbove]
  rcases admittedBy_iff.mp hm with hlt | ⟨-, htext⟩
  · rw [admittedBy_iff]
    rcases admittedBy_iff.mp hl with hl | ⟨-, rfl⟩
    · exact .inl (hl.trans hlt)
    · obtain rfl := Option.some.inj (hop.symm.trans l.registered)
      exact .inl hlt
  · rw [Link.admittedBy, ← htext, op_eq_of_text_eq htext.symm]
    exact hl

/-- **What a climb gives.** The operand becomes the tree of the links that it takes in. -/
theorem Climbs.exists_taken (h : Climbs introducer floor x links e left) (ht : table.Graded)
    (hstart : Introduces table introducer floor) :
    ∃ taken, links = taken ++ left ∧ (∀ l ∈ taken, l.admittedBy introducer floor = true) ∧
      e = linkTree x taken := by
  induction h with
  | @done introducer floor x => exact ⟨[], rfl, by simp, (precedenceTree_nil x).symm⟩
  | @stop introducer floor x l links hl =>
      exact ⟨[], rfl, by simp, (precedenceTree_nil x).symm⟩
  | @join introducer floor x right e l links more left hl hright hleft ihright ihleft =>
      obtain ⟨inner, rfl, hinner, rfl⟩ := ihright l.introduces
      obtain ⟨outer, rfl, houter, rfl⟩ := ihleft hstart
      have hhead : ∀ m ∈ outer.head?,
          m.admittedBy (some l.sign.text) (some l.op.power) = false := by
        intro m hm
        exact hright.head_left m (by rw [List.head?_append, hm]; rfl)
      refine ⟨l :: inner ++ outer, by simp, fun m hm => ?_, linkTree_join ht x hinner hhead⟩
      rcases List.mem_append.mp hm with hm | hm
      · rcases List.mem_cons.mp hm with rfl | hm
        · exact hl
        · exact admittedBy_trans hstart hl (hinner m hm)
      · exact houter m hm

/-! ### Parsing a chain -/

/-- Every operand of a chain is read whole where brackets bind tighter than all operators. -/
theorem Link.reads (ht : table.Graded) (l : Link table (IsOperand table)) : l.Reads := by
  intro rest
  refine readExpression_operand l.operand.wellFormed ?_ rest
  simpa [isAbove] using ht.below_brackets l.registered

/-- **Precedence.** A chain of operands and joining operators is parsed, and as its precedence tree,
in whatever source text it is found. -/
theorem ofTokens_chain (ht : table.Graded) (first : Operand (IsOperand table))
    (links : List (Link table (IsOperand table))) :
    ofTokens table (first.tokens ++ linkTokens links) =
        .ok (precedenceTree first.value (links.map Link.joint)) ∧
      ∀ source, Token.tokenize table.texts source = .ok (first.tokens ++ linkTokens links) →
        parse table source = .ok (precedenceTree first.value (links.map Link.joint)) := by
  obtain ⟨e, left, hclimbs⟩ := Climbs.exists_climbs none none first.value links
  obtain ⟨taken, hlinks, -, rfl⟩ := hclimbs.exists_taken ht (.inl rfl)
  obtain rfl := hclimbs.eq_nil_of_no_floor
  obtain rfl : links = taken := by simpa using hlinks
  have hread : ofTokens table (first.tokens ++ linkTokens links) =
      .ok (precedenceTree first.value (links.map Link.joint)) := by
    rw [ofTokens_eq_ok_iff, readExpression_operand first.wellFormed rfl]
    exact hclimbs.readExtension_eq fun l _ => l.reads ht
  refine ⟨hread, fun source hsource => ?_⟩
  simp only [parse, hsource, bind, Except.bind, hread]

/-- A name is an operand. -/
def Operand.named (table : OperatorTable) (name : String) (offset : Nat) :
    Operand (IsOperand table) :=
  ⟨[⟨.symbol, name, offset⟩], .sym name, .atom (.symbol rfl)⟩

/-- Two powers, one of them associating to the right, and an operand with arguments. -/
theorem ofTokens_chain_powers :
    OperatorTable.default.Graded ∧
      parse .default "a - b ** (c)[d] ** e - f" = .ok (.call "Sub" [
        .call "Sub" [.sym "a", .call "Power" [.sym "b",
          .call "Power" [.app (.sym "c") [.sym "d"], .sym "e"]]],
        .sym "f"]) := by
  have hname (name : String) (offset : Nat) :
      ofTokens .default [⟨.symbol, name, offset⟩] = .ok (.sym name) :=
    ofTokens_eq_ok_iff.mpr ((readExpression_atom (.symbol rfl) []).trans readExtension_nil)
  let applied : Operand (IsOperand .default) :=
    ⟨[⟨.openGroup, "(", 9⟩, ⟨.symbol, "c", 10⟩, ⟨.closeGroup, ")", 11⟩, ⟨.openBracket, "[", 12⟩,
        ⟨.symbol, "d", 13⟩, ⟨.closeBracket, "]", 14⟩], _,
      .brackets (.group rfl (hname "c" 10) rfl) rfl (.one (hname "d" 13)) rfl⟩
  let links : List (Link .default (IsOperand .default)) :=
    [⟨⟨.operator, "-", 2⟩, _, .named _ "b" 4, rfl, rfl⟩,
      ⟨⟨.operator, "**", 6⟩, _, applied, rfl, rfl⟩,
      ⟨⟨.operator, "**", 16⟩, _, .named _ "e" 19, rfl, rfl⟩,
      ⟨⟨.operator, "-", 21⟩, _, .named _ "f" 23, rfl, rfl⟩]
  have htokens : Token.tokenize OperatorTable.default.texts "a - b ** (c)[d] ** e - f" =
      .ok ((Operand.named .default "a" 0).tokens ++ linkTokens links) := by cbv
  have hparse := (ofTokens_chain OperatorTable.graded_default (Operand.named _ "a" 0) links).2 _
    htokens
  refine ⟨OperatorTable.graded_default, hparse.trans (congrArg Except.ok ?_)⟩
  cbv

end Parse

end Reduct
