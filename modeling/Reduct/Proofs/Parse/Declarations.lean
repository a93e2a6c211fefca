import Reduct.LiveOperators

/-!
# Declarations in tables

An attribute declares an operator if it is well formed and its text is one that a table accepts.
Adding it to a table then puts the operator under the text, in the place of what was there, and
otherwise does nothing. This is said once for both forms (`Puts`), and so is the induction over
several attributes that are added one after the other (`Puts.addAll_induction`).

If the attributes are in the order of their symbols, a text has in the end the operator of the last
symbol that declares one (`Enters.lastDeclared`). The induction is on the attributes: those that are
malformed, have an impossible text or are about another text leave the entry alone.
-/

namespace Reduct

theorem Table.get?_put {α : Type} (t : Table α) (key other : String) (value : α) :
    (t.put key value).get? other = if key = other then some value else t.get? other := by
  split
  next h => rw [h, get?_put_self]
  next h => exact get?_put_of_ne t (Ne.symm h) value

/-! ### The last declaration counts -/

section LastDeclared

variable {α : Type} {declares declares' : String → α → Prop} {fallback entry entry' : Option α}

/-- The entry is that of the last symbol, in the order of the names, that declares one, and the
fallback if none does. -/
inductive LastDeclared (declares : String → α → Prop) (fallback : Option α) : Option α → Prop
  | declared {name : String} {op : α} : declares name op →
      (∀ other op', declares other op' → other ≤ name) → LastDeclared declares fallback (some op)
  | fallback : (∀ name op, ¬ declares name op) → LastDeclared declares fallback fallback

theorem LastDeclared.congr (h : LastDeclared declares fallback entry)
    (hsame : ∀ name op, declares' name op ↔ declares name op) :
    LastDeclared declares' fallback entry := by
  obtain rfl : declares' = declares := by
    funext name op
    exact propext (hsame name op)
  exact h

/-- One more symbol, before the others: what it declares counts if the others declare nothing. -/
theorem LastDeclared.of_earlier {first : String} {op : α} {declaresFirst : α → Prop}
    (h : LastDeclared declares (some op) entry) (hop : declaresFirst op)
    (hfirst : ∀ name op', declares name op' → first ≤ name)
    (hsame : ∀ name op', declares' name op' ↔
      name = first ∧ declaresFirst op' ∨ declares name op') :
    LastDeclared declares' fallback entry := by
  cases h with
  | @declared name op' hop' hlast =>
      refine .declared ((hsame name op').mpr (.inr hop')) fun other other' hother => ?_
      obtain ⟨rfl, -⟩ | hother := (hsame other other').mp hother
      · exact hfirst name op' hop'
      · exact hlast other other' hother
  | fallback hnone =>
      refine .declared ((hsame first op).mpr (.inl ⟨rfl, hop⟩)) fun other other' hother => ?_
      obtain ⟨rfl, -⟩ | hother := (hsame other other').mp hother
      · exact String.le_refl _
      · exact absurd hother (hnone other other')

/-- If each symbol declares one at most, there is a single last one. -/
theorem LastDeclared.unique (h : LastDeclared declares fallback entry)
    (h' : LastDeclared declares fallback entry')
    (hone : ∀ name op op', declares name op → declares name op' → op = op') : entry = entry' := by
  cases h with
  | @declared name op hop hlast =>
      cases h' with
      | @declared name' op' hop' hlast' =>
          obtain rfl : name = name' :=
            String.le_antisymm (hlast' name op hop) (hlast name' op' hop')
          rw [hone name op op' hop hop']
      | fallback hnone => exact absurd hop (hnone name op)
  | fallback hnone =>
      cases h' with
      | @declared name' op' hop' _ => exact absurd hop' (hnone name' op')
      | fallback _ => rfl

end LastDeclared

namespace Declaration

variable {α : Type} {text name : String} {attr : Expr} {table table' : OperatorTable}
  {add : OperatorTable → String → Expr → Except DeclarationFault OperatorTable}
  {read : Expr → Option Declaration} {build : Declaration → String → α}
  {put : OperatorTable → Declaration → String → OperatorTable}
  {entry : OperatorTable → Option α} {declares : String → Expr → α → Prop}

/-! ### Adding to a table -/

/-- Adding reads an attribute as a declaration, checks its text and puts it into the table. -/
def Puts (add : OperatorTable → String → Expr → Except DeclarationFault OperatorTable)
    (read : Expr → Option Declaration)
    (put : OperatorTable → Declaration → String → OperatorTable) : Prop :=
  ∀ table name attr, add table name attr =
    match read attr with
    | none => .error .malformed
    | some d =>
      (OperatorTable.checkText d.text >>= fun _ => .ok (put table d name)).mapError .refused

theorem Puts.ok_iff (h : Puts add read put) : add table name attr = .ok table' ↔
    ∃ d, read attr = some d ∧ OperatorTable.checkText d.text = .ok () ∧
      put table d name = table' := by
  rw [h]
  cases read attr with
  | none => simp
  | some d =>
      dsimp only
      cases hcheck : OperatorTable.checkText d.text with
      | error error =>
          show Except.error (DeclarationFault.refused error) = Except.ok table' ↔ _
          simp [hcheck]
      | ok _ =>
          show Except.ok (put table d name) = .ok table' ↔ _
          simp [hcheck]

/-- What holds of a table, and stays when the declarations of some symbols are put in, holds when
all their attributes have been added. -/
theorem Puts.addAll_induction (h : Puts add read put) {motive : OperatorTable → Prop}
    {declared : List (String × Expr)}
    (hput : ∀ table d, ∀ pair ∈ declared, motive table → motive (put table d pair.1))
    (htable : motive table) : motive (addAll add declared table).1 := by
  induction declared generalizing table with
  | nil => exact htable
  | cons pair rest ih =>
      obtain ⟨name, attr⟩ := pair
      have hrest : ∀ table d, ∀ pair ∈ rest, motive table → motive (put table d pair.1) :=
        fun table d pair hpair => hput table d pair (List.mem_cons_of_mem _ hpair)
      rw [addAll]
      split
      next table' hadd =>
        obtain ⟨d, -, -, rfl⟩ := h.ok_iff.mp hadd
        exact ih hrest (hput table d _ List.mem_cons_self htable)
      next => exact ih hrest htable

theorem puts_joining : Puts addJoining joining? fun table d name =>
    { table with
      joining := table.joining.put d.text
        (OperatorTable.combining d.power name d.rightAssoc) } :=
  fun _ _ _ => rfl

theorem puts_leading : Puts addLeading leading? fun table d name =>
    { table with
      leading := table.leading.put d.text (OperatorTable.applying d.power name) } :=
  fun _ _ _ => rfl

/-! ### What an attribute declares -/

/-- The attribute of a symbol is well formed and declares an operator under the text, which is one
that the table accepts. -/
def Declares (read : Expr → Option Declaration) (build : Declaration → String → α)
    (text name : String) (attr : Expr) (op : α) : Prop :=
  ∃ d, read attr = some d ∧ d.text = text ∧ OperatorTable.checkText text = .ok () ∧
    op = build d name

/-- A declaration of a joining operator. -/
abbrev DeclaresJoining : String → String → Expr → JoiningOperator → Prop :=
  Declares joining? fun d name => OperatorTable.combining d.power name d.rightAssoc

/-- A declaration of a leading operator. -/
abbrev DeclaresLeading : String → String → Expr → LeadingOperator → Prop :=
  Declares leading? fun d name => OperatorTable.applying d.power name

theorem Declares.unique {op op' : α} (h : Declares read build text name attr op)
    (h' : Declares read build text name attr op') : op = op' := by
  obtain ⟨d, hd, -, -, rfl⟩ := h
  obtain ⟨d', hd', -, -, rfl⟩ := h'
  rw [Option.some.inj (hd.symm.trans hd')]

/-- Adding an attribute to a table puts what it declares under a text in the place of the entry, and
otherwise leaves the entry alone. -/
structure Enters (add : OperatorTable → String → Expr → Except DeclarationFault OperatorTable)
    (entry : OperatorTable → Option α) (declares : String → Expr → α → Prop) : Prop where
  ok {table table' : OperatorTable} {name : String} {attr : Expr} :
    add table name attr = .ok table' →
      (∃ op, declares name attr op ∧ entry table' = some op) ∨
        (∀ op, ¬ declares name attr op) ∧ entry table' = entry table
  error {table : OperatorTable} {name : String} {attr : Expr} {fault : DeclarationFault} :
    add table name attr = .error fault → ∀ op, ¬ declares name attr op

theorem Enters.exists_addAll_cons (h : Enters add entry declares) (table : OperatorTable)
    (name : String) (attr : Expr) (rest : List (String × Expr)) :
    ∃ next, (addAll add ((name, attr) :: rest) table).1 = (addAll add rest next).1 ∧
      ((∃ op, declares name attr op ∧ entry next = some op) ∨
        (∀ op, ¬ declares name attr op) ∧ entry next = entry table) := by
  rw [addAll]
  cases hadd : add table name attr with
  | ok next => exact ⟨next, rfl, h.ok hadd⟩
  | error fault => exact ⟨table, rfl, .inr ⟨h.error hadd, rfl⟩⟩

/-- **The last declaration counts.** -/
theorem Enters.lastDeclared (h : Enters add entry declares) {declared : List (String × Expr)}
    (hsorted : declared.Pairwise (·.1 < ·.1)) (table : OperatorTable) :
    LastDeclared (fun name op => ∃ attr, (name, attr) ∈ declared ∧ declares name attr op)
      (entry table) (entry (addAll add declared table).1) := by
  induction declared generalizing table with
  | nil => exact .fallback (by simp)
  | cons pair rest ih =>
      obtain ⟨first, attr⟩ := pair
      obtain ⟨hfirst, hrest⟩ := List.pairwise_cons.mp hsorted
      obtain ⟨next, hnext, hentry⟩ := h.exists_addAll_cons table first attr rest
      have hlast := ih hrest next
      have hcons : ∀ name op,
          (∃ attr', (name, attr') ∈ (first, attr) :: rest ∧ declares name attr' op) ↔
            name = first ∧ declares first attr op ∨
              ∃ attr', (name, attr') ∈ rest ∧ declares name attr' op := by
        intro name op
        constructor
        · rintro ⟨attr', hmem, hop⟩
          obtain heq | hmem := List.mem_cons.mp hmem
          · obtain ⟨rfl, rfl⟩ := Prod.mk.inj heq
            exact .inl ⟨rfl, hop⟩
          · exact .inr ⟨attr', hmem, hop⟩
        · rintro (⟨rfl, hop⟩ | ⟨attr', hmem, hop⟩)
          · exact ⟨attr, List.mem_cons_self, hop⟩
          · exact ⟨attr', List.mem_cons_of_mem _ hmem, hop⟩
      rw [hnext]
      obtain ⟨op, hop, hentry⟩ | ⟨hnone, hentry⟩ := hentry
      · rw [hentry] at hlast
        refine hlast.of_earlier hop ?_ hcons
        rintro name op' ⟨attr', hmem, -⟩
        exact Std.le_of_lt (hfirst _ hmem)
      · rw [hentry] at hlast
        exact hlast.congr fun name op => (hcons name op).trans (or_iff_right fun h => hnone op h.2)

/-- What an attribute declares under a text is entered there. -/
theorem Puts.enters (h : Puts add read put) (hput : ∀ table d name, entry (put table d name) =
      if d.text = text then some (build d name) else entry table) :
    Enters add entry (Declares read build text) where
  ok {table table' name attr} hadd := by
    obtain ⟨d, hd, hcheck, rfl⟩ := h.ok_iff.mp hadd
    rw [hput]
    by_cases htext : d.text = text
    · subst htext
      exact .inl ⟨_, ⟨d, hd, rfl, hcheck, rfl⟩, if_pos rfl⟩
    · refine .inr ⟨?_, if_neg htext⟩
      rintro op ⟨d', hd', htext', -⟩
      obtain rfl := Option.some.inj (hd.symm.trans hd')
      exact htext htext'
  error {table name attr fault} hadd op := by
    rintro ⟨d, hd, rfl, hcheck, -⟩
    have hok : add table name attr = .ok (put table d name) := h.ok_iff.mpr ⟨d, hd, hcheck, rfl⟩
    cases hadd.symm.trans hok

theorem enters_joining (text : String) :
    Enters addJoining (fun table => table.joining.get? text) (DeclaresJoining text) :=
  puts_joining.enters fun table d _ => Table.get?_put table.joining d.text text _

theorem enters_leading (text : String) :
    Enters addLeading (fun table => table.leading.get? text) (DeclaresLeading text) :=
  puts_leading.enters fun table d _ => Table.get?_put table.leading d.text text _

end Declaration

end Reduct
