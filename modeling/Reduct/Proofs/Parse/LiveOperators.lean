import Reduct.Proofs.Parse.Declarations
import Reduct.Proofs.Scope.Visible

/-!
# The operators of the moment

The operators that can be used at a moment come from the default ones and from visible attributes,
which are gone through in the order of the symbols that have them. Which attributes are visible
depends on look-ups alone (`Scopes.Reachable.listsAttribute`), and with it the operators do: in the
end a text has the operator of the last symbol that declares one
(`Scopes.Reachable.operators_declared`).
-/

namespace Reduct

namespace Scopes

open Declaration (addAll addJoining addLeading Enters)

variable {α : Type} {s s' : Scopes} {text : String}

/-! ### The operators that can be used -/

/-- The attribute of the symbol that is visible under the key declares an operator. -/
def Declares (s : Scopes) (key : String) (declares : String → Expr → α → Prop) (name : String)
    (op : α) : Prop :=
  ∃ attr, s.attribute? name key = some attr ∧ declares name attr op

/-- The symbol declares a joining operator under the text. -/
abbrev DeclaresJoining (s : Scopes) (text : String) : String → JoiningOperator → Prop :=
  s.Declares "BinaryOp" (Declaration.DeclaresJoining text)

/-- The symbol declares a leading operator under the text. -/
abbrev DeclaresLeading (s : Scopes) (text : String) : String → LeadingOperator → Prop :=
  s.Declares "UnaryOp" (Declaration.DeclaresLeading text)

/-- A symbol declares one operator at most. -/
theorem Declares.unique {read : Expr → Option Declaration} {build : Declaration → String → α}
    {key name : String} {op op' : α}
    (h : s.Declares key (Declaration.Declares read build text) name op)
    (h' : s.Declares key (Declaration.Declares read build text) name op') : op = op' := by
  obtain ⟨attr, hattr, hop⟩ := h
  obtain ⟨attr', hattr', hop'⟩ := h'
  obtain rfl := Option.some.inj (hattr.symm.trans hattr')
  exact hop.unique hop'

/-- Of the declarations that are visible the last one counts. -/
theorem Reachable.lastDeclared
    {add : OperatorTable → String → Expr → Except DeclarationFault OperatorTable}
    {entry : OperatorTable → Option α} {declares : String → Expr → α → Prop} (hs : Reachable s)
    (h : Enters add entry declares) (key : String) (table : OperatorTable) :
    LastDeclared (s.Declares key declares) (entry table)
      (entry (addAll add (s.withAttribute key) table).1) := by
  have hlisted := hs.listsAttribute key
  refine (h.lastDeclared hlisted.sorted table).congr fun name op => ?_
  simp only [Declares, hlisted.mem_iff]

/-- The joining operators are added first, and the leading ones do not touch them. -/
theorem Reachable.lastDeclared_joining (hs : Reachable s) (text : String) :
    LastDeclared (s.DeclaresJoining text) (OperatorTable.default.joining.get? text)
      (s.operators.1.joining.get? text) := by
  let first := (addAll addJoining (s.withAttribute "BinaryOp") .default).1
  have hkept : s.operators.1.joining = first.joining :=
    Declaration.puts_leading.addAll_induction (motive := fun table => table.joining = first.joining)
      (fun _ _ _ _ hkept => hkept) rfl
  rw [hkept]
  exact hs.lastDeclared (Declaration.enters_joining text) "BinaryOp" .default

theorem Reachable.lastDeclared_leading (hs : Reachable s) (text : String) :
    LastDeclared (s.DeclaresLeading text) (OperatorTable.default.leading.get? text)
      (s.operators.1.leading.get? text) := by
  let first := (addAll addJoining (s.withAttribute "BinaryOp") .default).1
  have hkept : first.leading = OperatorTable.default.leading :=
    Declaration.puts_joining.addAll_induction
      (motive := fun table => table.leading = OperatorTable.default.leading)
      (fun _ _ _ _ hkept => hkept) rfl
  rw [← hkept]
  exact hs.lastDeclared (Declaration.enters_leading text) "UnaryOp" first

/-- **The operators of the moment are a function of the visible attributes.** In every reachable
state the symbols with an attribute are listed exactly, and in the order of their names, from
whatever order the scopes are gone through in. Under each text the table has the operator of the
last symbol whose visible attribute is a declaration of that text which the table accepts, and the
default if there is none; so attributes that are no such declarations do not matter. Where the
attributes are the same, all is the same. -/
theorem Reachable.operators_declared (hs : Reachable s) :
    (∀ key, ListsAttribute s key (s.withAttribute key)) ∧
    (∀ text,
      LastDeclared (s.DeclaresJoining text) (OperatorTable.default.joining.get? text)
        (s.operators.1.joining.get? text) ∧
      LastDeclared (s.DeclaresLeading text) (OperatorTable.default.leading.get? text)
        (s.operators.1.leading.get? text)) ∧
    ∀ s', Reachable s' →
      (∀ text, (∀ name op, s'.DeclaresJoining text name op ↔ s.DeclaresJoining text name op) →
        s'.operators.1.joining.get? text = s.operators.1.joining.get? text) ∧
      (∀ text, (∀ name op, s'.DeclaresLeading text name op ↔ s.DeclaresLeading text name op) →
        s'.operators.1.leading.get? text = s.operators.1.leading.get? text) ∧
      ((∀ key ∈ ["BinaryOp", "UnaryOp"], ∀ name,
        s'.attribute? name key = s.attribute? name key) → s'.operators = s.operators) := by
  refine ⟨hs.listsAttribute, fun text => ⟨hs.lastDeclared_joining text,
    hs.lastDeclared_leading text⟩, fun s' hs' => ⟨fun text hsame => ?_, fun text hsame => ?_,
      fun hsame => ?_⟩⟩
  · exact (hs'.lastDeclared_joining text).unique ((hs.lastDeclared_joining text).congr hsame)
      fun _ _ _ => Declares.unique
  · exact (hs'.lastDeclared_leading text).unique ((hs.lastDeclared_leading text).congr hsame)
      fun _ _ _ => Declares.unique
  · have hlist : ∀ key ∈ ["BinaryOp", "UnaryOp"], s'.withAttribute key = s.withAttribute key :=
      fun key hkey => (hs.listsAttribute key).unique (hs'.listsAttribute key) (hsame key hkey)
    rw [operators, operators, hlist _ (by simp), hlist _ (by simp)]

/-- Two symbols declare one text, and the later has it; one declaration is malformed, one has an
impossible text, and one is hidden by a version without attributes. -/
theorem operators_declared_hidden :
    let declare (name : String) (args : List Expr) : Action :=
      .write (.setAttributes name [.call "BinaryOp" args])
    let s := (Action.write (.clearAttributes "c" [])).run ((Action.push ["c"]).run
      ((declare "c" [.string "<+>", .number 1]).run
        ((declare "d" [.string "<+>"]).run
          ((declare "e" [.string "and", .number 5]).run
            ((declare "b" [.string "<+>", .number 30, .sym "True"]).run
              ((declare "a" [.string "<+>", .number 25]).run {}))))))
    Reachable s ∧ (s.withAttribute "BinaryOp").map Prod.fst = ["a", "b", "d", "e"] ∧
    LastDeclared (s.DeclaresJoining "<+>") none (s.operators.1.joining.get? "<+>") ∧
    s.operators.1.joining.get? "<+>" = some (OperatorTable.combining 30 "b" true) := by
  intro declare s
  have hs : Reachable s := .step _ (.step _ (.step _ (.step _ (.step _ (.step _ (.step _ .root))))))
  obtain ⟨hlisted, hlast, -⟩ := hs.operators_declared
  have hnames : (s.withAttribute "BinaryOp").map Prod.fst = ["a", "b", "d", "e"] := by
    decide +kernel
  have hjoining := (hlast "<+>").1
  refine ⟨hs, hnames, hjoining, hjoining.unique ?_ fun _ _ _ => Declares.unique⟩
  have hb : s.attribute? "b" "BinaryOp" =
      some (.call "BinaryOp" [.string "<+>", .number 30, .sym "True"]) := by
    with_unfolding_all rfl
  have hd : s.attribute? "d" "BinaryOp" = some (.call "BinaryOp" [.string "<+>"]) := by
    with_unfolding_all rfl
  have he : s.attribute? "e" "BinaryOp" = some (.call "BinaryOp" [.string "and", .number 5]) := by
    with_unfolding_all rfl
  have hthirty : integer? 30 = some 30 := by decide +kernel
  have hfive : integer? 5 = some 5 := by decide +kernel
  refine .declared ⟨_, hb, ⟨"<+>", 30, true⟩, ?_, rfl, by decide, rfl⟩ fun other op hother => ?_
  · simp only [Declaration.joining?, Expr.args, hthirty]
    rfl
  · obtain ⟨attr, hattr, d, hread, htext, -⟩ := hother
    have hmem : other ∈ ["a", "b", "d", "e"] := by
      rw [← hnames]
      exact List.mem_map.mpr ⟨_, (hlisted "BinaryOp").mem_iff.mpr hattr, rfl⟩
    simp only [List.mem_cons, List.not_mem_nil, or_false] at hmem
    obtain rfl | rfl | rfl | rfl := hmem
    · decide
    · exact String.le_refl _
    · obtain rfl := Option.some.inj (hd.symm.trans hattr)
      cases hread
    · obtain rfl := Option.some.inj (he.symm.trans hattr)
      simp only [Declaration.joining?, Expr.args, hfive] at hread
      obtain rfl := Option.some.inj hread
      exact absurd htext (by decide)

end Scopes

end Reduct
