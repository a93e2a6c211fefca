import Reduct.Proofs.Evaluation.Discipline

/-!
# Fresh names in an evaluation

The invariant of an evaluation is that no name goes ahead of the counter: whatever symbol stands in
a definition is not that of a copy with a number that was not drawn yet. Then the number that is
drawn next is new, and the copies of local symbols that are made with it are fresh. It is kept by
evaluation as long as what has the property consists of names without a dollar sign and of copies
with the numbers that were drawn (`Discipline.freshNames`).
-/

namespace Reduct

/-! ### Renamings -/

open Operation.Control (freshName localSymbols)

namespace Renaming

/-- The number was new: no symbol that was given, and none that was defined by then, was named like
a copy with this number. -/
structure IsNew (r : Renaming) : Prop where
  call : (Expr.call "Module" r.args).Names fun name => ¬ IsCopy r.number name
  scopes : r.scopes.Names fun name => ¬ IsCopy r.number name

/-- What was given back is the body with the local symbols renamed and nothing else changed, hold
marks aside. -/
def IsExact (r : Renaming) : Prop :=
  ∃ locals body names body', r.args = locals :: body ∧ localSymbols "Module" locals = .ok names ∧
    r.value = .call "Seq" body' ∧
    body'.map Expr.releaseHold = body.map fun e => (e.mapNames (renamed names r.number)).releaseHold

end Renaming

/-- The renamings, the last first, drew the numbers up to `last`, one each, and were as they should
be. -/
structure Renaming.AllFresh (last : Nat) (renamings : List Renaming) : Prop where
  isNew : ∀ r ∈ renamings, r.IsNew
  isExact : ∀ r ∈ renamings, r.IsExact
  numbers : (renamings.map Renaming.number).reverse = List.range' 1 last

theorem Renaming.AllFresh.cons {last : Nat} {r : Renaming} {renamings : List Renaming}
    (h : AllFresh last renamings) (hnew : r.IsNew) (hexact : r.IsExact)
    (hnumber : r.number = last + 1) : AllFresh (last + 1) (r :: renamings) where
  isNew := List.forall_mem_cons.mpr ⟨hnew, h.isNew⟩
  isExact := List.forall_mem_cons.mpr ⟨hexact, h.isExact⟩
  numbers := by
    rw [List.map_cons, List.reverse_cons, h.numbers, hnumber, List.range'_1_concat, Nat.add_comm 1]

/-- **No name goes ahead of the counter,** and the renamings are as they should be. -/
def Discipline.freshNames : Discipline where
  name := CopiesTo
  expr c := Expr.Names (CopiesTo c)
  renamings := Renaming.AllFresh
  told := Eq
  kept c := Expr.kept_names (copiesTo_of_plain c)
  name_mono := .mono
  expr_mono hc := Expr.Atoms.mono fun _ => .mono hc
  name_freshName := copiesTo_freshName
  renamings_nil := ⟨by simp, by simp, rfl⟩
  renamings_cons {c scopes locals body names others} hothers hargs hscopes hnames := by
    have hnew {name : String} (h : CopiesTo c name) : ¬ IsCopy (c + 1) name :=
      h.not_isCopy (Nat.lt_succ_self c)
    refine hothers.cons ⟨?_, ?_⟩ ?_ rfl
    · exact Expr.Atoms.mono (fun _ => hnew)
        (.apply (.symbol (copiesTo_of_plain c _ (by decide))) hargs)
    · exact Scopes.Names.mono (fun _ => hnew) hscopes
    · refine ⟨locals, body, names, _, rfl, hnames, rfl, ?_⟩
      rw [List.map_map]
      exact List.map_congr_left fun e _ => Expr.releaseHold_replaceAll names _ e
  instantiate_eq _ htold _ := by rw [htold]
  replace_eq htold _ _ := by rw [htold]
  replaceAll_eq htold _ _ := by rw [htold]

end Reduct
