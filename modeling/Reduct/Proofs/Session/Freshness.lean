import Reduct.Proofs.Evaluation.Freshness
import Reduct.Proofs.Session.Discipline

/-!
# Fresh names in a session

A session that is given source texts starts with names that are not ahead of the counter, and what
it reads from a text consists of words. So the discipline of fresh names goes through the whole run,
and at the end every renaming on the way was as it should (`Session.renamings_fresh`).
-/

namespace Reduct

open Operation.Control (freshName)

/-- No symbol declares an operator from the start. -/
theorem Scopes.operators_initial : Scopes.initial.operators = (.default, []) := by
  have hnone : ∀ key ∈ ["BinaryOp", "UnaryOp"], (Scopes.initial.withAttribute key).length = 0 := by
    decide +kernel
  have hbinary := List.length_eq_zero_iff.mp (hnone "BinaryOp" (by simp))
  have hunary := List.length_eq_zero_iff.mp (hnone "UnaryOp" (by simp))
  rw [Scopes.operators, hbinary, hunary]
  rfl

namespace Session

/-- **Local symbols get fresh names, and nothing else is renamed.** In every run of a session that is
given source texts, whatever they are and whichever nodes are shared: each renaming of local symbols
draws a number of its own, no symbol that is given or defined by then is named like a copy with this
number, and what comes of it is the body with the local symbols renamed wherever they stand. So
different local symbols get different names, and so do those of different renamings. -/
theorem renamings_fresh (config : Config) (groups : List Group) (attention : Option Level)
    (sharing : Nat → Sharing) (sources : List (String × Bool)) :
    let m := (after config groups attention
      (sources.map fun source => .text source.1 source.2) sharing).machine
    (m.renamings.map Renaming.number).reverse = List.range' 1 m.lastFresh ∧
    (∀ r ∈ m.renamings, r.IsNew ∧ r.IsExact ∧
      ∀ x y, x ≠ y → freshName x r.number ≠ freshName y r.number) ∧
    m.renamings.Pairwise fun r r' => ∀ x y, freshName x r.number ≠ freshName y r'.number := by
  intro m
  have hinputs : ∀ input ∈ sources.map fun source => Input.text source.1 source.2,
      input.Keeps .freshNames := by
    intro input hinput
    obtain ⟨source, -, rfl⟩ := List.mem_map.mp hinput
    trivial
  have hm : Renaming.AllFresh m.lastFresh m.renamings :=
    (relates_after .freshNames config groups attention (fun n => rfl) hinputs).renamings
  have hnodup : (m.renamings.map Renaming.number).Nodup := by
    rw [← List.nodup_reverse, hm.numbers]
    exact List.nodup_range'
  refine ⟨hm.numbers, fun r hr => ⟨hm.isNew r hr, hm.isExact r hr,
    fun x y hne heq => hne (freshName_inj.mp heq).1⟩, ?_⟩
  exact (List.pairwise_map.mp hnodup).imp fun hne x y heq => hne (freshName_inj.mp heq).2

/-- A copy of a local symbol is renamed again by a renaming inside. -/
theorem renamings_fresh_nested :
    let m := (after {} [] none [.text "Module[List[x], Module[List[x], x]]" false]).machine
    m.renamings.map (fun r => r.value.render) = ["Seq[x$1$2]", "Seq[Module[List[x$1], x$1]]"] ∧
    ∀ r ∈ m.renamings, r.IsNew ∧ r.IsExact := by
  intro m
  let e : Expr := .call "Module" [.list [.sym "x"], .call "Module" [.list [.sym "x"], .sym "x"]]
  have hparse : Reduct.parse .default "Module[List[x], Module[List[x], x]]" = .ok e := by cbv
  have hoperators (m : Machine) (h : m.scopes = .initial) :
      EvalM.operators.run m = (.default, m) := by
    rw [EvalM.operators, EvalM.run_bind, EvalM.run_scopes, h, Scopes.operators_initial]
    rfl
  -- The text is read with the operators there are from the start, and then evaluated.
  have hm : m =
      (((⟨{}, .ofGroups []⟩ : Evaluator).evaluate e).run { scopes := .initial }).2 := by
    change ((EvalM.evaluateText _ _ false).run { scopes := .initial }).2 = _
    rw [EvalM.evaluateText, EvalM.run_bind, hoperators _ rfl]
    dsimp only
    rw [hparse]
    rfl
  obtain ⟨-, hr, -⟩ := renamings_fresh {} [] none (fun _ => .never)
    [("Module[List[x], Module[List[x], x]]", false)]
  refine ⟨?_, fun r h => ⟨(hr r h).1, (hr r h).2.1⟩⟩
  rw [hm]
  decide +kernel

end Session

end Reduct
