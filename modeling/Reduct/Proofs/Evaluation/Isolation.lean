import Reduct.Proofs.Evaluation.Limits
import Reduct.Proofs.Scope.Chains

/-!
# Local versions shield outer ones

A write to a symbol goes to the innermost scope that has a version of it, or to one further in. So
as long as a version is there, those it shadows are out of reach, whatever scopes are opened inside
(`Scopes.Shields`). Writes, and what is done in a scope that is opened and closed, only ever add
versions to the scopes around; an evaluation is made up of these, and a block runs its body inside
a scope with versions of its local symbols.
-/

namespace Reduct

namespace Scopes

variable {name : String} {level : Nat} {frames : List Scope} {s s' s'' : Scopes}

/-! ### A write and the versions further out -/

theorem lt_of_versionAt? (h : (versionAt? name level frames).isSome) : level < frames.length := by
  induction frames with
  | nil => simp [versionAt?] at h
  | cons scope around ih =>
      rw [versionAt?] at h
      rw [List.length_cons]
      split at h
      next hlevel => omega
      next => exact Nat.lt_succ_of_lt (ih h)

/-- A write touches versions of its symbol alone. -/
theorem versionAt?_write_of_ne {other : String} (hne : other ≠ name)
    (change : Version → Version) :
    versionAt? other level (write name change frames) = versionAt? other level frames := by
  induction frames with
  | nil => rfl
  | cons scope around ih =>
      cases hget : scope.versions.get? name with
      | some version =>
          rw [write_of_bound hget, versionAt?, versionAt?, Table.get?_put_of_ne _ hne]
      | none =>
          by_cases hthrough : scope.isTransparent ∧ around ≠ []
          · rw [write_through hget hthrough.1 hthrough.2, versionAt?, versionAt?, length_write, ih]
          · rw [write_new hget hthrough, versionAt?, versionAt?, Table.get?_put_of_ne _ hne]

/-- A write finds a version that is there, or one further in. -/
theorem versionAt?_write_of_bound (h : (versionAt? name level frames).isSome)
    (change : Version → Version) :
    (versionAt? name level (write name change frames)).isSome ∧
      ∀ further < level,
        versionAt? name further (write name change frames) = versionAt? name further frames := by
  induction frames with
  | nil => simp [versionAt?] at h
  | cons scope around ih =>
      have hlevel : level < around.length + 1 := lt_of_versionAt? h
      rw [versionAt?] at h
      cases hget : scope.versions.get? name with
      | some version =>
          rw [write_of_bound hget]
          refine ⟨?_, fun further hfurther => ?_⟩
          · rw [versionAt?]
            split at h
            next hat => simp [hat]
            next hat => simpa only [hat, if_false] using h
          · have hnot : around.length ≠ further := by omega
            rw [versionAt?, versionAt?, if_neg hnot, if_neg hnot]
      | none =>
          -- The version that is there stands further out.
          rw [hget] at h
          split at h
          next => simp at h
          next hat =>
            by_cases hthrough : scope.isTransparent ∧ around ≠ []
            · obtain ⟨hbound, hsame⟩ := ih h
              rw [write_through hget hthrough.1 hthrough.2]
              refine ⟨by rw [versionAt?, length_write, if_neg hat]; exact hbound, ?_⟩
              intro further hfurther
              rw [versionAt?, versionAt?, length_write, hsame further hfurther]
            · rw [write_new hget hthrough]
              refine ⟨by rw [versionAt?, if_neg hat]; exact h, fun further hfurther => ?_⟩
              have hnot : around.length ≠ further := by omega
              rw [versionAt?, versionAt?, if_neg hnot, if_neg hnot]

/-! ### What a version shields -/

/-- Wherever a symbol has a version in `s` it has one in `s'`, and the versions further out are the
same in both. -/
structure Shields (s s' : Scopes) : Prop where
  depth : s'.depth = s.depth
  isSome {name : String} {level : Nat} : (versionAt? name level s.frames).isSome →
    (versionAt? name level s'.frames).isSome
  outside {name : String} {level further : Nat} : (versionAt? name level s.frames).isSome →
    further < level → versionAt? name further s'.frames = versionAt? name further s.frames

namespace Shields

theorem refl (s : Scopes) : Shields s s := ⟨rfl, id, fun _ _ => rfl⟩

theorem trans (h : Shields s s') (h' : Shields s' s'') : Shields s s'' where
  depth := h'.depth.trans h.depth
  isSome hbound := h'.isSome (h.isSome hbound)
  outside hbound hfurther :=
    (h'.outside (h.isSome hbound) hfurther).trans (h.outside hbound hfurther)

theorem frames_ne_nil (h : Shields s s') (hne : s.frames ≠ []) : s'.frames ≠ [] := by
  have hdepth : s'.frames.length = s.frames.length := h.depth
  rw [← List.length_pos_iff, hdepth, List.length_pos_iff]
  exact hne

theorem run (w : Write) (s : Scopes) : Shields s (w.run s) := by
  cases howner : w.owner? with
  | none => rw [Write.run_of_no_owner howner]; exact refl s
  | some owner =>
      rw [Write.run_of_owner howner]
      refine ⟨length_write s.frames, fun {name level} hbound => ?_,
        fun {name level further} hbound hfurther => ?_⟩
      · by_cases hname : name = owner
        · subst hname
          exact (versionAt?_write_of_bound hbound w.change).1
        · rwa [modify, versionAt?_write_of_ne hname]
      · by_cases hname : name = owner
        · subst hname
          exact (versionAt?_write_of_bound hbound w.change).2 further hfurther
        · rw [modify, versionAt?_write_of_ne hname]

end Shields

/-- A scope that is opened has the versions of the scopes around. -/
theorem versionAt?_push (locals : List String) (h : level < s.depth) :
    versionAt? name level (s.push locals).frames = versionAt? name level s.frames :=
  @versionAt?_append name [_] s.frames level h

/-- A scope that is opened has versions of its local symbols. -/
theorem isSome_versionAt?_push {locals : List String} (h : name ∈ locals) :
    (versionAt? name s.depth (s.push locals).frames).isSome := by
  have hat : s.frames.length = s.depth := rfl
  simp [push, versionAt?, hat, get?_scopeWith, h]

/-- What a scope that is closed leaves are the scopes around, with their versions. -/
theorem pop?_inner {depth : Nat} (hdepth : s.depth = depth + 1) (hpos : 0 < depth) :
    (s.pop?.getD s).depth = depth ∧ ∀ name, ∀ level < depth,
      versionAt? name level (s.pop?.getD s).frames = versionAt? name level s.frames := by
  obtain ⟨frames⟩ := s
  match frames with
  | [] | [_] => simp_all [Scopes.depth]
  | scope :: around :: others =>
      refine ⟨Nat.succ.inj hdepth, fun name level hlevel => ?_⟩
      have hlt : level < (around :: others).length :=
        Nat.lt_of_lt_of_eq hlevel (Nat.succ.inj hdepth).symm
      exact (@versionAt?_append name [scope] (around :: others) level hlt).symm

/-- Opening a scope, doing something inside and closing it changes no version of a local symbol. -/
theorem Shields.versionAt?_local {locals : List String} (h : Shields (s.push locals) s')
    (hname : name ∈ locals) (hlevel : level < s.depth) :
    versionAt? name level (s'.pop?.getD s').frames = versionAt? name level s.frames := by
  have hpos : 0 < s.depth := Nat.lt_of_le_of_lt (Nat.zero_le _) hlevel
  rw [(pop?_inner h.depth hpos).2 name level hlevel,
    h.outside (isSome_versionAt?_push hname) hlevel, versionAt?_push locals hlevel]

/-- What a version shields from what is done inside a scope is shielded from the scope as well. -/
theorem Shields.pop {locals : List String} (h : Shields (s.push locals) s') (hne : s.frames ≠ []) :
    Shields s (s'.pop?.getD s') := by
  obtain ⟨hdepth, hpop⟩ := pop?_inner h.depth (List.length_pos_iff.mpr hne)
  refine ⟨hdepth, fun {name level} hbound => ?_, fun {name level further} hbound hfurther => ?_⟩
  · have hlevel := lt_of_versionAt? hbound
    rw [hpop name level hlevel]
    exact h.isSome (by rwa [versionAt?_push locals hlevel])
  · have hlevel := lt_of_versionAt? hbound
    rw [hpop name further (Nat.lt_trans hfurther hlevel),
      h.outside (by rwa [versionAt?_push locals hlevel]) hfurther,
      versionAt?_push locals (Nat.lt_trans hfurther hlevel)]

end Scopes

open Scopes (Shields versionAt? lt_of_versionAt?)

/-! ### Evaluation -/

/-- Steps of an evaluation change no version that is shadowed. -/
theorem Machine.frame_shields :
    Frame fun m m' => m.scopes.frames ≠ [] → Shields m.scopes m'.scopes where
  refl m _ := .refl m.scopes
  trans h h' hne := (h hne).trans (h' ((h hne).frames_ne_nil hne))
  elementary {_ x} hx := by
    intro m _
    cases hx with
    | write w => exact .run w m.scopes
    | scopes | drawFresh | noteRenaming args number value | setTracing on | cutShort e limit =>
        exact .refl m.scopes
    | rewriting rewrite counts =>
        rw [EvalM.run_rewriting]
        exact .refl m.scopes
    | report event =>
        obtain ⟨events, h⟩ := EvalM.run_report event m
        exact h ▸ .refl m.scopes
    | recordStep before after =>
        obtain ⟨steps, events, h⟩ := EvalM.run_recordStep before after m
        exact h ▸ .refl m.scopes
  inScope {_} locals x hx := by
    intro m hne
    obtain ⟨events, events', hrun⟩ := EvalM.run_inScope locals x m
    have hinside := hx { m with scopes := m.scopes.push locals, events } (List.cons_ne_nil _ _)
    rw [hrun]
    exact hinside.pop hne

/-- **Evaluation changes no version that is shadowed.** -/
theorem Evaluator.shields_evaluate {ev : Evaluator} (hev : ev.IsStepwise) (e : Expr) (m : Machine)
    (hne : m.scopes.frames ≠ []) : Shields m.scopes ((ev.evaluate e).run m).2.scopes :=
  keeps_evaluate Machine.frame_shields id hev e m hne

namespace Operation.Control

theorem run_block {names : List String} {evaluate : Expr → EvalM Expr} {locals : Expr}
    (h : localSymbols "Block" locals = .ok names) (body : List Expr) (m : Machine) :
    ((block evaluate (locals :: body)).run m).2 =
      ((EvalM.inScope names (sequence evaluate .null body)).run m).2 := by
  rw [block, h]
  rfl

/-- **A block isolates its local symbols.** Whatever its body does, and however it ends, every
version of a local symbol in the scopes around is the same after as before, with its rules and
attributes, and where there was none there is none. -/
theorem block_isolates (limits : Limits) (groups : List Group) (head : Expr)
    (items body : List Expr) (held : Bool) (m : Machine) :
    let ev : Evaluator := ⟨limits, .ofGroups groups⟩
    let m' := ((block ev.evaluate (.apply head items held :: body)).run m).2
    (m.scopes.frames ≠ [] → m'.scopes.depth = m.scopes.depth) ∧
    ∀ name ∈ items.filterMap Expr.symbol?, ∀ level < m.scopes.depth,
      versionAt? name level m'.scopes.frames = versionAt? name level m.scopes.frames := by
  intro ev m'
  have hev : ev.IsStepwise := Evaluator.isStepwise_ofGroups limits groups
  have hbody : (sequence ev.evaluate .null body).Keeps fun m m' =>
      m.scopes.frames ≠ [] → Shields m.scopes m'.scopes :=
    (stepwise_sequence .null body).keeps Machine.frame_shields fun e m =>
      Evaluator.shields_evaluate hev e m
  obtain ⟨events, events', hrun⟩ := EvalM.run_inScope (items.filterMap Expr.symbol?)
    (sequence ev.evaluate .null body) m
  have hinside := hbody { m with
    scopes := m.scopes.push (items.filterMap Expr.symbol?), events } (List.cons_ne_nil _ _)
  have hm' : m'.scopes = _ := congrArg Machine.scopes ((run_block rfl body m).trans
    (congrArg Prod.snd hrun))
  rw [hm']
  exact ⟨fun hne => (hinside.pop hne).depth,
    fun name hname level hlevel => hinside.versionAt?_local hname hlevel⟩

/-- A local symbol is given rules, also from a block inside, and the rule around stays. -/
theorem block_isolates_nested :
    let ev : Evaluator := ⟨{}, .ofGroups []⟩
    let m : Machine := { scopes := (Scopes.Write.setRule ⟨.sym "v", .sym "x"⟩).run {} }
    let body : List Expr := [.call "Set" [.sym "v", .sym "y"],
      .call "Block" [.list [.sym "w"], .call "Set" [.sym "v", .sym "z"]]]
    let m' := ((block ev.evaluate (.list [.sym "v"] :: body)).run m).2
    m.scopes.frames ≠ [] ∧ "v" ∈ [Expr.sym "v"].filterMap Expr.symbol? ∧ 0 < m.scopes.depth ∧
    m'.scopes.depth = 1 ∧
    versionAt? "v" 0 m'.scopes.frames = some { rules := ⟨[⟨.sym "v", .sym "x"⟩]⟩ } := by
  intro ev m body m'
  have hne : m.scopes.frames ≠ [] := List.cons_ne_nil _ _
  have hmem : "v" ∈ [Expr.sym "v"].filterMap Expr.symbol? := by decide
  have hpos : 0 < m.scopes.depth := by decide
  have hrule : versionAt? "v" 0 m.scopes.frames =
      some { rules := ⟨[⟨.sym "v", .sym "x"⟩]⟩ } := by with_unfolding_all rfl
  obtain ⟨hdepth, hsame⟩ := block_isolates {} [] (.sym "List") [.sym "v"] body false m
  exact ⟨hne, hmem, hpos, hdepth hne, (hsame "v" hmem 0 hpos).trans hrule⟩

end Operation.Control

end Reduct
