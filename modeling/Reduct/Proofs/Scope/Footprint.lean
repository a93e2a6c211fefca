import Reduct.Proofs.Evaluation.Stepwise
import Reduct.Proofs.Rule.SymbolRule
import Reduct.Proofs.Scope.ReadBack

/-!
# What a write leaves alone

A write changes one version of its symbol and touches no other (`exists_writtenAt`). No scope
further in has a version of the symbol, so the version that was written is the visible one
afterwards. It may be a new one that hides another. What is looked up besides stays nevertheless: a
new version takes over the attributes of the one it hides, and has no rules, so the rules of that
one come next.
-/

namespace Reduct.Scopes

variable {name other : String} {level : Nat} {change : Version → Version} {scope scope' : Scope}
  {above around frames : List Scope} {s : Scopes}

/-! ### One version in one scope -/

/-- A version in another scope, or of a symbol that both scopes have the same version of, is the
same. -/
theorem versionAt?_exchange
    (h : level = around.length → scope'.versions.get? name = scope.versions.get? name) :
    versionAt? name level (above ++ scope' :: around) =
      versionAt? name level (above ++ scope :: around) := by
  induction above with
  | nil =>
      rw [List.nil_append, List.nil_append, versionAt?, versionAt?]
      split
      next hlevel => exact h hlevel.symm
      next => rfl
  | cons inner above ih =>
      have hlength : (above ++ scope' :: around).length = (above ++ scope :: around).length := by
        simp
      rw [List.cons_append, List.cons_append, versionAt?, versionAt?, hlength, ih]

/-- `s'` comes from `s` by writing the version of the symbol at the level, which is the visible one
now; every version of another symbol or at another level is what it was. -/
structure WrittenAt (name : String) (level : Nat) (version : Version) (s s' : Scopes) : Prop where
  depth : s'.depth = s.depth
  visible : nearest? name s'.frames = some level
  written : versionAt? name level s'.frames = some version
  others {other : String} {outer : Nat} : other ≠ name ∨ outer ≠ level →
    versionAt? other outer s'.frames = versionAt? other outer s.frames

theorem exists_writtenAt (name : String) (change : Version → Version) (h : s.frames ≠ []) :
    ∃ level, WrittenAt name level (change (found name s.frames)) s (s.modify name change) := by
  obtain ⟨above, scope, around, hframes, habove, -, hwrite⟩ := exists_write_eq name change h
  refine ⟨around.length, ⟨length_write s.frames, ?_, ?_, fun {other outer} hother => ?_⟩⟩
  · rw [modify, hwrite, nearest?_append habove]
    exact nearest?_of_bound (Table.get?_put_self ..)
  · rw [modify, hwrite, versionAt?_append (by simp), versionAt?, if_pos rfl, Table.get?_put_self]
  · rw [modify, hwrite, hframes]
    refine versionAt?_exchange fun hlevel => ?_
    obtain hname | houter := hother
    · exact Table.get?_put_of_ne _ hname _
    · exact absurd hlevel houter

/-! ### What is looked up -/

theorem version?_eq (s : Scopes) (name : String) :
    s.version? name = (bindings name s.frames).head? := by
  rw [version?]
  cases h : nearest? name s.frames with
  | none => rw [nearest?_eq_none_iff.mp h]; rfl
  | some level => exact versionAt?_of_nearest? h

/-- The attributes that are looked up are those of the version that a write finds, be it new. -/
theorem attributes_found (h : s.frames ≠ []) (name : String) :
    (found name s.frames).attributes =
      match s.version? name with
      | some version => version.attributes
      | none => {} := by
  obtain ⟨above, scope, around, hframes, habove, hfound, -⟩ := exists_write_eq name id h
  rw [version?_eq, hframes, bindings_append, bindings_eq_nil habove, List.nil_append, ← hframes]
  obtain hget | ⟨hget, hnew⟩ := hfound
  · rw [bindings_of_bound hget, List.head?_cons]
  · rw [bindings_of_unbound hget, hnew, newVersion]
    cases hn : nearest? name around with
    | none => rw [nearest?_eq_none_iff.mp hn]; rfl
    | some level =>
        dsimp only
        rw [versionAt?_of_nearest? hn]
        cases (bindings name around).head? <;> rfl

theorem attributes_eq (h : s.frames ≠ []) (name : String) :
    s.attributes name = (found name s.frames).attributes.values := by
  rw [attributes_found h, attributes]
  cases s.version? name <;> rfl

theorem attribute?_eq (h : s.frames ≠ []) (name key : String) :
    s.attribute? name key = (found name s.frames).attributes.get? key := by
  rw [attributes_found h, attribute?]
  cases s.version? name <;> rfl

/-! ### The rule for a symbol -/

/-- In every version the rule for the symbol comes first. -/
abbrev SymbolsFirst : List Scope → Prop :=
  All fun name version => RuleSet.SymbolFirst name version.rules.rules

theorem symbolFirst_newVersion (name : String) (around : List Scope) :
    RuleSet.SymbolFirst name (newVersion name around).rules.rules := by
  rw [newVersion_rules]
  exact RuleSet.symbolFirst_nil name

theorem Write.symbolFirst_change {w : Write} {version : Version} (howner : w.owner? = some name)
    (h : RuleSet.SymbolFirst name version.rules.rules) :
    RuleSet.SymbolFirst name (w.change version).rules.rules := by
  cases w with
  | setRule rule => exact h.insert howner
  | clearRule pattern => exact h.remove pattern
  | setAttributes name attributes | clearAttributes name keys => exact h

theorem Reachable.symbolsFirst (hs : Reachable s) : SymbolsFirst s.frames := by
  induction hs with
  | root => exact List.forall_mem_singleton.mpr .empty
  | @step s a hs ih =>
      cases a with
      | push locals => exact All.push ih fun name _ => symbolFirst_newVersion name _
      | pop => exact All.pop ih
      | write w =>
          rw [Action.run]
          cases howner : w.owner? with
          | none => rwa [Write.run_of_no_owner howner]
          | some name =>
              rw [Write.run_of_owner howner]
              exact All.write (fun around _ => symbolFirst_newVersion name around)
                (fun version => Write.symbolFirst_change howner) ih

/-- The rule for a symbol is read back. -/
theorem Reachable.resolve?_symbol (hs : Reachable s) (name : String) (held : Bool) (v : Expr)
    (sharing : Sharing) :
    ((Write.setRule ⟨.symbol name held, v⟩).run s).resolve? (.symbol name held) sharing =
      some v := by
  let new : Rule := ⟨.symbol name held, v⟩
  have howner : (Write.setRule new).owner? = some name := rfl
  have hs' : Reachable ((Write.setRule new).run s) := .step (.write (.setRule new)) hs
  obtain ⟨older, hbindings, -⟩ :=
    exists_bindings_write name (Write.setRule new).change hs.frames_ne_nil
  have hbindings' : bindings name ((Write.setRule new).run s).frames =
      (Write.setRule new).change (found name s.frames) :: older := by
    rw [Write.run_of_owner howner]
    exact hbindings
  -- Whatever came before the rule would be an application, and nothing can come before that one.
  have hfirst := (hs'.symbolsFirst).of_mem_bindings (hbindings' ▸ List.mem_cons_self)
  obtain ⟨before, later, hrules, -⟩ := (found name s.frames).rules.exists_insert_eq new
  have hrules' : ((Write.setRule new).change (found name s.frames)).rules.rules =
      before ++ new :: later := hrules
  obtain rfl : before = [] := by
    by_contra hne
    obtain ⟨first, before, rfl⟩ := List.exists_cons_of_ne_nil hne
    have happ := hfirst.others new (by simp [hrules'])
    simp [new, Expr.application?] at happ
  have hself : new.resolve? (.symbol name held) sharing = some v :=
    Rule.resolve?_pattern .symbol sharing
  rw [resolve?_eq hs'.linked, Expr.owner?, Option.bind_some, hbindings', List.flatMap_cons, hrules',
    List.nil_append, List.cons_append, List.findSome?_cons, hself]

/-! ### The footprint of a write -/

/-- Is the write one of rules, and not of attributes? -/
def Write.isOfRules : Write → Bool
  | .setRule _ | .clearRule _ => true
  | .setAttributes .. | .clearAttributes .. => false

theorem Write.change_attributes {w : Write} (h : w.isOfRules) (version : Version) :
    (w.change version).attributes = version.attributes := by
  cases w with
  | setRule rule | clearRule pattern => rfl
  | setAttributes name attributes | clearAttributes name keys => simp [isOfRules] at h

theorem Write.change_rules {w : Write} (h : ¬ w.isOfRules) (version : Version) :
    (w.change version).rules = version.rules := by
  cases w with
  | setRule rule | clearRule pattern => simp [isOfRules] at h
  | setAttributes name attributes | clearAttributes name keys => rfl

/-- The attributes after a write are those of the version that was written. -/
theorem attributes_modify (h : s.frames ≠ []) (name : String) (change : Version → Version) :
    (s.modify name change).attributes name = (change (found name s.frames)).attributes.values := by
  obtain ⟨older, hbindings, -⟩ := exists_bindings_write name change h
  rw [attributes, version?_eq, modify, hbindings, List.head?_cons]

theorem attribute?_modify (h : s.frames ≠ []) (name key : String) (change : Version → Version) :
    (s.modify name change).attribute? name key =
      (change (found name s.frames)).attributes.get? key := by
  obtain ⟨older, hbindings, -⟩ := exists_bindings_write name change h
  rw [attribute?, version?_eq, modify, hbindings, List.head?_cons, Option.bind_some]

/-- A write does not change what is looked up for other symbols. -/
theorem version?_modify_of_ne (hne : other ≠ name) (change : Version → Version) (s : Scopes) :
    (s.modify name change).version? other = s.version? other := by
  rw [version?_eq, version?_eq, modify, bindings_write_of_ne hne]

theorem attribute?_modify_of_ne (hne : other ≠ name) (change : Version → Version) (s : Scopes)
    (key : String) : (s.modify name change).attribute? other key = s.attribute? other key := by
  rw [attribute?, attribute?, version?_modify_of_ne hne]

/-- A declaration that fails changes nothing. -/
theorem setRule_run_of_error {rule : Rule} {failure : Failure} {m : Machine}
    (h : ((EvalM.setRule rule).run m).1 = .error failure) : ((EvalM.setRule rule).run m).2 = m := by
  rw [EvalM.setRule, EvalM.run_bind, EvalM.run_scopes] at h ⊢
  cases hset : m.scopes.setRule? rule with
  | none => rfl
  | some s =>
      rw [hset] at h
      cases h

/-- A withdrawal that fails changes nothing. -/
theorem clearRule_run_of_error {pattern : Expr} {failure : Failure} {m : Machine}
    (h : ((EvalM.clearRule pattern).run m).1 = .error failure) :
    ((EvalM.clearRule pattern).run m).2 = m := by
  rw [EvalM.clearRule, EvalM.run_bind, EvalM.run_scopes] at h ⊢
  cases hclear : m.scopes.clearRule? pattern with
  | none => rfl
  | some found =>
      rw [hclear] at h
      cases h

/-- **A write to one symbol disturbs nothing else.** The version that was written is the visible
one, and no other version of any symbol changes, older ones of the symbol included. Versions,
attributes and rules of other symbols are looked up as before. A write of rules leaves the
attributes of the symbol, and a write of attributes what its rules make of any expression, although
the version may be a new one. A rule for a symbol on its own is read back. Where no symbol owns the
pattern, declaring and withdrawing a rule fail and change nothing. Which nodes are shared makes no
difference to any of this. -/
theorem Reachable.run_disturbs_nothing_else {s : Scopes} (hs : Reachable s) (w : Write) :
    (∀ name, w.owner? = some name →
      let version := w.change (found name s.frames)
      let s' := w.run s
      s'.version? name = some version ∧
      (∃ level, WrittenAt name level version s s') ∧
      (∃ older, s'.chain name = version :: older ∧
        (s.chain name = older ∨ ∃ old, s.chain name = old :: older)) ∧
      (∀ other ≠ name, s'.chain other = s.chain other ∧ s'.attributes other = s.attributes other ∧
        ∀ key, s'.attribute? other key = s.attribute? other key) ∧
      (∀ e sharing, e.owner? ≠ some name → s'.resolve? e sharing = s.resolve? e sharing) ∧
      (w.isOfRules → s'.attributes name = s.attributes name ∧
        ∀ key, s'.attribute? name key = s.attribute? name key) ∧
      (¬ w.isOfRules → ∀ e sharing, s'.resolve? e sharing = s.resolve? e sharing) ∧
      ∀ held v sharing, w = .setRule ⟨.symbol name held, v⟩ →
        s'.resolve? (.symbol name held) sharing = some v) ∧
    (∀ (rule : Rule) (m : Machine),
      ((EvalM.setRule rule).run m).1 = .error .unsupportedTarget →
        ((EvalM.setRule rule).run m).2 = m) ∧
    ∀ (pattern : Expr) (m : Machine),
      ((EvalM.clearRule pattern).run m).1 = .error .unsupportedTarget →
        ((EvalM.clearRule pattern).run m).2 = m := by
  refine ⟨fun name howner => ?_, fun _ _ => setRule_run_of_error,
    fun _ _ => clearRule_run_of_error⟩
  intro version s'
  have hne := hs.frames_ne_nil
  have hs' : s' = s.modify name w.change := Write.run_of_owner howner s
  have hlinked' : Linked s'.frames := (Reachable.step (.write w) hs).linked
  obtain ⟨older, hbindings, hbefore⟩ := exists_bindings_write name w.change hne
  have hnew : bindings name s'.frames = version :: older := by rw [hs']; exact hbindings
  have hother : ∀ other, other ≠ name → bindings other s'.frames = bindings other s.frames := by
    intro other hother
    rw [hs']
    exact bindings_write_of_ne hother w.change s.frames
  refine ⟨?visible, ?level, ⟨older, ?chain, ?older⟩, fun other hne' => ⟨?_, ?_, fun key => ?_⟩,
    ?owned, fun hrules => ⟨?_, fun key => ?_⟩, ?attributes, ?symbol⟩
  case visible => rw [version?_eq, hnew, List.head?_cons]
  case level =>
    rw [hs']
    exact exists_writtenAt name w.change hne
  case chain => rw [chain_eq hlinked', hnew]
  case older =>
    rw [chain_eq hs.linked]
    exact hbefore.symm.imp And.left fun h => ⟨_, h⟩
  · rw [chain_eq hlinked', chain_eq hs.linked, hother other hne']
  · rw [attributes, attributes, version?_eq, version?_eq, hother other hne']
  · rw [hs', attribute?_modify_of_ne hne']
  case owned =>
    intro e sharing he
    rw [resolve?_eq hlinked', resolve?_eq hs.linked]
    cases howner' : e.owner? with
    | none => rfl
    | some other =>
        have hne' : other ≠ name := by
          rintro rfl
          exact he howner'
        rw [Option.bind_some, Option.bind_some, hother other hne']
  · rw [hs', attributes_modify hne, Write.change_attributes hrules, attributes_eq hne]
  · rw [hs', attribute?_modify hne, Write.change_attributes hrules, attribute?_eq hne]
  case attributes =>
    intro hrules e sharing
    rw [resolve?_eq hlinked', resolve?_eq hs.linked]
    cases e.owner? with
    | none => rfl
    | some other =>
        rw [Option.bind_some, Option.bind_some]
        by_cases hname : other = name
        · subst hname
          rw [hnew, List.flatMap_cons, Write.change_rules hrules]
          obtain hold | ⟨hold, hempty⟩ := hbefore
          · rw [hold, List.flatMap_cons]
          · rw [hold, hempty, List.nil_append]
        · rw [hother other hname]
  case symbol =>
    rintro held v sharing rfl
    exact hs.resolve?_symbol name held v sharing

/-- In an opaque scope a rule for `f` goes into a new version, which hides the one with the general
rule; and a number owns no rules. -/
theorem run_disturbs_nothing_else_opaque :
    let general : Rule := ⟨.call "f" [.call "Pattern" [.sym "x"]], .sym "general"⟩
    let s := (Action.push []).run ((Action.write (.setRule general)).run
      ((Action.write (.setAttributes "f" [.sym "Flat"])).run {}))
    let w : Write := .setRule ⟨.sym "f", .sym "y"⟩
    let none : Rule := ⟨.string "f", .sym "y"⟩
    let m : Machine := { scopes := s }
    Reachable s ∧ w.owner? = some "f" ∧ w.isOfRules ∧
    ((w.run s).attributes "f" = s.attributes "f" ∧ s.attributes "f" = [.sym "Flat"]) ∧
    (∃ older, (w.run s).chain "f" = w.change (found "f" s.frames) :: older ∧
      older.map (fun version => version.rules.rules) = [[general]]) ∧
    (w.run s).resolve? (.sym "f") = some (.sym "y") ∧
    ((EvalM.setRule none).run m).1 = .error .unsupportedTarget ∧
    ((EvalM.setRule none).run m).2 = m := by
  intro general s w none m
  have hs : Reachable s := .step _ (.step _ (.step _ .root))
  obtain ⟨hwrite, herror, -⟩ := hs.run_disturbs_nothing_else w
  obtain ⟨-, -, ⟨older, hchain, -⟩, -, -, hattributes, -, hsymbol⟩ := hwrite "f" rfl
  have holder : ((w.run s).chain "f").tail.map (fun version => version.rules.rules) =
      [[general]] := by
    with_unfolding_all rfl
  rw [hchain] at holder
  exact ⟨hs, rfl, rfl, ⟨(hattributes rfl).1, by with_unfolding_all rfl⟩, ⟨older, hchain, holder⟩,
    hsymbol false (.sym "y") .never rfl, rfl, herror none m rfl⟩

end Reduct.Scopes
