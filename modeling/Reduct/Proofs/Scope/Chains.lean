import Reduct.Proofs.Scope.Writes

/-!
# Version chains follow the scopes

A version links to the one it shadows, and a chain of versions follows the links. In every
reachable state the links are those of the scopes: each goes to the nearest version further out
(`Linked`), so a chain lists the versions of its symbol from the innermost scope to the root.

A link is set when its version is made and never again. It stays right because a version of a
symbol is only ever made where no scope further in has one: at the top, when a scope is opened,
or by a write, which passes only through scopes without a version of its symbol.
-/

namespace Reduct.Scopes

variable {name : String} {scope : Scope} {above around frames : List Scope} {version : Version}
  {level : Nat}

/-- The versions of a symbol in some scopes, the innermost first. -/
def bindings (name : String) (frames : List Scope) : List Version :=
  frames.filterMap fun scope => scope.versions.get? name

/-- The version that a version of the symbol shadows. -/
def shadowed? (s : Scopes) (name : String) (version : Version) : Option Version :=
  version.outer.bind fun level => versionAt? name level s.frames

/-- Every version links to the nearest one further out. -/
def Linked : List Scope → Prop
  | [] => True
  | scope :: around =>
      (∀ name version, scope.versions.get? name = some version →
        version.outer = nearest? name around) ∧ Linked around

/-! ### The nearest version -/

theorem nearest?_of_bound (h : scope.versions.get? name = some version) :
    nearest? name (scope :: around) = some around.length := by
  simp [nearest?, Table.contains, h]

theorem nearest?_of_unbound (h : scope.versions.get? name = none) :
    nearest? name (scope :: around) = nearest? name around := by
  simp [nearest?, Table.contains, h]

theorem bindings_of_bound (h : scope.versions.get? name = some version) :
    bindings name (scope :: around) = version :: bindings name around := by
  simp [bindings, h]

theorem bindings_of_unbound (h : scope.versions.get? name = none) :
    bindings name (scope :: around) = bindings name around := by
  simp [bindings, h]

theorem bindings_append (name : String) (above frames : List Scope) :
    bindings name (above ++ frames) = bindings name above ++ bindings name frames :=
  List.filterMap_append

theorem bindings_eq_nil (h : ∀ inner ∈ above, inner.versions.get? name = none) :
    bindings name above = [] :=
  List.filterMap_eq_nil_iff.mpr h

theorem nearest?_append (h : ∀ inner ∈ above, inner.versions.get? name = none) :
    nearest? name (above ++ frames) = nearest? name frames := by
  induction above with
  | nil => rfl
  | cons inner above ih =>
      obtain ⟨hinner, habove⟩ := List.forall_mem_cons.mp h
      rw [List.cons_append, nearest?_of_unbound hinner, ih habove]

theorem nearest?_lt (h : nearest? name frames = some level) : level < frames.length := by
  induction frames with
  | nil => simp [nearest?] at h
  | cons scope around ih =>
      rw [List.length_cons]
      cases hb : scope.versions.get? name with
      | none =>
          rw [nearest?_of_unbound hb] at h
          exact Nat.lt_succ_of_lt (ih h)
      | some version =>
          rw [nearest?_of_bound hb] at h
          obtain rfl := Option.some.inj h
          exact Nat.lt_succ_self _

theorem nearest?_eq_none_iff : nearest? name frames = none ↔ bindings name frames = [] := by
  induction frames with
  | nil => simp [nearest?, bindings]
  | cons scope around ih =>
      cases hb : scope.versions.get? name with
      | none => rw [nearest?_of_unbound hb, bindings_of_unbound hb, ih]
      | some version => simp [nearest?_of_bound hb, bindings_of_bound hb]

/-- Scopes further in do not count for a level. -/
theorem versionAt?_append (h : level < around.length) :
    versionAt? name level (above ++ around) = versionAt? name level around := by
  induction above with
  | nil => rfl
  | cons scope above ih =>
      have hne : (above ++ around).length ≠ level := by
        rw [List.length_append]
        omega
      rw [List.cons_append, versionAt?, if_neg hne, ih]

/-- The nearest version stands at its level. -/
theorem versionAt?_of_nearest? (h : nearest? name frames = some level) :
    versionAt? name level frames = (bindings name frames).head? := by
  induction frames with
  | nil => simp [nearest?] at h
  | cons scope around ih =>
      cases hb : scope.versions.get? name with
      | none =>
          rw [nearest?_of_unbound hb] at h
          have hne : around.length ≠ level := Nat.ne_of_gt (nearest?_lt h)
          rw [bindings_of_unbound hb, versionAt?, if_neg hne, ih h]
      | some version =>
          rw [nearest?_of_bound hb] at h
          rw [bindings_of_bound hb, versionAt?, if_pos (Option.some.inj h), hb, List.head?_cons]

theorem exists_of_nearest? (h : nearest? name frames = some level) :
    ∃ version, versionAt? name level frames = some version := by
  rw [versionAt?_of_nearest? h]
  cases hb : bindings name frames with
  | nil => simp [nearest?_eq_none_iff.mpr hb] at h
  | cons version versions => exact ⟨version, rfl⟩

/-- A new version links to the nearest one around it. -/
theorem newVersion_outer (name : String) (around : List Scope) :
    (newVersion name around).outer = nearest? name around := by
  rw [newVersion]
  cases h : nearest? name around with
  | none => rfl
  | some level =>
      obtain ⟨version, hv⟩ := exists_of_nearest? h
      simp only [hv]

/-! ### Every operation keeps the links -/

theorem linked_cons_put {t : Table Version} {isTransparent : Bool}
    (h : Linked (⟨t, isTransparent⟩ :: around)) (hv : version.outer = nearest? name around) :
    Linked (⟨t.put name version, isTransparent⟩ :: around) := by
  refine ⟨fun name' version' hget => ?_, h.2⟩
  by_cases hname : name' = name
  · subst hname
    rw [Table.get?_put_self] at hget
    obtain rfl := Option.some.inj hget
    exact hv
  · rw [Table.get?_put_of_ne t hname] at hget
    exact h.1 name' version' hget

/-- A write does not move the versions of other symbols. -/
theorem nearest?_write {name' : String} {change : Version → Version} (hne : name' ≠ name) :
    nearest? name' (write name change frames) = nearest? name' frames := by
  induction frames with
  | nil => rfl
  | cons scope around ih =>
      cases hb : scope.versions.get? name with
      | some version =>
          rw [write_of_bound hb, nearest?, nearest?, Table.contains, Table.contains,
            Table.get?_put_of_ne _ hne]
      | none =>
          by_cases hthrough : scope.isTransparent ∧ around ≠ []
          · rw [write_through hb hthrough.1 hthrough.2, nearest?, nearest?, ih, length_write]
          · rw [write_new hb hthrough, nearest?, nearest?, Table.contains, Table.contains,
              Table.get?_put_of_ne _ hne]

theorem linked_write {change : Version → Version}
    (hchange : ∀ version, (change version).outer = version.outer) (h : Linked frames) :
    Linked (write name change frames) := by
  induction frames with
  | nil => exact h
  | cons scope around ih =>
      cases hb : scope.versions.get? name with
      | some version =>
          rw [write_of_bound hb]
          exact linked_cons_put h ((hchange version).trans (h.1 name version hb))
      | none =>
          by_cases hthrough : scope.isTransparent ∧ around ≠ []
          · -- The scope has no version of the symbol, so none of its links can be affected.
            rw [write_through hb hthrough.1 hthrough.2]
            refine ⟨fun name' version hget => ?_, ih h.2⟩
            have hne : name' ≠ name := by
              rintro rfl
              simp [hb] at hget
            rw [nearest?_write hne]
            exact h.1 name' version hget
          · rw [write_new hb hthrough]
            exact linked_cons_put h ((hchange _).trans (newVersion_outer name around))

theorem linked_push {s : Scopes} (locals : List String) (h : Linked s.frames) :
    Linked (s.push locals).frames := by
  refine ⟨fun name version hget => ?_, h⟩
  rw [get?_scopeWith] at hget
  split at hget
  · obtain rfl := Option.some.inj hget
    exact newVersion_outer name s.frames
  · simp at hget

theorem linked_pop {s : Scopes} (h : Linked s.frames) : Linked (s.pop?.getD s).frames := by
  rw [pop?]
  split
  next heq =>
    rw [heq] at h
    exact h.2
  next => exact h

/-- **The links are right in every reachable state.** -/
theorem Reachable.linked {s : Scopes} (hs : Reachable s) : Linked s.frames := by
  induction hs with
  | root => exact ⟨fun name version hget => by simp [Table.get?] at hget, trivial⟩
  | @step s a hs ih =>
      cases a with
      | push locals => exact linked_push locals ih
      | pop => exact linked_pop ih
      | write w =>
          rw [Action.run]
          cases h : w.owner? with
          | none => rwa [Write.run_of_no_owner h]
          | some name =>
              rw [Write.run_of_owner h]
              exact linked_write w.change_outer ih

/-! ### What follows for look-ups -/

theorem linked_of_append (h : Linked (above ++ around)) : Linked around := by
  induction above with
  | nil => exact h
  | cons _ _ ih => exact ih h.2

/-- A chain from the nearest version in some outer scopes is all the versions in them. -/
theorem chainFrom_eq {s : Scopes} (hs : Linked s.frames) (hframes : s.frames = above ++ around)
    (h : nearest? name around = some level) :
    s.chainFrom name level = bindings name around := by
  induction around generalizing above level with
  | nil => simp [nearest?] at h
  | cons scope around ih =>
      have hframes' : s.frames = (above ++ [scope]) ++ around := by simp [hframes]
      cases hb : scope.versions.get? name with
      | none =>
          rw [nearest?_of_unbound hb] at h
          rw [bindings_of_unbound hb, ih hframes' h]
      | some version =>
          -- The link of the version leads into the scopes around, where the induction goes on.
          have hat : versionAt? name level s.frames = some version := by
            rw [hframes, versionAt?_append (nearest?_lt h), versionAt?_of_nearest? h,
              bindings_of_bound hb, List.head?_cons]
          have hlinked : Linked (scope :: around) := linked_of_append (hframes ▸ hs)
          have houter : version.outer = nearest? name around := hlinked.1 name version hb
          rw [nearest?_of_bound hb] at h
          obtain rfl := Option.some.inj h
          rw [chainFrom, hat, bindings_of_bound hb]
          cases hn : nearest? name around with
          | none => simp [houter, hn, nearest?_eq_none_iff.mp hn]
          | some outer => simp [houter, hn, nearest?_lt hn, ih hframes' hn]

theorem chain_eq {s : Scopes} (hs : Linked s.frames) (name : String) :
    s.chain name = bindings name s.frames := by
  rw [chain]
  cases h : nearest? name s.frames with
  | none => exact (nearest?_eq_none_iff.mp h).symm
  | some level => exact chainFrom_eq hs (List.nil_append s.frames).symm h

/-- Trying the versions one after the other is trying all their rules. -/
theorem findSome?_rules (versions : List Version) (e : Expr) (sharing : Sharing) :
    (versions.findSome? fun version => version.rules.resolve? e sharing) =
      (versions.flatMap fun version => version.rules.rules).findSome? fun rule =>
        rule.resolve? e sharing := by
  induction versions with
  | nil => rfl
  | cons version versions ih =>
      rw [List.flatMap_cons, List.findSome?_append, List.findSome?_cons, ih, RuleSet.resolve?]
      cases version.rules.rules.findSome? fun rule => rule.resolve? e sharing <;> rfl

/-- The rules that are tried for an expression: those of each version in turn. -/
theorem resolve?_eq {s : Scopes} (hs : Linked s.frames) (e : Expr) (sharing : Sharing) :
    s.resolve? e sharing =
      e.owner?.bind fun name =>
        ((bindings name s.frames).flatMap fun version => version.rules.rules).findSome?
          fun rule => rule.resolve? e sharing := by
  rw [resolve?]
  cases e.owner? with
  | none => rfl
  | some name =>
      simp only [Option.bind_some]
      rw [chain_eq hs, findSome?_rules]

/-- **Version chains agree with the scopes.** In every reachable state, a version links to the
nearest one of its symbol further out, a chain lists the versions of its symbol from the
innermost scope to the root, and an expression is resolved by the first rule that accepts it
among those of the listed versions, whichever nodes are shared. -/
theorem Reachable.chains_agree {s : Scopes} (hs : Reachable s) :
    (∀ above scope around, s.frames = above ++ scope :: around →
      ∀ name version, scope.versions.get? name = some version →
        version.outer = nearest? name around ∧
        s.shadowed? name version = (bindings name around).head? ∧
        ∀ level, version.outer = some level → level < around.length) ∧
    (∀ name, s.chain name = bindings name s.frames) ∧
    (∀ name, s.chain name = [] ↔ ∀ scope ∈ s.frames, scope.versions.get? name = none) ∧
    ∀ e sharing, s.resolve? e sharing =
      e.owner?.bind fun name =>
        ((bindings name s.frames).flatMap fun version => version.rules.rules).findSome?
          fun rule => rule.resolve? e sharing := by
  have hlinked := hs.linked
  refine ⟨fun above scope around hframes name version hget => ?_, chain_eq hlinked,
    fun name => ?_, resolve?_eq hlinked⟩
  · have hscope : Linked (scope :: around) := linked_of_append (hframes ▸ hlinked)
    have houter := hscope.1 name version hget
    refine ⟨houter, ?_, fun level hlevel => nearest?_lt (houter.symm.trans hlevel)⟩
    rw [shadowed?, houter]
    cases h : nearest? name around with
    | none => simp [nearest?_eq_none_iff.mp h]
    | some level =>
        have hframes' : s.frames = (above ++ [scope]) ++ around := by simp [hframes]
        rw [Option.bind_some, hframes', versionAt?_append (nearest?_lt h),
          versionAt?_of_nearest? h]
  · rw [chain_eq hlinked, bindings, List.filterMap_eq_nil_iff]

/-- A local version and the one it shadows, in a scope with another symbol in between. -/
theorem chain_of_local :
    let declare (name : String) : Action := .write (.setAttributes name [.sym "Flat"])
    let s := (Action.push ["v"]).run
      ((declare "w").run ((Action.push []).run ((declare "v").run {})))
    Reachable s ∧ s.chain "v" = [{ attributes := ⟨[("Flat", .sym "Flat")]⟩, outer := some 0 },
      { attributes := ⟨[("Flat", .sym "Flat")]⟩ }] := by
  intro declare s
  have hs : Reachable s := .step _ (.step _ (.step _ (.step _ .root)))
  exact ⟨hs, (hs.chains_agree.2.1 "v").trans rfl⟩

end Reduct.Scopes
