import Reduct.Proofs.Scope.Writes

/-!
# Closing a scope

What was written in a scope is gone when the scope is closed, except for what passed through.
A scope that declares local symbols keeps the writes to these symbols and lets the others pass,
and they find the scopes around it as if it had never been opened. A scope without local symbols
keeps every write. In both cases the scopes after closing are equal to those that the passing
writes alone make, so no look-up of any kind can tell them apart.

The scope keeps the versions of its local symbols and gets no others as long as it is open
(`IsLocal`), and that is what decides where the next write goes.
-/

namespace Reduct.Scopes

variable {name : String} {change : Version → Version} {scope : Scope} {around : List Scope}
  {locals : List String} {s : Scopes}

/-- The scope declares the local symbols: it has versions of these alone, and is transparent. -/
structure IsLocal (locals : List String) (scope : Scope) : Prop where
  isSome_iff (name : String) : (scope.versions.get? name).isSome ↔ name ∈ locals
  isTransparent : scope.isTransparent

/-- Does the write pass through a scope with the local symbols? -/
def Write.passes (locals : List String) (w : Write) : Bool :=
  match w.owner? with
  | some name => !locals.contains name
  | none => true

theorem isLocal_scopeWith (around : List Scope) (hne : locals ≠ []) :
    IsLocal locals (scopeWith around locals) where
  isSome_iff name := by
    rw [get?_scopeWith]
    split <;> simp_all
  isTransparent := by simpa [scopeWith] using hne

theorem isTransparent_scopeWith_nil (around : List Scope) :
    (scopeWith around []).isTransparent = false := rfl

theorem IsLocal.put {version : Version} (h : IsLocal locals scope) (hmem : name ∈ locals) :
    IsLocal locals { scope with versions := scope.versions.put name version } where
  isSome_iff name' := by
    by_cases hname : name' = name
    · subst hname
      simp [hmem]
    · rw [Table.get?_put_of_ne _ hname]
      exact h.isSome_iff name'
  isTransparent := h.isTransparent

/-- A write to a local symbol stays in the scope. -/
theorem IsLocal.write_local (h : IsLocal locals scope) (hmem : name ∈ locals)
    (change : Version → Version) (around : List Scope) :
    ∃ scope', IsLocal locals scope' ∧
      write name change (scope :: around) = scope' :: around := by
  obtain ⟨version, hget⟩ := Option.isSome_iff_exists.mp ((h.isSome_iff name).mpr hmem)
  exact ⟨_, h.put hmem, write_of_bound hget⟩

/-- A write to another symbol passes through the scope. -/
theorem IsLocal.write_other (h : IsLocal locals scope) (hmem : name ∉ locals) (hne : around ≠ []) :
    write name change (scope :: around) = scope :: write name change around := by
  have hget : scope.versions.get? name = none :=
    Option.not_isSome_iff_eq_none.mp (mt (h.isSome_iff name).mp hmem)
  exact write_through hget h.isTransparent hne

/-- An opaque scope keeps every write. -/
theorem write_opaque (h : scope.isTransparent = false) (name : String)
    (change : Version → Version) (around : List Scope) :
    ∃ scope', write name change (scope :: around) = scope' :: around ∧
      scope'.isTransparent = false := by
  cases hget : scope.versions.get? name with
  | some version => exact ⟨_, write_of_bound hget, h⟩
  | none => exact ⟨_, write_new hget (by simp [h]), h⟩

theorem length_run (w : Write) (s : Scopes) : (w.run s).frames.length = s.frames.length := by
  cases h : w.owner? with
  | none => rw [Write.run_of_no_owner h]
  | some name => rw [Write.run_of_owner h, modify, length_write]

theorem length_runAll (writes : List Write) (s : Scopes) :
    (Write.runAll writes s).frames.length = s.frames.length := by
  induction writes generalizing s with
  | nil => rfl
  | cons w writes ih => rw [Write.runAll, List.foldl_cons, ← Write.runAll, ih, length_run]

/-! ### One write and several -/

/-- One write in a scope with local symbols changes the scope, or what is around it as if the
scope were not there. -/
theorem IsLocal.run (h : IsLocal locals scope) (hne : s.frames ≠ []) (w : Write) :
    ∃ scope', IsLocal locals scope' ∧
      w.run ⟨scope :: s.frames⟩ =
        ⟨scope' :: (if w.passes locals then w.run s else s).frames⟩ := by
  cases howner : w.owner? with
  | none =>
      refine ⟨scope, h, ?_⟩
      rw [Write.run_of_no_owner howner, Write.run_of_no_owner howner, ite_self]
  | some name =>
      rw [Write.run_of_owner howner, Write.run_of_owner howner, Write.passes, howner]
      by_cases hmem : name ∈ locals
      · obtain ⟨scope', h', hwrite⟩ := h.write_local hmem w.change s.frames
        exact ⟨scope', h', by simp [modify, hwrite, hmem]⟩
      · refine ⟨scope, h, ?_⟩
        simp [modify, h.write_other hmem hne, hmem]

/-- Writes in a scope with local symbols change the scope, and around it those change something
that pass through. -/
theorem IsLocal.runAll (h : IsLocal locals scope) (hne : s.frames ≠ []) (writes : List Write) :
    ∃ scope', Write.runAll writes ⟨scope :: s.frames⟩ =
      ⟨scope' :: (Write.runAll (writes.filter (·.passes locals)) s).frames⟩ := by
  induction writes generalizing scope s with
  | nil => exact ⟨scope, rfl⟩
  | cons w writes ih =>
      -- The scope after the write is local as well, and decides about the next one the same way.
      obtain ⟨scope', h', hrun⟩ := h.run hne w
      have hne' : (if w.passes locals then w.run s else s).frames ≠ [] := by
        split
        · rwa [← List.length_pos_iff, length_run, List.length_pos_iff]
        · exact hne
      obtain ⟨scope'', hall⟩ := ih h' hne'
      refine ⟨scope'', ?_⟩
      rw [Write.runAll, List.foldl_cons, hrun]
      refine hall.trans ?_
      cases hp : w.passes locals <;> simp [Write.runAll, hp]

/-- Writes in an opaque scope change nothing around it. -/
theorem runAll_opaque (h : scope.isTransparent = false) (around : List Scope)
    (writes : List Write) :
    ∃ scope', Write.runAll writes ⟨scope :: around⟩ = ⟨scope' :: around⟩ := by
  induction writes generalizing scope with
  | nil => exact ⟨scope, rfl⟩
  | cons w writes ih =>
      rw [Write.runAll, List.foldl_cons]
      cases howner : w.owner? with
      | none =>
          rw [Write.run_of_no_owner howner]
          exact ih h
      | some name =>
          obtain ⟨scope', hwrite, h'⟩ := write_opaque h name w.change around
          rw [Write.run_of_owner howner, modify, hwrite]
          exact ih h'

theorem pop?_cons (hne : s.frames ≠ []) : pop? ⟨scope :: s.frames⟩ = some s := by
  obtain ⟨frames⟩ := s
  cases frames with
  | nil => exact absurd rfl hne
  | cons around others => rfl

/-- **A closed scope leaves exactly the writes that passed through.** Opening a scope, writing and
closing it is the same as the writes to symbols that are not local to it, or as nothing at all if
it has no local symbols. -/
theorem Reachable.pop?_runAll_push {s : Scopes} (hs : Reachable s) (locals : List String)
    (writes : List Write) :
    (Write.runAll writes (s.push locals)).pop? =
      some (if locals = [] then s
        else Write.runAll (writes.filter (·.passes locals)) s) := by
  have hne := hs.frames_ne_nil
  by_cases hlocals : locals = []
  · subst hlocals
    obtain ⟨scope, hall⟩ := runAll_opaque (isTransparent_scopeWith_nil s.frames) s.frames writes
    rw [push, hall, if_pos rfl]
    exact pop?_cons hne
  · obtain ⟨scope, hall⟩ := (isLocal_scopeWith s.frames hlocals).runAll hne writes
    rw [push, hall, if_neg hlocals]
    exact pop?_cons (by rwa [← List.length_pos_iff, length_runAll, List.length_pos_iff])

/-- One write that stays and one that passes, in a scope opened in the root. -/
theorem pop?_runAll_push_local :
    let writes : List Write := [.setAttributes "v" [.sym "Flat"], .setAttributes "w" [.sym "Flat"]]
    Reachable {} ∧ (Write.runAll writes (push {} ["v"])).pop? =
      some (Write.runAll [.setAttributes "w" [.sym "Flat"]] {}) :=
  ⟨.root, Reachable.root.pop?_runAll_push ["v"] _⟩

end Reduct.Scopes
