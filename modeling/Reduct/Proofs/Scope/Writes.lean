import Reduct.Scope

/-!
# Writes to scopes

The operations on scopes as data: a write declares or withdraws a rule or attributes, and an
action opens a scope, closes one or writes. `Reachable` is what any sequence of actions makes of
the root.

Whatever a write declares, it changes one version of its owning symbol (`Write.run_of_owner`) and
leaves the link of that version alone (`Write.change_outer`). Which version it is depends on the
scopes from the innermost on: the first that has one keeps the write, and so does the first that
is not transparent and the root; the others let it pass. The three cases of `write` are named
here, and the proofs of the other modules go by them.
-/

namespace Reduct.Scopes

/-- A change to the definitions of a symbol. -/
inductive Write where
  | setRule (rule : Rule)
  | clearRule (pattern : Expr)
  | setAttributes (name : String) (attributes : List Expr)
  | clearAttributes (name : String) (keys : List String)

namespace Write

/-- The symbol the write is about, if there is one. -/
def owner? : Write → Option String
  | .setRule rule => rule.pattern.owner?
  | .clearRule pattern => pattern.owner?
  | .setAttributes name _ => some name
  | .clearAttributes name _ => some name

/-- The scopes after the write. One without an owning symbol fails and changes nothing. -/
def run : Write → Scopes → Scopes
  | .setRule rule, s => (s.setRule? rule).getD s
  | .clearRule pattern, s => ((s.clearRule? pattern).map Prod.snd).getD s
  | .setAttributes name attributes, s => s.setAttributes name attributes
  | .clearAttributes name keys, s => s.clearAttributes name keys

/-- The scopes after several writes. -/
def runAll (writes : List Write) (s : Scopes) : Scopes :=
  writes.foldl (fun s w => w.run s) s

/-- What the write makes of the version it finds. -/
def change : Write → Version → Version
  | .setRule rule, version => { version with rules := version.rules.insert rule }
  | .clearRule pattern, version => { version with rules := version.rules.remove pattern }
  | .setAttributes _ attributes, version =>
      { version with
        attributes := attributes.foldl (fun table e =>
          match e.owner? with
          | some key => table.put key e
          | none => table) version.attributes }
  | .clearAttributes _ keys, version =>
      { version with
        attributes := if keys.isEmpty then {} else keys.foldl Table.erase version.attributes }

/-- No write moves a link. -/
@[simp] theorem change_outer (w : Write) (version : Version) :
    (w.change version).outer = version.outer := by
  cases w <;> rfl

/-- A write modifies a version of its owning symbol. -/
theorem run_of_owner {w : Write} {name : String} (h : w.owner? = some name) (s : Scopes) :
    w.run s = s.modify name w.change := by
  cases w with
  | setRule rule =>
      have h : rule.pattern.owner? = some name := h
      rw [run, setRule?, h]
      rfl
  | clearRule pattern =>
      have h : pattern.owner? = some name := h
      rw [run, clearRule?, h]
      rfl
  | setAttributes name attributes | clearAttributes name keys =>
      obtain rfl := Option.some.inj h
      rfl

/-- A write without an owning symbol does nothing. -/
theorem run_of_no_owner {w : Write} (h : w.owner? = none) (s : Scopes) : w.run s = s := by
  cases w with
  | setRule rule =>
      have h : rule.pattern.owner? = none := h
      rw [run, setRule?, h]
      rfl
  | clearRule pattern =>
      have h : pattern.owner? = none := h
      rw [run, clearRule?, h]
      rfl
  | setAttributes name attributes | clearAttributes name keys => exact absurd h (by simp [owner?])

end Write

/-- An operation on scopes. -/
inductive Action where
  | push (locals : List String)
  | pop
  | write (w : Write)

/-- The scopes after an operation. Closing the root changes nothing. -/
def Action.run : Action → Scopes → Scopes
  | .push locals, s => s.push locals
  | .pop, s => s.pop?.getD s
  | .write w, s => w.run s

/-- The scopes that some sequence of operations makes of the root. -/
inductive Reachable : Scopes → Prop
  | root : Reachable {}
  | step {s : Scopes} (a : Action) : Reachable s → Reachable (a.run s)

/-! ### Local symbols -/

theorem get?_foldl_put {α : Type} (f : String → α) (names : List String) (t : Table α)
    (name : String) :
    (names.foldl (fun t n => t.put n (f n)) t).get? name =
      if name ∈ names then some (f name) else t.get? name := by
  induction names generalizing t with
  | nil => simp
  | cons n names ih =>
      rw [List.foldl_cons, ih]
      by_cases hmem : name ∈ names
      · simp [hmem]
      · by_cases hn : name = n
        · subst hn
          simp [hmem]
        · simp [hmem, hn, Table.get?_put_of_ne t hn]

/-- A scope opened with local symbols has a new version of each, and no other. -/
theorem get?_scopeWith (around : List Scope) (locals : List String) (name : String) :
    (scopeWith around locals).versions.get? name =
      if name ∈ locals then some (newVersion name around) else none :=
  get?_foldl_put (newVersion · around) locals {} name

/-! ### Where a write goes -/

variable {name : String} {change : Version → Version} {scope : Scope} {around frames : List Scope}
  {version : Version}

/-- A write stays in a scope that has a version of the symbol. -/
theorem write_of_bound (h : scope.versions.get? name = some version) :
    write name change (scope :: around) =
      { scope with versions := scope.versions.put name (change version) } :: around := by
  simp only [write, h]

/-- A write passes through a transparent scope without a version of the symbol. -/
theorem write_through (h : scope.versions.get? name = none) (ht : scope.isTransparent)
    (hne : around ≠ []) :
    write name change (scope :: around) = scope :: write name change around := by
  simp [write, h, ht, hne]

/-- A write makes a new version in an opaque scope, or in the root, that has none. -/
theorem write_new (h : scope.versions.get? name = none)
    (hkeep : ¬ (scope.isTransparent ∧ around ≠ [])) :
    write name change (scope :: around) =
      { scope with versions :=
          scope.versions.put name (change (newVersion name around)) } :: around := by
  have hkeep' : (scope.isTransparent && !around.isEmpty) = false := by simpa using hkeep
  simp only [write, h, hkeep']
  rfl

/-- **What a write does.** The version it finds is in a scope, or new and put there; no scope
further in has one. The scope gets the changed version, and everything else is as before. -/
theorem exists_write_eq (name : String) (change : Version → Version) (h : frames ≠ []) :
    ∃ above scope around, frames = above ++ scope :: around ∧
      (∀ inner ∈ above, inner.versions.get? name = none) ∧
      (scope.versions.get? name = some (found name frames) ∨
        scope.versions.get? name = none ∧ found name frames = newVersion name around) ∧
      write name change frames = above ++
        { scope with versions := scope.versions.put name (change (found name frames)) } ::
          around := by
  induction frames with
  | nil => exact absurd rfl h
  | cons scope around ih =>
      cases hget : scope.versions.get? name with
      | some version =>
          have hbound : found name (scope :: around) = version := by simp only [found, hget]
          refine ⟨[], scope, around, rfl, by simp, .inl (by rw [hbound, hget]), ?_⟩
          rw [write_of_bound hget, hbound, List.nil_append]
      | none =>
          by_cases hthrough : scope.isTransparent ∧ around ≠ []
          · obtain ⟨above, scope', around', haround, habove, hfound, hwrite⟩ := ih hthrough.2
            have hsame : found name (scope :: around) = found name around := by
              simp [found, hget, hthrough]
            refine ⟨scope :: above, scope', around', by rw [haround, List.cons_append], ?_, ?_, ?_⟩
            · exact List.forall_mem_cons.mpr ⟨hget, habove⟩
            · rwa [hsame]
            · rw [write_through hget hthrough.1 hthrough.2, hwrite, hsame, List.cons_append]
          · have hkeep : (scope.isTransparent && !around.isEmpty) = false := by simpa using hthrough
            have hnew : found name (scope :: around) = newVersion name around := by
              simp [found, hget, hkeep]
            refine ⟨[], scope, around, rfl, by simp, .inr ⟨hget, hnew⟩, ?_⟩
            rw [write_new hget hthrough, hnew, List.nil_append]

theorem length_write (frames : List Scope) :
    (write name change frames).length = frames.length := by
  induction frames with
  | nil => rfl
  | cons scope around ih =>
      rw [write]
      split
      · rfl
      · split <;> simp [ih]

/-- There is always the root. -/
theorem Reachable.frames_ne_nil {s : Scopes} (hs : Reachable s) : s.frames ≠ [] := by
  induction hs with
  | root => simp
  | @step s a hs ih =>
      cases a with
      | push locals => simp [Action.run, push]
      | pop =>
          obtain ⟨frames⟩ := s
          match frames with
          | [] => exact ih
          | [_] => simp [Action.run, pop?]
          | _ :: _ :: _ => simp [Action.run, pop?]
      | write w =>
          rw [Action.run]
          cases h : w.owner? with
          | none => rwa [Write.run_of_no_owner h]
          | some name =>
              rw [Write.run_of_owner h, modify, ← List.length_pos_iff, length_write,
                List.length_pos_iff]
              exact ih

end Reduct.Scopes
