import Reduct.Proofs.Rule.Kept
import Reduct.Proofs.Scope.Writes

/-!
# What the definitions keep

A property of expressions can hold of all that is stored in the scopes, with a property of the names
that versions and attributes are filed under (`Scopes.Holds`). Opening and closing scopes keeps it,
and if evaluation keeps it, so does a write in which it holds. What is looked up has it then: what
rules make of an expression, and the attributes of symbols.
-/

namespace Reduct

/-! ### Tables -/

namespace Table

variable {α : Type} {R : String → α → Prop} {t u : Table α} {key : String} {value : α}

/-- Every entry of the table satisfies `R`. -/
def All (R : String → α → Prop) (t : Table α) : Prop := ∀ entry ∈ t.entries, R entry.1 entry.2

theorem All.empty : ({} : Table α).All R := by simp [All]

theorem All.mono {S : String → α → Prop} (hRS : ∀ key value, R key value → S key value)
    (h : t.All R) : t.All S :=
  fun entry hentry => hRS _ _ (h entry hentry)

theorem All.of_get? (h : t.All R) (hget : t.get? key = some value) : R key value :=
  h (key, value) (mem_of_get? hget)

theorem mem_putEntry {entry : String × α} {entries : List (String × α)}
    (h : entry ∈ putEntry key value entries) : entry = (key, value) ∨ entry ∈ entries := by
  induction entries with
  | nil => exact .inl (List.mem_singleton.mp h)
  | cons first rest ih =>
      rw [putEntry] at h
      split at h
      · obtain h | h := List.mem_cons.mp h
        · exact .inl h
        · exact .inr (List.mem_cons_of_mem first h)
      · split at h
        · exact List.mem_cons.mp h
        · obtain h | h := List.mem_cons.mp h
          · exact .inr (h ▸ List.mem_cons_self ..)
          · exact (ih h).imp_right (List.mem_cons_of_mem first)

theorem All.put (h : t.All R) (hvalue : R key value) : (t.put key value).All R := by
  intro entry hentry
  obtain rfl | hentry := mem_putEntry hentry
  · exact hvalue
  · exact h entry hentry

theorem All.erase (h : t.All R) (key : String) : (t.erase key).All R :=
  fun entry hentry => h entry (List.mem_filter.mp hentry).1

theorem All.foldl_put {items : List β} {key : β → String} {value : β → α} (h : t.All R)
    (hitems : ∀ item ∈ items, R (key item) (value item)) :
    (items.foldl (fun t item => t.put (key item) (value item)) t).All R := by
  induction items generalizing t with
  | nil => exact h
  | cons item items ih =>
      exact ih (h.put (hitems item (by simp))) fun item hitem => hitems item (by simp [hitem])

theorem All.merge (h : t.All R) (h' : u.All R) : (t.merge u).All R := h.foldl_put h'

end Table

/-! ### All versions -/

namespace Scopes

variable {R : String → Version → Prop} {name : String} {s : Scopes}

/-- Every version in the scopes is related by `R` to the symbol it is of. -/
def All (R : String → Version → Prop) (frames : List Scope) : Prop :=
  ∀ scope ∈ frames, scope.versions.All R

theorem All.push {locals : List String} (h : All R s.frames)
    (hnew : ∀ name ∈ locals, R name (newVersion name s.frames)) : All R (s.push locals).frames := by
  intro scope hscope
  obtain rfl | hscope := List.mem_cons.mp hscope
  · exact Table.All.empty.foldl_put hnew
  · exact h scope hscope

theorem All.pop (h : All R s.frames) : All R (s.pop?.getD s).frames := by
  obtain ⟨frames⟩ := s
  match frames with
  | [] | [_] => exact h
  | _ :: around :: others => exact fun scope hscope => h scope (List.mem_cons_of_mem _ hscope)

/-- A write keeps what holds of new versions and is kept by the change. -/
theorem All.write {frames : List Scope} {change : Version → Version}
    (hnew : ∀ around, All R around → R name (newVersion name around))
    (hchange : ∀ version, R name version → R name (change version)) (h : All R frames) :
    All R (write name change frames) := by
  induction frames with
  | nil => exact h
  | cons scope around ih =>
      have haround : All R around := fun scope hscope => h scope (List.mem_cons_of_mem _ hscope)
      have hscope := h scope (List.mem_cons_self ..)
      -- The scope that keeps the write has a version more, or another one.
      have hkeep {version : Version} (hversion : R name version) :
          All R ({ scope with versions := scope.versions.put name (change version) } :: around) := by
        intro other hother
        obtain rfl | hother := List.mem_cons.mp hother
        · exact hscope.put (hchange version hversion)
        · exact haround other hother
      cases hget : scope.versions.get? name with
      | some version =>
          rw [write_of_bound hget]
          exact hkeep (hscope.of_get? hget)
      | none =>
          by_cases hthrough : scope.isTransparent ∧ around ≠ []
          · rw [write_through hget hthrough.1 hthrough.2]
            intro other hother
            obtain rfl | hother := List.mem_cons.mp hother
            · exact hscope
            · exact ih haround other hother
          · rw [write_new hget hthrough]
            exact hkeep (hnew around haround)

end Scopes

/-! ### Versions -/

variable {P P' : String → Prop} {Q Q' : Expr → Prop} {name : String} {e result : Expr}

/-- Attributes with the property, under names with the property. -/
abbrev HoldsOfAttributes (P : String → Prop) (Q : Expr → Prop) : Table Expr → Prop :=
  Table.All fun key e => P key ∧ Q e

/-- The properties hold of all that is in the version. -/
structure Version.Holds (P : String → Prop) (Q : Expr → Prop) (version : Version) : Prop where
  rules : ∀ rule ∈ version.rules.rules, rule.Holds Q
  attributes : HoldsOfAttributes P Q version.attributes

theorem Version.Holds.mono {version : Version} (hP : ∀ name, P name → P' name)
    (hQ : ∀ e, Q e → Q' e) (h : version.Holds P Q) : version.Holds P' Q' where
  rules rule hrule := (h.rules rule hrule).mono hQ
  attributes := h.attributes.mono fun _ _ hentry => ⟨hP _ hentry.1, hQ _ hentry.2⟩

theorem Version.holds_empty : ({} : Version).Holds P Q := ⟨by simp, .empty⟩

namespace Scopes

variable {s : Scopes} {scope : Scope} {frames : List Scope} {level : Nat} {version : Version}

/-- The properties hold of all that is stored in the scopes, and of the names it is filed under. -/
def Holds (P : String → Prop) (Q : Expr → Prop) (s : Scopes) : Prop :=
  ∀ scope ∈ s.frames, scope.versions.All fun name version => P name ∧ version.Holds P Q

/-- Every symbol that is filed in the scopes or stored in them has a name with the property. -/
abbrev Names (P : String → Prop) : Scopes → Prop := Holds P (Expr.Names P)

theorem Holds.mono (hP : ∀ name, P name → P' name) (hQ : ∀ e, Q e → Q' e) (h : s.Holds P Q) :
    s.Holds P' Q' :=
  fun scope hscope =>
    (h scope hscope).mono fun _ _ hentry => ⟨hP _ hentry.1, hentry.2.mono hP hQ⟩

theorem Names.mono (hP : ∀ name, P name → P' name) (h : s.Names P) : s.Names P' :=
  Holds.mono hP (fun _ => Expr.Atoms.mono hP) h

/-! ### Looking up -/

theorem exists_of_versionAt? (h : versionAt? name level frames = some version) :
    ∃ scope ∈ frames, scope.versions.get? name = some version := by
  induction frames with
  | nil => simp [versionAt?] at h
  | cons scope around ih =>
      rw [versionAt?] at h
      split at h
      · exact ⟨scope, List.mem_cons_self .., h⟩
      · obtain ⟨found, hfound, hget⟩ := ih h
        exact ⟨found, List.mem_cons_of_mem scope hfound, hget⟩

theorem Holds.of_versionAt? (h : s.Holds P Q) (hat : versionAt? name level s.frames = some version) :
    version.Holds P Q := by
  obtain ⟨scope, hscope, hget⟩ := exists_of_versionAt? hat
  exact ((h scope hscope).of_get? hget).2

theorem Holds.chainFrom (h : s.Holds P Q) (name : String) (level : Nat) :
    ∀ version ∈ s.chainFrom name level, version.Holds P Q := by
  induction level using Nat.strongRecOn with
  | ind level ih =>
      intro version hmem
      rw [Scopes.chainFrom] at hmem
      split at hmem
      next => simp at hmem
      next first hfirst =>
        have hfirst' := h.of_versionAt? hfirst
        split at hmem
        next => exact List.mem_singleton.mp hmem ▸ hfirst'
        next outer _ =>
          split at hmem
          next hlt =>
            obtain rfl | hmem := List.mem_cons.mp hmem
            · exact hfirst'
            · exact ih outer hlt version hmem
          next => exact List.mem_singleton.mp hmem ▸ hfirst'

theorem Holds.chain (h : s.Holds P Q) (name : String) :
    ∀ version ∈ s.chain name, version.Holds P Q := by
  rw [Scopes.chain]
  split
  · simp
  · exact h.chainFrom name _

theorem Holds.resolve? {sharing : Sharing} (hQ : Expr.Hereditary Q) (h : s.Holds P Q) (he : Q e)
    (hresult : s.resolve? e sharing = some result) : Q result := by
  rw [Scopes.resolve?] at hresult
  split at hresult
  · simp at hresult
  · obtain ⟨version, hversion, hfound⟩ := List.exists_of_findSome?_eq_some hresult
    obtain ⟨rule, hrule, hresolve⟩ := List.exists_of_findSome?_eq_some hfound
    exact hQ.resolve? ((h.chain _ version hversion).rules rule hrule) he hresolve

theorem Holds.version? (h : s.Holds P Q) (hversion : s.version? name = some version) :
    version.Holds P Q := by
  rw [Scopes.version?] at hversion
  split at hversion
  · simp at hversion
  · exact h.of_versionAt? hversion

theorem Holds.attributes (h : s.Holds P Q) (name : String) : ∀ e ∈ s.attributes name, Q e := by
  intro e he
  rw [Scopes.attributes] at he
  split at he
  next => simp at he
  next version hversion =>
    obtain ⟨entry, hentry, rfl⟩ := List.mem_map.mp he
    exact ((h.version? hversion).attributes entry hentry).2

theorem Holds.withAttribute (h : s.Holds P Q) (key : String) :
    ∀ entry ∈ s.withAttribute key, P entry.1 ∧ Q entry.2 := by
  intro entry hentry
  have hvisible : s.visible.All fun name version => P name ∧ version.Holds P Q := by
    rw [Holds] at h
    rw [visible]
    generalize s.frames = frames at h
    induction frames with
    | nil => exact .empty
    | cons scope around ih =>
        exact (ih fun scope hscope => h scope (by simp [hscope])).merge (h scope (by simp))
  obtain ⟨found, hfound, hmap⟩ := List.mem_filterMap.mp hentry
  obtain ⟨e, he, rfl⟩ := Option.map_eq_some_iff.mp hmap
  obtain ⟨hname, hversion⟩ := hvisible found hfound
  exact ⟨hname, (hversion.attributes.of_get? he).2⟩

/-! ### Opening and closing -/

theorem holds_newVersion (h : s.Holds P Q) (name : String) :
    (newVersion name s.frames).Holds P Q := by
  rw [newVersion]
  split
  · exact Version.holds_empty
  · split
    · exact Version.holds_empty
    next shadowed hshadowed => exact ⟨by simp, (h.of_versionAt? hshadowed).attributes⟩

theorem Holds.push (h : s.Holds P Q) {locals : List String} (hlocals : ∀ name ∈ locals, P name) :
    (s.push locals).Holds P Q :=
  All.push h fun name hname => ⟨hlocals name hname, holds_newVersion h name⟩

theorem Holds.pop (h : s.Holds P Q) : (s.pop?.getD s).Holds P Q := All.pop h

/-! ### Writing -/

/-- The properties hold of all that is written, and of the name it is filed under. -/
def Write.Holds (P : String → Prop) (Q : Expr → Prop) : Write → Prop
  | .setRule rule => rule.Holds Q
  | .clearRule pattern => Q pattern
  | .setAttributes name attributes => P name ∧ ∀ e ∈ attributes, Q e
  | .clearAttributes name _ => P name

theorem Write.Holds.mono {w : Write} (hP : ∀ name, P name → P' name) (hQ : ∀ e, Q e → Q' e)
    (h : w.Holds P Q) : w.Holds P' Q' := by
  cases w with
  | setRule rule => exact Rule.Holds.mono hQ h
  | clearRule pattern => exact hQ pattern h
  | setAttributes name attributes => exact ⟨hP _ h.1, fun e he => hQ e (h.2 e he)⟩
  | clearAttributes name keys => exact hP _ h

section Kept

variable (hQ : Expr.Kept P Q)
include hQ

theorem Write.Holds.of_owner? {w : Write} (h : w.Holds P Q) (hname : w.owner? = some name) :
    P name := by
  cases w with
  | setRule rule => exact hQ.of_owner? h.pattern hname
  | clearRule pattern => exact hQ.of_owner? h hname
  | setAttributes name attributes => exact Option.some.inj hname ▸ h.1
  | clearAttributes name keys => exact Option.some.inj hname ▸ h

theorem holds_addAttributes {attributes : Table Expr} {es : List Expr}
    (h : HoldsOfAttributes P Q attributes) (hes : ∀ e ∈ es, Q e) :
    HoldsOfAttributes P Q (es.foldl (fun table e =>
      match e.owner? with
      | some key => table.put key e
      | none => table) attributes) := by
  induction es generalizing attributes with
  | nil => exact h
  | cons e es ih =>
      refine ih ?_ fun e he => hes e (by simp [he])
      have he := hes e (by simp)
      dsimp only
      split
      next key hkey => exact h.put ⟨hQ.of_owner? he hkey, he⟩
      next => exact h

omit hQ in
theorem holds_eraseAll {attributes : Table Expr} (h : HoldsOfAttributes P Q attributes)
    (keys : List String) : HoldsOfAttributes P Q (keys.foldl Table.erase attributes) := by
  induction keys generalizing attributes with
  | nil => exact h
  | cons key keys ih => exact ih (h.erase key)

theorem Write.Holds.change {w : Write} (h : w.Holds P Q) (hversion : version.Holds P Q) :
    (w.change version).Holds P Q := by
  cases w with
  | setRule rule =>
      refine ⟨fun other hother => ?_, hversion.attributes⟩
      obtain rfl | hother := RuleSet.mem_insert hother
      · exact h
      · exact hversion.rules other hother
  | clearRule pattern =>
      exact ⟨fun rule hrule => hversion.rules rule (List.mem_of_mem_eraseP hrule),
        hversion.attributes⟩
  | setAttributes name attributes =>
      exact ⟨hversion.rules, holds_addAttributes hQ hversion.attributes h.2⟩
  | clearAttributes name keys =>
      refine ⟨hversion.rules, ?_⟩
      rw [Write.change]
      split
      · exact .empty
      · exact holds_eraseAll hversion.attributes keys

omit hQ in
theorem holds_write {change : Version → Version} (hname : P name)
    (hchange : ∀ version, version.Holds P Q → (change version).Holds P Q)
    (h : Holds P Q ⟨frames⟩) : Holds P Q ⟨write name change frames⟩ :=
  All.write (fun around haround => ⟨hname, @holds_newVersion P Q ⟨around⟩ haround name⟩)
    (fun version hversion => ⟨hname, hchange version hversion.2⟩) h

theorem Holds.run {w : Write} (hw : w.Holds P Q) (h : s.Holds P Q) : (w.run s).Holds P Q := by
  cases howner : w.owner? with
  | none => rwa [Write.run_of_no_owner howner]
  | some name =>
      rw [Write.run_of_owner howner]
      exact holds_write (hw.of_owner? hQ howner) (fun _ => hw.change hQ) h

end Kept

end Scopes

end Reduct
