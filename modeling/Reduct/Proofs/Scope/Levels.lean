import Mathlib.Data.Nat.PSub
import Reduct.Proofs.Scope.Chains

/-!
# Scopes by level

The open scopes can be kept in a row, the root first, and be reached by their levels. Here each
operation goes by levels, and each level is checked: reading a scope, replacing it, slicing off
those further in, and counting down from the number of scopes. As long as there is a root nothing
of this fails, and the operations do what they do on nested scopes (`modifyAt?_eq`, `pushAt?_eq`).
A write starts at the top and goes down to the root at most, one scope at a time.
-/

namespace Reduct

/-! ### Tables in ascending order -/

namespace Table

variable {α : Type} {t : Table α} {key : String} {value : α}

/-- The names of the pairs ascend. -/
def IsAscending (t : Table α) : Prop := t.keys.Pairwise (· < ·)

theorem IsAscending.put (h : t.IsAscending) (key : String) (value : α) :
    (t.put key value).IsAscending := by
  obtain ⟨entries⟩ := t
  induction entries with
  | nil => simp [IsAscending, keys, Table.put, putEntry]
  | cons entry rest ih =>
      obtain ⟨hentry, hrest⟩ := List.pairwise_cons.mp h
      have hkeys := ih hrest
      simp only [IsAscending, keys, Table.put, putEntry]
      split
      next heq => rw [← heq] at hentry; exact List.pairwise_cons.mpr ⟨hentry, hrest⟩
      next hne =>
        split
        next hlt =>
          refine List.pairwise_cons.mpr ⟨fun name hname => ?_, h⟩
          obtain rfl | hname := List.mem_cons.mp hname
          · exact hlt
          · exact String.lt_trans hlt (hentry name hname)
        next hnot =>
          refine List.pairwise_cons.mpr ⟨fun name hname => ?_, hkeys⟩
          obtain rfl | hname := (@mem_keys_put α ⟨rest⟩ key name value).mp hname
          · exact Std.lt_of_le_of_ne (String.not_lt.mp hnot) (Ne.symm hne)
          · exact hentry name hname

/-- Putting in what is there changes nothing. -/
theorem IsAscending.put_of_get? (h : t.IsAscending) (hget : t.get? key = some value) :
    t.put key value = t := by
  obtain ⟨entries⟩ := t
  refine congrArg Table.mk ?_
  induction entries with
  | nil => simp [get?] at hget
  | cons entry rest ih =>
      obtain ⟨hentry, hrest⟩ := List.pairwise_cons.mp h
      rw [putEntry]
      by_cases hkey : key = entry.1
      · rw [get?, List.lookup_cons, hkey, BEq.rfl] at hget
        rw [if_pos hkey, hkey, ← Option.some.inj hget]
      · have hbeq : (key == entry.1) = false := beq_false_of_ne hkey
        have hget' : (⟨rest⟩ : Table α).get? key = some value := by
          rwa [get?, List.lookup_cons, hbeq] at hget
        have hlt : entry.1 < key := hentry key (mem_keys_of_isSome (by simp [hget']))
        rw [if_neg hkey, if_neg (String.lt_asymm hlt), ih hrest hget']

end Table

namespace Scopes

variable {name : String} {change : Version → Version} {scope : Scope}
  {above around : List Scope} {s : Scopes}

/-- The open scopes by their levels: the root first. -/
def stack (s : Scopes) : List Scope := s.frames.reverse

/-- The open scopes, given by their levels. -/
def ofStack (stack : List Scope) : Scopes := ⟨stack.reverse⟩

/-- The scopes below a level, the innermost first. -/
def below? (stack : List Scope) (level : Nat) : Option (List Scope) :=
  if level ≤ stack.length then some (stack.take level).reverse else none

/-- The level of the innermost scope with a version of a symbol, of all that are open. -/
def lookupAt? (s : Scopes) (name : String) : Option (Option Nat) := do
  let frames ← below? s.stack s.stack.length
  return nearest? name frames

/-- The version that a write to a symbol finds on the way down from a level, and the level where
it is. -/
def writable? (name : String) (stack : List Scope) (level : Nat) : Option (Nat × Version) := do
  let scope ← stack[level]?
  match scope.versions.get? name with
  | some version => return (level, version)
  | none =>
    if scope.isTransparent then
      match level with
      | 0 => return (0, newVersion name (← below? stack 0))
      | outer + 1 => writable? name stack outer
    else return (level, newVersion name (← below? stack level))

/-- Puts a version into the scope of a level. -/
def putAt? (name : String) (version : Version) (stack : List Scope) (level : Nat) :
    Option (List Scope) := do
  let scope ← stack[level]?
  return stack.set level { scope with versions := scope.versions.put name version }

/-- Changes the version that a write to a symbol goes to. -/
def modifyAt? (s : Scopes) (name : String) (change : Version → Version) : Option Scopes := do
  let top ← s.stack.length.ppred
  let (level, version) ← writable? name s.stack top
  let stack ← putAt? name (change version) s.stack level
  return ofStack stack

/-- Declares a symbol in the scope of a level, unless it is declared there. -/
def declareAt? (level : Nat) (stack : List Scope) (name : String) : Option (List Scope) := do
  let scope ← stack[level]?
  if scope.versions.contains name then return stack
  else putAt? name (newVersion name (← below? stack level)) stack level

/-- Opens a scope at the top and declares local symbols in it. -/
def pushAt? (s : Scopes) (locals : List String) : Option Scopes := do
  let stack := s.stack ++ [{ isTransparent := !locals.isEmpty }]
  let top ← stack.length.ppred
  let stack ← locals.foldlM (declareAt? top) stack
  return ofStack stack

/-! ### One scope -/

/-- A scope stands at the level that counts those around it. -/
theorem getElem?_level : (around.reverse ++ scope :: above)[around.length]? = some scope := by
  simp

theorem below?_level : below? (around.reverse ++ scope :: above) around.length = some around := by
  have htake : (around.reverse ++ scope :: above).take around.length = around.reverse := by simp
  simp [below?, htake]

theorem putAt?_level (version : Version) :
    putAt? name version (around.reverse ++ scope :: above) around.length =
      some (around.reverse ++
        { scope with versions := scope.versions.put name version } :: above) := by
  simp [putAt?]

theorem lookupAt?_eq (s : Scopes) (name : String) :
    s.lookupAt? name = some (nearest? name s.frames) := by
  have hall : below? s.stack s.stack.length = some s.frames := by
    rw [below?, if_pos (Nat.le_refl _), List.take_length, stack, List.reverse_reverse]
  rw [lookupAt?, hall]
  rfl

/-! ### Writing -/

theorem writable?_of_bound {version : Version} (h : scope.versions.get? name = some version) :
    writable? name (around.reverse ++ scope :: above) around.length =
      some (around.length, version) := by
  rw [writable?.eq_def, getElem?_level]
  simp [h]

theorem writable?_through {outer : Scope} (h : scope.versions.get? name = none)
    (ht : scope.isTransparent) :
    writable? name ((outer :: around).reverse ++ scope :: above) (around.length + 1) =
      writable? name ((outer :: around).reverse ++ scope :: above) around.length := by
  have hscope : ((outer :: around).reverse ++ scope :: above)[around.length + 1]? = some scope :=
    getElem?_level
  rw [writable?.eq_def, hscope]
  simp [h, ht]

theorem writable?_new (h : scope.versions.get? name = none)
    (hkeep : ¬ (scope.isTransparent ∧ around ≠ [])) :
    writable? name (around.reverse ++ scope :: above) around.length =
      some (around.length, newVersion name around) := by
  rw [writable?.eq_def, getElem?_level]
  dsimp only [Option.bind_eq_bind, Option.bind_some]
  rw [h]
  dsimp only
  split
  next ht =>
    obtain rfl : around = [] := by_contra fun hne => hkeep ⟨ht, hne⟩
    rfl
  next => rw [below?_level]; rfl

/-- A write finds a version and puts it back, wherever on its way down it does. -/
theorem writable?_bind_putAt? (scope : Scope) (around above : List Scope) :
    ((writable? name (around.reverse ++ scope :: above) around.length).bind fun found =>
        putAt? name (change found.2) (around.reverse ++ scope :: above) found.1) =
      some ((write name change (scope :: around)).reverse ++ above) := by
  cases hget : scope.versions.get? name with
  | some version =>
      rw [writable?_of_bound hget, Option.bind_some, putAt?_level, write_of_bound hget]
      simp
  | none =>
      by_cases hthrough : scope.isTransparent ∧ around ≠ []
      · obtain ⟨ht, hne⟩ := hthrough
        match around, hne with
        | outer :: around, hne =>
            rw [List.length_cons, writable?_through hget ht, write_through hget ht hne]
            simpa using writable?_bind_putAt? outer around (scope :: above)
      · rw [writable?_new hget hthrough, Option.bind_some, putAt?_level, write_new hget hthrough]
        simp

/-- **A write goes by valid levels.** -/
theorem modifyAt?_eq (h : s.frames ≠ []) (name : String) (change : Version → Version) :
    s.modifyAt? name change = some (s.modify name change) := by
  obtain ⟨frames⟩ := s
  obtain ⟨scope, around, rfl⟩ := List.exists_cons_of_ne_nil h
  have hstack : stack ⟨scope :: around⟩ = around.reverse ++ [scope] := List.reverse_cons
  have htop : (around.reverse ++ [scope]).length.ppred = some around.length := by simp
  have hwrite := @writable?_bind_putAt? name change scope around []
  rw [modifyAt?, hstack, htop]
  change ((writable? name _ around.length).bind fun found =>
    (putAt? name (change found.2) _ found.1).bind fun stack => some (ofStack stack)) = _
  rw [← Option.bind_assoc, hwrite]
  simp [ofStack, modify]

/-! ### Opening a scope -/

/-- Declaring a symbol puts a new version into the scope; one that is there is the same. -/
theorem declareAt?_level {t : Table Version} {isTransparent : Bool} (hascending : t.IsAscending)
    (hsame : ∀ version, t.get? name = some version → version = newVersion name around) :
    declareAt? around.length (around.reverse ++ [⟨t, isTransparent⟩]) name =
      some (around.reverse ++ [⟨t.put name (newVersion name around), isTransparent⟩]) := by
  rw [declareAt?, getElem?_level]
  dsimp only [Option.bind_eq_bind, Option.bind_some]
  rw [Table.contains]
  cases hget : t.get? name with
  | none =>
      rw [below?_level]
      exact putAt?_level (newVersion name around)
  | some version =>
      obtain rfl := hsame version hget
      rw [hascending.put_of_get? hget]
      rfl

theorem foldlM_declareAt? (locals : List String) {t : Table Version} {isTransparent : Bool}
    (hascending : t.IsAscending)
    (hsame : ∀ name version, t.get? name = some version → version = newVersion name around) :
    locals.foldlM (declareAt? around.length) (around.reverse ++ [⟨t, isTransparent⟩]) =
      some (around.reverse ++
        [⟨locals.foldl (fun t name => t.put name (newVersion name around)) t, isTransparent⟩]) := by
  induction locals generalizing t with
  | nil => rfl
  | cons name locals ih =>
      rw [List.foldlM_cons, declareAt?_level hascending (hsame name)]
      refine ih (hascending.put name _) fun name' version hget => ?_
      by_cases hname : name' = name
      · subst hname
        rw [Table.get?_put_self] at hget
        exact (Option.some.inj hget).symm
      · rw [Table.get?_put_of_ne t hname] at hget
        exact hsame name' version hget

/-- **A scope is opened, and its local symbols declared, by valid levels.** -/
theorem pushAt?_eq (s : Scopes) (locals : List String) :
    s.pushAt? locals = some (s.push locals) := by
  have htop : (s.stack ++ [({ isTransparent := !locals.isEmpty } : Scope)]).length.ppred =
      some s.frames.length := by simp [stack]
  have hdeclared := @foldlM_declareAt? s.frames locals {} (!locals.isEmpty) List.Pairwise.nil nofun
  rw [pushAt?, htop]
  change (locals.foldlM (declareAt? s.frames.length) (s.stack ++ _)).bind _ = _
  rw [stack, hdeclared]
  simp [ofStack, push, scopeWith]

end Scopes

end Reduct
