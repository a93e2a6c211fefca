/-!
# Tables

A finite table from names to values, kept in ascending order of the names. A look-up returns
what was put in last (`get?_put_self`), and putting one name in leaves the others alone
(`get?_put_of_ne`).
-/

namespace Reduct

/-- A table from names to values: pairs in ascending order of the names. -/
structure Table (α : Type) where
  entries : List (String × α) := []

namespace Table

variable {α β : Type}

/-- Puts a pair where its name belongs, in the place of the pair that has the name already. -/
def putEntry (key : String) (value : α) : List (String × α) → List (String × α)
  | [] => [(key, value)]
  | entry :: rest =>
    if key = entry.1 then (key, value) :: rest
    else if key < entry.1 then (key, value) :: entry :: rest
    else entry :: putEntry key value rest

/-- The table with `value` under the name `key`. -/
def put (t : Table α) (key : String) (value : α) : Table α := ⟨putEntry key value t.entries⟩

/-- The table with all the pairs put in, one after the other. -/
def ofList (pairs : List (String × α)) : Table α :=
  pairs.foldl (fun table pair => table.put pair.1 pair.2) {}

/-- The value under a name. -/
def get? (t : Table α) (key : String) : Option α := t.entries.lookup key

/-- Is there a value under the name? -/
def contains (t : Table α) (key : String) : Bool := (t.get? key).isSome

/-- The table without the name. -/
def erase (t : Table α) (key : String) : Table α :=
  ⟨t.entries.filter fun entry => entry.1 != key⟩

/-- The names, in ascending order. -/
def keys (t : Table α) : List String := t.entries.map Prod.fst

/-- The values, in ascending order of their names. -/
def values (t : Table α) : List α := t.entries.map Prod.snd

/-- The table of all the names of `t` and `u`; where both have one, `u` has the say. -/
def merge (t u : Table α) : Table α :=
  u.entries.foldl (fun table pair => table.put pair.1 pair.2) t

/-- The table with every value changed by `f`. -/
def map (f : α → β) (t : Table α) : Table β := ⟨t.entries.map fun entry => (entry.1, f entry.2)⟩

theorem lookup_putEntry_self (key : String) (value : α) (entries : List (String × α)) :
    (putEntry key value entries).lookup key = some value := by
  induction entries with
  | nil => simp [putEntry]
  | cons entry rest ih =>
    rw [putEntry]
    split
    · simp
    · next h =>
      have hne : (key == entry.1) = false := beq_false_of_ne h
      split
      · simp
      · rw [List.lookup_cons, hne, ih]

theorem lookup_putEntry_of_ne {key other : String} (h : other ≠ key) (value : α)
    (entries : List (String × α)) :
    (putEntry key value entries).lookup other = entries.lookup other := by
  have hne : (other == key) = false := beq_false_of_ne h
  induction entries with
  | nil => rw [putEntry, List.lookup_cons, hne]
  | cons entry rest ih =>
    rw [putEntry]
    split
    · next he =>
      rw [he] at hne
      rw [List.lookup_cons, List.lookup_cons, he, hne]
    · split
      · rw [List.lookup_cons, hne]
      · rw [List.lookup_cons, ih, List.lookup_cons]

@[simp] theorem get?_put_self (t : Table α) (key : String) (value : α) :
    (t.put key value).get? key = some value :=
  lookup_putEntry_self key value t.entries

theorem get?_put_of_ne (t : Table α) {key other : String} (h : other ≠ key) (value : α) :
    (t.put key value).get? other = t.get? other :=
  lookup_putEntry_of_ne h value t.entries

theorem mem_of_get? {t : Table α} {key : String} {value : α} (h : t.get? key = some value) :
    (key, value) ∈ t.entries := by
  obtain ⟨before, after, hentries, -⟩ := List.lookup_eq_some_iff.mp h
  rw [hentries]
  simp

/-- A table made of a list of pairs has no others. -/
theorem mem_of_get?_ofList {pairs : List (String × α)} {key : String} {value : α}
    (h : (ofList pairs).get? key = some value) : (key, value) ∈ pairs := by
  suffices ∀ t : Table α,
      (pairs.foldl (fun table pair => table.put pair.1 pair.2) t).get? key = some value →
        (key, value) ∈ pairs ∨ t.get? key = some value by
    simpa [get?] using this {} h
  clear h
  induction pairs with
  | nil => exact fun t ht => .inr ht
  | cons pair pairs ih =>
    intro t ht
    obtain hmem | hget := ih (t.put pair.1 pair.2) ht
    · exact .inl (.tail _ hmem)
    · by_cases hkey : key = pair.1
      · subst hkey
        rw [get?_put_self] at hget
        obtain rfl := Option.some.inj hget
        exact .inl (.head _)
      · rw [get?_put_of_ne t hkey] at hget
        exact .inr hget

/-- A table made of a list of pairs has the value that a name has there, if it is the only one. -/
theorem get?_ofList_of_unique {pairs : List (String × α)} {key : String} {value : α}
    (hmem : (key, value) ∈ pairs) (hunique : ∀ pair ∈ pairs, pair.1 = key → pair.2 = value) :
    (ofList pairs).get? key = some value := by
  suffices ∀ t : Table α, (key, value) ∈ pairs ∨ t.get? key = some value →
      (pairs.foldl (fun table pair => table.put pair.1 pair.2) t).get? key = some value from
    this {} (.inl hmem)
  clear hmem
  induction pairs with
  | nil => exact fun t ht => ht.resolve_left List.not_mem_nil
  | cons pair pairs ih =>
    intro t ht
    refine ih (fun other h => hunique other (.tail _ h)) (t.put pair.1 pair.2) ?_
    by_cases hkey : pair.1 = key
    · rw [hkey, hunique pair (.head _) hkey, get?_put_self]
      exact .inr rfl
    · rw [get?_put_of_ne t (Ne.symm hkey)]
      refine ht.imp_left fun h => ?_
      obtain rfl | h := List.mem_cons.mp h
      · exact absurd rfl hkey
      · exact h

/-! ## The names in a table -/

theorem mem_keys_put {t : Table α} {key name : String} {value : α} :
    name ∈ (t.put key value).keys ↔ name = key ∨ name ∈ t.keys := by
  obtain ⟨entries⟩ := t
  simp only [put, keys]
  induction entries with
  | nil => simp [putEntry]
  | cons entry rest ih =>
    rw [putEntry]
    split
    · next h => simp [h]
    · split
      · simp
      · simp only [List.map_cons, List.mem_cons, ih]
        exact or_left_comm

theorem mem_keys_merge {t u : Table α} {name : String} :
    name ∈ (t.merge u).keys ↔ name ∈ t.keys ∨ name ∈ u.keys := by
  obtain ⟨entries⟩ := u
  simp only [merge, keys]
  induction entries generalizing t with
  | nil => simp
  | cons entry rest ih =>
    rw [List.foldl_cons, ih, List.map_cons, List.mem_cons, ← keys, mem_keys_put, or_assoc]
    exact or_left_comm

@[simp] theorem keys_map (f : α → β) (t : Table α) : (t.map f).keys = t.keys := by
  simp [map, keys]

theorem mem_keys_of_isSome {t : Table α} {name : String} (h : (t.get? name).isSome) :
    name ∈ t.keys := by
  obtain ⟨entries⟩ := t
  simp only [get?, keys] at h ⊢
  induction entries with
  | nil => simp at h
  | cons entry rest ih =>
    rw [List.lookup_cons] at h
    cases hname : name == entry.1 with
    | true => simp [beq_iff_eq.mp hname]
    | false =>
      rw [hname] at h
      exact List.mem_cons_of_mem entry.1 (ih h)

end Table

end Reduct
