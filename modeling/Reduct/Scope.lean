import Reduct.Rule.Set
import Reduct.Table

/-!
# Scopes

What a symbol means is kept in *versions*: rules and attributes. Each scope holds the versions
of the symbols declared in it, and a version knows the level of the scope with the version it
shadows. Looking a symbol up starts from the innermost scope that has a version of it and
follows these links outward.

A scope that declares local symbols is transparent: a write to any other symbol goes to the
scope around it. A scope without local symbols, and the root, keep what is written in them.
-/

namespace Reduct

/-- One version of the definitions of a symbol. -/
structure Version where
  rules : RuleSet := {}
  /-- The attributes, under the names they are known by. -/
  attributes : Table Expr := {}
  /-- The level of the scope with the version that this one shadows; the root has level zero. -/
  outer : Option Nat := none

/-- A scope: the versions in it, and whether writes to other symbols pass through. -/
structure Scope where
  versions : Table Version := {}
  isTransparent : Bool := false

/-- The scopes that are open, the innermost first and the root last. -/
structure Scopes where
  frames : List Scope := [{}]

namespace Scopes

/-! ## Looking up -/

/-- How many scopes are open, the root among them. -/
def depth (s : Scopes) : Nat := s.frames.length

/-- The level of the innermost scope with a version of the symbol. -/
def nearest? (name : String) : List Scope → Option Nat
  | [] => none
  | scope :: around =>
    if scope.versions.contains name then some around.length else nearest? name around

/-- The version of a symbol in the scope of a level. -/
def versionAt? (name : String) (level : Nat) : List Scope → Option Version
  | [] => none
  | scope :: around =>
    if around.length = level then scope.versions.get? name else versionAt? name level around

/-- The version of a symbol at a level, and the versions it shadows, newest first. -/
def chainFrom (s : Scopes) (name : String) (level : Nat) : List Version :=
  match versionAt? name level s.frames with
  | none => []
  | some version =>
    match version.outer with
    | none => [version]
    | some outer =>
      -- A version shadows one of a scope further out.
      if outer < level then version :: s.chainFrom name outer else [version]
termination_by level

/-- The visible versions of a symbol, newest first. -/
def chain (s : Scopes) (name : String) : List Version :=
  match nearest? name s.frames with
  | none => []
  | some level => s.chainFrom name level

/-- The newest visible version of a symbol. -/
def version? (s : Scopes) (name : String) : Option Version :=
  match nearest? name s.frames with
  | none => none
  | some level => versionAt? name level s.frames

/-- What the rules of the owning symbol make of an expression: those of the newest version
first. -/
def resolve? (s : Scopes) (e : Expr) (sharing : Sharing := .never) : Option Expr :=
  match e.owner? with
  | none => none
  | some name => (s.chain name).findSome? fun version => version.rules.resolve? e sharing

/-- An attribute of a symbol, by the name it is known by. -/
def attribute? (s : Scopes) (name key : String) : Option Expr :=
  (s.version? name).bind fun version => version.attributes.get? key

/-- The attributes of a symbol, in the order of the names they are known by. -/
def attributes (s : Scopes) (name : String) : List Expr :=
  match s.version? name with
  | none => []
  | some version => version.attributes.values

/-- The newest visible versions of all symbols. -/
def visible (s : Scopes) : Table Version :=
  s.frames.foldr (fun scope around => around.merge scope.versions) {}

/-- The symbols that have the attribute now, in order, each with the attribute. -/
def withAttribute (s : Scopes) (key : String) : List (String × Expr) :=
  s.visible.entries.filterMap fun entry =>
    (entry.2.attributes.get? key).map fun found => (entry.1, found)

/-! ## Opening and closing -/

/-- A version without rules for a symbol whose other versions lie in the given scopes. It
takes over the attributes of the version it shadows. -/
def newVersion (name : String) (around : List Scope) : Version :=
  match nearest? name around with
  | none => {}
  | some level =>
    match versionAt? name level around with
    | none => {}
    | some shadowed => { attributes := shadowed.attributes, outer := some level }

/-- A scope that declares local symbols, to be opened inside the given scopes. -/
def scopeWith (around : List Scope) (locals : List String) : Scope where
  versions := locals.foldl (fun versions name => versions.put name (newVersion name around)) {}
  isTransparent := !locals.isEmpty

/-- Opens a scope that declares local symbols. -/
def push (s : Scopes) (locals : List String) : Scopes :=
  ⟨scopeWith s.frames locals :: s.frames⟩

/-- Closes the innermost scope. The root is never closed. -/
def pop? (s : Scopes) : Option Scopes :=
  match s.frames with
  | _ :: around :: others => some ⟨around :: others⟩
  | _ => none

/-! ## Writing -/

/-- The version that a write to the symbol finds: the one in the scope that the write goes to,
or a new one there. -/
def found (name : String) : List Scope → Version
  | [] => {}
  | scope :: around =>
    match scope.versions.get? name with
    | some version => version
    | none =>
      if scope.isTransparent && !around.isEmpty then found name around
      else newVersion name around

/-- Changes the version that a write to the symbol goes to. -/
def write (name : String) (change : Version → Version) : List Scope → List Scope
  | [] => []
  | scope :: around =>
    let keep (version : Version) : List Scope :=
      { scope with versions := scope.versions.put name (change version) } :: around
    match scope.versions.get? name with
    | some version => keep version
    | none =>
      if scope.isTransparent && !around.isEmpty then scope :: write name change around
      else keep (newVersion name around)

/-- Changes the version that a write to the symbol goes to. -/
def modify (s : Scopes) (name : String) (change : Version → Version) : Scopes :=
  ⟨write name change s.frames⟩

/-- Declares a rule for the symbol that owns its pattern; `none` if no symbol does. -/
def setRule? (s : Scopes) (rule : Rule) : Option Scopes :=
  rule.pattern.owner?.map fun name =>
    s.modify name fun version => { version with rules := version.rules.insert rule }

/-- Withdraws the rule for a pattern, and tells whether there was one; `none` if no symbol owns
the pattern. -/
def clearRule? (s : Scopes) (pattern : Expr) : Option (Bool × Scopes) :=
  pattern.owner?.map fun name =>
    ((found name s.frames).rules.contains pattern,
      s.modify name fun version => { version with rules := version.rules.remove pattern })

/-- Gives a symbol attributes. Each is known by the symbol it is or applies; what is neither is
left out. -/
def setAttributes (s : Scopes) (name : String) (attributes : List Expr) : Scopes :=
  s.modify name fun version =>
    { version with
      attributes := attributes.foldl (fun table e =>
        match e.owner? with
        | some key => table.put key e
        | none => table) version.attributes }

/-- Takes attributes away from a symbol: those of the given names, or all if none is given. -/
def clearAttributes (s : Scopes) (name : String) (keys : List String) : Scopes :=
  s.modify name fun version =>
    { version with
      attributes := if keys.isEmpty then {} else keys.foldl Table.erase version.attributes }

end Scopes

end Reduct
