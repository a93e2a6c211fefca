import Reduct.Proofs.Evaluation.Accesses
import Reduct.Proofs.Operation.Arguments
import Reduct.Proofs.Operation.Bytes
import Reduct.Proofs.Scope.Levels
import Reduct.Proofs.Session.Inputs
import Reduct.Proofs.Token.Bytes

/-!
# Nothing is out of range

Wherever an argument, a list item or a scope is read by its place, a text is sliced by bytes, or a
number is counted down, the place has been secured before, and often somewhere else: by the least
number of arguments an operation is registered with, by lengths compared earlier, by the shape of
the tokens, by the root that is never closed. Each of these places has a checked version that fails
where the place is out of range, and none of them fails, in any session (`Session.accesses_valid`).
-/

namespace Reduct

/-! ### Errors in context -/

namespace Text

/-- Line and column are counted from one. -/
def Position.IsCounted (p : Position) : Prop := 0 < p.line ∧ 0 < p.column

theorem Position.IsCounted.after {p : Position} (hp : p.IsCounted) (c : Char) :
    (p.after c).IsCounted := by
  rw [Position.after]
  split
  · exact ⟨Nat.succ_pos _, Nat.succ_pos _⟩
  · exact ⟨hp.1, Nat.succ_pos _⟩

theorem Position.IsCounted.advance {p : Position} (hp : p.IsCounted) (offset : Nat)
    (cs : List Char) : (p.advance offset cs).IsCounted := by
  induction cs generalizing p offset with
  | nil => exact hp
  | cons c cs ih =>
      rw [Position.advance]
      split
      · exact hp
      · exact ih (hp.after c) _

theorem isCounted_position (source : String) (offset : Nat) :
    (position source offset).IsCounted :=
  Position.IsCounted.advance ⟨Nat.one_pos, Nat.one_pos⟩ offset source.toList

end Text

/-- An error with its source line, with the line and the column counted down checked. -/
def SyntaxError.inContext? (error : SyntaxError) (source : String) : Option String :=
  match error.offset? with
  | none => some ("Syntax error: " ++ error.message)
  | some offset => do
    let place := Text.position source offset
    let above ← place.line.ppred
    let before ← place.column.ppred
    let line := String.ofList ((Text.lines source.toList).getD above [])
    return "Error at line " ++ toString place.line ++ ", column " ++ toString place.column ++
      ": " ++ error.message ++ "\n  " ++ line ++ "\n  " ++ blanks before ++ "^"

theorem SyntaxError.inContext?_eq (error : SyntaxError) (source : String) :
    error.inContext? source = some (error.inContext source) := by
  rw [inContext?, inContext]
  cases error.offset? with
  | none => rfl
  | some offset =>
      obtain ⟨hline, hcolumn⟩ := Text.isCounted_position source offset
      obtain ⟨above, habove⟩ := Nat.exists_eq_succ_of_ne_zero (Nat.ne_of_gt hline)
      obtain ⟨before, hbefore⟩ := Nat.exists_eq_succ_of_ne_zero (Nat.ne_of_gt hcolumn)
      dsimp only
      rw [habove, hbefore]
      rfl

/-! ### Scopes -/

namespace Scopes

/-- Whatever is done with the scopes goes by valid levels. -/
structure LevelsValid (s : Scopes) : Prop where
  lookup (name : String) : s.lookupAt? name = some (nearest? name s.frames)
  modify (name : String) (change : Version → Version) :
    s.modifyAt? name change = some (s.modify name change)
  push (locals : List String) : s.pushAt? locals = some (s.push locals)

theorem Reachable.levelsValid {s : Scopes} (hs : s.Reachable) : s.LevelsValid where
  lookup := lookupAt?_eq s
  modify := modifyAt?_eq hs.frames_ne_nil
  push := pushAt?_eq s

theorem reachable_initial : Reachable .initial :=
  List.foldlRecOn initialAttributes _ .root fun _ hs entry _ =>
    .step (.write (.setAttributes entry.1 [.sym entry.2])) hs

end Scopes

/-! ### Sessions -/

namespace Session

open Operation.Strings (piecesFrom? pieces)
open Operation.Search (IsBetweenChars entryBetween? byteRange entry)
open Operation.Arithmetic (Operand reduceRunFrom? reduceRun)

/-- An input makes a session take elementary steps. -/
theorem reaches_feed {s : Session} (hev : s.evaluator.IsStepwise) (input : Input) :
    s.machine.Reaches (s.feed input).machine := by
  cases input with
  | text source isEchoed =>
      exact ((Stepwise.evaluateText source isEchoed).keeps Machine.frame_reaches
        (Evaluator.reaches_evaluate hev) s.machine).1
  | expr e => exact (Evaluator.reaches_evaluate hev e s.machine).1

theorem reaches_feedAll {s : Session} (hev : s.evaluator.IsStepwise) (inputs : List Input) :
    s.machine.Reaches (s.feedAll inputs).machine := by
  induction inputs generalizing s with
  | nil => exact .refl
  | cons input inputs ih =>
      rw [feedAll, List.foldl_cons]
      exact (reaches_feed hev input).trans (ih (evaluator_feed s input ▸ hev))

/-- **Nothing is out of range.** A session goes through its inputs by elementary steps, and so does
an operation called on its own. In every state they reach, the scopes are read and written by valid
levels. An operation is turned down before it runs, or finds all the arguments it reads. Every item
that threading takes is there; every slice that is taken in scanning a text, in unescaping a
literal, in splitting and in searching lies between characters inside the text, and the one in
taking remainders inside the arguments; and no line, column or depth is counted down from zero. Of
what searches a text it is enough that it tells of bytes between characters, and the search here
does. -/
theorem accesses_valid (config : Config) (groups : List Group) (attention : Option Level)
    (sharing : Nat → Sharing) (inputs : List Input) :
    let first := (start config groups attention sharing).machine
    let s := after config groups attention inputs sharing
    first.Reaches s.machine ∧
    (∀ m, first.Reaches m → m.scopes.LevelsValid ∧ ∀ call name,
      m.Reaches ((s.evaluator.dispatch s.evaluator.evaluate call name).run m).2) ∧
    (∀ name operation, s.evaluator.operations.get? name = some operation → ∀ evaluate call m,
      (call.args.length < operation.minArgs ∧ (s.evaluator.dispatch evaluate call name).run m =
        (some (call.abort Failure.insufficientArguments.message), m)) ∨
      HasArguments ((operation.run evaluate call.args).run m).1) ∧
    (∀ head args, Expr.thread? head args = some (Expr.thread head args)) ∧
    (∀ operators source,
      Token.tokenizeBytes? operators source = some (Token.tokenize operators source) ∧
      ∀ ts, Token.tokenize operators source = .ok ts → ∀ t ∈ ts, t.kind = .string →
        Text.unquote? t.text = some (Text.unquote t.text)) ∧
    (∀ separators text, piecesFrom? separators text (text.length + 1) 0 0 =
      some (pieces separators [] text)) ∧
    (∀ (find? : String → Option (Nat × Nat)) (text : String),
      (∀ range ∈ find? text, IsBetweenChars text.toList range) →
        (entryBetween? text.toList (find? text)).isSome) ∧
    (∀ (regex : Regex) (text : String),
      entryBetween? text.toList ((regex.find? text).map (byteRange text.toList)) =
        some (entry (regex.find? text))) ∧
    (∀ (operands : List (Operand Float Expr)) (value : Float),
      reduceRunFrom? remainder operands (operands.length + 1) 0 value =
        some (reduceRun remainder value operands)) ∧
    ∀ (error : SyntaxError) (source : String),
      error.inContext? source = some (error.inContext source) := by
  intro first s
  have hreaches : first.Reaches s.machine :=
    reaches_feedAll (Evaluator.isStepwise_ofGroups config.limits groups) inputs
  have hevaluator : s.evaluator = ⟨config.limits, .ofGroups groups⟩ := evaluator_after ..
  clear_value s
  rw [hevaluator]
  have hev := Evaluator.isStepwise_ofGroups config.limits groups
  have hcovered := Evaluator.isCovered_ofGroups config.limits groups
  exact ⟨hreaches,
    fun m hm => ⟨(hm.reachable Scopes.reachable_initial).levelsValid, fun call name =>
      ((Evaluator.stepwise_dispatch hev call name).keeps Machine.frame_reaches
        (Evaluator.reaches_evaluate hev) m).1⟩,
    fun name operation hget => Evaluator.dispatch_covered hcovered hget,
    Expr.thread?_eq,
    fun operators source => ⟨Token.tokenizeBytes?_eq operators source,
      fun ts hts t => Token.unquote?_of_tokenize hts⟩,
    Operation.Strings.piecesFrom?_zero,
    fun _ _ hrange => Operation.Search.isSome_entryBetween? hrange,
    Operation.Search.entryBetween?_find?, Operation.Arithmetic.reduceRunFrom?_zero remainder,
    SyntaxError.inContext?_eq⟩

/-- A scope with a symbol declared twice, a search in a text, a literal that has a character of two
bytes and a quote in it, and bytes that a search finds behind that character. -/
theorem accesses_valid_literal :
    let first := (start {} [.string] none).machine
    let m := ((EvalM.openScope ["x", "x"]).run first).2
    let literal := "\"\u00e9\\\"\""
    first.Reaches m ∧ m.scopes.LevelsValid ∧
    (∃ operation, (Operations.ofGroups [.string]).get? "Match" = some operation ∧
      ∀ evaluate, HasArguments ((operation.run evaluate [.string "ab", .string "b"]).run m).1) ∧
    Token.tokenize [] literal = .ok [⟨.string, literal, 0⟩] ∧
    Text.unquote? literal = some "\u00e9\"" ∧
    (entryBetween? "\u00e9!".toList (some (2, 3))).isSome := by
  intro first m literal
  have hm : first.Reaches m := .single (.openScope ["x", "x"])
  have htokens : Token.tokenize [] literal = .ok [⟨.string, literal, 0⟩] := by cbv
  have hunquote : Text.unquote literal = "\u00e9\"" := by cbv
  obtain ⟨operation, hget, hleast⟩ : ∃ operation,
      (Operations.ofGroups [.string]).get? "Match" = some operation ∧ operation.minArgs = 2 :=
    Option.map_eq_some_iff.mp (by decide +kernel)
  obtain ⟨-, hstates, harguments, -, htexts, -, hsearch, -⟩ :=
    accesses_valid {} [.string] none (fun _ => .never) []
  rw [evaluator_after] at harguments
  refine ⟨hm, (hstates m hm).1, ⟨operation, hget, fun evaluate => ?_⟩, htokens, ?_, ?_⟩
  · refine (harguments "Match" operation hget evaluate
      (.call "Match" [.string "ab", .string "b"]) m).resolve_left fun hfew => ?_
    rw [hleast] at hfew
    exact absurd hfew.1 (by decide)
  · rw [← hunquote]
    exact (htexts [] literal).2 _ htokens _ (List.mem_singleton_self _) rfl
  · refine hsearch (fun _ => some (2, 3)) "\u00e9!" fun range hrange => ?_
    obtain rfl := Option.some.inj hrange
    exact ⟨['\u00e9'], ['!'], [], by decide, by decide⟩

end Session

end Reduct
