import Reduct.Proofs.Evaluation.Discipline
import Reduct.Proofs.Operation.Kept

/-!
# The operations keep to a discipline

From arguments with the properties of a discipline, and evaluations that keep to it, the operations
lead to a result with the properties (`Operation.KeepsTo`). Those that write to the definitions
write what they were given, those that read from them give what is there, and the one that draws a
number gives copies with that number.
-/

namespace Reduct

open EvalM (Gives gives_scopes gives_rewriting gives_write gives_report gives_setRule
  gives_clearRule gives_setTracing gives_inScope)

variable {α : Type} {D : Discipline} {c c' : Nat} {e : Expr} {args : List Expr}

/-! ### Results -/

namespace Discipline

/-- The property holds of the result of an operation, if it has one. -/
def result (D : Discipline) (c : Nat) (result : Except Failure Expr) : Prop :=
  ∀ e, result = .ok e → D.expr c e

theorem result_ok (h : D.expr c e) : D.result c (.ok e) := fun _ heq => Except.ok.inj heq ▸ h

theorem result_error (failure : Failure) : D.result c (.error failure) := fun _ heq => by cases heq

/-- A symbol that evaluation uses. -/
theorem word (D : Discipline) (c : Nat) (name : String) (h : '$' ∉ name.toList) :
    D.expr c (.sym name) :=
  (D.kept c).word name h

end Discipline

/-- From arguments with the properties, and evaluations that keep to them, the operation leads to a
result with the properties. -/
def Operation.KeepsTo (D : Discipline) (operation : Operation) : Prop :=
  ∀ (c : Nat) (evaluate : Expr → EvalM Expr) (args : List Expr),
    (∀ (c' : Nat) (e : Expr), D.expr c' e → (evaluate e).Gives D c' D.expr) →
      (∀ a ∈ args, D.expr c a) → (operation.run evaluate args).Gives D c D.result

namespace Operation

open Discipline (result_ok result_error)

theorem keepsTo_ofFunction {minArgs : Nat} {f : List Expr → Except Failure Expr}
    (hf : ∀ c, Keeps (D.expr c) f) : (ofFunction minArgs f).KeepsTo D :=
  fun _ _ args _ hargs => .pure fun c' hc _ he => hf c' args (D.expr_all_mono hc hargs) _ he

theorem keepsTo_ofRewriting {minArgs : Nat} {f : Sharing → List Expr → Except Failure Expr}
    (heq : ∀ c s s' args, D.told s s' → (∀ a ∈ args, D.expr c a) → f s args = f s' args)
    (hf : ∀ s c, Keeps (D.expr c) (f s)) : (ofRewriting minArgs f).KeepsTo D :=
  fun c _ args _ hargs => gives_rewriting _ (fun s s' htold => heq c s s' args htold hargs)
    fun s c' hc _ he => hf s c' args (D.expr_all_mono hc hargs) _ he

namespace Definition

theorem gives_assign (hargs : ∀ a ∈ args, D.expr c a) : (assign args).Gives D c D.result := by
  unfold assign
  split
  next pattern value _ =>
    rw [List.forall_mem_cons, List.forall_mem_cons] at hargs
    refine .bind (gives_setRule ⟨hargs.1, hargs.2.1⟩) fun c' hc result _ => ?_
    split
    · exact .pure fun c'' hc' => result_ok (D.expr_mono (Nat.le_trans hc hc') hargs.2.1)
    · exact .pure fun _ _ => result_error _
  next => exact .pure fun _ _ => result_error _

theorem result_done (result : Except Failure α) : D.result c (done result) := by
  cases result with
  | error failure => exact result_error failure
  | ok _ => exact result_ok (D.word c _ (by decide))

theorem gives_delay (hargs : ∀ a ∈ args, D.expr c a) : (delay args).Gives D c D.result := by
  unfold delay
  split
  next pattern value _ =>
    rw [List.forall_mem_cons, List.forall_mem_cons] at hargs
    exact .bind (gives_setRule ⟨hargs.1, hargs.2.1⟩) fun _ _ result _ =>
      .pure fun _ _ => result_done result
  next => exact .pure fun _ _ => result_error _

theorem gives_clear (hargs : ∀ a ∈ args, D.expr c a) : (clear args).Gives D c D.result := by
  unfold clear
  split
  next pattern _ =>
    exact .bind (gives_clearRule (hargs pattern (by simp))) fun _ _ result _ =>
      .pure fun _ _ => result_done result
  next => exact .pure fun _ _ => result_error _

theorem gives_setAttributes (hargs : ∀ a ∈ args, D.expr c a) :
    (setAttributes args).Gives D c D.result := by
  unfold setAttributes
  split
  next name held attributes =>
    rw [List.forall_mem_cons] at hargs
    exact .bind (gives_write (w := .setAttributes name attributes)
      ⟨(D.kept c).name hargs.1, hargs.2⟩) fun _ _ _ _ =>
      .pure fun c' _ => result_ok (D.word c' _ (by decide))
  next => exact .pure fun _ _ => result_error _
  next => exact .pure fun _ _ => result_error _

theorem gives_getAttributes : (getAttributes args).Gives D c D.result := by
  unfold getAttributes
  split
  next name held _ =>
    refine .bind gives_scopes fun c' _ s hs => .pure fun c'' hc' => result_ok ?_
    exact (D.kept c'').list fun e he => D.expr_mono hc' (hs.attributes name e he)
  next => exact .pure fun _ _ => result_error _
  next => exact .pure fun _ _ => result_error _

theorem gives_clearAttributes (hargs : ∀ a ∈ args, D.expr c a) :
    (clearAttributes args).Gives D c D.result := by
  unfold clearAttributes
  split
  next name held keys =>
    have hname : D.name c name := (D.kept c).name (hargs _ (List.mem_cons_self ..))
    exact .bind (gives_write (w := .clearAttributes name _) hname) fun _ _ _ _ =>
      .pure fun c' _ => result_ok (D.word c' _ (by decide))
  next => exact .pure fun _ _ => result_error _
  next => exact .pure fun _ _ => result_error _

theorem expr_ofVersion {version : Version} (h : version.Holds (D.name c) (D.expr c)) :
    D.expr c (ofVersion version) := by
  have hcall {name : String} (hname : '$' ∉ name.toList) {es : List Expr}
      (hes : ∀ e ∈ es, D.expr c e) : D.expr c (.call name es) :=
    (D.kept c).app (D.word c name hname) hes
  have hpatterns : D.expr c (.call "Patterns" (version.rules.rules.map fun rule =>
      .call "Entry" [rule.pattern, rule.value])) := by
    refine hcall (by decide) fun a ha => ?_
    obtain ⟨rule, hrule, rfl⟩ := List.mem_map.mp ha
    exact hcall (by decide) (by simpa using ⟨(h.rules rule hrule).pattern,
      (h.rules rule hrule).value⟩)
  have hattributes : D.expr c (.call "Attributes" version.attributes.values) := by
    refine hcall (by decide) fun a ha => ?_
    obtain ⟨entry, hentry, rfl⟩ := List.mem_map.mp ha
    exact (h.attributes entry hentry).2
  exact hcall (by decide) (by simpa using ⟨hpatterns, hattributes⟩)

theorem gives_describe (hargs : ∀ a ∈ args, D.expr c a) : (describe args).Gives D c D.result := by
  unfold describe
  split
  next name held _ =>
    have hsymbol {c' : Nat} (hc : c ≤ c') : D.expr c' (.symbol name held) :=
      D.expr_mono hc (hargs _ (by simp))
    refine .bind gives_scopes fun c' hc s hs => ?_
    split
    · exact .pure fun c'' hc' =>
        result_ok ((D.kept c'').abort (hsymbol (Nat.le_trans hc hc')) _)
    · refine .pure fun c'' hc' => result_ok ((D.kept c'').holdForm ?_)
      have hversions : D.expr c'' (.list ((s.chain name).map ofVersion)) := by
        refine (D.kept c'').list fun a ha => ?_
        obtain ⟨version, hversion, rfl⟩ := List.mem_map.mp ha
        exact D.expr_mono hc' (expr_ofVersion (hs.chain name version hversion))
      exact (D.kept c'').app (D.word c'' _ (by decide))
        (by simpa using ⟨hsymbol (Nat.le_trans hc hc'), hversions⟩)
  next => exact .pure fun _ _ => result_error _
  next => exact .pure fun _ _ => result_error _

theorem keepsTo : ∀ entry ∈ operations, entry.2.KeepsTo D := by
  intro entry h
  simp only [operations, List.mem_cons, List.not_mem_nil, or_false] at h
  rcases h with rfl | rfl | rfl | rfl | rfl | rfl | rfl
  · exact fun _ _ _ _ => gives_assign
  · exact fun _ _ _ _ => gives_delay
  · exact fun _ _ _ _ => gives_clear
  · exact fun _ _ _ _ => gives_setAttributes
  · exact fun _ _ _ _ _ => gives_getAttributes
  · exact fun _ _ _ _ => gives_clearAttributes
  · exact fun _ _ _ _ => gives_describe

end Definition

namespace Control

variable {evaluate : Expr → EvalM Expr}

section Evaluating

variable (hcall : ∀ (c' : Nat) (e : Expr), D.expr c' e → (evaluate e).Gives D c' D.expr)
include hcall

theorem gives_sequence {last : Expr} (hlast : D.expr c last) {body : List Expr}
    (hbody : ∀ e ∈ body, D.expr c e) : (sequence evaluate last body).Gives D c D.expr := by
  induction body generalizing c last with
  | nil => exact .pure fun _ hc => D.expr_mono hc hlast
  | cons e es ih =>
      rw [List.forall_mem_cons] at hbody
      refine .bind (hcall c e hbody.1) fun c' hc value hvalue => .ite (.pure fun _ hc' => ?_) ?_
      · exact D.expr_mono hc' hvalue
      · exact ih hvalue (D.expr_all_mono hc hbody.2)

theorem gives_seq (hargs : ∀ a ∈ args, D.expr c a) : (seq evaluate args).Gives D c D.result :=
  .bind (gives_sequence hcall (D.word c _ (by decide)) hargs) fun _ _ _ hvalue =>
    .pure fun _ hc => result_ok (D.expr_mono hc hvalue)

omit hcall in
theorem name_localSymbols {form : String} {locals : Expr} {names : List String}
    (h : D.expr c locals) (hnames : localSymbols form locals = .ok names) :
    ∀ name ∈ names, D.name c name := by
  cases locals with
  | number _ | string _ | symbol _ _ => simp [localSymbols] at hnames
  | apply head items held =>
      obtain rfl := Except.ok.inj hnames
      intro name hname
      obtain ⟨item, hitem, hsymbol⟩ := List.mem_filterMap.mp hname
      exact (D.kept c).of_symbol? ((D.kept c).arg h hitem) hsymbol

theorem gives_block (hargs : ∀ a ∈ args, D.expr c a) :
    (block evaluate args).Gives D c D.result := by
  unfold block
  split
  next locals body =>
    rw [List.forall_mem_cons] at hargs
    split
    next => exact .pure fun _ _ => result_error _
    next names hnames =>
      exact .bind (gives_inScope (name_localSymbols hargs.1 hnames)
        (gives_sequence hcall (D.word c _ (by decide)) hargs.2)) fun _ _ _ hvalue =>
          .pure fun _ hc => result_ok (D.expr_mono hc hvalue)
  next => exact .pure fun _ _ => result_error _

end Evaluating

theorem run_localize {locals : Expr} {names : List String}
    (h : localSymbols "Module" locals = .ok names) (body : List Expr) (m : Machine) :
    let n := m.lastFresh + 1
    let value := Expr.call "Seq" (body.map (Expr.replaceAll (Expr.copyRules names n)))
    (localize (locals :: body)).run m = (.ok value,
      { m with
        lastFresh := n, renamings := ⟨locals :: body, m.scopes, n, value⟩ :: m.renamings }) := by
  rw [localize, h]
  rfl

/-- **Local symbols are given names with the next number.** -/
theorem gives_localize (hargs : ∀ a ∈ args, D.expr c a) : (localize args).Gives D c D.result := by
  match args with
  | [] => exact .pure fun _ _ => result_error _
  | locals :: body =>
      cases hnames : localSymbols "Module" locals with
      | error failure =>
          rw [localize, hnames]
          exact .pure fun _ _ => result_error _
      | ok names =>
          intro m m' hm hc
          have hold : ∀ a ∈ locals :: body, D.expr m.lastFresh a := D.expr_all_mono hc hargs
          have hnext : m.lastFresh ≤ m.lastFresh + 1 := Nat.le_succ _
          rw [run_localize hnames, run_localize hnames, ← hm.lastFresh_eq, ← hm.scopes_eq]
          refine ⟨rfl, ⟨rfl, hm.depth_eq, rfl, hm.told, D.scopes_mono hnext hm.scopes,
            D.renamings_cons hm.renamings hold hm.scopes hnames⟩, hnext, result_ok ?_⟩
          -- The rules hold the local symbols and their copies.
          refine (D.kept _).app (D.word _ _ (by decide)) fun a ha => ?_
          obtain ⟨e, he, rfl⟩ := List.mem_map.mp ha
          refine (D.kept _).replaceAll (fun rule hrule => ?_)
            (D.expr_mono hnext (hold e (List.mem_cons_of_mem _ he)))
          obtain ⟨name, hname, rfl⟩ := List.mem_map.mp hrule
          have hlocal := name_localSymbols (hold locals (List.mem_cons_self ..)) hnames name hname
          exact ⟨(D.kept _).sym (D.name_mono hnext hlocal),
            (D.kept _).sym (D.name_freshName name _)⟩

theorem gives_log : (log args).Gives D c D.result := by
  unfold log
  split
  · split
    next on _ =>
      exact .bind (gives_setTracing on) fun _ _ _ _ =>
        .pure fun c' _ => result_ok (D.word c' _ (by decide))
    next => exact .pure fun _ _ => result_error _
  · exact .pure fun _ _ => result_error _

theorem keepsTo : ∀ entry ∈ operations, entry.2.KeepsTo D := by
  intro entry h
  simp only [operations, List.mem_cons, List.not_mem_nil, or_false] at h
  rcases h with rfl | rfl | rfl | rfl
  · exact fun _ _ _ hcall => gives_seq hcall
  · exact fun _ _ _ hcall => gives_block hcall
  · exact fun _ _ _ _ => gives_localize
  · exact fun _ _ _ _ _ => gives_log

end Control

namespace Output

theorem gives_echo (hargs : ∀ a ∈ args, D.expr c a) : (echo args).Gives D c D.result := by
  match args with
  | [] => exact .pure fun _ _ => result_error _
  | e :: _ =>
      exact .bind (gives_report _) fun c' hc _ _ => .pure fun c'' hc' =>
        result_ok (D.expr_mono (Nat.le_trans hc hc') (hargs e (by simp)))

theorem gives_print : (print args).Gives D c D.result :=
  .bind (.forM _ (fun _ _ => gives_report _) args) fun _ _ _ _ =>
    .pure fun c' _ => result_ok (D.word c' _ (by decide))

theorem keepsTo : ∀ entry ∈ operations, entry.2.KeepsTo D := by
  intro entry h
  simp only [operations, List.mem_cons, List.not_mem_nil, or_false] at h
  rcases h with rfl | rfl
  · exact fun _ _ _ _ => gives_echo
  · exact fun _ _ _ _ _ => gives_print

end Output

/-! ### The groups of operations -/

namespace Arithmetic

theorem keepsTo : ∀ entry ∈ operations, entry.2.KeepsTo D := by
  intro entry h
  simp only [operations, List.mem_cons, List.not_mem_nil, or_false] at h
  rcases h with rfl | rfl | rfl | rfl | rfl | rfl
  · exact keepsTo_ofFunction fun c => keeps_sum (D.kept c)
  · exact keepsTo_ofFunction fun c => keeps_product (D.kept c)
  · exact keepsTo_ofFunction fun c => keeps_difference (D.kept c)
  · exact keepsTo_ofFunction fun c => keeps_quotient (D.kept c)
  · exact keepsTo_ofFunction fun c => keeps_modulus (D.kept c)
  · exact keepsTo_ofFunction fun c => keeps_power (D.kept c)

end Arithmetic

namespace Logic

theorem keepsTo_deciding {name : String} (h : '$' ∉ name.toList)
    (decide? : Expr → Expr → Option Bool) : (ofFunction 2 (deciding name decide?)).KeepsTo D :=
  keepsTo_ofFunction fun c => keeps_deciding (D.kept c) ((D.kept c).plain _ h) decide?

theorem keepsTo : ∀ entry ∈ operations, entry.2.KeepsTo D := by
  intro entry h
  simp only [operations, List.mem_cons, List.not_mem_nil, or_false] at h
  rcases h with rfl | rfl | rfl | rfl | rfl | rfl | rfl | rfl | rfl | rfl
  · exact keepsTo_ofFunction fun c => keeps_not (D.kept c)
  · exact keepsTo_ofFunction fun c => keeps_and (D.kept c)
  · exact keepsTo_ofFunction fun c => keeps_or (D.kept c)
  · exact keepsTo_ofFunction fun c => keeps_xor (D.kept c)
  all_goals exact keepsTo_deciding (by decide) _

end Logic

namespace Parts

theorem keepsTo : ∀ entry ∈ operations, entry.2.KeepsTo D := by
  intro entry h
  simp only [operations, List.mem_cons, List.not_mem_nil, or_false] at h
  rcases h with rfl | rfl | rfl | rfl | rfl | rfl | rfl
  · exact keepsTo_ofFunction fun c => keeps_append (D.kept c)
  · exact keepsTo_ofFunction fun c => keeps_prepend (D.kept c)
  · refine keepsTo_ofFunction fun c => keeps_onParts (D.kept c) fun {_ args} _ hargs => ?_
    cases args with
    | nil => exact D.word c _ (by decide)
    | cons a args => exact hargs a (List.mem_cons_self ..)
  · exact keepsTo_ofFunction fun c => keeps_onParts (D.kept c) fun hhead hargs =>
      (D.kept c).app hhead fun a ha => hargs a (List.mem_of_mem_tail ha)
  · refine keepsTo_ofFunction fun c => keeps_onParts (D.kept c) fun {_ args} _ hargs => ?_
    cases hlast : args.getLast? with
    | none => exact D.word c _ (by decide)
    | some a => exact hargs a (List.mem_of_getLast? hlast)
  · exact keepsTo_ofFunction fun c => keeps_onParts (D.kept c) fun hhead _ => hhead
  · exact keepsTo_ofFunction fun c => keeps_length (D.kept c)

end Parts

namespace Form

/-- What replacing comes to does not depend on what it is told. -/
theorem replace_eq (c : Nat) (s s' : Sharing) (args : List Expr) (htold : D.told s s')
    (hargs : ∀ a ∈ args, D.expr c a) : replace s args = replace s' args := by
  unfold replace
  split
  next a entries _ =>
    cases hrules : rules "Replace" entries with
    | error failure => rfl
    | ok rules' =>
        have hvalues := holds_rules (D.kept c) (hargs entries (by simp)) hrules
        simp only [Except.map, D.replace_eq htold (fun rule hrule => (hvalues rule hrule).value)
          (hargs a (by simp))]
  next => rfl

theorem replaceAll_eq (c : Nat) (s s' : Sharing) (args : List Expr) (htold : D.told s s')
    (hargs : ∀ a ∈ args, D.expr c a) : replaceAll s args = replaceAll s' args := by
  unfold replaceAll
  split
  next a entries _ =>
    cases hrules : rules "ReplaceAll" entries with
    | error failure => rfl
    | ok rules' =>
        have hvalues := holds_rules (D.kept c) (hargs entries (by simp)) hrules
        simp only [Except.map, D.replaceAll_eq htold (fun rule hrule => (hvalues rule hrule).value)
          (hargs a (by simp))]
  next => rfl

theorem keepsTo : ∀ entry ∈ operations, entry.2.KeepsTo D := by
  intro entry h
  simp only [operations, List.mem_cons, List.not_mem_nil, or_false] at h
  rcases h with rfl | rfl | rfl | rfl
  · exact keepsTo_ofFunction fun c => keeps_hold (D.kept c)
  · exact keepsTo_ofFunction fun c => keeps_releaseHold (D.kept c)
  · exact keepsTo_ofRewriting replace_eq fun s c => keeps_replace (D.kept c) s
  · exact keepsTo_ofRewriting replaceAll_eq fun s c => keeps_replaceAll (D.kept c) s

end Form

namespace Strings

theorem keepsTo : ∀ entry ∈ operations, entry.2.KeepsTo D := by
  intro entry h
  simp only [operations, List.mem_cons, List.not_mem_nil, or_false] at h
  rcases h with rfl | rfl | rfl | rfl
  · exact keepsTo_ofFunction fun c => keeps_concat (D.kept c)
  · exact keepsTo_ofFunction fun c => keeps_substring (D.kept c)
  · exact keepsTo_ofFunction fun c => keeps_split (D.kept c)
  · exact keepsTo_ofFunction fun c => keeps_introduce (D.kept c)

end Strings

namespace Search

theorem keepsTo : ∀ entry ∈ operations, entry.2.KeepsTo D := by
  intro entry h
  obtain rfl := List.mem_singleton.mp h
  exact keepsTo_ofFunction fun c => keeps_search (D.kept c)

end Search

end Operation

/-- **The operations of the library keep to every discipline.** -/
theorem Operations.keepsTo (D : Discipline) (groups : List Group) {name : String}
    {operation : Operation} (h : (ofGroups groups).get? name = some operation) :
    operation.KeepsTo D := by
  open Operation in
  exact forall_of_get? Definition.keepsTo Control.keepsTo Form.keepsTo Arithmetic.keepsTo
    Logic.keepsTo Parts.keepsTo Strings.keepsTo Search.keepsTo Output.keepsTo h

/-- The properties hold of the definitions that there are from the start. -/
theorem Discipline.scopes_initial (D : Discipline) (c : Nat) : D.scopes c .initial := by
  have hplain : ∀ entry ∈ Scopes.initialAttributes,
      '$' ∉ entry.1.toList ∧ '$' ∉ entry.2.toList := by decide
  have hempty : D.scopes c {} := by
    intro scope hscope
    obtain rfl := List.mem_singleton.mp hscope
    exact .empty
  refine List.foldlRecOn Scopes.initialAttributes _ hempty fun s hs entry hentry => ?_
  obtain ⟨hname, hattribute⟩ := hplain entry hentry
  exact Scopes.Holds.run (w := .setAttributes entry.1 [.sym entry.2]) (D.kept c)
    ⟨(D.kept c).plain _ hname, by simpa using D.word c _ hattribute⟩ hs

end Reduct
