import RomanTrade.Proofs.InterpreterStep

/-!
# Runs of the interpreter

A run is a list of calls: lines that are executed and lines that answer a question, in any order.
Whatever every step keeps is kept by every run.  Where a step keeps something only if it does not
do too much, the run keeps it if none of its calls does, and `Interpreter.noted` lists what they do.
-/

namespace RomanTrade

inductive Call where
  | execute (tokens : List String)
  | supply (missing : String) (tokens : List String)
  deriving DecidableEq, Repr

/-- The statement that is run when a call is made.  An answer counts only for the token it was asked
for. -/
def Call.statement? : Call → Option Statement
  | .execute tokens => (Statement.ofTokens tokens).toOption
  | .supply missing tokens =>
    match Definition.ofTokens tokens with
    | .error _ => none
    | .ok definition =>
      if definition.token = missing then some (.definition definition) else none

theorem Call.statement?_execute {tokens : List String} {statement : Statement}
    (hread : Statement.ofTokens tokens = .ok statement) :
    (Call.execute tokens).statement? = some statement := by
  simp [Call.statement?, hread, Except.toOption]

theorem Call.statement?_supply (missing : String) (symbol : Symbol) :
    (Call.supply missing [missing, Keyword.is.text, symbol.text]).statement? =
      some (.definition ⟨missing, symbol⟩) := by
  have hread : Definition.ofTokens [missing, Keyword.is.text, symbol.text] =
      .ok ⟨missing, symbol⟩ :=
    Definition.ofTokens_eq_ok_iff.mpr rfl
  simp [Call.statement?, hread]

namespace Interpreter

def perform (interpreter : Interpreter) : Call → Outcome × Interpreter
  | .execute tokens => interpreter.execute tokens
  | .supply missing tokens => interpreter.supplyDefinition missing tokens

def after (interpreter : Interpreter) (calls : List Call) : Interpreter :=
  calls.foldl (fun current call => (current.perform call).2) interpreter

theorem after_append (interpreter : Interpreter) (early late : List Call) :
    interpreter.after (early ++ late) = (interpreter.after early).after late := by
  unfold after
  exact List.foldl_append

/-- A call leaves the interpreter as it was or takes a step with its statement. -/
theorem perform_cases (interpreter : Interpreter) (call : Call) :
    (interpreter.perform call).2 = interpreter ∨
      ∃ statement, call.statement? = some statement ∧
        Step interpreter statement (interpreter.perform call).1 (interpreter.perform call).2 := by
  cases call with
  | execute tokens =>
      rcases interpreter.execute_cases tokens with ⟨fault, _, hrefused⟩ | ⟨statement, hread, hstep⟩
      · refine .inl ?_
        simp [perform, hrefused]
      · exact .inr ⟨statement, Call.statement?_execute hread, hstep⟩
  | supply missing tokens =>
      rcases interpreter.supplyDefinition_cases missing tokens with
        ⟨fault, _, hrefused⟩ | ⟨symbol, htokens, _⟩
      · refine .inl ?_
        simp [perform, hrefused]
      · subst htokens
        refine .inr ⟨.definition ⟨missing, symbol⟩, Call.statement?_supply missing symbol, ?_⟩
        simp only [perform]
        rw [supplyDefinition_definition]
        exact interpreter.learnSymbol_step ⟨missing, symbol⟩

/-- What is noted of the calls of a run, each looked at where it is made. -/
def noted {α : Type} (note? : Interpreter → Call → Option α) (interpreter : Interpreter) :
    List Call → List α
  | [] => []
  | call :: rest => (note? interpreter call).toList ++ noted note? (interpreter.perform call).2 rest

theorem after_preserves_of_noted {α : Type} {note? : Interpreter → Call → Option α}
    {Allowed : α → Prop} (Good : Interpreter → Prop)
    (hkeep : ∀ {before call}, (∀ noting ∈ note? before call, Allowed noting) →
      Good before → Good (before.perform call).2)
    {interpreter : Interpreter} (hgood : Good interpreter) {calls : List Call}
    (hallowed : ∀ noting ∈ interpreter.noted note? calls, Allowed noting) :
    Good (interpreter.after calls) := by
  induction calls generalizing interpreter with
  | nil => exact hgood
  | cons call rest ih =>
      simp only [noted, List.mem_append, Option.mem_toList, or_imp, forall_and] at hallowed
      exact ih (hkeep hallowed.1 hgood) hallowed.2

theorem after_preserves (Good : Interpreter → Prop)
    (hkeep : ∀ {before statement outcome next}, Step before statement outcome next →
      Good before → Good next)
    {interpreter : Interpreter} (hgood : Good interpreter) (calls : List Call) :
    Good (interpreter.after calls) := by
  induction calls generalizing interpreter with
  | nil => exact hgood
  | cons call rest ih =>
      have hnext : Good (interpreter.perform call).2 := by
        rcases interpreter.perform_cases call with hsame | ⟨statement, _, hstep⟩
        · rw [hsame]
          exact hgood
        · exact hkeep hstep hgood
      exact ih hnext

end Interpreter
end RomanTrade
