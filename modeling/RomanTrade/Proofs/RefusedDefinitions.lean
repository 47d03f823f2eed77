import RomanTrade.Proofs.DialogueEvents
import RomanTrade.Proofs.LineClassification

/-!
# Records of refused definitions

The log file is told why a definition was refused when its third word is no symbol.  This remark
goes by the words of the line alone.  Classification looks for a mark at the end of the line first,
so the two disagree where the third word is such a mark.
-/

namespace RomanTrade

/-- The record that a definition was refused, with the detail that follows. -/
def Message.refusedDefinition (tokens : List String) (detail : String) : Message :=
  .remark s!"Definition refused for '{Text.joinWords tokens}': {detail}"

namespace Dialogue

variable {tokens : List String} {outcome : Outcome} {dialogue : Dialogue} {input : String}

/-- The line has the form of a definition, but its third word is none of the seven symbols. -/
def NamesNoSymbol (tokens : List String) : Prop :=
  ∃ first written, tokens = [first, "is", written] ∧ ∀ symbol : Symbol, written ≠ symbol.text

/-- A line of three words that is taken for a definition, because it ends in no mark and has `is`
in second place, and that was refused for its third word. -/
structure RefusedForSymbol (tokens : List String) (outcome : Outcome) : Prop where
  three : tokens.length = 3
  unasked : tokens.getLast? ≠ some "?"
  unpriced : tokens.getLast? ≠ some "Credits"
  copula : tokens[1]? = some "is"
  unwritten : ∀ symbol : Symbol, tokens[2]? ≠ some symbol.text
  refused : outcome = .refused (.malformed tokens)

/-- A line of three words with `is` in second place whose third word is a mark. -/
def EndsInMark (tokens : List String) : Prop :=
  ∃ first, tokens = [first, "is", "?"] ∨ tokens = [first, "is", "Credits"]

theorem ofText?_eq_none_iff {written : String} :
    Symbol.ofText? written = none ↔ ∀ symbol : Symbol, written ≠ symbol.text := by
  rw [Option.eq_none_iff_forall_ne_some]
  exact forall_congr' fun symbol => not_congr Symbol.ofText?_eq_some_iff

theorem exists_mem_badSymbolRemark_iff :
    (∃ detail, .refusedDefinition tokens detail ∈ badSymbolRemark tokens) ↔
      NamesNoSymbol tokens := by
  constructor
  · rintro ⟨detail, hmem⟩
    unfold badSymbolRemark at hmem
    split at hmem
    next first copula written =>
      split at hmem
      next hcopula =>
        rw [Keyword.accepts_iff (by decide)] at hcopula
        refine ⟨first, written, by rw [hcopula]; rfl, ?_⟩
        rw [← ofText?_eq_none_iff]
        cases hread : Symbol.ofText? written with
        | none => rfl
        | some symbol => simp [Symbol.ofText, hread] at hmem
      next => contradiction
    next => contradiction
  · rintro ⟨first, written, rfl, hunwritten⟩
    have hread := ofText?_eq_none_iff.mpr hunwritten
    have hcopula : Keyword.is.accepts "is" = true := Keyword.accepts_text .is
    refine ⟨(Fault.unknownSymbol
      s!"'{Text.trim written}'. Valid symbols: {Symbol.letterList}").message, ?_⟩
    simp [badSymbolRemark, hcopula, Symbol.ofText, hread, Message.refusedDefinition]

theorem refusedDefinition_not_mem_numeralRemark (fault : Fault) (detail : String) :
    .refusedDefinition tokens detail ∉ numeralRemark tokens fault := by
  unfold numeralRemark
  split
  next written violation =>
    intro hmem
    have htext := congrArg (·.text.toList.head?) (List.mem_singleton.mp hmem)
    simp only [Message.refusedDefinition, Message.remark, String.toList_append,
      List.head?_append] at htext
    have hletter : 'D' = 'N' := Option.some.inj htext
    contradiction
  next => exact List.not_mem_nil

/-- Of the records of a statement, only the remark on its symbol is such a record. -/
theorem exists_mem_records_executed_iff :
    (∃ detail, .refusedDefinition tokens detail ∈ (Event.executed tokens outcome).records) ↔
      (∃ fault, outcome = .refused fault) ∧ NamesNoSymbol tokens := by
  rw [← exists_mem_badSymbolRemark_iff]
  have hnote : ∀ detail text, Message.refusedDefinition tokens detail ≠ .note text := by
    simp [Message.refusedDefinition, Message.remark, Message.note]
  have hreply : ∀ detail text, Message.refusedDefinition tokens detail ≠ .reply text := by
    simp [Message.refusedDefinition, Message.remark, Message.reply]
  have hrefusal : ∀ detail text, Message.refusedDefinition tokens detail ≠ .refusal text := by
    simp [Message.refusedDefinition, Message.remark, Message.refusal]
  cases outcome with
  | zeroQuantity => simp [Event.records, Outcome.records, hnote]
  | replied reply => cases reply <;> simp [Event.records, Outcome.records, hnote, hreply]
  | refused fault =>
      simp [Event.records, Outcome.records, hnote, hrefusal,
        refusedDefinition_not_mem_numeralRemark]

theorem ofTokens_of_endsInMark (h : EndsInMark tokens) :
    ∃ fault, Statement.ofTokens tokens = .error fault := by
  rcases h with ⟨first, rfl | rfl⟩
  · have hquery : Statement.ofQuery [first, "is", "?"] = .error .unrecognized := by
      rw [Statement.ofQuery_eq_unrecognized_iff]
      simp [Statement.afterKeywords?, Keyword.accepts, Keyword.text]
    exact ⟨_, (Statement.ofTokens_question [first, "is"]).trans hquery⟩
  · exact ⟨_, Statement.ofTokens_credits [first, "is"]⟩

/-- Without a mark at its end the line is taken for a definition, and all of it is refused. -/
theorem ofTokens_of_namesNoSymbol (h : NamesNoSymbol tokens) (hunmarked : ¬ EndsInMark tokens) :
    Statement.ofTokens tokens = .error (.malformed tokens) := by
  obtain ⟨first, written, rfl, hunwritten⟩ := h
  have hquestion : written ≠ "?" := by
    rintro rfl
    exact hunmarked ⟨first, .inl rfl⟩
  have hcredits : written ≠ "Credits" := by
    rintro rfl
    exact hunmarked ⟨first, .inr rfl⟩
  have hread := ofText?_eq_none_iff.mpr hunwritten
  simp [Statement.ofTokens, Definition.ofTokens, Keyword.accepts, Keyword.text, hquestion,
    hcredits, hread, Except.map]

theorem execute_of_ofTokens_eq_error {interpreter : Interpreter} {fault : Fault}
    (h : Statement.ofTokens tokens = .error fault) :
    (interpreter.execute tokens).1 = .refused fault := by
  unfold Interpreter.execute
  rw [h]

theorem EndsInMark.namesNoSymbol (h : EndsInMark tokens) : NamesNoSymbol tokens := by
  rcases h with ⟨first, rfl | rfl⟩
  · exact ⟨first, "?", rfl, fun symbol => symbol.text_ne_marker.1.symm⟩
  · exact ⟨first, "Credits", rfl, fun symbol => symbol.text_ne_marker.2.symm⟩

theorem exists_refusal_of_namesNoSymbol (h : NamesNoSymbol tokens) :
    ∃ fault, Statement.ofTokens tokens = .error fault := by
  by_cases hmarked : EndsInMark tokens
  · exact ofTokens_of_endsInMark hmarked
  · exact ⟨_, ofTokens_of_namesNoSymbol h hmarked⟩

theorem refusedForSymbol_iff {interpreter : Interpreter} :
    RefusedForSymbol tokens (interpreter.execute tokens).1 ↔
      NamesNoSymbol tokens ∧ ¬ EndsInMark tokens := by
  constructor
  · rintro ⟨hthree, hunasked, hunpriced, hcopula, hunwritten, -⟩
    obtain ⟨first, copula, written, rfl⟩ := List.length_eq_three.mp hthree
    obtain rfl : copula = "is" := Option.some.inj hcopula
    refine ⟨⟨first, written, rfl, ?_⟩, ?_⟩
    · rintro symbol rfl
      exact hunwritten symbol rfl
    · rintro ⟨other, hmarked | hmarked⟩
      · rw [hmarked] at hunasked
        exact hunasked rfl
      · rw [hmarked] at hunpriced
        exact hunpriced rfl
  · rintro ⟨hunnamed, hunmarked⟩
    have hrefused : (interpreter.execute tokens).1 = .refused (.malformed tokens) :=
      execute_of_ofTokens_eq_error (ofTokens_of_namesNoSymbol hunnamed hunmarked)
    obtain ⟨first, written, rfl, hunwritten⟩ := hunnamed
    refine ⟨rfl, ?_, ?_, rfl, ?_, hrefused⟩
    · intro hasked
      obtain rfl : written = "?" := Option.some.inj hasked
      exact hunmarked ⟨first, .inl rfl⟩
    · intro hpriced
      obtain rfl : written = "Credits" := Option.some.inj hpriced
      exact hunmarked ⟨first, .inr rfl⟩
    · intro symbol hsymbol
      exact hunwritten symbol (Option.some.inj hsymbol)

theorem eq_execution_of_mem {interpreter : Interpreter} {run : List String}
    (h : .executed tokens outcome ∈ [execution interpreter run]) :
    tokens = run ∧ outcome = (interpreter.execute tokens).1 := by
  rw [List.mem_singleton, execution, Event.executed.injEq] at h
  obtain ⟨rfl, houtcome⟩ := h
  exact ⟨rfl, houtcome⟩

/-- A line that executes a statement does so last, after the answer that it may have given. -/
theorem events_of_executed (h : .executed tokens outcome ∈ dialogue.events input) :
    ∃ interpreter answers, outcome = (Interpreter.execute interpreter tokens).1 ∧
      dialogue.events input = answers ++ [execution interpreter tokens] ∧
      ∀ answer ∈ answers, ∃ note, answer = .answered note := by
  unfold events at h ⊢
  by_cases hasks : isExit (Text.trim input) = true
  · rw [if_pos hasks] at h
    exact absurd h List.not_mem_nil
  · rw [if_neg hasks] at h ⊢
    cases hstage : dialogue.stage with
    | ready =>
        simp only [hstage] at h ⊢
        by_cases hblank : (lineTokens input).isEmpty = true
        · rw [if_pos hblank] at h
          exact absurd h List.not_mem_nil
        · rw [if_neg hblank] at h ⊢
          obtain ⟨htokens, houtcome⟩ := eq_execution_of_mem h
          rw [← htokens]
          exact ⟨dialogue.interpreter, [], houtcome, rfl, by simp⟩
    | awaiting token pending =>
        simp only [hstage] at h ⊢
        generalize dialogue.interpreter.supplyDefinition token (lineTokens input) = supplied at h ⊢
        split at h
        next note next =>
          rcases List.mem_cons.mp h with hanswered | hexecuted
          · exact Event.noConfusion hanswered
          · obtain ⟨htokens, houtcome⟩ := eq_execution_of_mem hexecuted
            rw [← htokens]
            exact ⟨next, [.answered note], houtcome, rfl, by simp⟩
        next => simp at h
        next => exact absurd h List.not_mem_nil

/-- What a line records of a refused definition, it records of the statement that it executes. -/
theorem exists_mem_messages_hear_iff {interpreter : Interpreter} {answers : List Event}
    (hevents : dialogue.events input = answers ++ [execution interpreter tokens])
    (hanswers : ∀ answer ∈ answers, ∃ note, answer = .answered note) :
    (∃ detail, .refusedDefinition tokens detail ∈ (dialogue.hear input).messages) ↔
      NamesNoSymbol tokens := by
  have hexecuted : (∃ detail,
      .refusedDefinition tokens detail ∈ (execution interpreter tokens).records) ↔
      NamesNoSymbol tokens := by
    rw [execution, exists_mem_records_executed_iff, and_iff_right_iff_imp]
    intro hunnamed
    obtain ⟨fault, hfault⟩ := exists_refusal_of_namesNoSymbol hunnamed
    exact ⟨fault, execute_of_ofTokens_eq_error hfault⟩
  rw [messages_hear, hevents, List.flatMap_append, List.flatMap_singleton, ← hexecuted]
  apply exists_congr
  intro detail
  rw [List.mem_append, or_iff_right_iff_imp]
  intro hanswered
  obtain ⟨answer, hmem, hrecord⟩ := List.mem_flatMap.mp hanswered
  obtain ⟨note, rfl⟩ := hanswers answer hmem
  simp [Event.records, Message.refusedDefinition, Message.remark, Message.note] at hrecord

/-- A refused definition is recorded exactly for the statements that are refused for their symbol,
and for three words that end in a mark.  So the record agrees with classification exactly where the
third word is no mark. -/
theorem refused_definition_recorded_iff
    (hexecuted : .executed tokens outcome ∈ dialogue.events input) :
    let recorded := ∃ detail, .refusedDefinition tokens detail ∈ (dialogue.hear input).messages
    (recorded ↔ RefusedForSymbol tokens outcome ∨ EndsInMark tokens) ∧
      ((recorded ↔ RefusedForSymbol tokens outcome) ↔ ¬ EndsInMark tokens) := by
  intro recorded
  obtain ⟨interpreter, answers, rfl, hevents, hanswers⟩ := events_of_executed hexecuted
  have hrecorded : recorded ↔ NamesNoSymbol tokens :=
    exists_mem_messages_hear_iff hevents hanswers
  rw [hrecorded, refusedForSymbol_iff]
  by_cases hmarked : EndsInMark tokens
  · have hunnamed := hmarked.namesNoSymbol
    simp [hmarked, hunnamed]
  · simp [hmarked]

/-- A lower-case symbol is refused and recorded as such. -/
theorem lower_case_symbol_is_recorded :
    let tokens := ["glob", "is", "i"]
    .executed tokens (.refused (.malformed tokens)) ∈ ({} : Dialogue).events "glob is i" ∧
      RefusedForSymbol tokens (.refused (.malformed tokens)) ∧
      ∃ detail, .refusedDefinition tokens detail ∈ (({} : Dialogue).hear "glob is i").messages := by
  intro tokens
  have hexecuted : .executed tokens (.refused (.malformed tokens)) ∈
      ({} : Dialogue).events "glob is i" := by
    decide
  have hunmarked : ¬ EndsInMark tokens := by
    rintro ⟨first, hmarked | hmarked⟩ <;> simp [tokens] at hmarked
  have hrefused : RefusedForSymbol tokens (.refused (.malformed tokens)) :=
    ⟨rfl, by decide, by decide, rfl, by intro symbol; cases symbol <;> decide, rfl⟩
  have hagree := (refused_definition_recorded_iff hexecuted).2.mpr hunmarked
  exact ⟨hexecuted, hrefused, hagree.mpr hrefused⟩

/-- A question that is not understood is recorded as a definition that was refused. -/
theorem question_is_recorded_as_definition :
    let tokens := ["glob", "is", "?"]
    .executed tokens (.refused .unrecognized) ∈ ({} : Dialogue).events "glob is ?" ∧
      (∃ detail, .refusedDefinition tokens detail ∈
        (({} : Dialogue).hear "glob is ?").messages) ∧
      ¬ RefusedForSymbol tokens (.refused .unrecognized) := by
  intro tokens
  refine ⟨by decide, ⟨"not a roman symbol: '?'. Valid symbols: I, V, X, L, C, D, M", ?_⟩, ?_⟩
  · decide
  · intro hrefused
    exact hrefused.unasked rfl

end Dialogue
end RomanTrade
