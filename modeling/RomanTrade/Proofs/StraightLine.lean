import RomanTrade.Proofs.DialogueRun
import RomanTrade.Proofs.StatementFrame

/-!
# Straight-line execution

A dialogue that suspends statements and takes them up again does what an interpreter does that
executes a script without ever waiting.  The script holds each line that is executed at once, and
for a statement that waits the definitions that were accepted for it, and then the statement.  It is
written down from the lines by executing them, without a look at the dialogue.
-/

namespace RomanTrade

namespace Message

def questionOpening : String :=
  "missing information / invalid input: How much is "

def questionClosing : String :=
  " ?"

def isQuestion (message : Message) : Bool :=
  message.level = .info && questionOpening.toList.isPrefixOf message.text.toList &&
    questionClosing.toList.isSuffixOf message.text.toList

/-- Whether a message shows the user an answer or a refusal. -/
def isShown (message : Message) : Bool :=
  message.target.reachesConsole && !message.isQuestion

theorem missingPrompt_eq (token : String) :
    missingPrompt token = questionOpening ++ token ++ questionClosing := rfl

theorem isQuestion_missingPrompt (token : String) :
    (Message.reply (missingPrompt token)).isQuestion = true := by
  have htext : (missingPrompt token).toList =
      questionOpening.toList ++ (token.toList ++ questionClosing.toList) := by
    rw [missingPrompt_eq, String.toList_append, String.toList_append, List.append_assoc]
  simp only [isQuestion, reply, Bool.and_eq_true, decide_true, true_and, List.isPrefixOf_iff_prefix,
    List.isSuffixOf_iff_suffix, htext]
  constructor
  · exact List.prefix_append _ _
  · rw [← List.append_assoc]
    exact List.suffix_append _ _

theorem isQuestion_refusal (text : String) : (Message.refusal text).isQuestion = false := by
  simp [isQuestion, refusal]

/-- A text that ends in anything but a question mark asks nothing. -/
theorem isQuestion_reply_of_last {text : String} {front : List Char} {last : Char}
    (htext : text.toList = front ++ [last]) (hlast : last ≠ '?') :
    (Message.reply text).isQuestion = false := by
  have hclosing : questionClosing.toList.isSuffixOf text.toList = false := by
    apply Bool.eq_false_iff.mpr
    intro hsuffix
    obtain ⟨opening, hopening⟩ := List.isSuffixOf_iff_suffix.mp hsuffix
    have hend : (opening ++ [' ']) ++ ['?'] = front ++ [last] := by
      rw [← htext, ← hopening, List.append_assoc]
      rfl
    have hsame := List.append_inj_right' hend rfl
    exact hlast (List.singleton_inj.mp hsame).symm
  simp only [isQuestion, reply, hclosing, Bool.and_false]

end Message

namespace Outcome

def shown : Outcome → List Message
  | .replied (.answer text) => [.reply text]
  | .refused fault => [.refusal fault.message]
  | .replied (.learned _) | .replied (.missing _) | .zeroQuantity => []

def isMissing : Outcome → Bool
  | .replied (.missing _) => true
  | _ => false

theorem exists_of_isMissing {outcome : Outcome} (h : outcome.isMissing = true) :
    ∃ token, outcome = .replied (.missing token) := by
  unfold isMissing at h
  split at h
  next token => exact ⟨token, rfl⟩
  next => contradiction

/-- Refusals are the user's to mend, and no answer reads like a question. -/
structure Presentable (outcome : Outcome) : Prop where
  refusal : ∀ fault, outcome = .refused fault → fault.isUserFault = true
  answer : ∀ text, outcome = .replied (.answer text) → (Message.reply text).isQuestion = false

end Outcome

namespace Interpreter

theorem isQuestion_valueAnswer (amount : List String) (value : Nat) :
    (Message.reply s!"{Text.joinWords amount} is {value}").isQuestion = false := by
  have hne : Nat.toDigits 10 value ≠ [] := Nat.toDigits_ne_nil
  have hdigits := (List.dropLast_concat_getLast hne).symm
  have hlast : ((Nat.toDigits 10 value).getLast hne).isDigit = true :=
    Nat.isDigit_of_mem_toDigits (by decide) (by decide) (List.getLast_mem hne)
  have htext : (s!"{Text.joinWords amount} is {value}").toList =
      ((Text.joinWords amount ++ " is ").toList ++ (Nat.toDigits 10 value).dropLast) ++
        [(Nat.toDigits 10 value).getLast hne] := by
    rw [List.append_assoc, ← hdigits, ← Nat.toList_repr, ← String.toList_append]
    rfl
  refine Message.isQuestion_reply_of_last htext ?_
  intro hmark
  rw [hmark] at hlast
  contradiction

theorem isQuestion_priceAnswer (amount : List String) (material : String) (total : Price) :
    (Message.reply (priceAnswer amount material total)).isQuestion = false := by
  have htext : (priceAnswer amount material total).toList =
      ((Text.joinWords (amount ++ [material]) ++ " is " ++ total.text ++ " Credit").toList) ++
        ['s'] := by
    have hword : " Credits".toList = " Credit".toList ++ ['s'] := rfl
    rw [String.toList_append, List.append_assoc, ← hword, ← String.toList_append]
    rfl
  exact Message.isQuestion_reply_of_last htext (by decide)

theorem Step.presentable {before after : Interpreter} {statement : Statement} {outcome : Outcome}
    (hstep : Step before statement outcome after) : outcome.Presentable := by
  cases hstep with
  | refuse htyped =>
      refine ⟨?_, by simp⟩
      intro fault hfault
      cases hfault
      exact htyped
  | answerValue =>
      refine ⟨by simp, ?_⟩
      intro text htext
      cases htext
      exact isQuestion_valueAnswer _ _
  | answerPrice =>
      refine ⟨by simp, ?_⟩
      intro text htext
      cases htext
      exact isQuestion_priceAnswer _ _ _
  | wait | learnSymbol | learnPrice | collapse => exact ⟨by simp, by simp⟩

theorem execute_presentable (interpreter : Interpreter) (tokens : List String) :
    (interpreter.execute tokens).1.Presentable := by
  rcases interpreter.execute_cases tokens with ⟨fault, htyped, hrefused⟩ | ⟨statement, _, hstep⟩
  · rw [hrefused]
    refine ⟨?_, by simp⟩
    intro other hother
    cases hother
    exact htyped
  · exact hstep.presentable

/-- Executes lines one after the other; only a collapse keeps the next one from being executed. -/
def executeAll (interpreter : Interpreter) : List (List String) → List Outcome × Interpreter
  | [] => ([], interpreter)
  | tokens :: rest =>
    match interpreter.execute tokens with
    | (.zeroQuantity, next) => ([.zeroQuantity], next)
    | (outcome, next) =>
      let (outcomes, last) := next.executeAll rest
      (outcome :: outcomes, last)

variable {interpreter next : Interpreter} {tokens : List String} {outcome : Outcome}
  {first rest : List (List String)}

theorem executeAll_cons_of_collapse (h : interpreter.execute tokens = (.zeroQuantity, next)) :
    interpreter.executeAll (tokens :: rest) = ([.zeroQuantity], next) := by
  simp only [executeAll, h]

theorem executeAll_cons (h : interpreter.execute tokens = (outcome, next))
    (houtcome : outcome ≠ .zeroQuantity) :
    interpreter.executeAll (tokens :: rest) =
      (outcome :: (next.executeAll rest).1, (next.executeAll rest).2) := by
  cases outcome with
  | zeroQuantity => contradiction
  | replied | refused => simp only [executeAll, h]

theorem executeAll_singleton (h : interpreter.execute tokens = (outcome, next)) :
    interpreter.executeAll [tokens] = ([outcome], next) := by
  by_cases houtcome : outcome = .zeroQuantity
  · subst houtcome
    exact executeAll_cons_of_collapse h
  · exact executeAll_cons h houtcome

theorem executeAll_append_of_collapse (h : .zeroQuantity ∈ (interpreter.executeAll first).1) :
    interpreter.executeAll (first ++ rest) = interpreter.executeAll first := by
  induction first generalizing interpreter with
  | nil => simp [executeAll] at h
  | cons tokens more ih =>
      cases hexecute : interpreter.execute tokens with
      | mk outcome next =>
        by_cases houtcome : outcome = .zeroQuantity
        · subst houtcome
          rw [List.cons_append, executeAll_cons_of_collapse hexecute,
            executeAll_cons_of_collapse hexecute]
        · rw [executeAll_cons hexecute houtcome] at h ⊢
          have hmore : .zeroQuantity ∈ (next.executeAll more).1 :=
            (List.mem_cons.mp h).resolve_left (Ne.symm houtcome)
          rw [List.cons_append, executeAll_cons hexecute houtcome, ih hmore]

theorem executeAll_append (h : .zeroQuantity ∉ (interpreter.executeAll first).1) :
    interpreter.executeAll (first ++ rest) =
      ((interpreter.executeAll first).1 ++
          ((interpreter.executeAll first).2.executeAll rest).1,
        ((interpreter.executeAll first).2.executeAll rest).2) := by
  induction first generalizing interpreter with
  | nil => rfl
  | cons tokens more ih =>
      cases hexecute : interpreter.execute tokens with
      | mk outcome next =>
        by_cases houtcome : outcome = .zeroQuantity
        · subst houtcome
          rw [executeAll_cons_of_collapse hexecute] at h
          exact absurd List.mem_cons_self h
        · rw [executeAll_cons hexecute houtcome] at h ⊢
          have hmore : .zeroQuantity ∉ (next.executeAll more).1 :=
            fun hmem => h (List.mem_cons_of_mem outcome hmem)
          rw [List.cons_append, executeAll_cons hexecute houtcome, ih hmore, List.cons_append]

end Interpreter

/-- Someone who reads lines and writes a script: an interpreter that has executed the script so far,
and the statement that waits, as it was read. -/
structure Scribe where
  interpreter : Interpreter
  pending? : Option (List String) := none

namespace Scribe

/-- What is written down for a statement that is taken up: the statement, unless it has to wait. -/
def takeUp (interpreter : Interpreter) (tokens : List String) : List (List String) × Scribe :=
  match interpreter.execute tokens with
  | (.replied (.missing _), next) => ([], ⟨next, some tokens⟩)
  | (_, next) => ([tokens], ⟨next, none⟩)

/-- Whether a line is accepted for a statement that waits: it defines the token at which the
statement stops, and the definition is learned. -/
def isAnswer (interpreter : Interpreter) (pending tokens : List String) : Bool :=
  match Statement.ofTokens tokens, (interpreter.execute pending).1,
    (interpreter.execute tokens).1 with
  | .ok (.definition definition), .replied (.missing token), .replied (.learned _) =>
    definition.token = token
  | _, _, _ => false

/-- What is written down for a line.  An accepted definition is followed by the statement that
waited for it, unless that has to wait again; blank lines, requests to leave and rejected answers
add nothing. -/
def note (scribe : Scribe) (input : String) : List (List String) × Scribe :=
  let tokens := Dialogue.lineTokens input
  if Dialogue.isExit (Text.trim input) then ([], scribe)
  else
    match scribe.pending? with
    | none => if tokens.isEmpty then ([], scribe) else takeUp scribe.interpreter tokens
    | some pending =>
      if isAnswer scribe.interpreter pending tokens then
        let (written, next) := takeUp (scribe.interpreter.execute tokens).2 pending
        (tokens :: written, next)
      else ([], scribe)

/-- The statements that lines of input stand for, in the order in which they are completed. -/
def script (scribe : Scribe) : List String → List (List String)
  | [] => []
  | input :: rest =>
    let (written, next) := scribe.note input
    written ++ next.script rest

variable {interpreter next : Interpreter} {tokens pending : List String} {token : String}
  {outcome : Outcome}

theorem takeUp_of_missing
    (h : interpreter.execute tokens = (.replied (.missing token), next)) :
    takeUp interpreter tokens = ([], ⟨next, some tokens⟩) := by
  unfold takeUp
  rw [h]

theorem takeUp_of_completed (h : interpreter.execute tokens = (outcome, next))
    (hcompleted : outcome.isMissing = false) :
    takeUp interpreter tokens = ([tokens], ⟨next, none⟩) := by
  unfold takeUp
  rw [h]
  cases outcome with
  | refused | zeroQuantity => rfl
  | replied reply =>
      cases reply with
      | learned | answer => rfl
      | missing token => contradiction

theorem isAnswer_definition {symbol : Symbol}
    (hstops : (interpreter.execute pending).1 = .replied (.missing token))
    (hplain : Keyword.isReserved token = false)
    (hunpriced : interpreter.session.prices.contains token = false) :
    isAnswer interpreter pending [token, Keyword.is.text, symbol.text] = true := by
  unfold isAnswer
  rw [Statement.ofTokens_definition, hstops, interpreter.execute_definition,
    interpreter.learnSymbol_of_free ⟨token, symbol⟩ hplain hunpriced]
  simp

/-- What the interpreter refuses as the definition of the token is not accepted. -/
theorem isAnswer_of_refused {fault : Fault}
    (hstops : (interpreter.execute pending).1 = .replied (.missing token))
    (hrefused : interpreter.supplyDefinition token tokens = (.refused fault, next)) :
    isAnswer interpreter pending tokens = false := by
  rw [Bool.eq_false_iff]
  intro hanswer
  unfold isAnswer at hanswer
  split at hanswer
  next definition other note hread hasked hlearned =>
    obtain rfl : token = other := by
      rw [hstops] at hasked
      simpa using hasked
    obtain rfl : definition.token = token := by simpa using hanswer
    have hlayout := Statement.layout_of_ofTokens hread
    cases hlayout with
    | definition token symbol =>
        rw [interpreter.supplyDefinition_definition] at hrefused
        rw [interpreter.execute_definition, hrefused] at hlearned
        contradiction
  next => contradiction

end Scribe

namespace Dialogue

/-- A dialogue goes along with a scribe: both have the same interpreter, and if a statement waits it
is the same for both, and the dialogue waits for the token at which it stops. -/
inductive Follows : Dialogue → Scribe → Prop where
  | ready (interpreter : Interpreter) : Follows ⟨interpreter, .ready⟩ ⟨interpreter, none⟩
  | waiting {interpreter : Interpreter} {token : String} {pending : List String}
      (stops : (interpreter.execute pending).1 = .replied (.missing token)) :
      Follows ⟨interpreter, .awaiting token pending⟩ ⟨interpreter, some pending⟩

theorem Follows.interpreter_eq {dialogue : Dialogue} {scribe : Scribe}
    (hfollows : dialogue.Follows scribe) : dialogue.interpreter = scribe.interpreter := by
  cases hfollows with
  | ready | waiting => rfl

/-- What was heard is what was performed: the same interpreter at the end, the same answers and
refusals shown in the same order, and a collapse in both or in neither. -/
structure Refines (heard : Heard) (performed : List Outcome × Interpreter) : Prop where
  interpreter : heard.dialogue.interpreter = performed.2
  shown : heard.messages.filter Message.isShown = performed.1.flatMap Outcome.shown
  collapsed : heard.signal = .collapse ↔ .zeroQuantity ∈ performed.1
  completed : ∀ token, .replied (.missing token) ∉ performed.1

namespace Refines

theorem of_nothing {heard : Heard} {interpreter : Interpreter}
    (hinterpreter : heard.dialogue.interpreter = interpreter)
    (hshown : heard.messages.filter Message.isShown = [])
    (hsignal : heard.signal ≠ .collapse) :
    Refines heard (interpreter.executeAll []) := by
  constructor
  · exact hinterpreter
  · exact hshown
  · simpa [Interpreter.executeAll] using hsignal
  · simp [Interpreter.executeAll]

theorem andThen {heard : Heard} {later : Dialogue → Heard} {interpreter : Interpreter}
    {first rest : List (List String)}
    (hfirst : Refines heard (interpreter.executeAll first))
    (hlater : Refines (later heard.dialogue) (heard.dialogue.interpreter.executeAll rest)) :
    Refines (heard.andThen later) (interpreter.executeAll (first ++ rest)) := by
  unfold Heard.andThen
  split
  next hcollapse =>
    -- A collapse ends both runs: neither the later lines nor their script is taken up.
    rw [Interpreter.executeAll_append_of_collapse (hfirst.collapsed.mp hcollapse)]
    exact hfirst
  next hsignal =>
    have hgoes : .zeroQuantity ∉ (interpreter.executeAll first).1 :=
      fun hmem => hsignal (hfirst.collapsed.mpr hmem)
    rw [hfirst.interpreter] at hlater
    rw [Interpreter.executeAll_append hgoes]
    constructor
    · exact hlater.interpreter
    · rw [Heard.messages_after, List.filter_append, List.flatMap_append, hfirst.shown, hlater.shown]
    · rw [Heard.signal_after, hlater.collapsed, List.mem_append]
      exact (or_iff_right hgoes).symm
    · intro token hmem
      rcases List.mem_append.mp hmem with hmem | hmem
      · exact hfirst.completed token hmem
      · exact hlater.completed token hmem

end Refines

theorem filter_note (text : String) : [Message.note text].filter Message.isShown = [] := rfl

theorem filter_badSymbolRemark (tokens : List String) :
    (badSymbolRemark tokens).filter Message.isShown = [] := by
  unfold badSymbolRemark
  repeat' split
  all_goals rfl

theorem filter_numeralRemark (tokens : List String) (fault : Fault) :
    (numeralRemark tokens fault).filter Message.isShown = [] := by
  unfold numeralRemark
  split
  all_goals rfl

variable {interpreter : Interpreter} {outcome : Outcome} {tokens : List String}

theorem filter_takeOutcome (hpresentable : outcome.Presentable)
    (hcompleted : outcome.isMissing = false) :
    (takeOutcome outcome interpreter tokens).messages.filter Message.isShown = outcome.shown := by
  cases outcome with
  | zeroQuantity => rfl
  | refused fault =>
      have hrefusal : (Message.refusal fault.message).isShown = true := by
        unfold Message.isShown
        rw [Message.isQuestion_refusal]
        rfl
      simp only [takeOutcome, takeFault, hpresentable.refusal fault rfl, if_true,
        List.filter_append, filter_badSymbolRemark, filter_numeralRemark, List.nil_append,
        List.filter_cons_of_pos hrefusal, List.filter_nil, Outcome.shown]
  | replied reply =>
      cases reply with
      | learned note => rfl
      | missing token => contradiction
      | answer text =>
          have hanswer : (Message.reply text).isShown = true := by
            unfold Message.isShown
            rw [hpresentable.answer text rfl]
            rfl
          simp only [takeOutcome, takeReply, List.filter_cons_of_pos hanswer, List.filter_nil,
            Outcome.shown]

theorem signal_takeOutcome :
    (takeOutcome outcome interpreter tokens).signal = .collapse ↔ outcome = .zeroQuantity := by
  unfold takeOutcome takeReply takeFault ask
  repeat' split
  all_goals simp

theorem filter_ask (interpreter : Interpreter) (token : String) (pending : List String) :
    (ask interpreter token pending).messages.filter Message.isShown = [] := by
  have hquestion : (Message.reply (missingPrompt token)).isShown = false := by
    unfold Message.isShown
    rw [Message.isQuestion_missingPrompt]
    rfl
  simp only [ask, List.filter_cons, hquestion]
  rfl

theorem eq_of_parts {dialogue : Dialogue} {stage : Stage}
    (hinterpreter : dialogue.interpreter = interpreter) (hstage : dialogue.stage = stage) :
    dialogue = ⟨interpreter, stage⟩ := by
  subst hinterpreter hstage
  rfl

theorem runStatement_follows (interpreter : Interpreter) (tokens : List String) :
    (runStatement interpreter tokens).dialogue.Follows (Scribe.takeUp interpreter tokens).2 := by
  cases hexecute : interpreter.execute tokens with
  | mk outcome next =>
    rw [runStatement_eq hexecute, Heard.dialogue_after]
    by_cases hmissing : outcome.isMissing = true
    · obtain ⟨token, rfl⟩ := Outcome.exists_of_isMissing hmissing
      obtain rfl := Interpreter.eq_of_execute_eq_missing hexecute
      rw [Scribe.takeUp_of_missing hexecute]
      exact .waiting (congrArg Prod.fst hexecute)
    · rw [Bool.not_eq_true] at hmissing
      have hends : ∀ token, outcome ≠ .replied (.missing token) := by
        rintro token rfl
        contradiction
      have hready : (takeOutcome outcome next tokens).dialogue = ⟨next, .ready⟩ :=
        eq_of_parts (interpreter_takeOutcome outcome tokens) (stage_takeOutcome hends tokens)
      rw [Scribe.takeUp_of_completed hexecute hmissing, hready]
      exact .ready next

theorem runStatement_refines (interpreter : Interpreter) (tokens : List String) :
    Refines (runStatement interpreter tokens)
      (interpreter.executeAll (Scribe.takeUp interpreter tokens).1) := by
  cases hexecute : interpreter.execute tokens with
  | mk outcome next =>
    have hpresentable := interpreter.execute_presentable tokens
    rw [hexecute] at hpresentable
    rw [runStatement_eq hexecute]
    by_cases hmissing : outcome.isMissing = true
    -- A statement that waits is shown as a question only, and its script is empty so far.
    · obtain ⟨token, rfl⟩ := Outcome.exists_of_isMissing hmissing
      obtain rfl := Interpreter.eq_of_execute_eq_missing hexecute
      rw [Scribe.takeUp_of_missing hexecute]
      refine Refines.of_nothing ?_ ?_ (by simp [takeOutcome, takeReply, ask])
      · rw [Heard.dialogue_after, interpreter_takeOutcome]
      · rw [Heard.messages_after, List.filter_append, filter_note, List.nil_append]
        exact filter_ask _ token tokens
    · rw [Bool.not_eq_true] at hmissing
      rw [Scribe.takeUp_of_completed hexecute hmissing, Interpreter.executeAll_singleton hexecute]
      constructor
      · rw [Heard.dialogue_after, interpreter_takeOutcome]
      · rw [Heard.messages_after, List.filter_append, filter_takeOutcome hpresentable hmissing]
        rw [filter_note]
        simp
      · rw [Heard.signal_after, signal_takeOutcome]
        simp [eq_comm]
      · intro token hmem
        rw [← List.mem_singleton.mp hmem] at hmissing
        contradiction

/-- Each line does to the dialogue what its part of the script does to the interpreter, and the
dialogue goes on along with the scribe. -/
theorem hear_simulates {dialogue : Dialogue} {scribe : Scribe} (hfollows : dialogue.Follows scribe)
    (input : String) :
    Refines (dialogue.hear input) (scribe.interpreter.executeAll (scribe.note input).1) ∧
      (dialogue.hear input).dialogue.Follows (scribe.note input).2 := by
  have hhears := dialogue.hear_hears input
  generalize dialogue.hear input = heard at hhears
  unfold Scribe.note
  cases hhears with
  | leave hexit =>
      rw [if_pos hexit]
      exact ⟨Refines.of_nothing hfollows.interpreter_eq rfl (by simp), hfollows⟩
  | skip hexit hblank =>
      cases hfollows
      simp only [hexit, hblank, List.isEmpty_nil, if_true, Bool.false_eq_true, if_false]
      exact ⟨Refines.of_nothing rfl rfl (by simp), .ready _⟩
  | @run interpreter hexit hspoken =>
      cases hfollows
      simp only [hexit, List.isEmpty_iff, hspoken, Bool.false_eq_true, if_false]
      exact ⟨runStatement_refines _ _, runStatement_follows _ _⟩
  | @reject interpreter token pending fault hexit hrefused =>
      cases hfollows with
      | waiting hstops =>
        have hrejected := Scribe.isAnswer_of_refused hstops hrefused
        simp only [hexit, hrejected, Bool.false_eq_true, if_false]
        refine ⟨Refines.of_nothing rfl ?_ (by simp [ask]), .waiting hstops⟩
        rw [Heard.messages_after, List.filter_append, filter_ask]
        rfl
  | @accept interpreter token pending symbol hexit hanswer hplain hunpriced =>
      cases hfollows with
      | waiting hstops =>
        have hlearned := interpreter.learnSymbol_of_free ⟨token, symbol⟩ hplain hunpriced
        have hexecute := (interpreter.execute_definition token symbol).trans hlearned
        have haccepted :
            Scribe.isAnswer interpreter pending [token, Keyword.is.text, symbol.text] = true :=
          Scribe.isAnswer_definition hstops hplain hunpriced
        let taught : Interpreter :=
          { interpreter with session := interpreter.session.withSymbol ⟨token, symbol⟩ }
        have hrun := runStatement_refines taught pending
        simp only [hexit, hanswer, haccepted, hexecute, Bool.false_eq_true, if_false, if_true]
        refine ⟨?_, runStatement_follows taught pending⟩
        rw [Interpreter.executeAll_cons hexecute (by simp)]
        constructor
        · rw [Heard.dialogue_after]
          exact hrun.interpreter
        · rw [Heard.messages_after, List.filter_append, filter_note, hrun.shown]
          rfl
        · rw [Heard.signal_after, hrun.collapsed, List.mem_cons]
          exact (or_iff_right (by simp)).symm
        · intro other hmem
          rcases List.mem_cons.mp hmem with hnote | hmem
          · simp at hnote
          · exact hrun.completed other hmem

theorem hearAll_refines {dialogue : Dialogue} {scribe : Scribe}
    (hfollows : dialogue.Follows scribe) (inputs : List String) :
    Refines (dialogue.hearAll inputs) (scribe.interpreter.executeAll (scribe.script inputs)) := by
  induction inputs generalizing dialogue scribe with
  | nil => exact Refines.of_nothing hfollows.interpreter_eq rfl (by simp [hearAll])
  | cons input rest ih =>
      obtain ⟨hrefines, hnext⟩ := hear_simulates hfollows input
      have hlater := ih hnext
      rw [← hnext.interpreter_eq] at hlater
      simp only [hearAll, Scribe.script]
      exact hrefines.andThen hlater

/-- A fresh dialogue that hears any lines ends with the session of a fresh interpreter that executes
their script, and shows the same answers and refusals in the same order.  Nothing in the script has
to wait, and the one collapses exactly when the other does. -/
theorem suspended_runs_are_straight_runs (policy : UnitPricePolicy) (inputs : List String) :
    let heard := (fresh policy).hearAll inputs
    let scribe : Scribe := { interpreter := { policy } }
    let performed := ({ policy } : Interpreter).executeAll (scribe.script inputs)
    heard.dialogue.interpreter = performed.2 ∧
      heard.messages.filter Message.isShown = performed.1.flatMap Outcome.shown ∧
      (heard.signal = .collapse ↔ .zeroQuantity ∈ performed.1) ∧
      ∀ token, .replied (.missing token) ∉ performed.1 := by
  intro heard scribe performed
  have hfollows : (fresh policy).Follows scribe := .ready { policy }
  have hrefines : Refines heard performed := hearAll_refines hfollows inputs
  exact ⟨hrefines.interpreter, hrefines.shown, hrefines.collapsed, hrefines.completed⟩

example :
    let scribe : Scribe := { interpreter := {} }
    scribe.script ["how much is glob ?", "glob is A", "", "glob is I"] =
      [["glob", "is", "I"], ["how", "much", "is", "glob", "?"]] := by
  decide

end Dialogue
end RomanTrade
