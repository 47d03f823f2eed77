import RomanTrade.Proofs.StraightLine
import RomanTrade.Proofs.WaitingConsole

/-!
# How a session ends

No line that can be read fails a session: what is typed is answered or refused, or the program goes
down over a quantity of zero.  A session that comes to an end fails exactly on a line that is no
text, and nothing behind the line that asks to leave is taken up.
-/

namespace RomanTrade

namespace LineFlow

variable {m : Type → Type} [Monad m] [LawfulMonad m]

theorem run_cons_line (flow : LineFlow m) (text : String) (rest : List ReadResult) :
    flow.run (.line text :: rest) = (do
      match ← flow.render with
      | .error fault => return .failed fault
      | .ok () =>
        match ← flow.handle (Text.trim text) with
        | .proceed => flow.run rest
        | .finish => return .finished
        | .fail fault => return .failed fault
        | .collapse => return .collapsed) := by
  simp only [run, turn, react, bind_assoc, pure_bind]
  congr 1
  funext shown
  cases shown with
  | error fault => rw [pure_bind]
  | ok =>
      rw [bind_assoc]
      congr 1
      funext signal
      cases signal with
      | proceed | finish | fail | collapse => rw [pure_bind]

end LineFlow

namespace ReadResult

theorem ofLineBytes_cases (line : List UInt8) :
    (line.toByteArray.IsValidUTF8 ∧ ∃ text, ofLineBytes line = .line text) ∨
      (¬ line.toByteArray.IsValidUTF8 ∧ ofLineBytes line = .failed .notText) := by
  unfold ofLineBytes String.fromUTF8?
  by_cases hvalid : line.toByteArray.IsValidUTF8
  · rw [dif_pos hvalid]
    exact .inl ⟨hvalid, _, rfl⟩
  · rw [dif_neg hvalid]
    exact .inr ⟨hvalid, rfl⟩

/-- Whether a line that was read asks to leave. -/
def asksToLeave : ReadResult → Bool
  | .line text => Dialogue.isExit (Text.trim text)
  | .endOfInput | .interrupted | .failed _ => false

/-- The lines before the first one that asks to leave, or before the end of the input. -/
def linesBeforeExit (lines : List (List UInt8)) : List (List UInt8) :=
  lines.takeWhile fun line => !(ofLineBytes line).asksToLeave

theorem linesBeforeExit_cons_of_leave {line : List UInt8} {rest : List (List UInt8)}
    (hleaves : (ofLineBytes line).asksToLeave = true) : linesBeforeExit (line :: rest) = [] := by
  apply List.takeWhile_cons_of_neg
  simp [hleaves]

theorem linesBeforeExit_cons_of_stay {line : List UInt8} {rest : List (List UInt8)}
    (hstays : (ofLineBytes line).asksToLeave = false) :
    linesBeforeExit (line :: rest) = line :: linesBeforeExit rest := by
  apply List.takeWhile_cons_of_pos
  simp [hstays]

theorem lineBytes_ne_nil {bytes : List UInt8} (hne : bytes ≠ []) : lineBytes bytes ≠ [] := by
  cases bytes with
  | nil => contradiction
  | cons b rest =>
      unfold lineBytes
      split
      · simp
      · split
        · simp
        · simp

theorem lineBytes_append_lineFeed (front behind : List UInt8) :
    lineBytes (front ++ 0x0a :: behind) = lineBytes (front ++ [0x0a]) ++ lineBytes behind := by
  induction front with
  | nil => rfl
  | cons b rest ih =>
      simp only [List.cons_append, lineBytes, ih]
      split
      · rfl
      · have hne : lineBytes (rest ++ [0x0a]) ≠ [] := lineBytes_ne_nil (by simp)
        cases hlines : lineBytes (rest ++ [0x0a]) with
        | nil => exact absurd hlines hne
        | cons first more => rfl

theorem ofBytes_append_lineFeed (front behind : List UInt8) :
    ofBytes (front ++ 0x0a :: behind) = ofBytes (front ++ [0x0a]) ++ ofBytes behind := by
  unfold ofBytes
  rw [lineBytes_append_lineFeed, List.map_append]

end ReadResult

namespace Interpreter

theorem isUserFault_of_execute {interpreter next : Interpreter} {tokens : List String}
    {fault : Fault} (h : interpreter.execute tokens = (.refused fault, next)) :
    fault.isUserFault = true := by
  apply (interpreter.execute_presentable tokens).refusal
  rw [h]

theorem isUserFault_of_supplyDefinition {interpreter next : Interpreter} {missing : String}
    {tokens : List String} {fault : Fault}
    (h : interpreter.supplyDefinition missing tokens = (.refused fault, next)) :
    fault.isUserFault = true := by
  rcases interpreter.supplyDefinition_cases missing tokens with
    ⟨other, htyped, hrefused⟩ | ⟨symbol, hanswer, hplain, hunpriced⟩
  · rw [hrefused] at h
    cases h
    exact htyped
  · rw [hanswer, supplyDefinition_definition,
      interpreter.learnSymbol_of_free ⟨missing, symbol⟩ hplain hunpriced] at h
    cases h

end Interpreter

namespace Dialogue

theorem signal_runStatement (interpreter : Interpreter) (tokens : List String) :
    (runStatement interpreter tokens).signal = .proceed ∨
      (runStatement interpreter tokens).signal = .collapse := by
  cases hexecute : interpreter.execute tokens with
  | mk outcome next =>
    rw [runStatement_eq hexecute, Heard.signal_after]
    cases outcome with
    | zeroQuantity => exact .inr rfl
    | replied reply => cases reply <;> exact .inl rfl
    | refused fault =>
        have htyped := Interpreter.isUserFault_of_execute hexecute
        left
        simp only [takeOutcome, takeFault, htyped, if_true]

theorem signal_hear_of_stay {dialogue : Dialogue} {input : String}
    (hstays : isExit (Text.trim input) = false) :
    (dialogue.hear input).signal = .proceed ∨ (dialogue.hear input).signal = .collapse := by
  have hhears := dialogue.hear_hears input
  generalize dialogue.hear input = heard at hhears
  cases hhears with
  | leave hasks => exact absurd hasks (Bool.eq_false_iff.mp hstays)
  | skip => exact .inl rfl
  | reject => exact .inl rfl
  | run => exact signal_runStatement _ _
  | accept =>
      rw [Heard.signal_after]
      exact signal_runStatement _ _

end Dialogue

namespace Application

theorem signal_handle (app : Application) (input : String) (desk : Desk) :
    ((app.handle input : StateM Desk (Signal × Application)).run desk).1.1 =
      (app.dialogue.hear input).signal := by
  cases hrecorded : (app.journal.recordAll (app.dialogue.hear input).messages :
      StateM Desk Journal).run (desk.write .out spacing) with
  | mk journal after => rw [run_handle rfl hrecorded]

theorem signal_handle_ne_fail (app : Application) (input : String) (desk : Desk) (fault : Fault) :
    ((app.handle input : StateM Desk (Signal × Application)).run desk).1.1 ≠ .fail fault := by
  rw [signal_handle]
  cases hasks : Dialogue.isExit (Text.trim input) with
  | true => simp [Dialogue.hear_of_isExit hasks]
  | false =>
      rcases app.dialogue.signal_hear_of_stay hasks with hsignal | hsignal
      · simp [hsignal]
      · simp [hsignal]

/-- The application once the prompt has been shown. -/
def prompted (app : Application) : Application :=
  { app with opened := true }

/-- A session on a desk: its ending, the application then, and the desk then. -/
def sessionOn (app : Application) (reads : List ReadResult) (desk : Desk) :
    (Ending × Application) × Desk :=
  (app.runSession reads : StateM Desk (Ending × Application)).run desk

/-- How a session goes on once a line has been handled. -/
def continued (rest : List ReadResult) :
    (Signal × Application) × Desk → (Ending × Application) × Desk
  | ((.proceed, next), after) => next.sessionOn rest after
  | ((.finish, next), after) => ((.finished, next), after)
  | ((.fail fault, next), after) => ((.failed fault, next), after)
  | ((.collapse, next), after) => ((.collapsed, next), after)

theorem sessionOn_failed (app : Application) (cause : FileFault) (rest : List ReadResult)
    (desk : Desk) :
    app.sessionOn (.failed cause :: rest) desk =
      ((.failed (.file cause), app.prompted), desk.write .out app.beforeLine) := rfl

theorem sessionOn_line (app : Application) (text : String) (rest : List ReadResult) (desk : Desk) :
    app.sessionOn (.line text :: rest) desk =
      continued rest ((app.prompted.handle (Text.trim text) :
        StateM Desk (Signal × Application)).run (desk.write .out app.beforeLine)) := by
  have hrendered : ((flow.render : StateT Application (StateM Desk) (Except Fault Unit)).run
      app).run desk = ((.ok (), app.prompted), desk.write .out app.beforeLine) := rfl
  cases hhandled : (app.prompted.handle (Text.trim text) :
      StateM Desk (Signal × Application)).run (desk.write .out app.beforeLine) with
  | mk result after =>
    obtain ⟨signal, next⟩ := result
    have hreacted : ((flow.handle (Text.trim text) : StateT Application (StateM Desk) Signal).run
        app.prompted).run (desk.write .out app.beforeLine) = ((signal, next), after) := hhandled
    unfold sessionOn runSession
    rw [LineFlow.run_cons_line, StateT.run_bind, Desk.run_bind_of_run hrendered]
    dsimp only
    rw [StateT.run_bind, Desk.run_bind_of_run hreacted]
    cases signal with
    | proceed | finish | fail | collapse => rfl

/-- A line that asks to leave finishes the session, whatever is behind it. -/
theorem sessionOn_of_leave (app : Application) {read : ReadResult} (rest : List ReadResult)
    (desk : Desk) (hleaves : read.asksToLeave = true) :
    app.sessionOn (read :: rest) desk =
      ((.finished, app.prompted), (desk.write .out app.beforeLine).write .out spacing) := by
  cases read with
  | endOfInput | interrupted | failed => cases hleaves
  | line text =>
      have hasks : Dialogue.isExit (Text.trim (Text.trim text)) = true := by
        rw [Text.trim_trim]
        exact hleaves
      rw [sessionOn_line, handle_of_isExit hasks]
      rfl

/-- Any other line collapses the session or keeps it going, and does so whatever is behind it. -/
theorem sessionOn_of_stay (app : Application) {text : String} (desk : Desk)
    (hstays : (ReadResult.line text).asksToLeave = false) :
    ∃ (next : Application) (after : Desk),
      (∀ rest, app.sessionOn (.line text :: rest) desk = ((.collapsed, next), after)) ∨
        ∀ rest, app.sessionOn (.line text :: rest) desk = next.sessionOn rest after := by
  have hasks : Dialogue.isExit (Text.trim (Text.trim text)) = false := by
    rw [Text.trim_trim]
    exact hstays
  have hsignal := app.prompted.signal_handle (Text.trim text) (desk.write .out app.beforeLine)
  cases hhandled : (app.prompted.handle (Text.trim text) :
      StateM Desk (Signal × Application)).run (desk.write .out app.beforeLine) with
  | mk result after =>
    obtain ⟨signal, next⟩ := result
    rw [hhandled] at hsignal
    refine ⟨next, after, ?_⟩
    rcases app.prompted.dialogue.signal_hear_of_stay hasks with hproceeds | hcollapses
    · obtain rfl : signal = .proceed := hsignal.trans hproceeds
      right
      intro rest
      rw [sessionOn_line, hhandled]
      rfl
    · obtain rfl : signal = .collapse := hsignal.trans hcollapses
      left
      intro rest
      rw [sessionOn_line, hhandled]
      rfl

/-- What a session comes to is settled by the lines before the first one that asks to leave. -/
theorem ending_of_lines (app : Application) (lines : List (List UInt8)) (desk : Desk)
    (hreturns : (app.sessionOn (lines.map ReadResult.ofLineBytes) desk).1.1 ≠ .collapsed) :
    (app.sessionOn (lines.map ReadResult.ofLineBytes) desk).1.1 =
      if ∀ line ∈ ReadResult.linesBeforeExit lines, line.toByteArray.IsValidUTF8 then .finished
      else .failed (.file .notText) := by
  -- Each line hands the rest to the application and the desk that it leaves behind.
  induction lines generalizing app desk with
  | nil => rfl
  | cons line rest ih =>
      rw [List.map_cons] at hreturns ⊢
      cases hleaves : (ReadResult.ofLineBytes line).asksToLeave with
      | true =>
          rw [sessionOn_of_leave app _ desk hleaves,
            ReadResult.linesBeforeExit_cons_of_leave hleaves, if_pos (by simp)]
      | false =>
          rw [ReadResult.linesBeforeExit_cons_of_stay hleaves]
          rcases ReadResult.ofLineBytes_cases line with ⟨hvalid, text, htext⟩ | ⟨hinvalid, hfailed⟩
          · rw [htext] at hleaves hreturns ⊢
            obtain ⟨next, after, hcollapsed | hgoes⟩ := sessionOn_of_stay app desk hleaves
            · rw [hcollapsed] at hreturns
              exact absurd rfl hreturns
            · rw [hgoes] at hreturns ⊢
              rw [ih next after hreturns]
              simp [hvalid]
          · rw [hfailed, sessionOn_failed, if_neg (by simp [hinvalid])]

/-- Nothing behind a line that asks to leave is taken up. -/
theorem sessionOn_append_of_leave (app : Application) {reads : List ReadResult}
    (behind : List ReadResult) (desk : Desk)
    (hleaves : ∃ read ∈ reads, read.asksToLeave = true) :
    app.sessionOn (reads ++ behind) desk = app.sessionOn reads desk := by
  induction reads generalizing app desk with
  | nil => simp at hleaves
  | cons read rest ih =>
      rw [List.cons_append]
      cases hread : read.asksToLeave with
      | true => rw [sessionOn_of_leave app _ desk hread, sessionOn_of_leave app _ desk hread]
      | false =>
          have hlater : ∃ read ∈ rest, read.asksToLeave = true := by
            simpa [hread] using hleaves
          cases read with
          | endOfInput | interrupted | failed => rfl
          | line text =>
              obtain ⟨next, after, hcollapsed | hgoes⟩ := sessionOn_of_stay app desk hread
              · rw [hcollapsed, hcollapsed]
              · rw [hgoes, hgoes, ih next after hlater]

/-- Whatever is typed is answered or refused, never a failure; so a session that comes to an end
fails on a line before the exit that is no text, and otherwise finishes.  Bytes behind the line feed
that ends an exit change nothing. -/
theorem only_invalid_text_fails_sessions :
    (∀ (interpreter next : Interpreter) (tokens : List String) (fault : Fault),
      interpreter.execute tokens = (.refused fault, next) → fault.isUserFault = true) ∧
    (∀ (interpreter next : Interpreter) (missing : String) (tokens : List String) (fault : Fault),
      interpreter.supplyDefinition missing tokens = (.refused fault, next) →
        fault.isUserFault = true) ∧
    (∀ (app : Application) (input : String) (desk : Desk) (fault : Fault),
      ((app.handle input : StateM Desk (Signal × Application)).run desk).1.1 ≠ .fail fault) ∧
    (∀ (app : Application) (bytes : List UInt8) (desk : Desk),
      (app.sessionOn (ReadResult.ofBytes bytes) desk).1.1 ≠ .collapsed →
        (app.sessionOn (ReadResult.ofBytes bytes) desk).1.1 =
          if ∀ line ∈ ReadResult.linesBeforeExit (ReadResult.lineBytes bytes),
            line.toByteArray.IsValidUTF8 then .finished
          else .failed (.file .notText)) ∧
    (∀ (app : Application) (front behind : List UInt8) (desk : Desk),
      (∃ read ∈ ReadResult.ofBytes (front ++ [0x0a]), read.asksToLeave = true) →
        app.sessionOn (ReadResult.ofBytes (front ++ 0x0a :: behind)) desk =
          app.sessionOn (ReadResult.ofBytes (front ++ [0x0a])) desk) := by
  refine ⟨?_, ?_, signal_handle_ne_fail, ?_, ?_⟩
  · intro interpreter next tokens fault hrefused
    exact Interpreter.isUserFault_of_execute hrefused
  · intro interpreter next missing tokens fault hrefused
    exact Interpreter.isUserFault_of_supplyDefinition hrefused
  · intro app bytes desk hreturns
    exact app.ending_of_lines (ReadResult.lineBytes bytes) desk hreturns
  · intro app front behind desk hleaves
    rw [ReadResult.ofBytes_append_lineFeed]
    exact app.sessionOn_append_of_leave (ReadResult.ofBytes behind) desk hleaves

/-- Invalid bytes fail a session that waits for a definition, unless the line before them asks to
leave. -/
theorem invalid_answer_fails_session :
    let desk : Desk := { time := "2026-01-01 12:00:00", stamp := "20260101-120000" }
    let app := ofSettings { path := "config.json" } "logs"
    let asked := "how much is glob ?\n".toUTF8.data.toList
    let leaving := " Exit \n".toUTF8.data.toList
    (app.sessionOn (ReadResult.ofBytes (asked ++ [0xff, 0x0a])) desk).1.1 =
        .failed (.file .notText) ∧
      (app.sessionOn (ReadResult.ofBytes (asked ++ leaving ++ [0xff, 0x0a])) desk).1.1 =
        .finished := by
  intro desk app asked leaving
  obtain ⟨-, -, -, hending, -⟩ := only_invalid_text_fails_sessions
  constructor
  · rw [hending app (asked ++ [0xff, 0x0a]) desk (by decide +kernel)]
    exact if_neg (by decide +kernel)
  · rw [hending app (asked ++ leaving ++ [0xff, 0x0a]) desk (by decide +kernel)]
    exact if_pos (by decide +kernel)

end Application
end RomanTrade
