import RomanTrade.Proofs.LineReplies

/-!
# Sessions with and without a log file

Whether a session keeps a log file changes nothing that the user sees of it, if the banner with the
settings is hidden.  The one exception is the warning that there will be no log file, which stands
before everything else on the error channel.
-/

namespace RomanTrade

namespace SettingsFile

def withFileLogging (settingsFile : SettingsFile) (enabled : Bool) : SettingsFile :=
  let settings := settingsFile.settings
  { settingsFile with
    settings := { settings with fileLogging := { settings.fileLogging with value := enabled } } }

end SettingsFile

namespace ReadResult

/-- The lines of a session that are heard: all before the first read that asks to leave or is no
line. -/
def linesHeard : List ReadResult → List String
  | .line text :: rest =>
    if asksToLeave (.line text) then [] else Text.trim text :: linesHeard rest
  | _ => []

end ReadResult

namespace Desk

/-- What messages print on a channel. -/
def linesOn (channel : Channel) (messages : List Message) : String :=
  String.join (messages.map (·.printed channel))

theorem linesOn_append (channel : Channel) (front back : List Message) :
    linesOn channel (front ++ back) = linesOn channel front ++ linesOn channel back := by
  simp [linesOn]

/-- No message prints nothing, and no warning either. -/
theorem err_of_nothing (desk : Desk) (journal : Journal) :
    desk.err ++ journal.warningFor [] desk ++ linesOn .err [] = desk.err := by
  simp [Journal.warningFor, linesOn]

/-- The messages behind those that settle the journal are printed without a warning. -/
theorem warned_append (before : Desk) {after : Desk} {journal next : Journal}
    {front : List Message}
    (hfront : front = [] ∧ next = journal ∧ (∃ out err, after = { before with out, err }) ∨
      front.any (·.target.reachesFile) = true ∧ next.Settled) (back : List Message) :
    journal.warningFor front before ++ linesOn .err front ++
        (next.warningFor back after ++ linesOn .err back) =
      journal.warningFor (front ++ back) before ++ linesOn .err (front ++ back) := by
  rw [linesOn_append]
  rcases hfront with ⟨rfl, rfl, out, err, rfl⟩ | ⟨hmeant, hsettled⟩
  · rw [next.warningFor_printed back before out err]
    simp [Journal.warningFor, linesOn]
  · rw [Journal.warningFor_of_settled hsettled]
    simp [Journal.warningFor, hmeant, String.append_assoc]

end Desk

namespace Application

/-- What two sessions have in common when the user sees no difference between them, apart from the
error channel.  The dialogue holds the alphabet and the prices. -/
structure SeenAlike (left right : (Ending × Application) × Desk) : Prop where
  ending : left.1.1 = right.1.1
  dialogue : left.1.2.dialogue = right.1.2.dialogue
  out : left.2.out = right.2.out

theorem beforeLine_of_hidden {app : Application}
    (hhidden : app.settingsFile.settings.showBanner.value = false) :
    app.beforeLine = Screen.prompt "> " := by
  simp [beforeLine, hhidden]

theorem out_of_hidden {left right : Application} {desk other : Desk}
    (hleft : left.settingsFile.settings.showBanner.value = false)
    (hright : right.settingsFile.settings.showBanner.value = false) (hout : desk.out = other.out) :
    (desk.write .out left.beforeLine).out = (other.write .out right.beforeLine).out := by
  rw [beforeLine_of_hidden hleft, beforeLine_of_hidden hright]
  simp only [Desk.write, hout]

theorem sessionOn_nil (app : Application) (desk : Desk) :
    app.sessionOn [] desk = ((.finished, app.prompted), desk.write .out app.beforeLine) := rfl

theorem sessionOn_endOfInput (app : Application) (rest : List ReadResult) (desk : Desk) :
    app.sessionOn (.endOfInput :: rest) desk =
      ((.finished, app.prompted), desk.write .out app.beforeLine) := rfl

theorem sessionOn_interrupted (app : Application) (rest : List ReadResult) (desk : Desk) :
    app.sessionOn (.interrupted :: rest) desk =
      ((.finished, app.prompted), desk.write .out app.beforeLine) := rfl

/-- What a line does to the two channels, and to the journal that is behind them. -/
theorem run_handle_channels (app : Application) (input : String) (desk : Desk) :
    let heard := app.dialogue.hear input
    ∃ journal after, (app.handle input : StateM Desk (Signal × Application)).run desk =
        ((heard.signal, { app with dialogue := heard.dialogue, journal }), after) ∧
      after.out = desk.out ++ spacing ++ Desk.linesOn .out heard.messages ∧
      after.err = desk.err ++ app.journal.warningFor heard.messages desk ++
        Desk.linesOn .err heard.messages ∧
      (heard.messages = [] ∧ journal = app.journal ∧ (∃ out err, after = { desk with out, err }) ∨
        heard.messages.any (·.target.reachesFile) = true ∧ journal.Settled) := by
  obtain ⟨journal, files, clock, hrun, hjournal⟩ := app.run_handle_eq input desk
  refine ⟨journal, _, hrun, rfl, rfl, hjournal.imp_left ?_⟩
  rintro ⟨hnone, hkept, rfl, rfl⟩
  exact ⟨hnone, hkept, _, _, rfl⟩

/-- Two applications that show no banner and have come to the same dialogue are seen alike from then
on, whatever their journals do. -/
theorem sessionOn_seenAlike {left right : Application} {desk other : Desk}
    (hleft : left.settingsFile.settings.showBanner.value = false)
    (hright : right.settingsFile.settings.showBanner.value = false)
    (hdialogue : left.dialogue = right.dialogue) (hout : desk.out = other.out)
    (reads : List ReadResult) :
    SeenAlike (left.sessionOn reads desk) (right.sessionOn reads other) := by
  -- Journals, files and errors may part on the way: only the dialogue and the output are carried.
  induction reads generalizing left right desk other with
  | nil =>
      rw [sessionOn_nil, sessionOn_nil]
      exact ⟨rfl, hdialogue, out_of_hidden hleft hright hout⟩
  | cons read rest ih =>
      have hshown := out_of_hidden hleft hright hout
      cases read with
      | endOfInput =>
          rw [sessionOn_endOfInput, sessionOn_endOfInput]
          exact ⟨rfl, hdialogue, hshown⟩
      | interrupted =>
          rw [sessionOn_interrupted, sessionOn_interrupted]
          exact ⟨rfl, hdialogue, hshown⟩
      | failed cause =>
          rw [sessionOn_failed, sessionOn_failed]
          exact ⟨rfl, hdialogue, hshown⟩
      | line text =>
          obtain ⟨leftJournal, leftAfter, hleftRun, hleftOut, _⟩ :=
            left.prompted.run_handle_channels (Text.trim text) (desk.write .out left.beforeLine)
          obtain ⟨rightJournal, rightAfter, hrightRun, hrightOut, _⟩ :=
            right.prompted.run_handle_channels (Text.trim text) (other.write .out right.beforeLine)
          have hprompted : left.prompted.dialogue = right.prompted.dialogue := hdialogue
          have hafter : leftAfter.out = rightAfter.out := by
            rw [hleftOut, hrightOut, hshown, hprompted]
          rw [sessionOn_line, sessionOn_line, hleftRun, hrightRun, hprompted]
          generalize right.prompted.dialogue.hear (Text.trim text) = heard
          cases heard.signal with
          | finish | fail | collapse => exact ⟨rfl, rfl, hafter⟩
          | proceed =>
              simp only [continued]
              exact ih hleft hright rfl hafter

/-- A session prints its messages on the error channel, behind the warning if one of them is meant
for a log file that cannot be created. -/
theorem err_sessionOn (app : Application) (reads : List ReadResult) (desk : Desk) :
    let messages := (app.dialogue.hearAll (ReadResult.linesHeard reads)).messages
    (app.sessionOn reads desk).2.err =
      desk.err ++ app.journal.warningFor messages desk ++ Desk.linesOn .err messages := by
  -- Lines without messages hand the warning on to the rest; the first that has some settles it.
  induction reads generalizing app desk with
  | nil => exact (desk.err_of_nothing app.journal).symm
  | cons read rest ih =>
      cases read with
      | endOfInput | interrupted | failed => exact (desk.err_of_nothing app.journal).symm
      | line text =>
        cases hleaves : (ReadResult.line text).asksToLeave with
        | true =>
            rw [sessionOn_of_leave app rest desk hleaves, ReadResult.linesHeard, if_pos hleaves]
            exact (desk.err_of_nothing app.journal).symm
        | false =>
            have hasks : Dialogue.isExit (Text.trim (Text.trim text)) = false := by
              rw [Text.trim_trim]
              exact hleaves
            have hsignal := app.dialogue.signal_hear_of_stay hasks
            obtain ⟨journal, after, hrun, _, herr, hjournal⟩ :=
              app.prompted.run_handle_channels (Text.trim text) (desk.write .out app.beforeLine)
            have hsame : app.prompted.dialogue = app.dialogue := rfl
            rw [hsame] at hrun herr hjournal
            rw [sessionOn_line, hrun, ReadResult.linesHeard, if_neg (by simp [hleaves])]
            simp only [Dialogue.hearAll, Heard.andThen]
            generalize app.dialogue.hear (Text.trim text) = heard at hsignal herr hjournal
            have hwarning : app.prompted.journal.warningFor heard.messages
                (desk.write .out app.beforeLine) = app.journal.warningFor heard.messages desk :=
              app.journal.warningFor_printed _ desk _ _
            rw [hwarning] at herr
            rcases hsignal with hproceeds | hcollapses
            · have hlater := desk.warned_append hjournal
                (heard.dialogue.hearAll (ReadResult.linesHeard rest)).messages
              rw [hproceeds, if_neg (by simp)]
              simp only [continued]
              rw [ih, Heard.messages_after, herr]
              simp only [String.append_assoc] at hlater ⊢
              exact congrArg (desk.err ++ ·) hlater
            · rw [hcollapses, if_pos rfl]
              exact herr

/-- Two sessions with the banner hidden, one with file logging and one without, end alike with the
same dialogue and the same output, whatever files they find.  Their errors are the same
too, except that the one with file logging begins with one line more, the warning, when its log file
cannot be created and some message is meant for it. -/
theorem file_logging_is_unseen (settingsFile : SettingsFile) (logsDirectory : String)
    (hhidden : settingsFile.settings.showBanner.value = false) (bytes : List UInt8)
    {desk other : Desk} (hout : other.out = desk.out) (herr : other.err = desk.err) :
    let reads := ReadResult.ofBytes bytes
    let logging := ofSettings (settingsFile.withFileLogging true) logsDirectory
    let plain := ofSettings (settingsFile.withFileLogging false) logsDirectory
    let logged := logging.sessionOn reads desk
    let unlogged := plain.sessionOn reads other
    let messages := (logging.dialogue.hearAll (ReadResult.linesHeard reads)).messages
    let created := ((Journal.createFile logsDirectory :
      StateM Desk (Except FileFault String)).run desk).1
    SeenAlike logged unlogged ∧
      (∀ cause, created = .error cause →
        (∃ message ∈ messages, message.target.reachesFile = true) →
          Text.IsLine (Journal.unavailable cause) ∧
          ∃ errors, unlogged.2.err = desk.err ++ errors ∧
            logged.2.err = desk.err ++ (Journal.unavailable cause ++ "\n") ++ errors) ∧
      ((∃ path, created = .ok path) ∨ (∀ message ∈ messages, message.target.reachesFile = false) →
        logged.2.err = unlogged.2.err) := by
  intro reads logging plain logged unlogged messages created
  have halike : SeenAlike logged unlogged := by
    apply sessionOn_seenAlike
    · exact hhidden
    · exact hhidden
    · rfl
    · exact hout.symm
  have hlogged : logged.2.err =
      desk.err ++ logging.journal.warningFor messages desk ++ Desk.linesOn .err messages :=
    logging.err_sessionOn reads desk
  have hquiet : plain.journal.Settled := fun henabled => absurd henabled Bool.false_ne_true
  have hunlogged : unlogged.2.err = desk.err ++ Desk.linesOn .err messages := by
    have hsession := plain.err_sessionOn reads other
    dsimp only at hsession
    rw [Journal.warningFor_of_settled hquiet, String.append_empty, herr] at hsession
    exact hsession
  have hunsettled : ¬ logging.journal.Settled := fun hsettled => Bool.false_ne_true (hsettled rfl)
  have hcreation : logging.journal.creation desk = created := rfl
  refine ⟨halike, ?_, ?_⟩
  · intro cause hfailed hmeant
    rw [hfailed] at hcreation
    refine ⟨Journal.isLine_unavailable hcreation, Desk.linesOn .err messages, hunlogged, ?_⟩
    have hwarning : logging.journal.warningFor messages desk =
        Journal.unavailable cause ++ "\n" := by
      rw [Journal.warningFor, if_pos (List.any_eq_true.mpr hmeant), Journal.warning,
        if_neg hunsettled, hcreation]
    rw [hlogged, hwarning]
  · intro hspared
    have hwarning : logging.journal.warningFor messages desk = "" := by
      rcases hspared with ⟨path, hcreated⟩ | hunmeant
      · rw [hcreated] at hcreation
        unfold Journal.warningFor Journal.warning
        simp only [hcreation, ite_self]
      · rw [Journal.warningFor, if_neg (by simpa using hunmeant)]
    rw [hlogged, hwarning, String.append_empty, hunlogged]

/-- Where `logs` is a file, the errors of the session with file logging begin with the warning. -/
theorem logs_in_the_way_call_for_the_warning :
    let desk : Desk :=
      { files := { nodes := [(["logs"], .file .empty)] }
        time := "2026-01-01 12:00:00"
        stamp := "20260101-120000" }
    let settingsFile : SettingsFile :=
      { path := "config.json", settings := { showBanner := ⟨false, ""⟩ } }
    let reads := ReadResult.ofBytes "glob is I\nhello\n".toUTF8.data.toList
    let logging := ofSettings (settingsFile.withFileLogging true) "logs"
    let plain := ofSettings (settingsFile.withFileLogging false) "logs"
    settingsFile.settings.showBanner.value = false ∧
      SeenAlike (logging.sessionOn reads desk) (plain.sessionOn reads desk) ∧
      ∃ errors, (plain.sessionOn reads desk).2.err = desk.err ++ errors ∧
        (logging.sessionOn reads desk).2.err =
          desk.err ++ (Journal.unavailable .exists ++ "\n") ++ errors := by
  intro desk settingsFile reads logging plain
  have hfailed : ((Journal.createFile "logs" :
      StateM Desk (Except FileFault String)).run desk).1 = .error .exists := by
    decide +kernel
  obtain ⟨halike, hwarns, _⟩ := file_logging_is_unseen settingsFile "logs" rfl
    "glob is I\nhello\n".toUTF8.data.toList (rfl : desk.out = desk.out) rfl
  obtain ⟨_, errors, hunlogged, hlogged⟩ := hwarns .exists hfailed (by decide +kernel)
  -- The equations are rewritten with: comparing them as terms would run both sessions.
  refine ⟨rfl, halike, errors, ?_, ?_⟩
  · rw [hunlogged]
  · rw [hlogged]

end Application
end RomanTrade
