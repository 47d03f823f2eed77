import RomanTrade.Proofs.LogFileContent

/-!
# Calls on a journal

A journal is told messages, switched on and off, and moved to other directories, in any order, while
the clock of its desk goes on and the files may change on their own.  Apart from the one attempt to
create a log file, all of this prints messages and adds entries to the file that the journal has, if
any.
-/

namespace RomanTrade

/-- What happens to a journal and its desk: a call on the journal, or a change of the files that is
not its doing. -/
inductive Occurrence where
  | logged (message : Message)
  | switched (enabled : Bool)
  | moved (directory : String)
  | meanwhile (change : FileTree → FileTree)

namespace Occurrence

def messages : List Occurrence → List Message
  | [] => []
  | logged message :: rest => message :: messages rest
  | switched _ :: rest | moved _ :: rest | meanwhile _ :: rest => messages rest

/-- Whether file logging is on afterwards. -/
def enabledAfter (enabled : Bool) : List Occurrence → Bool
  | [] => enabled
  | switched next :: rest => enabledAfter next rest
  | logged _ :: rest | moved _ :: rest | meanwhile _ :: rest => enabledAfter enabled rest

/-- The directory that was chosen last. -/
def directoryAfter (directory : String) : List Occurrence → String
  | [] => directory
  | moved next :: rest => directoryAfter next rest
  | logged _ :: rest | switched _ :: rest | meanwhile _ :: rest =>
    directoryAfter directory rest

/-- The messages for the log file that come while file logging is on. -/
def meant (enabled : Bool) : List Occurrence → List Message
  | [] => []
  | logged message :: rest =>
    if message.target.reachesFile && enabled then message :: meant enabled rest
    else meant enabled rest
  | switched next :: rest => meant next rest
  | moved _ :: rest | meanwhile _ :: rest => meant enabled rest

/-- Whatever changes the files meanwhile leaves a log file as it is. -/
def KeepLog (path : String) (occurrences : List Occurrence) : Prop :=
  ∀ change, meanwhile change ∈ occurrences →
    ∀ tree location content, FileTree.HoldsFile tree path location content →
      FileTree.HoldsFile (change tree) path location content

theorem KeepLog.tail {path : String} {occurrence : Occurrence} {rest : List Occurrence}
    (h : KeepLog path (occurrence :: rest)) : KeepLog path rest :=
  fun change hmem => h change (List.mem_cons_of_mem _ hmem)

end Occurrence

namespace Desk

/-- The desk after occurrences of which none makes the journal ask for a log file: messages are
printed, and they are entered in the log file that is there. -/
def goOn (path? : Option String) (enabled : Bool) (desk : Desk) : List Occurrence → Desk
  | [] => desk
  | .logged message :: rest =>
    let shown := desk.printAll [message]
    if message.target.reachesFile && enabled then
      (shown.enter path? message).goOn path? enabled rest
    else shown.goOn path? enabled rest
  | .switched next :: rest => desk.goOn path? next rest
  | .moved _ :: rest => desk.goOn path? enabled rest
  | .meanwhile change :: rest =>
    ({ desk with files := change desk.files } : Desk).goOn path? enabled rest

/-- What has been printed on the two channels. -/
def console (desk : Desk) : String × String :=
  (desk.out, desk.err)

theorem console_printAll_congr {left right : Desk} (h : left.console = right.console)
    (messages : List Message) :
    (left.printAll messages).console = (right.printAll messages).console := by
  obtain ⟨hout, herr⟩ := Prod.mk.inj h
  simp only [console, printAll, hout, herr]

theorem console_write_congr {left right : Desk} (h : left.console = right.console)
    (channel : Channel) (text : String) :
    (left.write channel text).console = (right.write channel text).console := by
  obtain ⟨hout, herr⟩ := Prod.mk.inj h
  cases channel with
  | out => simp only [console, write, hout, herr]
  | err => simp only [console, write, hout, herr]

@[simp] theorem console_enter (desk : Desk) (path? : Option String) (message : Message) :
    (desk.enter path? message).console = desk.console := by
  obtain ⟨files, clock, hentered⟩ := desk.exists_enter_eq path? message
  rw [hentered]
  rfl

/-- An entry takes one look at the clock. -/
theorem clock_enter (desk : Desk) (path : String) (message : Message) :
    (desk.enter (some path) message).toClock = desk.toClock.next := by
  obtain ⟨files, hentered⟩ := desk.exists_enter_some_eq path message
  rw [hentered]

/-- Without a log file nobody looks at the clock. -/
theorem clock_goOn_none (enabled : Bool) (desk : Desk) (occurrences : List Occurrence) :
    (desk.goOn none enabled occurrences).toClock = desk.toClock := by
  induction occurrences generalizing enabled desk with
  | nil => rfl
  | cons occurrence rest ih =>
      cases occurrence with
      | switched next => exact ih next desk
      | moved directory => exact ih enabled desk
      | meanwhile change => exact ih enabled { desk with files := change desk.files }
      | logged message =>
          rw [goOn]
          split
          · exact ih enabled (desk.printAll [message])
          · exact ih enabled (desk.printAll [message])

/-- Whatever else happens, the messages are printed, and nothing besides them. -/
theorem console_goOn (path? : Option String) (enabled : Bool) (desk : Desk)
    (occurrences : List Occurrence) :
    (desk.goOn path? enabled occurrences).console =
      (desk.printAll (Occurrence.messages occurrences)).console := by
  induction occurrences generalizing enabled desk with
  | nil => exact congrArg console desk.printAll_nil.symm
  | cons occurrence rest ih =>
      cases occurrence with
      | switched next => exact ih next desk
      | moved directory => exact ih enabled desk
      | meanwhile change => exact ih enabled _
      | logged message =>
          rw [Occurrence.messages, desk.printAll_cons, goOn]
          split
          · rw [ih]
            exact console_printAll_congr (console_enter _ path? message) _
          · exact ih enabled _

section LogFile

variable {desk : Desk} {path : String} {location : Location} {content : ByteArray}
  {occurrences : List Occurrence}

/-- The log file that is there takes an entry for each message that is meant for it. -/
theorem holdsFile_goOn (enabled : Bool) (hkept : Occurrence.KeepLog path occurrences)
    (hholds : desk.files.HoldsFile path location content) :
    (desk.goOn (some path) enabled occurrences).files.HoldsFile path location
      (content ++ (Text.joinLines
        (Journal.entries desk.toClock (Occurrence.meant enabled occurrences))).toUTF8) := by
  induction occurrences generalizing enabled desk content with
  | nil =>
      have hnothing : content ++ (Text.joinLines []).toUTF8 = content := ByteArray.append_empty
      exact hnothing.symm ▸ hholds
  | cons occurrence rest ih =>
      have hrest : Occurrence.KeepLog path rest := hkept.tail
      cases occurrence with
      | switched next => exact ih next hrest hholds
      | moved directory => exact ih enabled hrest hholds
      | meanwhile change =>
          exact ih enabled hrest (hkept change List.mem_cons_self _ _ _ hholds)
      | logged message =>
          have hshown : (desk.printAll [message]).files.HoldsFile path location content := hholds
          rw [Occurrence.meant, goOn]
          split
          · have hafter := ih enabled hrest (holdsFile_enter hshown message)
            rw [clock_enter, Text.append_toUTF8_joinLines] at hafter
            exact hafter
          · exact ih enabled hrest hshown

end LogFile

end Desk

namespace Journal

open Occurrence

def undergo (journal : Journal) : Occurrence → StateM Desk Journal
  | .logged message => journal.record message
  | .switched enabled => return journal.setEnabled enabled
  | .moved directory => return journal.setDirectory directory
  | .meanwhile change => fun desk => (journal, { desk with files := change desk.files })

/-- The journal and the desk after occurrences, one after the other. -/
def live (journal : Journal) (desk : Desk) : List Occurrence → Journal × Desk
  | [] => (journal, desk)
  | occurrence :: rest =>
    let (next, after) := (journal.undergo occurrence).run desk
    next.live after rest

theorem live_append (journal : Journal) (desk : Desk) (front back : List Occurrence) :
    journal.live desk (front ++ back) =
      (journal.live desk front).1.live (journal.live desk front).2 back := by
  induction front generalizing journal desk with
  | nil => rfl
  | cons occurrence rest ih => exact ih _ _

/-- The journal after occurrences of which none makes it ask for a log file. -/
def turned (journal : Journal) (occurrences : List Occurrence) : Journal :=
  { journal with
    enabled := enabledAfter journal.enabled occurrences
    directory :=
      if journal.attempted then journal.directory
      else directoryAfter journal.directory occurrences }

variable {journal : Journal} {desk : Desk} {message : Message} {occurrences : List Occurrence}

@[simp] theorem attempted_setDirectory (journal : Journal) (directory : String) :
    (journal.setDirectory directory).attempted = journal.attempted := by
  unfold setDirectory
  split <;> rfl

@[simp] theorem enabled_setDirectory (journal : Journal) (directory : String) :
    (journal.setDirectory directory).enabled = journal.enabled := by
  unfold setDirectory
  split <;> rfl

@[simp] theorem path?_setDirectory (journal : Journal) (directory : String) :
    (journal.setDirectory directory).path? = journal.path? := by
  unfold setDirectory
  split <;> rfl

theorem turned_setDirectory (journal : Journal) (directory : String) (rest : List Occurrence) :
    (journal.setDirectory directory).turned rest = journal.turned (.moved directory :: rest) := by
  cases hattempted : journal.attempted <;>
    simp [turned, setDirectory, hattempted, enabledAfter, directoryAfter]

/-- A journal that is past its attempt, or is not asked for one, goes on without any. -/
theorem live_eq_goOn
    (h : journal.attempted = true ∨ meant journal.enabled occurrences = []) :
    journal.live desk occurrences =
      (journal.turned occurrences, desk.goOn journal.path? journal.enabled occurrences) := by
  induction occurrences generalizing journal desk with
  | nil => simp [live, turned, enabledAfter, directoryAfter, Desk.goOn]
  | cons occurrence rest ih =>
      cases occurrence with
      | switched enabled =>
          exact @ih (journal.setEnabled enabled) desk h
      | moved directory =>
          have hrest := @ih (journal.setDirectory directory) desk
          rw [turned_setDirectory] at hrest
          simp only [attempted_setDirectory, enabled_setDirectory, path?_setDirectory] at hrest
          exact hrest h
      | meanwhile change =>
          exact @ih journal { desk with files := change desk.files } h
      | logged message =>
          by_cases hmeant : (message.target.reachesFile && journal.enabled) = true
          · have hattempted : journal.attempted = true := by
              refine h.resolve_right ?_
              simp [meant, hmeant]
            have hrest := @ih journal ((desk.printAll [message]).enter journal.path? message)
              (.inl hattempted)
            rw [live, undergo, run_record_of_attempted hattempted hmeant, Desk.goOn, if_pos hmeant]
            exact hrest
          · have hrest : journal.attempted = true ∨ meant journal.enabled rest = [] := by
              rw [meant, if_neg hmeant] at h
              exact h
            rw [live, undergo, run_record, if_neg hmeant, Desk.goOn, if_neg hmeant]
            exact @ih journal (desk.printAll [message]) hrest

end Journal
end RomanTrade
