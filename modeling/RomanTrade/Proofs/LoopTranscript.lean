import Mathlib.Data.List.Infix
import RomanTrade.LineLoop

/-!
# Transcripts of the line loop

Whatever the flow does, the loop asks it to render and to handle in turns, reads one line after each
render, and stops at the first call that settles how it ends.  The calls are written down by the
flow and by the reads themselves, and writing them down changes nothing else.
-/

namespace RomanTrade

def ReadResult.trimmed? : ReadResult → Option String
  | .line text => some (Text.trim text)
  | .endOfInput | .interrupted | .failed _ => none

namespace LineFlow

/-- A call that the loop made, with what came of it. -/
inductive Call where
  | rendered (result : Except Fault Unit)
  | read (result : ReadResult)
  | handled (input : String) (signal : Signal)

namespace Call

def read? : Call → Option ReadResult
  | .read result => some result
  | .rendered _ | .handled _ _ => none

def input? : Call → Option String
  | .handled input _ => some input
  | .rendered _ | .read _ => none

/-- Whether a call of the flow renders; reads are no calls of the flow. -/
def renders? : Call → Option Bool
  | .rendered _ => some true
  | .read _ => none
  | .handled _ _ => some false

/-- The ending that a call settles. -/
def ending? : Call → Option Ending
  | .rendered (.error fault) => some (.failed fault)
  | .rendered (.ok ()) => none
  | .read (.line _) => none
  | .read .endOfInput | .read .interrupted => some .finished
  | .read (.failed cause) => some (.failed (.file cause))
  | .handled _ .proceed => none
  | .handled _ .finish => some .finished
  | .handled _ (.fail fault) => some (.failed fault)
  | .handled _ .collapse => some .collapsed

/-- What comes directly behind a call. -/
inductive Leads : Call → Call → Prop where
  | toRead (result : ReadResult) : Leads (.rendered (.ok ())) (.read result)
  | toHandle (text : String) (signal : Signal) :
      Leads (.read (.line text)) (.handled (Text.trim text) signal)
  | toRender (input : String) (result : Except Fault Unit) :
      Leads (.handled input .proceed) (.rendered result)

end Call

/-- The calls of a loop over `reads` that came to `ending`. -/
structure Disciplined (reads : List ReadResult) (calls : List Call) (ending : Ending) : Prop where
  starts : ∃ result, calls.head? = some (.rendered result)
  alternates : (calls.filterMap Call.renders?).IsChain (· ≠ ·)
  ordered : calls.IsChain Call.Leads
  /-- Behind the last of the known reads the input ends. -/
  reads_in_order : calls.filterMap Call.read? <+: reads ++ [.endOfInput]
  inputs_are_lines :
    calls.filterMap Call.input? = (calls.filterMap Call.read?).filterMap ReadResult.trimmed?
  ends : ∃ before last, calls = before ++ [last] ∧
    (∀ call ∈ before, call.ending? = none) ∧ last.ending? = some ending

section Recording

variable {m : Type → Type} [Monad m]

/-- The loop over reads that are handed out one by one. -/
def runOver (flow : LineFlow m) (deliver : ReadResult → m ReadResult) :
    List ReadResult → m Ending
  | [] => do
    match ← flow.turn (deliver .endOfInput) with
    | some ending => return ending
    | none => return .finished
  | read :: rest => do
    match ← flow.turn (deliver read) with
    | some ending => return ending
    | none => flow.runOver deliver rest

theorem runOver_pure (flow : LineFlow m) (reads : List ReadResult) :
    flow.runOver pure reads = flow.run reads := by
  induction reads with
  | nil => rfl
  | cons read rest ih =>
      rw [runOver, run]
      congr 1
      funext ending?
      cases ending? with
      | none => exact ih
      | some ending => rfl

theorem react_of_unheard (flow : LineFlow m) {read : ReadResult} (hread : read.trimmed? = none) :
    flow.react read = pure (Call.read read).ending? := by
  cases read with
  | line text => contradiction
  | endOfInput | interrupted | failed => rfl

theorem react_line (flow : LineFlow m) (text : String) :
    flow.react (.line text) = do
      let signal ← flow.handle (Text.trim text)
      return (Call.handled (Text.trim text) signal).ending? := by
  rw [react]
  congr 1
  funext signal
  cases signal with
  | proceed | finish | fail | collapse => rfl

/-- The flow that also writes its calls down. -/
def recorded (flow : LineFlow m) : LineFlow (StateT (List Call) m) where
  render := do
    let result ← flow.render
    modify (· ++ [.rendered result])
    return result
  handle := fun input => do
    let signal ← flow.handle input
    modify (· ++ [.handled input signal])
    return signal

def recordedRead (read : ReadResult) : StateT (List Call) m ReadResult := do
  modify (· ++ [.read read])
  return read

/-- The ending of the loop and its calls. -/
def transcript (flow : LineFlow m) (reads : List ReadResult) : m (Ending × List Call) :=
  (flow.recorded.runOver recordedRead reads).run []

end Recording

/-- The calls of one turn of the loop. -/
inductive Round (read : ReadResult) : List Call → Call → Prop where
  | unrendered (fault : Fault) : Round read [] (.rendered (.error fault))
  | unheard (hread : read.trimmed? = none) : Round read [.rendered (.ok ())] (.read read)
  | heard {text : String} (hread : read = .line text) (signal : Signal) :
      Round read [.rendered (.ok ()), .read read] (.handled (Text.trim text) signal)

theorem Round.disciplined {read : ReadResult} {before : List Call} {last : Call} {ending : Ending}
    {reads : List ReadResult} (hround : Round read before last)
    (hread : [read] <+: reads ++ [.endOfInput]) (hends : last.ending? = some ending) :
    Disciplined reads (before ++ [last]) ending := by
  refine ⟨?_, ?_, ?_, ?_, ?_, before, last, rfl, ?_, hends⟩
  · cases hround <;> simp
  · cases hround <;> simp [List.filterMap_cons, Call.renders?]
  · cases hround with
    | unrendered fault => exact .singleton _
    | unheard hplain => exact .cons_cons (.toRead read) (.singleton _)
    | heard hline signal =>
        subst hline
        exact .cons_cons (.toRead _) (.cons_cons (.toHandle _ signal) (.singleton _))
  · cases hround with
    | unrendered fault => exact List.nil_prefix
    | unheard hplain => exact hread
    | heard hline signal => exact hread
  · cases hround with
    | unrendered fault => rfl
    | unheard hplain => simp [List.filterMap_cons, Call.input?, Call.read?, hplain]
    | heard hline signal =>
        simp [List.filterMap_cons, Call.input?, Call.read?, hline, ReadResult.trimmed?]
  · cases hround with
    | unrendered fault => simp
    | unheard hplain => simp [Call.ending?]
    | heard hline signal => simp [Call.ending?, hline]

/-- The loop goes on only behind a line that the flow has taken up. -/
theorem Round.of_undecided {read : ReadResult} {before : List Call} {last : Call}
    (hround : Round read before last) (hundecided : last.ending? = none) :
    ∃ text, read = .line text ∧ before ++ [last] =
      [.rendered (.ok ()), .read (.line text), .handled (Text.trim text) .proceed] := by
  cases hround with
  | unrendered fault => contradiction
  | unheard hread => cases read <;> contradiction
  | heard hread signal =>
      subst hread
      cases signal with
      | proceed => exact ⟨_, rfl, rfl⟩
      | finish | fail | collapse => contradiction

theorem Disciplined.behind_line {rest : List ReadResult} {calls : List Call} {ending : Ending}
    (h : Disciplined rest calls ending) (text : String) :
    Disciplined (.line text :: rest)
      (.rendered (.ok ()) :: .read (.line text) :: .handled (Text.trim text) .proceed :: calls)
      ending := by
  obtain ⟨result, hhead⟩ := h.starts
  obtain ⟨more, rfl⟩ := List.head?_eq_some_iff.mp hhead
  obtain ⟨before, last, hcalls, hundecided, hends⟩ := h.ends
  refine ⟨⟨.ok (), rfl⟩, ?_, ?_, ?_, ?_, ?_⟩
  · have hrest := h.alternates
    simp only [List.filterMap_cons, Call.renders?] at hrest ⊢
    exact .cons_cons (by decide) (.cons_cons (by decide) hrest)
  · exact .cons_cons (.toRead _) (.cons_cons (.toHandle text .proceed)
      (.cons_cons (.toRender _ result) h.ordered))
  · simpa [List.filterMap_cons, Call.read?] using h.reads_in_order
  · simpa [List.filterMap_cons, Call.input?, Call.read?, ReadResult.trimmed?] using
      h.inputs_are_lines
  · refine ⟨.rendered (.ok ()) :: .read (.line text) ::
      .handled (Text.trim text) .proceed :: before, last, ?_, ?_, hends⟩
    · simp [hcalls]
    · simpa [Call.ending?] using hundecided

section Machines

-- `σ` is what the flow keeps together with the world that it acts on.  A call that does not come
-- back, because the flow crashes or never ends, is `none`.
variable {σ : Type} {flow : LineFlow (StateT σ Option)} {state after : σ}

/-- A turn that comes back is one of the rounds, and its calls are what is written down. -/
theorem exists_round_of_turn {read : ReadResult} {ending? : Option Ending}
    (hturn : (flow.turn (pure read)).run state = some (ending?, after)) :
    ∃ before last, Round read before last ∧ last.ending? = ending? ∧
      ∀ earlier, ((flow.recorded.turn (recordedRead read)).run earlier).run state =
        some ((ending?, earlier ++ (before ++ [last])), after) := by
  unfold turn at hturn
  rw [StateT.run_bind, Option.bind_eq_bind, Option.bind_eq_some_iff] at hturn
  obtain ⟨⟨shown, middle⟩, hrender, hturn⟩ := hturn
  cases shown with
  | error fault =>
      obtain ⟨rfl, rfl⟩ : some (Ending.failed fault) = ending? ∧ middle = after := by
        simpa using hturn
      refine ⟨[], _, .unrendered fault, rfl, ?_⟩
      intro earlier
      simp [turn, recorded, hrender]
  | ok =>
      have hreact : (flow.react read).run middle = some (ending?, after) := by simpa using hturn
      cases hread : read.trimmed? with
      | none =>
          rw [react_of_unheard flow hread] at hreact
          obtain ⟨rfl, rfl⟩ : (Call.read read).ending? = ending? ∧ middle = after := by
            simpa using hreact
          refine ⟨[.rendered (.ok ())], _, .unheard hread, rfl, ?_⟩
          intro earlier
          simp [turn, recorded, recordedRead, hrender, react_of_unheard _ hread]
      | some input =>
          cases read with
          | endOfInput | interrupted | failed => contradiction
          | line text =>
              rw [react_line, StateT.run_bind, Option.bind_eq_bind, Option.bind_eq_some_iff]
                at hreact
              obtain ⟨⟨signal, final⟩, hhandle, hreact⟩ := hreact
              obtain ⟨rfl, rfl⟩ : (Call.handled (Text.trim text) signal).ending? = ending? ∧
                  final = after := by
                simpa using hreact
              refine ⟨[.rendered (.ok ()), .read (.line text)], _, .heard rfl signal, rfl, ?_⟩
              intro earlier
              simp [turn, recorded, recordedRead, hrender, react_line, hhandle]

/-- A turn that settles the ending makes all the calls of the loop. -/
theorem exists_calls_of_settled {read : ReadResult} {reads : List ReadResult} {ending : Ending}
    (hread : [read] <+: reads ++ [.endOfInput])
    (hturn : (flow.turn (pure read)).run state = some (some ending, after)) :
    ∃ calls, Disciplined reads calls ending ∧
      ∀ earlier, ((flow.recorded.turn (recordedRead read)).run earlier).run state =
        some ((some ending, earlier ++ calls), after) := by
  obtain ⟨before, last, hround, hlast, hrecorded⟩ := exists_round_of_turn hturn
  exact ⟨before ++ [last], hround.disciplined hread hlast, hrecorded⟩

/-- A turn that settles nothing has taken up a line. -/
theorem exists_line_of_unsettled {read : ReadResult}
    (hturn : (flow.turn (pure read)).run state = some (none, after)) :
    ∃ text, read = .line text ∧
      ∀ earlier, ((flow.recorded.turn (recordedRead read)).run earlier).run state =
        some ((none, earlier ++ [.rendered (.ok ()), .read (.line text),
          .handled (Text.trim text) .proceed]), after) := by
  obtain ⟨before, last, hround, hlast, hrecorded⟩ := exists_round_of_turn hturn
  obtain ⟨text, hline, hcalls⟩ := hround.of_undecided hlast
  rw [hcalls] at hrecorded
  exact ⟨text, hline, hrecorded⟩

/-- A loop that comes back has been disciplined, and the recording loop comes back with its
calls. -/
theorem exists_calls_of_runOver {reads : List ReadResult} {ending : Ending}
    (hrun : (flow.runOver pure reads).run state = some (ending, after)) :
    ∃ calls, Disciplined reads calls ending ∧
      ∀ earlier, ((flow.recorded.runOver recordedRead reads).run earlier).run state =
        some ((ending, earlier ++ calls), after) := by
  induction reads generalizing state with
  | nil =>
      rw [runOver, StateT.run_bind, Option.bind_eq_bind, Option.bind_eq_some_iff] at hrun
      obtain ⟨⟨ending?, middle⟩, hturn, hrun⟩ := hrun
      cases ending? with
      | none =>
          obtain ⟨text, hline, _⟩ := exists_line_of_unsettled hturn
          contradiction
      | some settled =>
          obtain ⟨rfl, rfl⟩ : settled = ending ∧ middle = after := by simpa using hrun
          have hfirst : [ReadResult.endOfInput] <+: [] ++ [.endOfInput] := List.prefix_rfl
          obtain ⟨calls, hcalls, hrecorded⟩ := exists_calls_of_settled hfirst hturn
          refine ⟨calls, hcalls, fun earlier => ?_⟩
          simp [runOver, hrecorded]
  | cons read rest ih =>
      rw [runOver, StateT.run_bind, Option.bind_eq_bind, Option.bind_eq_some_iff] at hrun
      obtain ⟨⟨ending?, middle⟩, hturn, hrun⟩ := hrun
      cases ending? with
      | none =>
          obtain ⟨text, rfl, hrecorded⟩ := exists_line_of_unsettled hturn
          obtain ⟨calls, hcalls, hrest⟩ := ih hrun
          refine ⟨_, hcalls.behind_line text, fun earlier => ?_⟩
          simp [runOver, hrecorded, hrest]
      | some settled =>
          obtain ⟨rfl, rfl⟩ : settled = ending ∧ middle = after := by simpa using hrun
          have hfirst : [read] <+: read :: rest ++ [.endOfInput] :=
            List.prefix_append [read] (rest ++ [.endOfInput])
          obtain ⟨calls, hcalls, hrecorded⟩ := exists_calls_of_settled hfirst hturn
          refine ⟨calls, hcalls, fun earlier => ?_⟩
          simp [runOver, hrecorded]

end Machines

/-- If the loop comes back, whatever the flow is and whatever was read, then it has asked the flow
to render and to handle in turns, has read one line behind each render, has handed on the lines
without the blanks at their ends, and has stopped at the first call that settles how it ends. -/
theorem returned_loops_are_disciplined {σ : Type} (flow : LineFlow (StateT σ Option))
    (reads : List ReadResult) {state after : σ} {ending : Ending}
    (hreturns : (flow.run reads).run state = some (ending, after)) :
    ∃ calls, (flow.transcript reads).run state = some ((ending, calls), after) ∧
      Disciplined reads calls ending := by
  rw [← runOver_pure] at hreturns
  obtain ⟨calls, hdisciplined, hrecorded⟩ := exists_calls_of_runOver hreturns
  exact ⟨calls, hrecorded [], hdisciplined⟩

/-- Finishes with the second line that it hears. -/
def secondLineEnds : LineFlow (StateT Nat Option) where
  render := return .ok ()
  handle := fun _ => do
    let heard ← get
    set (heard + 1)
    return if heard = 0 then .proceed else .finish

theorem third_line_is_left_unread :
    (secondLineEnds.run [.line " glob\n", .line "\n", .line "prok\n"]).run 0 =
        some (.finished, 2) ∧
      ∃ calls, (secondLineEnds.transcript
          [.line " glob\n", .line "\n", .line "prok\n"]).run 0 = some ((.finished, calls), 2) ∧
        Disciplined [.line " glob\n", .line "\n", .line "prok\n"] calls .finished := by
  have hreturns : (secondLineEnds.run [.line " glob\n", .line "\n", .line "prok\n"]).run 0 =
      some (.finished, 2) := rfl
  exact ⟨hreturns, returned_loops_are_disciplined secondLineEnds _ hreturns⟩

end LineFlow
end RomanTrade
