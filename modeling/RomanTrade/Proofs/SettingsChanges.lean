import RomanTrade.Proofs.ConsoleOutput
import RomanTrade.Proofs.FileContent
import RomanTrade.Proofs.SettingsDocument
import RomanTrade.Settings.File

/-!
# Changes of settings

A change is refused and does nothing, is in force but could not be written, or is in force and
stored.  What is stored is loaded again as it is.  A change that fails leaves the files alone; the
settings stay too, unless a new value was read and could not be written.
-/

namespace RomanTrade

/-- A setting is to have a new value.  It is named by its key or by the text of the key. -/
inductive Change where
  | named (key written : String)
  | keyed (key : SettingKey) (written : String)
  deriving DecidableEq, Repr

namespace Change

def key : Change → Except Fault SettingKey
  | named key _ => SettingKey.ofText key
  | keyed key _ => .ok key

def written : Change → String
  | named _ written | keyed _ written => written

/-- The settings that the change asks for. -/
def result (change : Change) (settings : Settings) : Except Fault Settings :=
  match change.key with
  | .error fault => .error fault
  | .ok key => settings.change key change.written

end Change

namespace Settings

variable {settings changed : Settings} {key : SettingKey} {written : String} {fault : Fault}

/-- The rows with the value `value` at `key`. -/
def rowsWith (settings : Settings) (key : SettingKey) (value : String) :
    List (String × String × String) :=
  settings.rows.map fun (name, description, old) =>
    (name, description, if name = key.text then value else old)

theorem isValue_of_ofText (h : UnitPricePolicy.ofText written = .error fault) :
    ∃ cause, fault = .value cause := by
  unfold UnitPricePolicy.ofText at h
  split at h
  · contradiction
  · exact ⟨_, (Except.error.inj h).symm⟩

theorem isValue_of_readBoolean (h : readBoolean written = .error fault) :
    ∃ cause, fault = .value cause := by
  unfold readBoolean at h
  split at h
  · contradiction
  · split at h
    · contradiction
    · exact ⟨_, (Except.error.inj h).symm⟩

/-- A value that cannot be read is refused; any other one changes at most its own row. -/
theorem change_cases (settings : Settings) (key : SettingKey) (written : String) :
    (∃ cause, settings.change key written = .error (.value cause)) ∨
      ∃ changed, settings.change key written = .ok changed ∧
        changed.rows = settings.rowsWith key (changed.valueText key) := by
  unfold change
  cases key with
  | unitPricePolicy =>
      cases hread : UnitPricePolicy.ofText written with
      | error fault =>
          obtain ⟨cause, rfl⟩ := isValue_of_ofText hread
          exact .inl ⟨cause, rfl⟩
      | ok value => exact .inr ⟨_, rfl, rfl⟩
  | fileLogging | showBanner =>
      cases hread : readBoolean written with
      | error fault =>
          obtain ⟨cause, rfl⟩ := isValue_of_readBoolean hread
          exact .inl ⟨cause, rfl⟩
      | ok value => exact .inr ⟨_, rfl, rfl⟩

/-- Texts that are read back belong to one value each. -/
theorem booleanText_injective {value other : Bool} (h : booleanText value = booleanText other) :
    value = other := by
  have hread := readBoolean_booleanText value
  rw [h, readBoolean_booleanText] at hread
  exact (Except.ok.inj hread).symm

theorem text_injective {policy other : UnitPricePolicy} (h : policy.text = other.text) :
    policy = other := by
  have hread := policyNamed_text policy
  rw [h, policyNamed_text] at hread
  exact (Except.ok.inj hread).symm

/-- The rows show everything that the settings are. -/
theorem rows_injective (h : changed.rows = settings.rows) : changed = settings := by
  simp only [rows, SettingKey.all, List.map_cons, List.map_nil, List.cons.injEq, Prod.mk.injEq,
    description, valueText] at h
  obtain ⟨⟨-, hpolicy, hpolicyText⟩, ⟨-, hlogging, hloggingText⟩, ⟨-, hbanner, hbannerText⟩, -⟩ := h
  have hpolicyValue := text_injective hpolicyText
  have hloggingValue := booleanText_injective hloggingText
  have hbannerValue := booleanText_injective hbannerText
  obtain ⟨⟨_, _⟩, ⟨_, _⟩, ⟨_, _⟩⟩ := changed
  obtain ⟨⟨_, _⟩, ⟨_, _⟩, ⟨_, _⟩⟩ := settings
  simp_all

end Settings

namespace Change

variable {fault : Fault}

theorem isValue_of_key {change : Change} (h : change.key = .error fault) :
    ∃ cause, fault = .value cause := by
  cases change with
  | keyed => contradiction
  | named name written =>
      have hname : SettingKey.ofText name = .error fault := h
      unfold SettingKey.ofText at hname
      split at hname
      · contradiction
      · exact ⟨_, (Except.error.inj hname).symm⟩

/-- A change is refused for its key or its value, or it changes at most the row of its key. -/
theorem result_cases (change : Change) (settings : Settings) :
    (∃ cause, change.result settings = .error (.value cause)) ∨
      ∃ key changed, change.key = .ok key ∧ change.result settings = .ok changed ∧
        changed.rows = settings.rowsWith key (changed.valueText key) := by
  unfold result
  cases hkey : change.key with
  | error fault =>
      obtain ⟨cause, rfl⟩ := isValue_of_key hkey
      exact .inl ⟨cause, rfl⟩
  | ok key =>
      refine (settings.change_cases key change.written).imp_right ?_
      rintro ⟨changed, hread, hrows⟩
      exact ⟨key, changed, rfl, hread, hrows⟩

end Change

namespace SettingsFile

variable {m : Type → Type} [Monad m] [Host m]

def apply (file : SettingsFile) : Change → m (Except Fault Unit × SettingsFile)
  | .named key written => file.set key written
  | .keyed key written => file.setKey key written

/-- Makes one change after the other, whether they succeed or not. -/
def applyAll (file : SettingsFile) : List Change → m SettingsFile
  | [] => return file
  | change :: rest => do
    let (_, next) ← file.apply change
    next.applyAll rest

/-- What a change can come to: an outcome, the settings file and the desk after it. -/
inductive Applies (file : SettingsFile) (desk : Desk) (change : Change) :
    Except Fault Unit → SettingsFile → Desk → Prop where
  | refuse {cause : ValueFault} (unread : change.result file.settings = .error (.value cause)) :
      Applies file desk change (.error (.value cause)) file desk
  | miss {settings : Settings} {cause : FileFault}
      (read : change.result file.settings = .ok settings)
      (unwritable : desk.files.write file.path settings.document = .error cause) :
      Applies file desk change (.error (.settings (.unwritable file.path cause)))
        { file with settings } desk
  | store {settings : Settings} {files : FileTree}
      (read : change.result file.settings = .ok settings)
      (written : desk.files.write file.path settings.document = .ok files) :
      Applies file desk change (.ok ()) { file with settings } { desk with files }

variable {file : SettingsFile} {desk : Desk}

theorem apply_eq (file : SettingsFile) (change : Change) :
    (file.apply change : m (Except Fault Unit × SettingsFile)) =
      match change.key with
      | .error fault => pure (.error fault, file)
      | .ok key => file.setKey key change.written := by
  cases change with
  | named | keyed => rfl

variable {change : Change}

theorem run_apply_of_error {fault : Fault} (h : change.result file.settings = .error fault)
    (desk : Desk) :
    (file.apply change : StateM Desk (Except Fault Unit × SettingsFile)).run desk =
      ((.error fault, file), desk) := by
  unfold Change.result at h
  rw [apply_eq]
  split at h
  next hkey =>
    cases h
    rfl
  next key hkey =>
    simp only [setKey, h]
    rfl

/-- A change that can be read is as good as its writing. -/
theorem run_apply_of_ok {settings : Settings} (h : change.result file.settings = .ok settings)
    (desk : Desk) :
    (file.apply change : StateM Desk (Except Fault Unit × SettingsFile)).run desk =
      match desk.files.write file.path settings.document with
      | .error cause =>
        ((.error (.settings (.unwritable file.path cause)), { file with settings }), desk)
      | .ok files => ((.ok (), { file with settings }), { desk with files }) := by
  have hwritten : (Host.writeFile file.path settings.document :
      StateM Desk (Except FileFault Unit)).run desk =
        desk.withFiles (desk.files.write file.path settings.document) := rfl
  unfold Change.result at h
  rw [apply_eq]
  split at h
  next => contradiction
  next key hkey =>
    simp only [setKey, h, save]
    rw [bind_assoc, Desk.run_bind_of_run hwritten]
    cases desk.files.write file.path settings.document with
    | error cause => rfl
    | ok files => rfl

/-- A change comes to one of three ends. -/
theorem applies_of_run {outcome : Except Fault Unit} {next : SettingsFile} {after : Desk}
    (h : (file.apply change : StateM Desk (Except Fault Unit × SettingsFile)).run desk =
      ((outcome, next), after)) : Applies file desk change outcome next after := by
  rcases change.result_cases file.settings with
    ⟨cause, hunread⟩ | ⟨key, settings, hkey, hread, hrows⟩
  · rw [run_apply_of_error hunread] at h
    cases h
    exact .refuse hunread
  · rw [run_apply_of_ok hread] at h
    split at h
    next cause hunwritable =>
      cases h
      exact .miss hread hunwritable
    next files hwritten =>
      cases h
      exact .store hread hwritten

theorem Applies.path_eq {outcome : Except Fault Unit} {next : SettingsFile}
    {after : Desk} (h : Applies file desk change outcome next after) : next.path = file.path := by
  cases h with
  | refuse | miss | store => rfl

theorem run_applyAll_cons (file : SettingsFile) (change : Change) (rest : List Change)
    (desk : Desk) :
    (file.applyAll (change :: rest) : StateM Desk SettingsFile).run desk =
      let ((_, next), after) :=
        (file.apply change : StateM Desk (Except Fault Unit × SettingsFile)).run desk
      (next.applyAll rest : StateM Desk SettingsFile).run after := rfl

theorem path_applyAll (file : SettingsFile) (changes : List Change) (desk : Desk) :
    ((file.applyAll changes : StateM Desk SettingsFile).run desk).1.path = file.path := by
  induction changes generalizing file desk with
  | nil => rfl
  | cons change rest ih =>
      rw [run_applyAll_cons]
      cases happlied :
          (file.apply change : StateM Desk (Except Fault Unit × SettingsFile)).run desk with
      | mk result after =>
        exact (ih result.2 after).trans (applies_of_run happlied).path_eq

theorem run_load_of_text {path text : String} {settings : Settings}
    (hthere : desk.files.hasPath path = true) (htext : desk.files.readText path = .ok text)
    (hread : Settings.ofDocument text = .ok settings) :
    (load path : StateM Desk (Except Fault SettingsFile)).run desk =
      (.ok { path, settings }, desk) := by
  have hlooked : (Host.pathExists path : StateM Desk Bool).run desk = (true, desk) :=
    congrArg (·, desk) hthere
  have hfetched : (Host.readFile path : StateM Desk (Except FileFault String)).run desk =
      (.ok text, desk) := congrArg (·, desk) htext
  unfold load
  rw [Desk.run_bind_of_run hlooked]
  simp only [Bool.not_true, Bool.false_eq_true, if_false]
  rw [Desk.run_bind_of_run hfetched]
  simp only [hread]
  rfl

/-- What has been stored is loaded again. -/
theorem run_load_of_write (file : SettingsFile) {files : FileTree}
    (h : desk.files.write file.path file.settings.document = .ok files) :
    (load file.path : StateM Desk (Except Fault SettingsFile)).run { desk with files } =
      (.ok file, { desk with files }) := by
  obtain ⟨hthere, htext⟩ := FileTree.readText_of_write h
  exact run_load_of_text hthere htext file.settings.ofDocument_document

theorem path_of_load {path : String} {opened : Desk}
    (h : (load path : StateM Desk (Except Fault SettingsFile)).run desk = (.ok file, opened)) :
    file.path = path := by
  have hlooked : (Host.pathExists path : StateM Desk Bool).run desk =
      (desk.files.hasPath path, desk) := rfl
  have hfetched : (Host.readFile path : StateM Desk (Except FileFault String)).run desk =
      (desk.files.readText path, desk) := rfl
  unfold load at h
  rw [Desk.run_bind_of_run hlooked] at h
  split at h
  · cases h
  · rw [Desk.run_bind_of_run hfetched] at h
    split at h
    · cases h
    · split at h
      · cases h
      · cases h
        rfl

theorem path_of_loadOrDefault {path : String} {opened : Desk}
    (h : (loadOrDefault path : StateM Desk (Except Fault SettingsFile)).run desk =
      (.ok file, opened)) : file.path = path := by
  have hlooked : (Host.pathExists path : StateM Desk Bool).run desk =
      (desk.files.hasPath path, desk) := rfl
  unfold loadOrDefault at h
  rw [Desk.run_bind_of_run hlooked] at h
  split at h
  · exact path_of_load h
  · cases h
    rfl

/-- A change that succeeds survives a reload, whatever the descriptions are and whatever changes
came before it; of the rows it changes at most the value at its key. -/
theorem changes_survive_reload {path : String} {opened there after : Desk}
    {before next : SettingsFile}
    (hloaded : (load path : StateM Desk (Except Fault SettingsFile)).run desk =
        (.ok file, opened) ∨
      (loadOrDefault path : StateM Desk (Except Fault SettingsFile)).run desk = (.ok file, opened))
    (changes : List Change) (change : Change)
    (hbefore : (file.applyAll changes : StateM Desk SettingsFile).run opened = (before, there))
    (hdone : (before.apply change : StateM Desk (Except Fault Unit × SettingsFile)).run there =
      ((.ok (), next), after)) :
    (load path : StateM Desk (Except Fault SettingsFile)).run after = (.ok next, after) ∧
      ∃ key, change.key = .ok key ∧
        next.settings.rows = before.settings.rowsWith key (next.settings.valueText key) := by
  have hpath : before.path = path := by
    have hkept := path_applyAll file changes opened
    rw [hbefore] at hkept
    exact hkept.trans (hloaded.elim path_of_load path_of_loadOrDefault)
  cases applies_of_run hdone with
  | @store settings files hread hwritten =>
      constructor
      · rw [← hpath]
        exact run_load_of_write { before with settings } hwritten
      · rcases change.result_cases before.settings with
          ⟨cause, hunread⟩ | ⟨key, changed, hkey, hchanged, hrows⟩
        · rw [hunread] at hread
          contradiction
        · obtain rfl := Except.ok.inj (hchanged.symm.trans hread)
          exact ⟨key, hkey, hrows⟩

/-- A description may hold anything, and a change that was refused before does not matter. -/
theorem described_banner_survives_reload :
    let banner : Setting Bool := ⟨true, "Größe \"\\\"\n\x01 🪙"⟩
    let settings : Settings := { showBanner := banner }
    let file : SettingsFile := { path := "/tmp/config.json", settings }
    let hidden : SettingsFile :=
      { file with settings := { settings with showBanner := { banner with value := false } } }
    let stored : Desk :=
      { files :=
          { nodes := [(["tmp"], .directory),
              (["tmp", "config.json"], .file settings.document.toByteArray)] }
        time := "2026-01-01 12:00:00"
        stamp := "20260101-120000" }
    (load "/tmp/config.json" : StateM Desk (Except Fault SettingsFile)).run stored =
        (.ok file, stored) ∧
      (file.applyAll [.named "CURRENCY" "Credits"] : StateM Desk SettingsFile).run stored =
        (file, stored) ∧
      ∃ after, (file.apply (.named "SHOW_BANNER" "fALSE") :
          StateM Desk (Except Fault Unit × SettingsFile)).run stored = ((.ok (), hidden), after) ∧
        (load "/tmp/config.json" : StateM Desk (Except Fault SettingsFile)).run after =
          (.ok hidden, after) := by
  intro banner settings file hidden stored
  have hlocated : stored.files.locate "/tmp/config.json" = .ok ["tmp", "config.json"] :=
    eq_ok_of_toOption (by decide +kernel)
  have hnode : stored.files.node? ["tmp", "config.json"] =
      some (.file settings.document.toByteArray) := rfl
  obtain ⟨hthere, htext⟩ := FileTree.readText_of_node hlocated hnode
  have hloaded := run_load_of_text hthere htext settings.ofDocument_document
  have hrefused : (file.applyAll [.named "CURRENCY" "Credits"] : StateM Desk SettingsFile).run
      stored = (file, stored) := rfl
  have hread : (Change.named "SHOW_BANNER" "fALSE").result file.settings = .ok hidden.settings :=
    rfl
  obtain ⟨files, hwritten⟩ : ∃ files, stored.files.write file.path hidden.settings.document =
      .ok files := exists_of_isOk (by decide +kernel)
  have hdone := run_apply_of_ok hread stored
  rw [hwritten] at hdone
  obtain ⟨hreloaded, -⟩ := changes_survive_reload (.inl hloaded) _ _ hrefused hdone
  exact ⟨hloaded, hrefused, _, hdone, hreloaded⟩

/-- A change that fails leaves the files as they are.  It leaves the settings exactly if its key or
its value could not be read, or the value was in force already. -/
theorem failed_changes_keep_settings_iff {fault : Fault} {next : SettingsFile} {after : Desk}
    (hfailed : (file.apply change : StateM Desk (Except Fault Unit × SettingsFile)).run desk =
      ((.error fault, next), after)) :
    after = desk ∧
      (next = file ↔
        (∃ cause, fault = .value cause) ∨ change.result file.settings = .ok file.settings) ∧
      (next.settings.rows = file.settings.rows ↔ next = file) := by
  cases applies_of_run hfailed with
  | refuse hunread => exact ⟨rfl, iff_of_true rfl (.inl ⟨_, rfl⟩), iff_of_true rfl rfl⟩
  | @miss settings cause hread hunwritable =>
      obtain ⟨path, old⟩ := file
      have hsame : ({ path, settings } : SettingsFile) = { path, settings := old } ↔
          settings = old := by simp
      refine ⟨rfl, ?_, ?_⟩
      · rw [hsame, hread]
        simp
      · rw [hsame]
        exact ⟨Settings.rows_injective, congrArg Settings.rows⟩

/-- A banner that is shown already may be asked for where nothing can be written. -/
theorem restated_banner_keeps_settings :
    let desk : Desk := { time := "2026-01-01 12:00:00", stamp := "20260101-120000" }
    let file : SettingsFile := { path := "nodir/config.json" }
    ∃ fault next, (file.apply (.named "SHOW_BANNER" "TRUE") :
        StateM Desk (Except Fault Unit × SettingsFile)).run desk = ((.error fault, next), desk) ∧
      next = file := by
  intro desk file
  have hread : (Change.named "SHOW_BANNER" "TRUE").result file.settings = .ok file.settings := rfl
  obtain ⟨cause, hunwritable⟩ : ∃ cause, desk.files.write file.path file.settings.document =
      .error cause := exists_of_not_isOk (by decide +kernel)
  have hfailed := run_apply_of_ok hread desk
  rw [hunwritable] at hfailed
  obtain ⟨-, hkept, -⟩ := failed_changes_keep_settings_iff hfailed
  exact ⟨_, _, hfailed, hkept.mpr (.inr hread)⟩

/-- A banner that is turned off where nothing can be written stays turned off. -/
theorem unwritten_banner_stays_off :
    let desk : Desk := { time := "2026-01-01 12:00:00", stamp := "20260101-120000" }
    let file : SettingsFile := { path := "nodir/config.json" }
    ∃ fault next, (file.apply (.named "SHOW_BANNER" "false") :
        StateM Desk (Except Fault Unit × SettingsFile)).run desk = ((.error fault, next), desk) ∧
      file.settings.showBanner.value = true ∧ next.settings.showBanner.value = false ∧
      next.settings.rows ≠ file.settings.rows := by
  intro desk file
  let settings : Settings := { showBanner := ⟨false, file.settings.showBanner.description⟩ }
  have hread : (Change.named "SHOW_BANNER" "false").result file.settings = .ok settings := rfl
  obtain ⟨cause, hunwritable⟩ : ∃ cause, desk.files.write file.path settings.document =
      .error cause := exists_of_not_isOk (by decide +kernel)
  have hfailed := run_apply_of_ok hread desk
  rw [hunwritable] at hfailed
  exact ⟨_, _, hfailed, rfl, rfl, by decide⟩

end SettingsFile

end RomanTrade
