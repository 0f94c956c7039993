import CryptoUsb.JsonFields
import CryptoUsb.JsonPrefixes
import CryptoUsb.Simulations

/-!
# Application configuration

The settings of the user, as they are saved and loaded.  A save that is cut short leaves a file
that loads as the defaults, never as a mixture of settings.
-/

namespace CryptoUsb

open JsonText Simulations

def defaultLogLevel : String := "INFO"

/-- The settings.  Their types are not checked when they are loaded. -/
structure AppConfig where
  theme : Json := .str "dark"
  logLevel : Json := .str defaultLogLevel
  windowWidth : Json := .int 1200
  windowHeight : Json := .int 760
  lastPage : Json := .str "dashboard"

namespace AppConfig

def toDict (config : AppConfig) : Json :=
  .obj [("theme", config.theme), ("log_level", config.logLevel),
    ("window_width", config.windowWidth), ("window_height", config.windowHeight),
    ("last_page", config.lastPage)]

/-- The name of the Python type of a loaded value. -/
def pyTypeName : Json → String
  | .null => "NoneType"
  | .bool _ => "bool"
  | .int _ => "int"
  | .float _ => "float"
  | .str _ => "str"
  | .arr _ => "list"
  | .obj _ => "dict"

def fromDict : Json → Raises AppConfig
  | .obj members => .ok {
      theme := (memberLookup "theme" members).getD ({} : AppConfig).theme
      logLevel := (memberLookup "log_level" members).getD ({} : AppConfig).logLevel
      windowWidth := (memberLookup "window_width" members).getD ({} : AppConfig).windowWidth
      windowHeight := (memberLookup "window_height" members).getD ({} : AppConfig).windowHeight
      lastPage := (memberLookup "last_page" members).getD ({} : AppConfig).lastPage }
  | data => raise .attributeError ("'" ++ pyTypeName data ++ "' object has no attribute 'items'")

end AppConfig

/-- The names of the settings. -/
inductive ConfigField
  | theme
  | logLevel
  | windowWidth
  | windowHeight
  | lastPage

def AppConfig.set (config : AppConfig) (value : Json) : ConfigField → AppConfig
  | .theme => { config with theme := value }
  | .logLevel => { config with logLevel := value }
  | .windowWidth => { config with windowWidth := value }
  | .windowHeight => { config with windowHeight := value }
  | .lastPage => { config with lastPage := value }

/-- The settings as an object: its fields, and what a call of `to_dict` comes to where an
assignment has put something in its place. -/
structure ConfigObject where
  settings : AppConfig := {}
  toDict : Option (Raises Json) := none

/-- What the assignment of an attribute that is no setting does. -/
inductive ConfigAttribute
  /-- A class attribute such as `from_dict` or `__doc__`: nothing looks at the assigned value. -/
  | inert
  /-- `__class__` or `__weakref__`, which cannot be assigned. -/
  | refused (error : PyError)
  /-- `__dict__`: all attributes of the object are replaced. -/
  | dict (object : ConfigObject)
  /-- `to_dict` or `__dataclass_fields__`, and what `to_dict()` comes to from then on. -/
  | toDict (dumped : Raises Json)

/-- One keyword argument of `update`. -/
inductive ConfigChange
  | field (field : ConfigField) (value : Json)
  | other (name : String) (effect : ConfigAttribute)
  | unknown (name : String)

namespace ConfigObject

/-- `hasattr` and `setattr`.  A name that the object does not have is passed over. -/
def setAttribute (object : ConfigObject) : ConfigChange → Raises ConfigObject
  | .field field value => .ok { object with settings := object.settings.set value field }
  | .other _ .inert => .ok object
  | .other _ (.refused error) => .error error
  | .other _ (.dict replaced) => .ok replaced
  | .other _ (.toDict dumped) => .ok { object with toDict := some dumped }
  | .unknown _ => .ok object

/-- The loop of `update`, as far as it gets. -/
def setAttributes (object : ConfigObject) : List ConfigChange → ConfigObject × Raises Unit
  | [] => (object, .ok ())
  | change :: changes =>
      match object.setAttribute change with
      | .ok next => next.setAttributes changes
      | .error error => (object, .error error)

/-- What `json.dump` writes, with its line ends as the text layer sees them. -/
def text (object : ConfigObject) : Raises (List Char) :=
  (dumpsIndented ['\n'] 2) <$> object.toDict.getD (.ok object.settings.toDict)

end ConfigObject

/-- The file, if there is one, and the settings in memory. -/
structure ConfigManager where
  file : Option (List Char) := none
  config : ConfigObject := {}

/-- How the writing of a save ends: the file is not opened, it is cut short after so many
characters, or it is written. -/
inductive SaveEnd
  | refused (error : PyError)
  | cut (kept : Nat) (error : PyError)
  | written

inductive ConfigCall
  | update (changes : List ConfigChange) (ends : SaveEnd)
  | restart

namespace ConfigManager

/-- The exceptions that are caught around a load; a `JSONDecodeError` is raised as a
`ValueError`. -/
def loadCatches (error : PyError) : Bool :=
  error.kind ∈ [ErrorClass.valueError, .osError, .typeError]

/-- `_load`, where the file exists and reading its text ends like this. -/
def loadFile (read : Raises (List Char)) : Raises AppConfig :=
  match (do AppConfig.fromDict (← loadJson (String.ofList (← read)))) with
  | .ok config => .ok config
  | .error error => if loadCatches error then .ok {} else .error error

/-- `_load`. -/
def load (file : Option (List Char)) : Raises AppConfig :=
  match file with
  | none => .ok {}
  | some text => loadFile (.ok text)

/-- `save`.  The file is emptied before `to_dict` is called. -/
def save (manager : ConfigManager) : SaveEnd → ConfigManager × Raises Unit
  | .refused error => (manager, .error error)
  | .cut kept error =>
      match manager.config.text with
      | .ok text => ({ manager with file := some (text.take kept) }, .error error)
      | .error raised => ({ manager with file := some [] }, .error raised)
  | .written =>
      match manager.config.text with
      | .ok text => ({ manager with file := some text }, .ok ())
      | .error raised => ({ manager with file := some [] }, .error raised)

/-- `update`. -/
def update (manager : ConfigManager) (changes : List ConfigChange) (ends : SaveEnd) :
    ConfigManager × Raises Unit :=
  match manager.config.setAttributes changes with
  | (config, .ok ()) => { manager with config }.save ends
  | (config, .error error) => ({ manager with config }, .error error)

/-- `update`, or the start of the application; how it ended, and the settings then in force. -/
def respond (manager : ConfigManager) : ConfigCall → ConfigManager × Raises Unit × AppConfig
  | .update changes ends =>
      let (updated, ended) := manager.update changes ends
      (updated, ended, updated.config.settings)
  | .restart =>
      match load manager.file with
      | .ok settings => ({ manager with config := { settings } }, .ok (), settings)
      | .error error => (manager, .error error, manager.config.settings)

end ConfigManager

/-! ## Settings without a file -/

/-- The settings in memory, and those that the next start finds. -/
structure PlainConfig where
  current : AppConfig := {}
  kept : AppConfig := {}

/-- A keyword of `update` that names a setting changes it. -/
def AppConfig.change (config : AppConfig) : ConfigChange → AppConfig
  | .field field value => config.set value field
  | .other _ _ | .unknown _ => config

def AppConfig.text (config : AppConfig) : List Char :=
  dumpsIndented ['\n'] 2 config.toDict

/-- A save that is cut short resets the settings that the next start finds. -/
def PlainConfig.save (plain : PlainConfig) : SaveEnd → PlainConfig × Raises Unit
  | .refused error => (plain, .error error)
  | .cut characters error =>
      let kept := if characters < plain.current.text.length then {} else plain.current
      ({ plain with kept }, .error error)
  | .written => ({ plain with kept := plain.current }, .ok ())

def PlainConfig.respond (plain : PlainConfig) : ConfigCall → PlainConfig × Raises Unit × AppConfig
  | .update changes ends =>
      let current := changes.foldl AppConfig.change plain.current
      let (saved, ended) := { plain with current }.save ends
      (saved, ended, saved.current)
  | .restart => (⟨plain.kept, plain.kept⟩, .ok (), plain.kept)

section Refinement

variable {config : AppConfig}

/-- No setting is a number with a fraction or an exponent. -/
structure AppConfig.FloatFree (config : AppConfig) : Prop where
  theme : JsonText.FloatFree config.theme
  logLevel : JsonText.FloatFree config.logLevel
  windowWidth : JsonText.FloatFree config.windowWidth
  windowHeight : JsonText.FloatFree config.windowHeight
  lastPage : JsonText.FloatFree config.lastPage

theorem AppConfig.floatFree_default : AppConfig.FloatFree {} :=
  ⟨trivial, trivial, trivial, trivial, trivial⟩

/-- A change of a setting to a value without floats, or of a name that the object does not
have. -/
def ConfigChange.Plain : ConfigChange → Prop
  | .field _ value => JsonText.FloatFree value
  | .other _ _ => False
  | .unknown _ => True

def ConfigCall.Plain : ConfigCall → Prop
  | .update changes _ => ∀ change ∈ changes, change.Plain
  | .restart => True

theorem AppConfig.FloatFree.change (floatFree : config.FloatFree) {change : ConfigChange}
    (plain : change.Plain) : (config.change change).FloatFree := by
  cases change with
  | field field value =>
      cases field with
      | theme => exact { floatFree with theme := plain }
      | logLevel => exact { floatFree with logLevel := plain }
      | windowWidth => exact { floatFree with windowWidth := plain }
      | windowHeight => exact { floatFree with windowHeight := plain }
      | lastPage => exact { floatFree with lastPage := plain }
  | other name effect => exact plain.elim
  | unknown name => exact floatFree

theorem AppConfig.FloatFree.foldl_change {changes : List ConfigChange}
    (floatFree : config.FloatFree) (plain : ∀ change ∈ changes, change.Plain) :
    (changes.foldl AppConfig.change config).FloatFree := by
  induction changes generalizing config with
  | nil => exact floatFree
  | cons change changes ih =>
      obtain ⟨first, others⟩ := List.forall_mem_cons.mp plain
      exact ih (floatFree.change first) others

theorem ConfigObject.setAttributes_plain {changes : List ConfigChange}
    (plain : ∀ change ∈ changes, change.Plain) :
    ConfigObject.setAttributes { settings := config } changes =
      ({ settings := changes.foldl AppConfig.change config }, .ok ()) := by
  induction changes generalizing config with
  | nil => rfl
  | cons change changes ih =>
      obtain ⟨first, others⟩ := List.forall_mem_cons.mp plain
      cases change with
      | field field value => exact ih others
      | other name effect => exact first.elim
      | unknown name => exact ih others

theorem AppConfig.FloatFree.readable (floatFree : config.FloatFree) :
    FloatsReadable config.toDict :=
  JsonText.FloatFree.floatsReadable config.toDict ⟨floatFree.theme, floatFree.logLevel,
    floatFree.windowWidth, floatFree.windowHeight, floatFree.lastPage, trivial⟩

theorem AppConfig.fromDict_toDict (config : AppConfig) :
    AppConfig.fromDict config.toDict = .ok config := by
  simp [AppConfig.fromDict, AppConfig.toDict, memberLookup]

theorem ConfigManager.load_text (floatFree : config.FloatFree) :
    ConfigManager.load (some config.text) = .ok config := by
  have read : loadJson (String.ofList config.text) = .ok config.toDict := by
    rw [loadJson, AppConfig.text, loads_dumpsIndented blank_newline 2 floatFree.readable]
  simp only [ConfigManager.load, ConfigManager.loadFile, read, ok_bind,
    AppConfig.fromDict_toDict]

theorem ConfigManager.load_cut (floatFree : config.FloatFree) {kept : Nat}
    (short : kept < config.text.length) :
    ConfigManager.load (some (config.text.take kept)) = .ok {} := by
  have missing : config.text.drop kept ≠ [] := by
    intro whole
    have length := List.drop_eq_nil_iff.mp whole
    omega
  have unread : loads (String.ofList (config.text.take kept)) = none :=
    loads_cut blank_newline 2 floatFree.readable (List.take_append_drop kept _) missing
  simp only [ConfigManager.load, ConfigManager.loadFile, ok_bind, loadJson, unread]
  rfl

/-- The application starts with any file but one whose text cannot be decoded, and one that holds
a JSON value other than an object. -/
theorem ConfigManager.returns_loadFile {read : Raises (List Char)} :
    Returns (ConfigManager.loadFile read) ↔
      (∀ error, read = .error error → ConfigManager.loadCatches error = true) ∧
        ∀ text, read = .ok text → ∀ data, loads (String.ofList text) = some data →
          ∃ members, data = .obj members := by
  cases read with
  | error error =>
      cases catches : ConfigManager.loadCatches error <;>
        simp [ConfigManager.loadFile, catches]
  | ok text =>
      cases parsed : loads (String.ofList text) with
      | none => simp [ConfigManager.loadFile, loadJson, parsed, raise, ConfigManager.loadCatches]
      | some data =>
          cases data <;> simp [ConfigManager.loadFile, loadJson, parsed, raise,
            ConfigManager.loadCatches, AppConfig.fromDict]

/-- The manager and the plain settings agree on what is in memory and on what the next start
finds. -/
structure ConfigManager.Refines (manager : ConfigManager) (plain : PlainConfig) : Prop where
  current : manager.config = { settings := plain.current }
  kept : ConfigManager.load manager.file = .ok plain.kept
  currentFree : plain.current.FloatFree
  keptFree : plain.kept.FloatFree

theorem ConfigManager.Refines.save {manager : ConfigManager} {plain : PlainConfig}
    (refines : manager.Refines plain) (ends : SaveEnd) :
    (manager.save ends).2 = (plain.save ends).2 ∧
      (manager.save ends).1.Refines (plain.save ends).1 := by
  obtain ⟨file, _⟩ := manager
  obtain ⟨rfl, kept, currentFree, keptFree⟩ := refines
  cases ends with
  | refused error => exact ⟨rfl, rfl, kept, currentFree, keptFree⟩
  | written => exact ⟨rfl, rfl, ConfigManager.load_text currentFree, currentFree, currentFree⟩
  | cut characters error =>
      refine ⟨rfl, rfl, ?_, currentFree, ?_⟩
      · show ConfigManager.load (some (plain.current.text.take characters)) = _
        simp only [PlainConfig.save]
        split_ifs with short
        · exact ConfigManager.load_cut currentFree short
        · rw [List.take_of_length_le (Nat.le_of_not_lt short)]
          exact ConfigManager.load_text currentFree
      · simp only [PlainConfig.save]
        split_ifs
        · exact AppConfig.floatFree_default
        · exact currentFree

theorem ConfigManager.simulates : Simulates ConfigManager.respond PlainConfig.respond id
    ConfigCall.Plain ConfigManager.Refines where
  step := by
    rintro ⟨file, _⟩ plain call ⟨rfl, kept, currentFree, keptFree⟩ isPlain
    cases call with
    | restart =>
        simp only [ConfigManager.respond, kept]
        exact ⟨rfl, rfl, kept, keptFree, keptFree⟩
    | update changes ends =>
        have changed : ConfigManager.Refines
            ⟨file, { settings := changes.foldl AppConfig.change plain.current }⟩
            { plain with current := changes.foldl AppConfig.change plain.current } :=
          ⟨rfl, kept, currentFree.foldl_change isPlain, keptFree⟩
        obtain ⟨ended, saved⟩ := changed.save ends
        simp only [ConfigManager.respond, ConfigManager.update,
          ConfigObject.setAttributes_plain isPlain]
        refine ⟨Prod.ext ended ?_, saved⟩
        exact congrArg ConfigObject.settings saved.current

/-- From a fresh installation on, the settings are those of a manager without a file, however the
saves end and whenever the application starts again. -/
theorem config_refines_plain {calls : List ConfigCall} (plain : ∀ call ∈ calls, call.Plain) :
    (answers ConfigManager.respond {} calls).2 = (answers PlainConfig.respond {} calls).2 := by
  have initially : ConfigManager.Refines {} {} :=
    ⟨rfl, rfl, AppConfig.floatFree_default, AppConfig.floatFree_default⟩
  have alike := (ConfigManager.simulates.run initially plain).1
  rwa [List.map_id] at alike

end Refinement

/-- The theme is saved, a change of the window is cut short, and the application starts again. -/
def plainConfigCalls : List ConfigCall :=
  [.update [.field .theme (.str "light"), .unknown "colour"] .written,
    .update [.field .windowWidth (.int 960)] (.cut 7 ⟨.osError, "No space left on device"⟩),
    .restart]

theorem config_refines_plain_calls :
    (answers ConfigManager.respond {} plainConfigCalls).2 =
      (answers PlainConfig.respond {} plainConfigCalls).2 := by
  have plain : ∀ call ∈ plainConfigCalls, call.Plain := by
    simp [plainConfigCalls, ConfigCall.Plain, ConfigChange.Plain, JsonText.FloatFree]
  exact config_refines_plain plain

end CryptoUsb
