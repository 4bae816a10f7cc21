import TopicClient.Settings.Document
import TopicClient.Settings.Overrides

/-!
# Loading settings

The file is laid over the defaults: objects member by member, where a null
leaves the default alone, and everything else as a whole. The result is read as
settings, overridden from the environment, and checked.
-/

namespace TopicClient

namespace Json

mutual

/-- One document laid over another. -/
def overlay (target : Json) : Json → Json
  | .obj ms =>
    match target with
    | .obj ts => .obj (overlayMembers ts ms)
    | _ => .obj ms
  | v => v
termination_by structural v => v

def overlayMembers (target : List (String × Json)) :
    List (String × Json) → List (String × Json)
  | [] => target
  | (key, v) :: ms =>
    if v.isNull then overlayMembers target ms
    else
      let merged :=
        match Assoc.find? key target with
        | some t => overlay t v
        | none => v
      overlayMembers (Assoc.insert key merged target) ms
termination_by structural ms => ms

end

end Json

namespace Settings

/-- What stands at the path of the settings file. -/
inductive File where
  | missing
  | unreadable
  | text (content : String)
deriving Repr

structure Loaded where
  result : Except SettingsError Settings
  notices : List Notice

/-- The settings of the file alone. -/
def ofFile (file : File) : Except SettingsError Settings :=
  match file with
  | .missing => .ok {}
  | .unreadable => .error .unreadable
  | .text content =>
    match Json.parse? content with
    | none => .error .notJson
    | some v =>
      match ofJson? (Json.overlay ({} : Settings).toJson v) with
      | none => .error .wrongShape
      | some s => .ok s

def checked (s : Settings) : Except SettingsError Settings :=
  match s.fault? with
  | some fault => .error (.invalid fault)
  | none => .ok s

def fileNotice : File → Notice
  | .missing => .settingsMissing
  | _ => .settingsLoading

def load (env : Environment) (file : File) : Loaded :=
  match ofFile file with
  | .error e => ⟨.error e, [fileNotice file]⟩
  | .ok s => ⟨checked (s.override env), fileNotice file :: overrideNotices env⟩

/-- A directory and a relative path below it. -/
def joinPath (directory relative : String) : String :=
  if directory = "" then relative
  else if directory.endsWith "/" then directory ++ relative
  else directory ++ "/" ++ relative

/-- The variable that names the file, else the file below the home directory. -/
def path (env : Environment) : String :=
  match valueOf? env "AMP_SETTINGS" with
  | some p => p
  | none => joinPath ((Assoc.find? "HOME" env).getD "/tmp") ".amp/client.json"

end Settings

end TopicClient
