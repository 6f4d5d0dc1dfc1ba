import Workday.Json.Record
import Workday.Settings

/-!
This module contains the notation of settings in a file: reading it, from objects or lists and with
defaults for the tracker's settings that are missing, and writing it in one fixed layout.
-/

namespace Workday

open Json

namespace JiraSettings

def readField (field : String) (settings : JiraSettings) : Reader JiraSettings := fun cs =>
  (readString cs).map fun (value, rest) =>
    (if field = "binary" then { settings with binary := value }
      else if field = "project" then { settings with project := value }
      else { settings with startedAt := value }, rest)

theorem length_lt_of_readField {field : String} {a b : JiraSettings} {cs rest : List Char}
    (h : readField field a cs = .ok (b, rest)) : rest.length < cs.length := by
  unfold readField at h
  obtain ⟨⟨value, r⟩, hr, h⟩ := map_eq_ok_iff.1 h
  rw [← (Prod.mk.inj h).2]
  exact length_lt_of_readString hr

def schema : Schema JiraSettings where
  name := "struct JiraConfig"
  fields := ["binary", "project", "started_at"]
  required := 0
  blank := JiraSettings.default
  readField := readField
  length_lt := length_lt_of_readField

def write (settings : JiraSettings) : List Char :=
  "\x7b\n    \"binary\": ".toList ++ encode settings.binary.toList ++
    ",\n    \"project\": ".toList ++ encode settings.project.toList ++
    ",\n    \"started_at\": ".toList ++ encode settings.startedAt.toList ++ "\n  \x7d".toList

end JiraSettings

namespace Settings

/--
Read the settings of one part of the program. Only the tracker has any, or `null` for none.
-/
def readField (_ : String) (_ : Settings) : Reader Settings := fun cs =>
  match skipSpace cs with
  | 'n' :: rest => (skipLetters ['u', 'l', 'l'] rest).map (⟨none⟩, ·)
  | _ => (JiraSettings.schema.read cs).map fun (jira, rest) => (⟨some jira⟩, rest)

theorem length_lt_of_readField {field : String} {a b : Settings} {cs rest : List Char}
    (h : readField field a cs = .ok (b, rest)) : rest.length < cs.length := by
  have := length_skipSpace_le cs
  unfold readField at h
  split at h
  . rename_i r heq
    rw [heq, List.length_cons] at this
    obtain ⟨s, hr, h⟩ := map_eq_ok_iff.1 h
    have := length_le_of_skipLetters hr
    rw [← (Prod.mk.inj h).2]
    omega
  . obtain ⟨⟨jira, r⟩, hr, h⟩ := map_eq_ok_iff.1 h
    rw [← (Prod.mk.inj h).2]
    exact Schema.length_lt_of_read hr

def schema : Schema Settings where
  name := "struct Config"
  fields := ["jira"]
  required := 1
  blank := Settings.default
  readField := readField
  length_lt := length_lt_of_readField

/--
Read settings from the characters of a file. Nothing but white space may follow them.
-/
def readChars (cs : List Char) : Except Fault Settings := do
  let (settings, rest) ← schema.read cs
  match skipSpace rest with
  | [] => .ok settings
  | rest => .error (.next .trailingCharacters rest)

def parse (text : String) : Except Fault Settings :=
  readChars text.toList

def write (settings : Settings) : List Char :=
  match settings.jira with
  | none => ['{', '}']
  | some jira => "\x7b\n  \"jira\": ".toList ++ jira.write ++ "\n\x7d".toList

def text (settings : Settings) : String :=
  String.ofList settings.write

end Settings

end Workday
