import Mathlib.Control.Monad.Basic
import Workday.Failure
import Workday.Proofs.FileTree
import Workday.Proofs.Json.Record
import Workday.Proofs.Run

/-!
This module contains the correctness of the notation of settings: what was written for settings is
read as these settings, whatever texts they hold. So settings that were saved are loaded again,
unless they break the rule for the project.
-/

namespace Workday

open Json

namespace JiraSettings

variable {first : Bool} {seen : List String} {a : JiraSettings} {cs rest : List Char}

def line (field value : String) : List Char :=
  '\n' :: ' ' :: ' ' :: ' ' :: ' ' :: (encode field.toList ++ ':' :: ' ' :: encode value.toList)

theorem write_eq (settings : JiraSettings) :
    settings.write = '{' :: (line "binary" settings.binary ++ ',' :: (line "project" settings.project ++
      ',' :: (line "started_at" settings.startedAt ++ ['\n', ' ', ' ', '}']))) := by
  have hbinary : "\x7b\n    \"binary\": ".toList =
      '{' :: '\n' :: ' ' :: ' ' :: ' ' :: ' ' :: (encode "binary".toList ++ [':', ' ']) := by decide
  have hproject : ",\n    \"project\": ".toList =
      ',' :: '\n' :: ' ' :: ' ' :: ' ' :: ' ' :: (encode "project".toList ++ [':', ' ']) := by decide
  have hstarted : ",\n    \"started_at\": ".toList =
      ',' :: '\n' :: ' ' :: ' ' :: ' ' :: ' ' :: (encode "started_at".toList ++ [':', ' ']) := by decide
  have hend : "\n  \x7d".toList = ['\n', ' ', ' ', '}'] := by decide
  unfold write line
  rw [hbinary, hproject, hstarted, hend]
  simp only [List.cons_append, List.nil_append, List.append_assoc]

theorem skipSpace_line (field value : String) (rest : List Char) :
    skipSpace (line field value ++ rest) =
      '"' :: (field.toList.flatMap encodeChar ++ '"' :: ':' :: ' ' :: (encode value.toList ++ rest)) := by
  unfold line
  simp only [List.cons_append, List.append_assoc, encode_append]
  rfl

theorem nextKey_first_line (field value : String) (rest : List Char) :
    nextKey true (line field value ++ rest) =
      .ok (some field, ':' :: ' ' :: (encode value.toList ++ rest)) := by
  rw [nextKey_of_first (skipSpace_line field value rest) (readText_flatMap_encodeChar _ _),
    String.ofList_toList]

theorem nextKey_comma_line (field value : String) (rest : List Char) :
    nextKey false (',' :: (line field value ++ rest)) =
      .ok (some field, ':' :: ' ' :: (encode value.toList ++ rest)) := by
  rw [nextKey_of_comma rfl (skipSpace_line field value rest) (readText_flatMap_encodeChar _ _),
    String.ofList_toList]

def withField (field value : String) (settings : JiraSettings) : JiraSettings :=
  if field = "binary" then { settings with binary := value }
  else if field = "project" then { settings with project := value }
  else { settings with startedAt := value }

theorem readField_of_readString (field : String) {value : String}
    (h : readString cs = .ok (value, rest)) :
    readField field a cs = .ok (withField field value a, rest) := by
  unfold readField
  rw [h]
  rfl

theorem readMembers_of_value {field value : String} (hfield : field ∈ schema.fields)
    (hseen : field ∉ seen)
    (h : nextKey first cs = .ok (some field, ':' :: ' ' :: (encode value.toList ++ rest))) :
    schema.readMembers first seen a cs =
      schema.readMembers false (field :: seen) (withField field value a) rest := by
  apply Schema.readMembers_of_field h hfield hseen (skipColon_of_colon rfl)
  exact readField_of_readString field (readString_encode value rfl)

theorem read_write (settings : JiraSettings) (h : skipSpace cs = settings.write ++ rest) :
    schema.read cs = .ok (settings, rest) := by
  rw [write_eq] at h
  simp only [List.cons_append, List.append_assoc] at h
  unfold Schema.read
  rw [h]
  change schema.readMembers true [] schema.blank _ = _
  rw [readMembers_of_value (by decide) (by decide) (nextKey_first_line "binary" settings.binary _)]
  rw [readMembers_of_value (by decide) (by decide) (nextKey_comma_line "project" settings.project _)]
  rw [readMembers_of_value (by decide) (by decide)
    (nextKey_comma_line "started_at" settings.startedAt _)]
  exact Schema.readMembers_of_end (nextKey_of_brace rfl)

end JiraSettings

namespace Settings

variable {a : Settings} {jira : JiraSettings} {cs rest after : List Char}

theorem readField_of_brace (field : String) (h : skipSpace cs = '{' :: rest)
    (hread : JiraSettings.schema.read cs = .ok (jira, after)) :
    readField field a cs = .ok (⟨some jira⟩, after) := by
  unfold readField
  rw [h]
  change (JiraSettings.schema.read cs).map _ = _
  rw [hread]
  rfl

theorem readChars_of_read {settings : Settings} (h : schema.read cs = .ok (settings, rest))
    (hrest : skipSpace rest = []) : readChars cs = .ok settings := by
  unfold readChars
  rw [h]
  dsimp only [bind, Except.bind]
  rw [hrest]

theorem read_write_none : schema.read (write ⟨none⟩) = .ok (⟨none⟩, []) := by
  change schema.readMembers true [] schema.blank ['}'] = _
  exact Schema.readMembers_of_end (nextKey_of_brace rfl)

theorem write_some (jira : JiraSettings) :
    write ⟨some jira⟩ = '{' :: '\n' :: ' ' :: ' ' :: (encode "jira".toList ++
      ':' :: ' ' :: (jira.write ++ ['\n', '}'])) := by
  have hstart : "\x7b\n  \"jira\": ".toList =
      '{' :: '\n' :: ' ' :: ' ' :: (encode "jira".toList ++ [':', ' ']) := by decide
  have hend : "\n\x7d".toList = ['\n', '}'] := by decide
  unfold write
  dsimp only
  rw [hstart, hend]
  simp only [List.cons_append, List.nil_append, List.append_assoc]

theorem read_write_some (jira : JiraSettings) :
    schema.read (write ⟨some jira⟩) = .ok (⟨some jira⟩, []) := by
  rw [write_some, encode_append]
  change schema.readMembers true [] schema.blank _ = _
  have hkey : nextKey true ('\n' :: ' ' :: ' ' :: '"' :: ("jira".toList.flatMap encodeChar ++
      '"' :: ':' :: ' ' :: (jira.write ++ ['\n', '}']))) =
        .ok (some "jira", ':' :: ' ' :: (jira.write ++ ['\n', '}'])) :=
    nextKey_of_first rfl (readText_flatMap_encodeChar _ _)
  have hvalue : readField "jira" schema.blank (' ' :: (jira.write ++ ['\n', '}'])) =
      .ok (⟨some jira⟩, ['\n', '}']) :=
    readField_of_brace "jira" rfl (JiraSettings.read_write jira rfl)
  rw [Schema.readMembers_of_field hkey (by decide) (by decide) (skipColon_of_colon rfl) hvalue]
  exact Schema.readMembers_of_end (nextKey_of_brace rfl)

theorem parse_text (settings : Settings) : parse settings.text = .ok settings := by
  unfold parse text
  rw [String.toList_ofList]
  obtain ⟨jira⟩ := settings
  cases jira with
  | none => exact readChars_of_read read_write_none rfl
  | some jira => exact readChars_of_read (read_write_some jira) rfl

section Storage

variable {settings : Settings} {jira : JiraSettings} {tree : FileTree} {path : String}

theorem load_of_parse {text : String} (hpresent : tree.isPresent path = true)
    (hread : tree.readText path = .ok text) (hparse : parse text = .ok settings) :
    load tree path =
      match settings.check with
      | .error cause => .error (.invalid cause)
      | .ok _ => .ok settings := by
  unfold load
  rw [if_pos hpresent, hread]
  change ((parse text).mapError _ >>= _) = _
  rw [hparse]
  change (settings.check.mapError _ >>= _) = _
  cases settings.check <;> rfl

theorem check_of_load (h : load tree path = .ok settings) : settings.check = .ok () := by
  unfold load at h
  split at h
  . simp only [bind_eq_ok_iff, Run.mapError_eq_ok_iff] at h
    obtain ⟨_, _, _, _, _, hcheck, heq⟩ := h
    cases heq
    exact hcheck
  . cases h
    rfl

theorem exists_saveTo (settings : Settings) (h : tree.IsWritable path) :
    ∃ written, settings.saveTo tree path = .ok written ∧
      load written path =
        match settings.check with
        | .error cause => .error (.invalid cause)
        | .ok _ => .ok settings := by
  obtain ⟨written, hwritten, hpresent, hread⟩ :=
    FileTree.exists_writeFile_of_isWritable h settings.text
  exact ⟨written, hwritten, load_of_parse hpresent hread (parse_text settings)⟩

theorem check_eq_ok_iff :
    settings.check = .ok () ↔ TaskId.isProjectKey settings.effective.project.toList = true := by
  obtain ⟨jira⟩ := settings
  cases jira with
  | none => exact ⟨fun _ => by decide, fun _ => rfl⟩
  | some jira =>
    rw [check, effective, Option.getD_some]
    dsimp only
    rw [JiraSettings.checkProject]
    split <;> simp_all

theorem check_of_isProjectKey
    (h : ∀ jira, settings.jira = some jira → TaskId.isProjectKey jira.project.toList = true) :
    settings.check = .ok () := by
  unfold check
  split
  . next jira hjira => rw [JiraSettings.checkProject, if_pos (h jira hjira)]
  . rfl

theorem check_of_not_isProjectKey (hjira : settings.jira = some jira)
    (h : TaskId.isProjectKey jira.project.toList = false) :
    settings.check = .error (.project jira.project) := by
  unfold check
  rw [hjira]
  dsimp only
  rw [JiraSettings.checkProject, if_neg (by simp [h])]

end Storage

end Settings

end Workday
