import Workday.Proofs.Json.Object
import Workday.Proofs.Settings

/-!
This module contains what settings a file is read as, however it is written: an object with the
settings of the tracker, in any order and with any white space, beside any other members. What the
members say is defined by the grammar of JSON alone, apart from the functions that read it.
-/

namespace Workday

open Json FileTree

variable {members others : List Member} {before after object cs rest : List Char}

namespace JiraSettings

variable {field : String} {keys : List String} {a b settings : JiraSettings}

/--
The settings of the tracker that the members of an object give, with the defaults for the others.
-/
structure Denotes (members : List Member) (settings : JiraSettings) : Prop where
  binary : GivesText members "binary" default.binary settings.binary
  project : GivesText members "project" default.project settings.project
  startedAt : GivesText members "started_at" default.startedAt settings.startedAt

def value (settings : JiraSettings) (field : String) : String :=
  if field = "binary" then settings.binary
  else if field = "project" then settings.project
  else settings.startedAt

def HasProjectKey (settings : JiraSettings) : Prop :=
  settings.project ≠ "" ∧ ∀ c ∈ settings.project.toList, 'A' ≤ c ∧ c ≤ 'Z'

theorem isProjectKey_iff :
    TaskId.isProjectKey settings.project.toList = true ↔ settings.HasProjectKey := by
  have hupper (c : Char) : c.isUpper = true ↔ 'A' ≤ c ∧ c ≤ 'Z' := decide_eq_true_iff
  unfold TaskId.isProjectKey HasProjectKey
  rw [Bool.and_eq_true, List.all_eq_true]
  apply and_congr
  . simp
  . simp only [hupper]

theorem forall_fields {p : String → Prop} :
    (∀ field ∈ schema.fields, p field) ↔ p "binary" ∧ p "project" ∧ p "started_at" := by
  simp [schema]

theorem eq_of_value (h : ∀ field ∈ schema.fields, a.value field = b.value field) : a = b := by
  rw [forall_fields] at h
  obtain ⟨hbinary, hproject, hstarted⟩ := h
  cases a
  cases b
  rw [mk.injEq]
  exact ⟨hbinary, hproject, hstarted⟩

theorem value_withField (text : String) (settings : JiraSettings) :
    ∀ field ∈ schema.fields, ∀ other ∈ schema.fields,
      (withField other text settings).value field =
        if field = other then text else settings.value field := by
  simp only [forall_fields]
  exact ⟨⟨rfl, rfl, rfl⟩, ⟨rfl, rfl, rfl⟩, rfl, rfl, rfl⟩

theorem value_foldl (hkeys : ∀ key ∈ keys, key ∈ schema.fields) (hfield : field ∈ schema.fields) :
    (keys.foldl (fun a key => withField key (settings.value key) a) a).value field =
      if field ∈ keys then settings.value field else a.value field := by
  induction keys generalizing a with
  | nil => rfl
  | cons key keys ih =>
    rw [List.forall_mem_cons] at hkeys
    rw [List.foldl_cons, ih hkeys.2, value_withField _ _ field hfield key hkeys.1]
    by_cases hmem : field ∈ keys
    . rw [if_pos hmem, if_pos (List.mem_cons_of_mem _ hmem)]
    . rw [if_neg hmem]
      by_cases heq : field = key
      . rw [if_pos heq, if_pos (heq ▸ List.mem_cons_self), heq]
      . rw [if_neg heq, if_neg (by simp [heq, hmem])]

theorem isExact : schema.IsExact := by
  intro field a b cs rest h
  obtain ⟨⟨text, after⟩, hread, h⟩ := map_eq_ok_iff.1 h
  cases h
  exact skipValue_of_readString hread

theorem Denotes.givesText (h : Denotes members settings) :
    ∀ field ∈ schema.fields, GivesText members field (default.value field) (settings.value field) :=
  forall_fields.2 ⟨h.binary, h.project, h.startedAt⟩

theorem Denotes.perm (h : Denotes members settings)
    (hperm : (known schema.fields members).Perm (known schema.fields others)) :
    Denotes others settings where
  binary := h.binary.perm (values_perm hperm (by decide))
  project := h.project.perm (values_perm hperm (by decide))
  startedAt := h.startedAt.perm (values_perm hperm (by decide))

theorem read_of_denotes (h : Denotes members settings) (hobject : IsObject members object)
    (hbefore : IsBlank before) (rest : List Char) :
    schema.read (before ++ (object ++ rest)) = .ok (settings, rest) := by
  have hset : ∀ member ∈ members, member.1 ∈ schema.fields →
      schema.Sets (fun key a => withField key (settings.value key) a) member := by
    intro member hmem hfield a before rest hbefore
    have htext := (h.givesText member.1 hfield).isText hmem
    exact readField_of_readString member.1 (readString_append hbefore htext rest)
  have hsingle : ∀ field ∈ schema.fields, (values field members).length ≤ 1 :=
    fun field hfield => (h.givesText field hfield).length_le
  rw [Schema.read_of_isObject hobject hsingle hset hbefore]
  congr 2
  apply eq_of_value
  intro field hfield
  rw [value_foldl (fun key hkey => (Schema.mem_keys.1 hkey).1) hfield]
  split
  . rfl
  . next hkey =>
    -- The key of a field that was not read is not among the members, so that its default is right.
    obtain ⟨_, htext⟩ | ⟨value, hone, _⟩ := h.givesText field hfield
    . exact htext.symm
    . exact absurd (Schema.mem_keys.2 ⟨hfield, value, by rw [hone]; exact List.mem_cons_self⟩) hkey

end JiraSettings

namespace Settings

variable {settings : Settings} {jira : JiraSettings} {fields : List Member} {value : List Char}

/--
The settings that the members of an object give. There is one member for the tracker at most.
-/
inductive Denotes (members : List Member) : Settings → Prop where
  | absent (h : values "jira" members = []) : Denotes members ⟨none⟩
  | null (h : values "jira" members = [['n', 'u', 'l', 'l']]) : Denotes members ⟨none⟩
  | tracker {object : List Char} {fields : List Member} {jira : JiraSettings}
    (h : values "jira" members = [object]) (hobject : IsObject fields object)
    (hjira : JiraSettings.Denotes fields jira) : Denotes members ⟨some jira⟩

theorem readField_null (field : String) (a : Settings) (hbefore : IsBlank before)
    (rest : List Char) :
    readField field a (before ++ (['n', 'u', 'l', 'l'] ++ rest)) = .ok (⟨none⟩, rest) := by
  unfold readField
  rw [List.cons_append, skipSpace_append_cons hbefore rfl]
  rfl

theorem readField_object (field : String) (a : Settings) (hobject : IsObject fields object)
    (hbefore : IsBlank before) (rest : List Char) :
    readField field a (before ++ (object ++ rest)) =
      (JiraSettings.schema.read (before ++ (object ++ rest))).map
        fun found => (⟨some found.1⟩, found.2) := by
  obtain ⟨ds, rfl⟩ : ∃ ds, object = '{' :: ds := by
    cases hobject <;> exact ⟨_, rfl⟩
  unfold readField
  rw [List.cons_append, skipSpace_append_cons hbefore rfl]
  rfl

theorem isExact : schema.IsExact := by
  intro field a b cs rest h
  change readField field a cs = _ at h
  unfold readField at h
  split at h
  . next heq =>
    obtain ⟨after, hskip, h⟩ := map_eq_ok_iff.1 h
    cases h
    have hlead : skipLead (skipSpace cs) = .ok (none, rest) := by
      rw [heq]
      change (skipLetters _ _).map _ = _
      rw [hskip]
      rfl
    exact skipNested_of_skipLead hlead
  . obtain ⟨⟨jira, after⟩, hread, h⟩ := map_eq_ok_iff.1 h
    cases h
    exact Schema.skipValue_of_read JiraSettings.isExact hread

theorem Denotes.length_le (h : Denotes members settings) : (values "jira" members).length ≤ 1 := by
  cases h with
  | absent h => rw [h]; exact Nat.zero_le 1
  | null h => rw [h]; exact Nat.le_refl 1
  | tracker h => rw [h]; exact Nat.le_refl 1

theorem Denotes.sets (h : Denotes members settings) (hmem : ("jira", value) ∈ members) :
    schema.Sets (fun _ _ => settings) ("jira", value) := by
  intro a before rest hbefore
  change readField "jira" a _ = _
  rw [← mem_values] at hmem
  cases h with
  | absent h =>
    rw [h] at hmem
    cases hmem
  | null h =>
    rw [h, List.mem_singleton] at hmem
    rw [hmem]
    exact readField_null "jira" a hbefore rest
  | tracker h hobject hjira =>
    rw [h, List.mem_singleton] at hmem
    rw [hmem, readField_object "jira" a hobject hbefore,
      JiraSettings.read_of_denotes hjira hobject hbefore]
    rfl

theorem Denotes.foldl_keys (h : Denotes members settings) :
    (schema.keys members).foldl (fun _ _ => settings) schema.blank = settings := by
  cases h with
  | absent h => exact List.foldl_fixed' (fun _ => rfl) _
  | null h => exact List.foldl_fixed' (fun _ => rfl) _
  | tracker h =>
    have hkey : "jira" ∈ schema.keys members :=
      Schema.mem_keys.2 ⟨List.mem_cons_self, _, by rw [h]; exact List.mem_cons_self⟩
    obtain ⟨key, keys, hkeys⟩ := List.exists_cons_of_ne_nil (List.ne_nil_of_mem hkey)
    rw [hkeys, List.foldl_cons]
    exact List.foldl_fixed' (fun _ => rfl) _

theorem read_of_denotes (h : Denotes members settings) (hobject : IsObject members object)
    (hbefore : IsBlank before) (rest : List Char) :
    schema.read (before ++ (object ++ rest)) = .ok (settings, rest) := by
  have hsingle : ∀ field ∈ schema.fields, (values field members).length ≤ 1 := by
    intro field hfield
    rw [List.mem_singleton.1 hfield]
    exact h.length_le
  have hset : ∀ member ∈ members, member.1 ∈ schema.fields →
      schema.Sets (fun _ _ => settings) member := by
    intro member hmem hfield
    obtain ⟨name, value⟩ := member
    cases List.mem_singleton.1 hfield
    exact h.sets hmem
  rw [Schema.read_of_isObject hobject hsingle hset hbefore, h.foldl_keys]

theorem parse_of_denotes {text : String} (h : Denotes members settings)
    (hdocument : IsDocument members text.toList) : parse text = .ok settings := by
  obtain ⟨before, object, after, hbefore, hobject, hafter, htext⟩ := hdocument
  unfold parse
  rw [htext]
  exact readChars_of_read (read_of_denotes h hobject hbefore after) (skipSpace_eq_nil hafter)

section Rearrangements

/--
Objects that differ by the order of their members and by unknown ones only, either among the
members themselves or among the settings of the tracker.
-/
inductive Rearranged (members others : List Member) : Prop where
  | members (h : (known ["jira"] members).Perm (known ["jira"] others))
  | fields {object object' : List Char} {fields fields' : List Member}
    (h : known ["jira"] members = [("jira", object)])
    (h' : known ["jira"] others = [("jira", object')])
    (hobject : IsObject fields object) (hobject' : IsObject fields' object')
    (hfields : (known ["binary", "project", "started_at"] fields).Perm
      (known ["binary", "project", "started_at"] fields'))

theorem values_eq_of_known (h : known ["jira"] members = [("jira", value)]) :
    values "jira" members = [value] := by
  rw [← values_known List.mem_cons_self members, h]
  rfl

theorem Denotes.rearranged (h : Denotes members settings) (hothers : Rearranged members others) :
    Denotes others settings := by
  cases hothers with
  | members hperm =>
    have hvalues := values_perm hperm List.mem_cons_self
    cases h with
    | absent h =>
      rw [h, List.nil_perm] at hvalues
      exact .absent hvalues
    | null h =>
      rw [h, List.singleton_perm] at hvalues
      exact .null hvalues.symm
    | tracker h hobject hjira =>
      rw [h, List.singleton_perm] at hvalues
      exact .tracker hvalues.symm hobject hjira
  | fields hone hone' hobject hobject' hfields =>
    have hvalues := values_eq_of_known hone
    cases h with
    | absent h => cases h.symm.trans hvalues
    | null h =>
      cases h.symm.trans hvalues
      cases hobject
    | tracker h hobject'' hjira =>
      cases h.symm.trans hvalues
      cases hobject.unique hobject''
      exact .tracker (values_eq_of_known hone') hobject' (hjira.perm hfields)

end Rearrangements

section Repetitions

/--
A member that comes again: the tracker, or one of its settings.
-/
inductive Repeats (members : List Member) : Prop where
  | tracker (h : 2 ≤ (values "jira" members).length)
  | field {object : List Char} {fields : List Member} {name : String}
    (h : object ∈ values "jira" members) (hobject : IsObject fields object)
    (hname : name ∈ ["binary", "project", "started_at"])
    (hrepeats : 2 ≤ (values name fields).length)

theorem not_read_of_repeats (h : Repeats members) (hobject : IsObject members object)
    (hbefore : IsBlank before) (rest : List Char) (outcome : Settings × List Char) :
    schema.read (before ++ (object ++ rest)) ≠ .ok outcome := by
  intro hread
  obtain ⟨hsingle, haccepts⟩ := Schema.of_read hobject isExact hbefore hread
  cases h with
  | tracker h => exact absurd (hsingle "jira" List.mem_cons_self) (by omega)
  | field h hfields hname hrepeats =>
    obtain ⟨a, b, before', rest', after, hblank, hfield⟩ :=
      haccepts "jira" List.mem_cons_self _ h
    change readField "jira" a _ = _ at hfield
    rw [readField_object "jira" a hfields hblank] at hfield
    obtain ⟨found, hfound, _⟩ := map_eq_ok_iff.1 hfield
    have := (Schema.of_read hfields JiraSettings.isExact hblank hfound).1 _ hname
    omega

theorem parse_of_repeats {text : String} (h : Repeats members)
    (hdocument : IsDocument members text.toList) : ∃ fault, parse text = .error fault := by
  obtain ⟨before, object, after, hbefore, hobject, hafter, htext⟩ := hdocument
  unfold parse readChars
  rw [htext]
  cases hread : schema.read (before ++ (object ++ after)) with
  | error fault => exact ⟨fault, rfl⟩
  | ok outcome => exact absurd hread (not_read_of_repeats h hobject hbefore after outcome)

end Repetitions

section Files

variable {tree : FileTree} {path text : String}

theorem load_of_parse_error {fault : Fault} (hread : tree.readText path = .ok text)
    (h : parse text = .error fault) : load tree path = .error (.malformed text fault) := by
  unfold load
  rw [if_pos (isPresent_of_readText hread), hread]
  change ((parse text).mapError _ >>= _) = _
  rw [h]
  rfl

section Outcomes

variable (hread : tree.readText path = .ok text) (hdocument : IsDocument members text.toList)
variable (h : Denotes members settings)

include hread hdocument h

theorem load_of_hasProjectKey (hkey : ∀ jira, settings.jira = some jira → jira.HasProjectKey) :
    load tree path = .ok settings := by
  rw [load_of_parse (isPresent_of_readText hread) hread (parse_of_denotes h hdocument)]
  rw [check_of_isProjectKey fun jira hjira => JiraSettings.isProjectKey_iff.2 (hkey jira hjira)]

theorem load_of_not_hasProjectKey (hjira : settings.jira = some jira)
    (hkey : ¬jira.HasProjectKey) : load tree path = .error (.invalid (.project jira.project)) := by
  rw [← JiraSettings.isProjectKey_iff, Bool.not_eq_true] at hkey
  rw [load_of_parse (isPresent_of_readText hread) hread (parse_of_denotes h hdocument)]
  rw [check_of_not_isProjectKey hjira hkey]

end Outcomes

/--
The settings of a file are what its members say, if the project is a project key, whatever the order
of the members and whatever is written beside them. A member that comes again is always an error.
-/
theorem load_of_document (hread : tree.readText path = .ok text)
    (hdocument : IsDocument members text.toList) :
    (∀ settings, Denotes members settings →
      ((∃ loaded, load tree path = .ok loaded) ↔
        ∀ jira, settings.jira = some jira → jira.HasProjectKey) ∧
      (∀ loaded, load tree path = .ok loaded → loaded = settings) ∧
      (∀ jira, settings.jira = some jira → ¬jira.HasProjectKey →
        load tree path = .error (.invalid (.project jira.project))) ∧
      ∀ (other : FileTree) (target changed : String) (others : List Member),
        other.readText target = .ok changed → IsDocument others changed.toList →
        Rearranged members others → load other target = load tree path) ∧
    (Repeats members → ∃ fault, load tree path = .error (.malformed text fault)) := by
  constructor
  . intro settings h
    have hvalid : (∃ loaded, load tree path = .ok loaded) →
        ∀ jira, settings.jira = some jira → jira.HasProjectKey := by
      intro hloaded jira hjira
      by_contra hkey
      obtain ⟨loaded, hloaded⟩ := hloaded
      rw [load_of_not_hasProjectKey hread hdocument h hjira hkey] at hloaded
      cases hloaded
    refine ⟨⟨hvalid, fun hkey => ⟨_, load_of_hasProjectKey hread hdocument h hkey⟩⟩, ?_, ?_, ?_⟩
    . intro loaded hloaded
      have := load_of_hasProjectKey hread hdocument h (hvalid ⟨loaded, hloaded⟩)
      cases hloaded.symm.trans this
      rfl
    . exact fun jira hjira hkey => load_of_not_hasProjectKey hread hdocument h hjira hkey
    . intro other target changed others hother hdocument' hrearranged
      have h' := h.rearranged hrearranged
      by_cases hkey : ∀ jira, settings.jira = some jira → jira.HasProjectKey
      . rw [load_of_hasProjectKey hread hdocument h hkey,
          load_of_hasProjectKey hother hdocument' h' hkey]
      . obtain ⟨jira, hjira, hjkey⟩ : ∃ jira, settings.jira = some jira ∧ ¬jira.HasProjectKey := by
          simpa using hkey
        rw [load_of_not_hasProjectKey hread hdocument h hjira hjkey,
          load_of_not_hasProjectKey hother hdocument' h' hjira hjkey]
  . intro hrepeats
    obtain ⟨fault, hparse⟩ := parse_of_repeats hrepeats hdocument
    exact ⟨fault, load_of_parse_error hread hparse⟩

theorem load_of_document_rearranged :
    (∃ loaded, load ⟨[], [(["a"], .file
      "\x7b\"jira\":\x7b\"project\":\"OPS\",\"x\":[]\x7d\x7d".toUTF8)]⟩ "a" = .ok loaded) ∧
    load ⟨[], [(["a"], .file "\x7b\"jira\":\x7b\"\\u0070roject\" :\"OPS\"\x7d\x7d".toUTF8)]⟩ "a" =
      load ⟨[], [(["a"], .file
        "\x7b\"jira\":\x7b\"project\":\"OPS\",\"x\":[]\x7d\x7d".toUTF8)]⟩ "a" ∧
    ∃ fault, load ⟨[], [(["a"], .file "\x7b\"jira\":null,\"jira\":[]\x7d".toUTF8)]⟩ "a" =
      .error (.malformed "\x7b\"jira\":null,\"jira\":[]\x7d" fault) := by
  have hblank : IsBlank [] := List.forall_mem_nil _
  have hjira : IsKey (Spells · "jira".toList) _ := isKey_of_isPlain (by decide)
  have hproject : IsKey (Spells · "project".toList) _ := isKey_of_isPlain (by decide)
  -- The same key with white space behind it, and its first letter spelled by four digits.
  have hzero : IsHexDigit '0' 0 := ⟨by decide, .inl rfl⟩
  have hseven : IsHexDigit '7' 7 := ⟨by decide, .inl rfl⟩
  have hspelled : Spells ('\\' :: 'u' :: (['0', '0', '7', '0'] ++ "roject".toList)) "project".toList :=
    .word (.intro hzero hzero hseven hzero) (.inl (by decide)) (spells_of_isPlain (by decide))
  have hescaped := @IsKey.intro (Spells · "project".toList) [] _ [' '] hblank hspelled
    (List.forall_mem_singleton.2 List.mem_cons_self)
  have hx : IsKey (Spells · "x".toList) _ := isKey_of_isPlain (by decide)
  have hops : IsText _ "OPS" := isText_of_isPlain (by decide)
  have hlist : IsValue ('[' :: ([] ++ [']'])) := .emptyList hblank
  -- The settings of the tracker, beside a member that is unknown, and alone under the other spelling.
  have hbeside := IsObject.filled (.cons hproject hblank hops.isValue hblank
    (.last hx hblank hlist hblank))
  have halone := IsObject.filled (.last hescaped hblank hops.isValue hblank)
  have ha : IsDocument _ "\x7b\"jira\":\x7b\"project\":\"OPS\",\"x\":[]\x7d\x7d".toList :=
    ⟨[], _, [], hblank, .filled (.last hjira hblank hbeside.isValue hblank), hblank,
      by decide +kernel⟩
  have hb : IsDocument _ "\x7b\"jira\":\x7b\"\\u0070roject\" :\"OPS\"\x7d\x7d".toList :=
    ⟨[], _, [], hblank, .filled (.last hjira hblank halone.isValue hblank), hblank,
      by decide +kernel⟩
  have hc : IsDocument _ "\x7b\"jira\":null,\"jira\":[]\x7d".toList :=
    ⟨[], _, [], hblank, .filled (.cons hjira hblank .null hblank (.last hjira hblank hlist hblank)),
      hblank, by decide +kernel⟩
  have hkey : ∀ jira, (⟨some ⟨"jira", "OPS", "10:00:00"⟩⟩ : Settings).jira = some jira →
      jira.HasProjectKey := by
    intro jira hjira
    cases hjira
    exact JiraSettings.isProjectKey_iff.1 (by decide)
  have hread (text : String) :
      FileTree.readText ⟨[], [(["a"], .file text.toUTF8)]⟩ "a" = .ok text :=
    readText_of_readFile rfl
  obtain ⟨hok, _, _, hchanged⟩ :=
    (load_of_document (hread _) ha).1 ⟨some ⟨"jira", "OPS", "10:00:00"⟩⟩
      (.tracker rfl hbeside ⟨.inl ⟨rfl, rfl⟩, .inr ⟨_, rfl, hops⟩, .inl ⟨rfl, rfl⟩⟩)
  refine ⟨hok.2 hkey, hchanged _ _ _ _ (hread _) hb ?_, ?_⟩
  . exact .fields rfl rfl hbeside halone (List.Perm.refl _)
  . exact (load_of_document (hread _) hc).2 (.tracker (by decide))

end Files

end Settings

end Workday
