import Workday.Proofs.Json.Scanning

/-!
This module contains the correctness of passing over values: a well-formed value, nested to any
depth, is passed over to its end, whatever brackets are open around it.
-/

namespace Workday.Json

open Text

variable {frame : Frame} {frames : List Frame} {opened : Option Frame} {filled : Bool} {c : Char}
variable {before after cs rest value : List Char}

section Steps

/--
Pass over what follows within the brackets that are open, from before the next element.
-/
def goOn : List Frame × List Char → Except Fault (List Char)
  | ([], rest) => .ok rest
  | (frame :: frames, rest) => (skipKey frame rest).bind (skipNested (frame :: frames))

/--
Pass over what follows within the brackets that are open, from behind an element or, if `filled` is
false, from behind the innermost one.
-/
def proceed (filled : Bool) (frames : List Frame) (cs : List Char) : Except Fault (List Char) :=
  (skipClosing filled frames cs).bind goOn

theorem proceed_of_skipClosing {found : List Frame × List Char}
    (h : skipClosing filled frames cs = .ok found) : proceed filled frames cs = goOn found := by
  unfold proceed
  rw [h]
  rfl

theorem skipNested_of_skipLead (h : skipLead (skipSpace cs) = .ok (opened, rest)) :
    skipNested frames cs = proceed opened.isNone (opened.toList ++ frames) rest := by
  rw [skipNested]
  split
  . next heq => cases h.symm.trans heq
  . next heq =>
    cases h.symm.trans heq
    split
    . next heq => unfold proceed; rw [heq]; rfl
    . next heq => rw [proceed_of_skipClosing heq]; rfl
    . next heq =>
      rw [proceed_of_skipClosing heq]
      change _ = (skipKey _ _).bind _
      split
      . next heq => rw [heq]; rfl
      . next heq => dsimp only; rw [heq]; rfl

theorem skipNested_eq (frames : List Frame) (cs : List Char) :
    skipNested frames cs = (skipLead (skipSpace cs)).bind fun found =>
      proceed found.1.isNone (found.1.toList ++ frames) found.2 := by
  cases h : skipLead (skipSpace cs) with
  | ok found => exact skipNested_of_skipLead h
  | error fault =>
    rw [skipNested]
    split
    . next heq => cases h.symm.trans heq; rfl
    . next heq => cases h.symm.trans heq

theorem skipNested_list (frames : List Frame) (cs : List Char) :
    skipNested frames ('[' :: cs) = proceed false (.list :: frames) cs := by
  have h : skipLead (skipSpace ('[' :: cs)) = .ok (some .list, cs) := rfl
  exact skipNested_of_skipLead h

theorem skipNested_object (frames : List Frame) (cs : List Char) :
    skipNested frames ('{' :: cs) = proceed false (.object :: frames) cs := by
  have h : skipLead (skipSpace ('{' :: cs)) = .ok (some .object, cs) := rfl
  exact skipNested_of_skipLead h

theorem skipNested_skipSpace (frames : List Frame) (cs : List Char) :
    skipNested frames (skipSpace cs) = skipNested frames cs := by
  rw [skipNested_eq, skipNested_eq, skipSpace_skipSpace]

theorem skipNested_append (h : IsBlank before) (frames : List Frame) (cs : List Char) :
    skipNested frames (before ++ cs) = skipNested frames cs := by
  rw [← skipNested_skipSpace, skipSpace_append h, skipNested_skipSpace]

theorem Frame.closing_ne_comma (frame : Frame) : frame.closing ≠ ',' := by
  cases frame <;> decide

theorem proceed_of_closing (h : skipSpace cs = frame.closing :: rest) :
    proceed filled (frame :: frames) cs = proceed true frames rest := by
  unfold proceed
  rw [skipClosing, h]
  dsimp only
  rw [if_neg (fun h => frame.closing_ne_comma h.1), if_pos rfl]

theorem proceed_of_comma (h : skipSpace cs = ',' :: rest) :
    proceed true (frame :: frames) cs = goOn (frame :: frames, rest) := by
  apply proceed_of_skipClosing
  rw [skipClosing, h]
  dsimp only
  rw [if_pos ⟨rfl, rfl⟩]

theorem goOn_list (cs : List Char) : goOn (.list :: frames, cs) = skipNested (.list :: frames) cs :=
  rfl

theorem goOn_skipSpace (cs : List Char) :
    goOn (frame :: frames, skipSpace cs) = goOn (frame :: frames, cs) := by
  cases frame with
  | list => exact skipNested_skipSpace _ _
  | object =>
    unfold goOn skipKey
    dsimp only
    rw [skipSpace_skipSpace]

theorem proceed_of_open (h : skipSpace cs = c :: rest) (hc : c ≠ frame.closing) :
    proceed false (frame :: frames) cs = goOn (frame :: frames, cs) := by
  rw [← goOn_skipSpace cs, h]
  apply proceed_of_skipClosing
  rw [skipClosing, h]
  dsimp only
  rw [if_neg (by simp), if_neg hc, if_neg (by simp)]

theorem skipColon_append (h : IsBlank before) (rest : List Char) :
    skipColon (before ++ ':' :: rest) = .ok rest := by
  unfold skipColon
  rw [skipSpace_append_cons h rfl]
  rfl

theorem goOn_key {key : List Char} (h : IsKey IsBody key) (rest : List Char) :
    goOn (.object :: frames, key ++ rest) = skipNested (.object :: frames) rest := by
  obtain ⟨hbefore, hbody, hbetween⟩ := h
  unfold goOn skipKey
  simp only [List.append_assoc, List.cons_append, List.nil_append]
  rw [skipSpace_append_cons hbefore rfl]
  dsimp only
  rw [if_pos rfl, skipText_append hbody]
  dsimp only
  rw [skipColon_append hbetween]
  rfl

end Steps

section Values

theorem stops_of_isBlank {p : Char → Bool} (h : IsBlank after)
    (hblank : ∀ d ∈ [' ', '\n', '\t', '\r'], p d = false) (hc : p c = false) (rest : List Char) :
    Stops p (after ++ c :: rest) := by
  intro d hd
  cases after with
  | nil =>
    cases hd
    exact hc
  | cons b after =>
    cases hd
    exact hblank _ (h _ List.mem_cons_self)

theorem skipLead_digit (h : c.isDigit = true) (rest : List Char) :
    skipLead (c :: rest) = (skipNumber (c :: rest)).map (none, ·) := by
  unfold skipLead
  split
  case h_9 heq =>
    cases heq
    rw [if_pos h]
  all_goals
    next heq => cases heq <;> cases h

/--
The end of a number behind a value: the characters after it are none that a number may go on with.
-/
theorem stops_isNumeric (h : IsBlank after) (hc : c ∈ [',', ']', '}']) (rest : List Char) :
    Stops isNumeric (after ++ c :: rest) := by
  have hending : ∀ d ∈ [',', ']', '}'], isNumeric d = false := forall_ending.2 ⟨rfl, rfl, rfl⟩
  exact stops_of_isBlank h (forall_blank.2 ⟨rfl, rfl, rfl, rfl⟩) (hending c hc) rest

theorem IsWhole.head (h : IsWhole cs) : ∃ d ds, cs = d :: ds ∧ d.isDigit = true := by
  obtain rfl | ⟨hdigits, _⟩ := h
  . exact ⟨'0', [], rfl, rfl⟩
  . cases cs with
    | nil => cases hdigits
    | cons d ds => exact ⟨d, ds, rfl, isDigit_of_isNumber hdigits d List.mem_cons_self⟩

theorem IsNumeral.head (h : IsNumeral cs) : ∃ d ds, cs = d :: ds ∧ d.isDigit = true := by
  obtain ⟨whole, fraction, exponent, hwhole, _, _, rfl⟩ := h
  obtain ⟨d, ds, rfl, hd⟩ := hwhole.head
  exact ⟨d, _, rfl, hd⟩

theorem not_isSpace_of_isDigit (h : c.isDigit = true) : isSpace c = false := by
  have hdigit : ∀ d ∈ [' ', '\n', '\t', '\r'], d.isDigit = false :=
    forall_blank.2 ⟨rfl, rfl, rfl, rfl⟩
  by_contra hspace
  rw [hdigit c (isSpace_iff.1 (by simpa using hspace))] at h
  cases h

/--
The first character of a value tells it from white space and from the end of a list.
-/
theorem head_of_isValue (h : IsValue value) :
    ∃ d ds, value = d :: ds ∧ isSpace d = false ∧ d ≠ ']' := by
  cases h with
  | number h =>
    obtain ⟨d, ds, rfl, hd⟩ := h.head
    exact ⟨d, ds, rfl, not_isSpace_of_isDigit hd, by rintro rfl; cases hd⟩
  | _ => exact ⟨_, _, rfl, rfl, by decide⟩

theorem skipSpace_elements (h : IsPart .elements cs) (rest : List Char) :
    ∃ d ds, skipSpace (cs ++ rest) = d :: ds ∧ d ≠ Frame.list.closing := by
  have start {before value : List Char} (hbefore : IsBlank before) (hvalue : IsValue value)
      (more : List Char) :
      ∃ d ds, skipSpace (before ++ (value ++ more)) = d :: ds ∧ d ≠ Frame.list.closing := by
    obtain ⟨d, ds, rfl, hspace, hd⟩ := head_of_isValue hvalue
    exact ⟨d, _, skipSpace_append_cons hbefore hspace _, hd⟩
  cases h with
  | lastElement hbefore hvalue _ => simpa only [List.append_assoc] using start hbefore hvalue _
  | element hbefore hvalue _ _ => simpa only [List.append_assoc] using start hbefore hvalue _

theorem skipSpace_members (h : IsPart .members cs) (rest : List Char) :
    ∃ ds, skipSpace (cs ++ rest) = '"' :: ds := by
  have start {key : List Char} (hkey : IsKey IsBody key) (more : List Char) :
      ∃ ds, skipSpace (key ++ more) = '"' :: ds := by
    obtain ⟨hbefore, _, _⟩ := hkey
    rw [List.append_assoc]
    exact ⟨_, skipSpace_append_cons hbefore rfl _⟩
  cases h with
  | lastMember hkey _ _ _ => simpa only [List.append_assoc] using start hkey _
  | member hkey _ _ _ _ => simpa only [List.append_assoc] using start hkey _

/--
How each kind of text is passed over, within any brackets that are open around it.
-/
def Skips : Part → List Char → Prop
  | .value, cs => ∀ (frames : List Frame) (rest : List Char), Stops isNumeric rest →
    skipNested frames (cs ++ rest) = proceed true frames rest
  | .elements, cs => ∀ (frames : List Frame) (rest : List Char),
    skipNested (.list :: frames) (cs ++ ']' :: rest) = proceed true frames rest
  | .members, cs => ∀ (frames : List Frame) (rest : List Char),
    goOn (.object :: frames, cs ++ '}' :: rest) = proceed true frames rest

theorem skipNested_scalar (h : skipLead cs = .ok (none, rest)) (hspace : skipSpace cs = cs) :
    skipNested frames cs = proceed true frames rest :=
  skipNested_of_skipLead (by rw [hspace, h])

theorem proceed_empty (h : IsBlank cs) (frame : Frame) (rest : List Char) :
    proceed false (frame :: frames) (cs ++ frame.closing :: rest) = proceed true frames rest := by
  apply proceed_of_closing
  apply skipSpace_append_cons h
  cases frame <;> rfl

/--
A value inside a bracket is passed over together with the white space around it.
-/
theorem skipNested_element (hbefore : IsBlank before) (hvalue : Skips .value value)
    (hafter : IsBlank after) (hc : c ∈ [',', ']', '}']) (frames : List Frame) (rest : List Char) :
    skipNested frames (before ++ (value ++ (after ++ c :: rest))) =
      proceed true frames (after ++ c :: rest) := by
  rw [skipNested_append hbefore, hvalue frames _ (stops_isNumeric hafter hc rest)]

theorem skips_of_isPart {part : Part} (h : IsPart part cs) : Skips part cs := by
  induction h with
  | null => exact fun frames rest _ => skipNested_scalar rfl rfl
  | true => exact fun frames rest _ => skipNested_scalar rfl rfl
  | false => exact fun frames rest _ => skipNested_scalar rfl rfl
  | number h =>
    intro frames rest hrest
    obtain ⟨d, ds, rfl, hd⟩ := h.head
    apply skipNested_scalar
    . rw [List.cons_append, skipLead_digit hd, ← List.cons_append, skipNumber_append h hrest]
      rfl
    . exact skipSpace_cons (not_isSpace_of_isDigit hd) _
  | negative h =>
    intro frames rest hrest
    apply skipNested_scalar _ rfl
    change (skipNumber (_ ++ rest)).map _ = _
    rw [skipNumber_append h hrest]
    rfl
  | string h =>
    intro frames rest _
    apply skipNested_scalar _ rfl
    change (skipText (_ ++ rest)).map _ = _
    rw [List.append_assoc, List.singleton_append, skipText_append h]
    rfl
  | emptyList h =>
    intro frames rest _
    rw [List.cons_append, List.append_assoc, List.singleton_append, skipNested_list]
    exact proceed_empty h .list rest
  | list h ih =>
    intro frames rest _
    rw [List.cons_append, List.append_assoc, List.singleton_append, skipNested_list]
    obtain ⟨d, ds, hstart, hd⟩ := skipSpace_elements h (']' :: rest)
    exact (proceed_of_open hstart hd).trans (ih frames rest)
  | emptyObject h =>
    intro frames rest _
    rw [List.cons_append, List.append_assoc, List.singleton_append, skipNested_object]
    exact proceed_empty h .object rest
  | object h ih =>
    intro frames rest _
    rw [List.cons_append, List.append_assoc, List.singleton_append, skipNested_object]
    obtain ⟨ds, hstart⟩ := skipSpace_members h ('}' :: rest)
    exact (proceed_of_open hstart (by decide)).trans (ih frames rest)
  | lastElement hbefore _ hafter ih =>
    intro frames rest
    simp only [List.append_assoc]
    rw [skipNested_element hbefore ih hafter (by simp)]
    exact proceed_of_closing (skipSpace_append_cons hafter rfl rest)
  | element hbefore _ hafter _ ih ihmore =>
    intro frames rest
    simp only [List.append_assoc, List.cons_append]
    rw [skipNested_element hbefore ih hafter (by simp)]
    rw [proceed_of_comma (skipSpace_append_cons hafter rfl _), goOn_list, ihmore]
  | lastMember hkey hbefore _ hafter ih =>
    intro frames rest
    simp only [List.append_assoc]
    rw [goOn_key hkey, skipNested_element hbefore ih hafter (by simp)]
    exact proceed_of_closing (skipSpace_append_cons hafter rfl rest)
  | member hkey hbefore _ hafter _ ih ihmore =>
    intro frames rest
    simp only [List.append_assoc, List.cons_append]
    rw [goOn_key hkey, skipNested_element hbefore ih hafter (by simp)]
    rw [proceed_of_comma (skipSpace_append_cons hafter rfl _), ihmore]

theorem skipValue_append (hbefore : IsBlank before) (hvalue : IsValue value)
    (hafter : IsBlank after) (hc : c ∈ [',', ']', '}']) (rest : List Char) :
    skipValue (before ++ (value ++ (after ++ c :: rest))) = .ok (after ++ c :: rest) :=
  skipNested_element hbefore (skips_of_isPart hvalue) hafter hc [] rest

end Values

end Workday.Json
