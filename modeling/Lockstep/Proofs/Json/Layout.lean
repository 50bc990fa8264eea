/-
A document that is written on many lines is read as it was (`read_pretty`), and
is the one on a single line but for white space outside of its strings
(`tight_pretty`).

White space changes nothing where a value or a name may stand, nor behind a
value, and the printer puts it nowhere else. With that the proofs go through the
tree as they do for a document on one line.
-/
import Lockstep.Proofs.Json.Reading

namespace Lockstep.Json

variable {j : Json} {js : List Json} {ms : List (String × Json)} {cs ds bs : List Char} {st : State}
  {c : Char}

/-! ## White space -/

def IsBlank (cs : List Char) : Prop :=
  ∀ c ∈ cs, isSpace c = true

theorem isBlank_space : IsBlank [' '] :=
  List.forall_mem_singleton.mpr rfl

theorem isBlank_newLine (level : Nat) : IsBlank (newLine level) := by
  refine List.forall_mem_cons.mpr ⟨rfl, fun c hc => ?_⟩
  rw [List.eq_of_mem_replicate hc]
  rfl

theorem run_blank (hst : ∀ c, isSpace c = true → stepChar st c = st) (hb : IsBlank bs) :
    run st bs = st := by
  induction bs with
  | nil => rfl
  | cons c bs ih =>
    obtain ⟨hc, hbs⟩ := List.forall_mem_cons.mp hb
    rw [run_cons, hst c hc, ih hbs]

theorem run_value_blank (hb : IsBlank bs) (frames : List Frame) :
    run ⟨.value, frames⟩ bs = ⟨.value, frames⟩ :=
  run_blank (fun c hc => by simp [stepChar, beginValue, hc]) hb

theorem run_nextName_blank (hb : IsBlank bs) (frames : List Frame) :
    run ⟨.nextName, frames⟩ bs = ⟨.nextName, frames⟩ :=
  run_blank (fun c hc => by simp [stepChar, hc]) hb

theorem run_complete_blank (hb : IsBlank bs) (j : Json) (frames : List Frame) :
    run (.complete j frames) bs = .complete j frames := by
  refine run_blank (fun c hc => ?_) hb
  cases frames <;> simp [State.complete, stepChar, afterValue, hc]

theorem Reads.behind (h : Reads j cs) (hb : IsBlank bs) : Reads j (bs ++ cs) := by
  intro frames
  rw [run_append, run_value_blank hb, h]

theorem Reads.before (h : Reads j cs) (hb : IsBlank bs) : Reads j (cs ++ bs) := by
  intro frames
  rw [run_append, h, run_complete_blank hb]

theorem ReadsItems.behind (h : ReadsItems js cs) (hb : IsBlank bs) : ReadsItems js (bs ++ cs) := by
  intro items frames
  rw [run_append, run_value_blank hb, h]

theorem ReadsMembers.behind (h : ReadsMembers ms cs) (hb : IsBlank bs) :
    ReadsMembers ms (bs ++ cs) := by
  intro members frames
  rw [run_append, run_nextName_blank hb, h]

/-! ## Documents on many lines -/

mutual
/-- What is written for a document completes it, by induction on the document. -/
theorem reads_prettyText (level : Nat) : ∀ j : Json, j.isPlain = true →
    Reads j (prettyText level j)
  | .null, _ => reads_null
  | .bool b, _ => reads_bool b
  | .string s, _ => reads_string s
  | .array [], _ => reads_array_nil
  | .array (j :: js), h => by
    rw [isPlain] at h
    exact reads_array ((readsItems_prettyItems level (j :: js) (List.cons_ne_nil _ _) h).behind
      (isBlank_newLine _))
  | .object [], _ => reads_object_nil
  | .object (m :: ms), h => by
    rw [isPlain] at h
    exact reads_object ((readsMembers_prettyMembers level (m :: ms) (List.cons_ne_nil _ _) h).behind
      (isBlank_newLine _))

theorem readsItems_prettyItems (level : Nat) : ∀ js : List Json, js ≠ [] → arePlain js = true →
    ReadsItems js (prettyItems level js)
  | [], hne, _ => absurd rfl hne
  | [j], _, h => by
    rw [arePlain, Bool.and_eq_true] at h
    exact ((reads_prettyText (level + 1) j h.1).before (isBlank_newLine level)).last
  | j :: j' :: js, _, h => by
    rw [arePlain, Bool.and_eq_true] at h
    have hmore := readsItems_prettyItems level (j' :: js) (List.cons_ne_nil _ _) h.2
    simpa [prettyItems] using
      (reads_prettyText (level + 1) j h.1).cons (hmore.behind (isBlank_newLine (level + 1)))

theorem readsMembers_prettyMembers (level : Nat) : ∀ ms : List (String × Json), ms ≠ [] →
    membersArePlain ms = true → ReadsMembers ms (prettyMembers level ms)
  | [], hne, _ => absurd rfl hne
  | [(name, j)], _, h => by
    rw [membersArePlain, Bool.and_eq_true] at h
    have hvalue := (reads_prettyText (level + 1) j h.1).behind isBlank_space
    simpa [prettyMembers] using (hvalue.before (isBlank_newLine level)).lastMember name
  | (name, j) :: m :: ms, _, h => by
    rw [membersArePlain, Bool.and_eq_true] at h
    have hvalue := (reads_prettyText (level + 1) j h.1).behind isBlank_space
    have hmore := readsMembers_prettyMembers level (m :: ms) (List.cons_ne_nil _ _) h.2
    simpa [prettyMembers] using
      hvalue.consMember (hmore.behind (isBlank_newLine (level + 1))) name
end

/-- **A document without numbers that is written on many lines is read as it was**, also with white
space behind it. -/
theorem read_pretty (h : j.isPlain = true) (hb : IsBlank bs) :
    read ((j.pretty.toList ++ bs).map .some) = .ok j := by
  rw [pretty, String.toList_ofList]
  exact ((reads_prettyText 0 j h).before hb).read

/-! ## Escape characters -/

theorem escape_not_mem_stringChar (c : Char) : '\x1b' ∉ stringChar c := by
  have hdigit : ∀ d < 16, '\x1b' ≠ Text.hexDigit d := by decide
  have hdigits (n : Nat) : '\x1b' ∉ Text.hexDigits 4 n := fun h => by
    obtain ⟨d, hd, he⟩ := Text.mem_hexDigits h
    exact hdigit d hd he
  unfold stringChar
  split
  case h_8 =>
    split
    · simp [hdigits]
    · next hcontrol =>
      rw [List.mem_singleton]
      rintro rfl
      exact hcontrol (by decide)
  all_goals decide

theorem escape_not_mem_stringText (s : String) : '\x1b' ∉ stringText s := by
  simp [stringText, escape_not_mem_stringChar]

theorem escape_not_mem_newLine (level : Nat) : '\x1b' ∉ newLine level :=
  fun h => absurd (isBlank_newLine level _ h) (by decide)

mutual
/-- What is written for a document holds no escape character, by induction on the document. -/
theorem escape_not_mem_prettyText (level : Nat) : ∀ j : Json, j.isPlain = true →
    '\x1b' ∉ prettyText level j
  | .null, _ | .bool true, _ | .bool false, _ | .array [], _ | .object [], _ => by
    simp [prettyText, scalarText]
  | .string s, _ => escape_not_mem_stringText s
  | .array (j :: js), h => by
    rw [isPlain] at h
    simp [prettyText, escape_not_mem_newLine, escape_not_mem_prettyItems level (j :: js) h]
  | .object (m :: ms), h => by
    rw [isPlain] at h
    simp [prettyText, escape_not_mem_newLine, escape_not_mem_prettyMembers level (m :: ms) h]

theorem escape_not_mem_prettyItems (level : Nat) : ∀ js : List Json, arePlain js = true →
    '\x1b' ∉ prettyItems level js
  | [], _ => by simp [prettyItems]
  | [j], h => by
    rw [arePlain, Bool.and_eq_true] at h
    simp [prettyItems, escape_not_mem_newLine, escape_not_mem_prettyText (level + 1) j h.1]
  | j :: j' :: js, h => by
    rw [arePlain, Bool.and_eq_true] at h
    simp [prettyItems, escape_not_mem_newLine, escape_not_mem_prettyText (level + 1) j h.1,
      escape_not_mem_prettyItems level (j' :: js) h.2]

theorem escape_not_mem_prettyMembers (level : Nat) : ∀ ms : List (String × Json),
    membersArePlain ms = true → '\x1b' ∉ prettyMembers level ms
  | [], _ => by simp [prettyMembers]
  | [(name, j)], h => by
    rw [membersArePlain, Bool.and_eq_true] at h
    simp [prettyMembers, escape_not_mem_newLine, escape_not_mem_stringText,
      escape_not_mem_prettyText (level + 1) j h.1]
  | (name, j) :: m :: ms, h => by
    rw [membersArePlain, Bool.and_eq_true] at h
    simp [prettyMembers, escape_not_mem_newLine, escape_not_mem_stringText,
      escape_not_mem_prettyText (level + 1) j h.1, escape_not_mem_prettyMembers level (m :: ms) h.2]
end

/-! ## Without white space -/

/-- Where a character of a JSON text stands: outside of strings, in one, or in one behind a
backslash. -/
inductive Standing where
  | outside
  | inside
  | escaped

/-- A text without the white space outside of its strings. -/
def tightFrom : Standing → List Char → List Char
  | _, [] => []
  | .outside, c :: cs =>
    if isSpace c then tightFrom .outside cs
    else c :: tightFrom (if c = '"' then .inside else .outside) cs
  | .inside, c :: cs =>
    c :: tightFrom (if c = '"' then .outside else if c = '\\' then .escaped else .inside) cs
  | .escaped, c :: cs => c :: tightFrom .inside cs

def tight (s : String) : String :=
  String.ofList (tightFrom .outside s.toList)

/-- Outside of strings, the first text is the second but for white space, and ends there. -/
def Tightens (cs ds : List Char) : Prop :=
  ∀ more, tightFrom .outside (cs ++ more) = ds ++ tightFrom .outside more

theorem Tightens.blank (hb : IsBlank bs) : Tightens bs [] := by
  intro more
  induction bs with
  | nil => rfl
  | cons c bs ih =>
    obtain ⟨hc, hbs⟩ := List.forall_mem_cons.mp hb
    rw [List.cons_append, tightFrom, if_pos hc, ih hbs]

theorem Tightens.append {cs' ds' : List Char} (h : Tightens cs ds) (h' : Tightens cs' ds') :
    Tightens (cs ++ cs') (ds ++ ds') := by
  intro more
  rw [List.append_assoc, h, h', List.append_assoc]

theorem Tightens.cons (h : Tightens cs ds) (hspace : isSpace c = false) (hquote : c ≠ '"') :
    Tightens (c :: cs) (c :: ds) := by
  intro more
  rw [List.cons_append, tightFrom, hspace, if_neg Bool.false_ne_true, if_neg hquote, h,
    List.cons_append]

theorem not_special_of_mem_hexDigits {width n : Nat} (h : c ∈ Text.hexDigits width n) :
    c ≠ '"' ∧ c ≠ '\\' := by
  have hdigit : ∀ d < 16, Text.hexDigit d ≠ '"' ∧ Text.hexDigit d ≠ '\\' := by decide
  obtain ⟨d, hd, rfl⟩ := Text.mem_hexDigits h
  exact hdigit d hd

theorem tightFrom_inside (h : ∀ c ∈ cs, c ≠ '"' ∧ c ≠ '\\') (more : List Char) :
    tightFrom .inside (cs ++ more) = cs ++ tightFrom .inside more := by
  induction cs with
  | nil => rfl
  | cons c cs ih =>
    obtain ⟨hc, hcs⟩ := List.forall_mem_cons.mp h
    rw [List.cons_append, tightFrom, if_neg hc.1, if_neg hc.2, ih hcs, List.cons_append]

/-- What is written for a character of a string does not end it. -/
theorem tightFrom_stringChar (c : Char) (more : List Char) :
    tightFrom .inside (stringChar c ++ more) = stringChar c ++ tightFrom .inside more := by
  unfold stringChar
  split
  case h_8 hquote hbackslash _ _ _ _ _ =>
    split
    · have hdigits : tightFrom .inside (Text.hexDigits 4 c.toNat ++ more) =
          Text.hexDigits 4 c.toNat ++ tightFrom .inside more :=
        tightFrom_inside (fun _ => not_special_of_mem_hexDigits) more
      simp [tightFrom, hdigits]
    · exact tightFrom_inside (List.forall_mem_singleton.mpr ⟨hquote, hbackslash⟩) more
  all_goals simp [tightFrom]

theorem tightens_stringText (s : String) : Tightens (stringText s) (stringText s) := by
  intro more
  have hchars (cs : List Char) : tightFrom .inside (cs.flatMap stringChar ++ '"' :: more) =
      cs.flatMap stringChar ++ '"' :: tightFrom .outside more := by
    induction cs with
    | nil => rfl
    | cons c cs ih =>
      rw [List.flatMap_cons, List.append_assoc, tightFrom_stringChar, ih, List.append_assoc]
  have hquote : isSpace '"' = false := rfl
  simp [stringText, tightFrom, hquote, hchars]

mutual
theorem tightens_prettyText (level : Nat) : ∀ j : Json, j.isPlain = true →
    Tightens (prettyText level j) (compactText j)
  | .null, _ => fun _ => rfl
  | .bool true, _ | .bool false, _ => fun _ => rfl
  | .string s, _ => tightens_stringText s
  | .array [], _ => fun _ => rfl
  | .array (j :: js), h => by
    rw [isPlain] at h
    have hitems := tightens_prettyItems level (j :: js) h
    exact ((Tightens.blank (isBlank_newLine (level + 1))).append hitems).cons rfl (by decide)
  | .object [], _ => fun _ => rfl
  | .object (m :: ms), h => by
    rw [isPlain] at h
    have hmembers := tightens_prettyMembers level (m :: ms) h
    exact ((Tightens.blank (isBlank_newLine (level + 1))).append hmembers).cons rfl (by decide)

theorem tightens_prettyItems (level : Nat) : ∀ js : List Json, arePlain js = true →
    Tightens (prettyItems level js) (compactItems js)
  | [], _ => fun _ => rfl
  | [j], h => by
    rw [arePlain, Bool.and_eq_true] at h
    have hend : Tightens [']'] [']'] := fun _ => rfl
    have hitem := tightens_prettyText (level + 1) j h.1
    simpa [prettyItems, compactItems] using
      (hitem.append (.blank (isBlank_newLine level))).append hend
  | j :: j' :: js, h => by
    rw [arePlain, Bool.and_eq_true] at h
    have hitem := tightens_prettyText (level + 1) j h.1
    have hmore := tightens_prettyItems level (j' :: js) h.2
    have hrest := (Tightens.blank (isBlank_newLine (level + 1))).append hmore
    simpa [prettyItems, compactItems] using hitem.append (hrest.cons (c := ',') rfl (by decide))

theorem tightens_prettyMembers (level : Nat) : ∀ ms : List (String × Json),
    membersArePlain ms = true → Tightens (prettyMembers level ms) (compactMembers ms)
  | [], _ => fun _ => rfl
  | [(name, j)], h => by
    rw [membersArePlain, Bool.and_eq_true] at h
    have hend : Tightens ['\x7d'] ['\x7d'] := fun _ => rfl
    have hvalue := (Tightens.blank isBlank_space).append (tightens_prettyText (level + 1) j h.1)
    have hmember := (tightens_stringText name).append (hvalue.cons (c := ':') rfl (by decide))
    simpa [prettyMembers, compactMembers] using
      (hmember.append (.blank (isBlank_newLine level))).append hend
  | (name, j) :: m :: ms, h => by
    rw [membersArePlain, Bool.and_eq_true] at h
    have hvalue := (Tightens.blank isBlank_space).append (tightens_prettyText (level + 1) j h.1)
    have hmember := (tightens_stringText name).append (hvalue.cons (c := ':') rfl (by decide))
    have hmore := tightens_prettyMembers level (m :: ms) h.2
    have hrest := (Tightens.blank (isBlank_newLine (level + 1))).append hmore
    simpa [prettyMembers, compactMembers] using hmember.append (hrest.cons (c := ',') rfl (by decide))
end

/-- **A document on many lines is the one on a single line**, but for white space outside of its
strings. -/
theorem tight_pretty (h : j.isPlain = true) (hb : IsBlank bs) :
    tight (String.ofList (j.pretty.toList ++ bs)) = j.compact := by
  rw [tight, pretty, String.toList_ofList, String.toList_ofList, compact]
  have htext := (tightens_prettyText 0 j h).append (.blank hb)
  have hend := htext []
  simp only [List.append_nil] at hend
  rw [hend]
  simp [tightFrom]

end Lockstep.Json
