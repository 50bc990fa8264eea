/-
A document that is written on one line is read as it was (`read_compact`), if
it holds no numbers.

`Reads j cs` says what that comes to inside other text: where a value may
stand, the characters `cs` complete the document `j`, whatever arrays and
objects are open around it. This is closed under making arrays and objects
(`ReadsItems`, `ReadsMembers`), so the proof follows the printer through the
tree. The texts of numbers are left out because they end only with the
character behind them.
-/
import Lockstep.Json.Printer
import Lockstep.Json.Reader

namespace Lockstep.Json

variable {j : Json} {js : List Json} {ms : List (String × Json)} {cs ds : List Char}

/-! ## Runs -/

/-- What the reader makes of characters. -/
def run (st : State) (cs : List Char) : State :=
  cs.foldl stepChar st

@[simp] theorem run_nil (st : State) : run st [] = st := rfl

theorem run_cons (st : State) (c : Char) (cs : List Char) :
    run st (c :: cs) = run (stepChar st c) cs := rfl

theorem run_append (st : State) (cs ds : List Char) : run st (cs ++ ds) = run (run st cs) ds :=
  List.foldl_append

/-- Where the grammar is broken it stays so. -/
theorem run_broken (part : Json) (frames : List Frame) (cs : List Char) :
    run ⟨.broken part, frames⟩ cs = ⟨.broken part, frames⟩ := by
  induction cs with
  | nil => rfl
  | cons c cs ih =>
    have hstep : stepChar ⟨.broken part, frames⟩ c = ⟨.broken part, frames⟩ := by
      simp only [stepChar, afterValue, State.fail]
      split <;> rfl
    rw [run_cons, hstep, ih]

/-- Text that breaks the grammar completes nothing. -/
theorem complete_ne_broken (j part : Json) (frames frames' : List Frame) :
    State.complete j frames ≠ ⟨.broken part, frames'⟩ := by
  cases frames <;> simp [State.complete]

/-! ## Strings -/

theorem step_digit {d left : Nat} (hd : d < 16) (hleft : 1 < left) (n : Nat) (p : Purpose)
    (part : Partial) (frames : List Frame) :
    stepChar ⟨.unicode p part left n, frames⟩ (Text.hexDigit d) =
      ⟨.unicode p part (left - 1) (16 * n + d), frames⟩ := by
  simp only [stepChar, unicodeDigit, Text.hexValue?_hexDigit d hd, if_pos hleft]

/-- The last digit ends the escape, if the code point lies below all halves of pairs. -/
theorem step_lastDigit {d n : Nat} (hd : d < 16) (hn : 16 * n + d < 0xd800) (p : Purpose)
    (part : Partial) (frames : List Frame) :
    stepChar ⟨.unicode p part 1 n, frames⟩ (Text.hexDigit d) =
      ⟨.string p (part.push (Char.ofNat (16 * n + d))), frames⟩ := by
  have hhigh : ¬ (0xd800 ≤ 16 * n + d ∧ 16 * n + d < 0xdc00) := by omega
  have hlow : ¬ (0xdc00 ≤ 16 * n + d ∧ 16 * n + d < 0xe000) := by omega
  simp only [stepChar, unicodeDigit, Text.hexValue?_hexDigit d hd, Nat.lt_irrefl, if_false,
    if_neg hhigh, if_neg hlow]

/-- The four digits of a control character make it. -/
theorem run_hexDigits {n : Nat} (h : n < 0x20) (p : Purpose) (part : Partial)
    (frames : List Frame) :
    run ⟨.unicode p part 4 0, frames⟩ (Text.hexDigits 4 n) =
      ⟨.string p (part.push (Char.ofNat n)), frames⟩ := by
  have hdigits : Text.hexDigits 4 n =
      [Text.hexDigit 0, Text.hexDigit 0, Text.hexDigit (n / 16), Text.hexDigit (n % 16)] := by
    have hzero : n / 16 / 16 / 16 % 16 = 0 ∧ n / 16 / 16 % 16 = 0 ∧ n / 16 % 16 = n / 16 := by omega
    simp only [Text.hexDigits, hzero.1, hzero.2.1, hzero.2.2, List.nil_append, List.cons_append]
  have hvalue : 16 * (n / 16) + n % 16 = n := by omega
  rw [hdigits, run_cons, step_digit (by omega) (by omega), run_cons,
    step_digit (by omega) (by omega), run_cons, step_digit (by omega) (by omega), run_cons]
  simp only [Nat.mul_zero, Nat.zero_add, Nat.reduceSub]
  rw [step_lastDigit (by omega) (by omega), hvalue, run_nil]

/-- A character of a string is read from what is written for it. -/
theorem run_stringChar (p : Purpose) (part : Partial) (frames : List Frame) (c : Char) :
    run ⟨.string p part, frames⟩ (stringChar c) = ⟨.string p (part.push c), frames⟩ := by
  unfold stringChar
  split
  case h_8 hquote hbackslash _ _ _ _ _ =>
    split
    · next hcontrol =>
      have hdigits := run_hexDigits hcontrol p part frames
      rw [Char.ofNat_toNat] at hdigits
      rw [← hdigits]
      rfl
    · next hcontrol =>
      simp only [run_cons, run_nil, stepChar]
      rw [if_neg hquote, if_neg hbackslash, if_neg hcontrol]
  all_goals rfl

theorem run_stringChars (p : Purpose) (frames : List Frame) (cs : List Char) (reversed : List Char) :
    run ⟨.string p { reversed }, frames⟩ (cs.flatMap stringChar) =
      ⟨.string p { reversed := cs.reverse ++ reversed }, frames⟩ := by
  induction cs generalizing reversed with
  | nil => rfl
  | cons c cs ih =>
    rw [List.flatMap_cons, run_append, run_stringChar, Partial.push, ih, List.reverse_cons,
      List.append_assoc, List.singleton_append]

/-- What stands between quotes is the text of the string. -/
theorem run_quoted (p : Purpose) (frames : List Frame) (s : String) :
    run ⟨.string p {}, frames⟩ (s.toList.flatMap stringChar ++ ['"']) =
      State.endString ⟨.string p {}, frames⟩ p { reversed := s.toList.reverse } := by
  have hclose : stepChar ⟨.string p { reversed := s.toList.reverse }, frames⟩ '"' =
      State.endString ⟨.string p {}, frames⟩ p { reversed := s.toList.reverse } := by
    cases p <;> rfl
  rw [run_append, run_stringChars, List.append_nil, run_cons, hclose, run_nil]

theorem text?_reverse (s : String) :
    Partial.text? { reversed := s.toList.reverse } = .some s := by
  simp [Partial.text?]

/-! ## Documents inside others -/

/-- Where a value may stand the characters complete the document. -/
def Reads (j : Json) (cs : List Char) : Prop :=
  ∀ frames, run ⟨.value, frames⟩ cs = .complete j frames

/-- Behind the items that an array has, the characters add further ones and end it. -/
def ReadsItems (js : List Json) (cs : List Char) : Prop :=
  ∀ items frames, run ⟨.value, .array items :: frames⟩ cs = .complete (.array (items ++ js)) frames

/-- Behind the members that an object has, the characters add further ones and end it. -/
def ReadsMembers (ms : List (String × Json)) (cs : List Char) : Prop :=
  ∀ members frames,
    run ⟨.nextName, .names members :: frames⟩ cs = .complete (.object (members ++ ms)) frames

theorem reads_string (s : String) : Reads (.string s) (stringText s) := by
  intro frames
  have hopen : stepChar ⟨.value, frames⟩ '"' = ⟨.string .value {}, frames⟩ := rfl
  rw [stringText, List.cons_append, run_cons, hopen, run_quoted, State.endString]
  simp only [text?_reverse, Option.map_some, Option.getD_some]

theorem reads_null : Reads .null "null".toList := fun _ => rfl

theorem reads_bool (b : Bool) : Reads (.bool b) (scalarText (.bool b)) := by
  intro frames
  cases b <;> rfl

/-! ### Arrays -/

theorem Reads.last (h : Reads j cs) : ReadsItems [j] (cs ++ [']']) := by
  intro items frames
  rw [run_append, h]
  rfl

theorem Reads.cons (h : Reads j cs) (hmore : ReadsItems js ds) :
    ReadsItems (j :: js) (cs ++ ',' :: ds) := by
  intro items frames
  have hcomma : stepChar (.complete j (.array items :: frames)) ',' =
      ⟨.value, .array (items ++ [j]) :: frames⟩ := rfl
  rw [run_append, h, run_cons, hcomma, hmore, List.append_assoc, List.singleton_append]

/-- The first item of an array stands where a value may stand, but that the array may end there.
Items do not begin with the end. -/
theorem ReadsItems.first (h : ReadsItems js cs) (items : List Json) (frames : List Frame) :
    run ⟨.firstItem, .array items :: frames⟩ cs = .complete (.array (items ++ js)) frames := by
  have hsame := h items frames
  clear h
  induction cs with
  | nil => cases frames <;> cases hsame
  | cons c cs ih =>
    rw [run_cons] at hsame ⊢
    by_cases hspace : isSpace c = true
    · have hend : c ≠ ']' := by
        rintro rfl
        cases hspace
      have hvalue : stepChar ⟨.value, .array items :: frames⟩ c =
          ⟨.value, .array items :: frames⟩ := by
        simp [stepChar, beginValue, hspace]
      have hfirst : stepChar ⟨.firstItem, .array items :: frames⟩ c =
          ⟨.firstItem, .array items :: frames⟩ := by
        simp [stepChar, beginValue, hspace, hend]
      rw [hvalue] at hsame
      rw [hfirst]
      exact ih hsame
    · by_cases hend : c = ']'
      · subst hend
        have hbroken : stepChar ⟨.value, .array items :: frames⟩ ']' =
            ⟨.broken (.faulty .malformed), .array items :: frames⟩ := rfl
        rw [hbroken, run_broken] at hsame
        exact absurd hsame.symm (complete_ne_broken _ _ _ _)
      · have hstep : stepChar ⟨.firstItem, .array items :: frames⟩ c =
            stepChar ⟨.value, .array items :: frames⟩ c := by
          simp [stepChar, beginValue, hspace, hend, State.fail]
        rw [hstep]
        exact hsame

theorem reads_array_nil : Reads (.array []) ['[', ']'] := fun _ => rfl

theorem reads_array (h : ReadsItems js cs) : Reads (.array js) ('[' :: cs) := by
  intro frames
  have hopen : stepChar ⟨.value, frames⟩ '[' = ⟨.firstItem, .array [] :: frames⟩ := rfl
  rw [run_cons, hopen, h.first, List.nil_append]

/-! ### Objects -/

/-- A name, the colon behind it and a value are a member. -/
theorem run_member (h : Reads j cs) (name : String) (members : List (String × Json))
    (frames : List Frame) :
    run ⟨.nextName, .names members :: frames⟩ (stringText name ++ ':' :: cs) =
      ⟨.behind, .names (members ++ [(name, j)]) :: frames⟩ := by
  have hopen : stepChar ⟨.nextName, .names members :: frames⟩ '"' =
      ⟨.string .name {}, .names members :: frames⟩ := rfl
  have hcolon : stepChar ⟨.colon (.some name), .names members :: frames⟩ ':' =
      ⟨.value, .value members (.some name) :: frames⟩ := rfl
  have hname : run ⟨.nextName, .names members :: frames⟩ (stringText name) =
      ⟨.colon (.some name), .names members :: frames⟩ := by
    rw [stringText, List.cons_append, run_cons, hopen, run_quoted, State.endString]
    simp only [text?_reverse]
  rw [run_append, hname, run_cons, hcolon, h]
  rfl

theorem Reads.lastMember (h : Reads j cs) (name : String) :
    ReadsMembers [(name, j)] (stringText name ++ ':' :: cs ++ ['\x7d']) := by
  intro members frames
  rw [run_append, run_member h]
  rfl

theorem Reads.consMember (h : Reads j cs) (hmore : ReadsMembers ms ds) (name : String) :
    ReadsMembers ((name, j) :: ms) (stringText name ++ ':' :: cs ++ ',' :: ds) := by
  intro members frames
  have hcomma : stepChar ⟨.behind, .names (members ++ [(name, j)]) :: frames⟩ ',' =
      ⟨.nextName, .names (members ++ [(name, j)]) :: frames⟩ := rfl
  rw [run_append, run_member h, run_cons, hcomma, hmore, List.append_assoc, List.singleton_append]

/-- So it is with the first name of an object. -/
theorem ReadsMembers.first (h : ReadsMembers ms cs) (members : List (String × Json))
    (frames : List Frame) :
    run ⟨.firstName, .names members :: frames⟩ cs = .complete (.object (members ++ ms)) frames := by
  have hsame := h members frames
  clear h
  induction cs with
  | nil => cases frames <;> cases hsame
  | cons c cs ih =>
    rw [run_cons] at hsame ⊢
    by_cases hspace : isSpace c = true
    · have hnext : stepChar ⟨.nextName, .names members :: frames⟩ c =
          ⟨.nextName, .names members :: frames⟩ := by
        simp [stepChar, hspace]
      have hfirst : stepChar ⟨.firstName, .names members :: frames⟩ c =
          ⟨.firstName, .names members :: frames⟩ := by
        simp [stepChar, hspace]
      rw [hnext] at hsame
      rw [hfirst]
      exact ih hsame
    · by_cases hend : c = '\x7d'
      · subst hend
        have hbroken : stepChar ⟨.nextName, .names members :: frames⟩ '\x7d' =
            ⟨.broken (.faulty .malformed), .names members :: frames⟩ := rfl
        rw [hbroken, run_broken] at hsame
        exact absurd hsame.symm (complete_ne_broken _ _ _ _)
      · have hstep : stepChar ⟨.firstName, .names members :: frames⟩ c =
            stepChar ⟨.nextName, .names members :: frames⟩ c := by
          simp [stepChar, hspace, hend, State.fail]
        rw [hstep]
        exact hsame

theorem reads_object_nil : Reads (.object []) ['\x7b', '\x7d'] := fun _ => rfl

theorem reads_object (h : ReadsMembers ms cs) : Reads (.object ms) ('\x7b' :: cs) := by
  intro frames
  have hopen : stepChar ⟨.value, frames⟩ '\x7b' = ⟨.firstName, .names [] :: frames⟩ := rfl
  rw [run_cons, hopen, h.first, List.nil_append]

/-- The whole text of a document is read as it. -/
theorem Reads.read (h : Reads j cs) : Json.read (cs.map .some) = .ok j := by
  have hrun : (cs.map Option.some).foldl step {} = run ⟨.value, []⟩ cs := by
    rw [List.foldl_map]
    rfl
  rw [Json.read, hrun, h]
  rfl

/-! ## Documents on one line -/

mutual
/-- There are neither numbers nor faults in the document. -/
def isPlain : Json → Bool
  | .null | .bool _ | .string _ => true
  | .int _ | .float _ | .faulty _ => false
  | .array items => arePlain items
  | .object members => membersArePlain members

def arePlain : List Json → Bool
  | [] => true
  | j :: js => j.isPlain && arePlain js

def membersArePlain : List (String × Json) → Bool
  | [] => true
  | (_, j) :: ms => j.isPlain && membersArePlain ms
end

mutual
theorem faults_of_isPlain : ∀ j : Json, j.isPlain = true → j.faults = []
  | .null, _ | .bool _, _ | .string _, _ => by simp [faults]
  | .array items, h => by
    rw [isPlain] at h
    rw [faults, itemFaults_of_arePlain items h]
  | .object members, h => by
    rw [isPlain] at h
    rw [faults, memberFaults_of_membersArePlain members h]

theorem itemFaults_of_arePlain : ∀ js : List Json, arePlain js = true → itemFaults js = []
  | [], _ => by simp [itemFaults]
  | j :: js, h => by
    rw [arePlain, Bool.and_eq_true] at h
    rw [itemFaults, faults_of_isPlain j h.1, itemFaults_of_arePlain js h.2, List.append_nil]

theorem memberFaults_of_membersArePlain : ∀ ms : List (String × Json),
    membersArePlain ms = true → memberFaults ms = []
  | [], _ => by simp [memberFaults]
  | (_, j) :: ms, h => by
    rw [membersArePlain, Bool.and_eq_true] at h
    rw [memberFaults, faults_of_isPlain j h.1, memberFaults_of_membersArePlain ms h.2,
      List.append_nil]
end

mutual
/-- What is written for a document completes it, by induction on the document. -/
theorem reads_compactText : ∀ j : Json, j.isPlain = true → Reads j (compactText j)
  | .null, _ => reads_null
  | .bool b, _ => reads_bool b
  | .string s, _ => reads_string s
  | .array [], _ => reads_array_nil
  | .array (j :: js), h => by
    rw [isPlain] at h
    exact reads_array (readsItems_compactItems (j :: js) (List.cons_ne_nil _ _) h)
  | .object [], _ => reads_object_nil
  | .object (m :: ms), h => by
    rw [isPlain] at h
    exact reads_object (readsMembers_compactMembers (m :: ms) (List.cons_ne_nil _ _) h)

theorem readsItems_compactItems : ∀ js : List Json, js ≠ [] → arePlain js = true →
    ReadsItems js (compactItems js)
  | [], hne, _ => absurd rfl hne
  | [j], _, h => by
    rw [arePlain, Bool.and_eq_true] at h
    exact (reads_compactText j h.1).last
  | j :: j' :: js, _, h => by
    rw [arePlain, Bool.and_eq_true] at h
    exact (reads_compactText j h.1).cons
      (readsItems_compactItems (j' :: js) (List.cons_ne_nil _ _) h.2)

theorem readsMembers_compactMembers : ∀ ms : List (String × Json), ms ≠ [] →
    membersArePlain ms = true → ReadsMembers ms (compactMembers ms)
  | [], hne, _ => absurd rfl hne
  | [(name, j)], _, h => by
    rw [membersArePlain, Bool.and_eq_true] at h
    exact (reads_compactText j h.1).lastMember name
  | (name, j) :: m :: ms, _, h => by
    rw [membersArePlain, Bool.and_eq_true] at h
    exact (reads_compactText j h.1).consMember
      (readsMembers_compactMembers (m :: ms) (List.cons_ne_nil _ _) h.2) name
end

/-- **A document without numbers that is written on one line is read as it was.** -/
theorem read_compact (h : j.isPlain = true) : read (j.compact.toList.map .some) = .ok j := by
  rw [compact, String.toList_ofList]
  exact (reads_compactText j h).read

end Lockstep.Json
