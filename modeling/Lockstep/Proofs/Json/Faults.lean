/-
Where the faults of a JSON document come from. Bytes that are no text bring
theirs with them: a text that is text throughout holds no string that is none
(`notText_not_mem_of_read`), and what is read without a fault was text
throughout (`isSome_of_read`).

Both follow from what one step does to the faults that the reader holds, in
the open arrays and objects and in what it is in the middle of (`Keeps`). A
string that is none may still go where the grammar is broken, but only a fault
of the grammar comes in its place.
-/
import Lockstep.Json.Reader

namespace Lockstep.Json

variable {st st' st'' : State} {j : Json} {c : Char} {f : Frame} {frames : List Frame}

/-! ## The faults that the reader holds -/

theorem itemFaults_append (js js' : List Json) :
    itemFaults (js ++ js') = itemFaults js ++ itemFaults js' := by
  induction js with
  | nil => rfl
  | cons j js ih => rw [List.cons_append, itemFaults, itemFaults, ih, List.append_assoc]

theorem memberFaults_append (ms ms' : List (String × Json)) :
    memberFaults (ms ++ ms') = memberFaults ms ++ memberFaults ms' := by
  induction ms with
  | nil => rfl
  | cons m ms ih =>
    obtain ⟨name, j⟩ := m
    rw [List.cons_append, memberFaults, memberFaults, ih, List.append_assoc]

/-- The fault of a name that is no text. -/
def nameFaults (name : Option String) : List Fault :=
  if name.isSome then [] else [.notText]

def Partial.faults (p : Partial) : List Fault :=
  if p.garbled then [.notText] else []

def Frame.faults : Frame → List Fault
  | .array items => itemFaults items
  | .names members => memberFaults members
  | .value members name => memberFaults members ++ nameFaults name

def Mode.faults : Mode → List Fault
  | .value | .firstItem | .firstName | .nextName | .behind | .number _ => []
  | .colon name => nameFaults name
  | .string _ read | .escape _ read | .unicode _ read _ _ | .surrogate _ read _
  | .surrogateEscape _ read _ | .surrogateUnicode _ read _ _ _ => read.faults
  | .word _ j | .done j | .broken j => j.faults

/-- The faults of open arrays and objects, in the order of the text. -/
def frameFaults (frames : List Frame) : List Fault :=
  frames.reverse.flatMap Frame.faults

def State.faults (st : State) : List Fault :=
  frameFaults st.frames ++ st.mode.faults

@[simp] theorem frameFaults_cons (f : Frame) (frames : List Frame) :
    frameFaults (f :: frames) = frameFaults frames ++ f.faults := by
  simp [frameFaults]

theorem faults_member (name : Option String) (j : Json) :
    (member name j).2.faults = nameFaults name ++ j.faults := by
  cases name <;> simp [member, nameFaults, faults, itemFaults]

@[simp] theorem Frame.faults_push (j : Json) (f : Frame) : (f.push j).faults = f.faults ++ j.faults := by
  cases f with
  | array items => simp [push, Frame.faults, itemFaults_append, itemFaults]
  | names members => simp [push, Frame.faults, memberFaults_append, memberFaults]
  | value members name =>
    have hmember := faults_member name j
    simp only [push, Frame.faults, memberFaults_append, memberFaults, List.append_nil, hmember,
      List.append_assoc]

/-- A frame that ends where it may has the faults of its parts. -/
theorem Frame.faults_close_push (j : Json) (f : Frame) :
    (f.push j).close.faults = f.faults ++ j.faults := by
  rw [← faults_push]
  cases f <;> simp [push, close, Frame.faults, Json.faults]

theorem faults_enclose (j : Json) (frames : List Frame) :
    (enclose j frames).faults = frameFaults frames ++ j.faults := by
  induction frames generalizing j with
  | nil => rfl
  | cons f frames ih =>
    rw [enclose, List.foldl_cons]
    rw [← enclose, ih, Frame.faults_close_push, frameFaults_cons, List.append_assoc]

/-! ## What a step does to them -/

/-- The grammar has been broken. -/
def Mode.isBroken : Mode → Bool
  | .broken _ => true
  | _ => false

/-- Nothing has been wrong with the text so far. -/
def State.IsSound (st : State) : Prop :=
  st.faults = [] ∧ st.mode.isBroken = false

/-- Where the document is complete no array or object is open. -/
def State.IsSettled (st : State) : Prop :=
  ∀ j, st.mode = .done j → st.frames = []

theorem isBroken_fail (st : State) : st.fail.mode.isBroken = true := by
  obtain ⟨mode, frames⟩ := st
  cases mode <;> rfl

/-- What is read from one state to another is text: it brings no string that is none, and makes
nothing sound that was not. -/
structure Keeps (st st' : State) : Prop where
  notText : .notText ∈ st'.faults → .notText ∈ st.faults
  sound : st'.IsSound → st.IsSound
  settled : st.IsSettled → st'.IsSettled

namespace Keeps

theorem refl (st : State) : Keeps st st :=
  ⟨id, id, id⟩

theorem trans (h : Keeps st st') (h' : Keeps st' st'') : Keeps st st'' :=
  ⟨fun hf => h.notText (h'.notText hf), fun hs => h.sound (h'.sound hs),
    fun hs => h'.settled (h.settled hs)⟩

/-- The reader goes on with what it has. -/
theorem of_faults_eq (h : st'.faults = st.faults) (hbroken : st.mode.isBroken = false)
    (hdone : ∀ j, st'.mode ≠ .done j) : Keeps st st' :=
  ⟨fun hf => h ▸ hf, fun hs => ⟨h ▸ hs.1, hbroken⟩, fun _ j hj => absurd hj (hdone j)⟩

theorem fail (st : State) : Keeps st st.fail := by
  refine ⟨fun hf => ?_, fun hs => ?_, fun _ j hj => ?_⟩
  · obtain ⟨mode, frames⟩ := st
    cases mode
    case done | broken => exact hf
    all_goals
      simp only [State.fail, State.faults, Mode.faults, Json.faults, List.mem_append,
        List.mem_singleton, reduceCtorEq, or_false] at hf
      exact List.mem_append_left _ hf
  · have hbroken := hs.2
    rw [isBroken_fail] at hbroken
    cases hbroken
  · have hbroken := isBroken_fail st
    rw [hj] at hbroken
    cases hbroken

end Keeps

theorem faults_complete (j : Json) (frames : List Frame) :
    (State.complete j frames).faults = frameFaults frames ++ j.faults := by
  cases frames with
  | nil => rfl
  | cons f frames =>
    simp only [State.complete, State.faults, frameFaults_cons, Frame.faults_push, Mode.faults,
      List.append_nil, List.append_assoc]

theorem isSettled_complete (j : Json) (frames : List Frame) :
    (State.complete j frames).IsSettled := by
  intro j' hj'
  cases frames with
  | nil => rfl
  | cons f frames => cases hj'

namespace Keeps

/-- A document is complete, all of whose faults the reader had. -/
theorem complete (hbroken : st.mode.isBroken = false)
    (h : frameFaults frames ++ j.faults = st.faults) : Keeps st (.complete j frames) :=
  ⟨fun hf => by rwa [faults_complete, h] at hf,
    fun hs => ⟨by rw [← h, ← faults_complete]; exact hs.1, hbroken⟩,
    fun _ => isSettled_complete j frames⟩

theorem endString {read : Partial} (h : st.mode.faults = read.faults)
    (hbroken : st.mode.isBroken = false) (p : Purpose) : Keeps st (st.endString p read) := by
  cases p with
  | value =>
    refine complete hbroken ?_
    rw [State.faults, h]
    cases hg : read.garbled <;> simp [Partial.text?, Partial.faults, hg, Json.faults]
  | name =>
    refine of_faults_eq ?_ hbroken fun j => nofun
    rw [State.faults, State.faults, h]
    cases hg : read.garbled <;>
      simp [State.endString, Mode.faults, nameFaults, Partial.text?, Partial.faults, hg]

end Keeps

/-- A number has no fault but that it is out of range. -/
theorem notText_not_mem_number? {cs : List Char} (h : number? cs = .some j) :
    .notText ∉ j.faults := by
  have hwhole (negative : Bool) (digits : List Char) :
      .notText ∉ (whole negative digits).faults := by
    by_cases hlong : Decimal.integerLimit < (if negative then 1 else 0) + digits.length
    · simp [whole, hlong, Json.faults]
    · simp [whole, hlong, Json.faults]
  have hfinite (x : Float) : .notText ∉ (finite x).faults := by
    unfold finite
    split <;> simp [faults]
  unfold number? at h
  split at h
  next negative unsigned _ =>
  dsimp only at h
  split at h
  · cases h
  · split at h
    · cases h
      exact hwhole negative _
    · split at h
      · cases h
      · obtain ⟨l, -, rfl⟩ := Option.map_eq_some_iff.mp h
        exact hfinite l.toFloat

namespace Keeps

theorem endNumber (h : st.mode.faults = []) (hbroken : st.mode.isBroken = false)
    (reversed : List Char) : Keeps st (st.endNumber reversed) := by
  unfold State.endNumber
  split
  · next j hj =>
    refine ⟨fun hf => ?_, fun hs => ⟨?_, hbroken⟩, fun _ => isSettled_complete j _⟩
    · rw [faults_complete, List.mem_append] at hf
      exact List.mem_append_left _ (hf.resolve_right (notText_not_mem_number? hj))
    · have hnone := hs.1
      rw [faults_complete, List.append_eq_nil_iff] at hnone
      rw [State.faults, h, List.append_nil]
      exact hnone.1
  · exact fail st

theorem beginValue (h : st.mode.faults = []) (hbroken : st.mode.isBroken = false) (c : Char) :
    Keeps st (beginValue st c) := by
  have hopen (mode : Mode) (f : Frame) (hm : mode.faults = []) (hf : f.faults = [])
      (hdone : ∀ j, mode ≠ .done j) : Keeps st { mode, frames := f :: st.frames } := by
    refine of_faults_eq ?_ hbroken hdone
    simp only [State.faults, frameFaults_cons, h, hm, hf, List.append_nil]
  have hmode (mode : Mode) (hm : mode.faults = []) (hdone : ∀ j, mode ≠ .done j) :
      Keeps st { st with mode } := by
    refine of_faults_eq ?_ hbroken hdone
    simp only [State.faults, h, hm]
  unfold Json.beginValue
  split
  · exact refl st
  · split
    · exact hmode _ rfl nofun
    · split
      · exact hopen _ _ rfl rfl nofun
      · split
        · exact hopen _ _ rfl rfl nofun
        · split
          · exact hmode _ rfl nofun
          · split
            · exact hmode _ rfl nofun
            · split
              · exact hmode _ rfl nofun
              · split
                · exact hmode _ rfl nofun
                · exact fail st

theorem afterValue (st : State) (c : Char) : Keeps st (afterValue st c) := by
  unfold Json.afterValue
  split
  · exact refl st
  · split
    · next items fs hm hfs =>
      obtain ⟨mode, frames⟩ := st
      subst hm hfs
      split
      · exact of_faults_eq rfl rfl nofun
      · split
        · exact complete rfl (by simp [State.faults, Mode.faults, Frame.faults, Json.faults])
        · exact fail _
    · next members fs hm hfs =>
      obtain ⟨mode, frames⟩ := st
      subst hm hfs
      split
      · exact of_faults_eq rfl rfl nofun
      · split
        · exact complete rfl (by simp [State.faults, Mode.faults, Frame.faults, Json.faults])
        · exact fail _
    · exact fail st

end Keeps

/-- **A character brings no string that is none, and takes no fault away.** -/
theorem keeps_stepChar (st : State) (c : Char) : Keeps st (stepChar st c) := by
  have hgo {st : State} (mode : Mode) (hm : mode.faults = st.mode.faults)
      (hbroken : st.mode.isBroken = false) (hdone : ∀ j, mode ≠ .done j) :
      Keeps st { st with mode } := by
    refine .of_faults_eq ?_ hbroken hdone
    simp only [State.faults, hm]
  obtain ⟨mode, frames⟩ := st
  cases mode with
  | value => exact .beginValue rfl rfl c
  | firstItem =>
    simp only [stepChar]
    split
    · exact (hgo .behind rfl rfl nofun).trans (.afterValue _ c)
    · exact .beginValue rfl rfl c
  | firstName =>
    simp only [stepChar]
    split
    · exact .refl _
    · split
      · exact hgo _ rfl rfl nofun
      · split
        · exact (hgo .behind rfl rfl nofun).trans (.afterValue _ c)
        · exact .fail _
  | nextName =>
    simp only [stepChar]
    split
    · exact .refl _
    · split
      · exact hgo _ rfl rfl nofun
      · exact .fail _
  | colon name =>
    simp only [stepChar, afterName]
    split
    · exact .refl _
    · split
      · split
        · refine .of_faults_eq ?_ rfl nofun
          simp only [State.faults, frameFaults_cons, Frame.faults, Mode.faults, List.append_assoc,
            List.append_nil]
        · exact .fail _
      · exact .fail _
  | behind | done j | broken j => exact .afterValue _ c
  | string p read =>
    simp only [stepChar]
    split
    · exact .endString rfl rfl p
    · split
      · exact hgo _ rfl rfl nofun
      · split
        · exact .fail _
        · exact hgo _ rfl rfl nofun
  | escape p read =>
    simp only [stepChar]
    split
    · exact hgo _ rfl rfl nofun
    · split
      · exact hgo _ rfl rfl nofun
      · exact .fail _
  | unicode p read left n =>
    simp only [stepChar, unicodeDigit]
    split
    · exact .fail _
    · split
      · exact hgo _ rfl rfl nofun
      · split
        · exact hgo _ rfl rfl nofun
        · split
          · exact .fail _
          · exact hgo _ rfl rfl nofun
  | surrogate p read high =>
    simp only [stepChar]
    split
    · exact hgo _ rfl rfl nofun
    · exact .fail _
  | surrogateEscape p read high =>
    simp only [stepChar]
    split
    · exact hgo _ rfl rfl nofun
    · exact .fail _
  | surrogateUnicode p read high left n =>
    simp only [stepChar, surrogateDigit]
    split
    · exact .fail _
    · split
      · exact hgo _ rfl rfl nofun
      · split
        · exact hgo _ rfl rfl nofun
        · exact .fail _
  | number reversed =>
    simp only [stepChar]
    split
    · exact hgo _ rfl rfl nofun
    · exact (Keeps.endNumber rfl rfl reversed).trans (.afterValue _ c)
  | word rest j =>
    simp only [stepChar]
    split
    · exact .fail _
    · split
      · exact .fail _
      · split
        · exact .complete rfl rfl
        · exact hgo _ rfl rfl nofun

/-- A byte that is no part of a character is a fault wherever it stands. -/
theorem not_isSound_step_none (st : State) : ¬ (step st .none).IsSound := by
  obtain ⟨mode, frames⟩ := st
  rintro ⟨hnone, hbroken⟩
  cases mode
  case string p read =>
    simp [step, State.faults, Mode.faults, Partial.faults] at hnone
  all_goals
    simp only [step, isBroken_fail] at hbroken
    cases hbroken

/-! ## Whole texts -/

theorem keeps_atEnd (st : State) : Keeps st st.atEnd := by
  obtain ⟨mode, frames⟩ := st
  cases mode
  case number reversed => exact .endNumber rfl rfl reversed
  all_goals exact .refl _

/-- What is there of a document has the faults that the reader holds, or else one of the grammar. -/
theorem notText_mem_of_document {st : State} (h : st.document = .ok j ∨ st.document = .error j)
    (hj : .notText ∈ j.faults) (hst : st.IsSettled) : .notText ∈ st.faults := by
  obtain ⟨mode, frames⟩ := st
  cases mode with
  | done j' =>
    obtain rfl : frames = [] := hst j' rfl
    simp only [State.document, Except.ok.injEq, reduceCtorEq, or_false] at h
    rw [h]
    exact hj
  | broken part =>
    simp only [State.document, Except.error.injEq, reduceCtorEq, false_or] at h
    rw [← h, faults_enclose] at hj
    exact hj
  | _ =>
    simp only [State.document, Except.error.injEq, reduceCtorEq, false_or] at h
    rw [← h, faults_enclose, List.mem_append] at hj
    exact List.mem_append_left _ (hj.resolve_right (by simp [faults]))

theorem isSound_of_document {st : State} (h : st.document = .ok j) (hj : j.faults = [])
    (hst : st.IsSettled) : st.IsSound := by
  obtain ⟨mode, frames⟩ := st
  cases mode with
  | done j' =>
    obtain rfl : frames = [] := hst j' rfl
    cases h
    exact ⟨hj, rfl⟩
  | _ => cases h

theorem isSettled_step (h : st.IsSettled) (c : Option Char) : (step st c).IsSettled := by
  cases c with
  | some c => exact (keeps_stepChar st c).settled h
  | none =>
    obtain ⟨mode, frames⟩ := st
    cases mode
    case string p read => exact fun j hj => nomatch hj
    case number reversed =>
      exact ((Keeps.endNumber rfl rfl reversed).trans (.fail _)).settled h
    all_goals exact (Keeps.fail _).settled h

theorem isSettled_foldl (text : List (Option Char)) {st : State} (h : st.IsSettled) :
    (text.foldl step st).IsSettled := by
  induction text generalizing st with
  | nil => exact h
  | cons c text ih => exact ih (isSettled_step h c)

/-- **A text that is text throughout holds no string that is none.** -/
theorem notText_not_mem_of_read {cs : List Char}
    (h : read (cs.map .some) = .ok j ∨ read (cs.map .some) = .error j) : .notText ∉ j.faults := by
  have hrun : ∀ (cs : List Char) (st : State), Keeps st ((cs.map Option.some).foldl step st) := by
    intro cs
    induction cs with
    | nil => exact .refl
    | cons c cs ih => exact fun st => (keeps_stepChar st c).trans (ih (stepChar st c))
  have hwhole := (hrun cs {}).trans (keeps_atEnd _)
  intro hj
  have hfirst := hwhole.notText (notText_mem_of_document h hj (hwhole.settled nofun))
  cases hfirst

/-- **What is read without a fault was text throughout.** -/
theorem isSome_of_read {text : List (Option Char)} (h : read text = .ok j) (hj : j.faults = []) :
    ∀ c ∈ text, c.isSome = true := by
  have hrun : ∀ (text : List (Option Char)) (st : State), (text.foldl step st).IsSound →
      st.IsSound ∧ ∀ c ∈ text, c.isSome = true := by
    intro text
    induction text with
    | nil => exact fun st hst => ⟨hst, nofun⟩
    | cons c text ih =>
      intro st hst
      obtain ⟨hnext, htext⟩ := ih (step st c) hst
      cases c with
      | none => exact absurd hnext (not_isSound_step_none st)
      | some c =>
        exact ⟨(keeps_stepChar st c).sound hnext, List.forall_mem_cons.mpr ⟨rfl, htext⟩⟩
  have hbegin : State.IsSettled {} := nofun
  have hsettled := (keeps_atEnd _).settled (isSettled_foldl text hbegin)
  have hsound := isSound_of_document h hj hsettled
  exact (hrun text {} ((keeps_atEnd _).sound hsound)).2

end Lockstep.Json
