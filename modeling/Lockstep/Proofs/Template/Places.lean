/-
Errors lie where they say (`read_error_located`): the line and the column that
a complaint tells are the place of its position, which lies in the source or
at its end. What is unfinished lies where it was begun (`Malformation.BegunAt`):
a group at the dollar sign of the innermost one that is open at the end of the
source, a separator at its opening parenthesis, and an escape at its backslash.

What has been read is parted as the state is (`Tracks`): for each body set
aside the text up to the group in it that is open, for the body at hand what
has been read of it, and the part that the reader is in the middle of. What has
been read of a body can stand in front of every text that the grammar lets
follow (`Grammar.Precedes`). A step keeps this (`Tracks.step`), and so does a
whole run.
-/
import Lockstep.Proofs.Template.Viable
import Lockstep.Proofs.Template.Excerpt

namespace Lockstep

namespace Grammar

open Reader (Sigil isIdentifier isNamePart)

variable {named named' : Bool} {start place place' : Place} {c : Char}
  {cs body mark written : List Char} {ns children : List Node}

/-! ## Texts inside groups -/

/-- The text ends inside groups whose dollar signs stand at the places, the innermost first. It ends
between two parts of the innermost one, in whose literal text parentheses may still be open. -/
inductive Inside : List Nat → List Char → Prop
  | top {ns : List Node} {cs : List Char} (h : Spells .top ns cs) : Inside [] cs
  | group {places : List Nat} {before body : List Char} {ns : List Node} {parens : Nat}
      (h : Inside places before)
      (hbody : Spells (.body 0) ns (body ++ List.replicate parens ')')) :
      Inside (before.length :: places) (before ++ '$' :: '(' :: body)

theorem Inside.lt_length {p : Nat} {places : List Nat} (h : Inside (p :: places) cs) :
    p < cs.length := by
  cases h with
  | group h hbody =>
    rw [List.length_append, List.length_cons]
    omega

/-- Parentheses that are open in literal text can be closed. -/
theorem spells_parens (place : Place) :
    ∃ ns, Spells place ns (List.replicate place.parens ')') := by
  cases place with
  | top => exact ⟨[], .nil rfl⟩
  | body q =>
    induction q with
    | zero => exact ⟨[], .nil rfl⟩
    | succ q ih =>
      obtain ⟨ns, hns⟩ := ih
      exact ⟨_, .char (by decide) rfl hns⟩

/-! ## Texts in front of others -/

/-- In front of every text that spells nodes at the place, the text spells nodes from the start on.
If it ends in a name without braces, it does in front of those that do not go on with the name. -/
def Precedes (named : Bool) (start : Place) (cs : List Char) (place : Place) : Prop :=
  ∀ ns k, Spells place ns k →
    (named = true → ∀ c, k.head? = .some c → isNamePart c = false) →
    ∃ ms, Spells start ms (cs ++ k)

namespace Precedes

theorem nil (named : Bool) (place : Place) : Precedes named place [] place :=
  fun ns _ hk _ => ⟨ns, hk⟩

theorem char (hc : isSpecial c = false) (hplace : place.after? c = .some place') :
    Precedes false place [c] place' :=
  fun _ _ hk _ => ⟨_, .char hc hplace hk⟩

theorem escaped (place : Place) (c : Char) : Precedes false place ['\\', c] place :=
  fun _ _ hk _ => ⟨_, .escaped hk⟩

theorem reference {r : Reference} (s : Sigil) (place : Place)
    (hr : ∀ k : List Char, (named = true → ∀ c, k.head? = .some c → isNamePart c = false) →
      Refers r written k) :
    Precedes named place (sigilChar s :: written) place :=
  fun _ k hk hfits => ⟨_, .reference s (hr k hfits) hk⟩

theorem bare {name : String} (s : Sigil) (place : Place) (hname : isIdentifier name = true) :
    Precedes true place (sigilChar s :: name.toList) place :=
  .reference s place fun _ hfits => .bare hname (hfits rfl)

theorem group {sep : Option String} (hchildren : Spells (.body 0) children body)
    (hsep : Separates sep mark) (place : Place) :
    Precedes false place ('$' :: '(' :: (body ++ ')' :: mark)) place := by
  intro ns k hk _
  refine ⟨.group children sep :: ns, ?_⟩
  have hspells := Spells.group hchildren hsep hk
  simpa using hspells

/-- What can stand in front of a text whatever it begins with can do so if it does not begin with a
part of a name. -/
theorem weaken (h : Precedes named start cs place) : Precedes true start cs place :=
  fun ns k hk hfits => h ns k hk fun _ => hfits rfl

/-- Behind a name without braces comes what does not go on with it. -/
theorem append (h : Precedes named start cs place)
    (hmore : Precedes named' place (c :: written) place')
    (hc : named = true → isNamePart c = false) :
    Precedes named' start (cs ++ c :: written) place' := by
  intro ns k hk hfits
  obtain ⟨ms, hms⟩ := hmore ns k hk hfits
  rw [List.append_assoc]
  refine h ms _ hms fun hnamed d hd => ?_
  cases hd
  exact hc hnamed

/-- Where no parenthesis is open, the text itself spells nodes. -/
theorem spells (h : Precedes named start cs place) (hplace : place.parens = 0) :
    ∃ ms, Spells start ms cs := by
  obtain ⟨ms, hms⟩ := h [] [] (.nil hplace) (by simp)
  rw [List.append_nil] at hms
  exact ⟨ms, hms⟩

end Precedes

end Grammar

/-- Where what is unfinished was begun: a group at the dollar sign of the innermost one that the
text ends in, a separator at the parenthesis right behind a group, an escape at the last
character. -/
def Malformation.BegunAt (p : Nat) (cs : List Char) : Malformation → Prop
  | .groupUnterminated => ∃ places, Grammar.Inside (p :: places) cs
  | .separatorUnterminated => ∃ places before ns body text,
      cs = before ++ '$' :: '(' :: (body ++ ')' :: '(' :: text) ∧ Grammar.Inside places before ∧
      Grammar.Spells (.body 0) ns body ∧ ')' ∉ text ∧ p = before.length + body.length + 3
  | .danglingEscape => ∃ places before,
      cs = before ++ ['\\'] ∧ Grammar.Inside places before ∧ p = before.length
  | _ => True

theorem Malformation.BegunAt.lt_length {what : Malformation} {p : Nat} {cs : List Char}
    (h : what.BegunAt p cs) (hwhat : what.isUnfinished = true) : p < cs.length := by
  cases what with
  | groupUnterminated =>
    obtain ⟨places, h⟩ := h
    exact h.lt_length
  | separatorUnterminated =>
    obtain ⟨places, before, ns, body, text, rfl, -, -, -, rfl⟩ := h
    simp only [List.length_append, List.length_cons]
    omega
  | danglingEscape =>
    obtain ⟨places, before, rfl, -, rfl⟩ := h
    simp
  | identifierExpected | bindingUnfinished | bindingUnclosed | separatorExpected
    | repeatExpected => cases hwhat

namespace Reader

open Grammar

variable {limit p q : Nat} {what : Malformation} {st st' : State} {b b' : Body}
  {es : List Enclosing} {mode : Mode} {named named' : Bool} {place place' : Place} {c : Char}
  {cs ds before body mark written : List Char} {children ns : List Node} {name label text : String}
  {s : Sigil}

theorem isNamePart_sigilChar (s : Sigil) : isNamePart (sigilChar s) = false := by
  cases s <;> decide

/-! ## Between two parts -/

/-- The text has been read up to the end of a part: outside all groups, or behind the parenthesis
that opens the innermost one, in front of which the body around it was set aside. Only the last part
may be a name without braces that could go on. -/
inductive Between : Bool → Body → List Enclosing → Place → List Char → Prop
  | top {named : Bool} {b : Body} {place : Place} {cs : List Char} (hs : Stands place b [])
      (hbody : Precedes named .top cs place) : Between named b [] place cs
  | group {named : Bool} {b : Body} {e : Enclosing} {es : List Enclosing} {place place' : Place}
      {before body : List Char} (h : Between true e.body es place' before)
      (hopened : e.opened = before.length) (hs : Stands place b (e :: es))
      (hbody : Precedes named (.body 0) body place) :
      Between named b (e :: es) place (before ++ '$' :: '(' :: body)

namespace Between

theorem stands (h : Between named b es place cs) : Stands place b es := by
  cases h with
  | top hs | group _ _ hs => exact hs

theorem weaken (h : Between named b es place cs) : Between true b es place cs := by
  cases h with
  | top hs hbody => exact .top hs hbody.weaken
  | group h hopened hs hbody => exact .group h hopened hs hbody.weaken

/-- A part more belongs to the innermost body. -/
theorem append (h : Between named b es place cs) (hs : Stands place' b' es)
    (hpart : Precedes named' place (c :: written) place')
    (hc : named = true → isNamePart c = false) :
    Between named' b' es place' (cs ++ c :: written) := by
  cases h with
  | top _ hbody => exact .top hs (hbody.append hpart hc)
  | group h hopened _ hbody =>
    rw [List.append_assoc]
    exact .group h hopened hs (hbody.append hpart hc)

/-- A group is begun by setting the body aside. -/
theorem opening (h : Between true b es place cs) (hp : p = cs.length) :
    Between false {} (⟨b, p⟩ :: es) (.body 0) (cs ++ ['$', '(']) :=
  .group h hp (Stands.inside {} ⟨b, p⟩ es rfl) (.nil false (.body 0))

/-- A text that ends between two parts ends inside the groups that are open. -/
theorem inside (h : Between named b es place cs) : Inside (es.map (·.opened)) cs := by
  induction h with
  | top hs hbody =>
    obtain rfl := hs.top.mpr rfl
    obtain ⟨ns, hns⟩ := hbody.spells rfl
    exact .top hns
  | @group named b e es place place' before body h hopened hs hbody ih =>
    obtain ⟨ns, hns⟩ := spells_parens place
    have hfits : ∀ c, (List.replicate place.parens ')').head? = .some c → isNamePart c = false := by
      intro c hc
      obtain ⟨-, rfl⟩ := List.mem_replicate.mp (List.mem_of_mem_head? hc)
      decide
    obtain ⟨ms, hms⟩ := hbody ns _ hns fun _ => hfits
    rw [List.map_cons, hopened]
    exact .group ih hms

end Between

/-! ## In the middle of a part -/

/-- What has been read, from the start on, of the part that the reader is in the middle of. -/
inductive Part (start : Nat) : Mode → List Char → Prop
  | escape : Part start .escape ['\\']
  | sigil (s : Sigil) : Part start (.sigil s) [sigilChar s]
  | bare (s : Sigil) {name : String} (hname : isIdentifier name = true) :
      Part start (.bare s name) (sigilChar s :: name.toList)
  | braced (s : Sigil) {name : String} (hname : name = "" ∨ isIdentifier name = true) :
      Part start (.braced s name) (sigilChar s :: '{' :: name.toList)
  | labelled (s : Sigil) {name label : String} (hname : isIdentifier name = true)
      (hlabel : label = "" ∨ isIdentifier label = true) :
      Part start (.labelled s name label)
        (sigilChar s :: '{' :: (name.toList ++ ':' :: label.toList))
  | closed {ns children : List Node} {body : List Char} (hbody : Spells (.body 0) ns body) :
      Part start (.closed children) ('$' :: '(' :: (body ++ [')']))
  | separator {ns children : List Node} {body : List Char} {opened : Nat} {text : String}
      (hbody : Spells (.body 0) ns body) (hopened : opened = start + body.length + 3)
      (hclose : ')' ∉ text.toList) :
      Part start (.separator children opened text)
        ('$' :: '(' :: (body ++ ')' :: '(' :: text.toList))
  | separated {ns children : List Node} {body mark : List Char} {text : String}
      (hbody : Spells (.body 0) ns body) (hmark : Separates (.some text) (mark ++ ['*'])) :
      Part start (.separated children text) ('$' :: '(' :: (body ++ ')' :: mark))

/-- **The text has been read** when the reader is in the middle of something: up to the part that it
is in the middle of, and so much of that. -/
inductive Tracks (b : Body) (es : List Enclosing) : Mode → List Char → Prop
  | text {place : Place} {cs : List Char} (h : Between false b es place cs) : Tracks b es .text cs
  | part {place : Place} {before part : List Char} {mode : Mode}
      (h : Between true b es place before) (hpart : Part before.length mode part) :
      Tracks b es mode (before ++ part)

namespace Tracks

/-! ## Steps -/

/-- A part that is complete belongs to the body. -/
theorem complete (h : Between true b es place before) (hs : Stands place b' es)
    (hc : isNamePart c = false) (hpart : Precedes false place (c :: written) place) :
    Tracks b' es .text (before ++ c :: written) :=
  .text (h.append hs hpart fun _ => hc)

/-- A character between parts, or behind a name without braces that it ends. -/
theorem step_text (h : Between named b es place before) (hc : named = true → isNamePart c = false)
    (hstep : stepMode limit ⟨b, es, .text, p⟩ c = .ok st') :
    Tracks st'.body st'.outer st'.mode (before ++ [c]) := by
  cases hspecial : isSpecial c with
  | true =>
    rcases isSpecial_eq_true hspecial with rfl | ⟨s, rfl⟩
    · rw [step_escape] at hstep
      cases hstep
      exact .part h.weaken .escape
    · rw [step_dollar] at hstep
      cases hstep
      exact .part h.weaken (.sigil s)
  | false =>
    cases hplace : place.after? c with
    | some place' =>
      rw [step_char h.stands hspecial hplace] at hstep
      cases hstep
      exact .text (h.append (h.stands.after hplace) (.char hspecial hplace) hc)
    | none =>
      -- The parenthesis closes the innermost body, and its group is a part of the one around it.
      obtain ⟨rfl, rfl⟩ := Place.after?_eq_none hplace
      cases h with
      | top hs => cases hs.top.mpr rfl
      | @group _ _ e es _ place' before body h hopened hs hbody =>
        rw [step_close b e es p hs.parens] at hstep
        cases hstep
        obtain ⟨ns, hns⟩ := hbody.spells rfl
        rw [List.append_assoc]
        exact .part h (.closed hns)

/-- Behind the first character of a reference: a brace, the parenthesis of a group or a name. -/
theorem step_sigil (h : Between true b es place before) (hp : p = (before ++ [sigilChar s]).length)
    (hstep : stepMode limit ⟨b, es, .sigil s, p⟩ c = .ok st') :
    Tracks st'.body st'.outer st'.mode (before ++ [sigilChar s, c]) := by
  simp only [stepMode] at hstep
  split at hstep
  · next hbrace =>
    cases hstep
    subst hbrace
    exact .part h (.braced s (.inl rfl))
  · split at hstep
    · next hopen =>
      obtain ⟨rfl, rfl⟩ := hopen
      split at hstep
      · cases hstep
      · cases hstep
        -- The dollar sign is the last character that has been read.
        refine .text (h.opening ?_)
        rw [hp, List.length_append]
        rfl
    · split at hstep
      · next hstart =>
        cases hstep
        have hname : isIdentifier (String.singleton c) = true := by
          simp [isIdentifier, hstart]
        have hbare : Part before.length (.bare s (String.singleton c)) [sigilChar s, c] :=
          (String.toList_singleton c) ▸ .bare s hname
        exact .part h hbare
      · cases hstep

theorem step_bare (h : Between true b es place before) (hname : isIdentifier name = true)
    (hstep : stepMode limit ⟨b, es, .bare s name, p⟩ c = .ok st') :
    Tracks st'.body st'.outer st'.mode (before ++ sigilChar s :: (name.toList ++ [c])) := by
  cases hc : isNamePart c with
  | true =>
    simp only [stepMode, hc, if_true] at hstep
    cases hstep
    have hpush : isIdentifier (name.push c) = true := by
      rw [isIdentifier_push (.inr hname), continues_of_isIdentifier hname, hc]
    rw [← String.toList_push]
    exact .part h (.bare s hpush)
  | false =>
    -- The name ends in front of the character, which is then read as one between parts.
    have hchar : stepMode limit ⟨b.add (s.node ⟨name, .none⟩), es, .text, p⟩ c = .ok st' := by
      rw [← hstep]
      simp only [stepMode, hc]
      rfl
    have hall := h.append (h.stands.add (s.node ⟨name, .none⟩)) (.bare s place hname)
      fun _ => isNamePart_sigilChar s
    simpa using step_text hall (fun _ => hc) hchar

theorem step_braced (h : Between true b es place before)
    (hname : name = "" ∨ isIdentifier name = true)
    (hstep : stepMode limit ⟨b, es, .braced s name, p⟩ c = .ok st') :
    Tracks st'.body st'.outer st'.mode (before ++ sigilChar s :: '{' :: (name.toList ++ [c])) := by
  simp only [stepMode] at hstep
  split at hstep
  · next hcontinues =>
    cases hstep
    rw [← isIdentifier_push hname] at hcontinues
    rw [← String.toList_push]
    exact .part h (.braced s (.inr hcontinues))
  · split at hstep
    · cases hstep
    · next hempty =>
      have hname : isIdentifier name = true := hname.resolve_left (by simpa using hempty)
      split at hstep
      · next hclose =>
        cases hstep
        subst hclose
        exact complete h (h.stands.add _) (isNamePart_sigilChar s)
          (.reference s place fun _ _ => .braced hname)
      · split at hstep
        · next hcolon =>
          cases hstep
          subst hcolon
          exact .part h (.labelled s hname (.inl rfl))
        · cases hstep

theorem step_labelled (h : Between true b es place before) (hname : isIdentifier name = true)
    (hlabel : label = "" ∨ isIdentifier label = true)
    (hstep : stepMode limit ⟨b, es, .labelled s name label, p⟩ c = .ok st') :
    Tracks st'.body st'.outer st'.mode
      (before ++ sigilChar s :: '{' :: (name.toList ++ ':' :: (label.toList ++ [c]))) := by
  simp only [stepMode] at hstep
  split at hstep
  · next hcontinues =>
    cases hstep
    rw [← isIdentifier_push hlabel] at hcontinues
    rw [← String.toList_push]
    exact .part h (.labelled s hname (.inr hcontinues))
  · split at hstep
    · cases hstep
    · next hempty =>
      have hlabel : isIdentifier label = true := hlabel.resolve_left (by simpa using hempty)
      split at hstep
      · next hclose =>
        cases hstep
        subst hclose
        exact complete h (h.stands.add _) (isNamePart_sigilChar s)
          (.reference s place fun _ _ => .labelled hname hlabel)
      · cases hstep

/-- Behind a group: a star, the parenthesis of a separator, or a separator of one character. -/
theorem step_closed (h : Between true b es place before) (hbody : Spells (.body 0) ns body)
    (hp : p = (before ++ '$' :: '(' :: (body ++ [')'])).length)
    (hstep : stepMode limit ⟨b, es, .closed children, p⟩ c = .ok st') :
    Tracks st'.body st'.outer st'.mode (before ++ '$' :: '(' :: (body ++ [')', c])) := by
  simp only [stepMode] at hstep
  split at hstep
  · next hstar =>
    cases hstep
    subst hstar
    exact complete h (h.stands.add _) (by decide) (.group hbody .without place)
  · next hstar =>
    split at hstep
    · next hopen =>
      cases hstep
      subst hopen
      refine .part h (.separator hbody ?_ List.not_mem_nil)
      simp only [hp, List.length_append, List.length_cons, List.length_nil]
      omega
    · next hopen =>
      cases hstep
      exact .part h (.separated hbody (.char hstar hopen))

theorem step_separator (h : Between true b es place before) (hbody : Spells (.body 0) ns body)
    (hq : q = before.length + body.length + 3) (hclose : ')' ∉ text.toList)
    (hstep : stepMode limit ⟨b, es, .separator children q text, p⟩ c = .ok st') :
    Tracks st'.body st'.outer st'.mode
      (before ++ '$' :: '(' :: (body ++ ')' :: '(' :: (text.toList ++ [c]))) := by
  by_cases hc : c = ')'
  · subst hc
    rw [step_separator_close] at hstep
    cases hstep
    refine .part h (.separated hbody ?_)
    simpa using Separates.text hclose
  · rw [step_separator_char _ _ _ _ _ _ hc] at hstep
    cases hstep
    rw [← String.toList_push]
    refine .part h (.separator hbody hq ?_)
    rw [String.toList_push, List.mem_append, List.mem_singleton, not_or]
    exact ⟨hclose, fun heq => hc heq.symm⟩

theorem step_separated (h : Between true b es place before) (hbody : Spells (.body 0) ns body)
    (hmark : Separates (.some text) (mark ++ ['*']))
    (hstep : stepMode limit ⟨b, es, .separated children text, p⟩ c = .ok st') :
    Tracks st'.body st'.outer st'.mode
      (before ++ '$' :: '(' :: (body ++ ')' :: (mark ++ [c]))) := by
  simp only [stepMode] at hstep
  split at hstep
  · next hstar =>
    cases hstep
    subst hstar
    exact complete h (h.stands.add _) (by decide) (.group hbody hmark place)
  · cases hstep

/-- **A step keeps the text of a state**, by cases on what the reader is in the middle of. -/
theorem step (h : Tracks b es mode cs) (hp : p = cs.length)
    (hstep : stepMode limit ⟨b, es, mode, p⟩ c = .ok st') :
    Tracks st'.body st'.outer st'.mode (cs ++ [c]) := by
  cases h with
  | text h => exact step_text h (by simp) hstep
  | @part place before part mode h hpart =>
    rw [List.append_assoc]
    cases hpart with
    | escape =>
      rw [step_escaped] at hstep
      cases hstep
      exact complete h (h.stands.push c) (by decide) (.escaped place c)
    | sigil s => exact step_sigil h hp hstep
    | bare s hname => exact step_bare h hname hstep
    | braced s hname => exact step_braced h hname hstep
    | labelled s hname hlabel => simpa using step_labelled h hname hlabel hstep
    | closed hbody => simpa using step_closed h hbody hp hstep
    | separator hbody hq hclose => simpa using step_separator h hbody hq hclose hstep
    | separated hbody hmark => simpa using step_separated h hbody hmark hstep

/-- The text of a state knows nothing of the position, which goes on by one. -/
theorem read (h : Tracks st.body st.outer st.mode cs) (hp : st.position = cs.length)
    (hread : Reader.step limit st c = .ok st') :
    Tracks st'.body st'.outer st'.mode (cs ++ [c]) := by
  cases hmode : stepMode limit st c with
  | error e =>
    rw [Reader.step, hmode] at hread
    cases hread
  | ok next =>
    have hnext := h.step hp hmode
    rw [Reader.step, hmode] at hread
    cases hread
    exact hnext

/-- **A run keeps the text of a state.** -/
theorem of_readFrom (hread : readFrom limit {} cs = .ok st) :
    Tracks st.body st.outer st.mode cs := by
  have hstart : Tracks ({} : State).body ({} : State).outer ({} : State).mode [] :=
    .text (.top ⟨by simp, rfl⟩ (.nil false .top))
  have hP : ∀ (st st' : State) cs c,
      Tracks st.body st.outer st.mode cs ∧ st.position = cs.length →
      Reader.step limit st c = .ok st' →
      Tracks st'.body st'.outer st'.mode (cs ++ [c]) ∧ st'.position = (cs ++ [c]).length := by
    rintro st st' cs c ⟨h, hp⟩ hstep
    refine ⟨h.read hp hstep, ?_⟩
    rw [step_position hstep, hp, List.length_append, List.length_singleton]
  exact (readFrom_keeps hP ⟨hstart, rfl⟩ hread).1

end Tracks

/-! ## The end of the source -/

/-- The group that is told to be unfinished is the innermost one. -/
theorem Between.begunAt (h : Between named b es place cs)
    (herr : State.close ⟨b', es, mode, q⟩ = .error (.malformed what p)) : what.BegunAt p cs := by
  have hinside := h.inside
  cases es with
  | nil => cases herr
  | cons e es =>
    cases herr
    exact ⟨_, hinside⟩

/-- **What is unfinished at the end of a text lies where it was begun.** -/
theorem Tracks.begunAt (h : Tracks b es mode cs) (hq : q = cs.length)
    (herr : finish ⟨b, es, mode, q⟩ = .error (.malformed what p)) : what.BegunAt p cs := by
  cases h with
  | text h => exact h.begunAt herr
  | @part place before part mode h hpart =>
    cases hpart with
    | escape =>
      cases herr
      refine ⟨_, _, rfl, h.inside, ?_⟩
      rw [hq, List.length_append]
      rfl
    | @bare s name hname =>
      -- The name ends with the text, which then ends between two parts too.
      have hall := h.append (h.stands.add (s.node ⟨name, .none⟩)) (.bare s place hname)
        fun _ => isNamePart_sigilChar s
      exact hall.begunAt herr
    | separator hbody hopened hclose =>
      cases herr
      exact ⟨_, _, _, _, _, rfl, h.inside, hbody, hclose, hopened⟩
    | braced | labelled =>
      simp only [finish] at herr
      split at herr <;> cases herr <;> trivial
    | sigil | closed | separated =>
      cases herr
      trivial

/-- An error lies where what is unfinished was begun, and otherwise in the source or at its end. -/
theorem begunAt_of_readTemplate {source : String}
    (h : readTemplate limit source = .error (.malformed what p)) :
    what.BegunAt p source.toList ∧ p ≤ source.length := by
  rcases readTemplate_eq_error h with
    ⟨before, c, after, mid, hcs, -, -, hcase⟩ | ⟨mid, what', p', hmid, he, hcase⟩
  · rcases hcase with hdeep | ⟨what', he, hnot⟩
    · cases hdeep
    · cases he
      refine ⟨?_, ?_⟩
      · cases what with
        | groupUnterminated | separatorUnterminated | danglingEscape => cases hnot
        | identifierExpected | bindingUnfinished | bindingUnclosed | separatorExpected
          | repeatExpected => trivial
      · rw [← String.length_toList, hcs, List.length_append]
        exact Nat.le_add_right _ _
  · cases he
    have hfinish : finish mid = .error (.malformed what p) := by
      rw [readTemplate, readChars, hmid] at h
      exact h
    have hbegun : what.BegunAt p source.toList := by
      refine (Tracks.of_readFrom hmid).begunAt ?_ hfinish
      rw [readFrom_position hmid]
      exact Nat.zero_add _
    refine ⟨hbegun, ?_⟩
    rcases hcase with hunfinished | hlast
    · have hlt := hbegun.lt_length hunfinished
      rw [String.length_toList] at hlt
      exact Nat.le_of_lt hlt
    · exact Nat.le_of_eq hlast

end Reader

open Excerpt (Located)

/-- **Errors lie where they say.** Where a source is malformed, it is not empty, and the position
lies in it or at its end. The complaint tells the line and the column that the position has among
the lines of the source, and shows that line with a caret under the column. What is unfinished lies
where it was begun. -/
theorem read_error_located (limit : Nat) (source : String) (what : Malformation) (p : Nat)
    (h : readTemplate limit source = .error (.malformed what p)) :
    source ≠ "" ∧ p ≤ source.length ∧
    (∃ line column text, Located source.toList p line column text ∧
      (ReadError.malformed what p).message source =
        s!"{what.reason} (line {line}, column {column})\n  " ++ String.ofList text ++ "\n  " ++
          String.ofList (List.replicate (column - 1) ' ') ++ "^") ∧
    what.BegunAt p source.toList := by
  obtain ⟨hbegun, hp⟩ := Reader.begunAt_of_readTemplate h
  have hsource : source ≠ "" := by
    rintro rfl
    cases h
  exact ⟨hsource, hp, Excerpt.report_located hsource hp what.reason, hbegun⟩

/-- A group in the second of two lines that is not closed, inside another one; a separator that is
not; a backslash at the end. -/
theorem read_error_located_unfinished :
    ("x\n$(a $(($b)" ≠ "" ∧ 6 ≤ "x\n$(a $(($b)".length ∧
      (∃ line column text, Located "x\n$(a $(($b)".toList 6 line column text ∧
        (ReadError.malformed .groupUnterminated 6).message "x\n$(a $(($b)" =
          s!"Unterminated group (line {line}, column {column})\n  " ++ String.ofList text ++
            "\n  " ++ String.ofList (List.replicate (column - 1) ' ') ++ "^") ∧
      ∃ places, Grammar.Inside (6 :: places) "x\n$(a $(($b)".toList) ∧
    Malformation.separatorUnterminated.BegunAt 4 "$(a)(b".toList ∧
    Malformation.danglingEscape.BegunAt 2 "$a\\".toList := by
  refine ⟨?_, ?_, ?_⟩
  · exact read_error_located 2 "x\n$(a $(($b)" .groupUnterminated 6 rfl
  · exact (read_error_located 1 "$(a)(b" .separatorUnterminated 4 rfl).2.2.2
  · exact (read_error_located 1 "$a\\" .danglingEscape 2 rfl).2.2.2

end Lockstep
