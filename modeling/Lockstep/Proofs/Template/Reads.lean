/-
The reader accepts the grammar of templates, and returns the nodes that a text
spells (`reads_grammar`).

A text that spells nodes adds them to the body the reader is in, whatever
stands in the body already and around it (`run_spells`), by induction on the
grammar. The other way round, where reading comes to an end, what stands
between here and the end of the body spells nodes (`read_of_run`), by
induction on the length of the text. A lower limit on nesting changes nothing
but that it may be exceeded (`run_limit`).
-/
import Lockstep.Proofs.Template.Reading

namespace Lockstep

namespace Reader

open Grammar

variable {limit limit' p : Nat} {st : State} {b : Body} {e : Enclosing} {es : List Enclosing}
  {c : Char} {cs body k : List Char} {ns children : List Node} {place place' : Place}
  {text : String}

/-! ## Nodes behind a body -/

/-- The body with one node more, literal text going to the text that is gathering. -/
def Body.append (b : Body) : Node → Body
  | .literal text => { b with text := b.text ++ text }
  | n => b.add n

/-- The body with nodes behind those it has. -/
def Body.extend (b : Body) (ns : List Node) : Body :=
  ns.foldl Body.append b

theorem extend_consLiteral (b : Body) (c : Char) (ns : List Node) :
    b.extend (consLiteral c ns) = (b.push c).extend ns := by
  rcases consLiteral_cases c ns with ⟨text, ms, rfl, hc⟩ | ⟨-, hc⟩
  · have hboth : b.append (.literal (String.singleton c ++ text)) =
        (b.push c).append (.literal text) := by
      simp only [Body.append, Body.push]
      congr 1
      rw [← String.toList_inj]
      simp
    rw [hc]
    exact congrArg (fun b : Body => b.extend ms) hboth
  · have hone : b.append (.literal (String.singleton c)) = b.push c := by
      simp only [Body.append, Body.push]
      congr 1
    rw [hc]
    exact congrArg (fun b : Body => b.extend ns) hone

theorem extend_node (b : Body) (s : Sigil) (r : Reference) (ns : List Node) :
    b.extend (s.node r :: ns) = (b.add (s.node r)).extend ns := by
  cases s <;> rfl

theorem extend_group (b : Body) (children : List Node) (sep : Option String) (ns : List Node) :
    b.extend (.group children sep :: ns) = (b.add (.group children sep)).extend ns := rfl

theorem flush_parens (b : Body) (q : Nat) :
    ({ b with parens := q } : Body).flush = { b.flush with parens := q } := by
  unfold Body.flush
  split <;> rfl

theorem append_parens (b : Body) (q : Nat) (n : Node) :
    ({ b with parens := q } : Body).append n = { b.append n with parens := q } := by
  cases n <;> simp [Body.append, Body.add, flush_parens]

/-- The open parentheses of a body have nothing to do with its nodes. -/
theorem extend_parens (b : Body) (q : Nat) (ns : List Node) :
    ({ b with parens := q } : Body).extend ns = { b.extend ns with parens := q } := by
  induction ns generalizing b with
  | nil => rfl
  | cons n ns ih =>
    have h := ih (b.append n)
    rw [← append_parens] at h
    exact h

theorem toNodes_parens (b : Body) (q : Nat) :
    ({ b with parens := q } : Body).toNodes = b.toNodes := by
  rw [Body.toNodes, flush_parens]
  rfl

/-- Text in front of nodes, in their first literal if they begin with one. -/
def joined (text : String) (ns : List Node) : List Node :=
  if text.isEmpty then ns
  else match ns with
    | .literal text' :: ns => .literal (text ++ text') :: ns
    | ns => .literal text :: ns

theorem joined_literal (text text' : String) (ns : List Node) :
    joined text (.literal text' :: ns) = .literal (text ++ text') :: ns := by
  by_cases h : text = ""
  · simp [joined, h]
  · simp [joined, h]

theorem joined_other (hns : ∀ text ms, ns ≠ .literal text :: ms) (text : String) :
    joined text ns = joined text [] ++ ns := by
  unfold joined
  split
  · rfl
  · split
    · next text' ms => exact absurd rfl (hns text' ms)
    · rfl

theorem joined_push (text : String) (c : Char) (ns : List Node) :
    joined (text.push c) ns = joined text (consLiteral c ns) := by
  rcases consLiteral_cases c ns with ⟨text', ms, rfl, hc⟩ | ⟨hns, hc⟩
  · have htext : text.push c ++ text' = text ++ (String.singleton c ++ text') := by
      rw [← String.toList_inj]
      simp
    rw [hc, joined_literal, joined_literal, htext]
  · have htext : joined (text.push c) [] = [.literal (text ++ String.singleton c)] := by
      simp [joined]
    rw [hc, joined_literal, joined_other hns, htext]
    rfl

theorem toNodes_eq (b : Body) : b.toNodes = b.nodes.toList ++ joined b.text [] := by
  unfold Body.toNodes Body.flush joined
  split
  · simp
  · simp

theorem toNodes_add (b : Body) (n : Node) (ns : List Node) :
    (b.add n).nodes.toList ++ joined (b.add n).text ns = b.toNodes ++ n :: ns := by
  have htext : (b.add n).text = "" := by
    unfold Body.add Body.flush
    split
    · next h => simpa using h
    · rfl
  have hnodes : (b.add n).nodes.toList = b.toNodes ++ [n] := by
    simp [Body.add, Body.toNodes]
  simp [htext, hnodes, joined]

/-- The nodes of a body behind which others come: those that are there, then the text that was
gathering, and then the others. -/
theorem toNodes_extend (h : Spells place ns cs) (b : Body) :
    (b.extend ns).toNodes = b.nodes.toList ++ joined b.text ns := by
  induction h generalizing b with
  | nil hplace => exact toNodes_eq b
  | char hc hplace hns ih | escaped hns ih =>
    rw [extend_consLiteral, ih, ← joined_push]
    rfl
  | @reference place r written ns cs s hr hns ih =>
    have hother : ∀ text ms, s.node r :: ns ≠ .literal text :: ms := by
      cases s <;> simp [Sigil.node]
    rw [extend_node, ih, toNodes_add, joined_other hother, toNodes_eq, List.append_assoc]
  | @group place children body mark sep ns cs hchildren hsep hns ihc ih =>
    have hother : ∀ text ms, Node.group children sep :: ns ≠ .literal text :: ms := by
      simp
    rw [extend_group, ih, toNodes_add, joined_other hother, toNodes_eq, List.append_assoc]

theorem toNodes_of_spells (h : Spells place ns cs) : (Body.extend {} ns).toNodes = ns := by
  rw [toNodes_extend h]
  rfl

/-! ## A text that spells nodes -/

/-- The reader is at the place: in the outermost body or in another one, with the parentheses of
the place open. -/
structure Stands (place : Place) (b : Body) (es : List Enclosing) : Prop where
  top : place = .top ↔ es = []
  parens : b.parens = place.parens

theorem Stands.add (h : Stands place b es) (n : Node) : Stands place (b.add n) es := by
  refine ⟨h.top, ?_⟩
  rw [← h.parens, Body.add, Body.flush]
  split <;> rfl

theorem Stands.push (h : Stands place b es) (c : Char) : Stands place (b.push c) es :=
  ⟨h.top, h.parens⟩

theorem Stands.inside (b : Body) (e : Enclosing) (es : List Enclosing) (hb : b.parens = 0) :
    Stands (.body 0) b (e :: es) :=
  ⟨by simp, hb⟩

/-- Where no parenthesis is open, nothing more leaves the body as it is. -/
theorem Stands.extend_nil (h : Stands place b es) (hplace : place.parens = 0) :
    { b.extend [] with parens := 0 } = b := by
  rw [← hplace, ← h.parens]
  rfl

theorem Stands.after (h : Stands place b es) (hc : place.after? c = .some place') :
    Stands place' { b.push c with parens := place'.parens } es := by
  refine ⟨?_, rfl⟩
  rw [← h.top]
  cases place with
  | top =>
    cases hc
    rfl
  | body q =>
    rcases Place.after?_body hc with ⟨-, rfl⟩ | ⟨-, q', -, rfl⟩ | ⟨-, -, rfl⟩ <;> simp

theorem step_char (h : Stands place b es) (hspecial : isSpecial c = false)
    (hc : place.after? c = .some place') (p : Nat) :
    stepMode limit ⟨b, es, .text, p⟩ c =
      .ok ⟨{ b.push c with parens := place'.parens }, es, .text, p⟩ := by
  simp only [isSpecial, Bool.or_eq_false_iff, beq_eq_false_iff_ne] at hspecial
  obtain ⟨⟨hescape, hdollar⟩, hat⟩ := hspecial
  have hparens := h.parens
  cases place with
  | top =>
    cases hc
    obtain rfl := h.top.mp rfl
    have hpush : b.push c = { b.push c with parens := 0 } := by
      rw [← show b.parens = 0 from hparens]
      rfl
    simp [stepMode, stepText, hescape, hdollar, hat, State.push, Place.parens, ← hpush]
  | body q =>
    have hes : es.isEmpty = false := by
      cases es with
      | nil => cases h.top.mpr rfl
      | cons e es => rfl
    have hq : b.parens = q := hparens
    rcases Place.after?_body hc with ⟨rfl, rfl⟩ | ⟨rfl, q', rfl, rfl⟩ | ⟨hopen, hclose, rfl⟩
    · simp [stepMode, stepText, hes, State.push, Place.parens, hq]
    · simp [stepMode, stepText, hes, State.push, Place.parens, hq]
    · have hpush : b.push c = { b.push c with parens := q } := by
        rw [← hq]
        rfl
      simp [stepMode, stepText, hescape, hdollar, hat, hes, hopen, hclose, State.push, Place.parens,
        ← hpush]

theorem step_escape (b : Body) (es : List Enclosing) (p : Nat) :
    stepMode limit ⟨b, es, .text, p⟩ '\\' = .ok ⟨b, es, .escape, p⟩ := by
  simp [stepMode, stepText]

theorem step_escaped (b : Body) (es : List Enclosing) (c : Char) (p : Nat) :
    stepMode limit ⟨b, es, .escape, p⟩ c = .ok ⟨b.push c, es, .text, p⟩ := by
  simp [stepMode, State.push]

theorem step_open (b : Body) (es : List Enclosing) (p : Nat) (hd : es.length + 1 ≤ limit) :
    stepMode limit ⟨b, es, .sigil .dollar, p⟩ '(' = .ok ⟨{}, ⟨b, p - 1⟩ :: es, .text, p⟩ := by
  simp [stepMode, State.depth, State.openGroup, Nat.not_lt.mpr hd]

theorem step_open_error (b : Body) (es : List Enclosing) (p : Nat) (hd : limit < es.length + 1) :
    stepMode limit ⟨b, es, .sigil .dollar, p⟩ '(' = .error (.tooDeep limit) := by
  simp [stepMode, State.depth, hd]

/-- Where there is room for another group, its body is begun, and the one around it set aside. -/
theorem run_open (b : Body) (es : List Enclosing) (p : Nat) (hd : es.length + 1 ≤ limit)
    (cs : List Char) :
    run limit ⟨b, es, .text, p⟩ ('$' :: '(' :: cs) =
      run limit ⟨{}, ⟨b, p⟩ :: es, .text, p + 1 + 1⟩ cs :=
  (run_of_step (step_dollar b es .dollar p)).trans (run_of_step (step_open b es (p + 1) hd))

theorem run_open_error (b : Body) (es : List Enclosing) (p : Nat) (hd : limit < es.length + 1)
    (cs : List Char) :
    run limit ⟨b, es, .text, p⟩ ('$' :: '(' :: cs) = .error (.tooDeep limit) :=
  (run_of_step (step_dollar b es .dollar p)).trans
    (run_of_error (step_open_error b es (p + 1) hd))

theorem step_close (b : Body) (e : Enclosing) (es : List Enclosing) (p : Nat) (hb : b.parens = 0) :
    stepMode limit ⟨b, e :: es, .text, p⟩ ')' = .ok ⟨e.body, es, .closed b.toNodes, p⟩ := by
  simp [stepMode, stepText, hb, State.closeGroup]

/-- **A text that spells nodes is read as those nodes**, by induction on the grammar: they come to
stand in the body behind what it has, if what follows the text does not go on with a name. The
children of a group are read in a body of their own first. -/
theorem run_spells (h : Spells place ns cs) (hs : Stands place b es)
    (hd : Node.nestingList ns ≤ limit - es.length) (p : Nat)
    (hk : ∀ c, k.head? = .some c → isNamePart c = false) :
    ∃ p', run limit ⟨b, es, .text, p⟩ (cs ++ k) =
      run limit ⟨{ b.extend ns with parens := 0 }, es, .text, p'⟩ k := by
  induction h generalizing b es p k with
  | @nil place hplace =>
    rw [hs.extend_nil hplace]
    exact ⟨p, rfl⟩
  | @char place place' c ns cs hc hplace hns ih =>
    rw [nestingList_consLiteral] at hd
    obtain ⟨p', hp'⟩ := ih (hs.after hplace) hd (p + 1) hk
    rw [extend_parens] at hp'
    rw [extend_consLiteral, List.cons_append, run_of_step (step_char hs hc hplace p)]
    exact ⟨p', hp'⟩
  | @escaped place c ns cs hns ih =>
    rw [nestingList_consLiteral] at hd
    obtain ⟨p', hp'⟩ := ih (hs.push c) hd (p + 1 + 1) hk
    rw [extend_consLiteral, List.cons_append, List.cons_append, run_of_step (step_escape b es p),
      run_of_step (step_escaped b es c (p + 1))]
    exact ⟨p', hp'⟩
  | @reference place r written ns cs s hr hns ih =>
    rw [nestingList_reference] at hd
    obtain ⟨p', hp'⟩ := run_refers (hr.append hk) b es s (p + 1)
    obtain ⟨p'', hp''⟩ := ih (hs.add (s.node r)) hd p' hk
    refine ⟨p'', ?_⟩
    rw [extend_node, List.cons_append, List.append_assoc, run_of_step (step_dollar b es s p)]
    exact hp'.trans hp''
  | @group place children body mark sep ns cs hchildren hsep hns ihc ih =>
    rw [nestingList_group] at hd
    have hroom : es.length + 1 ≤ limit := by omega
    have hinner : Node.nestingList children ≤ limit - (es.length + 1) := by omega
    obtain ⟨q, hq⟩ := ihc (Stands.inside {} ⟨b, p⟩ es rfl) hinner (p + 1 + 1)
      (k := ')' :: (mark ++ (cs ++ k))) (by simp; decide)
    rw [run_of_step (step_close _ _ _ q rfl), toNodes_parens, toNodes_of_spells hchildren] at hq
    obtain ⟨q', hq'⟩ := run_separates hsep b es children (q + 1) (cs ++ k)
    obtain ⟨p', hp'⟩ := ih (hs.add (.group children sep)) (by omega) q' hk
    refine ⟨p', ?_⟩
    rw [extend_group, ← hp', ← hq', ← hq]
    simp only [List.cons_append, List.append_assoc]
    exact run_open b es p hroom _

/-! ## A text that is read -/

/-- The text goes on with the end of the body: the end of the source, or a closing parenthesis. -/
def Ends (es : List Enclosing) (k : List Char) : Prop :=
  (es = [] ∧ k = []) ∨ (es ≠ [] ∧ ∃ rest, k = ')' :: rest)

/-- Where reading comes to an end without an error, what stands between here and the end of the body
spells nodes: those that come to stand in the body. -/
def Read (limit : Nat) (place : Place) (b : Body) (es : List Enclosing) (cs : List Char)
    (result : List Node) : Prop :=
  ∃ ns written k p, cs = written ++ k ∧ Spells place ns written ∧
    Node.nestingList ns ≤ limit - es.length ∧ Ends es k ∧
    run limit ⟨{ b.extend ns with parens := 0 }, es, .text, p⟩ k = .ok result

namespace Read

variable {result : List Node}

theorem nil (hs : Stands place b es) (hplace : place.parens = 0) (hk : Ends es k)
    (hr : run limit ⟨b, es, .text, p⟩ k = .ok result) : Read limit place b es k result := by
  refine ⟨[], [], k, p, rfl, .nil hplace, by simp, hk, ?_⟩
  rw [hs.extend_nil hplace]
  exact hr

theorem char (hspecial : isSpecial c = false) (hc : place.after? c = .some place')
    (h : Read limit place' { b.push c with parens := place'.parens } es cs result) :
    Read limit place b es (c :: cs) result := by
  obtain ⟨ns, written, k, p, rfl, hns, hd, hk, hr⟩ := h
  rw [extend_parens, ← extend_consLiteral] at hr
  rw [← nestingList_consLiteral c] at hd
  exact ⟨consLiteral c ns, c :: written, k, p, rfl, .char hspecial hc hns, hd, hk, hr⟩

theorem escaped (h : Read limit place (b.push c) es cs result) :
    Read limit place b es ('\\' :: c :: cs) result := by
  obtain ⟨ns, written, k, p, rfl, hns, hd, hk, hr⟩ := h
  rw [← extend_consLiteral] at hr
  rw [← nestingList_consLiteral c] at hd
  exact ⟨consLiteral c ns, '\\' :: c :: written, k, p, rfl, .escaped hns, hd, hk, hr⟩

theorem reference {r : Reference} {written : List Char} (s : Sigil) (hr : Refers r written cs)
    (h : Read limit place (b.add (s.node r)) es cs result) :
    Read limit place b es (sigilChar s :: (written ++ cs)) result := by
  obtain ⟨ns, more, k, p, rfl, hns, hd, hk, hrun⟩ := h
  rw [← extend_node] at hrun
  rw [← nestingList_reference s r] at hd
  refine ⟨s.node r :: ns, sigilChar s :: (written ++ more), k, p, ?_,
    .reference s hr.of_append hns, hd, hk, hrun⟩
  simp

theorem group {sep : Option String} {mark : List Char} (hroom : es.length + 1 ≤ limit)
    (hchildren : Spells (.body 0) children body)
    (hd : Node.nestingList children ≤ limit - (es.length + 1)) (hsep : Separates sep mark)
    (h : Read limit place (b.add (.group children sep)) es cs result) :
    Read limit place b es ('$' :: '(' :: (body ++ ')' :: (mark ++ cs))) result := by
  obtain ⟨ns, more, k, p, rfl, hns, hd', hk, hrun⟩ := h
  refine ⟨.group children sep :: ns, '$' :: '(' :: (body ++ ')' :: (mark ++ more)), k, p, ?_,
    .group hchildren hsep hns, ?_, hk, hrun⟩
  · simp
  · rw [nestingList_group]
    omega

end Read

/-- A text that opens a group holds its body, its end and its separator, and what stands behind them
is read on. The body of the group is what `ih` says of it. -/
theorem group_of_run {result : List Node}
    (ih : run limit ⟨{}, ⟨b, p⟩ :: es, .text, p + 1 + 1⟩ cs = .ok result →
      Read limit (.body 0) {} (⟨b, p⟩ :: es) cs result)
    (hr : run limit ⟨b, es, .text, p⟩ ('$' :: '(' :: cs) = .ok result) :
    ∃ children body sep mark rest p', cs = body ++ ')' :: (mark ++ rest) ∧ es.length + 1 ≤ limit ∧
      Spells (.body 0) children body ∧ Node.nestingList children ≤ limit - (es.length + 1) ∧
      Separates sep mark ∧
      run limit ⟨b.add (.group children sep), es, .text, p'⟩ rest = .ok result := by
  have hroom : es.length + 1 ≤ limit := by
    rcases Nat.lt_or_ge limit (es.length + 1) with hfull | hroom
    · rw [run_open_error b es p hfull] at hr
      cases hr
    · exact hroom
  rw [run_open b es p hroom] at hr
  obtain ⟨children, body, k, q, rfl, hchildren, hd, ⟨hes, -⟩ | ⟨-, after, rfl⟩, hr⟩ := ih hr
  · cases hes
  · rw [run_of_step (step_close _ _ _ q rfl), toNodes_parens, toNodes_of_spells hchildren] at hr
    obtain ⟨sep, mark, rest, p', rfl, hsep, hr⟩ := separates_of_run hr
    exact ⟨children, body, sep, mark, rest, p', rfl, hroom, hchildren, hd, hsep, hr⟩

/-- **What is read spells nodes**, by induction on the length of the text. The body of a group is
shorter than the text, and so is what stands behind the group. -/
theorem read_of_run {result : List Node} (hs : Stands place b es)
    (hr : run limit ⟨b, es, .text, p⟩ cs = .ok result) : Read limit place b es cs result := by
  induction hn : cs.length using Nat.strongRecOn generalizing place b es cs p with
  | ind n ih =>
    cases cs with
    | nil =>
      cases es with
      | nil =>
        obtain rfl := hs.top.mpr rfl
        exact Read.nil hs rfl (.inl ⟨rfl, rfl⟩) hr
      | cons e es => cases hr
    | cons c cs =>
      rw [List.length_cons] at hn
      cases hspecial : isSpecial c with
      | false =>
        cases hc : place.after? c with
        | some place' =>
          rw [run_of_step (step_char hs hspecial hc p)] at hr
          exact .char hspecial hc (ih cs.length (by omega) (hs.after hc) hr rfl)
        | none =>
          obtain ⟨rfl, rfl⟩ := Place.after?_eq_none hc
          have hes : es ≠ [] := fun h => nomatch hs.top.mpr h
          exact Read.nil hs rfl (.inr ⟨hes, cs, rfl⟩) hr
      | true =>
        rcases isSpecial_eq_true hspecial with rfl | ⟨s, rfl⟩
        · rw [run_of_step (step_escape b es p)] at hr
          cases cs with
          | nil => cases hr
          | cons d cs =>
            rw [run_of_step (step_escaped b es d (p + 1))] at hr
            rw [List.length_cons] at hn
            exact .escaped (ih cs.length (by omega) (hs.push d) hr rfl)
        · by_cases hopen : ∃ rest, s = .dollar ∧ cs = '(' :: rest
          · obtain ⟨rest, rfl, rfl⟩ := hopen
            rw [List.length_cons] at hn
            obtain ⟨children, body, sep, mark, rest, p', rfl, hroom, hchildren, hd, hsep, hr⟩ :=
              group_of_run (fun h => ih _ (by omega) (Stands.inside {} ⟨b, p⟩ es rfl) h rfl) hr
            simp only [List.length_append, List.length_cons] at hn
            exact .group hroom hchildren hd hsep
              (ih rest.length (by omega) (hs.add (.group children sep)) hr rfl)
          · rw [run_of_step (step_dollar b es s p)] at hr
            obtain ⟨r, written, rest, p', rfl, href, hr⟩ :=
              refers_of_run (fun rest h => hopen ⟨rest, h⟩) hr
            rw [List.length_append] at hn
            exact .reference s href (ih rest.length (by omega) (hs.add (s.node r)) hr rfl)

/-! ## Limits on nesting -/

/-- A lower limit makes no difference to a step, but that it may be exceeded. -/
theorem stepMode_limit (hl : limit ≤ limit') (st : State) (c : Char) :
    stepMode limit st c = stepMode limit' st c ∨ stepMode limit st c = .error (.tooDeep limit) := by
  obtain ⟨b, es, mode, p⟩ := st
  cases mode with
  | sigil s =>
    by_cases hopen : c = '(' ∧ s = .dollar
    · obtain ⟨rfl, rfl⟩ := hopen
      rcases Nat.lt_or_ge limit (es.length + 1) with hfull | hroom
      · exact .inr (step_open_error b es p hfull)
      · rw [step_open b es p hroom, step_open b es p (Nat.le_trans hroom hl)]
        exact .inl rfl
    · simp [stepMode, hopen]
  | text | escape | bare s name | braced s name | labelled s name label | closed children
  | separator children opened text | separated children text => exact .inl rfl

theorem run_limit (hl : limit ≤ limit') (st : State) (cs : List Char) :
    run limit st cs = run limit' st cs ∨ run limit st cs = .error (.tooDeep limit) := by
  induction cs generalizing st with
  | nil => exact .inl rfl
  | cons c cs ih =>
    rcases stepMode_limit hl st c with h | h
    · cases hstep : stepMode limit' st c with
      | error e =>
        rw [hstep] at h
        rw [run_of_error h, run_of_error hstep]
        exact .inl rfl
      | ok next =>
        rw [hstep] at h
        have hrun : ∀ l, stepMode l st c = .ok next →
            run l st (c :: cs) = run l { next with position := st.position + 1 } cs := by
          intro l hl
          rw [run, readFrom, step, hl]
          rfl
        rw [hrun limit h, hrun limit' hstep]
        exact ih _
    · exact .inr (run_of_error h)

/-! ## Sources -/

theorem readTemplate_of_spells {source : String} (h : Spells .top ns source.toList)
    (hd : Node.nestingList ns ≤ limit) : readTemplate limit source = .ok ns := by
  have hs : Stands .top {} [] := ⟨by simp, rfl⟩
  obtain ⟨p, hp⟩ := run_spells h hs hd 0 (k := []) nofun
  rw [List.append_nil, run_nil] at hp
  rw [readTemplate, readChars]
  refine hp.trans ?_
  simp only [finish, State.close, toNodes_parens, toNodes_of_spells h]

theorem spells_of_readTemplate {source : String} (h : readTemplate limit source = .ok ns) :
    Spells .top ns source.toList ∧ Node.nestingList ns ≤ limit := by
  have hs : Stands .top {} [] := ⟨by simp, rfl⟩
  obtain ⟨ms, written, k, p, hcs, hms, hd, ⟨-, rfl⟩ | ⟨hes, -⟩, hr⟩ := read_of_run hs h
  · rw [run_nil] at hr
    simp only [finish, State.close, toNodes_parens, toNodes_of_spells hms] at hr
    cases hr
    rw [hcs, List.append_nil]
    exact ⟨hms, hd⟩
  · exact absurd rfl hes

/-- A source that nests deeper than the limit is not read under it, though under a higher one. -/
theorem tooDeep_of_spells {source : String} (h : Spells .top ns source.toList)
    (hd : limit < Node.nestingList ns) : readTemplate limit source = .error (.tooDeep limit) := by
  have hdeep : readTemplate (Node.nestingList ns) source = .ok ns :=
    readTemplate_of_spells h (Nat.le_refl _)
  rcases run_limit (Nat.le_of_lt hd) {} source.toList with hsame | hdeeper
  · have hok : readTemplate limit source = .ok ns := hsame.trans hdeep
    exact absurd (spells_of_readTemplate hok).2 (Nat.not_le.mpr hd)
  · exact hdeeper

/-- A source spells one tree at most, for all trees that it spells are what is read under the limit
that lets the deeper of two through. -/
theorem spells_unique {source : String} {ms : List Node} (h : Spells .top ns source.toList)
    (h' : Spells .top ms source.toList) : ns = ms := by
  have hns := readTemplate_of_spells h (Nat.le_max_left _ (Node.nestingList ms))
  have hms := readTemplate_of_spells h' (Nat.le_max_right (Node.nestingList ns) _)
  rw [hns] at hms
  cases hms
  rfl

end Reader

open Grammar Reader

/-- **The reader accepts the grammar, and returns the tree it assigns.** Under every limit on
nesting, what comes of a source are the nodes that it spells, if they nest no deeper than the
limit. A source spells no more than one tree; where that nests deeper, this is the error, and a
source that spells nothing is refused. -/
theorem reads_grammar (limit : Nat) (source : String) :
    (∀ ns, readTemplate limit source = .ok ns ↔
      Spells .top ns source.toList ∧ Node.nestingList ns ≤ limit) ∧
    (∀ ns ms, Spells .top ns source.toList → Spells .top ms source.toList → ns = ms) ∧
    (∀ ns, Spells .top ns source.toList → limit < Node.nestingList ns →
      readTemplate limit source = .error (.tooDeep limit)) ∧
    ((∀ ns, ¬ Spells .top ns source.toList) → ∃ e, readTemplate limit source = .error e) := by
  refine ⟨fun ns => ⟨spells_of_readTemplate, fun h => readTemplate_of_spells h.1 h.2⟩,
    fun ns ms => spells_unique, fun ns => tooDeep_of_spells, fun hno => ?_⟩
  cases h : readTemplate limit source with
  | error e => exact ⟨e, rfl⟩
  | ok ns => exact absurd (spells_of_readTemplate h).1 (hno ns)

/-- A group with escapes, a name that ends where its body does, parentheses that are text and a
separator between parentheses: what it spells, under a limit that it keeps and one that it does
not. A sigil alone spells nothing. -/
theorem reads_grammar_rows :
    let source := "a\\$$(${xs:x} ($y))(; )*"
    let rows : List Node := [.literal "a$", .group [.shown ⟨"xs", .some "x"⟩, .literal " (",
      .shown ⟨"y", .none⟩, .literal ")"] (.some "; ")]
    Spells .top rows source.toList ∧ (∀ ns, Spells .top ns source.toList → ns = rows) ∧
      readTemplate 1 source = .ok rows ∧ readTemplate 0 source = .error (.tooDeep 0) ∧
      ∃ e, readTemplate 1 "$" = .error e := by
  intro source rows
  have hread : readTemplate 1 source = .ok rows := by
    simp only [source, rows]
    rfl
  obtain ⟨hspells, hnesting⟩ := ((reads_grammar 1 source).1 rows).mp hread
  obtain ⟨-, hunique, hdeep, -⟩ := reads_grammar 0 source
  have hdepth : 0 < Node.nestingList rows := by decide
  have hnone : ∀ ns, ¬ Spells .top ns "$".toList := by
    intro ns hns
    have h := ((reads_grammar (Node.nestingList ns) "$").1 ns).mpr ⟨hns, Nat.le_refl _⟩
    cases h
  exact ⟨hspells, fun ns hns => hunique ns rows hns hspells, hread, hdeep rows hspells hdepth,
    (reads_grammar 1 "$").2.2.2 hnone⟩

end Lockstep
