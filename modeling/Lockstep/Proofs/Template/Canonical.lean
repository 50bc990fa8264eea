/-
The trees that come of reading are the canonical ones (`reads_canonical`):
literal text is not empty and not split, names and labels are identifiers, and
a separator holds no closing parenthesis, unless it is one.

Every canonical tree has a text (`writeTemplate`), with a backslash before each
character of literal text that could be taken for anything else, and with
braces around all names, so that nothing in it depends on what follows. That
this text spells the tree again is shown by induction on the tree
(`spells_written`).
-/
import Lockstep.Proofs.Template.Reads
import Lockstep.Proofs.Template.Parts

namespace Lockstep

open Reader (Sigil isIdentifier)
open Grammar (Place Refers Separates Spells isSpecial sigilChar consLiteral consLiteral_cases)

/-! ## Canonical trees -/

/-- The name is an identifier, and so is the label if there is one. -/
def Reference.isCanonical (r : Reference) : Bool :=
  isIdentifier r.name && r.label.all isIdentifier

/-- A separator that a group can be written with. -/
def isSeparator : Option String → Bool
  | .none => true
  | .some text => text == ")" || !text.toList.contains ')'

namespace Node

def isLiteral : Node → Bool
  | .literal _ => true
  | _ => false

mutual
/-- A part as it comes of reading. -/
def isCanonical : Node → Bool
  | .literal text => text != ""
  | .shown r | .hidden r => r.isCanonical
  | .group children sep => isSeparator sep && areCanonical children
  | .foreign _ => false

/-- Parts as they come of reading: at no level do two literals follow each other. -/
def areCanonical : List Node → Bool
  | [] => true
  | n :: ns => n.isCanonical && !(n.isLiteral && ns.head?.any isLiteral) && areCanonical ns
end

@[simp] theorem isCanonical_literal (text : String) :
    (literal text).isCanonical = true ↔ text ≠ "" := by
  simp [isCanonical]

@[simp] theorem isCanonical_shown (r : Reference) : (shown r).isCanonical = r.isCanonical := by
  simp only [isCanonical]

@[simp] theorem isCanonical_hidden (r : Reference) : (hidden r).isCanonical = r.isCanonical := by
  simp only [isCanonical]

@[simp] theorem isCanonical_group (children : List Node) (sep : Option String) :
    (group children sep).isCanonical = true ↔
      isSeparator sep = true ∧ areCanonical children = true := by
  simp [isCanonical]

@[simp] theorem isCanonical_foreign (kind : String) : (foreign kind).isCanonical = false := by
  simp only [isCanonical]

@[simp] theorem areCanonical_nil : areCanonical [] = true := by
  simp only [areCanonical]

theorem areCanonical_cons (n : Node) (ns : List Node) :
    areCanonical (n :: ns) = true ↔
      n.isCanonical = true ∧ (n.isLiteral = true → ns.head?.any isLiteral = false) ∧
        areCanonical ns = true := by
  cases hn : n.isLiteral <;> simp [areCanonical, hn, and_assoc]

/-- Behind a part that is no literal anything canonical can follow. -/
theorem areCanonical_cons_of_not_literal {n : Node} (hn : n.isLiteral = false) (ns : List Node) :
    areCanonical (n :: ns) = true ↔ n.isCanonical = true ∧ areCanonical ns = true := by
  simp [areCanonical_cons, hn]

end Node

/-! ## What is read is canonical -/

theorem isCanonical_of_refers {r : Reference} {written rest : List Char}
    (h : Refers r written rest) : r.isCanonical = true := by
  cases h with
  | bare hname | braced hname => simp [Reference.isCanonical, hname]
  | labelled hname hlabel => simp [Reference.isCanonical, hname, hlabel]

/-- A single character is no closing parenthesis, or it is the whole separator. -/
theorem isSeparator_of_separates {sep : Option String} {mark : List Char}
    (h : Separates sep mark) : isSeparator sep = true := by
  cases h with
  | without => rfl
  | @char c =>
    by_cases hc : c = ')'
    · subst hc
      rfl
    · have hne : ¬ ')' = c := fun h => hc h.symm
      simp [isSeparator, hne]
  | text hclose => simp [isSeparator, hclose]

/-- One character more goes to the literal that is there, or makes one where there is none. -/
theorem areCanonical_consLiteral {ns : List Node} (c : Char) (h : Node.areCanonical ns = true) :
    Node.areCanonical (consLiteral c ns) = true := by
  rcases consLiteral_cases c ns with ⟨text, ms, rfl, hc⟩ | ⟨hns, hc⟩
  · obtain ⟨-, hnext, hms⟩ := (Node.areCanonical_cons _ _).mp h
    have hfull : String.singleton c ++ text ≠ "" := by
      intro hempty
      have := congrArg String.toList hempty
      simp at this
    rw [hc, Node.areCanonical_cons]
    exact ⟨(Node.isCanonical_literal _).mpr hfull, hnext, hms⟩
  · have hnext : ns.head?.any Node.isLiteral = false := by
      cases ns with
      | nil => rfl
      | cons n ns =>
        cases n with
        | literal text => exact absurd rfl (hns text ns)
        | shown | hidden | group | foreign => rfl
    rw [hc, Node.areCanonical_cons]
    exact ⟨by simp, fun _ => hnext, h⟩

/-- Text spells nothing but canonical nodes, by induction on the grammar. -/
theorem areCanonical_of_spells {place : Place} {ns : List Node} {cs : List Char}
    (h : Spells place ns cs) : Node.areCanonical ns = true := by
  induction h with
  | nil => rfl
  | @char _ _ c _ _ _ _ _ ih | @escaped _ c _ _ _ ih => exact areCanonical_consLiteral c ih
  | @reference _ r _ ns _ s hr _ ih =>
    have hcanonical := isCanonical_of_refers hr
    cases s with
    | dollar =>
      refine (Node.areCanonical_cons_of_not_literal rfl ns).mpr ⟨?_, ih⟩
      simpa [Sigil.node] using hcanonical
    | atSign =>
      refine (Node.areCanonical_cons_of_not_literal rfl ns).mpr ⟨?_, ih⟩
      simpa [Sigil.node] using hcanonical
  | @group _ children _ _ sep ns _ _ hsep _ ihc ih =>
    refine (Node.areCanonical_cons_of_not_literal rfl ns).mpr ⟨?_, ih⟩
    exact (Node.isCanonical_group children sep).mpr ⟨isSeparator_of_separates hsep, ihc⟩

/-! ## Writing -/

/-- A character that could be taken for something else than itself. -/
def isReserved (c : Char) : Bool :=
  isSpecial c || c == '(' || c == ')'

/-- The text of a character of literal text. -/
def escapedChar (c : Char) : List Char :=
  if isReserved c then ['\\', c] else [c]

/-- The text of a reference, behind its first character. -/
def Reference.written (r : Reference) : List Char :=
  match r.label with
  | .none => '{' :: (r.name.toList ++ ['}'])
  | .some label => '{' :: (r.name.toList ++ ':' :: (label.toList ++ ['}']))

/-- The text that ends a group, behind its body. -/
def separatorWritten : Option String → List Char
  | .none => ['*']
  | .some text => if text = ")" then [')', '*'] else '(' :: (text.toList ++ [')', '*'])

namespace Node

mutual
def written : Node → List Char
  | .literal text => text.toList.flatMap escapedChar
  | .shown r => '$' :: r.written
  | .hidden r => '@' :: r.written
  | .group children sep => '$' :: '(' :: (writtenList children ++ ')' :: separatorWritten sep)
  | .foreign _ => []

def writtenList : List Node → List Char
  | [] => []
  | n :: ns => n.written ++ writtenList ns
end

@[simp] theorem writtenList_nil : writtenList [] = [] := by
  simp only [writtenList]

@[simp] theorem writtenList_cons (n : Node) (ns : List Node) :
    writtenList (n :: ns) = n.written ++ writtenList ns := by
  simp only [writtenList]

@[simp] theorem written_literal (text : String) :
    (literal text).written = text.toList.flatMap escapedChar := by
  simp only [written]

@[simp] theorem written_shown (r : Reference) : (shown r).written = '$' :: r.written := by
  simp only [written]

@[simp] theorem written_hidden (r : Reference) : (hidden r).written = '@' :: r.written := by
  simp only [written]

@[simp] theorem written_group (children : List Node) (sep : Option String) :
    (group children sep).written =
      '$' :: '(' :: (writtenList children ++ ')' :: separatorWritten sep) := by
  simp only [written]

end Node

/-- **The text of a template**, from which it can be read again. -/
def writeTemplate (ns : List Node) : String :=
  String.ofList (Node.writtenList ns)

/-! ## What is written is spelt -/

theorem refers_written {r : Reference} (h : r.isCanonical = true) (rest : List Char) :
    Refers r r.written rest := by
  obtain ⟨name, label⟩ := r
  cases label with
  | none =>
    have hname : isIdentifier name = true := by simpa [Reference.isCanonical] using h
    exact .braced hname
  | some label =>
    have hboth : isIdentifier name = true ∧ isIdentifier label = true := by
      simpa [Reference.isCanonical] using h
    exact .labelled hboth.1 hboth.2

theorem separates_written {sep : Option String} (h : isSeparator sep = true) :
    Separates sep (separatorWritten sep) := by
  cases sep with
  | none => exact .without
  | some text =>
    by_cases hparen : text = ")"
    · subst hparen
      exact Separates.char (c := ')') (by decide) (by decide)
    · have hclose : ')' ∉ text.toList := by simpa [isSeparator, hparen] using h
      rw [separatorWritten, if_neg hparen]
      exact .text hclose

/-- Where no parenthesis is read, none is opened or closed. -/
theorem Grammar.Place.after?_other {c : Char} (hopen : c ≠ '(') (hclose : c ≠ ')')
    (place : Place) : place.after? c = .some place := by
  cases place with
  | top => rfl
  | body q => simp [Place.after?, hopen, hclose]

/-- A character of literal text is spelt by itself or behind a backslash. -/
theorem spells_escapedChar {place : Place} {ns : List Node} {cs : List Char} (c : Char)
    (h : Spells place ns cs) : Spells place (consLiteral c ns) (escapedChar c ++ cs) := by
  by_cases hc : isReserved c = true
  · simpa [escapedChar, hc] using Spells.escaped h
  · have hplain : isSpecial c = false ∧ c ≠ '(' ∧ c ≠ ')' := by
      simpa [isReserved, and_assoc] using hc
    obtain ⟨hspecial, hopen, hclose⟩ := hplain
    simpa [escapedChar, hc] using Spells.char hspecial (Place.after?_other hopen hclose place) h

/-- Literal text that is not empty makes a literal of its own, if none follows it. -/
theorem spells_literal {place : Place} {ns : List Node} {cs : List Char}
    (hnext : ns.head?.any Node.isLiteral = false) (h : Spells place ns cs) (c : Char)
    (more : List Char) :
    Spells place (.literal (String.ofList (c :: more)) :: ns)
      ((c :: more).flatMap escapedChar ++ cs) := by
  induction more generalizing c with
  | nil =>
    have hnew : consLiteral c ns = .literal (String.ofList [c]) :: ns := by
      rcases consLiteral_cases c ns with ⟨text, ms, rfl, -⟩ | ⟨-, hc⟩
      · cases hnext
      · rw [hc, String.singleton_eq_ofList]
    rw [← hnew]
    simpa using spells_escapedChar c h
  | cons d more ih =>
    have hjoin : consLiteral c (.literal (String.ofList (d :: more)) :: ns) =
        .literal (String.ofList (c :: d :: more)) :: ns := by
      simp [consLiteral]
    rw [← hjoin, List.flatMap_cons, List.append_assoc]
    exact spells_escapedChar c (ih d)

/-- **What is written for a canonical tree spells it**, wherever no parenthesis is open: by
induction on the tree, the children of a group in a body of their own. -/
theorem spells_written (ns : List Node) (h : Node.areCanonical ns = true) (place : Place)
    (hplace : place.parens = 0) : Spells place ns (Node.writtenList ns) := by
  induction ns using Node.listInduction generalizing place with
  | nil => exact .nil hplace
  | literal text ns ih =>
    obtain ⟨htext, hnext, hns⟩ := (Node.areCanonical_cons _ ns).mp h
    have hrest := ih hns place hplace
    obtain ⟨c, more, hchars⟩ : ∃ c more, text.toList = c :: more := by
      refine List.exists_cons_of_ne_nil fun hempty => ?_
      exact (Node.isCanonical_literal text).mp htext (String.toList_inj.mp hempty)
    have hmore : text = String.ofList (c :: more) := by rw [← hchars, String.ofList_toList]
    rw [Node.writtenList_cons, Node.written_literal, hchars, hmore]
    exact spells_literal (hnext rfl) hrest c more
  | shown r ns ih =>
    obtain ⟨hr, hns⟩ := (Node.areCanonical_cons_of_not_literal rfl ns).mp h
    rw [Node.isCanonical_shown] at hr
    rw [Node.writtenList_cons, Node.written_shown]
    exact .reference .dollar (refers_written hr _) (ih hns place hplace)
  | hidden r ns ih =>
    obtain ⟨hr, hns⟩ := (Node.areCanonical_cons_of_not_literal rfl ns).mp h
    rw [Node.isCanonical_hidden] at hr
    rw [Node.writtenList_cons, Node.written_hidden]
    exact .reference .atSign (refers_written hr _) (ih hns place hplace)
  | group children sep ns ihc ih =>
    obtain ⟨hgroup, hns⟩ := (Node.areCanonical_cons_of_not_literal rfl ns).mp h
    obtain ⟨hsep, hchildren⟩ := (Node.isCanonical_group children sep).mp hgroup
    have hbody := ihc hchildren (.body 0) rfl
    simpa using Spells.group hbody (separates_written hsep) (ih hns place hplace)
  | foreign kind ns =>
    obtain ⟨hforeign, -⟩ := (Node.areCanonical_cons_of_not_literal rfl ns).mp h
    rw [Node.isCanonical_foreign] at hforeign
    cases hforeign

/-- **What comes of reading are the canonical trees**, under every limit on nesting: all that is
read is canonical and nests no deeper than the limit, and every canonical tree that nests no deeper
is what is read from the text that is written for it. -/
theorem reads_canonical (limit : Nat) :
    (∀ source ns, readTemplate limit source = .ok ns →
      Node.areCanonical ns = true ∧ Node.nestingList ns ≤ limit) ∧
    (∀ ns, Node.areCanonical ns = true → Node.nestingList ns ≤ limit →
      readTemplate limit (writeTemplate ns) = .ok ns) := by
  constructor
  · intro source ns hread
    obtain ⟨hspells, hnesting⟩ := Reader.spells_of_readTemplate hread
    exact ⟨areCanonical_of_spells hspells, hnesting⟩
  · intro ns hcanonical hnesting
    have hspells : Spells .top ns (writeTemplate ns).toList := by
      rw [writeTemplate, String.toList_ofList]
      exact spells_written ns hcanonical .top rfl
    exact Reader.readTemplate_of_spells hspells hnesting

/-- Literal text of reserved characters next to groups with a closing parenthesis, with nothing and
with a star between their elements, one inside another: how it is written, and that it is read. -/
theorem reads_canonical_columns :
    let columns : List Node := [.literal "a)$", .hidden ⟨"n", .none⟩,
      .group [.literal "(", .shown ⟨"xs", .some "x"⟩, .group [.shown ⟨"y", .none⟩] (.some "")]
        (.some ")"), .group [.shown ⟨"y", .none⟩] (.some "*")]
    writeTemplate columns = "a\\)\\$@{n}$(\\(${xs:x}$(${y})()*))*$(${y})(*)*" ∧
      readTemplate 2 (writeTemplate columns) = .ok columns ∧
      Node.areCanonical columns = true ∧ Node.nestingList columns ≤ 2 := by
  intro columns
  have hcanonical : Node.areCanonical columns = true := by decide
  have hnesting : Node.nestingList columns ≤ 2 := by decide
  have hread := (reads_canonical 2).2 columns hcanonical hnesting
  obtain ⟨hback, hlimit⟩ := (reads_canonical 2).1 _ columns hread
  exact ⟨by decide, hread, hback, hlimit⟩

end Lockstep
