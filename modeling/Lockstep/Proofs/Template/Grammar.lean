/-
The grammar of templates: which text spells which nodes (`Grammar.Spells`),
told by what stands at the beginning of the text.

A character that stands for itself, or behind a backslash for itself whatever
it is, goes to the literal that begins behind it, so a literal is as long as
it can be. In the body of a group the parentheses that stand for themselves
are balanced; those in a group inside it and in its separator are not
counted, for they are no literal text of the body.

A name without braces is as long as it can be too: what follows it does not go
on with it.
-/
import Lockstep.Template.Reader

namespace Lockstep.Grammar

open Reader (Sigil isIdentifier isNamePart)

/-! ## Literal text -/

/-- Where text stands: outside all groups, or in the body of one, behind so many parentheses that
are open in the literal text of the body. -/
inductive Place where
  | top
  | body (parens : Nat)
  deriving DecidableEq, Repr, Inhabited

def Place.parens : Place → Nat
  | .top => 0
  | .body parens => parens

/-- Where the text behind a character stands, if the character can stand for itself: a closing
parenthesis cannot where none is open. -/
def Place.after? (c : Char) : Place → Option Place
  | .top => .some .top
  | .body parens =>
    if c = '(' then .some (.body (parens + 1))
    else if c = ')' then if parens = 0 then .none else .some (.body (parens - 1))
    else .some (.body parens)

/-- What a character that stands for itself in a body makes of its open parentheses. -/
theorem Place.after?_body {c : Char} {q : Nat} {place : Place}
    (h : (Place.body q).after? c = .some place) :
    (c = '(' ∧ place = .body (q + 1)) ∨ (c = ')' ∧ ∃ q', q = q' + 1 ∧ place = .body q') ∨
      (c ≠ '(' ∧ c ≠ ')' ∧ place = .body q) := by
  by_cases hopen : c = '('
  · simp only [after?, hopen, if_true, Option.some.injEq] at h
    exact .inl ⟨hopen, h.symm⟩
  · by_cases hclose : c = ')'
    · cases q with
      | zero => simp [after?, hclose] at h
      | succ q' =>
        simp only [after?, hclose] at h
        exact .inr (.inl ⟨hclose, q', rfl, by simpa using h.symm⟩)
    · simp only [after?, hopen, hclose, if_false, Option.some.injEq] at h
      exact .inr (.inr ⟨hopen, hclose, h.symm⟩)

/-- All that cannot stand for itself is a closing parenthesis, where none is open. -/
theorem Place.after?_eq_none {c : Char} {place : Place} (h : place.after? c = .none) :
    c = ')' ∧ place = .body 0 := by
  cases place with
  | top => cases h
  | body q =>
    by_cases hopen : c = '('
    · simp [after?, hopen] at h
    · by_cases hclose : c = ')'
      · cases q with
        | zero => exact ⟨hclose, rfl⟩
        | succ q => simp [after?, hclose] at h
      · simp [after?, hopen, hclose] at h

/-- A character that never stands for itself. -/
def isSpecial (c : Char) : Bool :=
  c == '\\' || c == '$' || c == '@'

/-- The nodes with a character in front of them, in their first literal if they begin with one. -/
def consLiteral (c : Char) : List Node → List Node
  | .literal text :: ns => .literal (String.singleton c ++ text) :: ns
  | ns => .literal (String.singleton c) :: ns

theorem consLiteral_cases (c : Char) (ns : List Node) :
    (∃ text ms, ns = .literal text :: ms ∧
      consLiteral c ns = .literal (String.singleton c ++ text) :: ms) ∨
    ((∀ text ms, ns ≠ .literal text :: ms) ∧
      consLiteral c ns = .literal (String.singleton c) :: ns) := by
  unfold consLiteral
  split
  · next text ms => exact .inl ⟨text, ms, rfl, rfl⟩
  · next hns => exact .inr ⟨hns, rfl⟩

/-! ## References and separators -/

/-- The character a reference begins with. -/
def sigilChar : Sigil → Char
  | .dollar => '$'
  | .atSign => '@'

theorem isSpecial_eq_true {c : Char} (h : isSpecial c = true) :
    c = '\\' ∨ ∃ s, c = sigilChar s := by
  simp only [isSpecial, Bool.or_eq_true, beq_iff_eq] at h
  rcases h with (h | h) | h
  · exact .inl h
  · exact .inr ⟨.dollar, h⟩
  · exact .inr ⟨.atSign, h⟩

/-- The text behind the first character of a reference, in front of the rest of the source. -/
inductive Refers : Reference → List Char → List Char → Prop
  | bare {name : String} {rest : List Char} (hname : isIdentifier name = true)
      (hrest : ∀ c, rest.head? = .some c → isNamePart c = false) :
      Refers ⟨name, .none⟩ name.toList rest
  | braced {name : String} {rest : List Char} (hname : isIdentifier name = true) :
      Refers ⟨name, .none⟩ ('{' :: (name.toList ++ ['}'])) rest
  | labelled {name label : String} {rest : List Char} (hname : isIdentifier name = true)
      (hlabel : isIdentifier label = true) :
      Refers ⟨name, .some label⟩ ('{' :: (name.toList ++ ':' :: (label.toList ++ ['}']))) rest

/-- The text behind the body of a group, which gives its separator. -/
inductive Separates : Option String → List Char → Prop
  | without : Separates .none ['*']
  | char {c : Char} (hstar : c ≠ '*') (hopen : c ≠ '(') :
      Separates (.some (String.singleton c)) [c, '*']
  | text {text : String} (hclose : ')' ∉ text.toList) :
      Separates (.some text) ('(' :: (text.toList ++ [')', '*']))

/-! ## Templates -/

/-- **The text spells the nodes**, standing at a place. -/
inductive Spells : Place → List Node → List Char → Prop
  | nil {place : Place} (hplace : place.parens = 0) : Spells place [] []
  | char {place place' : Place} {c : Char} {ns : List Node} {cs : List Char}
      (hc : isSpecial c = false) (hplace : place.after? c = .some place')
      (hns : Spells place' ns cs) : Spells place (consLiteral c ns) (c :: cs)
  | escaped {place : Place} {c : Char} {ns : List Node} {cs : List Char}
      (hns : Spells place ns cs) : Spells place (consLiteral c ns) ('\\' :: c :: cs)
  | reference {place : Place} {r : Reference} {written : List Char} {ns : List Node}
      {cs : List Char} (s : Sigil) (hr : Refers r written cs) (hns : Spells place ns cs) :
      Spells place (s.node r :: ns) (sigilChar s :: (written ++ cs))
  | group {place : Place} {children : List Node} {body mark : List Char} {sep : Option String}
      {ns : List Node} {cs : List Char} (hchildren : Spells (.body 0) children body)
      (hsep : Separates sep mark) (hns : Spells place ns cs) :
      Spells place (.group children sep :: ns) ('$' :: '(' :: (body ++ ')' :: (mark ++ cs)))

theorem Refers.append {r : Reference} {written rest : List Char} (h : Refers r written rest)
    {k : List Char} (hk : ∀ c, k.head? = .some c → isNamePart c = false) :
    Refers r written (rest ++ k) := by
  cases h with
  | bare hname hrest =>
    refine .bare hname fun c hc => ?_
    cases rest with
    | nil => exact hk c hc
    | cons d rest => exact hrest c hc
  | braced hname => exact .braced hname
  | labelled hname hlabel => exact .labelled hname hlabel

theorem Refers.of_append {r : Reference} {written rest k : List Char}
    (h : Refers r written (rest ++ k)) : Refers r written rest := by
  cases h with
  | bare hname hrest =>
    refine .bare hname fun c hc => hrest c ?_
    rw [List.head?_append, hc, Option.some_or]
  | braced hname => exact .braced hname
  | labelled hname hlabel => exact .labelled hname hlabel

/-! ## Nesting -/

theorem nestingList_consLiteral (c : Char) (ns : List Node) :
    Node.nestingList (consLiteral c ns) = Node.nestingList ns := by
  rcases consLiteral_cases c ns with ⟨text, ms, rfl, hc⟩ | ⟨-, hc⟩
  · simp [hc, Node.nesting]
  · simp [hc, Node.nesting]

theorem nestingList_reference (s : Sigil) (r : Reference) (ns : List Node) :
    Node.nestingList (s.node r :: ns) = Node.nestingList ns := by
  cases s <;> simp [Sigil.node, Node.nesting]

theorem nestingList_group (children : List Node) (sep : Option String) (ns : List Node) :
    Node.nestingList (.group children sep :: ns) =
      max (Node.nestingList children + 1) (Node.nestingList ns) := by
  rw [Node.nestingList_cons, Node.nesting_group]

end Lockstep.Grammar
