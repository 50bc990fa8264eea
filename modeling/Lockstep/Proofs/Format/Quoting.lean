/-
Quoting: text that goes through the whole pipeline unharmed. A quoted text has
a backslash before each sign that has a meaning in a template, and four for
each backslash (`quote`): decoding the escapes leaves two of the four, the
first of which the reader takes to protect the other.

So quoted text is written as it was under all bindings, and in a group, where
parentheses have a meaning too, once in each round (`format_quote`).
-/
import Lockstep.Proofs.Format.Literal
import Lockstep.Proofs.Render.Rows
import Lockstep.Proofs.Text.Escape

namespace Lockstep

open Grammar (Place Spells isSpecial consLiteral consLiteral_cases consText consText_cons)
open Text.Escape (simple? decodeChars decodeChars_simple decodeChars_kept decodeChars_other
  decodeChars_append_of_plain decodeChars_nil)

variable {signs : List Char} {c : Char} {place : Place}

/-! ## Quoted text -/

/-- A character as it is quoted where the given signs have a meaning. -/
def quotedChar (signs : List Char) (c : Char) : List Char :=
  if c = '\\' then ['\\', '\\', '\\', '\\'] else if c ∈ signs then ['\\', c] else [c]

/-- **Quoted text**, as it can be put into raw text. -/
def quote (signs : List Char) (text : String) : String :=
  String.ofList (text.toList.flatMap (quotedChar signs))

/-- A quoted character in the source: every backslash protects what stands behind it. -/
def protectedChar (signs : List Char) (c : Char) : List Char :=
  if c = '\\' ∨ c ∈ signs then ['\\', c] else [c]

/-- A backslash before any of the signs stays when escapes are decoded. -/
def areKept (signs : List Char) : Bool :=
  signs.all fun c => simple? c == .none && c != 'x'

/-- Decoding a quoted character leaves it protected, whatever stands behind it. -/
theorem decodeChars_quotedChar (hsigns : areKept signs = true) (c : Char) (rest : List Char) :
    decodeChars (quotedChar signs c ++ rest) = protectedChar signs c ++ decodeChars rest := by
  by_cases hbackslash : c = '\\'
  · subst hbackslash
    have hone : ∀ cs, decodeChars ('\\' :: '\\' :: cs) = '\\' :: decodeChars cs :=
      decodeChars_simple rfl
    simp [quotedChar, protectedChar, hone]
  · by_cases hc : c ∈ signs
    · have hkept : simple? c = .none ∧ c ≠ 'x' := by
        simpa using List.all_eq_true.mp hsigns c hc
      simp [quotedChar, protectedChar, hbackslash, hc, decodeChars_kept hkept.1 hkept.2]
    · simp [quotedChar, protectedChar, hbackslash, hc, decodeChars_other hbackslash]

theorem decodeChars_quoted (hsigns : areKept signs = true) (text rest : List Char) :
    decodeChars (text.flatMap (quotedChar signs) ++ rest) =
      text.flatMap (protectedChar signs) ++ decodeChars rest := by
  induction text with
  | nil => rfl
  | cons c text ih =>
    rw [List.flatMap_cons, List.flatMap_cons, List.append_assoc, decodeChars_quotedChar hsigns, ih,
      List.append_assoc]

/-! ## In the source -/

/-- At the place all characters stand for themselves but backslashes and the given signs. -/
def Suffice (place : Place) (signs : List Char) : Prop :=
  ∀ c, c ≠ '\\' → c ∉ signs → isSpecial c = false ∧ place.after? c = .some place

/-- Protected text spells itself, in front of whatever nodes follow. -/
theorem spells_protected (hsigns : Suffice place signs) {ns : List Node} {cs : List Char}
    (h : Spells place ns cs) (text : List Char) :
    Spells place (consText text ns) (text.flatMap (protectedChar signs) ++ cs) := by
  induction text with
  | nil => exact h
  | cons c text ih =>
    rw [consText_cons, List.flatMap_cons, List.append_assoc]
    by_cases hc : c = '\\' ∨ c ∈ signs
    · simpa [protectedChar, hc] using Spells.escaped ih
    · obtain ⟨hspecial, hafter⟩ := hsigns c (fun h => hc (.inl h)) (fun h => hc (.inr h))
      simpa [protectedChar, hc] using Spells.char hspecial hafter ih

theorem suffice_top : Suffice .top ['$', '@'] := by
  intro c hbackslash hc
  simp only [List.mem_cons, List.not_mem_nil, or_false, not_or] at hc
  exact ⟨by simp [isSpecial, hbackslash, hc], rfl⟩

theorem suffice_body : Suffice (.body 0) ['$', '@', '(', ')'] := by
  intro c hbackslash hc
  simp only [List.mem_cons, List.not_mem_nil, or_false, not_or] at hc
  obtain ⟨hdollar, hat, hopen, hclose⟩ := hc
  exact ⟨by simp [isSpecial, hbackslash, hdollar, hat], Grammar.Place.after?_other hopen hclose _⟩

/-! ## Through the pipeline -/

/-- Literal text opens no lanes. -/
theorem planFrom_consLiteral (depth : Int) (lanes : List Lane) (labels : List String) (c : Char)
    (ns : List Node) :
    Lanes.planFrom depth lanes labels (consLiteral c ns) =
      Lanes.planFrom depth lanes labels ns := by
  rcases consLiteral_cases c ns with ⟨text, ms, rfl, hc⟩ | ⟨-, hc⟩
  · rw [hc]
    rfl
  · rw [hc]
    rfl

theorem planFrom_consText (depth : Int) (lanes : List Lane) (labels : List String)
    (text : List Char) (ns : List Node) :
    Lanes.planFrom depth lanes labels (consText text ns) =
      Lanes.planFrom depth lanes labels ns := by
  induction text with
  | nil => rfl
  | cons c text ih => rw [consText_cons, planFrom_consLiteral, ih]

/-- A hidden name is the one lane of a group that writes literal text behind it. -/
theorem planLanes_hidden_consText (name : String) (text : List Char) (depth : Int) :
    planLanes (.hidden ⟨name, .none⟩ :: consText text []) depth =
      .ok [⟨name, laneKey name depth, false⟩] := by
  exact planFrom_consText depth _ _ text []

theorem intercalate_empty (texts : List String) : "".intercalate texts = String.join texts := by
  induction texts with
  | nil => rfl
  | cons text texts ih =>
    cases texts with
    | nil => simp
    | cons text' texts =>
      rw [String.intercalate_cons_cons, ih, String.append_empty, ← String.join_cons]

section Rounds

variable {env : Env} {name : String} {v : Value} {q : Sequence}

/-- In every round of such a group its text is written. -/
theorem outcome_round_hidden_consText (o : Options) (env : Env) (name : String) (text : List Char)
    {i : Nat} (hi : i < q.length) :
    let lane : Lane := ⟨name, laneKey name 1, false⟩
    (Render.round o (.hidden ⟨name, .none⟩ :: consText text []) 0 (.root env) [lane] [(lane, q)]
      i).outcome = .ok (String.ofList text) := by
  intro lane
  obtain ⟨v, hv⟩ := Option.isSome_iff_exists.mp ((Sequence.isSome_get? q i).mpr hi)
  have hlookup : (Render.roundScope (.root env) [lane] [(lane, q)] i).lookup name = .some v :=
    Render.lookup_roundScope_of_means (c := (lane, q)) (List.pairwise_singleton _ _) (by simp)
      (by simp) (by simp) (.inl rfl) hv
  rw [Render.outcome_round, Render.outcome_nodes_cons, Render.outcome_hidden,
    Scope.resolve_eq_ok.mpr hlookup]
  simp only [Except.map, Except.bind, Render.outcome_nodes_consText, Render.outcome_nodes_nil,
    String.append_empty, String.empty_append]

/-- A group that hides a name and writes literal text writes it as often as the sequence of the name
has elements. -/
theorem render_hidden_consText (o : Options) (hv : env name = .some v) (hq : v.sequence? = .some q)
    (text : List Char) :
    render o [.group (.hidden ⟨name, .none⟩ :: consText text []) .none] env =
      .ok (String.join (List.replicate q.length (String.ofList text))) := by
  have hb : Render.BindsLanes env [⟨name, laneKey name 1, false⟩] (fun _ => q) := by
    intro l hl
    obtain rfl := List.mem_singleton.mp hl
    exact ⟨v, hv, hq⟩
  have hn : Render.leastLength? [⟨name, laneKey name 1, false⟩] (fun _ => q) = .some q.length :=
    Render.leastLength?_of_forall (by simp) fun _ _ => rfl
  have htexts : (List.replicate q.length (String.ofList text)).length = q.length :=
    List.length_replicate
  have hrounds : ∀ i (hi : i < (List.replicate q.length (String.ofList text)).length),
      (Render.round o (.hidden ⟨name, .none⟩ :: consText text []) 0 (.root env)
        [⟨name, laneKey name 1, false⟩]
        (Render.columnsOver [⟨name, laneKey name 1, false⟩] fun _ => q) i).outcome =
        .ok (List.replicate q.length (String.ofList text))[i] := by
    intro i hi
    rw [List.getElem_replicate]
    exact outcome_round_hidden_consText o env name text (htexts ▸ hi)
  have hall := mapM_range_eq_ok hrounds
  rw [htexts] at hall
  rw [Render.render_group (planLanes_hidden_consText name text 1) hb hn (.inr fun _ _ _ _ => rfl),
    hall]
  simp only [Except.map, Option.getD_none, intercalate_empty]

end Rounds

theorem areKept_top : areKept ['$', '@'] = true := by decide

theorem areKept_body : areKept ['$', '@', '(', ')'] = true := by decide

/-- The source of quoted text spells the text. -/
theorem spells_quote (text : String) :
    Spells .top (consText text.toList []) (prepare (quote ['$', '@'] text)).toList := by
  have hdecoded := decodeChars_quoted areKept_top text.toList []
  rw [List.append_nil, decodeChars_nil] at hdecoded
  have hsource : (prepare (quote ['$', '@'] text)).toList =
      text.toList.flatMap (protectedChar ['$', '@']) ++ [] := by
    rw [← hdecoded]
    simp [prepare, Text.Escape.decode, quote]
  rw [hsource]
  exact spells_protected suffice_top (.nil rfl) text.toList

/-- The source of a group around quoted text spells a group around the text. -/
theorem spells_group_quote (text : String) :
    Spells .top [.group (.hidden ⟨"xs", .none⟩ :: consText text.toList []) .none]
      (prepare ("$(@\x7bxs\x7d" ++ quote ['$', '@', '(', ')'] text ++ ")*")).toList := by
  have hopen : '\\' ∉ "$(@\x7bxs\x7d".toList := by decide
  have hclose : decodeChars [')', '*'] = [')', '*'] := by decide
  have hdecoded := decodeChars_append_of_plain hopen
    (text.toList.flatMap (quotedChar ['$', '@', '(', ')']) ++ [')', '*'])
  rw [decodeChars_quoted areKept_body, hclose] at hdecoded
  have hsource : (prepare ("$(@\x7bxs\x7d" ++ quote ['$', '@', '(', ')'] text ++ ")*")).toList =
      "$(@\x7bxs\x7d".toList ++
        (text.toList.flatMap (protectedChar ['$', '@', '(', ')']) ++ [')', '*']) := by
    rw [← hdecoded]
    simp [prepare, Text.Escape.decode, quote]
  rw [hsource]
  have hname : Spells (.body 0) (.hidden ⟨"xs", .none⟩ :: consText text.toList [])
      ('@' :: ('{' :: ("xs".toList ++ ['}']) ++
        (text.toList.flatMap (protectedChar ['$', '@', '(', ')']) ++ []))) :=
    Spells.reference .atSign (.braced (by decide))
      (spells_protected suffice_body (.nil rfl) text.toList)
  have hend : Spells .top [] [] := .nil rfl
  simpa using Spells.group hname .without hend

/-- **Every text can be protected.** Quoted text is written as the text under all bindings and
options; in a group that repeats with a sequence, where parentheses are quoted too, it is written
once for each element of the sequence. -/
theorem format_quote (text : String) (env : Env) (o : Options) :
    format (quote ['$', '@'] text) env false o = .ok text ∧
    ∀ v q, env "xs" = .some v → v.sequence? = .some q →
      format ("$(@\x7bxs\x7d" ++ quote ['$', '@', '(', ')'] text ++ ")*") env false o =
        .ok (String.join (List.replicate q.length text)) := by
  constructor
  · rw [format_of_spells (spells_quote text) (by simp), render, renderTraced,
      Traced.outcome_bind_pure, Render.outcome_nodes_consText, Render.outcome_nodes_nil]
    simp only [Except.map, String.append_empty, String.ofList_toList]
    rfl
  · intro v q hv hq
    have hd : Node.nestingList [.group (.hidden ⟨"xs", .none⟩ :: consText text.toList []) .none] ≤
        o.maxDepth.groups := by
      have := o.maxDepth.pos
      simp [Node.nesting]
      omega
    rw [format_of_spells (spells_group_quote text) hd, render_hidden_consText o hv hq,
      String.ofList_toList]
    rfl

/-- Backslashes next to the letters of escapes, next to a sign and at the end, in a group with two
elements to repeat it. -/
theorem format_quote_backslashes :
    let text := "\\n\\\\x41 ($5)\\"
    let env : Env := fun name => if name = "xs" then .some (.range 0 2 1) else .none
    quote ['$', '@'] text = "\\\\\\\\n\\\\\\\\\\\\\\\\x41 (\\$5)\\\\\\\\" ∧
    format (quote ['$', '@'] text) env false {} = .ok text ∧
    format ("$(@\x7bxs\x7d" ++ quote ['$', '@', '(', ')'] text ++ ")*") env false {} =
      .ok (text ++ text) := by
  intro text env
  have h := format_quote text env {}
  exact ⟨by decide, h.1, h.2 (.range 0 2 1) (.numbers 0 1 2) rfl rfl⟩

end Lockstep
