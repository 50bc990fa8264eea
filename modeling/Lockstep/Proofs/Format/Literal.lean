/-
Literal text from raw text to what is written. Where the source, its escapes
decoded, refers to nothing, it is written under all bindings and options the
same: without the backslashes that protect a character (`literalText?`). So
what is written is the source itself just if no character of it is special
(`format_literal`).

The reader puts one character after the other in front of what follows
(`Grammar.consText`), and rendering gives them back in this order.
-/
import Lockstep.Format
import Lockstep.Proofs.Render.Outcome
import Lockstep.Proofs.Template.Canonical

namespace Lockstep

open Grammar (Place Spells consLiteral consLiteral_cases isSpecial)

/-! ## Text in front of nodes -/

namespace Grammar

/-- The nodes with a text in front of them, in their first literal if they begin with one. -/
def consText (text : List Char) (ns : List Node) : List Node :=
  text.foldr consLiteral ns

@[simp] theorem consText_nil (ns : List Node) : consText [] ns = ns := rfl

@[simp] theorem consText_cons (c : Char) (text : List Char) (ns : List Node) :
    consText (c :: text) ns = consLiteral c (consText text ns) := rfl

@[simp] theorem nestingList_consText (text : List Char) (ns : List Node) :
    Node.nestingList (consText text ns) = Node.nestingList ns := by
  induction text with
  | nil => rfl
  | cons c text ih => rw [consText_cons, nestingList_consLiteral, ih]

end Grammar

open Grammar (consText consText_nil consText_cons nestingList_consText)

namespace Render

/-- A character in front of nodes is written in front of what they write. -/
theorem outcome_nodes_consLiteral (o : Options) (c : Char) (ns : List Node) (depth : Nat)
    (s : Scope) :
    (nodes o (consLiteral c ns) depth s).outcome =
      (nodes o ns depth s).outcome.map fun p => (String.singleton c ++ p.1, p.2) := by
  rcases consLiteral_cases c ns with ⟨text, ms, rfl, hc⟩ | ⟨-, hc⟩
  · rw [hc, outcome_nodes_cons, outcome_nodes_cons, outcome_literal, outcome_literal]
    simp only [Except.bind, map_map, String.append_assoc]
  · rw [hc, outcome_nodes_cons, outcome_literal]
    rfl

/-- **Literal text is written as it is**, in front of what the nodes behind it write. -/
theorem outcome_nodes_consText (o : Options) (text : List Char) (ns : List Node) (depth : Nat)
    (s : Scope) :
    (nodes o (consText text ns) depth s).outcome =
      (nodes o ns depth s).outcome.map fun p => (String.ofList text ++ p.1, p.2) := by
  induction text with
  | nil => cases h : (nodes o ns depth s).outcome <;> simp [h, Except.map]
  | cons c text ih =>
    rw [consText_cons, outcome_nodes_consLiteral, ih, map_map]
    congr 1
    funext p
    simp only [Prod.mk.injEq, and_true]
    rw [← String.toList_inj]
    simp

end Render

/-! ## Sources that refer to nothing -/

/-- What a source that refers to nothing stands for: its characters, and behind each backslash the
character that it protects. -/
def literalText? : List Char → Option (List Char)
  | [] => .some []
  | '\\' :: c :: cs => (literalText? cs).map (c :: ·)
  | c :: cs => if isSpecial c then .none else (literalText? cs).map (c :: ·)

theorem literalText?_of_plain {c : Char} (hc : isSpecial c = false) (cs : List Char) :
    literalText? (c :: cs) = (literalText? cs).map (c :: ·) := by
  have hne : c ≠ '\\' := by
    rintro rfl
    cases hc
  simp [literalText?, hne, hc]

theorem literalText?_escaped (c : Char) (cs : List Char) :
    literalText? ('\\' :: c :: cs) = (literalText? cs).map (c :: ·) := by
  simp only [literalText?]

/-- No character is made out of nothing. -/
theorem length_literalText? {cs text : List Char} (h : literalText? cs = .some text) :
    text.length ≤ cs.length := by
  fun_induction literalText? cs generalizing text with
  | case1 =>
    cases h
    exact Nat.le_refl 0
  | case2 c cs ih =>
    obtain ⟨text, htext, rfl⟩ := Option.map_eq_some_iff.mp h
    have := ih htext
    simp only [List.length_cons]
    omega
  | case3 => cases h
  | case4 c cs _ _ ih =>
    obtain ⟨text, htext, rfl⟩ := Option.map_eq_some_iff.mp h
    exact Nat.succ_le_succ (ih htext)

/-- **A source stands for itself just if no character of it is special**: each backslash that
protects a character makes the text shorter. -/
theorem literalText?_eq_self {cs : List Char} :
    literalText? cs = .some cs ↔ ∀ c ∈ cs, isSpecial c = false := by
  fun_induction literalText? cs with
  | case1 => simp
  | case2 c cs _ =>
    constructor
    · intro h
      obtain ⟨text, htext, hself⟩ := Option.map_eq_some_iff.mp h
      have hlength := congrArg List.length hself
      have hle := length_literalText? htext
      simp only [List.length_cons] at hlength
      omega
    · intro h
      have hbackslash := h '\\' List.mem_cons_self
      cases hbackslash
  | case3 c cs _ hspecial =>
    constructor
    · nofun
    · intro h
      rw [h c List.mem_cons_self] at hspecial
      cases hspecial
  | case4 c cs _ hspecial ih =>
    rw [List.forall_mem_cons, ← ih]
    simp [hspecial]

/-- What a source stands for is what it spells. -/
theorem spells_of_literalText? {cs text : List Char} (h : literalText? cs = .some text) :
    Spells .top (consText text []) cs := by
  fun_induction literalText? cs generalizing text with
  | case1 =>
    cases h
    exact .nil rfl
  | case2 c cs ih =>
    obtain ⟨text, htext, rfl⟩ := Option.map_eq_some_iff.mp h
    exact .escaped (ih htext)
  | case3 => cases h
  | case4 c cs _ hspecial ih =>
    obtain ⟨text, htext, rfl⟩ := Option.map_eq_some_iff.mp h
    exact .char (by simpa using hspecial) rfl (ih htext)

theorem isLiteral_of_consLiteral {c : Char} {ns : List Node}
    (h : ∀ n ∈ consLiteral c ns, n.isLiteral = true) : ∀ n ∈ ns, n.isLiteral = true := by
  rcases consLiteral_cases c ns with ⟨text, ms, rfl, hc⟩ | ⟨-, hc⟩
  · rw [hc] at h
    intro n hn
    rcases List.mem_cons.mp hn with rfl | hn
    · rfl
    · exact h n (List.mem_cons_of_mem _ hn)
  · rw [hc] at h
    exact fun n hn => h n (List.mem_cons_of_mem _ hn)

/-- Only a source that refers to nothing spells literal text alone. -/
theorem exists_literalText? {place : Place} {ns : List Node} {cs : List Char}
    (h : Spells place ns cs) (hns : ∀ n ∈ ns, n.isLiteral = true) :
    ∃ text, literalText? cs = .some text := by
  induction h with
  | nil => exact ⟨[], rfl⟩
  | @char _ _ c ns cs hc _ _ ih =>
    obtain ⟨text, htext⟩ := ih (isLiteral_of_consLiteral hns)
    exact ⟨c :: text, by rw [literalText?_of_plain hc, htext, Option.map_some]⟩
  | @escaped _ c ns cs _ ih =>
    obtain ⟨text, htext⟩ := ih (isLiteral_of_consLiteral hns)
    exact ⟨c :: text, by rw [literalText?_escaped, htext, Option.map_some]⟩
  | reference s =>
    have hreference := hns _ List.mem_cons_self
    cases s <;> cases hreference
  | group =>
    have hgroup := hns _ List.mem_cons_self
    cases hgroup

namespace Reader

variable {b : Body} {cs text : List Char}

/-- The reader comes to the end of a source that refers to nothing, and can go on there. -/
theorem run_of_literalText? (limit : Nat) (h : literalText? cs = .some text)
    (hb : Stands .top b []) (p : Nat) (k : List Char) :
    ∃ b', run limit ⟨b, [], .text, p⟩ (cs ++ k) = run limit ⟨b', [], .text, p + cs.length⟩ k := by
  fun_induction literalText? cs generalizing text b p with
  | case1 => exact ⟨b, rfl⟩
  | case2 c cs ih =>
    obtain ⟨text, htext, -⟩ := Option.map_eq_some_iff.mp h
    obtain ⟨b', hb'⟩ := ih htext (hb.push c) (p + 1 + 1)
    refine ⟨b', ?_⟩
    rw [List.cons_append, List.cons_append, run_of_step (step_escape b [] p),
      run_of_step (step_escaped b [] c (p + 1)), hb', List.length_cons, List.length_cons]
    congr 2
    omega
  | case3 => cases h
  | case4 c cs _ hspecial ih =>
    obtain ⟨text, htext, -⟩ := Option.map_eq_some_iff.mp h
    have hplain : isSpecial c = false := by simpa using hspecial
    obtain ⟨b', hb'⟩ := ih htext (hb.after (c := c) rfl) (p + 1)
    refine ⟨b', ?_⟩
    rw [List.cons_append, run_of_step (step_char hb hplain rfl p), hb', List.length_cons]
    congr 2
    omega

/-- A backslash at the end of a source that refers to nothing protects nothing. -/
theorem readTemplate_of_dangling (limit : Nat) {source : String}
    (hsource : source.toList = cs ++ ['\\']) (h : literalText? cs = .some text) :
    readTemplate limit source = .error (.malformed .danglingEscape cs.length) := by
  obtain ⟨b, hb⟩ := run_of_literalText? limit h (b := {}) ⟨by simp, rfl⟩ 0 ['\\']
  rw [run_of_step (step_escape b [] _), run_nil] at hb
  rw [readTemplate, readChars, hsource]
  refine hb.trans ?_
  simp [finish]

end Reader

/-! ## Nothing bound -/

namespace Render

variable {o : Options} {depth : Nat} {s : Scope}

/-- Where no name means anything a group has no columns. -/
theorem columns_of_unbound (hs : ∀ m, s.lookup m = .none) {lanes : List Lane} (hne : lanes ≠ [])
    (cs : List Column) : columns s lanes ≠ .ok cs := by
  intro h
  cases lanes with
  | nil => exact hne rfl
  | cons l lanes =>
    rw [columns] at h
    split at h
    · next c hc =>
      obtain ⟨-, v, hv, -⟩ := column_eq_ok hc
      rw [hs] at hv
      cases hv
    · cases h

/-- Where no name means anything nothing but literal text is written. -/
theorem isLiteral_of_node (hs : ∀ m, s.lookup m = .none) {n : Node} {text : String} {s' : Scope}
    (h : (node o n depth s).outcome = .ok (text, s')) : n.isLiteral = true := by
  cases n with
  | literal text => rfl
  | shown r =>
    obtain ⟨v, hv⟩ := lookup_of_node rfl h
    rw [hs] at hv
    cases hv
  | hidden r =>
    obtain ⟨v, hv⟩ := lookup_of_node rfl h
    rw [hs] at hv
    cases hv
  | group children sep =>
    rw [outcome_group, groupText] at h
    obtain ⟨text, h, -⟩ := map_eq_ok.mp h
    split at h
    · cases h
    · obtain ⟨lanes, -, h⟩ := bind_eq_ok.mp h
      split at h
      · cases h
      · next hlanes =>
        obtain ⟨cs, hcs, -⟩ := bind_eq_ok.mp h
        refine absurd hcs (columns_of_unbound hs ?_ cs)
        rintro rfl
        exact hlanes rfl
  | foreign kind =>
    rw [outcome_foreign] at h
    cases h

theorem isLiteral_of_nodes (hs : ∀ m, s.lookup m = .none) {ns : List Node} {text : String}
    {s' : Scope} (h : (nodes o ns depth s).outcome = .ok (text, s')) :
    ∀ n ∈ ns, n.isLiteral = true := by
  induction ns generalizing text s' with
  | nil => nofun
  | cons n ns ih =>
    rw [outcome_nodes_cons] at h
    obtain ⟨⟨before, u⟩, hn, h⟩ := bind_eq_ok.mp h
    obtain ⟨⟨rest, u'⟩, hns, -⟩ := map_eq_ok.mp h
    have hliteral := isLiteral_of_node hs hn
    have hu : u = s := by
      rw [scope_of_node hn]
      cases n with
      | literal text => rfl
      | shown | hidden | group | foreign => cases hliteral
    rw [hu] at hns
    exact List.forall_mem_cons.mpr ⟨hliteral, ih hns⟩

end Render

/-! ## Formatting -/

section Formatting

variable {raw : String} {unindented : Bool} {o : Options} {env : Env}

/-- What is read of the source is rendered. -/
theorem format_of_read {source : String} {ns : List Node} (hsource : prepare raw unindented = source)
    (h : readTemplate o.maxDepth.groups source = .ok ns) :
    format raw env unindented o = (render o ns env).mapError .render := by
  simp only [format, Template.ofRaw, compile, hsource, h, Template.render]
  cases render o ns env <;> rfl

/-- What the source spells is rendered, if it nests no deeper than the limit. -/
theorem format_of_spells {ns : List Node} (h : Spells .top ns (prepare raw unindented).toList)
    (hd : Node.nestingList ns ≤ o.maxDepth.groups) :
    format raw env unindented o = (render o ns env).mapError .render :=
  format_of_read rfl (Reader.readTemplate_of_spells h hd)

theorem spells_of_format {text : String} (h : format raw env unindented o = .ok text) :
    ∃ ns, Spells .top ns (prepare raw unindented).toList ∧ render o ns env = .ok text := by
  unfold format Template.ofRaw compile at h
  cases hread : readTemplate o.maxDepth.groups (prepare raw unindented) with
  | error e =>
    simp only [hread] at h
    cases h
  | ok ns =>
    simp only [hread, Template.render] at h
    refine ⟨ns, (Reader.spells_of_readTemplate hread).1, ?_⟩
    cases hrender : render o ns env with
    | error e =>
      rw [hrender] at h
      cases h
    | ok written =>
      rw [hrender] at h
      cases h
      rfl

/-- A source that refers to nothing is written as what it stands for. -/
theorem format_of_literalText? {text : List Char}
    (h : literalText? (prepare raw unindented).toList = .some text) (env : Env) (o : Options) :
    format raw env unindented o = .ok (String.ofList text) := by
  have hd : Node.nestingList (consText text []) ≤ o.maxDepth.groups := by simp
  rw [format_of_spells (spells_of_literalText? h) hd, render, renderTraced,
    Traced.outcome_bind_pure, Render.outcome_nodes_consText, Render.outcome_nodes_nil]
  simp only [Except.map, String.append_empty]
  rfl

theorem literalText?_of_format {text : String}
    (h : format raw (fun _ => .none) unindented o = .ok text) :
    ∃ text', literalText? (prepare raw unindented).toList = .some text' := by
  obtain ⟨ns, hspells, hrender⟩ := spells_of_format h
  rw [render, renderTraced, Traced.outcome_bind_pure] at hrender
  obtain ⟨⟨written, s⟩, hnodes, -⟩ := map_eq_ok.mp hrender
  exact exists_literalText? hspells
    (Render.isLiteral_of_nodes (fun m => Scope.lookup_root _ m) hnodes)

theorem format_of_dangling {before text : List Char}
    (hsource : (prepare raw unindented).toList = before ++ ['\\'])
    (h : literalText? before = .some text) (env : Env) (o : Options) :
    format raw env unindented o =
      .error (.read (prepare raw unindented) (.malformed .danglingEscape before.length)) := by
  have hread := Reader.readTemplate_of_dangling o.maxDepth.groups hsource h
  simp only [format, Template.ofRaw, compile, hread]

end Formatting

/-- **Where raw text is written as its source.** Let the source be the raw text with its escapes
decoded. It is written as it is under all bindings and options just if it holds no backslash, `$` or
`@`. If each of these stands behind a backslash that protects it, it is written without the
backslashes that protect; these are the sources that can be written where nothing is bound. A
backslash with nothing behind it is an error at its position. -/
theorem format_literal (raw : String) (unindented : Bool) :
    ((∀ env o, format raw env unindented o = .ok (prepare raw unindented)) ↔
      ∀ c ∈ (prepare raw unindented).toList, c ≠ '\\' ∧ c ≠ '$' ∧ c ≠ '@') ∧
    (∀ text, literalText? (prepare raw unindented).toList = .some text →
      ∀ env o, format raw env unindented o = .ok (String.ofList text)) ∧
    ((∃ o text, format raw (fun _ => .none) unindented o = .ok text) ↔
      ∃ text, literalText? (prepare raw unindented).toList = .some text) ∧
    (∀ before text, (prepare raw unindented).toList = before ++ ['\\'] →
      literalText? before = .some text →
      ∀ env o, format raw env unindented o =
        .error (.read (prepare raw unindented) (.malformed .danglingEscape before.length))) := by
  have hplain : (∀ c ∈ (prepare raw unindented).toList, c ≠ '\\' ∧ c ≠ '$' ∧ c ≠ '@') ↔
      literalText? (prepare raw unindented).toList = .some (prepare raw unindented).toList := by
    rw [literalText?_eq_self]
    simp [isSpecial, and_assoc]
  refine ⟨⟨fun h => ?_, fun h env o => ?_⟩, fun text h => format_of_literalText? h,
    ⟨?_, ?_⟩, fun before text hsource h => format_of_dangling hsource h⟩
  · -- Under no bindings the source stands for what is written, which is the source.
    have hself := h (fun _ => .none) {}
    obtain ⟨text, htext⟩ := literalText?_of_format hself
    rw [format_of_literalText? htext, Except.ok.injEq] at hself
    have hchars : text = (prepare raw unindented).toList := by rw [← hself, String.toList_ofList]
    rw [hchars] at htext
    exact hplain.mpr htext
  · rw [format_of_literalText? (hplain.mp h), String.ofList_toList]
  · rintro ⟨o, text, h⟩
    exact literalText?_of_format h
  · rintro ⟨text, h⟩
    exact ⟨{}, _, format_of_literalText? h _ _⟩

/-- Escapes of several kinds, with a parenthesis that is text outside of groups; a sign that is
protected, next to a backslash that is; and a backslash that has nothing to protect. -/
theorem format_literal_price :
    (∀ env o, format "no (sigils),\\t\\x41" env false o = .ok "no (sigils),\tA") ∧
    (∀ env o, format "\\x41 \\$5 \\\\\\\\" env false o = .ok "A $5 \\") ∧
    (∃ o text, format "\\x41 \\$5 \\\\\\\\" (fun _ => .none) false o = .ok text) ∧
    (∀ env o, format "a\\" env false o = .error (.read "a\\" (.malformed .danglingEscape 1))) := by
  have hsource : prepare "no (sigils),\\t\\x41" = "no (sigils),\tA" := by decide
  have hplain : ∀ c ∈ (prepare "no (sigils),\\t\\x41").toList, c ≠ '\\' ∧ c ≠ '$' ∧ c ≠ '@' := by
    rw [hsource]
    simp
  have hprotected : literalText? (prepare "\\x41 \\$5 \\\\\\\\").toList =
      .some ['A', ' ', '$', '5', ' ', '\\'] := by decide
  refine ⟨(format_literal "no (sigils),\\t\\x41" false).1.mpr hplain,
    (format_literal "\\x41 \\$5 \\\\\\\\" false).2.1 _ hprotected,
    (format_literal "\\x41 \\$5 \\\\\\\\" false).2.2.1.mpr ⟨_, hprotected⟩,
    (format_literal "a\\" false).2.2.2 ['a'] ['a'] (by decide) (by decide)⟩

/-- Not all raw text without a sigil is written with its escapes decoded: a backslash that stays when
they are decoded protects the parenthesis behind it, and is not written. -/
theorem not_format_decode :
    ¬ ∀ raw : String, '$' ∉ raw.toList → '@' ∉ raw.toList →
      ∀ env o, format raw env false o = .ok (Text.Escape.decode raw) := by
  intro h
  have hdecoded := h "a\\(b" (by decide) (by decide) (fun _ => .none) {}
  have hwritten : format "a\\(b" (fun _ => .none) false {} = .ok (String.ofList ['a', '(', 'b']) :=
    format_of_literalText? (by decide) _ _
  rw [hwritten, Except.ok.injEq] at hdecoded
  revert hdecoded
  decide

end Lockstep
