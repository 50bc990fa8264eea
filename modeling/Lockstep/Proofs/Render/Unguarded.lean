/-
Rendering without any precautions. Elements are fetched by their positions
whether or not they are there, the lengths of a group are kept by the names of
its lanes and the least and the greatest of them are taken whether or not there
are any, and the host is asked for lengths and texts that it may not have. All
of this can break a rendering off (`Break`).

It never does, if the host has the lengths and texts of what is bound
(`Host.Offers`): such a rendering ends as one that takes precautions
(`Unguarded.nodes_eq`). Where the lengths are compared there are lanes, no two
of one name; no round begins that a column has no element for; and what a scope
keeps was bound by the environment or is an element of what was
(`Unguarded.Offered`).
-/
import Lockstep.Proofs.Render.Outcome
import Lockstep.Proofs.Table

namespace Lockstep

/-- Why a rendering without precautions ends early. -/
inductive Break where
  /-- An error that is told. -/
  | told (e : RenderError)
  /-- No value is kept under the key. -/
  | noKey (key : String)
  /-- A sequence has no element at the position. -/
  | noElement (i : Nat)
  /-- Of no lengths none is the least or the greatest. -/
  | noLengths
  /-- A sequence has no length that could be told. -/
  | noLength
  /-- A value cannot be written. -/
  | noText

/-- What the host makes of sequences and of scalars. -/
structure Host where
  length? : Sequence → Option Nat
  text? : Value → Option String

/-- The host has the text of the scalar, or the length of the sequence and all that its elements
need. -/
inductive Host.Offers (host : Host) : Value → Prop
  | scalar {v : Value} : v.sequence? = .none → host.text? v = .some v.toText → host.Offers v
  | sequence {v : Value} {q : Sequence} : v.sequence? = .some q →
      host.length? q = .some q.length → (∀ x ∈ q.toList, host.Offers x) → host.Offers v

/-! ## The rendering -/

namespace Unguarded

open Render (Column)

def orBreak {α : Type} (b : Break) : Option α → Except Break α
  | .some a => .ok a
  | .none => .error b

/-- What a key is bound to. -/
def read (s : Scope) (key : String) : Except Break Value :=
  orBreak (.noKey key) (s.valueAt key)

/-- What a name means. That there is no such key is told as a name without a meaning. -/
def resolve (s : Scope) (name : String) : Except Break Value :=
  match read s (s.keyFor name) with
  | .error (.noKey _) => .error (.told (.missing [name]))
  | x => x

def column (s : Scope) (l : Lane) : Except Break Column := do
  let v ← resolve s l.name
  match v.sequence? with
  | .some q => return (l, q)
  | .none => .error (.told (.mismatch l.name .sequence v.kind))

def columns (s : Scope) : List Lane → Except Break (List Column)
  | [] => .ok []
  | l :: ls => do
    let c ← column s l
    let cs ← columns s ls
    return c :: cs

/-- The names of the columns' lanes with the lengths that the host tells. -/
def entries (host : Host) : List Column → Except Break (List (String × Nat))
  | [] => .ok []
  | c :: cs => do
    let length ← orBreak .noLength (host.length? c.2)
    let rest ← entries host cs
    return (c.1.name, length) :: rest

/-- How often a group repeats: as often as the least of the lengths says. These are kept by the
names of the lanes. -/
def count (host : Host) (policy : LengthPolicy) (cs : List Column) : Except Break Nat := do
  let lengths := Table.ofList (← entries host cs)
  let least ← orBreak .noLengths (lengths.entries.map (·.2)).min?
  let greatest ← orBreak .noLengths (lengths.entries.map (·.2)).max?
  if least ≠ greatest ∧ policy = .strict then .error (.told (.unequal lengths.entries))
  else return least

/-- Keeps the elements at position `i` under the keys of their lanes. -/
def setElements (s : Scope) (i : Nat) : List Column → Except Break Scope
  | [] => .ok s
  | c :: cs => do
    let v ← orBreak (.noElement i) (c.2.get? i)
    setElements (s.set c.1.key v) i cs

/-- What a group writes, given what its children write in the scope of a round. -/
def groupText (host : Host) (o : Options) (children : List Node) (separator : Option String)
    (depth : Nat) (s : Scope) (round : Scope → Except Break String) : Except Break String := do
  if o.maxDepth.groups < depth + 1 then .error (.told (.tooDeep o.maxDepth.groups))
  else
    let lanes ← (planLanes children (depth + 1 : Nat)).mapError .told
    if lanes.isEmpty then .error (.told .noLanes)
    else
      let cs ← columns s lanes
      let n ← count host o.lengthPolicy cs
      let inner := Render.nameLanes s.child lanes
      let texts ← (List.range n).mapM fun i => do
        let u ← setElements inner i cs
        round u.child
      return (separator.getD "").intercalate texts

mutual
/-- What a node writes at a depth, and the scope of what follows it. -/
def node (host : Host) (o : Options) : Node → Nat → Scope → Except Break (String × Scope)
  | .literal text, _, s => return (text, s)
  | .shown r, _, s => do
    let v ← resolve s r.name
    if v.isSequence then .error (.told (.mismatch r.name .scalar v.kind))
    else
      let text ← orBreak .noText (host.text? v)
      return (text, s.bindReference r v)
  | .hidden r, _, s => do
    let v ← resolve s r.name
    return ("", s.bindReference r v)
  | .group children separator, depth, s => do
    let text ← groupText host o children separator depth s fun u => do
      let (text, _) ← nodes host o children (depth + 1) u
      return text
    return (text, s)
  | .foreign kind, _, _ => .error (.told (.foreign kind))

/-- What nodes write one after the other, and the scope of what follows them. -/
def nodes (host : Host) (o : Options) : List Node → Nat → Scope → Except Break (String × Scope)
  | [], _, s => return ("", s)
  | n :: ns, depth, s => do
    let (text, s') ← node host o n depth s
    let (rest, s'') ← nodes host o ns depth s'
    return (text ++ rest, s'')
end

/-- Rendering a template without precautions. -/
def render (host : Host) (o : Options) (template : List Node) (env : Env)
    (aliases : Table String := ∅) : Except Break String := do
  let (text, _) ← nodes host o template 0 (.root env aliases)
  return text

/-! ## Names and columns -/

variable {host : Host} {o : Options} {policy : LengthPolicy} {s : Scope} {lanes : List Lane}
  {cs : List Column} {c : Column} {ns children : List Node} {sep : Option String} {n : Node}
  {depth i : Nat} {r : Reference} {v : Value}

theorem resolve_eq (s : Scope) (name : String) :
    resolve s name = (s.resolve name).mapError .told := by
  rw [resolve, read, Scope.resolve, Scope.lookup]
  cases s.valueAt (s.keyFor name) <;> rfl

theorem column_eq (s : Scope) (l : Lane) : column s l = (Render.column s l).mapError .told := by
  rw [column, resolve_eq, Render.column]
  cases s.resolve l.name with
  | error e => rfl
  | ok v =>
    simp only [Except.mapError, bind, Except.bind]
    cases v.sequence? <;> rfl

theorem columns_eq (s : Scope) (lanes : List Lane) :
    columns s lanes = (Render.columns s lanes).mapError .told := by
  induction lanes with
  | nil => rfl
  | cons l lanes ih =>
    rw [columns, column_eq, ih, Render.columns]
    cases Render.column s l with
    | error e => rfl
    | ok c => cases Render.columns s lanes <;> rfl

/-! ## Lengths -/

/-- The host has the length of the column, and all that its elements need. -/
structure OffersColumn (host : Host) (c : Column) : Prop where
  length : host.length? c.2 = .some c.2.length
  elements : ∀ x ∈ c.2.toList, host.Offers x

theorem entries_eq (h : ∀ c ∈ cs, OffersColumn host c) :
    entries host cs = .ok (Render.zip cs).lengths := by
  induction cs with
  | nil => rfl
  | cons c cs ih =>
    rw [entries, (h c List.mem_cons_self).length, ih fun c hc => h c (List.mem_cons_of_mem _ hc)]
    rfl

/-- Numbers are not all the least of them exactly if that is not the greatest. -/
theorem exists_ne_min_iff {lengths : List Nat} {least greatest : Nat}
    (hmin : lengths.min? = .some least) (hmax : lengths.max? = .some greatest) :
    (∃ n ∈ lengths, n ≠ least) ↔ least ≠ greatest := by
  obtain ⟨-, hle⟩ := List.min?_eq_some_iff.mp hmin
  obtain ⟨hmem, hge⟩ := List.max?_eq_some_iff.mp hmax
  constructor
  · rintro ⟨n, hn, hne⟩ rfl
    exact hne (Nat.le_antisymm (hge n hn) (hle n hn))
  · exact fun hne => ⟨greatest, hmem, hne.symm⟩

theorem map_lengths_zip (cs : List Column) :
    (Render.zip cs).lengths.map (·.2) = cs.map (·.2.length) := by
  rw [Render.zip, List.map_map]
  rfl

/-- Columns are not equally long exactly if the least and the greatest of their lengths differ. -/
theorem isUneven_iff {least greatest : Nat} (hmin : (cs.map (·.2.length)).min? = .some least)
    (hmax : (cs.map (·.2.length)).max? = .some greatest) :
    (Render.zip cs).isUneven = true ↔ least ≠ greatest := by
  have hshortest : (Render.zip cs).count = least := by
    rw [Render.zip, Render.shortest, hmin, Option.getD_some]
  have hany : (Render.zip cs).isUneven = (cs.map (·.2.length)).any (· != least) := by
    rw [← map_lengths_zip, List.any_map, ← hshortest]
    rfl
  rw [hany, List.any_eq_true, ← exists_ne_min_iff hmin hmax]
  simp only [bne_iff_ne]

/-- **The least and the greatest length are taken of some, and every lane counts**, because a group
has lanes and their names differ. -/
theorem count_eq (policy : LengthPolicy) (h : ∀ c ∈ cs, OffersColumn host c) (hsome : cs ≠ [])
    (hnames : (cs.map (·.1.name)).Nodup) :
    count host policy cs = (Render.count policy cs).outcome.mapError .told := by
  have hentries : (Table.ofList (Render.zip cs).lengths).entries = (Render.zip cs).lengths := by
    apply Table.entries_ofList
    rw [Render.zip, List.map_map]
    exact hnames
  have hne : cs.map (·.2.length) ≠ [] := by simpa using hsome
  obtain ⟨least, hmin⟩ := Option.isSome_iff_exists.mp (List.isSome_min?_of_ne_nil hne)
  obtain ⟨greatest, hmax⟩ := Option.isSome_iff_exists.mp (List.isSome_max?_of_ne_nil hne)
  have hguard : ((Render.zip cs).isUneven && policy == .strict) = true ↔
      least ≠ greatest ∧ policy = .strict := by
    rw [Bool.and_eq_true, isUneven_iff hmin hmax, beq_iff_eq]
  rw [count, entries_eq h, Render.outcome_count]
  show (Except.bind (orBreak .noLengths _) fun least => _) = _
  rw [hentries, map_lengths_zip, hmin, hmax]
  show (if least ≠ greatest ∧ policy = .strict then _ else _) = _
  by_cases hrefused : least ≠ greatest ∧ policy = .strict
  · rw [if_pos hrefused, if_pos (hguard.mpr hrefused)]
    rfl
  · rw [if_neg hrefused, if_neg (mt hguard.mp hrefused), Render.shortest, hmin]
    rfl

/-! ## Elements -/

/-- No column is left without an element. -/
theorem setElements_eq (s : Scope) (h : ∀ c ∈ cs, (c.2.get? i).isSome = true) :
    setElements s i cs = .ok (Render.setElements s cs i) := by
  induction cs generalizing s with
  | nil => rfl
  | cons c cs ih =>
    obtain ⟨v, hv⟩ := Option.isSome_iff_exists.mp (h c List.mem_cons_self)
    have hset : Render.setElement i s c = s.set c.1.key v := by rw [Render.setElement, hv]
    rw [setElements, hv, Render.setElements_cons, hset]
    exact ih _ fun c hc => h c (List.mem_cons_of_mem _ hc)

/-! ## What scopes keep -/

/-- The host has what the values need that are kept in the scope, or below it. -/
def Offered (host : Host) (s : Scope) : Prop :=
  ∀ key v, s.valueAt key = .some v → host.Offers v

namespace Offered

theorem root {env : Env} (h : ∀ name v, env name = .some v → host.Offers v)
    (aliases : Table String) : Offered host (.root env aliases) := by
  intro key v hv
  rw [Scope.valueAt_eq, Scope.stored?_root, Option.none_or] at hv
  exact h key v hv

theorem lookup (h : Offered host s) {m : String} (hv : s.lookup m = .some v) : host.Offers v :=
  h _ v hv

theorem set (h : Offered host s) (key : String) (hv : host.Offers v) :
    Offered host (s.set key v) := by
  intro k w hw
  rw [Scope.valueAt_set] at hw
  split at hw
  · cases hw
    exact hv
  · exact h k w hw

theorem bindReference (h : Offered host s) (r : Reference) (hv : host.Offers v) :
    Offered host (s.bindReference r v) := by
  cases hr : r.bound with
  | none =>
    rw [Scope.bindReference_eq_self hr]
    exact h
  | some a =>
    rw [Scope.bindReference_eq_bind hr, Scope.bind_eq]
    exact Offered.set (fun key => h key) a hv

theorem nameLanes (h : Offered host s) (lanes : List Lane) :
    Offered host (Render.nameLanes s lanes) := by
  intro key v hv
  rw [Scope.valueAt_eq, Render.stored?_nameLanes, Render.env_nameLanes, ← Scope.valueAt_eq] at hv
  exact h key v hv

theorem setElements (h : Offered host s) (hcs : ∀ c ∈ cs, OffersColumn host c) (i : Nat) :
    Offered host (Render.setElements s cs i) := by
  induction cs generalizing s with
  | nil => exact h
  | cons c cs ih =>
    rw [Render.setElements_cons]
    refine ih ?_ fun c hc => hcs c (List.mem_cons_of_mem _ hc)
    unfold Render.setElement
    split
    · next v hv =>
      rw [← Sequence.getElem?_toList] at hv
      exact h.set _ ((hcs c List.mem_cons_self).elements v (List.mem_of_getElem? hv))
    · exact h

theorem roundScope (h : Offered host s) (lanes : List Lane)
    (hcs : ∀ c ∈ cs, OffersColumn host c) (i : Nat) :
    Offered host (Render.roundScope s lanes cs i) := by
  have hchild : Offered host s.child := fun key => h key
  have hround := (hchild.nameLanes lanes).setElements hcs i
  exact fun key => hround key

theorem columns (h : Offered host s) (hcs : Render.columns s lanes = .ok cs) (hc : c ∈ cs) :
    OffersColumn host c := by
  obtain ⟨v, hv, hq⟩ := Render.lookup_of_columns hcs hc
  cases h.lookup hv with
  | scalar hnone => rw [hq] at hnone; cases hnone
  | sequence hq' hlength helements =>
    rw [hq] at hq'
    cases hq'
    exact ⟨hlength, helements⟩

theorem text (h : Offered host s) {m : String} (hv : s.lookup m = .some v)
    (hscalar : v.isSequence = false) : host.text? v = .some v.toText := by
  cases h.lookup hv with
  | scalar _ htext => exact htext
  | sequence hq => rw [Value.isSequence, hq] at hscalar; cases hscalar

end Offered

/-! ## Nothing breaks off -/

/-- What goes on in the same way from the same result comes to the same end. -/
theorem bind_told {α β : Type} {x : Except Break α} {y : Except RenderError α}
    {f : α → Except Break β} {g : α → Except RenderError β} (h : x = y.mapError .told)
    (hfg : ∀ a, y = .ok a → f a = (g a).mapError .told) :
    x >>= f = (y.bind g).mapError .told := by
  rw [h]
  cases y with
  | error e => rfl
  | ok a => exact hfg a rfl

theorem map_told {α β : Type} {x : Except Break α} {y : Except RenderError α} (f : α → β)
    (h : x = y.mapError .told) : x >>= (fun a => pure (f a)) = (y.map f).mapError .told := by
  rw [h]
  cases y <;> rfl

theorem node_shown_eq (h : Offered host s) (r : Reference) (depth : Nat) :
    node host o (.shown r) depth s =
      (Render.node o (.shown r) depth s).outcome.mapError .told := by
  rw [node, Render.outcome_shown]
  refine bind_told (resolve_eq s r.name) fun v hv => ?_
  cases hscalar : v.isSequence with
  | true => rfl
  | false =>
    rw [h.text (Scope.resolve_eq_ok.mp hv) hscalar]
    rfl

/-- **A group breaks off nowhere, if its rounds do not.** -/
theorem groupText_eq (h : Offered host s) {round : Scope → Except Break String}
    (hround : ∀ lanes cs i, (∀ c ∈ cs, OffersColumn host c) →
      round (Render.roundScope s lanes cs i) =
        (Render.round o children depth s lanes cs i).outcome.mapError .told) :
    groupText host o children sep depth s round =
      (Render.groupText o children sep depth (Render.columns s) fun lanes cs i =>
        (Render.round o children depth s lanes cs i).outcome).mapError .told := by
  rw [groupText, Render.groupText]
  split
  · rfl
  · refine bind_told rfl fun lanes hl => ?_
    split
    · rfl
    · next hsome =>
      refine bind_told (columns_eq s lanes) fun cs hcs => ?_
      have hoffers : ∀ c ∈ cs, OffersColumn host c := fun c hc => h.columns hcs hc
      have hlanes : cs.map (·.1) = lanes := Render.columns_lanes hcs
      have hne : cs ≠ [] := by
        rintro rfl
        simp [← hlanes] at hsome
      -- The lengths are kept by the names of the lanes: with a name twice one would get lost.
      have hnames : (cs.map (·.1.name)).Nodup := by
        have hdistinct : (lanes.map (·.name)).Nodup :=
          List.pairwise_map.mpr ((Lanes.apart_of_planLanes hl).imp Lanes.Apart.name)
        rw [← hlanes, List.map_map] at hdistinct
        exact hdistinct
      refine bind_told (count_eq _ hoffers hne hnames) fun n hn => ?_
      refine map_told _ ?_
      rw [mapError_mapM]
      refine mapM_congr fun i hi => ?_
      have hi : i < Render.shortest cs := Render.shortest_of_count hn ▸ List.mem_range.mp hi
      rw [setElements_eq _ fun c hc => Render.isSome_get?_of_lt_shortest hi hc]
      exact hround lanes cs i hoffers

theorem nodes_cons_eq
    (hn : node host o n depth s = (Render.node o n depth s).outcome.mapError .told)
    (hns : ∀ text s', (Render.node o n depth s).outcome = .ok (text, s') →
      nodes host o ns depth s' = (Render.nodes o ns depth s').outcome.mapError .told) :
    nodes host o (n :: ns) depth s =
      (Render.nodes o (n :: ns) depth s).outcome.mapError .told := by
  rw [nodes, Render.outcome_nodes_cons]
  exact bind_told hn fun p hp => map_told _ (hns p.1 p.2 hp)

/-- What is kept behind a node was kept in front of it, or is bound by it. -/
theorem Offered.after (h : Offered host s) {text : String} {s' : Scope}
    (hn : (Render.node o n depth s).outcome = .ok (text, s')) : Offered host s' :=
  Render.of_node h (fun r _ hv => h.bindReference r (h.lookup hv)) hn

/-- **A rendering without precautions ends as one that takes them**, by induction on the nodes. -/
theorem nodes_eq (h : Offered host s) : nodes host o ns depth s =
    (Render.nodes o ns depth s).outcome.mapError .told := by
  induction ns using Node.listInduction generalizing depth s with
  | nil =>
    rw [nodes, Render.outcome_nodes_nil]
    rfl
  | literal text ns ih =>
    refine nodes_cons_eq ?_ fun t u hn => ih (h.after hn)
    rw [node, Render.outcome_literal]
    rfl
  | shown r ns ih => exact nodes_cons_eq (node_shown_eq h r depth) fun t u hn => ih (h.after hn)
  | hidden r ns ih =>
    refine nodes_cons_eq ?_ fun t u hn => ih (h.after hn)
    rw [node, Render.outcome_hidden]
    exact map_told _ (resolve_eq s r.name)
  | group children sep ns ihc ih =>
    refine nodes_cons_eq ?_ fun t u hn => ih (h.after hn)
    rw [node, Render.outcome_group]
    refine map_told _ (groupText_eq h fun lanes cs i hcs => ?_)
    rw [Render.outcome_round]
    exact map_told _ (ihc (h.roundScope lanes hcs i))
  | foreign kind ns ih =>
    refine nodes_cons_eq ?_ fun t u hn => ih (h.after hn)
    rw [node, Render.outcome_foreign]
    rfl

end Unguarded

end Lockstep
