/-
Arguments for every request: the switches that say what it says, each with its
value behind it, and then the template behind two dashes, so that nothing in it
is taken for a switch. What they ask for is the request (`ofArgs_arguments`),
whichever way numbers are read, as long as limits are (`ReadsLimits`).
-/
import Lockstep.Command.Arguments
import Lockstep.Proofs.Decimal
import Lockstep.Proofs.Options
import Lockstep.Proofs.Sequencing

namespace Lockstep.Command

/-! ## Switches and their values -/

/-- A switch given once for each value. -/
def Switch.givenWith (s : Switch) (values : List String) : List Given :=
  values.map fun v => (s, v)

/-- The arguments that give a switch once for each value. -/
def argumentsWith (name : String) (values : List String) : List String :=
  values.flatMap fun v => [name, v]

/-- The arguments give the switches, whatever follows them. -/
def Gives (sp : Spelling) (args : List String) (given : List Given) : Prop :=
  ∀ rest, Arguments.ofList sp (args ++ rest) =
    (Arguments.ofList sp rest).map fun a => { a with given := given ++ a.given }

namespace Gives

variable {sp : Spelling} {args args' : List String} {given given' : List Given} {s : Switch}

theorem nil (sp : Spelling) : Gives sp [] [] := by
  intro rest
  cases h : Arguments.ofList sp rest <;> simp [h, Except.map]

theorem append (h : Gives sp args given) (h' : Gives sp args' given') :
    Gives sp (args ++ args') (given ++ given') := by
  intro rest
  rw [List.append_assoc, h, h', map_map]
  simp only [List.append_assoc]

/-- A switch that needs no value. -/
theorem flag (name : String) (h : piece sp name = .ok (.complete [(s, "")])) (b : Bool) :
    Gives sp (if b then [name] else []) (s.givenWith (if b then [""] else [])) := by
  cases b with
  | false => exact nil sp
  | true =>
    intro rest
    simp only [if_true, List.cons_append, List.nil_append, Arguments.ofList, h]
    rfl

/-- A switch with each of several values behind it, whatever they look like. -/
theorem valued (name : String) (h : piece sp name = .ok (.waiting [] s name))
    (values : List String) :
    Gives sp (argumentsWith name values) (s.givenWith values) := by
  induction values with
  | nil => exact nil sp
  | cons v values ih =>
    intro rest
    have hrest := ih rest
    simp only [argumentsWith, List.flatMap_cons, List.cons_append, List.nil_append,
      Arguments.ofList, h] at hrest ⊢
    rw [hrest, map_map]
    rfl

end Gives

theorem values_givenWith (s s' : Switch) (values : List String) :
    ((s.givenWith values).filter (·.1 == s')).map (·.2) = if s = s' then values else [] := by
  have hkeep : ((s.givenWith values).filter (·.1 == s')) = if s = s' then s.givenWith values else [] := by
    induction values with
    | nil => simp [Switch.givenWith]
    | cons v values ih =>
      simp only [Switch.givenWith, List.map_cons, List.filter_cons] at ih ⊢
      rw [ih]
      by_cases hs : s = s' <;> simp [hs]
  rw [hkeep]
  split
  · simp [Switch.givenWith, Function.comp_def]
  · rfl

/-- A switch is there if it has a value, be it an empty one. -/
theorem Arguments.has_eq (a : Arguments) (s : Switch) : a.has s = !(a.values s).isEmpty := by
  rw [has, values, List.isEmpty_map]
  induction a.given with
  | nil => rfl
  | cons g given ih =>
    rw [List.any_cons, List.filter_cons, ih]
    cases g.1 == s <;> rfl

/-! ## Limits -/

/-- The number of a switch is read like this: each limit from its digits, and whatever else. -/
def ReadsLimits (integer? : String → Option Int) : Prop :=
  ∀ l : DepthLimit, integer? (toString l.groups) = .some (l.groups : Int)

theorem length_toDigits_limit (l : DepthLimit) :
    (Nat.toDigits 10 l.groups).length ≤ Decimal.integerLimit := by
  have hsmall : l.groups < 10 ^ 3 := Nat.lt_of_le_of_lt l.le (by decide)
  exact ((Nat.length_toDigits_le_iff (by decide) (by decide)).mpr hsmall).trans (by decide)

theorem readsLimits_integer? : ReadsLimits Decimal.integer? := fun l =>
  Decimal.integer?_toString (length_toDigits_limit l)

theorem readsLimits_ofScript? : ReadsLimits Decimal.ofScript? := fun l =>
  Decimal.ofScript?_toString (length_toDigits_limit l)

/-! ## Requests -/

namespace RenderRequest

/-- The switches that a request is made of. -/
def switches (r : RenderRequest) : List Given :=
  Switch.unindent.givenWith (if r.unindent then [""] else []) ++
    (Switch.bindings.givenWith r.bindings.toList ++
      (Switch.define.givenWith r.defines ++
        (Switch.strict.givenWith (if r.strict then [""] else []) ++
          (Switch.maxDepth.givenWith (r.maxDepth.map fun l => toString l.groups).toList ++
            Switch.output.givenWith r.output.toList))))

/-- **Arguments that ask for a request.** -/
def arguments (r : RenderRequest) : List String :=
  "render" ::
    (((if r.unindent then ["--unindent"] else []) ++
      (argumentsWith "--bindings" r.bindings.toList ++
        (argumentsWith "--define" r.defines ++
          ((if r.strict then ["--strict"] else []) ++
            (argumentsWith "--max-depth" (r.maxDepth.map fun l => toString l.groups).toList ++
              argumentsWith "--output" r.output.toList))))) ++ ["--", r.template])

theorem gives_switches (r : RenderRequest) :
    Arguments.ofList renderSwitches r.arguments.tail =
      .ok { given := r.switches, words := [r.template] } := by
  have hall : Gives renderSwitches _ r.switches :=
    (Gives.flag "--unindent" rfl r.unindent).append <|
      (Gives.valued "--bindings" rfl _).append <|
      (Gives.valued "--define" rfl _).append <|
      (Gives.flag "--strict" rfl r.strict).append <|
      (Gives.valued "--max-depth" rfl _).append (Gives.valued "--output" rfl _)
  have hend : Arguments.ofList renderSwitches ["--", r.template] =
      .ok { words := [r.template] } := rfl
  rw [arguments, List.tail_cons, hall, hend]
  simp [Except.map]

/-- What the switches of a request say of each switch. -/
theorem values_switches (r : RenderRequest) (words : List String) (s : Switch) :
    ({ given := r.switches, words } : Arguments).values s =
      match s with
      | .unindent => if r.unindent then [""] else []
      | .bindings => r.bindings.toList
      | .define => r.defines
      | .strict => if r.strict then [""] else []
      | .maxDepth => (r.maxDepth.map fun l => toString l.groups).toList
      | .output => r.output.toList
      | .verbose | .version | .help => [] := by
  simp only [Arguments.values, switches, List.filter_append, List.map_append, values_givenWith]
  cases s <;> simp

theorem getLast?_toList {α : Type} (o : Option α) : o.toList.getLast? = o := by
  cases o <;> rfl

variable {integer? : String → Option Int}

theorem maxDepth_switches (h : ReadsLimits integer?) (r : RenderRequest) (words : List String) :
    ({ given := r.switches, words } : Arguments).maxDepth integer? = .ok r.maxDepth := by
  rw [Arguments.maxDepth, Arguments.value?, values_switches]
  cases r.maxDepth with
  | none => rfl
  | some l =>
    have hlimit : DepthLimit.ofInt? l.groups = .some l := DepthLimit.ofInt?_eq_some.mpr rfl
    simp only [Option.map_some, Option.toList_some, List.getLast?_singleton, h l, hlimit]

theorem renderOf_switches (h : ReadsLimits integer?) (r : RenderRequest) :
    Invocation.renderOf integer? { given := r.switches, words := [r.template] } =
      .ok (.render r) := by
  have htemplate : ({ given := r.switches, words := [r.template] } : Arguments).template =
      .ok r.template := rfl
  rw [Invocation.renderOf, htemplate, maxDepth_switches h]
  simp only [Arguments.has_eq, Arguments.value?, values_switches, getLast?_toList]
  obtain ⟨template, unindent, bindings, defines, strict, maxDepth, output⟩ := r
  cases unindent <;> cases strict <;> rfl

end RenderRequest

/-- **Every request can be asked for**, if each limit is read from its digits. -/
theorem Invocation.ofArgs_arguments {integer? : String → Option Int} (h : ReadsLimits integer?)
    (r : RenderRequest) : Invocation.ofArgs r.arguments integer? = .ok (.render r) := by
  have hhelp : ({ given := r.switches, words := [r.template] } : Arguments).has .help = false := by
    rw [Arguments.has_eq, RenderRequest.values_switches]
    rfl
  have hgeneral : general r.arguments = .ok { words := r.arguments } := rfl
  have hsubcommand :
      subcommand renderSwitches (renderOf integer?) r.arguments.tail = .ok (.render r) := by
    rw [subcommand, RenderRequest.gives_switches]
    simp only [bind, Except.bind, hhelp, RenderRequest.renderOf_switches h]
    rfl
  rw [Invocation.ofArgs, hgeneral]
  exact hsubcommand

end Lockstep.Command
