import ClientGen.CommandLine.Arguments

/-! Switches without values. Such a switch marks what the arguments ask for and does nothing else; so
arguments that differ in it only are refused together, or ask for the same thing but for the mark. -/

namespace ClientGen
namespace CommandLine

/-! ## Marks -/

/-- The arguments with the mode of validating only. -/
def Arguments.validating (a : Arguments) : Arguments :=
  { a with validateOnly := true }

/-- The arguments with the mode of writing nothing. -/
def Arguments.trying (a : Arguments) : Arguments :=
  { a with dryRun := true }

/-- A change of arguments that no switch looks at or undoes. -/
structure Mark (m : Arguments → Arguments) : Prop where
  give : ∀ a value s, (m a).give value s = (a.give value s).map m id
  schema : ∀ a, (m a).schema = a.schema

theorem mark_validating : Mark Arguments.validating :=
  ⟨fun a value s => by cases s <;> rfl, fun _ => rfl⟩

theorem mark_trying : Mark Arguments.trying :=
  ⟨fun a value s => by cases s <;> rfl, fun _ => rfl⟩

/-- The request with a change of its arguments. -/
def Request.mark (m : Arguments → Arguments) : Request → Request
  | .work schema a => .work schema (m a)
  | r => r

variable {m : Arguments → Arguments}

theorem Mark.giveAll (h : Mark m) (a : Arguments) (given : List (Switch × Option String)) :
    (m a).giveAll given = (a.giveAll given).map m id := by
  induction given generalizing a with
  | nil => rfl
  | cons p rest ih =>
    obtain ⟨s, value⟩ := p
    simp only [Arguments.giveAll, h.give]
    cases a.give value s with
    | inl b => exact ih b
    | inr r => rfl

/-- A request that is made at once has no arguments. -/
theorem mark_of_give {a : Arguments} {value : Option String} {s : Switch} {r : Request}
    (h : a.give value s = .inr r) : r.mark m = r := by
  cases s <;> cases h <;> rfl

theorem mark_of_giveAll {a : Arguments} {given : List (Switch × Option String)} {r : Request}
    (h : a.giveAll given = .inr r) : r.mark m = r := by
  induction given generalizing a with
  | nil => cases h
  | cons p rest ih =>
    obtain ⟨s, value⟩ := p
    simp only [Arguments.giveAll] at h
    split at h
    · exact ih h
    · next hg =>
      cases h
      exact mark_of_give hg

/-! ## One argument after the other -/

section Steps

variable {a : Arguments} {strays : List String} {argument : String} {s : Switch} {short : Bool}
  {attached : Option Attached} {g : Group} {rest : List (String × Reading)}

theorem collect_fault {f : Fault} (hg : groupOf s short attached = .error f) :
    collect a strays ((argument, .switch s short attached) :: rest) = .error f := by
  simp only [collect, hg]

/-- Switches that are complete are followed by the next argument. -/
theorem collect_complete (hg : groupOf s short attached = .ok g) (ho : g.open? = none) :
    collect a strays ((argument, .switch s short attached) :: rest) =
      (a.giveAll g.given).elim (fun b => collect b (strays ++ g.stray.toList) rest) .ok := by
  simp only [collect, hg, ho]
  cases a.giveAll g.given <;> rfl

/-- A switch that needs a value takes the next argument. -/
theorem collect_value {t : Switch} {value : String} (hg : groupOf s short attached = .ok g)
    (ho : g.open? = some t) :
    collect a strays ((argument, .switch s short attached) :: (value, .plain) :: rest) =
      (a.giveAll (g.given ++ [(t, some value)])).elim
        (fun b => collect b (strays ++ g.stray.toList) rest) .ok := by
  simp only [collect, hg, ho]
  cases a.giveAll (g.given ++ [(t, some value)]) <;> rfl

theorem collect_noValue {t : Switch} (hg : groupOf s short attached = .ok g)
    (ho : g.open? = some t) (hr : ∀ value rest', rest = (value, .plain) :: rest' → False) :
    collect a strays ((argument, .switch s short attached) :: rest) = .error (.noValue t) := by
  rw [collect]
  simp only [hg, ho]

/-- What is no switch is not understood. -/
theorem collect_stray {r : Reading}
    (hr : ∀ s short attached, r = .switch s short attached → False) :
    collect a strays ((argument, r) :: rest) = collect a (strays ++ [argument]) rest := by
  cases r with
  | switch s short attached => exact (hr s short attached rfl).elim
  | _ => rfl

end Steps

/-- A mark stays to the end. -/
theorem Mark.collect (h : Mark m) (a : Arguments) (strays : List String)
    (rs : List (String × Reading)) :
    collect (m a) strays rs = (collect a strays rs).map (Request.mark m) := by
  fun_induction CommandLine.collect a strays rs with
  | case1 a strays =>
    simp only [CommandLine.collect, conclude, h.schema]
    cases a.schema with
    | none => rfl
    | some schema => cases strays.isEmpty <;> rfl
  | case2 a strays _ s short attached rest f hg => rw [collect_fault hg, Except.map]
  | case3 a strays _ s short attached g hg _ rest ho b hb ih =>
    rw [collect_complete hg ho, h.giveAll, hb]
    exact ih
  | case4 a strays _ s short attached g hg rest ho r hb =>
    rw [collect_complete hg ho, h.giveAll, hb, Except.map, mark_of_giveAll hb]
    rfl
  | case5 a strays _ s short attached g hg _ t value rest ho b hb ih =>
    rw [collect_value hg ho, h.giveAll, hb]
    exact ih
  | case6 a strays _ s short attached g hg t value rest ho r hb =>
    rw [collect_value hg ho, h.giveAll, hb, Except.map, mark_of_giveAll hb]
    rfl
  | case7 a strays _ s short attached rest g hg t ho hr =>
    rw [collect_noValue hg ho hr, Except.map]
  | case8 a strays argument r rest hr ih => rw [collect_stray hr, ih]

/-! ## Arguments that differ in the mode -/

/-- Two answers to arguments: both are refused, or they ask for the same thing, in one mode and in the
other. -/
inductive Alike : Except Fault Request → Except Fault Request → Prop
  | refused (f g : Fault) : Alike (.error f) (.error g)
  | asked (r : Request) : Alike (.ok (r.mark .validating)) (.ok (r.mark .trying))

theorem alike_of_mark {r : Request} (h : ∀ m, r.mark m = r) : Alike (.ok r) (.ok r) := by
  have ha := Alike.asked r
  rwa [h, h] at ha

theorem alike_marked (a : Arguments) (strays : List String) (rs : List (String × Reading)) :
    Alike (collect a.validating strays rs) (collect a.trying strays rs) := by
  rw [mark_validating.collect, mark_trying.collect]
  cases collect a strays rs with
  | error f => exact .refused f f
  | ok r => exact .asked r

/-- Answers that are alike from some argument on are alike from the start, unless that argument is taken
for the value of the switch before it. -/
theorem collect_alike {ts us : List (String × Reading)}
    (h : ∀ a strays, Alike (collect a strays ts) (collect a strays us))
    (ht : ∀ value rest, ts = (value, .plain) :: rest → False)
    (hu : ∀ value rest, us = (value, .plain) :: rest → False)
    (a : Arguments) (strays : List String) (rs : List (String × Reading)) :
    Alike (collect a strays (rs ++ ts)) (collect a strays (rs ++ us)) := by
  fun_induction collect a strays rs with
  | case1 a strays => exact h a strays
  | case2 a strays _ s short attached rest f hg =>
    rw [List.cons_append, List.cons_append, collect_fault hg, collect_fault hg]
    exact .refused f f
  | case3 a strays _ s short attached g hg _ rest ho b hb ih =>
    rw [List.cons_append, List.cons_append, collect_complete hg ho, collect_complete hg ho, hb]
    exact ih
  | case4 a strays _ s short attached g hg rest ho r hb =>
    rw [List.cons_append, List.cons_append, collect_complete hg ho, collect_complete hg ho, hb]
    exact alike_of_mark fun m => mark_of_giveAll hb
  | case5 a strays _ s short attached g hg _ t value rest ho b hb ih =>
    simp only [List.cons_append]
    rw [collect_value hg ho, collect_value hg ho, hb]
    exact ih
  | case6 a strays _ s short attached g hg t value rest ho r hb =>
    simp only [List.cons_append]
    rw [collect_value hg ho, collect_value hg ho, hb]
    exact alike_of_mark fun m => mark_of_giveAll hb
  | case7 a strays _ s short attached rest g hg t ho hr =>
    have hnext {vs : List (String × Reading)} (hv : ∀ value rest, vs = (value, .plain) :: rest → False)
        (value : String) (rest' : List (String × Reading)) :
        rest ++ vs = (value, .plain) :: rest' → False := by
      cases rest with
      | nil => exact hv value rest'
      | cons p rest =>
        intro he
        exact hr value rest (congrArg (· :: rest) (List.cons.inj he).1)
    rw [List.cons_append, List.cons_append, collect_noValue hg ho (hnext ht),
      collect_noValue hg ho (hnext hu)]
    exact .refused _ _
  | case8 a strays argument r rest hr ih =>
    rw [List.cons_append, List.cons_append, collect_stray hr, collect_stray hr]
    exact ih

/-- Arguments of which one is not understood are refused. -/
theorem collect_strays {a : Arguments} {strays : List String} (hs : strays ≠ [])
    (rest : List String) :
    ∃ f, collect a strays (rest.map fun b => (b, .plain)) = .error f := by
  induction rest generalizing strays with
  | nil =>
    simp only [List.map_nil, collect, conclude]
    cases a.schema with
    | none => exact ⟨_, rfl⟩
    | some schema =>
      obtain ⟨b, bs, rfl⟩ := List.exists_cons_of_ne_nil hs
      exact ⟨_, rfl⟩
  | cons b rest ih =>
    rw [List.map_cons, collect_stray (by simp)]
    exact ih (by simp)

/-- Behind two hyphens nothing is understood. -/
theorem collect_separator (a : Arguments) (strays rest : List String) :
    ∃ f, collect a strays (("--", .separator) :: rest.map fun b => (b, .plain)) = .error f := by
  rw [collect_stray (by simp)]
  exact collect_strays (by simp) rest

theorem readings_separator (rest : List String) :
    readings ("--" :: rest) = .ok (("--", .separator) :: rest.map fun b => (b, .plain)) := by
  simp [readings]

theorem readings_switch {argument : String} {s : Switch} (ha : argument ≠ "--")
    (h : reading argument = .ok (.switch s false none)) (rest : List String) :
    readings (argument :: rest) =
      (readings rest).map fun rs => (argument, .switch s false none) :: rs := by
  simp only [readings, ha, if_false, h]
  cases readings rest <;> rfl

/-- Before two hyphens each argument is read by itself. -/
theorem readings_append {before : List String} (h : "--" ∉ before) (rest : List String) :
    readings (before ++ rest) =
      (readings before).bind fun bs => (readings rest).map fun rs => bs ++ rs := by
  induction before with
  | nil =>
    simp only [List.nil_append, readings, Except.bind]
    cases readings rest <;> rfl
  | cons b before ih =>
    have hb : b ≠ "--" := fun e => h (by simp [e])
    simp only [List.cons_append, readings, hb, if_false, ih fun hm => h (by simp [hm])]
    cases reading b with
    | error f => rfl
    | ok r =>
      cases readings before with
      | error f => rfl
      | ok bs => cases readings rest <;> rfl

section Modes

variable (a : Arguments) (strays : List String) (argument : String) (rest : List (String × Reading))

theorem reading_validateOnly :
    reading "--validate-only" = .ok (.switch .validateOnly false none) := rfl

theorem reading_dryRun : reading "--dry-run" = .ok (.switch .dryRun false none) := rfl

theorem collect_validateOnly :
    collect a strays ((argument, .switch .validateOnly false none) :: rest) =
      collect a.validating strays rest := by
  rw [collect_complete (g := ⟨[(.validateOnly, none)], none, none⟩) rfl rfl]
  simp [Arguments.giveAll, Arguments.give, Arguments.validating]

theorem collect_dryRun :
    collect a strays ((argument, .switch .dryRun false none) :: rest) =
      collect a.trying strays rest := by
  rw [collect_complete (g := ⟨[(.dryRun, none)], none, none⟩) rfl rfl]
  simp [Arguments.giveAll, Arguments.give, Arguments.trying]

end Modes

/-- The same arguments with the one mode and with the other. -/
theorem request_alike (before after : List String) :
    Alike (request (before ++ "--validate-only" :: after))
      (request (before ++ "--dry-run" :: after)) := by
  unfold request
  by_cases hsep : "--" ∈ before
  · obtain ⟨front, back, rfl, hfront⟩ := List.eq_append_cons_of_mem hsep
    simp only [List.append_assoc, List.cons_append, readings_append hfront, readings_separator]
    cases readings front with
    | error f => exact .refused f f
    | ok rs =>
      refine collect_alike (fun a strays => ?_) (by simp) (by simp) .none [] rs
      obtain ⟨f, hf⟩ := collect_separator a strays (back ++ "--validate-only" :: after)
      obtain ⟨g, hg⟩ := collect_separator a strays (back ++ "--dry-run" :: after)
      rw [hf, hg]
      exact .refused f g
  · simp only [readings_append hsep, readings_switch (by decide) reading_validateOnly,
      readings_switch (by decide) reading_dryRun]
    cases readings before with
    | error f => exact .refused f f
    | ok rs =>
      cases readings after with
      | error f => exact .refused f f
      | ok us =>
        refine collect_alike (fun a strays => ?_) (by simp) (by simp) .none [] rs
        rw [collect_validateOnly, collect_dryRun]
        exact alike_marked a strays us

end CommandLine
end ClientGen
