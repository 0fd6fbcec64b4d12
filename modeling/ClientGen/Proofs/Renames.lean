import ClientGen.Proofs.Callbacks
import ClientGen.Proofs.StructText
import Mathlib.Data.List.Forall2

/-! Rules for renaming touch the names of accessors only. Under any rules the same fields have the
same templates in the same order, so structs fail alike, and where they do not fail their texts are the
same line by line, but for the names in the declarations. The code of the methods is the same
throughout. -/

namespace ClientGen

/-- The settings with other rules for renaming. -/
def Config.withRules (c : Config) (rules : List RenameRule) : Config :=
  { c with renameRules := rules }

namespace Code

open Text

variable {c : Config} {owner : String}

/-! ## Accessors without their names -/

/-- The accessor of a field with its name left open: the template for it, what stands behind the name
on the line of the declaration, and the lines of the template below. -/
structure Form (c : Config) (owner : String) where
  field : String × Field
  kind : Kind
  rest : String
  body : List String
  chosen : classify c owner field.1 field.2 = .ok kind
  filled (name : String) : Accessor.lines kind name field.1 field.2 =
    .ok (Accessor.declared name rest :: body)

namespace Form

/-- The accessor under a name. -/
def text (w : Form c owner) (name : String) : String :=
  indent (unlines (Accessor.declared name w.rest :: w.body)) 1 4

/-- The lines of a struct for the accessor under a name, up to the empty one behind it. -/
def lines (w : Form c owner) (name : String) : List String :=
  ("    public var " ++ name ++ ": " ++ w.rest) :: ((w.body.flatMap Text.lines).map moved ++ [""])

/-- The rules choose the name of an accessor and nothing else. -/
theorem accessor_eq (w : Form c owner) (rules : List RenameRule) :
    accessor (c.withRules rules) owner w.field =
      .ok (w.text (accessorName (c.withRules rules) owner w.field)) := by
  have hkind : classify (c.withRules rules) owner w.field.1 w.field.2 = .ok w.kind := w.chosen
  simp only [accessor, hkind, Accessor.text, w.filled, text]

theorem unbroken_rest (w : Form c owner) (h : Unbroken w.field.2.type) : Unbroken w.rest := by
  have hempty : Unbroken "" := by decide
  have hhead := unbroken_head hempty h (w.filled "") (Accessor.declared "" w.rest) rfl
  rw [Accessor.declared] at hhead
  exact (unbroken_append.mp hhead).2

theorem lines_text (w : Form c owner) {name : String} (hn : Unbroken name)
    (h : Unbroken w.field.2.type) : Text.lines (w.text name) ++ [""] = w.lines name := by
  have hdeclared : Unbroken (Accessor.declared name w.rest) := by
    simp +decide [Accessor.declared, hn, w.unbroken_rest h]
  rw [text, lines_declaration hdeclared, lines, List.cons_append]

end Form

/-- A field that has an accessor under some rules has its form under any. -/
theorem exists_form {rules : List RenameRule} {p : String × Field} {s : String}
    (h : accessor (c.withRules rules) owner p = .ok s) : ∃ w : Form c owner, w.field = p := by
  cases hk : classify c owner p.1 p.2 with
  | error u =>
    have hk' : classify (c.withRules rules) owner p.1 p.2 = .error u := hk
    simp [accessor, hk'] at h
  | ok k =>
    have hk' : classify (c.withRules rules) owner p.1 p.2 = .ok k := hk
    rcases exists_body k p.1 p.2 with ⟨e, he⟩ | ⟨rest, body, hbody⟩
    · simp [accessor, hk', Accessor.text, he] at h
    · exact ⟨⟨p, k, rest, body, hk, hbody⟩, rfl⟩

variable {fields : List (String × Field)}

/-- Fields that have accessors under some rules have their forms under any. -/
theorem exists_forms {rules : List RenameRule} {parts : List String}
    (h : accessors (c.withRules rules) owner fields = .ok parts) :
    ∃ ws : List (Form c owner),
      ws.map Form.field = fields.filter fun p => !isLiteralTrue p.2 := by
  induction fields generalizing parts with
  | nil => exact ⟨[], rfl⟩
  | cons p rest ih =>
    cases ht : isLiteralTrue p.2 with
    | true =>
      rw [accessors, if_pos ht] at h
      obtain ⟨ws, hws⟩ := ih h
      exact ⟨ws, by simp [ht, hws]⟩
    | false =>
      obtain ⟨s, others, hs, ho, -⟩ := (accessors_cons_ok_iff ht).mp h
      obtain ⟨w, hm⟩ := exists_form hs
      obtain ⟨ws, hws⟩ := ih ho
      exact ⟨w :: ws, by simp [ht, hm, hws]⟩

/-- Accessors are rendered one by one, each under its name. -/
theorem accessors_of_forms {ws : List (Form c owner)}
    (h : ws.map Form.field = fields.filter fun p => !isLiteralTrue p.2)
    (rules : List RenameRule) :
    accessors (c.withRules rules) owner fields = .ok (ws.flatMap fun w =>
      [w.text (accessorName (c.withRules rules) owner w.field), ""]) := by
  induction fields generalizing ws with
  | nil =>
    obtain rfl : ws = [] := by simpa using h
    rfl
  | cons p rest ih =>
    cases ht : isLiteralTrue p.2 with
    | true =>
      rw [accessors, if_pos ht]
      exact ih (by simpa [ht] using h)
    | false =>
      simp only [List.filter_cons, ht, Bool.not_false, if_true, List.map_eq_cons_iff] at h
      obtain ⟨w, others, rfl, rfl, hothers⟩ := h
      exact (accessors_cons_ok_iff ht).mpr ⟨_, _, w.accessor_eq rules, ih hothers, rfl⟩

/-! ## Structs -/

/-- The lines of a struct with its accessors under the given names. -/
def structLines (name : String) (t : TypeDef) (ws : List (Form c name))
    (naming : String × Field → String) : List String :=
  (structHead name).flatMap Text.lines ++ ws.flatMap (fun w => w.lines (naming w.field)) ++
    (structTail (defaultsLiteral t.fields.sorted)).flatMap Text.lines

variable {name : String} {t : TypeDef}

theorem lines_of_forms {ws : List (Form c name)} {rules : List RenameRule}
    (h : ws.map Form.field = Validation.accessible t)
    (htypes : ∀ p ∈ Validation.accessible t, Unbroken p.2.type)
    (hnames : ∀ p ∈ Validation.accessible t,
      Unbroken (accessorName (c.withRules rules) name p)) :
    ∃ s, structText (c.withRules rules) name t = .ok s ∧
      Text.lines s = structLines name t ws (accessorName (c.withRules rules) name) := by
  refine ⟨_, structText_ok_iff.mpr ⟨_, accessors_of_forms h rules, rfl⟩, ?_⟩
  have hempty : Text.lines "" = [""] := by decide
  have hforms (w : Form c name) (hm : w ∈ ws) :
      [w.text (accessorName (c.withRules rules) name w.field), ""].flatMap Text.lines =
        w.lines (accessorName (c.withRules rules) name w.field) := by
    have hfield : w.field ∈ Validation.accessible t := h ▸ List.mem_map_of_mem hm
    rw [← w.lines_text (hnames _ hfield) (htypes _ hfield)]
    simp [hempty]
  rw [lines_unlines (by simp [structHead]), List.flatMap_append, List.flatMap_append,
    List.flatMap_assoc, List.flatMap_congr hforms, structLines]

/-- Two lines are the same, or both declare the accessor of one field, each under its own name. -/
def Redeclared (t : TypeDef) (first second : String × Field → String) (l k : String) : Prop :=
  l = k ∨ ∃ p ∈ Validation.accessible t, ∃ rest,
    l = "    public var " ++ first p ++ ": " ++ rest ∧
    k = "    public var " ++ second p ++ ": " ++ rest

/-- Only in the declarations do the names of the accessors show. -/
theorem structLines_redeclared {ws : List (Form c name)}
    (h : ws.map Form.field = Validation.accessible t) (first second : String × Field → String) :
    List.Forall₂ (Redeclared t first second) (structLines name t ws first)
      (structLines name t ws second) := by
  have hsame (ls : List String) : List.Forall₂ (Redeclared t first second) ls ls :=
    List.forall₂_same.mpr fun l _ => .inl rfl
  have hform (w : Form c name) (hm : w ∈ ws) : List.Forall₂ (Redeclared t first second)
      (w.lines (first w.field)) (w.lines (second w.field)) :=
    .cons (.inr ⟨w.field, h ▸ List.mem_map_of_mem hm, w.rest, rfl, rfl⟩) (hsame _)
  have hforms : List.Forall₂ (Redeclared t first second)
      (ws.flatMap fun w => w.lines (first w.field))
      (ws.flatMap fun w => w.lines (second w.field)) := by
    clear h
    induction ws with
    | nil => exact .nil
    | cons w rest ih =>
      rw [List.forall_mem_cons] at hform
      exact List.rel_append hform.1 (ih hform.2)
  exact List.rel_append (List.rel_append (hsame _) hforms) (hsame _)

/-- Structs fail alike under any rules. -/
theorem structText_error_iff (c : Config) (name : String) (t : TypeDef) (a b : List RenameRule)
    (e : Fault) : structText (c.withRules a) name t = .error e ↔
      structText (c.withRules b) name t = .error e := by
  have hfault (rules : List RenameRule) : structText (c.withRules rules) name t = .error e ↔
      stop c (untemplated c name t.fields.sorted) = some e := by
    have hf := faultOf_structText (c.withRules rules) name t
    have hstop : stop (c.withRules rules) (untemplated (c.withRules rules) name t.fields.sorted) =
        stop c (untemplated c name t.fields.sorted) := rfl
    rw [← hstop, ← hf]
    cases structText (c.withRules rules) name t <;> simp [faultOf]
  rw [hfault a, hfault b]

end Code

namespace Session

open FileTree

/-- The session with other rules for renaming. -/
def withRules (s : Session) (rules : List RenameRule) : Session :=
  { s with config := s.config.withRules rules }

/-- Sessions with the same code of methods, under settings that differ in the rules only. -/
structure SameMethods (s z : Session) : Prop where
  config : ∃ rules, z.config = s.config.withRules rules
  methods : z.methods = s.methods

variable {s z : Session}

/-- A callback brings its code of methods, and the end of a session brings none. -/
theorem step_methods_all (s : Session) (d : Disk) (b : Callback) :
    (s.step d b).session.methods = s.methods ++ b.methodPieces s.config := by
  by_cases hb : b = .finish
  · subst hb
    show (s.finish d).session.methods = s.methods ++ []
    rw [finish_session, List.append_nil]
  · exact step_methods s d hb

/-- The step lemma: whatever comes of a callback, the code of the methods stays the same. -/
theorem step_sameMethods (h : SameMethods s z) (d d' : Disk) (b : Callback) :
    SameMethods (s.step d b).session (z.step d' b).session := by
  have hconfig : ∃ rules, (z.step d' b).session.config =
      (s.step d b).session.config.withRules rules := by
    rw [step_config_all, step_config_all]
    exact h.config
  obtain ⟨rules, hc⟩ := h.config
  have hpieces : b.methodPieces (s.config.withRules rules) = b.methodPieces s.config := by
    cases b <;> rfl
  refine ⟨hconfig, ?_⟩
  rw [step_methods_all, step_methods_all, h.methods, hc, hpieces]

/-- Until the files are written, the same callbacks fail, in the same way. -/
theorem step_fault_sameMethods (h : SameMethods s z) (d d' : Disk) {b : Callback}
    (hb : b ≠ .finish) : (z.step d' b).fault = (s.step d b).fault := by
  obtain ⟨rules, hc⟩ := h.config
  have huntemplated : b.untemplated (s.config.withRules rules) = b.untemplated s.config := by
    cases b <;> rfl
  rw [step_fault s d hb, step_fault z d' hb, hc, huntemplated]
  rfl

/-- Runs that write the files at their end only come to the same code of methods. -/
theorem run_sameMethods (h : SameMethods s z) (d d' : Disk) {bs : List Callback}
    (hb : .finish ∉ bs) (write : Bool) :
    SameMethods (s.run d (bs ++ if write then [.finish] else [])).session
      (z.run d' (bs ++ if write then [.finish] else [])).session := by
  induction bs generalizing s z d d' with
  | nil =>
    cases write with
    | false => exact h
    | true =>
      have hrun (g : Session) (d : Disk) :
          (g.run d [.finish]).session = (g.step d .finish).session := by
        simp only [run]
        split <;> rfl
      simp only [List.nil_append, if_true, hrun]
      exact step_sameMethods h d d' .finish
  | cons b rest ih =>
    have hfirst : b ≠ .finish := fun e => hb (by simp [e])
    have hrest : .finish ∉ rest := fun hm => hb (by simp [hm])
    have hstep := step_sameMethods h d d' b
    have hfault := step_fault_sameMethods h d d' hfirst
    simp only [List.cons_append, run, hfault]
    cases (s.step d b).fault with
    | some f => exact hstep
    | none => exact ih hstep _ _ hrest

theorem deliver_sameMethods (h : SameMethods s z) (d : Disk) (schema : Schema) (write : Bool) :
    SameMethods (s.deliver d schema write).session (z.deliver d schema write).session := by
  obtain ⟨log, hs⟩ := s.deliver_eq d schema write
  obtain ⟨log', hz⟩ := z.deliver_eq d schema write
  rw [hs, hz, delivery_eq]
  exact run_sameMethods h d d (finish_not_mem_delivery schema) write

end Session

/-- Two tables of rules for renaming, with the same settings else. A struct fails under one just if it
fails under the other, at the same field. If it is rendered and no name or type brings in a line break,
both texts have the same accessors but for their names: each with its template, its type and its wire
name, so line by line they are the same or declare the same accessor. The code of the methods is the
same under both. -/
theorem renames_touch_names (c : Config) (name : String) (t : TypeDef) (a b : List RenameRule) :
    (∀ e, Code.structText (c.withRules a) name t = .error e ↔
      Code.structText (c.withRules b) name t = .error e) ∧
    (∀ s, Code.structText (c.withRules a) name t = .ok s →
      (∀ p ∈ Validation.accessible t, Text.Unbroken p.2.type) →
      (∀ p ∈ Validation.accessible t, Text.Unbroken (Code.accessorName (c.withRules a) name p)) →
      (∀ p ∈ Validation.accessible t, Text.Unbroken (Code.accessorName (c.withRules b) name p)) →
      ∃ z, Code.structText (c.withRules b) name t = .ok z ∧
        List.Forall₂ (Code.Redeclared t (Code.accessorName (c.withRules a) name)
          (Code.accessorName (c.withRules b) name)) (Text.lines s) (Text.lines z) ∧
        ∃ ws : List (Code.Form c name), ws.map Code.Form.field = Validation.accessible t ∧
          Text.lines s = Code.structLines name t ws (Code.accessorName (c.withRules a) name) ∧
          Text.lines z = Code.structLines name t ws (Code.accessorName (c.withRules b) name)) ∧
    ∀ (g : Session) (d : FileTree.Disk) (schema : Schema) (write : Bool),
      ((g.withRules b).deliver d schema write).session.methodsText =
        ((g.withRules a).deliver d schema write).session.methodsText := by
  refine ⟨Code.structText_error_iff c name t a b, ?_, ?_⟩
  · intro s hs htypes hfirst hsecond
    obtain ⟨parts, hparts, -⟩ := Code.structText_ok_iff.mp hs
    obtain ⟨ws, hws⟩ := Code.exists_forms hparts
    obtain ⟨s', hs', hlines⟩ := Code.lines_of_forms hws htypes hfirst
    obtain ⟨z, hz, hlines'⟩ := Code.lines_of_forms hws htypes hsecond
    obtain rfl : s' = s := Except.ok.inj (hs'.symm.trans hs)
    refine ⟨z, hz, ?_, ws, hws, hlines, hlines'⟩
    rw [hlines, hlines']
    exact Code.structLines_redeclared hws _ _
  · intro g d schema write
    have hsame : Session.SameMethods (g.withRules a) (g.withRules b) := ⟨⟨b, rfl⟩, rfl⟩
    exact congrArg Text.concat (Session.deliver_sameMethods hsame d schema write).methods

/-- A type with a field that the usual rules rename. -/
def chatMember : TypeDef :=
  ⟨⟨[("status", .single "String"), ("user", .single "User")], by simp⟩⟩

theorem chatMember_renamed :
    ∃ s z, Code.structText (Config.usual.withRules []) "ChatMember" chatMember = .ok s ∧
      Code.structText (Config.usual.withRules RenameRule.usual) "ChatMember" chatMember = .ok z ∧
      List.Forall₂ (Code.Redeclared chatMember
        (Code.accessorName (Config.usual.withRules []) "ChatMember")
        (Code.accessorName (Config.usual.withRules RenameRule.usual) "ChatMember"))
        (Text.lines s) (Text.lines z) ∧
      Code.accessorName (Config.usual.withRules RenameRule.usual) "ChatMember"
        ("status", .single "String") = "statusString" := by
  have hfault := Code.faultOf_structText (Config.usual.withRules []) "ChatMember" chatMember
  cases hs : Code.structText (Config.usual.withRules []) "ChatMember" chatMember with
  | error e =>
    have hnone : Code.stop (Config.usual.withRules []) (Code.untemplated
        (Config.usual.withRules []) "ChatMember" chatMember.fields.sorted) = none := by decide
    rw [hs, hnone] at hfault
    cases hfault
  | ok s =>
    obtain ⟨-, hok, -⟩ :=
      renames_touch_names .usual "ChatMember" chatMember [] RenameRule.usual
    obtain ⟨z, hz, hlines, -⟩ := hok s hs (by decide) (by decide) (by decide)
    exact ⟨s, z, rfl, hz, hlines, by decide⟩

end ClientGen
