import ClientGen.Proofs.Clashes
import ClientGen.Proofs.Names
import ClientGen.Proofs.Prediction
import Mathlib.Data.List.Nodup

/-! The extension of the client. Each method declares three members in it, two of them functions with
parameters. In a schema without errors the members have different names unless two methods differ only
in the case of the first letter, and the parameters of a function unless one has the name of a
parameter that every function has. -/

namespace ClientGen

namespace Code

/-! ## What the code of a method declares -/

/-- A member that the code of a method declares: what it is, its name, and the rest of the line. -/
structure Member where
  keyword : String
  name : String
  rest : String

/-- The line with which the declaration starts. -/
def Member.line (x : Member) : String :=
  "    " ++ x.keyword ++ x.name ++ x.rest

/-- Whether a line of the code of a method declares a member. -/
def isMember (line : String) : Bool :=
  "    typealias ".toList.isPrefixOf line.toList || "    func ".toList.isPrefixOf line.toList

/-- The function of a method with the given name. -/
def function (name : String) : Member :=
  ⟨"func ", name, "("⟩

/-- The type of what is told when a method is done. -/
def completion (name : String) (result : Field) : Member :=
  ⟨"typealias ", completionName name,
    " = (_ result: " ++ typeName result ++ ", _ error: DataTaskError?) -> ()"⟩

/-- The members that a method declares. -/
def members (name : String) (m : Method) : List Member :=
  [completion name m.result, function (name ++ "Sync"), function (name ++ "Async")]

/-- The names of the members that a method declares. -/
def declaredNames (name : String) : List String :=
  [completionName name, name ++ "Sync", name ++ "Async"]

/-- A parameter in the list of a function: its label, its name in the function, and the rest of its
line from the type on. -/
structure Parameter where
  label : String
  name : String
  rest : String

def Parameter.line (p : Parameter) : String :=
  pad ++ p.label ++ p.name ++ ": " ++ p.rest

/-- The parameters that both functions of a method have from the schema. -/
def ownParameters (m : Method) : List Parameter :=
  m.parameters.sorted.map fun p =>
    ⟨"", Identifier.camelized p.1, typeName p.2 ++ (if p.2.isOptional then " = nil" else "") ++ ","⟩

/-- The parameters of the function that waits for the answer. -/
def syncParameters (m : Method) : List Parameter :=
  ownParameters m ++
    [⟨"_ ", "parameters", "[String: Any?] = [:]) -> " ++ typeName m.result ++ " \x7b"⟩]

/-- The parameters of the function that does not wait. -/
def asyncParameters (name : String) (m : Method) : List Parameter :=
  ownParameters m ++
    [⟨"_ ", "parameters", "[String: Any?] = [:],"⟩, ⟨"", "queue", "DispatchQueue = .main,"⟩,
      ⟨"", "completion", completionName name ++ "? = nil) \x7b"⟩]

/-- The lines of a method: its members, and behind each function the list of its parameters and its
body. -/
theorem methodLines_eq (name : String) (m : Method) :
    methodLines name m =
      [(completion name m.result).line, "",
        "    @discardableResult", (function (name ++ "Sync")).line] ++
      (syncParameters m).map Parameter.line ++
      [call "requestSync" name (bridgingLiteral m.parameters.sorted) ++ ")", "    \x7d", "",
        (function (name ++ "Async")).line] ++
      (asyncParameters name m).map Parameter.line ++
      [call "requestAsync" name (bridgingLiteral m.parameters.sorted) ++ ",",
        pad ++ "queue: queue, completion: completion)", "    \x7d", "", ""] := by
  have hsync : "    func " ++ name ++ "Sync(" = (function (name ++ "Sync")).line := by
    simp [Member.line, function, String.append_assoc]
  have hasync : "    func " ++ name ++ "Async(" = (function (name ++ "Async")).line := by
    simp [Member.line, function, String.append_assoc]
  have hown : (m.parameters.sorted.map fun p => pad ++ parameterItem p) =
      (ownParameters m).map Parameter.line := by
    simp [ownParameters, Parameter.line, parameterItem, String.append_assoc]
  have hlast : "_ parameters: [String: Any?] = [:]) -> " =
      "_ parameters: " ++ "[String: Any?] = [:]) -> " := by decide
  simp [methodLines, hsync, hasync, hown, syncParameters, asyncParameters, Parameter.line,
    Member.line, completion, String.append_assoc]
  rw [hlast, String.append_assoc]

theorem isMember_of_mem {name : String} {m : Method} {x : Member} (h : x ∈ members name m) :
    isMember x.line = true := by
  simp only [members, List.mem_cons, List.not_mem_nil, or_false] at h
  rcases h with rfl | rfl | rfl
  all_goals simp [isMember, Member.line, completion, function, List.isPrefixOf]

/-- What is deeper in the code declares no member. -/
theorem isMember_indented (rest : String) : isMember ("        " ++ rest) = false := by
  simp [isMember, List.isPrefixOf]

theorem isMember_parameter (p : Parameter) : isMember p.line = false := by
  have h : pad = "        " ++ "    " := by decide
  unfold Parameter.line
  rw [h]
  simp only [String.append_assoc]
  rw [isMember_indented]

theorem isMember_call (request name literal more : String) :
    isMember (call request name literal ++ more) = false := by
  have h : "        return " = "        " ++ "return " := by decide
  unfold call
  rw [h]
  simp only [String.append_assoc]
  rw [isMember_indented]

/-- The lines that declare members are those of the members of the method. -/
theorem filter_methodLines (name : String) (m : Method) :
    (methodLines name m).filter isMember = (members name m).map Member.line := by
  have hparameters (ps : List Parameter) : (ps.map Parameter.line).filter isMember = [] := by
    simp [List.filter_eq_nil_iff, isMember_parameter]
  have hempty : isMember "" = false := by decide
  have hclose : isMember "    \x7d" = false := by decide
  have hmark : isMember "    @discardableResult" = false := by decide
  have hlast : isMember (pad ++ "queue: queue, completion: completion)") = false := by decide
  have hmember : ∀ x ∈ members name m, isMember x.line = true := fun x => isMember_of_mem
  simp only [members, List.forall_mem_cons] at hmember
  obtain ⟨hcompletion, hsync, hasync, -⟩ := hmember
  rw [methodLines_eq]
  simp only [List.filter_append, List.filter_cons, List.filter_nil, hparameters, isMember_call,
    hcompletion, hsync, hasync, hempty, hclose, hmark, hlast, Bool.false_eq_true, if_false, if_true]
  rfl

end Code

namespace Session

open FileTree

/-! ## The text of the extension -/

/-- What a callback adds to the file with the methods. -/
def Callback.methodPieces (c : Config) : Callback → List String
  | .beforeMethods => [Code.methodsHeader c]
  | .method name m => [Code.methodText name m]
  | .afterMethods => [Code.methodsFooter]
  | _ => []

theorem step_methods {b : Callback} (s : Session) (d : Disk) (h : b ≠ .finish) :
    (s.step d b).session.methods = s.methods ++ b.methodPieces s.config := by
  cases b with
  | type name t =>
    simp only [step, Callback.methodPieces, List.append_nil]
    split <;> rfl
  | finish => exact absurd rfl h
  | _ => simp [step, Callback.methodPieces, addType, addMethod]

theorem run_methods (s : Session) (d : Disk) {bs : List Callback} (h : .finish ∉ bs)
    (hf : (s.run d bs).fault = none) :
    (s.run d bs).session.methods = s.methods ++ bs.flatMap (Callback.methodPieces s.config) := by
  induction bs generalizing s d with
  | nil => simp [run]
  | cons b rest ih =>
    have hb : b ≠ .finish := fun e => h (by simp [e])
    have hm := step_methods s d hb
    have hr := ih (s.step d b).session (s.step d b).disk fun m => h (by simp [m])
    rw [step_config s d hb, hm, List.append_assoc] at hr
    simp only [run] at hf ⊢
    cases hs : (s.step d b).fault with
    | some e => simp [hs] at hf
    | none =>
      simp only [hs] at hf ⊢
      rw [List.flatMap_cons]
      exact hr hf

theorem methodPieces_delivery (c : Config) (schema : Schema) (write : Bool) :
    (delivery schema write).flatMap (Callback.methodPieces c) =
      Code.methodsHeader c :: (schema.methods.toList.map fun p => Code.methodText p.1 p.2) ++
        [Code.methodsFooter] := by
  have htypes : (schema.types.toList.map fun p => Callback.type p.1 p.2).flatMap
      (Callback.methodPieces c) = [] := by
    simp [List.flatMap_map, Callback.methodPieces]
  have hmethods : (schema.methods.toList.map fun p => Callback.method p.1 p.2).flatMap
      (Callback.methodPieces c) = schema.methods.toList.map fun p => Code.methodText p.1 p.2 := by
    rw [List.flatMap_map]
    exact List.map_eq_flatMap.symm
  cases write <;> simp [delivery, htypes, hmethods, Callback.methodPieces]

/-- The file with the methods, once a schema was delivered: the head that opens the extension, the
code of each method, and the end that closes it. -/
theorem deliver_methods (directory : Path) (c : Config) (d : Disk) {schema : Schema}
    (hf : ((Session.new directory c).deliver d schema false).fault = none) :
    ((Session.new directory c).deliver d schema false).session.methods =
      Code.methodsHeader c :: (schema.methods.toList.map fun p => Code.methodText p.1 p.2) ++
        [Code.methodsFooter] := by
  obtain ⟨log, he⟩ := (Session.new directory c).deliver_eq d schema false
  rw [he] at hf ⊢
  rw [run_methods _ d (finish_not_mem_delivery schema) hf]
  exact methodPieces_delivery c schema false

end Session

namespace Validation

open Code Identifier

/-! ## Names of members -/

/-- Texts with endings that differ in the last four characters are different. -/
theorem append_ne_append {x y : String} (hx : 4 ≤ x.toList.length) (hy : 4 ≤ y.toList.length)
    (h : x.toList.reverse.take 4 ≠ y.toList.reverse.take 4) (a b : String) : a ++ x ≠ b ++ y := by
  intro he
  have hl := congrArg (fun s => s.toList.reverse.take 4) he
  simp only [String.toList_append, List.reverse_append] at hl
  rw [List.take_append_of_le_length (by simpa using hx),
    List.take_append_of_le_length (by simpa using hy)] at hl
  exact h hl

theorem nodup_declaredNames (name : String) : (declaredNames name).Nodup := by
  have hsync : completionName name ≠ name ++ "Sync" :=
    append_ne_append (by decide) (by decide) (by decide) _ _
  have hasync : completionName name ≠ name ++ "Async" :=
    append_ne_append (by decide) (by decide) (by decide) _ _
  have hboth : name ++ "Sync" ≠ name ++ "Async" :=
    append_ne_append (by decide) (by decide) (by decide) _ _
  simp [declaredNames, hsync, hasync, hboth]

/-- Two methods have a declared name in common just if they have the name of the completion in
common. -/
theorem disjoint_declaredNames {a b : String} :
    (declaredNames a).Disjoint (declaredNames b) ↔ capitalized a ≠ capitalized b := by
  have hsc (a b : String) : a ++ "Sync" ≠ b ++ "Completion" :=
    append_ne_append (by decide) (by decide) (by decide) a b
  have hac (a b : String) : a ++ "Async" ≠ b ++ "Completion" :=
    append_ne_append (by decide) (by decide) (by decide) a b
  have hsa (a b : String) : a ++ "Sync" ≠ b ++ "Async" :=
    append_ne_append (by decide) (by decide) (by decide) a b
  constructor
  · intro h he
    have hc : completionName a = completionName b := by rw [completionName, he, completionName]
    exact h (a := completionName a) (by simp [declaredNames]) (by simp [declaredNames, hc])
  · intro hne x ha hb
    have hab : a ≠ b := fun e => hne (e ▸ rfl)
    simp only [declaredNames, completionName, List.mem_cons, List.not_mem_nil, or_false] at ha hb
    rcases ha with rfl | rfl | rfl
    · rcases hb with hb | hb | hb
      · exact hne ((String.append_left_inj _).mp hb)
      · exact hsc _ _ hb.symm
      · exact hac _ _ hb.symm
    · rcases hb with hb | hb | hb
      · exact hsc _ _ hb
      · exact hab ((String.append_left_inj _).mp hb)
      · exact hsa _ _ hb
    · rcases hb with hb | hb | hb
      · exact hac _ _ hb
      · exact hsa _ _ hb.symm
      · exact hab ((String.append_left_inj _).mp hb)

/-- All declared names are different just if the methods differ in more than the case of the first
letter. -/
theorem nodup_flatMap_declaredNames (names : List String) :
    (names.flatMap declaredNames).Nodup ↔ (names.map capitalized).Nodup := by
  rw [List.nodup_flatMap, List.Nodup, List.pairwise_map]
  constructor
  · rintro ⟨-, h⟩
    exact h.imp disjoint_declaredNames.mp
  · intro h
    exact ⟨fun name _ => nodup_declaredNames name, h.imp disjoint_declaredNames.mpr⟩

theorem toUpper_of_not_lower {x : Char} (h : ¬ ('a'.val ≤ x.val ∧ x.val ≤ 'z'.val)) :
    x.toUpper = x :=
  dif_neg h

theorem val_toUpper {x : Char} (h : 'a'.val ≤ x.val ∧ x.val ≤ 'z'.val) :
    x.toUpper.val = x.val + ('A'.val - 'a'.val) := by
  delta Char.toUpper
  rw [dif_pos h]

/-- Characters with one upper case are the same, or one of them is that upper case. -/
theorem eq_or_of_toUpper_eq {x y : Char} (h : x.toUpper = y.toUpper) :
    x = y ∨ x.toUpper = y ∨ y.toUpper = x := by
  by_cases hx : 'a'.val ≤ x.val ∧ x.val ≤ 'z'.val
  · by_cases hy : 'a'.val ≤ y.val ∧ y.val ≤ 'z'.val
    · have hv := congrArg Char.val h
      rw [val_toUpper hx, val_toUpper hy] at hv
      exact .inl (Char.ext ((UInt32.add_left_inj _).mp hv))
    · exact .inr (.inl (h.trans (toUpper_of_not_lower hy)))
  · exact .inr (.inr (h.symm.trans (toUpper_of_not_lower hx)))

theorem toUpper_toUpper (x : Char) : x.toUpper.toUpper = x.toUpper := by
  by_cases hx : 'a'.val ≤ x.val ∧ x.val ≤ 'z'.val
  · refine toUpper_of_not_lower fun hu => ?_
    rw [val_toUpper hx] at hu
    obtain ⟨hlow, -⟩ := hu
    obtain ⟨hxa, hxz⟩ := hx
    simp only [UInt32.le_iff_toNat_le, UInt32.toNat_add] at hlow hxa hxz
    have ha : 'a'.val.toNat = 97 := rfl
    have hz : 'z'.val.toNat = 122 := rfl
    have hd : ('A'.val - 'a'.val).toNat = 4294967264 := rfl
    omega
  · rw [toUpper_of_not_lower hx, toUpper_of_not_lower hx]

/-- The characters of names are in ASCII. -/
theorem ascii_of_part {ch : Char} (h : ch.isAlphanum = true ∨ ch = '_') : ch.toNat < 0x80 := by
  rcases h with h | rfl
  · rcases (Bool.or_eq_true ch.isAlpha ch.isDigit).mp h with ha | hd
    · rcases (Bool.or_eq_true ch.isUpper ch.isLower).mp ha with hu | hl
      · have hz : ch.toNat ≤ 90 := (of_decide_eq_true hu).2
        omega
      · have hz : ch.toNat ≤ 122 := of_decide_eq_true ((Bool.and_eq_true _ _).mp hl).2
        omega
    · have hn := (Char.isDigit_iff_toNat.mp hd).2
      have hnine : '9'.toNat = 57 := rfl
      omega
  · decide

/-- Of an identifier only the case of the first character changes. -/
theorem capitalized_of_isIdentifier {name : String} (h : isIdentifier name = true) :
    ∃ ch rest, name.toList = ch :: rest ∧ (capitalized name).toList = ch.toUpper :: rest := by
  obtain ⟨ch, rest, hlist, hpart⟩ : ∃ ch rest, name.toList = ch :: rest ∧
      (ch.isAlphanum = true ∨ ch = '_') := by
    rcases (isIdentifier_iff name).mp h with hn | ⟨w, hn, rfl⟩
    all_goals
      obtain ⟨hne, hparts, -⟩ := hn
      obtain ⟨ch, rest, hw⟩ := List.exists_cons_of_ne_nil hne
    · exact ⟨ch, rest, hw, hparts ch (by simp [hw])⟩
    · exact ⟨ch, rest ++ ['\n'], by simp [hw], hparts ch (by simp [hw])⟩
  refine ⟨ch, rest, hlist, ?_⟩
  rw [capitalized, String.toList_ofList, hlist, Text.upperFirst,
    Text.upperChar_ascii (ascii_of_part hpart), List.singleton_append]

/-- Capitals tell identifiers apart just if none is another one with its first letter in upper
case. -/
theorem capitalized_inj_iff {names : List String} (h : ∀ name ∈ names, isIdentifier name = true) :
    (∀ a ∈ names, ∀ b ∈ names, capitalized a = capitalized b → a = b) ↔
      ∀ name ∈ names, capitalized name ∈ names → capitalized name = name := by
  constructor
  · intro hinj name hn hc
    obtain ⟨ch, rest, -, hcap⟩ := capitalized_of_isIdentifier (h name hn)
    obtain ⟨ch', rest', hlist, hcap'⟩ := capitalized_of_isIdentifier (h _ hc)
    obtain ⟨rfl, rfl⟩ := List.cons.inj (hcap.symm.trans hlist)
    rw [toUpper_toUpper] at hcap'
    exact hinj _ hc _ hn (String.toList_injective (hcap'.trans hcap.symm))
  · intro hfix a ha b hb he
    obtain ⟨x, rest, hx, hxcap⟩ := capitalized_of_isIdentifier (h a ha)
    obtain ⟨y, rest', hy, hycap⟩ := capitalized_of_isIdentifier (h b hb)
    have hlist := congrArg String.toList he
    rw [hxcap, hycap] at hlist
    obtain ⟨hupper, rfl⟩ := List.cons.inj hlist
    rcases eq_or_of_toUpper_eq hupper with rfl | hu | hu
    · exact String.toList_injective (hx.trans hy.symm)
    · have hb' : capitalized a = b := String.toList_injective (by rw [hxcap, hu, hy])
      exact (hfix a ha (hb' ▸ hb)).symm.trans hb'
    · have ha' : capitalized b = a := String.toList_injective (by rw [hycap, hu, hx])
      exact ha'.symm.trans (hfix b hb (ha' ▸ ha))

/-- The members that the methods of a schema declare in the extension. -/
def extensionMembers (s : Schema) : List Member :=
  s.methods.toList.flatMap fun p => members p.1 p.2

theorem filter_extensionLines (s : Schema) :
    (s.methods.toList.flatMap fun p => methodLines p.1 p.2).filter isMember =
      (extensionMembers s).map Member.line := by
  rw [List.filter_flatMap, extensionMembers, List.map_flatMap]
  simp only [filter_methodLines]

theorem names_extensionMembers (s : Schema) :
    (extensionMembers s).map Member.name = s.methods.names.flatMap declaredNames := by
  rw [extensionMembers, List.map_flatMap, Table.names, List.flatMap_map]
  rfl

theorem deliver_fault_of_isValid {s : Schema} {c : Config} (h : (findings s c).isValid = true)
    (directory : FileTree.Path) (d : FileTree.Disk) :
    ((Session.new directory c).deliver d s false).fault = none := by
  rw [Session.deliver_fault]
  exact congrArg (Option.map _) (stop_of_isValid h)

/-- The extension for a schema without errors is the code of its methods, in which the lines that
declare members are those of the extension's members. They have different names just if no method is
named as another one with its first letter in upper case. -/
theorem declared_names_nodup_iff {s : Schema} {c : Config} (h : (findings s c).isValid = true) :
    (∀ directory d, ((Session.new directory c).deliver d s false).session.methods =
      methodsHeader c :: (s.methods.toList.map fun p => Text.unlines (methodLines p.1 p.2)) ++
        [methodsFooter]) ∧
    (s.methods.toList.flatMap fun p => methodLines p.1 p.2).filter isMember =
      (extensionMembers s).map Member.line ∧
    (extensionMembers s).map Member.name = s.methods.names.flatMap declaredNames ∧
    (((extensionMembers s).map Member.name).Nodup ↔
      ∀ name ∈ s.methods.names, capitalized name ∈ s.methods.names → capitalized name = name) := by
  refine ⟨fun directory d => Session.deliver_methods directory c d
    (deliver_fault_of_isValid h directory d), filter_extensionLines s, names_extensionMembers s, ?_⟩
  have hnames : ∀ name ∈ s.methods.names, isIdentifier name = true := by
    intro name hn
    obtain ⟨⟨_, m⟩, hm, rfl⟩ := List.mem_map.mp hn
    exact isIdentifier_methodName h hm
  rw [names_extensionMembers, nodup_flatMap_declaredNames]
  exact (List.nodup_map_iff_inj_on s.methods.nodup).trans (capitalized_inj_iff hnames)

/-- A schema with two methods that take nothing. -/
def twoMethods (first second : String) (h : first ≠ second) : Schema where
  types := .empty
  methods := ⟨[(first, ⟨.empty, .single "Bool"⟩), (second, ⟨.empty, .single "Bool"⟩)], by simpa⟩
  sourceFile := none

theorem declared_names_of_getMe :
    (findings (twoMethods "getMe" "logOut" (by decide)) .usual).isValid = true ∧
      ((extensionMembers (twoMethods "getMe" "logOut" (by decide))).map Member.name).Nodup := by
  have hv : (findings (twoMethods "getMe" "logOut" (by decide)) .usual).isValid = true := by decide
  exact ⟨hv, (declared_names_nodup_iff hv).2.2.2.mpr (by decide)⟩

/-- A schema without errors may declare a member of the extension twice. -/
theorem declared_names_not_nodup :
    ¬ ∀ (s : Schema) (c : Config), (findings s c).isValid = true →
      ((extensionMembers s).map Member.name).Nodup := by
  intro h
  exact absurd (h (twoMethods "getMe" "GetMe" (by decide)) .usual (by decide)) (by decide)

/-! ## Names of parameters -/

/-- Without errors no parameter of a method has a name in the code that one before it took. -/
theorem nodup_parameters {s : Schema} {c : Config} (h : (findings s c).isValid = true)
    {name : String} {m : Method} (hm : (name, m) ∈ s.methods.toList) :
    (m.parameters.sorted.map fun p => camelized p.1).Nodup := by
  have hnil : clashes s c name = [] := by
    refine List.filterMap_eq_nil_iff.mpr fun i hi => ?_
    have hwarning := (isValid_iff s c).mp h i (by simp [issues, hi])
    cases i <;> first | rfl | cases hwarning
  rwa [clashes_eq c hm, clashesAfter_eq_nil_iff, List.map_map] at hnil

/-- The names of the parameters of both functions of a method are those of its parameters and some that
every function has. In a schema without errors they are different just if no parameter of the method
has one of the latter. -/
theorem parameter_names_nodup_iff {s : Schema} {c : Config} (h : (findings s c).isValid = true)
    {name : String} {m : Method} (hm : (name, m) ∈ s.methods.toList) :
    let own := m.parameters.sorted.map fun p => camelized p.1
    (∃ body rest, methodLines name m =
      [(completion name m.result).line, "", "    @discardableResult",
          (function (name ++ "Sync")).line] ++
        (syncParameters m).map Parameter.line ++ body ++ [(function (name ++ "Async")).line] ++
        (asyncParameters name m).map Parameter.line ++ rest) ∧
    (syncParameters m).map Parameter.name = own ++ ["parameters"] ∧
    (asyncParameters name m).map Parameter.name = own ++ ["parameters", "queue", "completion"] ∧
    own.Nodup ∧
    (((syncParameters m).map Parameter.name).Nodup ↔ "parameters" ∉ own) ∧
    (((asyncParameters name m).map Parameter.name).Nodup ↔
      ∀ fixed ∈ ["parameters", "queue", "completion"], fixed ∉ own) := by
  have hn := nodup_parameters h hm
  intro own
  have hsync : (syncParameters m).map Parameter.name = own ++ ["parameters"] := by
    simp [syncParameters, ownParameters, own, Function.comp_def]
  have hasync : (asyncParameters name m).map Parameter.name =
      own ++ ["parameters", "queue", "completion"] := by
    simp [asyncParameters, ownParameters, own, Function.comp_def]
  have hiff {fixed : List String} (hf : fixed.Nodup) :
      (own ++ fixed).Nodup ↔ ∀ x ∈ fixed, x ∉ own := by
    rw [List.nodup_append]
    exact ⟨fun ⟨_, _, hd⟩ x hx hm => hd x hm x hx rfl,
      fun hd => ⟨hn, hf, fun a ha b hb he => hd b hb (he ▸ ha)⟩⟩
  refine ⟨?_, hsync, hasync, hn, ?_, ?_⟩
  · refine ⟨[call "requestSync" name (bridgingLiteral m.parameters.sorted) ++ ")", "    \x7d", ""],
      [call "requestAsync" name (bridgingLiteral m.parameters.sorted) ++ ",",
        pad ++ "queue: queue, completion: completion)", "    \x7d", "", ""], ?_⟩
    rw [methodLines_eq]
    simp only [List.append_assoc, List.cons_append, List.nil_append]
  · rw [hsync, hiff (by simp), List.forall_mem_singleton]
  · rw [hasync, hiff (by decide)]

/-- A schema with a method that takes one text. -/
def oneParameter (name : String) : Schema where
  types := .empty
  methods := ⟨[("poll", ⟨⟨[(name, .single "String")], by simp⟩, .single "Bool"⟩)], by simp⟩
  sourceFile := none

theorem parameter_names_of_chat_id :
    (findings (oneParameter "chat_id") .usual).isValid = true ∧
      ∀ name m, (name, m) ∈ (oneParameter "chat_id").methods.toList →
        ((syncParameters m).map Parameter.name).Nodup ∧
          ((asyncParameters name m).map Parameter.name).Nodup := by
  have hv : (findings (oneParameter "chat_id") .usual).isValid = true := by decide
  refine ⟨hv, fun name m hm => ?_⟩
  obtain ⟨-, -, -, -, hsync, hasync⟩ := parameter_names_nodup_iff hv hm
  obtain ⟨rfl, rfl⟩ := Prod.mk.inj (List.mem_singleton.mp hm)
  exact ⟨hsync.mpr (by decide), hasync.mpr (by decide)⟩

/-- A function of a schema without errors may have two parameters of one name. -/
theorem parameter_names_not_nodup :
    ¬ ∀ (s : Schema) (c : Config), (findings s c).isValid = true →
      ∀ name m, (name, m) ∈ s.methods.toList →
        ((syncParameters m).map Parameter.name).Nodup ∧
          ((asyncParameters name m).map Parameter.name).Nodup := by
  intro h
  have hq := (h (oneParameter "queue") .usual (by decide) _ _ (List.mem_singleton.mpr rfl)).2
  exact absurd hq (by decide)

end Validation
end ClientGen
