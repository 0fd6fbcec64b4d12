import ClientGen.Code.Request
import ClientGen.Proofs.CaseImages
import ClientGen.Proofs.Order

/-! The code of a method, line by line. Where no line break comes in through a name or a type, the
parameters that its two functions declare and the arguments that they pass can be read back. -/

namespace ClientGen
namespace Code

open Identifier Text

/-! ## Reading the code of a method -/

/-- The parameters on the lines behind the opening of a function, up to those that every function
has. -/
def declaredParameters (opening text : String) : List String :=
  linesBetween opening (pad ++ "_ parameters:") (Text.lines text)

/-- The call of a request up to the arguments. -/
def callFront (request name : String) : String :=
  "        return " ++ request ++ "(\"" ++ name ++ "\", defaultParameters[\"" ++ name ++
    "\"], parameters, "

theorem call_eq_callFront (request name literal : String) :
    call request name literal = callFront request name ++ literal := by
  unfold call callFront
  rfl

/-- The literal of arguments in the call of a request, if the call ends with `back`. -/
def passed? (request name back text : String) : Option String :=
  between? (callFront request name) back
    (unlines (linesFrom (callFront request name) "    \x7d" (Text.lines text)))

/-- The pairs on the rows of a literal, with a comma behind each but the last. -/
def rowPairs? : List String → Option (List String)
  | [] => none
  | [row] => (between? pad "]" row).map fun pair => [pair]
  | row :: rest =>
    (between? pad "," row).bind fun pair => (rowPairs? rest).map fun pairs => pair :: pairs

/-- The pairs of a literal of arguments. -/
def pairs? (literal : String) : Option (List String) :=
  if literal = "[:]" then some []
  else match Text.lines literal with
    | [] => none
    | first :: rows => if first = "[" then rowPairs? rows else none

section Literal

/-! ## The lines of a literal -/

/-- The rows of a literal with at least one pair. -/
def literalRows (close : String) : List (String × Field) → List String
  | [] => []
  | [p] => [pad ++ bridgingPair p ++ close]
  | p :: rest => (pad ++ bridgingPair p ++ ",") :: literalRows close rest

/-- The lines of a literal between two texts. -/
def literalLines (front back : String) (ps : List (String × Field)) : List String :=
  if ps = [] then [front ++ "[:]" ++ back] else (front ++ "[") :: literalRows ("]" ++ back) ps

variable {front back close : String} {ps : List (String × Field)}

theorem literalRows_ne_nil (h : ps ≠ []) : literalRows close ps ≠ [] := by
  match ps with
  | [] => exact absurd rfl h
  | [p] => simp [literalRows]
  | p :: q :: rest => simp [literalRows]

theorem unlines_literalRows (close : String) (h : ps ≠ []) :
    unlines (literalRows close ps) = bridgingLines ps ++ close := by
  induction ps with
  | nil => exact absurd rfl h
  | cons p rest ih =>
    cases rest with
    | nil => rw [literalRows, unlines_singleton, bridgingLines]
    | cons q rest =>
      have hrows : literalRows close (p :: q :: rest) =
          (pad ++ bridgingPair p ++ ",") :: literalRows close (q :: rest) := rfl
      have hlines : bridgingLines (p :: q :: rest) =
          pad ++ bridgingPair p ++ ",\n" ++ bridgingLines (q :: rest) := rfl
      have hcomma : ",\n" = "," ++ "\n" := by decide
      rw [hrows, unlines_cons_of_ne_nil _ (literalRows_ne_nil (by simp)), ih (by simp), hlines,
        hcomma]
      simp only [String.append_assoc]

theorem unlines_literalLines (front back : String) (ps : List (String × Field)) :
    unlines (literalLines front back ps) = front ++ bridgingLiteral ps ++ back := by
  by_cases h : ps = []
  · subst h
    rw [literalLines, if_pos rfl, unlines_singleton]
    rfl
  · have hopen : "[\n" = "[" ++ "\n" := by decide
    rw [literalLines, if_neg h, unlines_cons_of_ne_nil _ (literalRows_ne_nil h),
      unlines_literalRows _ h, bridgingLiteral, if_neg (by simpa using h), hopen]
    simp only [String.append_assoc]

theorem unbroken_bridgingPair {p : String × Field} (h : Unbroken p.1) :
    Unbroken (bridgingPair p) := by
  simp +decide [bridgingPair, h, unbroken_camelized h]

theorem unbroken_literalRows (h : ∀ p ∈ ps, Unbroken p.1) (hc : Unbroken close) :
    ∀ row ∈ literalRows close ps, Unbroken row := by
  have hpad : Unbroken pad := by decide
  induction ps with
  | nil => simp [literalRows]
  | cons p rest ih =>
    rw [List.forall_mem_cons] at h
    have hpair := unbroken_bridgingPair h.1
    cases rest with
    | nil => simp [literalRows, hpad, hpair, hc]
    | cons q rest =>
      simp only [literalRows, List.forall_mem_cons]
      exact ⟨by simp +decide [hpair], ih h.2⟩

theorem startsWith_literalRows : ∀ row ∈ literalRows close ps, startsWith pad row = true := by
  induction ps with
  | nil => simp [literalRows]
  | cons p rest ih =>
    cases rest with
    | nil => simp [literalRows, String.append_assoc, startsWith_append]
    | cons q rest =>
      simp only [literalRows, List.forall_mem_cons, String.append_assoc]
      exact ⟨startsWith_append _ _, ih⟩

theorem lines_literal (hf : Unbroken front) (hb : Unbroken back) (h : ∀ p ∈ ps, Unbroken p.1) :
    Text.lines (front ++ bridgingLiteral ps ++ back) = literalLines front back ps := by
  have hne : literalLines front back ps ≠ [] := by
    unfold literalLines
    split <;> simp
  have hall : ∀ line ∈ literalLines front back ps, Unbroken line := by
    unfold literalLines
    split
    · simp +decide [hf, hb]
    · rw [List.forall_mem_cons]
      exact ⟨by simp +decide [hf], unbroken_literalRows h (by simp +decide [hb])⟩
  rw [← unlines_literalLines, lines_unlines hne, flatMap_lines hall]

theorem rowPairs?_literalRows (h : ps ≠ []) :
    rowPairs? (literalRows "]" ps) = some (ps.map bridgingPair) := by
  induction ps with
  | nil => exact absurd rfl h
  | cons p rest ih =>
    cases rest with
    | nil =>
      have hpair := between?_eq_some_iff.mpr (Eq.refl (pad ++ bridgingPair p ++ "]"))
      simp [literalRows, rowPairs?, hpair]
    | cons q rest =>
      have hpair := between?_eq_some_iff.mpr (Eq.refl (pad ++ bridgingPair p ++ ","))
      have hrest := ih (by simp)
      have hne : literalRows "]" (q :: rest) ≠ [] := literalRows_ne_nil (by simp)
      obtain ⟨row, rows, hrows⟩ := List.exists_cons_of_ne_nil hne
      rw [hrows] at hrest
      simp [literalRows, hrows, rowPairs?, hpair, hrest]

theorem bridgingLiteral_eq_iff : bridgingLiteral ps = "[:]" ↔ ps = [] := by
  constructor
  · intro h
    by_contra hne
    rw [bridgingLiteral, if_neg (by simpa using hne)] at h
    have hl := congrArg String.toList h
    simp at hl
  · rintro rfl
    rfl

/-- The pairs of the literal of arguments are read back from it. -/
theorem pairs?_bridgingLiteral (h : ∀ p ∈ ps, Unbroken p.1) :
    pairs? (bridgingLiteral ps) = some (ps.map bridgingPair) := by
  unfold pairs?
  split
  · next hs => simp [bridgingLiteral_eq_iff.mp hs]
  · next hs =>
    have hne : ps ≠ [] := fun e => hs (bridgingLiteral_eq_iff.mpr e)
    have hlines : Text.lines ("" ++ bridgingLiteral ps ++ "") = literalLines "" "" ps :=
      lines_literal (by decide) (by decide) h
    rw [String.empty_append, String.append_empty, literalLines, if_neg hne,
      String.empty_append, String.append_empty] at hlines
    simp [hlines, rowPairs?_literalRows hne]

end Literal

section Methods

/-! ## The lines of a method -/

variable {name : String} {m : Method}

theorem unbroken_typeName {f : Field} (h : Unbroken f.type) : Unbroken (typeName f) := by
  have hbase : Unbroken (if isLiteralTrue f then "Bool" else f.type) := by
    split
    · decide
    · exact h
  have hoptional : Unbroken (if f.isOptional then "?" else "") := by
    split <;> decide
  rw [typeName]
  refine unbroken_append.mpr ⟨?_, hoptional⟩
  split
  · simp +decide [hbase]
  · split
    · simp +decide [hbase]
    · exact hbase

/-- The lines of the parameters that both functions have from the schema. -/
def signatureLines (m : Method) : List String :=
  m.parameters.sorted.map fun p => pad ++ parameterItem p

theorem unbroken_signatureLines
    (h : ∀ p ∈ m.parameters.toList, Unbroken p.1 ∧ Unbroken p.2.type) :
    ∀ line ∈ signatureLines m, Unbroken line := by
  intro line hl
  obtain ⟨p, hp, rfl⟩ := List.mem_map.mp hl
  obtain ⟨hkey, htype⟩ := h p (Table.mem_sorted.mp hp)
  have hinitial : Unbroken (if p.2.isOptional then " = nil" else "") := by
    split <;> decide
  simp +decide [parameterItem, unbroken_camelized hkey, unbroken_typeName htype, hinitial]

theorem startsWith_signatureLines : ∀ line ∈ signatureLines m, startsWith pad line = true := by
  intro line hl
  obtain ⟨p, -, rfl⟩ := List.mem_map.mp hl
  exact startsWith_append _ _

/-- No parameter from the schema looks like the one that every function has, because joined words
have no underline. -/
theorem not_parameters_signatureLines :
    ∀ line ∈ signatureLines m, startsWith (pad ++ "_ parameters:") line = false := by
  intro line hl
  obtain ⟨p, -, rfl⟩ := List.mem_map.mp hl
  rw [startsWith_append_append]
  have hunderline := underline_not_mem_camelized p.1
  simp only [parameterItem, startsWith, String.toList_append, List.append_assoc]
  -- What follows the depth is a colon or a character of the joined words.
  cases hs : (camelized p.1).toList with
  | nil => simp [List.isPrefixOf]
  | cons c rest =>
    rw [hs, List.mem_cons, not_or] at hunderline
    simp [List.isPrefixOf, hunderline.1]

/-- A body is the call of a request, with deeper lines below. -/
def IsBody (request name : String) (body : List String) : Prop :=
  ∃ rest inner, body = (callFront request name ++ rest) :: inner ∧
    ∀ line ∈ inner, startsWith pad line = true

theorem isBody_call {request back : String} (hr : Unbroken request) (hn : Unbroken name)
    (hb : Unbroken back) (h : ∀ p ∈ m.parameters.toList, Unbroken p.1 ∧ Unbroken p.2.type) :
    IsBody request name
      (Text.lines (call request name (bridgingLiteral m.parameters.sorted) ++ back)) := by
  have hfront : Unbroken (callFront request name) := by
    unfold callFront
    simp +decide [hr, hn]
  have hwires : ∀ p ∈ m.parameters.sorted, Unbroken p.1 :=
    fun p hp => (h p (Table.mem_sorted.mp hp)).1
  have hlines := lines_literal hfront hb hwires
  rw [call_eq_callFront, hlines, literalLines]
  split
  · exact ⟨"[:]" ++ back, [], by simp only [String.append_assoc], by simp⟩
  · exact ⟨"[", _, rfl, startsWith_literalRows⟩

/-- The first lines of the code of a method. -/
def headLines (name : String) (m : Method) : List String :=
  ["    typealias " ++ completionName name ++ " = (_ result: " ++ typeName m.result ++
      ", _ error: DataTaskError?) -> ()",
    "",
    "    @discardableResult"]

/-- The parameter that the function that waits has behind those from the schema. -/
def syncUsual (m : Method) : List String :=
  [pad ++ "_ parameters: [String: Any?] = [:]) -> " ++ typeName m.result ++ " \x7b"]

/-- The parameters that the function that does not wait has behind those from the schema. -/
def asyncUsual (name : String) : List String :=
  [pad ++ "_ parameters: [String: Any?] = [:],",
    pad ++ "queue: DispatchQueue = .main,",
    pad ++ "completion: " ++ completionName name ++ "? = nil) \x7b"]

/-- The body of the function that waits. -/
def syncBody (name : String) (m : Method) : List String :=
  Text.lines (call "requestSync" name (bridgingLiteral m.parameters.sorted) ++ ")")

/-- The body of the function that does not wait. -/
def asyncBody (name : String) (m : Method) : List String :=
  Text.lines (call "requestAsync" name (bridgingLiteral m.parameters.sorted) ++ ",") ++
    [pad ++ "queue: queue, completion: completion)"]

/-- The lines of a function. -/
def functionLines (m : Method) (opening : String) (usual body : List String) : List String :=
  opening :: (signatureLines m ++ usual ++ body ++ ["    \x7d", ""])

/-- The lines of a method are those of its two functions behind its head. -/
theorem lines_methodText (hn : Unbroken name) (hr : Unbroken m.result.type)
    (h : ∀ p ∈ m.parameters.toList, Unbroken p.1 ∧ Unbroken p.2.type) :
    Text.lines (methodText name m) =
      headLines name m ++
        (functionLines m ("    func " ++ name ++ "Sync(") (syncUsual m) (syncBody name m) ++
        (functionLines m ("    func " ++ name ++ "Async(") (asyncUsual name) (asyncBody name m) ++
          [""])) := by
  have hcompletion : Unbroken (completionName name) := by
    simp +decide [completionName, unbroken_capitalized hn]
  have hresult := unbroken_typeName hr
  have hhead : ∀ line ∈ headLines name m, Unbroken line := by
    simp +decide [headLines, hcompletion, hresult]
  have hsync : ∀ line ∈ syncUsual m, Unbroken line := by
    simp +decide [syncUsual, hresult]
  have hasync : ∀ line ∈ asyncUsual name, Unbroken line := by
    simp +decide [asyncUsual, hcompletion]
  have hopen : Unbroken ("    func " ++ name ++ "Sync(") ∧
      Unbroken ("    func " ++ name ++ "Async(") := by
    simp +decide [hn]
  have hqueue : Unbroken (pad ++ "queue: queue, completion: completion)") := by decide
  have hend : Unbroken "    \x7d" ∧ Unbroken "" := by decide
  have hmethod : methodLines name m = headLines name m ++
      ("    func " ++ name ++ "Sync(") :: (signatureLines m ++ syncUsual m ++
        [call "requestSync" name (bridgingLiteral m.parameters.sorted) ++ ")"] ++
        ["    \x7d", "", "    func " ++ name ++ "Async("] ++
        signatureLines m ++ asyncUsual name ++
        [call "requestAsync" name (bridgingLiteral m.parameters.sorted) ++ ",",
          pad ++ "queue: queue, completion: completion)", "    \x7d", "", ""]) := by
    simp only [methodLines, headLines, signatureLines, syncUsual, asyncUsual, List.append_assoc,
      List.cons_append, List.nil_append]
  rw [methodText, lines_unlines (by simp [hmethod]), hmethod]
  simp only [List.flatMap_append, List.flatMap_cons, List.flatMap_nil, flatMap_lines hhead,
    flatMap_lines hsync, flatMap_lines hasync, flatMap_lines (unbroken_signatureLines h),
    lines_of_unbroken hopen.1, lines_of_unbroken hopen.2, lines_of_unbroken hqueue,
    lines_of_unbroken hend.1, lines_of_unbroken hend.2, functionLines, syncBody, asyncBody,
    List.append_assoc, List.cons_append, List.nil_append]

/-! ## Reading the two functions -/

variable {opening : String} {usual body front : List String}

/-- The parameters of a function are read from behind its opening. -/
theorem linesBetween_functionLines {last : String} {more : List String} (hf : opening ∉ front)
    (hu : usual = last :: more) (hl : startsWith (pad ++ "_ parameters:") last = true)
    (rest : List String) :
    linesBetween opening (pad ++ "_ parameters:")
      (front ++ (functionLines m opening usual body ++ rest)) = signatureLines m := by
  have hlines : front ++ (functionLines m opening usual body ++ rest) =
      front ++ opening :: (signatureLines m ++
        last :: (more ++ (body ++ (["    \x7d", ""] ++ rest)))) := by
    simp [functionLines, hu]
  rw [hlines, linesBetween_append hf not_parameters_signatureLines hl]

/-- The body of a function is read from its first line on. -/
theorem linesFrom_functionLines {start first : String} {inner : List String}
    (hf : ∀ line ∈ front ++ opening :: (signatureLines m ++ usual), startsWith start line = false)
    (hb : body = first :: inner) (hs : startsWith start first = true) (hi : "    \x7d" ∉ body)
    (rest : List String) :
    linesFrom start "    \x7d" (front ++ (functionLines m opening usual body ++ rest)) = body := by
  have hlines : front ++ (functionLines m opening usual body ++ rest) =
      (front ++ opening :: (signatureLines m ++ usual)) ++
        first :: (inner ++ "    \x7d" :: ("" :: rest)) := by
    simp [functionLines, hb]
  rw [hb] at hi
  rw [hlines, linesFrom_append hf hs hi, hb]

theorem not_callFront {request line : String} (h : startsWith "        return " line = false) :
    startsWith (callFront request name) line = false := by
  unfold callFront
  simp only [String.append_assoc]
  exact not_startsWith_longer (startsWith_append _ _) h

theorem not_callFront_of_pad {request line : String} (h : startsWith pad line = true) :
    startsWith (callFront request name) line = false :=
  not_callFront (not_startsWith_of_startsWith (by decide) h)

theorem startsWith_syncUsual : ∀ line ∈ syncUsual m, startsWith pad line = true := by
  simp only [syncUsual, List.forall_mem_singleton, String.append_assoc]
  exact startsWith_append _ _

theorem startsWith_asyncUsual : ∀ line ∈ asyncUsual name, startsWith pad line = true := by
  simp only [asyncUsual, List.forall_mem_cons, String.append_assoc]
  exact ⟨startsWith_append _ _, startsWith_append _ _, startsWith_append _ _, by simp⟩

/-- Nothing before the body of a function looks like the call of a request. -/
theorem not_callFront_opened {request kind : String}
    (hu : ∀ line ∈ usual, startsWith pad line = true) :
    ∀ line ∈ ("    func " ++ name ++ kind) :: (signatureLines m ++ usual),
      startsWith (callFront request name) line = false := by
  simp only [List.forall_mem_cons, List.forall_mem_append]
  refine ⟨not_callFront ?_, fun line hl => not_callFront_of_pad (startsWith_signatureLines line hl),
    fun line hl => not_callFront_of_pad (hu line hl)⟩
  simp [startsWith, List.isPrefixOf]

theorem not_callFront_headLines {request : String} :
    ∀ line ∈ headLines name m, startsWith (callFront request name) line = false := by
  simp only [headLines, List.forall_mem_cons]
  refine ⟨not_callFront ?_, not_callFront (by decide), not_callFront (by decide), by simp⟩
  simp [startsWith, List.isPrefixOf]

theorem not_mem_of_not_func {kind : String} {ls : List String}
    (h : ∀ line ∈ ls, startsWith "    func " line = false) : "    func " ++ name ++ kind ∉ ls := by
  intro hm
  have hfunc := h _ hm
  rw [String.append_assoc, startsWith_append] at hfunc
  cases hfunc

theorem not_func_headLines : ∀ line ∈ headLines name m, startsWith "    func " line = false := by
  simp only [headLines, List.forall_mem_cons]
  refine ⟨?_, by decide, by decide, by simp⟩
  simp [startsWith, List.isPrefixOf]

/-- A line at the depth of a body closes no function and opens none. -/
theorem close_ne_of_deep {line : String} (h : startsWith "        " line = true) :
    "    \x7d" ≠ line ∧ startsWith "    func " line = false := by
  refine ⟨?_, not_startsWith_of_startsWith (by decide) h⟩
  rintro rfl
  exact absurd h (by decide)

theorem deep_of_pad {line : String} (h : startsWith pad line = true) :
    startsWith "        " line = true :=
  startsWith_trans (startsWith_literal rfl) h

theorem deep_callFront (request rest : String) :
    startsWith "        " (callFront request name ++ rest) = true := by
  have hreturn : "        return " = "        " ++ "return " := by decide
  unfold callFront
  rw [hreturn]
  simp only [String.append_assoc]
  exact startsWith_append _ _

theorem IsBody.deep {request : String} (h : IsBody request name body) :
    ∀ line ∈ body, startsWith "        " line = true := by
  obtain ⟨rest, inner, rfl, hi⟩ := h
  rw [List.forall_mem_cons]
  exact ⟨deep_callFront request rest, fun line hl => deep_of_pad (hi line hl)⟩

theorem IsBody.close_not_mem {request : String} (h : IsBody request name body) :
    "    \x7d" ∉ body :=
  fun hm => (close_ne_of_deep (h.deep _ hm)).1 rfl

theorem isBody_syncBody (hn : Unbroken name)
    (h : ∀ p ∈ m.parameters.toList, Unbroken p.1 ∧ Unbroken p.2.type) :
    IsBody "requestSync" name (syncBody name m) :=
  isBody_call (by decide) hn (by decide) h

theorem isBody_asyncBody (hn : Unbroken name)
    (h : ∀ p ∈ m.parameters.toList, Unbroken p.1 ∧ Unbroken p.2.type) :
    IsBody "requestAsync" name (asyncBody name m) := by
  obtain ⟨rest, inner, hb, hi⟩ : IsBody "requestAsync" name
      (Text.lines (call "requestAsync" name (bridgingLiteral m.parameters.sorted) ++ ",")) :=
    isBody_call (by decide) hn (by decide) h
  refine ⟨rest, inner ++ [pad ++ "queue: queue, completion: completion)"], ?_, ?_⟩
  · rw [asyncBody, hb, List.cons_append]
  · simp only [List.forall_mem_append, List.forall_mem_singleton]
    exact ⟨hi, startsWith_append _ _⟩

/-- Nothing in the first function opens the second one. -/
theorem async_not_mem (hb : IsBody "requestSync" name (syncBody name m)) :
    "    func " ++ name ++ "Async(" ∉ headLines name m ++
      functionLines m ("    func " ++ name ++ "Sync(") (syncUsual m) (syncBody name m) := by
  have hopen : "    func " ++ name ++ "Async(" ≠ "    func " ++ name ++ "Sync(" := by
    intro he
    simpa using congrArg String.toList he
  have hlower : ∀ line ∈ signatureLines m ++ syncUsual m ++ syncBody name m ++ ["    \x7d", ""],
      startsWith "    func " line = false := by
    simp only [List.forall_mem_append, List.forall_mem_cons]
    exact ⟨⟨⟨fun l hl => (close_ne_of_deep (deep_of_pad (startsWith_signatureLines l hl))).2,
      fun l hl => (close_ne_of_deep (deep_of_pad (startsWith_syncUsual l hl))).2⟩,
      fun l hl => (close_ne_of_deep (hb.deep l hl)).2⟩, by decide, by decide, by simp⟩
  rw [functionLines, List.mem_append, List.mem_cons, not_or, not_or]
  exact ⟨not_mem_of_not_func not_func_headLines, hopen, not_mem_of_not_func hlower⟩

/-- Nothing before the body of the second function looks like its call. -/
theorem not_async_call (hb : IsBody "requestSync" name (syncBody name m)) :
    ∀ line ∈ headLines name m ++
      functionLines m ("    func " ++ name ++ "Sync(") (syncUsual m) (syncBody name m),
      startsWith (callFront "requestAsync" name) line = false := by
  obtain ⟨rest, inner, hbody, hi⟩ := hb
  have hfirst : startsWith (callFront "requestAsync" name)
      (callFront "requestSync" name ++ rest) = false := by
    -- The two calls differ in the name of the request, right behind the same keyword.
    unfold callFront
    simp only [String.append_assoc]
    rw [startsWith_append_append]
    simp [startsWith, List.isPrefixOf]
  have hopened : ∀ line ∈ ("    func " ++ name ++ "Sync(") :: (signatureLines m ++ syncUsual m),
      startsWith (callFront "requestAsync" name) line = false :=
    not_callFront_opened startsWith_syncUsual
  rw [List.forall_mem_cons] at hopened
  rw [functionLines, hbody]
  simp only [List.forall_mem_append, List.forall_mem_cons] at hopened ⊢
  exact ⟨not_callFront_headLines, hopened.1, ⟨⟨hopened.2.1, hopened.2.2⟩, hfirst,
    fun line hl => not_callFront_of_pad (hi line hl)⟩, not_callFront (by decide),
    not_callFront (by decide), by simp⟩

theorem declaredParameters_methodText (hn : Unbroken name) (hr : Unbroken m.result.type)
    (h : ∀ p ∈ m.parameters.toList, Unbroken p.1 ∧ Unbroken p.2.type) :
    declaredParameters ("    func " ++ name ++ "Sync(") (methodText name m) = signatureLines m ∧
      declaredParameters ("    func " ++ name ++ "Async(") (methodText name m) =
        signatureLines m := by
  have hparameters (rest : String) :
      startsWith (pad ++ "_ parameters:") (pad ++ ("_ parameters:" ++ rest)) = true := by
    rw [startsWith_append_append, startsWith_append]
  have hsync : startsWith (pad ++ "_ parameters:")
      (pad ++ "_ parameters: [String: Any?] = [:]) -> " ++ typeName m.result ++ " \x7b") =
        true := by
    have hsplit : "_ parameters: [String: Any?] = [:]) -> " =
        "_ parameters:" ++ " [String: Any?] = [:]) -> " := by decide
    rw [hsplit]
    simp only [String.append_assoc]
    exact hparameters _
  have hasync : startsWith (pad ++ "_ parameters:")
      (pad ++ "_ parameters: [String: Any?] = [:],") = true := by decide
  rw [declaredParameters, declaredParameters, lines_methodText hn hr h]
  constructor
  · exact linesBetween_functionLines (not_mem_of_not_func not_func_headLines) rfl hsync _
  · rw [← List.append_assoc]
    exact linesBetween_functionLines (async_not_mem (isBody_syncBody hn h)) rfl hasync _

theorem passed?_methodText (hn : Unbroken name) (hr : Unbroken m.result.type)
    (h : ∀ p ∈ m.parameters.toList, Unbroken p.1 ∧ Unbroken p.2.type) :
    passed? "requestSync" name ")" (methodText name m) =
        some (bridgingLiteral m.parameters.sorted) ∧
      passed? "requestAsync" name ",\n            queue: queue, completion: completion)"
        (methodText name m) = some (bridgingLiteral m.parameters.sorted) := by
  have hsync := isBody_syncBody hn h
  have hasync := isBody_asyncBody hn h
  have hsyncFront : ∀ line ∈
      headLines name m ++ ("    func " ++ name ++ "Sync(") :: (signatureLines m ++ syncUsual m),
      startsWith (callFront "requestSync" name) line = false :=
    List.forall_mem_append.mpr ⟨not_callFront_headLines, not_callFront_opened startsWith_syncUsual⟩
  have hasyncFront : ∀ line ∈
      headLines name m ++
        functionLines m ("    func " ++ name ++ "Sync(") (syncUsual m) (syncBody name m) ++
        ("    func " ++ name ++ "Async(") :: (signatureLines m ++ asyncUsual name),
      startsWith (callFront "requestAsync" name) line = false :=
    List.forall_mem_append.mpr ⟨not_async_call hsync, not_callFront_opened startsWith_asyncUsual⟩
  have hsyncClose := hsync.close_not_mem
  have hasyncClose := hasync.close_not_mem
  obtain ⟨_, _, hsyncBody, -⟩ := hsync
  obtain ⟨_, _, hasyncBody, -⟩ := hasync
  rw [passed?, passed?, lines_methodText hn hr h]
  constructor
  · rw [linesFrom_functionLines hsyncFront hsyncBody (startsWith_append _ _) hsyncClose, syncBody,
      unlines_lines, call_eq_callFront]
    exact between?_eq_some_iff.mpr rfl
  · have hqueue : ",\n            queue: queue, completion: completion)" =
        "," ++ "\n" ++ (pad ++ "queue: queue, completion: completion)") := by decide
    rw [← List.append_assoc, linesFrom_functionLines hasyncFront hasyncBody (startsWith_append _ _)
      hasyncClose, asyncBody, unlines_lines_append _ (by decide), call_eq_callFront, hqueue]
    refine between?_eq_some_iff.mpr ?_
    simp only [String.append_assoc]

/-- The code of a method can be read back. Both functions declare the same parameters, in the order
of the wire names, and pass the same literal, which pairs each wire name with the parameter that is
declared for it. -/
theorem method_read_back (name : String) (m : Method) (hname : Unbroken name)
    (hresult : Unbroken m.result.type)
    (hparameters : ∀ p ∈ m.parameters.toList, Unbroken p.1 ∧ Unbroken p.2.type) :
    ∃ parameters : List (String × Field),
      parameters.Perm m.parameters.toList ∧ parameters.Pairwise (fun p q => p.1 < q.1) ∧
      (∀ opening ∈ ["    func " ++ name ++ "Sync(", "    func " ++ name ++ "Async("],
        declaredParameters opening (methodText name m) =
          parameters.map fun p => pad ++ (camelized p.1 ++ ": " ++ typeName p.2 ++
            (if p.2.isOptional then " = nil" else "") ++ ",")) ∧
      ∃ literal,
        passed? "requestSync" name ")" (methodText name m) = some literal ∧
        passed? "requestAsync" name ",\n            queue: queue, completion: completion)"
          (methodText name m) = some literal ∧
        pairs? literal = some (parameters.map fun p => "\"" ++ p.1 ++ "\": " ++ camelized p.1) ∧
        (literal = "[:]" ↔ m.parameters.toList = []) := by
  obtain ⟨hsync, hasync⟩ := declaredParameters_methodText hname hresult hparameters
  obtain ⟨hsyncLiteral, hasyncLiteral⟩ := passed?_methodText hname hresult hparameters
  have hperm : m.parameters.sorted.Perm m.parameters.toList := sortByKey_perm _
  have hwires : ∀ p ∈ m.parameters.sorted, Unbroken p.1 :=
    fun p hp => (hparameters p (Table.mem_sorted.mp hp)).1
  have hpairs := pairs?_bridgingLiteral hwires
  refine ⟨m.parameters.sorted, hperm, m.parameters.sorted_ascending, ?_,
    bridgingLiteral m.parameters.sorted, hsyncLiteral, hasyncLiteral, hpairs, ?_⟩
  · simp only [List.forall_mem_cons]
    exact ⟨hsync, hasync, by simp⟩
  · rw [bridgingLiteral_eq_iff]
    exact ⟨fun e => (e ▸ hperm).nil_eq.symm, fun e => (e ▸ hperm).eq_nil⟩

/-- A method with three parameters, one of which may be absent. -/
def remind : Method where
  parameters := ⟨[("text", .single "String"), ("chat_id", .single "Int64"),
    ("after", ⟨"Int", false, false, true⟩)], by decide⟩
  result := .single "Message"

/-- Of the method with three parameters both functions declare three and pass three pairs. -/
theorem remind_read_back :
    (declaredParameters "    func remindSync(" (methodText "remind" remind)).length = 3 ∧
      declaredParameters "    func remindAsync(" (methodText "remind" remind) =
        declaredParameters "    func remindSync(" (methodText "remind" remind) ∧
      ∃ literal pairs,
        passed? "requestSync" "remind" ")" (methodText "remind" remind) = some literal ∧
        literal ≠ "[:]" ∧ pairs? literal = some pairs ∧ pairs.length = 3 := by
  obtain ⟨parameters, hperm, -, hdeclared, literal, hsync, -, hpairs, hempty⟩ :=
    method_read_back "remind" remind (by decide) (by decide) (by decide)
  rw [List.forall_mem_cons, List.forall_mem_singleton] at hdeclared
  have hthree : parameters.length = 3 := hperm.length_eq
  refine ⟨?_, hdeclared.2.trans hdeclared.1.symm, literal, _, hsync, ?_, hpairs, ?_⟩
  · rw [show "    func remindSync(" = "    func " ++ "remind" ++ "Sync(" by decide, hdeclared.1,
      List.length_map, hthree]
  · exact fun e => List.cons_ne_nil _ _ (hempty.mp e)
  · rw [List.length_map, hthree]

end Methods
end Code
end ClientGen
