import ClientGen.Code.Request
import ClientGen.Proofs.Names

/-! Wire names between quotation marks. They are written as they stand; of a schema without errors
those that the checks see through an accessor, a method or a parameter can be read back. -/

namespace ClientGen
namespace Text

/-- The characters that end a line. -/
def lineBreaks : List Char :=
  ['\n', '\x0b', '\x0c', '\r', '\x1c', '\x1d', '\x1e', '\u0085', '\u2028', '\u2029']

/-- A character that case mappings leave alone, wherever it stands. -/
def Caseless (ch : Char) : Prop :=
  ch ≠ 'Σ' ∧ lowerChar ch = [ch] ∧ upperChar ch = [ch]

instance (ch : Char) : Decidable (Caseless ch) :=
  inferInstanceAs (Decidable (_ ∧ _ ∧ _))

theorem Caseless.mem_lowerAfter {ch : Char} (h : Caseless ch) {cs : List Char} (hm : ch ∈ cs)
    (before : List Char) : ch ∈ lowerAfter before cs := by
  induction cs generalizing before with
  | nil => simp at hm
  | cons c rest ih =>
    rw [lowerAfter, List.mem_append]
    rcases List.mem_cons.mp hm with rfl | hm
    · rw [if_neg h.1, h.2.1]
      exact .inl (by simp)
    · exact .inr (ih hm _)

end Text

namespace Identifier

open Text

theorem mem_titled {ch : Char} (h : Caseless ch) {part : List Char} (hm : ch ∈ part) :
    ch ∈ titled part := by
  cases part with
  | nil => simp at hm
  | cons c rest =>
    rw [titled, List.mem_append]
    rcases List.mem_cons.mp hm with rfl | hm
    · rw [h.2.2]
      exact .inl (by simp)
    · exact .inr (h.mem_lowerAfter hm [])

/-- Joining the words of a name loses underlines only. -/
theorem mem_camelized {ch : Char} (h : Caseless ch) (hne : ch ≠ '_') {s : String}
    (hm : ch ∈ s.toList) : ch ∈ (camelized s).toList := by
  obtain ⟨part, hp, hm⟩ := exists_mem_split hm hne
  rw [camelized, String.toList_ofList]
  cases hs : split '_' s.toList with
  | nil => exact absurd hs (split_ne_nil _ _)
  | cons first rest =>
    rw [hs] at hp
    rw [joinWords, List.mem_append]
    rcases List.mem_cons.mp hp with rfl | hp
    · exact .inl (h.mem_lowerAfter hm [])
    · exact .inr (List.mem_flatMap.mpr ⟨part, hp, mem_titled h hm⟩)

/-- Nothing in the text ends a literal or means something else in it, line feeds aside. -/
def Plain (s : String) : Prop :=
  ∀ ch ∈ s.toList, ch ≠ '"' ∧ ch ≠ '\\' ∧ (ch ∈ lineBreaks → ch = '\n')

/-- The characters that are not plain. -/
def special : List Char :=
  '"' :: '\\' :: lineBreaks.filter (· != '\n')

theorem plain_iff (s : String) : Plain s ↔ ∀ ch ∈ special, ch ∉ s.toList := by
  constructor
  · intro h ch hs hm
    obtain ⟨hq, hb, hl⟩ := h ch hm
    simp only [special, List.mem_cons, List.mem_filter, bne_iff_ne, ne_eq] at hs
    rcases hs with hs | hs | ⟨hs, hn⟩
    · exact hq hs
    · exact hb hs
    · exact hn (hl hs)
  · intro h ch hm
    refine ⟨fun e => h ch (by simp [special, e]) hm, fun e => h ch (by simp [special, e]) hm, ?_⟩
    intro hl
    by_cases hn : ch = '\n'
    · exact hn
    · exact absurd hm (h ch (by simp [special, hl, hn]))

theorem special_caseless {ch : Char} (h : ch ∈ special) : Caseless ch ∧ ch ≠ '_' := by
  have hall : (special.all fun ch => decide (Caseless ch ∧ ch ≠ '_')) = true := by
    decide +kernel
  exact of_decide_eq_true (List.all_eq_true.mp hall ch h)

theorem special_not_part {ch : Char} (h : ch ∈ special) :
    ¬ (ch.isAlphanum = true ∨ ch = '_') ∧ ch ≠ '\n' := by
  have hall : (special.all fun ch =>
      decide (¬ (ch.isAlphanum = true ∨ ch = '_') ∧ ch ≠ '\n')) = true := by
    decide
  exact of_decide_eq_true (List.all_eq_true.mp hall ch h)

theorem plain_of_isIdentifier {s : String} (h : isIdentifier s = true) : Plain s := by
  refine (plain_iff s).mpr fun ch hs hm => ?_
  obtain ⟨hpart, hn⟩ := special_not_part hs
  rcases (isIdentifier_iff s).mp h with hw | ⟨w, hw, rfl⟩
  · exact hpart (hw.2.1 ch hm)
  · rw [String.toList_append, List.mem_append] at hm
    rcases hm with hm | hm
    · exact hpart (hw.2.1 ch hm)
    · exact hn (List.mem_singleton.mp hm)

/-- A special character in a wire name shows in the name that the checks see. -/
theorem plain_of_isIdentifier_camelized {s : String} (h : isIdentifier (camelized s) = true) :
    Plain s := by
  refine (plain_iff s).mpr fun ch hs hm => ?_
  obtain ⟨hc, hu⟩ := special_caseless hs
  exact (plain_iff _).mp (plain_of_isIdentifier h) ch hs (mem_camelized hc hu hm)

end Identifier

namespace Code

open Identifier Text

/-- The literals in a piece of code, if it has no unfinished one and none with an escape. The first
argument is what was read of the literal that is open. -/
def scan : Option (List Char) → List Char → Option (List (List Char))
  | none, [] => some []
  | some _, [] => none
  | none, ch :: rest => if ch = '"' then scan (some []) rest else scan none rest
  | some read, ch :: rest =>
    if ch = '"' then (scan none rest).map (read :: ·)
    else if ch = '\\' ∨ ch ∈ lineBreaks then none
    else scan (some (read ++ [ch])) rest

/-- The texts that the literals in a piece of code stand for. -/
def literals (code : String) : Option (List String) :=
  (scan none code.toList).map fun ls => ls.map String.ofList

theorem scan_code {cs : List Char} (h : '"' ∉ cs) (rest : List Char) :
    scan none (cs ++ rest) = scan none rest := by
  induction cs with
  | nil => rfl
  | cons ch cs ih =>
    have hch : ch ≠ '"' := fun e => h (by simp [e])
    have hcs : '"' ∉ cs := fun m => h (by simp [m])
    rw [List.cons_append, scan, if_neg hch, ih hcs]

theorem scan_open {w : List Char} (h : ∀ ch ∈ w, ch ≠ '"' ∧ ch ≠ '\\' ∧ ch ∉ lineBreaks)
    (read rest : List Char) :
    scan (some read) (w ++ '"' :: rest) = (scan none rest).map ((read ++ w) :: ·) := by
  induction w generalizing read with
  | nil => simp [scan]
  | cons ch w ih =>
    obtain ⟨hq, hb, hl⟩ := h ch (by simp)
    have hw := ih (fun d hd => h d (by simp [hd])) (read ++ [ch])
    have hn : ¬ (ch = '\\' ∨ ch ∈ lineBreaks) := fun e => e.elim hb hl
    rw [List.cons_append, scan, if_neg hq, if_neg hn, hw]
    simp

/-- A plain text without line feed is read back from between quotation marks. -/
theorem scan_quoted {w : String} (h : Plain w) (hn : '\n' ∉ w.toList) (rest : List Char) :
    scan none ('"' :: (w.toList ++ '"' :: rest)) = (scan none rest).map (w.toList :: ·) := by
  have hw : ∀ ch ∈ w.toList, ch ≠ '"' ∧ ch ≠ '\\' ∧ ch ∉ lineBreaks := by
    intro ch hm
    obtain ⟨hq, hb, hl⟩ := h ch hm
    exact ⟨hq, hb, fun hi => hn (hl hi ▸ hm)⟩
  rw [scan, if_pos rfl, scan_open hw]
  rfl

theorem literals_slot {w : String} (h : Plain w) (hn : '\n' ∉ w.toList) :
    literals (Accessor.slot w) = some [w] := by
  have hs : (Accessor.slot w).toList =
      "internalJson[".toList ++ ('"' :: (w.toList ++ '"' :: [']'])) := by
    simp [Accessor.slot]
  have hend : scan none [']'] = some [] := by decide
  rw [literals, hs, scan_code (by decide), scan_quoted h hn, hend]
  simp

theorem toList_bridgingPair (p : String × Field) :
    (bridgingPair p).toList =
      '"' :: (p.1.toList ++ '"' :: (": ".toList ++ (camelized p.1).toList)) := by
  simp [bridgingPair]

theorem scan_bridgingPair {p : String × Field} (h : isIdentifier (camelized p.1) = true)
    (hn : '\n' ∉ p.1.toList) (rest : List Char) :
    scan none ((bridgingPair p).toList ++ rest) = (scan none rest).map (p.1.toList :: ·) := by
  have hc : '"' ∉ ": ".toList ++ (camelized p.1).toList := by
    intro hm
    rcases List.mem_append.mp hm with hm | hm
    · exact absurd hm (by decide)
    · exact (plain_of_isIdentifier h _ hm).1 rfl
  have hq := scan_quoted (plain_of_isIdentifier_camelized h) hn
    ((": ".toList ++ (camelized p.1).toList) ++ rest)
  rw [scan_code hc] at hq
  rw [toList_bridgingPair, ← hq]
  simp

/-- The literal of arguments quotes the wire names of the parameters in order. -/
theorem scan_bridgingLines {ps : List (String × Field)}
    (h : ∀ p ∈ ps, isIdentifier (camelized p.1) = true) (hn : ∀ p ∈ ps, '\n' ∉ p.1.toList)
    (rest : List Char) :
    scan none ((bridgingLines ps).toList ++ rest) =
      (scan none rest).map ((ps.map fun p => p.1.toList) ++ ·) := by
  have hpad : '"' ∉ pad.toList := by decide
  induction ps with
  | nil => simp [bridgingLines]
  | cons p ps ih =>
    have hp := scan_bridgingPair (h p (by simp)) (hn p (by simp))
    have hps := ih (fun q hq => h q (by simp [hq])) (fun q hq => hn q (by simp [hq]))
    cases ps with
    | nil =>
      rw [bridgingLines, String.toList_append, List.append_assoc, scan_code hpad, hp]
      rfl
    | cons q qs =>
      have hcomma : '"' ∉ ",\n".toList := by decide
      rw [bridgingLines, String.toList_append, String.toList_append, String.toList_append,
        List.append_assoc, List.append_assoc, List.append_assoc, scan_code hpad, hp,
        scan_code hcomma, hps, Option.map_map]
      · rfl
      · simp

theorem call_eq (request name literal : String) :
    call request name literal = "        return " ++ request ++ "(\"" ++ name ++
      "\", defaultParameters[\"" ++ name ++ "\"], parameters, " ++ literal := rfl

theorem scan_bridgingLiteral {ps : List (String × Field)}
    (h : ∀ p ∈ ps, isIdentifier (camelized p.1) = true) (hn : ∀ p ∈ ps, '\n' ∉ p.1.toList)
    (rest : List Char) :
    scan none ((bridgingLiteral ps).toList ++ rest) =
      (scan none rest).map ((ps.map fun p => p.1.toList) ++ ·) := by
  unfold bridgingLiteral
  split
  · next he =>
    have hempty : '"' ∉ "[:]".toList := by decide
    rw [List.isEmpty_iff.mp he, scan_code hempty]
    simp
  · have hopen : '"' ∉ "[\n".toList := by decide
    have hclose : '"' ∉ "]".toList := by decide
    rw [String.toList_append, String.toList_append, List.append_assoc, List.append_assoc,
      scan_code hopen, scan_bridgingLines h hn, scan_code hclose]

/-- The call in the body of a function quotes the method twice and then the wire names of its
parameters. -/
theorem literals_call {name request back : String} {ps : List (String × Field)}
    (hname : isIdentifier name = true) (hln : '\n' ∉ name.toList)
    (h : ∀ p ∈ ps, isIdentifier (camelized p.1) = true) (hn : ∀ p ∈ ps, '\n' ∉ p.1.toList)
    (hr : '"' ∉ request.toList) (hb : '"' ∉ back.toList) :
    literals (call request name (bridgingLiteral ps) ++ back) =
      some (name :: name :: ps.map Prod.fst) := by
  have hplain : Plain name := plain_of_isIdentifier hname
  have hfront : '"' ∉ "        return ".toList ++ request.toList ++ "(".toList := by
    simp [hr]
  have hdefault : '"' ∉ ", defaultParameters[".toList := by decide
  have hparameters : '"' ∉ "], parameters, ".toList := by decide
  have hback : scan none back.toList = some [] := by
    rw [← List.append_nil back.toList, scan_code hb]
    rfl
  have hcall : (call request name (bridgingLiteral ps) ++ back).toList =
      ("        return ".toList ++ request.toList ++ "(".toList) ++
        ('"' :: (name.toList ++ '"' :: (", defaultParameters[".toList ++
          ('"' :: (name.toList ++ '"' :: ("], parameters, ".toList ++
            ((bridgingLiteral ps).toList ++ back.toList)))))))  := by
    simp [call_eq]
  rw [literals, hcall, scan_code hfront, scan_quoted hplain hln, scan_code hdefault,
    scan_quoted hplain hln, scan_code hparameters, scan_bridgingLiteral h hn, hback]
  simp [Function.comp_def]

namespace Accessor

/-- A line of a template: the text before the value under the wire name, and the text behind it if
the line has that value. -/
def lineAt (key : String) : String × Option String → String
  | (front, none) => front
  | (front, some back) => front ++ slot key ++ back

@[simp] theorem lineAt_none (key front : String) : lineAt key (front, none) = front := rfl

@[simp] theorem lineAt_some (key front back : String) :
    lineAt key (front, some back) = front ++ slot key ++ back := rfl

/-- The lines that store rows, with the place for the value. -/
def rowsShape : List (String × Option String) :=
  [("        var rowsJson = [JSON]()", none),
    ("        rowsJson.reserveCapacity(newValue.count)", none),
    ("        for row in newValue \x7b", none),
    ("            var colsJson = [JSON]()", none),
    ("            colsJson.reserveCapacity(row.count)", none),
    ("            for col in row \x7b", none),
    ("                colsJson.append(col.internalJson)", none),
    ("            \x7d", none),
    ("            rowsJson.append(JSON(colsJson))", none),
    ("        \x7d", none),
    ("        ", some " = JSON(rowsJson)")]

theorem storeRows_eq (key : String) : storeRows key = rowsShape.map (lineAt key) := rfl

/-- A getter for a value with something before and behind it. -/
def getterAt (front back : String) : String × Option String :=
  ("    get \x7b return " ++ front, some (back ++ " \x7d"))

/-- A setter that starts with the value. -/
def setterAt (back : String) : String × Option String :=
  ("    set \x7b ", some (back ++ " \x7d"))

theorem getter_eq (body : String) : getter body = "    get \x7b return " ++ body ++ " \x7d" := rfl

theorem setter_eq (body : String) : setter body = "    set \x7b " ++ body ++ " \x7d" := rfl

@[simp] theorem lineAt_getterAt (key front back : String) :
    lineAt key (getterAt front back) = getter (front ++ slot key ++ back) := by
  show "    get \x7b return " ++ front ++ slot key ++ (back ++ " \x7d") = _
  simp only [getter_eq, String.append_assoc]

@[simp] theorem lineAt_setterAt (key back : String) :
    lineAt key (setterAt back) = setter (slot key ++ back) := by
  show "    set \x7b " ++ slot key ++ (back ++ " \x7d") = _
  simp only [setter_eq, String.append_assoc]

/-- A wire name stands in the accessor of its field only as the key of the JSON value. -/
theorem exists_shape (k : Kind) (accessor : String) (f : Field) :
    (∃ e, ∀ key, lines k accessor key f = .error e) ∨
      ∃ shape : List (String × Option String),
        ∀ key, lines k accessor key f = .ok (shape.map (lineAt key)) := by
  cases k with
  | scalar =>
    cases hs : stem? f.type with
    | none => exact .inl ⟨.noScalar f.type, fun key => by simp only [lines, hs]⟩
    | some stem =>
      refine .inr ⟨[(opened accessor (f.type ++ if f.isOptional then "?" else ""), none),
        getterAt "" ("." ++ stem ++ if f.isOptional then "" else "Value"),
        setterAt ("." ++ stem ++ (if f.isOptional then "" else "Value") ++ " = newValue"),
        ("\x7d", none)], fun key => ?_⟩
      simp only [lines, hs, scalar, List.map_cons, List.map_nil, lineAt_getterAt, lineAt_setterAt,
        lineAt_none,
        String.append_assoc, String.empty_append]
  | dateOptional =>
    exact .inr ⟨[(opened accessor "Date?", none), ("    get \x7b", none),
      ("        guard let date = ", some ".double else \x7b return nil \x7d"),
      ("        return Date(timeIntervalSince1970: date)", none), ("    \x7d", none),
      ("    set \x7b", none), ("        ", some ".double = newValue?.timeIntervalSince1970"),
      ("    \x7d", none), ("\x7d", none)], fun key => rfl⟩
  | dateRequired =>
    refine .inr ⟨[(opened accessor "Date", none),
      getterAt "Date(timeIntervalSince1970: " ".doubleValue)",
      setterAt ".double = newValue.timeIntervalSince1970", ("\x7d", none)], fun key => ?_⟩
    simp only [lines, dateRequired, List.map_cons, List.map_nil, lineAt_getterAt, lineAt_setterAt,
      lineAt_none]
  | arrayOfArrayOptional =>
    refine .inr ⟨[(opened accessor ("[[" ++ f.type ++ "]]"), none),
      getterAt "" ".twoDArrayValue()", ("    set \x7b", none),
      ("        if newValue.isEmpty \x7b", none), ("            ", some " = JSON.null"),
      ("            return", none), ("        \x7d", none)] ++ rowsShape ++
      [("    \x7d", none), ("\x7d", none)], fun key => ?_⟩
    simp only [lines, arrayOfArrayOptional, storeRows_eq, List.map_append, List.map_cons,
      List.map_nil, lineAt_getterAt, lineAt_none, lineAt_some, String.empty_append]
  | arrayOfArrayRequired =>
    refine .inr ⟨[(opened accessor ("[[" ++ f.type ++ "]]"), none),
      getterAt "" ".twoDArrayValue()", ("    set \x7b", none)] ++ rowsShape ++
      [("    \x7d", none), ("\x7d", none)], fun key => ?_⟩
    simp only [lines, arrayOfArrayRequired, storeRows_eq, List.map_append, List.map_cons,
      List.map_nil, lineAt_getterAt, lineAt_none, String.empty_append]
  | arrayOptional =>
    refine .inr ⟨[(opened accessor ("[" ++ f.type ++ "]"), none), getterAt "" ".customArrayValue()",
      setterAt " = newValue.isEmpty ? JSON.null : JSON.initFrom(newValue)", ("\x7d", none)],
      fun key => ?_⟩
    simp only [lines, arrayOptional, List.map_cons, List.map_nil, lineAt_getterAt, lineAt_setterAt,
      String.empty_append, lineAt_none]
  | arrayRequired =>
    refine .inr ⟨[(opened accessor ("[" ++ f.type ++ "]"), none), getterAt "" ".customArrayValue()",
      setterAt " = JSON.initFrom(newValue)", ("\x7d", none)], fun key => ?_⟩
    simp only [lines, arrayRequired, List.map_cons, List.map_nil, lineAt_getterAt, lineAt_setterAt,
      String.empty_append, lineAt_none]
  | variantContent =>
    refine .inr ⟨[(opened accessor (f.type ++ if f.isOptional then "?" else ""), none),
      ("    get \x7b", none), ("        fatalError(\"Not implemented\")", none),
      ("    \x7d", none), ("    set \x7b", none),
      ("        ", some (" = " ++ if f.isOptional then "JSON(newValue?.json ?? JSON.null)"
        else "JSON(newValue.json)")), ("    \x7d", none), ("\x7d", none)], fun key => ?_⟩
    simp only [lines, variantContent, List.map_cons, List.map_nil, lineAt_none,
      lineAt_some, String.append_assoc]
  | selfBridging =>
    exact .inr ⟨[(declared accessor f.type ++ if f.isOptional then "? = nil" else "", none)],
      fun key => rfl⟩
  | nestedObject =>
    by_cases ho : f.isOptional = true
    · refine .inr ⟨[(opened accessor (f.type ++ "?"), none), ("    get \x7b", none),
        ("        let value = ", some ""),
        ("        return value.isNullOrUnknown ? nil : " ++ f.type ++ "(internalJson: value)",
          none),
        ("    \x7d", none), ("    set \x7b", none),
        ("        ", some " = newValue?.internalJson ?? JSON.null"), ("    \x7d", none),
        ("\x7d", none)], fun key => ?_⟩
      simp only [lines, nestedObject, ho, if_true, List.map_cons, List.map_nil,
        lineAt_none, lineAt_some, String.append_empty]
    · refine .inr ⟨[(opened accessor f.type, none), getterAt (f.type ++ "(internalJson: ") ")",
        setterAt " = JSON(newValue.json)", ("\x7d", none)], fun key => ?_⟩
      simp only [lines, nestedObject, ho, Bool.false_eq_true, if_false, List.map_cons,
        List.map_nil, lineAt_getterAt, lineAt_setterAt, lineAt_none]

end Accessor
end Code

namespace Validation

open Identifier Code

/-- In a schema without errors the wire names of fields under accessors of their own, of methods and
of parameters are plain. Without line feeds they are what the literals in the generated code stand
for: as the keys of values, which is all that an accessor needs of its wire name, and in the calls
of both functions of a method. -/
theorem wire_names_in_literals {s : Schema} {c : Config} (h : (findings s c).isValid = true) :
    (∀ (type : String) (t : TypeDef) (p : String × Field), (type, t) ∈ s.types.toList →
      p ∈ t.fields.toList → isLiteralTrue p.2 = false → c.accessorName type p.1 p.2.type = p.1 →
      Plain p.1 ∧ ('\n' ∉ p.1.toList → literals (Accessor.slot p.1) = some [p.1])) ∧
    (∀ (name : String) (m : Method), (name, m) ∈ s.methods.toList →
      Plain name ∧ (∀ p ∈ m.parameters.toList, Plain p.1) ∧
      ('\n' ∉ name.toList → (∀ p ∈ m.parameters.toList, '\n' ∉ p.1.toList) →
        ∀ q ∈ [("requestSync", ")"), ("requestAsync", ",")],
          call q.1 name (bridgingLiteral m.parameters.sorted) ++ q.2 ∈ methodLines name m ∧
          literals (call q.1 name (bridgingLiteral m.parameters.sorted) ++ q.2) =
            some (name :: name :: m.parameters.sorted.map Prod.fst))) ∧
    ∀ (k : Kind) (accessor : String) (f : Field),
      (∃ e, ∀ key, Accessor.lines k accessor key f = .error e) ∨
        ∃ shape : List (String × Option String),
          ∀ key, Accessor.lines k accessor key f = .ok (shape.map (Accessor.lineAt key)) := by
  refine ⟨?_, ?_, Accessor.exists_shape⟩
  · intro type t p ht hp hf hr
    have hi := isIdentifier_of_emitted h (.accessor ht hp hf)
    rw [accessorName, hr] at hi
    have hplain := plain_of_isIdentifier_camelized hi
    exact ⟨hplain, literals_slot hplain⟩
  · intro name m hm
    have hname := isIdentifier_of_emitted h (.method hm)
    have hparameter (p : String × Field) (hp : p ∈ m.parameters.toList) :
        isIdentifier (camelized p.1) = true := isIdentifier_of_emitted h (.parameter hm hp)
    refine ⟨plain_of_isIdentifier hname,
      fun p hp => plain_of_isIdentifier_camelized (hparameter p hp), fun hln hn q hq => ?_⟩
    have hsorted (p : String × Field) (hp : p ∈ m.parameters.sorted) :
        isIdentifier (camelized p.1) = true := hparameter p (Table.mem_sorted.mp hp)
    have hsortedLn (p : String × Field) (hp : p ∈ m.parameters.sorted) : '\n' ∉ p.1.toList :=
      hn p (Table.mem_sorted.mp hp)
    have hquotes : '"' ∉ q.1.toList ∧ '"' ∉ q.2.toList := by
      revert hq q
      decide
    refine ⟨?_, literals_call hname hln hsorted hsortedLn hquotes.1 hquotes.2⟩
    rcases List.mem_cons.mp hq with rfl | hq
    · simp [methodLines]
    · rw [List.mem_singleton.mp hq]
      simp [methodLines]

/-- A field under an accessor of its own, and a method with a parameter of that name. -/
def chats : Schema where
  types := ⟨[("Chat", ⟨⟨[("chat_id", ⟨"Int", false, false, false⟩)], by simp⟩⟩)], by simp⟩
  methods := ⟨[("getChat", ⟨⟨[("chat_id", ⟨"Int", false, false, false⟩)], by simp⟩,
    ⟨"Chat", false, false, false⟩⟩)], by simp⟩
  sourceFile := none

theorem literals_of_chats :
    (findings chats .usual).isValid = true ∧
    literals (Accessor.slot "chat_id") = some ["chat_id"] ∧
    literals (call "requestSync" "getChat" "[\n            \"chat_id\": chatId]" ++ ")") =
      some ["getChat", "getChat", "chat_id"] := by
  have hv : (findings chats .usual).isValid = true := by decide
  obtain ⟨fields, methods, -⟩ := wire_names_in_literals hv
  have hf := (fields "Chat" _ ("chat_id", ⟨"Int", false, false, false⟩) (List.mem_singleton.mpr rfl)
    (List.mem_singleton.mpr rfl) (by decide) (by decide)).2 (by decide)
  have hm := (methods "getChat" _ (List.mem_singleton.mpr rfl)).2.2 (by decide)
    (fun p hp => by rw [List.mem_singleton.mp hp]; decide) ("requestSync", ")") (by simp)
  exact ⟨hv, hf, hm.2⟩

/-- A type with a field that is always true and a field that gets another accessor. -/
def marks : TypeDef where
  fields := ⟨[("a\"b", ⟨"True", false, false, false⟩), ("c\\d", ⟨"Int", false, false, false⟩)],
    by simp⟩

def marked : Schema where
  types := ⟨[("Marks", marks)], by simp⟩
  methods := .empty
  sourceFile := none

/-- The settings under which the other field of the type has an accessor. -/
def markedConfig : Config :=
  { Config.usual with renameRules := [⟨"c\\d", "level", none, none⟩] }

/-- The wire name of a field without accessor, or with another one, is in no check. So a schema
without errors can have literals that do not stand for its wire names. -/
theorem wire_names_unchecked :
    (findings marked markedConfig).isValid = true ∧
    (¬ Plain "a\"b" ∧ defaultsLiteral marks.fields.sorted = "[\"a\"b\": true]" ∧
      literals (defaultsLiteral marks.fields.sorted) = none) ∧
    ¬ Plain "c\\d" ∧
      accessorName markedConfig "Marks" ("c\\d", ⟨"Int", false, false, false⟩) = "level" ∧
      literals (Accessor.slot "c\\d") = none := by
  have hquote : ¬ Plain "a\"b" := fun h => (h '"' (by decide)).1 rfl
  have hbackslash : ¬ Plain "c\\d" := fun h => (h '\\' (by decide)).2.1 rfl
  exact ⟨by decide, ⟨hquote, by decide, by decide⟩, hbackslash, by decide, by decide⟩

end Validation
end ClientGen
