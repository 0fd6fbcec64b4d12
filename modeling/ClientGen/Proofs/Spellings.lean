import ClientGen.Proofs.Readings
import ClientGen.Session
import ClientGen.Validation.Full
import Mathlib.Logic.Relation

/-! Spellings of a schema. What is read as a schema is read as the same one from the value that this is
written as, and from any value in which fields, parameters and results are spelled otherwise. -/

namespace ClientGen
namespace Record

open FileTree

/-! ## Spellings of a field -/

/-- The value is a spelling of the field: its shorthand, true by itself, the name of a type in one list
or in two, or a record, whose members may be left out and whose truth values may be words or numbers. -/
inductive Spelling : Field → Value → Prop
  | shorthand {f : Field} {s : String} (h : Field.ofShorthand s = .ok f) : Spelling f (.text s)
  | mark : Spelling (.single "True") (.bool true)
  | list {s name : String} (h : Field.plainName? s = some name) :
    Spelling ⟨name, true, false, false⟩ (.list [.text s])
  | nested {s name : String} (h : Field.plainName? s = some name) :
    Spelling ⟨name, true, true, false⟩ (.list [.list [.text s]])
  | record {f : Field} {entries : List (Value × Value)}
    (type : withDefault entries "type" text "" = .ok f.type)
    (isArray : withDefault entries "is_array" bool false = .ok f.isArray)
    (isNested : withDefault entries "is_array_of_array" bool false = .ok f.isNested)
    (isOptional : withDefault entries "is_optional" bool false = .ok f.isOptional)
    (names : strays fieldNames entries = []) : Spelling f (.map entries)

theorem fieldResult_ok_iff {r : Except Field.Fault Field} {f : Field} :
    fieldResult r = .ok f ↔ r = .ok f := by
  cases r <;> simp [fieldResult, refuse]

/-- The reader of a single item, which stands in as many lists. -/
theorem ofItems_ok_iff {items : List Value} {f : Field} : Field.ofItems items = .ok f ↔
    ∃ s name, Field.plainName? s = some name ∧
      ((items = [.text s] ∧ f = ⟨name, true, false, false⟩) ∨
        (items = [.list [.text s]] ∧ f = ⟨name, true, true, false⟩)) := by
  constructor
  · intro h
    unfold Field.ofItems at h
    dsimp only at h
    repeat' split at h
    all_goals cases h
    · next hn => exact ⟨_, _, hn, .inr ⟨rfl, rfl⟩⟩
    · next hn => exact ⟨_, _, hn, .inl ⟨rfl, rfl⟩⟩
  · rintro ⟨s, name, hn, ⟨rfl, rfl⟩ | ⟨rfl, rfl⟩⟩
    · simp [Field.ofItems, hn]
    · simp [Field.ofItems, hn]

theorem field_ok_iff {f : Field} {v : Value} : field v = .ok f ↔ Spelling f v := by
  constructor
  · intro h
    unfold field at h
    split at h
    · exact .shorthand (fieldResult_ok_iff.mp h)
    · cases h
      exact .mark
    · obtain ⟨s, name, hn, ⟨rfl, rfl⟩ | ⟨rfl, rfl⟩⟩ := ofItems_ok_iff.mp (fieldResult_ok_iff.mp h)
      · exact .list hn
      · exact .nested hn
    · dsimp only at h
      split at h
      · next hr =>
        obtain ⟨hm, hs⟩ := withFaults_ok_iff.mp hr
        obtain ⟨ht, hm⟩ := both_ok_iff.mp hm
        obtain ⟨ha, hm⟩ := both_ok_iff.mp hm
        obtain ⟨hn, ho⟩ := both_ok_iff.mp hm
        cases h
        exact .record ht ha hn ho hs
      · cases h
    · cases h
  · intro h
    cases h with
    | shorthand h => exact fieldResult_ok_iff.mpr h
    | mark => rfl
    | list h => exact fieldResult_ok_iff.mpr (ofItems_ok_iff.mpr ⟨_, _, h, .inl ⟨rfl, rfl⟩⟩)
    | nested h => exact fieldResult_ok_iff.mpr (ofItems_ok_iff.mpr ⟨_, _, h, .inr ⟨rfl, rfl⟩⟩)
    | record ht ha hn ho hs =>
      have hm := both_ok_iff.mpr ⟨ht, both_ok_iff.mpr ⟨ha, both_ok_iff.mpr ⟨hn, ho⟩⟩⟩
      simp only [field, withFaults_ok_iff.mpr ⟨hm, hs⟩]

/-! ## Changes in one place -/

/-- Two mappings are the same but for one entry, under a key of that kind. -/
inductive Changed (key : Value → Prop) (change : Value → Value → Prop) : Value → Value → Prop
  | entry (front back : List (Value × Value)) {k v w : Value} (hk : key k) (h : change v w) :
    Changed key change (.map (front ++ (k, v) :: back)) (.map (front ++ (k, w) :: back))

/-- Two spellings of one field. -/
def SameField (v w : Value) : Prop :=
  ∃ f, Spelling f v ∧ Spelling f w

/-- Two tables of fields with another spelling of one of them. -/
def SameFields : Value → Value → Prop :=
  Changed (fun _ => True) SameField

/-- Two types with another spelling of one field. -/
def SameType : Value → Value → Prop :=
  Changed (· = .text "fields") SameFields

/-- Two methods with another spelling of one parameter or of the result. -/
def SameMethod (v w : Value) : Prop :=
  Changed (· = .text "parameters") SameFields v w ∨ Changed (· = .text "result") SameField v w

/-- Two schemas with another spelling of one field, parameter or result. -/
def Respelled (v w : Value) : Prop :=
  Changed (· = .text "types") (Changed (fun _ => True) SameType) v w ∨
    Changed (· = .text "methods") (Changed (fun _ => True) SameMethod) v w

variable {α : Type} {v w : Value}

/-- A table is read alike if the changed entry is. -/
theorem table_changed {r : Reader α} {key : Value → Prop} {change : Value → Value → Prop}
    (hr : ∀ v w, change v w → r v = r w) (h : Changed key change v w) : table r v = table r w := by
  obtain ⟨front, back, -, h⟩ := h
  simp only [table, List.map_append, List.map_cons, hr _ _ h]

section Members

variable {front back : List (Value × Value)} {key : String}

/-- A member is read alike if it is not the changed one, or is read alike by itself. -/
theorem member_changed (name : String) {r : Reader α} {other : Result α}
    (h : key = name → r v = r w) :
    member (front ++ (.text key, v) :: back) name r other =
      member (front ++ (.text key, w) :: back) name r other := by
  -- an entry before the changed one answers in both mappings, or in neither
  induction front with
  | nil =>
    by_cases hk : key = name
    · simp [member, find?_text_cons, hk, h hk]
    · simp [member, find?_text_cons, hk]
  | cons p front ih =>
    unfold member at ih ⊢
    simp only [List.cons_append, Value.find?]
    cases p.1.sameKey (.text name) with
    | true => rfl
    | false => exact ih

theorem strays_changed (names : List String) (k : Value) :
    strays names (front ++ (k, v) :: back) = strays names (front ++ (k, w) :: back) := by
  simp only [strays, List.filterMap_append, List.filterMap_cons]

end Members

/-! ## Spellings of one schema -/

theorem field_same (v w : Value) (h : SameField v w) : field v = field w := by
  obtain ⟨f, hv, hw⟩ := h
  rw [field_ok_iff.mpr hv, field_ok_iff.mpr hw]

theorem fields_same (v w : Value) (h : SameFields v w) : table field v = table field w :=
  table_changed field_same h

theorem typeDef_same (v w : Value) (h : SameType v w) : typeDef v = typeDef w := by
  obtain ⟨front, back, rfl, h⟩ := h
  simp only [typeDef, withDefault]
  rw [member_changed "fields" fun _ => fields_same _ _ h, strays_changed]

theorem method_same (v w : Value) (h : SameMethod v w) : method v = method w := by
  rcases h with ⟨front, back, rfl, h⟩ | ⟨front, back, rfl, h⟩
  · simp only [method, withDefault, required]
    rw [member_changed "parameters" fun _ => fields_same _ _ h,
      member_changed "result" fun hk => absurd hk (by decide), strays_changed]
  · simp only [method, withDefault, required]
    rw [member_changed "parameters" fun hk => absurd hk (by decide),
      member_changed "result" fun _ => field_same _ _ h, strays_changed]

/-- Another spelling of a field, a parameter or a result makes no other schema. -/
theorem schema_same (v w : Value) (h : Respelled v w) : schema v = schema w := by
  rcases h with ⟨front, back, rfl, h⟩ | ⟨front, back, rfl, h⟩
  · simp only [schema, withDefault]
    rw [member_changed "types" fun _ => table_changed typeDef_same h,
      member_changed "methods" fun hk => absurd hk (by decide),
      member_changed "source_file" fun hk => absurd hk (by decide), strays_changed]
  · simp only [schema, withDefault]
    rw [member_changed "types" fun hk => absurd hk (by decide),
      member_changed "methods" fun _ => table_changed method_same h,
      member_changed "source_file" fun hk => absurd hk (by decide), strays_changed]

/-- However many fields are spelled otherwise, the schema is the same. -/
theorem schema_same_of_many {v w : Value} (h : Relation.ReflTransGen Respelled v w) :
    schema v = schema w := by
  induction h with
  | refl => rfl
  | tail _ hlast ih => exact ih.trans (schema_same _ _ hlast)

/-- What comes of a value that is read as a schema: the findings and the code. -/
def yield (g : Session) (d : Disk) (v : Value) :
    Result (Validation.Findings × Session.Outcome Session.Fault) :=
  (schema v).map fun s => (Validation.findings s g.config, g.deliver d s false)

/-- A value that is read as a schema is read as the same one, with all entries in their order, from what
the schema is written as, and however its fields, parameters and results are spelled. So the findings
and the code are the same, too. -/
theorem reading_normalises {v : Value} {s : Schema} (h : schema v = .ok s) :
    schema (schemaValue s) = .ok s ∧
    (∀ w, Relation.ReflTransGen Respelled v w → schema w = .ok s) ∧
    ∀ w, (w = schemaValue s ∨ Relation.ReflTransGen Respelled v w) →
      ∀ g d, yield g d w = .ok (Validation.findings s g.config, g.deliver d s false) := by
  have hmany : ∀ w, Relation.ReflTransGen Respelled v w → schema w = .ok s := fun w hw =>
    (schema_same_of_many hw).symm.trans h
  refine ⟨schema_schemaValue s, hmany, fun w hw g d => ?_⟩
  have hread : schema w = .ok s := by
    rcases hw with rfl | hw
    · exact schema_schemaValue s
    · exact hmany w hw
  rw [yield, hread]
  rfl

/-- A message with a list in a list, true by itself, a shorthand with blanks and a record for its
fields; the list is spelled as a shorthand, too. -/
theorem message_normalises :
    let v (photos : Value) : Value := .map
      [(.text "methods", .map [(.text "getMe", .map [(.text "result", .text "User")])]),
        (.text "types", .map [(.text "Message", .map [(.text "fields", .map
          [(.text "silent", .bool true), (.text "photos", photos), (.text "from", .text " User\t?"),
            (.text "edited", .map
              [(.text "is_optional", .text "Yes"), (.text "type", .text "Int")])])])])]
    ∃ s, schema (v (.list [.list [.text " PhotoSize"]])) = .ok s ∧ schema (schemaValue s) = .ok s ∧
      Respelled (v (.list [.list [.text " PhotoSize"]])) (v (.text "[ [PhotoSize]]")) ∧
      schema (v (.text "[ [PhotoSize]]")) = .ok s := by
  intro v
  obtain ⟨s, hs⟩ : ∃ s, schema (v (.list [.list [.text " PhotoSize"]])) = .ok s := ⟨_, rfl⟩
  obtain ⟨hback, hmany, -⟩ := reading_normalises hs
  have hsame : SameField (.list [.list [.text " PhotoSize"]]) (.text "[ [PhotoSize]]") :=
    ⟨⟨"PhotoSize", true, true, false⟩, .nested rfl, .shorthand rfl⟩
  have hspelled : Respelled (v (.list [.list [.text " PhotoSize"]])) (v (.text "[ [PhotoSize]]")) :=
    .inl (.entry [_] [] rfl (.entry [] [] trivial (.entry [] [] rfl
      (.entry [_] [_, _] trivial hsame))))
  exact ⟨s, hs, hback, hspelled, hmany _ (.single hspelled)⟩

end Record
end ClientGen
