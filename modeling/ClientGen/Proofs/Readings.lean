import ClientGen.Record.Assignment

/-! Reading what records are written as. Each reader is opened once, by what it accepts; from this
follows that the value of a field, a type, a method or a schema is read as the same again, and that of
settings just if these meet their constraints. -/

namespace ClientGen

/-! ## Tables -/

namespace Table

variable {α : Type}

theorem putList_of_not_mem {k : String} (a : α) {l : List (String × α)}
    (h : k ∉ l.map Prod.fst) : putList k a l = l ++ [(k, a)] := by
  induction l with
  | nil => rfl
  | cons p rest ih =>
    obtain ⟨m, b⟩ := p
    simp only [List.map_cons, List.mem_cons, not_or] at h
    have hm : ¬ m = k := fun e => h.1 e.symm
    rw [putList, if_neg hm, ih h.2, List.cons_append]

/-- Entries with new and distinct names come behind those of the table. -/
theorem toList_foldl_put {l : List (String × α)} {t : Table α}
    (h : (t.toList.map Prod.fst ++ l.map Prod.fst).Nodup) :
    (l.foldl (fun t p => t.put p.1 p.2) t).toList = t.toList ++ l := by
  induction l generalizing t with
  | nil => simp
  | cons p rest ih =>
    have hp : p.1 ∉ t.toList.map Prod.fst := fun hm =>
      (List.nodup_append.mp h).2.2 _ hm p.1 (by simp) rfl
    have hput : (t.put p.1 p.2).toList = t.toList ++ [p] := putList_of_not_mem p.2 hp
    rw [List.foldl_cons, ih (by rw [hput]; simpa using h), hput, List.append_assoc,
      List.singleton_append]

/-- A table is made of its own entries. -/
theorem ofList_toList (t : Table α) : ofList t.toList = t :=
  ext (toList_foldl_put (t := empty) (by simpa [empty] using t.nodup))

end Table

namespace Record

variable {α β : Type}

/-! ## Results -/

theorem under_ok_iff {s : Step} {r : Result α} {a : α} : under s r = .ok a ↔ r = .ok a := by
  cases r <;> simp [under]

theorem both_ok_iff {x : Result α} {y : Result β} {a : α} {b : β} :
    both x y = .ok (a, b) ↔ x = .ok a ∧ y = .ok b := by
  cases x <;> cases y <;> simp [both]

theorem all_ok_iff {rs : List (Result α)} {as : List α} : all rs = .ok as ↔ rs = as.map .ok := by
  induction rs generalizing as with
  | nil => cases as <;> simp [all]
  | cons r rest ih =>
    cases as with
    | nil =>
      simp only [all]
      split <;> simp
    | cons a as =>
      rw [List.map_cons, List.cons.injEq, ← ih, ← both_ok_iff, all]
      split <;> simp_all

theorem withFaults_ok_iff {r : Result α} {faults : List Fault} {a : α} :
    withFaults r faults = .ok a ↔ r = .ok a ∧ faults = [] := by
  cases r <;> cases faults <;> simp [withFaults]

/-! ## Members -/

section Members

variable {entries : List (Value × Value)} {name : String} {r : Reader α} {a : α}

theorem find?_text_cons (n : String) (v : Value) :
    Value.find? (.text name) ((.text n, v) :: entries) =
      if n = name then some v else Value.find? (.text name) entries := by
  simp [Value.find?, Value.sameKey]

theorem required_ok_iff :
    required entries name r = .ok a ↔ ∃ v, Value.find? (.text name) entries = some v ∧ r v = .ok a := by
  unfold required member
  cases Value.find? (.text name) entries <;> simp [under_ok_iff, refuse]

theorem withDefault_ok_iff {usual : α} :
    withDefault entries name r usual = .ok a ↔
      (∃ v, Value.find? (.text name) entries = some v ∧ r v = .ok a) ∨
        (Value.find? (.text name) entries = none ∧ usual = a) := by
  unfold withDefault member
  cases Value.find? (.text name) entries <;> simp [under_ok_iff]

/-- A member has what its usual value and all that its reader accepts have. -/
theorem withDefault_of_forall {usual : α} {p : α → Prop} (hu : p usual)
    (hr : ∀ v b, r v = .ok b → p b) (h : withDefault entries name r usual = .ok a) : p a := by
  rcases withDefault_ok_iff.mp h with ⟨v, -, hv⟩ | ⟨-, rfl⟩
  · exact hr v a hv
  · exact hu

end Members

/-! ## Plain values -/

theorem text_text (s : String) : text (.text s) = .ok s := rfl

/-- A text that is accepted where one with a character is asked for: it has one, and no surrogate. -/
structure Proper (s : String) : Prop where
  ne_empty : s ≠ ""
  encodable : Text.Utf8.Encodable s

theorem proper_iff {s : String} : Proper s ↔ s ≠ "" ∧ Text.Utf8.Encodable s :=
  ⟨fun h => ⟨h.ne_empty, h.encodable⟩, fun h => ⟨h.1, h.2⟩⟩

instance (s : String) : Decidable (Proper s) :=
  decidable_of_iff _ proper_iff.symm

theorem nonempty_ok_iff {v : Value} {s : String} :
    nonempty v = .ok s ↔ text v = .ok s ∧ Proper s := by
  unfold nonempty
  cases text v with
  | error fs => simp
  | ok t =>
    dsimp only
    cases he : Text.Utf8.encode t with
    | error f =>
      refine iff_of_false (by simp [refuse]) ?_
      rintro ⟨ht, hs⟩
      obtain rfl := Except.ok.inj ht
      exact Text.Utf8.encode_error he hs.encodable
    | ok content =>
      dsimp only
      split
      · next hn =>
        refine iff_of_false (by simp [refuse]) ?_
        rintro ⟨ht, hs⟩
        obtain rfl := Except.ok.inj ht
        exact hs.ne_empty (String.isEmpty_iff.mp hn)
      · next hn =>
        refine ⟨fun h => ⟨h, ?_⟩, fun h => h.1⟩
        obtain rfl := Except.ok.inj h
        exact ⟨mt String.isEmpty_iff.mpr hn, (Text.Utf8.encode_ok_iff.mp he).1⟩

theorem optional_textOrNull (s : Option String) : optional text (textOrNull s) = .ok s := by
  cases s <;> rfl

theorem list_ok_iff {r : Reader α} {v : Value} {l : List α} :
    list r v = .ok l ↔ ∃ items, items? v = some items ∧ items.map r = l.map .ok := by
  unfold list
  cases items? v with
  | none => simp [refuse]
  | some items =>
    rw [all_ok_iff, List.mapIdx_eq_iff]
    simp only [Option.some.injEq, exists_eq_left']
    rw [List.ext_getElem?_iff]
    refine forall_congr' fun i => ?_
    simp only [List.getElem?_map]
    cases l[i]? with
    | none => cases items[i]? <;> simp
    | some a =>
      cases items[i]? with
      | none => simp
      | some w => simpa using eq_comm.trans under_ok_iff

/-- A list of written items is read as the same items just if each of them is read as itself. -/
theorem list_map_iff {r : Reader α} {f : α → Value} {l : List α} :
    list r (.list (l.map f)) = .ok l ↔ ∀ a ∈ l, r (f a) = .ok a := by
  rw [list_ok_iff]
  simp [items?]

/-- What is read as a list holds what its items are read as. -/
theorem of_mem_list {r : Reader α} {v : Value} {l : List α} (h : list r v = .ok l) {a : α}
    (ha : a ∈ l) : ∃ w, r w = .ok a := by
  obtain ⟨items, -, hi⟩ := list_ok_iff.mp h
  have hm : .ok a ∈ items.map r := hi ▸ List.mem_map_of_mem ha
  obtain ⟨w, -, hw⟩ := List.mem_map.mp hm
  exact ⟨w, hw⟩

/-- A table of written entries is read as the same table. -/
theorem table_tableValue {r : Reader α} {f : α → Value} {t : Table α}
    (h : ∀ p ∈ t.toList, r (f p.2) = .ok p.2) : table r (tableValue f t) = .ok t := by
  have hall : all ((t.toList.map fun p => ((Value.text p.1, f p.2) : Value × Value)).map fun e =>
      both (keyName e.1) (under (Step.ofKey e.1) (r e.2))) = .ok t.toList := by
    rw [all_ok_iff, List.map_map]
    exact List.map_congr_left fun p hp => both_ok_iff.mpr
      ⟨by simp [keyName, under_ok_iff, text_text], under_ok_iff.mpr (h p hp)⟩
  simp only [table, tableValue, hall, Table.ofList_toList]

/-! ## Records of a schema -/

theorem field_fieldValue (f : Field) : field (fieldValue f) = .ok f := rfl

theorem table_fieldValue (t : Table Field) : table field (tableValue fieldValue t) = .ok t :=
  table_tableValue fun p _ => field_fieldValue p.2

theorem typeDef_typeValue (t : TypeDef) : typeDef (typeValue t) = .ok t := by
  simp [typeDef, typeValue, withDefault, member, find?_text_cons, table_fieldValue, under,
    withFaults, strays]

theorem method_methodValue (m : Method) : method (methodValue m) = .ok m := by
  simp [method, methodValue, withDefault, required, member, find?_text_cons, table_fieldValue,
    field_fieldValue, under, both, withFaults, strays]

theorem schema_schemaValue (s : Schema) : schema (schemaValue s) = .ok s := by
  have ht : table typeDef (tableValue typeValue s.types) = .ok s.types :=
    table_tableValue fun p _ => typeDef_typeValue p.2
  have hm : table method (tableValue methodValue s.methods) = .ok s.methods :=
    table_tableValue fun p _ => method_methodValue p.2
  simp [schema, schemaValue, withDefault, member, find?_text_cons, ht, hm, optional_textOrNull,
    under, both, withFaults, strays]

/-! ## Settings -/

theorem rule_ok_iff {v : Value} {r : RenameRule} : rule v = .ok r ↔ ∃ entries, v = .map entries ∧
    (required entries "field_name" nonempty = .ok r.fieldName ∧
      required entries "accessor" nonempty = .ok r.accessor ∧
      withDefault entries "type_name" (optional text) none = .ok r.typeName ∧
      withDefault entries "field_type" (optional text) none = .ok r.fieldType) ∧
    strays ruleNames entries = [] := by
  obtain ⟨f, a, t, k⟩ := r
  cases v with
  | map entries =>
    simp only [rule, ← both_ok_iff, ← withFaults_ok_iff, Value.map.injEq, exists_eq_left']
    split <;> simp_all
  | _ => simp [rule, refuse]

theorem config_ok_iff {v : Value} {c : Config} : config v = .ok c ↔ ∃ entries, v = .map entries ∧
    (withDefault entries "output_dir" text Config.usual.outputDir = .ok c.outputDir ∧
      withDefault entries "file_extension" extension Config.usual.fileExtension =
        .ok c.fileExtension ∧
      withDefault entries "client_type" nonempty Config.usual.clientType = .ok c.clientType ∧
      withDefault entries "generator_name" nonempty Config.usual.generatorName =
        .ok c.generatorName ∧
      withDefault entries "strict" bool Config.usual.strict = .ok c.strict ∧
      withDefault entries "variant_content_prefix" nonempty Config.usual.variantLead =
        .ok c.variantLead ∧
      withDefault entries "self_bridging_types" (list text) Config.usual.selfBridging =
        .ok c.selfBridging ∧
      withDefault entries "rename_rules" (list rule) Config.usual.renameRules =
        .ok c.renameRules) ∧
    strays configNames entries = [] := by
  obtain ⟨o, e, g, n, s, l, b, r⟩ := c
  cases v with
  | map entries =>
    simp only [config, ← both_ok_iff, ← withFaults_ok_iff, Value.map.injEq, exists_eq_left']
    split <;> simp_all
  | _ => simp [config, refuse]

/-- A file extension without the points in front. -/
def withoutPoints (s : String) : String :=
  String.ofList (s.toList.dropWhile (· == '.'))

theorem extension_ok_iff {v : Value} {e : String} :
    extension v = .ok e ↔ ∃ s, nonempty v = .ok s ∧ e = withoutPoints s := by
  unfold extension
  cases nonempty v <;> simp [withoutPoints, eq_comm]

end Record
end ClientGen
