import DocumentProtocol.Document.Basic

/-!
# Inserting fields

Inserting fields one after the other gives each name the place where it came first and the value
that came last. `Document.keys_insertAll` says the first and `Document.find?_insertAll` the second;
together they determine the document.
-/

namespace DocumentProtocol

namespace Document

@[simp]
theorem keys_nil : keys [] = [] := rfl

@[simp]
theorem keys_cons (field : String × Value) (rest : Document) :
    keys (field :: rest) = field.1 :: keys rest := rfl

theorem lookup_cons {name : String} {field : String × Value} {rest : List (String × Value)} :
    List.lookup name (field :: rest) =
      if name = field.1 then some field.2 else List.lookup name rest := by
  rcases field with ⟨key, value⟩
  rw [List.lookup_cons]
  by_cases same : name = key
  · simp [same]
  · simp [same, beq_false_of_ne same]

@[simp]
theorem insertAll_nil (document : Document) : document.insertAll [] = document := rfl

@[simp]
theorem insertAll_cons (document : Document) (field : String × Value)
    (fields : List (String × Value)) :
    document.insertAll (field :: fields) = (document.insert field.1 field.2).insertAll fields := rfl

@[simp]
theorem insertAll_append (document : Document) (first second : List (String × Value)) :
    document.insertAll (first ++ second) = (document.insertAll first).insertAll second := by
  simp [insertAll]

/-- A name that a document has keeps its place, and a new one goes to the end. -/
theorem keys_insert (document : Document) (key : String) (value : Value) :
    (document.insert key value).keys =
      if key ∈ document.keys then document.keys else document.keys ++ [key] := by
  induction document with
  | nil => simp [insert]
  | cons field rest ih =>
      by_cases same : field.1 = key
      · simp [insert, same]
      · have other : key ≠ field.1 := fun equal => same equal.symm
        simp only [insert, same, ↓reduceIte, keys_cons, ih, List.mem_cons, other, false_or]
        split <;> simp

theorem insert_of_not_mem {document : Document} {key : String} (absent : key ∉ document.keys)
    (value : Value) : document.insert key value = document ++ [(key, value)] := by
  induction document with
  | nil => rfl
  | cons field rest ih =>
      simp only [keys_cons, List.mem_cons, not_or] at absent
      have other : ¬field.1 = key := fun equal => absent.1 equal.symm
      simp [insert, other, ih absent.2]

theorem find?_insert (document : Document) (key name : String) (value : Value) :
    (document.insert key value).find? name =
      if name = key then some value else document.find? name := by
  simp only [find?]
  induction document with
  | nil => simp [insert, lookup_cons]
  | cons field rest ih =>
      by_cases same : field.1 = key
      · by_cases wanted : name = key <;> simp [insert, same, lookup_cons, wanted]
      · by_cases first : name = field.1
        · simp [insert, same, lookup_cons, first]
        · simp [insert, same, lookup_cons, first, ih]

/-- The names of a document after insertions: its own, then the new ones by first occurrence. -/
theorem keys_insertAll (document : Document) (fields : List (String × Value)) :
    (document.insertAll fields).keys =
      document.keys ++
        ((fields.map Prod.fst).filter fun key => key ∉ document.keys).eraseDups := by
  induction fields generalizing document with
  | nil => simp
  | cons field fields ih =>
      rw [insertAll_cons, ih, keys_insert]
      by_cases known : field.1 ∈ document.keys
      · simp [known]
      · have other (key : String) :
            decide (key ∉ document.keys ++ [field.1]) =
              (!(key == field.1) && decide (key ∉ document.keys)) := by
          by_cases same : key = field.1 <;> simp [same]
        simp only [known, ↓reduceIte, other]
        simp [known, List.eraseDups_cons, List.filter_filter]

/-- The value under a name after insertions: the last one inserted, or the old one. -/
theorem find?_insertAll (document : Document) (fields : List (String × Value)) (name : String) :
    (document.insertAll fields).find? name =
      (fields.reverse.lookup name).or (document.find? name) := by
  induction fields generalizing document with
  | nil => simp
  | cons field fields ih =>
      rw [insertAll_cons, ih, find?_insert, List.reverse_cons, List.lookup_append]
      by_cases same : name = field.1 <;> simp [lookup_cons, same]

theorem insertAll_of_nodup {document : Document} {fields : List (String × Value)}
    (nodup : ((document ++ fields).map Prod.fst).Nodup) :
    document.insertAll fields = document ++ fields := by
  induction fields generalizing document with
  | nil => simp
  | cons field fields ih =>
      have absent : field.1 ∉ document.keys := by
        intro mem
        rw [List.map_append, List.nodup_append] at nodup
        exact nodup.2.2 _ mem field.1 (by simp) rfl
      rw [insertAll_cons, insert_of_not_mem absent, ih (by simpa using nodup)]
      simp

/-- Fields with different names are a document already. -/
theorem ofFields_of_nodup {fields : List (String × Value)}
    (nodup : (fields.map Prod.fst).Nodup) : ofFields fields = fields := by
  have together : (([] ++ fields).map Prod.fst).Nodup := by simpa using nodup
  simpa [ofFields] using insertAll_of_nodup together

theorem keys_ofFields (fields : List (String × Value)) :
    (ofFields fields).keys = (fields.map Prod.fst).eraseDups := by
  have all : ((fields.map Prod.fst).filter fun key => decide (key ∉ ([] : List String))) =
      fields.map Prod.fst := by
    apply List.filter_eq_self.2
    simp
  rw [ofFields, keys_insertAll, keys_nil, List.nil_append, all]

theorem find?_ofFields (fields : List (String × Value)) (name : String) :
    (ofFields fields).find? name = fields.reverse.lookup name := by
  rw [ofFields, find?_insertAll]
  simp [find?]

end Document

end DocumentProtocol
