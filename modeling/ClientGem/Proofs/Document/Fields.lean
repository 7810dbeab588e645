import ClientGem.Proofs.Document.Record

/-!
Records written as mappings: every field that has a value under its name, in a fixed order. To read
such a record is to set its fields one after another.
-/

namespace ClientGem.Document

/-- The entries of a record, of which a field without a value is left out. -/
def entriesOf (fields : List (String × Option Value)) : List (Value × Value) :=
  fields.filterMap fun field => field.2.map (.text field.1, ·)

section Fields

variable {σ : Type} {known : List String} {set : String → Value → σ → Decoded σ}

def setField (set : String → Value → σ → Decoded σ) (record : σ) :
    String × Option Value → Decoded σ
  | (name, some value) => set name value record
  | (_, none) => .ok record

theorem readFields_entriesOf {fields : List (String × Option Value)} {seen : List String}
    (isKnown : ∀ name ∈ fields.map Prod.fst, name ∈ known)
    (new : ∀ name ∈ fields.map Prod.fst, name ∉ seen) (distinct : (fields.map Prod.fst).Nodup)
    (record : σ) : readFields known set seen (entriesOf fields) record =
      fields.foldlM (setField set) record := by
  induction fields generalizing seen record with
  | nil => rfl
  | cons field fields ih =>
    obtain ⟨name, value⟩ := field
    rw [List.map_cons] at isKnown new distinct
    obtain ⟨first, others⟩ := List.forall_mem_cons.mp isKnown
    obtain ⟨firstNew, othersNew⟩ := List.forall_mem_cons.mp new
    obtain ⟨apart, distinctBehind⟩ := List.nodup_cons.mp distinct
    cases value with
    | none => exact ih others othersNew distinctBehind record
    | some value =>
      have contained : known.contains name = true := by simpa using first
      have notSeen : seen.contains name = false := by simpa using firstNew
      have newBehind : ∀ other ∈ fields.map Prod.fst, other ∉ name :: seen := by
        intro other member
        rw [List.mem_cons, not_or]
        exact ⟨fun same => apart (same ▸ member), othersNew other member⟩
      have read : readText .fieldName (.text name) = .ok name := rfl
      have split : entriesOf ((name, some value) :: fields) =
          (.text name, value) :: entriesOf fields := rfl
      rw [split, readFields, read, List.foldlM_cons]
      change (if known.contains name then _ else _) = set name value record >>= _
      rw [contained, notSeen]
      cases set name value record with
      | error fault => rfl
      | ok next => exact ih others newBehind distinctBehind next

theorem readRecord_entriesOf {fields : List (String × Option Value)} {wanted : Wanted}
    {start result : σ} (names : fields.map Prod.fst = known) (distinct : known.Nodup)
    (filled : fields.foldlM (setField set) start = .ok result) :
    readRecord wanted known set start (.map (entriesOf fields)) = .ok result :=
  (readFields_entriesOf (fun _ member => names ▸ member) (fun _ _ => List.not_mem_nil)
    (names ▸ distinct) start).trans filled

theorem foldlM_setField_cons {field : String × Option Value} {fields : List (String × Option Value)}
    {record next last : σ} (first : setField set record field = .ok next)
    (others : fields.foldlM (setField set) next = .ok last) :
    (field :: fields).foldlM (setField set) record = .ok last := by
  rw [List.foldlM_cons, first]
  exact others

variable {α : Type} {read : Value → Decoded α} {write : α → Value} {name : String} {record : σ}

theorem setField_given (put : α → σ → σ)
    (sets : ∀ value record, set name value record = do .ok (put (← read value) record))
    {value : Value} {content : α} (reads : read value = .ok content) :
    setField set record (name, some value) = .ok (put content record) := by
  rw [setField, sets, reads]
  rfl

theorem optional_write (reads : ∀ content, read (write content) = .ok content)
    (said : ∀ content, (write content).isNull = false) (content : α) :
    optional read (write content) = .ok (some content) := by
  rw [optional, said content, reads content]
  rfl

theorem orDefault_write (reads : ∀ content, read (write content) = .ok content)
    (said : ∀ content, (write content).isNull = false) (default content : α) :
    orDefault default read (write content) = .ok content := by
  rw [orDefault, optional_write reads said]
  rfl

theorem setField_optional (put : Option α → σ → σ)
    (sets : ∀ value record, set name value record = do .ok (put (← optional read value) record))
    (reads : ∀ content, read (write content) = .ok content)
    (said : ∀ content, (write content).isNull = false) (content : Option α)
    (unset : put none record = record) :
    setField set record (name, content.map write) = .ok (put content record) := by
  cases content with
  | none => exact congrArg Except.ok unset.symm
  | some content => exact setField_given put sets (optional_write reads said content)

theorem setField_text (put : Option String → σ → σ)
    (sets : ∀ value record,
      set name value record = do .ok (put (← optional (readText .text) value) record))
    (content : Option String) (unset : put none record = record) :
    setField set record (name, content.map .text) = .ok (put content record) :=
  setField_optional put sets (fun _ => rfl) (fun _ => rfl) content unset

theorem mapM_map_write (reads : ∀ content, read (write content) = .ok content)
    (contents : List α) : (contents.map write).mapM read = .ok contents := by
  induction contents with
  | nil => rfl
  | cons content contents ih =>
    rw [List.map_cons, List.mapM_cons, reads, ih]
    rfl

end Fields

end ClientGem.Document
