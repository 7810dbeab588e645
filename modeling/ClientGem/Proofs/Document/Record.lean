import ClientGem.Document.Reader
import Mathlib.Data.List.Pairwise
import Mathlib.Data.List.Perm.Basic

/-!
The reading of a record. Every known field has a slot of its own in the record, so that the order
of the fields does not count; fields that are not known, and fields of which nothing is said, leave
the record as it is.
-/

namespace ClientGem.Document

def Value.field? (key : Value) : Option String :=
  match key.untagged with
  | .text name => some name
  | _ => none

/-- The second reading gives what the first does. Where `faults` is not set, this is said only of a
first reading that succeeds. -/
def Follows {α : Type} (faults : Bool) (first second : Decoded α) : Prop :=
  match first with
  | .ok result => second = .ok result
  | .error fault => faults = true → second = .error fault

namespace Follows

variable {α β : Type} {faults : Bool} {first second : Decoded α} {next other : α → Decoded β}

theorem refl (faults : Bool) (reading : Decoded α) : Follows faults reading reading := by
  cases reading with
  | error fault => exact fun _ => rfl
  | ok result => rfl

theorem of_eq (same : first = second) : Follows faults first second :=
  same ▸ refl faults first

theorem of_accepted (accepted : ∀ result, first = .ok result → second = .ok result) :
    Follows false first second := by
  cases first with
  | error fault => exact nofun
  | ok result => exact accepted result rfl

theorem bind (start : Follows faults first second)
    (rest : ∀ result, Follows faults (next result) (other result)) :
    Follows faults (first >>= next) (second >>= other) := by
  cases first with
  | error fault =>
    intro counted
    rw [start counted]
    rfl
  | ok result =>
    rw [show second = .ok result from start]
    exact rest result

theorem map (start : Follows faults first second) (f : α → β) :
    Follows faults (f <$> first) (f <$> second) := by
  cases first with
  | error fault =>
    intro counted
    rw [start counted]
    rfl
  | ok result =>
    rw [show second = .ok result from start]
    rfl

theorem eq (follows : Follows true first second) : first = second := by
  cases first with
  | error fault => exact (follows rfl).symm
  | ok result => exact Eq.symm follows

theorem ok {result : α} (follows : Follows faults first second) (accepted : first = .ok result) :
    second = .ok result := by
  rw [accepted] at follows
  exact follows

/-- Nothing is said in an optional place only where there is a null. -/
theorem optional {read : Value → Decoded α} {value changed : Value}
    (follows : Follows faults (read value) (read changed)) (said : value.isNull = false)
    (still : changed.isNull = false) :
    Follows faults (Document.optional read value) (Document.optional read changed) := by
  unfold Document.optional
  rw [said, still]
  exact follows.map some

theorem orDefault {default : α} {read : Value → Decoded α} {value changed : Value}
    (follows : Follows faults (read value) (read changed)) (said : value.isNull = false)
    (still : changed.isNull = false) :
    Follows faults (Document.orDefault default read value)
      (Document.orDefault default read changed) :=
  (follows.optional said still).map _

end Follows

structure Slot (σ : Type) where
  Content : Type
  read : Value → Decoded Content
  put : Content → σ → σ

namespace Slot

variable {σ : Type}

def fill (slot : Slot σ) (value : Value) (record : σ) : Decoded σ := do
  .ok (slot.put (← slot.read value) record)

def Apart (slot other : Slot σ) : Prop :=
  ∀ content content' record,
    slot.put content (other.put content' record) = other.put content' (slot.put content record)

theorem Apart.symm {slot other : Slot σ} (apart : slot.Apart other) : other.Apart slot :=
  fun content content' record => (apart content' content record).symm

theorem fill_eq_ok {slot : Slot σ} {value : Value} {record next : σ} :
    slot.fill value record = .ok next ↔
      ∃ content, slot.read value = .ok content ∧ slot.put content record = next := by
  unfold fill
  cases slot.read value with
  | error fault => exact ⟨nofun, nofun⟩
  | ok content =>
    constructor
    · intro filled
      exact ⟨content, rfl, Except.ok.inj filled⟩
    · rintro ⟨other, same, rfl⟩
      rw [Except.ok.inj same]
      rfl

/-- Slots that are apart may be filled the other way round. -/
theorem fill_comm {slot other : Slot σ} (apart : slot.Apart other) {value value' : Value}
    {record middle last : σ} (first : slot.fill value record = .ok middle)
    (second : other.fill value' middle = .ok last) :
    ∃ between, other.fill value' record = .ok between ∧ slot.fill value between = .ok last := by
  obtain ⟨content, read, rfl⟩ := fill_eq_ok.mp first
  obtain ⟨content', read', rfl⟩ := fill_eq_ok.mp second
  exact ⟨_, fill_eq_ok.mpr ⟨content', read', rfl⟩,
    fill_eq_ok.mpr ⟨content, read, apart content content' record⟩⟩

theorem fill_null_comm {slot other : Slot σ} (apart : slot.Apart other) {value : Value}
    {record next : σ} (unset : slot.fill .null record = .ok record)
    (filled : other.fill value record = .ok next) : slot.fill .null next = .ok next := by
  obtain ⟨between, same, left⟩ := fill_comm apart unset filled
  rw [filled] at same
  exact Except.ok.inj same ▸ left

end Slot

structure Slots {σ : Type} (known : List String) (set : String → Value → σ → Decoded σ) where
  named : List (String × Slot σ)
  names : named.map Prod.fst = known
  set_eq : ∀ entry ∈ named, ∀ value record, set entry.1 value record = entry.2.fill value record
  apart : named.Pairwise fun first second => first.2.Apart second.2

section Entries

variable {σ : Type} {known : List String} {set : String → Value → σ → Decoded σ}

theorem readText_eq (wanted : Wanted) (key : Value) : readText wanted key =
    match key.field? with
    | some name => .ok name
    | none => mismatch key wanted := by
  unfold readText Value.field?
  cases key.untagged <;> rfl

theorem readText_of_field? {wanted : Wanted} {key : Value} {name : String}
    (named : key.field? = some name) : readText wanted key = .ok name := by
  rw [readText_eq, named]

theorem field?_of_readText {wanted : Wanted} {key : Value} {name : String}
    (read : readText wanted key = .ok name) : key.field? = some name := by
  rw [readText_eq] at read
  cases named : key.field? with
  | none => simp [named, mismatch] at read
  | some other => simpa [named] using read

theorem readFields_seen {seen others : List String} {entries : List (Value × Value)}
    (same : ∀ entry ∈ entries, ∀ name, entry.1.field? = some name → (name ∈ seen ↔ name ∈ others))
    (record : σ) :
    readFields known set seen entries record = readFields known set others entries record := by
  induction entries generalizing seen others record with
  | nil => rfl
  | cons entry entries ih =>
    obtain ⟨key, value⟩ := entry
    have later := fun other member => same other (List.mem_cons_of_mem _ member)
    rw [readFields, readFields]
    cases read : readText .fieldName key with
    | error fault => rfl
    | ok name =>
      have here : seen.contains name = others.contains name := by
        have iff := same (key, value) List.mem_cons_self name (field?_of_readText read)
        simpa [List.contains_iff_mem] using iff
      show (if known.contains name then _ else _) = (if known.contains name then _ else _)
      rw [here]
      split
      · split
        · rfl
        · cases set name value record with
          | error fault => rfl
          | ok result =>
            apply ih
            intro other member name' named
            simp only [List.mem_cons, later other member name' named]
      · exact ih later record

/-- What it means that entries are read: each key names a field, and a known one comes once. -/
theorem readFields_cons_eq_ok {seen : List String} {key value : Value}
    {entries : List (Value × Value)} {record result : σ} :
    readFields known set seen ((key, value) :: entries) record = .ok result ↔
      ∃ name, key.field? = some name ∧
        (name ∉ known ∧ readFields known set seen entries record = .ok result ∨
          name ∈ known ∧ name ∉ seen ∧ ∃ next, set name value record = .ok next ∧
            readFields known set (name :: seen) entries next = .ok result) := by
  rw [readFields]
  cases read : readText .fieldName key with
  | error fault =>
    refine ⟨nofun, ?_⟩
    rintro ⟨name, named, -⟩
    rw [readText_of_field? named] at read
    cases read
  | ok name =>
    have named := field?_of_readText read
    have only : ∀ {P : String → Prop}, (∃ other, key.field? = some other ∧ P other) ↔ P name := by
      simp [named]
    rw [only]
    show (if known.contains name then _ else _) = _ ↔ _
    by_cases isKnown : name ∈ known
    · by_cases before : name ∈ seen
      · simp [isKnown, before]
      · cases set name value record with
        | error fault => simp [isKnown, before, bind, Except.bind]
        | ok next => simp [isKnown, before, bind, Except.bind]
    · simp [isKnown]

theorem readFields_unknown {key value : Value} {name : String} (named : key.field? = some name)
    (unknown : name ∉ known) (seen : List String) (before after : List (Value × Value))
    (record : σ) :
    readFields known set seen (before ++ (key, value) :: after) record =
      readFields known set seen (before ++ after) record := by
  induction before generalizing seen record with
  | nil =>
    have notKnown : known.contains name = false := by simpa using unknown
    rw [List.nil_append, List.nil_append, readFields, readText_of_field? named]
    show (if known.contains name then _ else _) = _
    rw [notKnown]
    rfl
  | cons entry before ih =>
    rw [List.cons_append, List.cons_append, readFields, readFields]
    simp only [ih]

theorem readFields_follows {faults : Bool} {key value changed : Value} {name : String}
    (named : key.field? = some name)
    (follows : ∀ record, Follows faults (set name value record) (set name changed record))
    (seen : List String) (before after : List (Value × Value)) (record : σ) :
    Follows faults (readFields known set seen (before ++ (key, value) :: after) record)
      (readFields known set seen (before ++ (key, changed) :: after) record) := by
  induction before generalizing seen record with
  | nil =>
    rw [List.nil_append, List.nil_append, readFields, readFields, readText_of_field? named]
    show Follows faults (if known.contains name then _ else _)
      (if known.contains name then _ else _)
    split
    · split
      · exact Follows.refl faults _
      · exact (follows record).bind fun next => Follows.refl faults _
    · exact Follows.refl faults _
  | cons entry before ih =>
    rw [List.cons_append, List.cons_append, readFields, readFields]
    apply (Follows.refl faults _).bind
    intro field
    split
    · split
      · exact Follows.refl faults _
      · exact (Follows.refl faults _).bind fun next => ih (field :: seen) next
    · exact ih seen record

namespace Slots

variable (slots : Slots known set)
include slots

theorem exists_slot {name : String} (member : name ∈ known) : ∃ slot, (name, slot) ∈ slots.named ∧
    ∀ value record, set name value record = slot.fill value record := by
  rw [← slots.names] at member
  obtain ⟨⟨name', slot⟩, inNamed, rfl⟩ := List.mem_map.mp member
  exact ⟨slot, inNamed, slots.set_eq _ inNamed⟩

theorem apart_of_ne {name other : String} {slot slot' : Slot σ}
    (first : (name, slot) ∈ slots.named) (second : (other, slot') ∈ slots.named)
    (ne : name ≠ other) : slot.Apart slot' := by
  have symmetric : Std.Symm fun first second : String × Slot σ => first.2.Apart second.2 :=
    ⟨fun _ _ apart => apart.symm⟩
  exact slots.apart.forall first second fun same => ne (congrArg Prod.fst same)

theorem set_comm {name other : String} (member : name ∈ known) (member' : other ∈ known)
    (ne : name ≠ other) {value value' : Value} {record middle last : σ}
    (first : set name value record = .ok middle) (second : set other value' middle = .ok last) :
    ∃ between, set other value' record = .ok between ∧ set name value between = .ok last := by
  obtain ⟨slot, inNamed, fills⟩ := slots.exists_slot member
  obtain ⟨slot', inNamed', fills'⟩ := slots.exists_slot member'
  rw [fills] at first
  rw [fills'] at second
  obtain ⟨between, left, right⟩ :=
    Slot.fill_comm (slots.apart_of_ne inNamed inNamed' ne) first second
  exact ⟨between, (fills' _ _).trans left, (fills _ _).trans right⟩

/-- The order of the fields does not count in a record that is accepted. -/
theorem readFields_perm {entries others : List (Value × Value)} (perm : entries.Perm others)
    {seen : List String} {record result : σ}
    (accepted : readFields known set seen entries record = .ok result) :
    readFields known set seen others record = .ok result := by
  induction perm generalizing seen record with
  | nil => exact accepted
  | cons entry perm ih =>
    obtain ⟨name, named, ⟨unknown, rest⟩ | ⟨isKnown, new, next, filled, rest⟩⟩ :=
      readFields_cons_eq_ok.mp accepted
    · exact readFields_cons_eq_ok.mpr ⟨name, named, .inl ⟨unknown, ih rest⟩⟩
    · exact readFields_cons_eq_ok.mpr ⟨name, named, .inr ⟨isKnown, new, next, filled, ih rest⟩⟩
  | swap first second entries =>
    obtain ⟨name, named, ⟨unknown, rest⟩ | ⟨isKnown, new, next, filled, rest⟩⟩ :=
      readFields_cons_eq_ok.mp accepted
    · exact (readFields_unknown named unknown seen [first] entries record).trans rest
    · obtain ⟨name', named', ⟨unknown', rest'⟩ | ⟨isKnown', new', next', filled', rest'⟩⟩ :=
        readFields_cons_eq_ok.mp rest
      · have inside := readFields_cons_eq_ok.mpr
          ⟨name, named, .inr ⟨isKnown, new, next, filled, rest'⟩⟩
        exact readFields_cons_eq_ok.mpr ⟨name', named', .inl ⟨unknown', inside⟩⟩
      · rw [List.mem_cons, not_or] at new'
        obtain ⟨between, filledFirst, filledSecond⟩ :=
          slots.set_comm isKnown isKnown' (Ne.symm new'.1) filled filled'
        have reordered :
            readFields known set (name :: name' :: seen) entries next' = .ok result := by
          rw [← rest']
          apply readFields_seen
          intro _ _ other _
          simp only [List.mem_cons, or_left_comm]
        have inside : readFields known set (name' :: seen) (second :: entries) between =
            .ok result := readFields_cons_eq_ok.mpr
          ⟨name, named, .inr ⟨isKnown, by simp [Ne.symm new'.1, new], next', filledSecond,
            reordered⟩⟩
        exact readFields_cons_eq_ok.mpr
          ⟨name', named', .inr ⟨isKnown', new'.2, between, filledFirst, inside⟩⟩
  | trans _ _ ih ih' => exact ih' (ih accepted)

/-- A null says nothing of a field that comes only once and still is as it was at the start. -/
theorem readFields_null {key : Value} {name : String} (named : key.field? = some name)
    (isKnown : name ∈ known) {seen : List String} (new : name ∉ seen)
    {before after : List (Value × Value)}
    (alone : ∀ entry ∈ before ++ after, entry.1.field? ≠ some name) {record : σ}
    (unset : set name .null record = .ok record) :
    readFields known set seen (before ++ (key, .null) :: after) record =
      readFields known set seen (before ++ after) record := by
  induction before generalizing seen record with
  | nil =>
    have notSeen : seen.contains name = false := by simpa using new
    have contained : known.contains name = true := by simpa using isKnown
    have forgotten : readFields known set (name :: seen) after record =
        readFields known set seen after record := by
      apply readFields_seen
      intro entry member other namedOther
      have ne : other ≠ name := fun same => alone entry member (same ▸ namedOther)
      simp [ne]
    rw [List.nil_append, List.nil_append, readFields, readText_of_field? named]
    show (if known.contains name then _ else _) = _
    rw [contained, notSeen, unset]
    exact forgotten
  | cons entry before ih =>
    obtain ⟨key', value⟩ := entry
    have others := fun entry member => alone entry (List.mem_cons_of_mem _ member)
    rw [List.cons_append, List.cons_append, readFields, readFields]
    cases read : readText .fieldName key' with
    | error fault => rfl
    | ok other =>
      have ne : name ≠ other := by
        rintro rfl
        exact alone _ List.mem_cons_self (field?_of_readText read)
      show (if known.contains other then _ else _) = (if known.contains other then _ else _)
      by_cases isKnown' : known.contains other = true
      · rw [if_pos isKnown', if_pos isKnown']
        split
        · rfl
        · cases filled : set other value record with
          | error fault => rfl
          | ok next =>
            obtain ⟨slot, inNamed, fills⟩ := slots.exists_slot isKnown
            obtain ⟨slot', inNamed', fills'⟩ := slots.exists_slot (by simpa using isKnown')
            rw [fills] at unset
            rw [fills'] at filled
            have apart := slots.apart_of_ne inNamed inNamed' ne
            exact ih (by simp [ne, new]) others
              ((fills _ _).trans (Slot.fill_null_comm apart unset filled))
      · rw [if_neg isKnown', if_neg isKnown']
        exact ih new others unset

end Slots

end Entries

end ClientGem.Document
