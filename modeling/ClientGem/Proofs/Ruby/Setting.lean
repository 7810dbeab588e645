import ClientGem.Proofs.Ruby.Hanging
import ClientGem.Proofs.Ruby.StringBody

/-!
Settings read off generated text: which names lines give a string literal to, and what the literals
say. A literal is read from its opening to its closing quote, over as many lines as it takes.
-/

namespace ClientGem.Ruby

/-- Where a number sign is taken to begin an interpolation. A sign before a dollar or an at sign
always counts, although it begins one only where the name of a variable follows. -/
def interpolates (next : Option Char) : Bool :=
  next = some '\x7b' || next = some '$' || next = some '@'

/-- Reads a string from behind its opening quote, and gives its text with what stands behind the
closing quote. There is no reading when the string does not end, when something is interpolated, or
when a character is escaped that has no special meaning. A line break is read as it stands, also
behind a carriage return. -/
def readQuoted : List Char → Option (List Char × List Char)
  | [] => none
  | c :: rest =>
    if c = '"' then some ([], rest)
    else if c = '\\' then
      match rest with
      | [] => none
      | d :: rest =>
        if StringBody.isSpecial d then
          (readQuoted rest).map fun (text, behind) => (d :: text, behind)
        else none
    else if c = '#' ∧ interpolates rest.head? then none
    else (readQuoted rest).map fun (text, behind) => (c :: text, behind)

def assignment (name : String) : List Char :=
  (name ++ " = \"").toList

def assigned? (names : List String) (text : List Char) : Option (String × List Char) :=
  let code := text.dropWhile (· == ' ')
  (names.find? fun name => (assignment name).isPrefixOf code).map fun name =>
    (name, code.drop (assignment name).length)

/-- The setting that the first line makes, with what stands behind it. A literal that cannot be read
says nothing, and is passed over with its line. -/
def firstSetting? (names : List String) (text : List Char) :
    Option ((String × Option String) × List Char) :=
  (assigned? names text).map fun (name, literal) =>
    match readQuoted literal with
    | none => ((name, none), text)
    | some (value, behind) => ((name, some (String.ofList value)), behind)

def nextLine (text : List Char) : List Char :=
  (text.dropWhile (· != '\n')).drop 1

theorem length_nextLine (text : List Char) : (nextLine text).length ≤ text.length - 1 := by
  have shorter := (List.dropWhile_sublist (· != '\n') (l := text)).length_le
  rw [nextLine, List.length_drop]
  omega

theorem length_behind {text value behind : List Char}
    (found : readQuoted text = some (value, behind)) : behind.length ≤ text.length := by
  fun_induction readQuoted text generalizing value with
  | case1 => cases found
  | case2 rest =>
    cases found
    simp
  | case3 => cases found
  | case4 d rest special _ ih =>
    obtain ⟨⟨text, after⟩, inside, same⟩ := Option.map_eq_some_iff.mp found
    cases same
    have shorter := ih inside
    simp
    omega
  | case5 => cases found
  | case6 => cases found
  | case7 c rest _ _ _ ih =>
    obtain ⟨⟨text, after⟩, inside, same⟩ := Option.map_eq_some_iff.mp found
    cases same
    have shorter := ih inside
    simp
    omega

theorem length_firstSetting {names : List String} {text behind : List Char}
    {setting : String × Option String}
    (found : firstSetting? names text = some (setting, behind)) :
    behind.length ≤ text.length := by
  obtain ⟨⟨name, literal⟩, inLine, same⟩ := Option.map_eq_some_iff.mp found
  obtain ⟨_, -, sameLine⟩ := Option.map_eq_some_iff.mp inLine
  have code := (List.dropWhile_sublist (· == ' ') (l := text)).length_le
  cases read : readQuoted literal with
  | none =>
    simp only [read] at same
    cases same
    exact Nat.le_refl _
  | some result =>
    simp only [read] at same
    cases same
    have shorter := length_behind read
    cases sameLine
    rw [List.length_drop] at shorter
    omega

/-- The settings that lines of a text make, among those of the given names, with the text that is
read for each. -/
def settings (names : List String) (text : List Char) : List (String × Option String) :=
  if text = [] then []
  else
    match _found : firstSetting? names text with
    | none => settings names (nextLine text)
    | some (setting, behind) => setting :: settings names (nextLine behind)
termination_by text.length
decreasing_by
  · have nonempty := List.length_pos_iff.mpr ‹text ≠ []›
    have shorter := length_nextLine text
    omega
  · have nonempty := List.length_pos_iff.mpr ‹text ≠ []›
    have shorter := length_nextLine behind
    have before := length_firstSetting _found
    omega

section Literals

theorem readQuoted_quote (rest : List Char) : readQuoted ('"' :: rest) = some ([], rest) := by
  rw [readQuoted.eq_def]
  rfl

theorem readQuoted_escaped {c : Char} (special : StringBody.isSpecial c = true) (rest : List Char) :
    readQuoted ('\\' :: c :: rest) =
      (readQuoted rest).map fun (text, behind) => (c :: text, behind) := by
  rw [readQuoted.eq_def]
  simp [special]

theorem readQuoted_cons {c : Char} (noQuote : c ≠ '"') (noBackslash : c ≠ '\\')
    (rest : List Char) : readQuoted (c :: rest) = if c = '#' ∧ interpolates rest.head? then none
      else (readQuoted rest).map fun (text, behind) => (c :: text, behind) := by
  rw [readQuoted.eq_def]
  simp [noQuote, noBackslash]

theorem readQuoted_escapeChars (text rest : List Char) :
    readQuoted (escapeChars text ++ '"' :: rest) = some (text, rest) := by
  induction text with
  | nil => exact readQuoted_quote rest
  | cons c text ih =>
    rw [escapeChars_cons]
    by_cases special : needsEscape c = true
    · have isSpecial : StringBody.isSpecial c = true := special
      simp [special, readQuoted_escaped isSpecial, ih]
    · simp only [needsEscape, Bool.or_eq_true, beq_iff_eq, not_or] at special
      rw [if_neg (by simp [needsEscape, special]), List.singleton_append, List.cons_append,
        readQuoted_cons special.1.2 special.1.1, if_neg fun sign => special.2 sign.1, ih]
      rfl

def isVerbatim : List Char → Bool
  | [] => true
  | c :: rest =>
    c != '"' && c != '\\' && !(c == '#' && interpolates rest.head?) && isVerbatim rest

theorem interpolates_quote (text rest : List Char) :
    interpolates (text ++ '"' :: rest).head? = interpolates text.head? := by
  cases text with
  | nil => rfl
  | cons c text => rfl

theorem readQuoted_of_isVerbatim {text : List Char} (verbatim : isVerbatim text = true)
    (rest : List Char) : readQuoted (text ++ '"' :: rest) = some (text, rest) := by
  induction text with
  | nil => exact readQuoted_quote rest
  | cons c text ih =>
    obtain ⟨⟨⟨noQuote, noBackslash⟩, noSign⟩, behind⟩ : ((c ≠ '"' ∧ c ≠ '\\') ∧
        ¬(c = '#' ∧ interpolates text.head? = true)) ∧ isVerbatim text = true := by
      simpa [isVerbatim, Decidable.imp_iff_not_or] using verbatim
    rw [List.cons_append, readQuoted_cons noQuote noBackslash, interpolates_quote, if_neg noSign,
      ih behind]
    rfl

def backslashes (text : List Char) : Nat :=
  (text.takeWhile (· == '\\')).length

theorem backslashes_append (text rest : List Char) :
    backslashes (text ++ '"' :: rest) = backslashes text := by
  unfold backslashes
  rw [List.takeWhile_append]
  split
  · next all => simp [all]
  · rfl

/-- Of the backslashes that a string begins with, every other one is read. -/
theorem backslashes_readQuoted {text value behind : List Char}
    (read : readQuoted text = some (value, behind)) :
    backslashes value = backslashes text / 2 := by
  fun_induction readQuoted text generalizing value with
  | case1 => cases read
  | case2 rest =>
    cases read
    simp [backslashes]
  | case3 => cases read
  | case4 d rest special _ ih =>
    obtain ⟨⟨text, after⟩, inside, same⟩ := Option.map_eq_some_iff.mp read
    cases same
    have half := ih inside
    by_cases isBackslash : d = '\\'
    · simp [backslashes, isBackslash] at half ⊢
      omega
    · simp [backslashes, isBackslash]
  | case5 => cases read
  | case6 => cases read
  | case7 c rest _ notBackslash _ ih =>
    obtain ⟨⟨text, after⟩, inside, same⟩ := Option.map_eq_some_iff.mp read
    cases same
    simp [backslashes, notBackslash]

/-- Between quotes, only such texts are read as they are. -/
theorem isVerbatim_of_readQuoted {text rest behind : List Char}
    (read : readQuoted (text ++ '"' :: rest) = some (text, behind)) : isVerbatim text = true := by
  induction text with
  | nil => rfl
  | cons c text ih =>
    have half := backslashes_readQuoted read
    have noBackslash : c ≠ '\\' := by
      rintro rfl
      rw [backslashes_append] at half
      have some : 0 < backslashes ('\\' :: text) := by simp [backslashes]
      omega
    have noQuote : c ≠ '"' := by
      rintro rfl
      rw [List.cons_append, readQuoted_quote] at read
      cases read
    rw [List.cons_append, readQuoted_cons noQuote noBackslash, interpolates_quote] at read
    by_cases sign : c = '#' ∧ interpolates text.head? = true
    · rw [if_pos sign] at read
      cases read
    · rw [if_neg sign] at read
      obtain ⟨⟨value, after⟩, inside, same⟩ := Option.map_eq_some_iff.mp read
      cases same
      have plain : ¬c = '#' ∨ interpolates text.head? = false := by
        simpa [Decidable.imp_iff_not_or] using sign
      simp [isVerbatim, noQuote, noBackslash, ih inside, plain]

end Literals

section Settings

variable {names : List String} {text rest : List Char}

theorem settings_nil : settings names [] = [] := by
  rw [settings, if_pos rfl]

theorem nextLine_append {line : List Char} (unbroken : '\n' ∉ line) (rest : List Char) :
    nextLine (line ++ '\n' :: rest) = rest := by
  have each : ∀ c ∈ line, (c != '\n') = true := by
    intro c member
    rw [bne_iff_ne]
    rintro rfl
    exact unbroken member
  rw [nextLine, List.dropWhile_append_of_pos each, List.dropWhile_cons_of_neg (by decide)]
  rfl

theorem nextLine_break (rest : List Char) : nextLine ('\n' :: rest) = rest :=
  nextLine_append List.not_mem_nil rest

theorem settings_of_none (nonempty : text ≠ []) (unread : firstSetting? names text = none) :
    settings names text = settings names (nextLine text) := by
  rw [settings, if_neg nonempty]
  split
  · rfl
  · next found => rw [unread] at found; cases found

theorem settings_of_some {setting : String × Option String} {behind : List Char}
    (nonempty : text ≠ []) (read : firstSetting? names text = some (setting, behind)) :
    settings names text = setting :: settings names (nextLine behind) := by
  rw [settings, if_neg nonempty]
  split
  · next found => rw [read] at found; cases found
  · next found =>
    rw [read] at found
    cases found
    rfl

theorem dropWhile_blank_append (line : List Char) :
    (line ++ '\n' :: rest).dropWhile (· == ' ') = line.dropWhile (· == ' ') ++ '\n' :: rest := by
  rw [List.dropWhile_append]
  split
  · next empty =>
    rw [List.isEmpty_iff.mp empty]
    rfl
  · rfl

structure Distinct (names : List String) : Prop where
  unbroken : ∀ name ∈ names, '\n' ∉ name.toList
  underscored : ∀ name ∈ names, '_' ∈ name.toList
  unindented : ∀ name ∈ names, name.toList.head? ≠ some ' '
  apart : ∀ name ∈ names, ∀ other ∈ names, assignment name <+: assignment other → name = other

variable (distinct : Distinct names)
include distinct

/-- A line that gives a literal to none of the names is passed over. -/
theorem settings_line {line : List Char} (unbroken : '\n' ∉ line)
    (other : ∀ name ∈ names, ¬assignment name <+: line.dropWhile (· == ' ')) (rest : List Char) :
    settings names (line ++ '\n' :: rest) = settings names rest := by
  have unread : firstSetting? names (line ++ '\n' :: rest) = none := by
    rw [firstSetting?, Option.map_eq_none_iff, assigned?, Option.map_eq_none_iff,
      List.find?_eq_none]
    intro name member begins
    rw [List.isPrefixOf_iff_prefix, dropWhile_blank_append] at begins
    have inStart : '\n' ∉ assignment name := by
      simp [assignment, distinct.unbroken name member]
    exact other name member (Text.prefix_of_prefix_append_cons inStart begins)
  rw [settings_of_none (by simp) unread, nextLine_append unbroken]

/-- Text without underscore is passed over, however many lines it has. -/
theorem settings_text {text : List Char} (noUnderscore : '_' ∉ text) (rest : List Char) :
    settings names (text ++ '\n' :: rest) = settings names rest := by
  have line {line : List Char} (unbroken : '\n' ∉ line) (noUnderscore : '_' ∉ line)
      (rest : List Char) : settings names (line ++ '\n' :: rest) = settings names rest := by
    refine settings_line distinct unbroken ?_ rest
    intro name member begins
    have inName : '_' ∈ assignment name := by simp [assignment, distinct.underscored name member]
    exact noUnderscore ((List.dropWhile_sublist _).subset (begins.subset inName))
  generalize length : text.length = count
  induction count using Nat.strongRecOn generalizing text with
  | ind count ih =>
    by_cases broken : '\n' ∈ text
    · obtain ⟨before, behind, rfl, first⟩ := List.eq_append_cons_of_mem broken
      rw [List.mem_append, List.mem_cons, not_or, not_or] at noUnderscore
      rw [List.append_assoc, List.cons_append, line first noUnderscore.1]
      exact ih behind.length (by simp at length; omega) noUnderscore.2.2 rfl
    · exact line broken noUnderscore rest

theorem assigned?_assignment {name : String} (member : name ∈ names) (count : Nat)
    (literal : List Char) : assigned? names
      (List.replicate count ' ' ++ (assignment name ++ literal)) = some (name, literal) := by
  have code : (List.replicate count ' ' ++ (assignment name ++ literal)).dropWhile (· == ' ') =
      assignment name ++ literal := by
    obtain ⟨c, rest, begins⟩ : ∃ c rest, name.toList = c :: rest :=
      List.exists_cons_of_ne_nil (List.ne_nil_of_mem (distinct.underscored name member))
    have noBlank : c ≠ ' ' := by simpa [begins] using distinct.unindented name member
    rw [List.dropWhile_append_of_pos (by simp +contextual [List.mem_replicate])]
    simp [assignment, begins, noBlank]
  have found : names.find? (fun other =>
      (assignment other).isPrefixOf (assignment name ++ literal)) = some name := by
    cases found : names.find? fun other =>
        (assignment other).isPrefixOf (assignment name ++ literal) with
    | none =>
      have absent := List.find?_eq_none.mp found name member
      simp at absent
    | some other =>
      have holds := List.find?_some found
      have begins := List.isPrefixOf_iff_prefix.mp holds
      have inNames := List.mem_of_find?_eq_some found
      rcases List.prefix_or_prefix_of_prefix begins (List.prefix_append _ literal) with
        shorter | longer
      · rw [distinct.apart other inNames name member shorter]
      · rw [distinct.apart name member other inNames longer]
  unfold assigned?
  dsimp only
  rw [code, found, Option.map_some, List.drop_left]

theorem settings_of_read {name : String} (member : name ∈ names) (count : Nat)
    {literal value behind : List Char} (read : readQuoted literal = some (value, behind)) :
    settings names (List.replicate count ' ' ++ (assignment name ++ literal)) =
      (name, some (String.ofList value)) :: settings names (nextLine behind) := by
  have first : firstSetting? names (List.replicate count ' ' ++ (assignment name ++ literal)) =
      some ((name, some (String.ofList value)), behind) := by
    rw [firstSetting?, assigned?_assignment distinct member, Option.map_some]
    simp only [read]
  exact settings_of_some (by simp [assignment]) first

theorem settings_of_unread {name : String} (member : name ∈ names) (count : Nat)
    {literal : List Char} (unread : readQuoted literal = none) : ∃ more,
      settings names (List.replicate count ' ' ++ (assignment name ++ literal)) =
        (name, none) :: more := by
  have first : firstSetting? names (List.replicate count ' ' ++ (assignment name ++ literal)) =
      some ((name, none), List.replicate count ' ' ++ (assignment name ++ literal)) := by
    rw [firstSetting?, assigned?_assignment distinct member, Option.map_some]
    simp only [unread]
  exact ⟨_, settings_of_some (by simp [assignment]) first⟩

/-- A literal that was made from a text is read as this text, and so says its line. -/
theorem settings_literal {name : String} (member : name ∈ names) (count : Nat) (value : String)
    (rest : List Char) : settings names (List.replicate count ' ' ++
      (name ++ " = " ++ stringLiteral value).toList ++ '\n' :: rest) =
        (name, some value) :: settings names rest := by
  have spelled : List.replicate count ' ' ++ (name ++ " = " ++ stringLiteral value).toList ++
      '\n' :: rest = List.replicate count ' ' ++
        (assignment name ++ (escapeChars value.toList ++ '"' :: '\n' :: rest)) := by
    simp [assignment, stringLiteral, escape]
  rw [spelled, settings_of_read distinct member count (readQuoted_escapeChars _ _), nextLine_break,
    String.ofList_toList]

theorem settings_verbatim {name : String} (member : name ∈ names) (count : Nat)
    {text : List Char} (verbatim : isVerbatim text = true) (rest : List Char) :
    settings names (List.replicate count ' ' ++
      (assignment name ++ (text ++ '"' :: '\n' :: rest))) =
        (name, some (String.ofList text)) :: settings names rest := by
  rw [settings_of_read distinct member count (readQuoted_of_isVerbatim verbatim _), nextLine_break]

/-- A text between quotes that has not been escaped makes a setting as well, but it says what it
says only where nothing in it has a special meaning. -/
theorem settings_unescaped {name : String} (member : name ∈ names) (count : Nat)
    (text rest : List Char) : ∃ reading more, settings names (List.replicate count ' ' ++
      (assignment name ++ (text ++ '"' :: rest))) = (name, reading) :: more ∧
        (reading = some (String.ofList text) → isVerbatim text = true) := by
  cases read : readQuoted (text ++ '"' :: rest) with
  | none =>
    obtain ⟨more, same⟩ := settings_of_unread distinct member count read
    exact ⟨none, more, same, nofun⟩
  | some result =>
    obtain ⟨value, behind⟩ := result
    refine ⟨_, _, settings_of_read distinct member count read, ?_⟩
    intro same
    obtain rfl : value = text := String.ofList_injective (Option.some.inj same)
    exact isVerbatim_of_readQuoted read

end Settings

def Settles (names : List String) (line : String) (made : List (String × Option String)) : Prop :=
  ∀ rest, settings names (line.toList ++ '\n' :: rest) = made ++ settings names rest

inductive Settling (names : List String) : List String → List (String × Option String) → Prop
  | nil : Settling names [] []
  | cons {line : String} {lines : List String} {made others : List (String × Option String)}
    (first : Settles names line made) (rest : Settling names lines others) :
    Settling names (line :: lines) (made ++ others)

section Settling

variable {names : List String} {made others : List (String × Option String)}

theorem Settling.append {lines more : List String} (first : Settling names lines made)
    (rest : Settling names more others) : Settling names (lines ++ more) (made ++ others) := by
  induction first with
  | nil => exact rest
  | cons line _ ih =>
    rw [List.cons_append, List.append_assoc]
    exact .cons line ih

theorem Settling.settings_eq {lines : List String} (settling : Settling names lines made)
    (rest : List Char) : settings names (laid lines ++ rest) = made ++ settings names rest := by
  induction settling with
  | nil => rfl
  | cons first _ ih =>
    rw [laid_cons, List.append_assoc, List.cons_append, first, ih, List.append_assoc]

variable (distinct : Distinct names)
include distinct

theorem settles_text {text : String} (noUnderscore : '_' ∉ text.toList) : Settles names text [] :=
  settings_text distinct noUnderscore

theorem settles_blank : Settles names "" [] :=
  settles_text distinct (by decide)

theorem settling_nonblank {lines : List String} :
    Settling names (Source.nonblank lines) made ↔ Settling names lines made := by
  induction lines generalizing made with
  | nil => rfl
  | cons line lines ih =>
    by_cases blank : line = ""
    · have dropped : Source.nonblank (line :: lines) = Source.nonblank lines := by
        simp [Source.nonblank, blank]
      rw [dropped, ih, blank]
      constructor
      · exact fun settling => .cons (settles_blank distinct) settling
      · rintro (_ | ⟨first, settling⟩)
        have same := first []
        rw [settles_blank distinct, settings_nil, List.append_nil, List.append_nil] at same
        rw [← same]
        exact settling
    · have kept : Source.nonblank (line :: lines) = line :: Source.nonblank lines := by
        simp [Source.nonblank, blank]
      rw [kept]
      constructor
      · rintro (_ | ⟨first, settling⟩)
        exact .cons first (ih.mp settling)
      · rintro (_ | ⟨first, settling⟩)
        exact .cons first (ih.mpr settling)

/-- The lines that items write first make the first settings of a layout. -/
theorem settings_layout_append {source : Source} {first others : List String}
    (split : Source.written 0 source = first ++ others) (settling : Settling names first made) :
    ∃ more, Source.nonblank more = Source.nonblank others ∧
      settings names source.layout.toList = made ++ settings names (laid more) := by
  obtain ⟨lines, text, same⟩ := toList_layout source
  rw [split, Source.nonblank_append] at same
  obtain ⟨before, more, rfl, sameFirst, sameOthers⟩ := List.filter_eq_append_iff.mp same
  have settlingBefore : Settling names before made := by
    rw [← settling_nonblank distinct, Source.nonblank, sameFirst]
    exact (settling_nonblank distinct).mpr settling
  exact ⟨more, sameOthers, by rw [text, laid_append, settlingBefore.settings_eq]⟩

theorem settings_layout {source : Source}
    (settling : Settling names (Source.written 0 source) made) :
    settings names source.layout.toList = made := by
  obtain ⟨more, blank, same⟩ :=
    settings_layout_append distinct (List.append_nil _).symm settling
  have none : Settling names more [] := by
    rw [← settling_nonblank distinct, blank]
    exact .nil
  have ended := none.settings_eq []
  rw [List.append_nil, settings_nil] at ended
  rw [same, ended, List.append_nil, List.append_nil]

def passes (names : List String) (line : String) : Bool :=
  !line.toList.contains '\n' &&
    names.all fun name => !(assignment name).isPrefixOf (line.toList.dropWhile (· == ' '))

theorem settles_of_passes {line : String} (passed : passes names line = true) :
    Settles names line [] := by
  obtain ⟨unbroken, other⟩ : '\n' ∉ line.toList ∧ ∀ name ∈ names,
      ¬assignment name <+: line.toList.dropWhile (· == ' ') := by
    simpa [passes, ← Bool.not_eq_true] using passed
  exact fun rest => settings_line distinct unbroken other rest

theorem settling_of_passes {lines : List String}
    (passed : lines.all (passes names) = true) : Settling names lines [] := by
  induction lines with
  | nil => exact .nil
  | cons line lines ih =>
    rw [List.all_cons, Bool.and_eq_true] at passed
    exact .cons (settles_of_passes distinct passed.1) (ih passed.2)

theorem settles_literal {name start : String} (member : name ∈ names)
    (spelled : name ++ " = " = start) (depth : Nat) (value : String) :
    Settles names (Source.indent depth (start ++ stringLiteral value)) [(name, some value)] := by
  intro rest
  have nonempty : name ++ " = " ++ stringLiteral value ≠ "" := by simp [stringLiteral]
  rw [← spelled, toList_indent nonempty]
  exact settings_literal distinct member _ value rest

/-- A literal that is laid line by line is read with its later lines hanging. -/
theorem settles_hanging {name start : String} (member : name ∈ names)
    (spelled : name ++ " = " = start) (depth : Nat) (value : String) : Settles names
      (Source.indent depth (hanging depth (start ++ stringLiteral value)))
        [(name, some (hanging depth value))] := by
  have unbroken : '\n' ∉ start.toList := by simp [← spelled, distinct.unbroken name member]
  rw [hanging_stringLiteral unbroken]
  exact settles_literal distinct member spelled depth _

theorem settles_indent {text : String} (noUnderscore : '_' ∉ text.toList) (depth : Nat) :
    Settles names (Source.indent depth text) [] := by
  apply settles_text distinct
  unfold Source.indent
  split
  · decide
  · simp [noUnderscore]

theorem settling_header {header : String} (noUnderscore : '_' ∉ header.toList) (depth : Nat) :
    Settling names ((Text.lines header).map (Source.indent depth)) [] := by
  have each : ∀ piece ∈ Text.lines header, '_' ∉ piece.toList := by
    intro piece member inPiece
    obtain ⟨chars, inPieces, rfl⟩ := List.mem_map.mp member
    rw [String.toList_ofList] at inPiece
    exact noUnderscore (Text.mem_of_mem_splitChars inPieces inPiece).1
  generalize Text.lines header = pieces at each
  induction pieces with
  | nil => exact .nil
  | cons piece pieces ih =>
    exact .cons (settles_indent distinct (each piece List.mem_cons_self) depth)
      (ih fun other member => each other (.tail _ member))

theorem settling_block {depth : Nat} {header : String} {body : Source}
    (opened : Settling names ((Text.lines header).map (Source.indent depth)) [])
    (inside : Settling names (Source.written (depth + 1) body) made) :
    Settling names (Source.written depth [.block header body]) made := by
  have closed : Settling names [Source.indent depth "end"] [] :=
    .cons (settles_indent distinct (by decide) depth) .nil
  have whole := (opened.append inside).append closed
  rw [List.nil_append, List.append_nil] at whole
  simpa only [Source.written, Item.written, List.append_nil] using whole

end Settling

def BeginsSettling (names : List String) (lines : List String)
    (made : List (String × Option String)) : Prop :=
  ∃ first others, lines = first ++ others ∧ Settling names first made

section BeginsSettling

variable {names : List String} {made others : List (String × Option String)}

theorem Settling.begins {lines : List String} (settling : Settling names lines made) :
    BeginsSettling names lines made :=
  ⟨lines, [], (List.append_nil _).symm, settling⟩

theorem Settling.append_begins {lines more : List String} (first : Settling names lines made)
    (rest : BeginsSettling names more others) :
    BeginsSettling names (lines ++ more) (made ++ others) := by
  obtain ⟨next, last, rfl, settling⟩ := rest
  exact ⟨lines ++ next, last, (List.append_assoc ..).symm, first.append settling⟩

theorem BeginsSettling.append {lines : List String} (begins : BeginsSettling names lines made)
    (more : List String) : BeginsSettling names (lines ++ more) made := by
  obtain ⟨first, last, rfl, settling⟩ := begins
  exact ⟨first, last ++ more, List.append_assoc .., settling⟩

theorem begins_block {depth : Nat} {header : String} {body : Source}
    (opened : Settling names ((Text.lines header).map (Source.indent depth)) [])
    (inside : BeginsSettling names (Source.written (depth + 1) body) made) :
    BeginsSettling names (Source.written depth [.block header body]) made := by
  have whole := (opened.append_begins inside).append [Source.indent depth "end"]
  simpa only [Source.written, Item.written, List.nil_append, List.append_nil] using whole

theorem BeginsSettling.prefix_settings (distinct : Distinct names) {source : Source}
    (begins : BeginsSettling names (Source.written 0 source) made) :
    made <+: settings names source.layout.toList := by
  obtain ⟨first, last, split, settling⟩ := begins
  obtain ⟨more, -, same⟩ := settings_layout_append distinct split settling
  exact ⟨_, same.symm⟩

end BeginsSettling

end ClientGem.Ruby
