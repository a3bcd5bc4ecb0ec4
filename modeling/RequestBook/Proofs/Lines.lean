import RequestBook.Proofs.CaseFolding
import RequestBook.Proofs.Grammar

/-! The lines that request books are written in, and that each of them is recognised as what it is
and as nothing else: a declaration, a separator, a comment, the name of a request, a request line, a
header or a reference to a file. -/
namespace RequestBook

open Text

namespace Text

/-- An upper-case letter stays what it is. -/
theorem upper_of_capitals {text : List Char} (capitals : ∀ c ∈ text, 'A' ≤ c ∧ c ≤ 'Z') :
    upper text = text := by
  induction text with
  | nil => rfl
  | cons c rest ih =>
    obtain ⟨first, others⟩ := List.forall_mem_cons.mp capitals
    have ascii : isAscii c = true := isAscii_of_le first.2 rfl
    have same : c.toUpper = c := by
      have below : ¬ 'a' ≤ c := fun above => absurd (Char.le_trans above first.2) (by decide)
      exact dif_neg fun both => below both.1
    rw [upper, List.flatMap_cons, upperChar, if_pos ascii, same]
    exact congrArg _ (ih others)

/-- The upper case of letters is in upper case. -/
theorem capital_of_mem_upper {text : List Char} (letters : ∀ c ∈ text, isAsciiLetter c = true) :
    ∀ c ∈ upper text, 'A' ≤ c ∧ c ≤ 'Z' := by
  intro c member
  obtain ⟨d, inside, made⟩ := List.mem_flatMap.mp member
  have letter := letters d inside
  rw [upperChar, if_pos (isAscii_of_isAsciiLetter letter), List.mem_singleton] at made
  subst made
  have small : ∀ n < 123, isAsciiLetter (Char.ofNat n) = true →
      'A' ≤ (Char.ofNat n).toUpper ∧ (Char.ofNat n).toUpper ≤ 'Z' := by decide
  have bound : d.toNat < 123 := by
    simp only [isAsciiLetter, Bool.or_eq_true, Bool.and_eq_true, decide_eq_true_eq] at letter
    rcases letter with ⟨_, below⟩ | ⟨_, below⟩
    · have : d.toNat ≤ 122 := below
      omega
    · have : d.toNat ≤ 90 := below
      omega
  have same : Char.ofNat d.toNat = d := Char.ofNat_toNat d
  have found := small d.toNat bound
  rw [same] at found
  exact found letter

theorem upper_ne_nil {text : List Char} (filled : text ≠ [])
    (letters : ∀ c ∈ text, isAsciiLetter c = true) : upper text ≠ [] := by
  cases text with
  | nil => contradiction
  | cons c rest =>
    have ascii : isAscii c = true := isAscii_of_isAsciiLetter (letters c List.mem_cons_self)
    rw [upper, List.flatMap_cons, upperChar, if_pos ascii]
    exact List.cons_ne_nil _ _

end Text

namespace Line

def ofDeclaration (binding : String × String) : List Char :=
  '@' :: (binding.1.toList ++ " = ".toList ++ binding.2.toList)

def ofSeparator : Option String → List Char
  | none => "###".toList
  | some title => "### ".toList ++ title.toList

def ofComment (text : String) : List Char := "# ".toList ++ text.toList

def ofName (name : String) : List Char := "# @name ".toList ++ name.toList

def versionPart : Option String → List Char
  | none => []
  | some version => ' ' :: version.toList

def ofRequest (method url : String) (version : Option String) : List Char :=
  method.toList ++ ' ' :: (url.toList ++ versionPart version)

def ofHeader (header : String × String) : List Char :=
  header.1.toList ++ ": ".toList ++ header.2.toList

def ofFile (path : String) : List Char := "< ".toList ++ path.toList

section Lines

variable {table : MethodTable} {line rest : List Char}

/-- A line without the marks of a separator separates nothing. -/
theorem separatorTitle?_eq_none (unmarked : ¬ "###".toList <+: trim line) : separatorTitle? line = none := by
  rw [separatorTitle?, dropStart?_eq_none unmarked, Option.map_none]

/-- What is recognised as something else is no separator. -/
theorem separatorTitle?_of_classify (other : ∀ title, classify table line ≠ .separator title) :
    separatorTitle? line = none := by
  cases separates : separatorTitle? line with
  | none => rfl
  | some title =>
    have inside : separatorTitle? (trim line) = some title := by
      rw [← separates, separatorTitle?, separatorTitle?, trim_trim]
    refine absurd ?_ (other title)
    rw [classify]
    simp only [inside]

theorem classify_at (shown : trim line = '@' :: rest) :
    classify table line = match readVariable rest with
      | some (name, value) => .declaration (String.ofList name) (String.ofList value)
      | none => .malformedDeclaration := by
  have plain : separatorTitle? ('@' :: rest) = none :=
    separatorTitle?_eq_none (by rw [← shown, trim_trim, shown]; simp)
  cases found : readVariable rest <;> simp [classify, shown, plain, found]

theorem classify_number (shown : trim line = '#' :: rest) (single : ¬ "##".toList <+: rest) :
    classify table line = match readDirective rest with
      | some name => .nameDirective (String.ofList name)
      | none => .comment (String.ofList (trim rest)) := by
  have plain : separatorTitle? ('#' :: rest) = none :=
    separatorTitle?_eq_none (by rw [← shown, trim_trim, shown]; simpa using single)
  have marked : isComment ('#' :: rest) = true := by simp [isComment, dropStart?]
  have bare : commentText ('#' :: rest) = rest := by simp [commentText, dropStart?]
  cases found : readDirective rest <;> simp [classify, shown, plain, marked, bare, found]

/-- A letter starts neither a declaration nor a comment nor a separator. -/
theorem classify_letter {c : Char} (shown : trim line = c :: rest) (letter : isAsciiLetter c = true) :
    classify table line = classifyRequest table (c :: rest) := by
  have other : c ≠ '@' ∧ c ≠ '#' ∧ c ≠ '/' := by
    refine ⟨?_, ?_, ?_⟩ <;>
    · rintro rfl
      cases letter
  have plain : separatorTitle? (c :: rest) = none :=
    separatorTitle?_eq_none (by rw [← shown, trim_trim, shown]; simp [Ne.symm other.2.1])
  simp only [classify, shown, plain]
  split
  next eq => cases eq
  next eq => cases eq
  next eq =>
    cases eq
    exact absurd rfl other.1
  next =>
    rw [if_neg]
    simp [isComment, dropStart?, Ne.symm other.2.1, Ne.symm other.2.2]

theorem trim_ofDeclaration (binding : String × String) : trim (ofDeclaration binding) =
      '@' :: (binding.1.toList ++ ' ' :: '=' :: trimEnd (' ' :: binding.2.toList)) := by
  have front : Trimmed ('@' :: binding.1.toList ++ [' ', '=']) :=
    trimmed_append (by simp) (by simp) (by simp [isBlank]) (by simp [isBlank])
  have shape : ofDeclaration binding =
      ('@' :: binding.1.toList ++ [' ', '=']) ++ ' ' :: binding.2.toList := by
    simp [ofDeclaration]
  rw [shape, front.trim_append (by simp)]
  simp

/-- A variable that can be declared on a line. -/
structure Declarable (binding : String × String) : Prop where
  name : IsIdentifier variableMarks binding.1.toList
  value : Neat binding.2.toList

instance : DecidablePred Declarable := fun binding =>
  decidable_of_iff (IsIdentifier variableMarks binding.1.toList ∧ Neat binding.2.toList)
    ⟨fun ⟨name, value⟩ => ⟨name, value⟩, fun ⟨name, value⟩ => ⟨name, value⟩⟩

theorem classify_ofDeclaration {binding : String × String} (declarable : Declarable binding) :
    classify table (ofDeclaration binding) = .declaration binding.1 binding.2 := by
  have read : readVariable (binding.1.toList ++ ' ' :: '=' :: trimEnd (' ' :: binding.2.toList)) =
      some (binding.1.toList, binding.2.toList) := by
    have single : binding.2.toList.contains '\n' = false := by
      simpa using fun member => (declarable.value.2 '\n' member).2 rfl
    have assigned : trimStart (' ' :: '=' :: trimEnd (' ' :: binding.2.toList)) =
        ['='] ++ trimEnd (' ' :: binding.2.toList) := rfl
    rw [readVariable, readIdentifier_append declarable.name (by simp; decide)]
    simp only [Option.bind_eq_bind, Option.bind_some, assigned, dropStart?_append,
      trim_trimEnd_space declarable.value.1, single]
    simp
  rw [classify_at (trim_ofDeclaration binding), read]
  simp

theorem map_classify_ofDeclaration {bindings : List (String × String)}
    (declarable : ∀ binding ∈ bindings, Declarable binding) :
    (bindings.map ofDeclaration).map (classify table) =
      bindings.map fun binding => .declaration binding.1 binding.2 := by
  rw [List.map_map]
  refine List.map_congr_left fun binding member => ?_
  rw [Function.comp_apply, classify_ofDeclaration (declarable binding member)]

def NamesRequest (text : List Char) : Prop :=
  ∃ blanks name, text = "@name".toList ++ (blanks ++ name) ∧ blanks ≠ [] ∧ allBlank blanks = true ∧
    IsIdentifier requestMarks name

theorem not_namesRequest {text : List Char} (unmarked : ¬ "@name".toList <+: text) :
    ¬ NamesRequest text := by
  rintro ⟨blanks, name, eq, -, -⟩
  exact unmarked ⟨blanks ++ name, eq.symm⟩

theorem namesRequest_of_readDirective {text name : List Char} (trimmed : Trimmed text)
    (read : readDirective text = some name) : NamesRequest text := by
  simp only [readDirective, Option.bind_eq_bind, Option.bind_eq_some_iff] at read
  obtain ⟨more, marked, read⟩ := read
  rw [trimStart_of_head trimmed.1, dropStart?_eq_some] at marked
  split at read
  next c rest =>
    split at read
    next blank =>
      obtain ⟨⟨found, behind⟩, named, last⟩ := Option.bind_eq_some_iff.mp read
      obtain ⟨identifier, split⟩ := readIdentifier_eq_some named
      have whole : text = ("@name".toList ++ ((c :: rest).takeWhile isBlank ++ found)) ++ behind := by
        have cut := List.takeWhile_append_dropWhile (p := isBlank) (l := c :: rest)
        rw [← trimStart, split] at cut
        simp only [marked, List.append_assoc, cut]
      have nothing : behind = [] := by
        rw [whole] at trimmed
        refine trimmed.behind_eq_nil ?_
        by_contra inked
        simp [inked] at last
      refine ⟨(c :: rest).takeWhile isBlank, found, ?_, ?_, ?_, identifier⟩
      · rwa [nothing, List.append_nil] at whole
      · simp [blank]
      · exact List.all_eq_true.mpr fun d member => List.mem_takeWhile_imp member
    next => cases read
  next => cases read

theorem readDirective_trimEnd {text : List Char} (trimmed : Trimmed text) (silent : ¬ NamesRequest text) :
    readDirective (trimEnd (' ' :: text)) = none := by
  by_cases filled : text = []
  · subst filled
    rfl
  · rw [trimEnd_space trimmed filled]
    cases read : readDirective (' ' :: text) with
    | none => rfl
    | some name =>
      have same : readDirective (' ' :: text) = readDirective text := by
        simp only [readDirective, trimStart_space trimmed.1, trimStart_of_head trimmed.1]
      rw [same] at read
      exact absurd (namesRequest_of_readDirective trimmed read) silent

theorem trim_ofComment {text : String} :
    trim (ofComment text) = '#' :: trimEnd (' ' :: text.toList) := by
  have mark : Trimmed ['#'] := by decide
  exact mark.trim_append (by simp) (' ' :: text.toList)

theorem classify_ofComment {text : String} (trimmed : Trimmed text.toList)
    (silent : ¬ NamesRequest text.toList) : classify table (ofComment text) = .comment text := by
  have single : ¬ "##".toList <+: trimEnd (' ' :: text.toList) := by
    by_cases filled : text.toList = []
    · rw [filled]
      decide
    · rw [trimEnd_space trimmed filled]
      simp
  rw [classify_number trim_ofComment single, readDirective_trimEnd trimmed silent]
  simp [trim_trimEnd_space trimmed]

theorem trimmed_ofName {name : String} (identifier : IsIdentifier requestMarks name.toList) :
    Trimmed (ofName name) := by
  have inked := identifier.inked (by decide)
  have filled : name.toList ≠ [] := by
    intro empty
    rw [empty] at identifier
    exact identifier
  exact trimmed_append (by simp) filled (by simp [isBlank]) (trimmed_of_inked inked).2

theorem classify_ofName {name : String} (identifier : IsIdentifier requestMarks name.toList) :
    classify table (ofName name) = .nameDirective name := by
  have read : readDirective (" @name ".toList ++ name.toList) = some name.toList := by
    have inked := identifier.inked (by decide)
    have directive : trimStart (" @name ".toList ++ name.toList) =
        "@name".toList ++ ' ' :: name.toList := by simp [trimStart, isBlank]
    have whole := @readIdentifier_append _ _ identifier [] (by simp)
    rw [List.append_nil] at whole
    have blank : isBlank ' ' = true := rfl
    simp only [readDirective, directive, dropStart?_append, Option.bind_eq_bind, Option.bind_some, blank,
      if_true, trimStart_space (trimmed_of_inked inked).1, whole, allBlank, List.all_nil]
  have shown : trim (ofName name) = '#' :: (" @name ".toList ++ name.toList) :=
    (trimmed_ofName identifier).trim_eq
  rw [classify_number shown (by simp), read]
  simp

def Capitals (method : List Char) : Prop := method ≠ [] ∧ ∀ c ∈ method, 'A' ≤ c ∧ c ≤ 'Z'

instance : DecidablePred Capitals := fun method =>
  @instDecidableAnd _ _ inferInstance (List.decidableBAll _ method)

theorem Capitals.letter {method : List Char} (capitals : Capitals method) :
    ∀ c ∈ method, isAsciiLetter c = true := by
  intro c member
  simp [isAsciiLetter, capitals.2 c member]

/-- What a line without blanks around it is read as, and what that is taken from. -/
inductive ReadAs (line : List Char) : LineKind → Prop where
  | blank : ReadAs line .blank
  | separator (title : Option String) : ReadAs line (.separator title)
  | declaration (name value : String) : ReadAs line (.declaration name value)
  | malformedDeclaration : ReadAs line .malformedDeclaration
  | nameDirective {name : List Char} : readDirective (commentText line) = some name →
      ReadAs line (.nameDirective (String.ofList name))
  | comment : ReadAs line (.comment (String.ofList (trim (commentText line))))
  | address {url : List Char} {version : Option String} : readAddress line = some (url, version) →
      ReadAs line (.requestLine "GET" (String.ofList url) version)
  | requestLine {token url : List Char} {version : Option String} :
      readRequestLine line = some (token, url, version) →
      ReadAs line (.requestLine (upperToken (String.ofList token)) (String.ofList url) version)
  | malformedRequestLine (token : String) : ReadAs line (.malformedRequestLine token)
  | other : ReadAs line .other

theorem readAs_classifyRequest (table : MethodTable) (line : List Char) :
    ReadAs line (classifyRequest table line) := by
  unfold classifyRequest
  split
  next read => exact .address read
  next =>
    split
    next read => exact .requestLine read
    next =>
      dsimp only
      split
      · exact .malformedRequestLine _
      · exact .other

theorem readAs_classify (table : MethodTable) (line : List Char) :
    ReadAs (trim line) (classify table line) := by
  unfold classify
  dsimp only
  split
  next => exact .separator _
  next => exact .blank
  next =>
    split
    next => exact .declaration _ _
    next => exact .malformedDeclaration
  next =>
    split
    next =>
      split
      next read => exact .nameDirective read
      next => exact .comment
    next => exact readAs_classifyRequest table (trim line)

/-- A method in upper case, a target that is not empty, and perhaps a version. -/
structure Asks (method url : List Char) (version : Option String) : Prop where
  method : Capitals method
  filled : url ≠ []
  target : Target url
  version : ∀ v ∈ version, Version v.toList

theorem asks_of_readAddress {url : List Char} {version : Option String}
    (read : readAddress line = some (url, version)) : Asks "GET".toList url version := by
  simp only [readAddress, Option.bind_eq_bind, Option.bind_eq_some_iff] at read
  obtain ⟨start, scheme, rest, _, version, behind, eq⟩ := read
  cases eq
  have known : start ∈ ["http://", "https://"] := List.mem_of_find?_eq_some scheme
  have inked : start.toList ≠ [] ∧ Inked start.toList := by
    simp only [List.mem_cons, List.not_mem_nil, or_false] at known
    rcases known with rfl | rfl <;> decide
  refine ⟨by decide, by simp [inked.1], ?_, version_of_readVersion behind⟩
  exact (target_of_inked inked.2).append (target_of_readTarget rest)

theorem asks_of_readRequestLine {token url : List Char} {version : Option String}
    (read : readRequestLine line = some (token, url, version)) : Asks (upper token) url version := by
  unfold readRequestLine at read
  dsimp only at read
  split at read
  next => cases read
  next filled =>
    obtain ⟨version, behind, eq⟩ := Option.bind_eq_some_iff.mp read
    cases eq
    simp only [Bool.or_eq_true, not_or, List.isEmpty_iff] at filled
    have letters : ∀ c ∈ line.takeWhile isAsciiLetter, isAsciiLetter c = true :=
      fun c member => List.mem_takeWhile_imp member
    exact ⟨⟨upper_ne_nil filled.1.1 letters, capital_of_mem_upper letters⟩, filled.2,
      target_of_readTarget _, version_of_readVersion behind⟩

/-- What is read as a request line asks for something. -/
theorem asks_of_requestLine {method url : String} {version : Option String}
    (shown : classify table line = .requestLine method url version) :
    Asks method.toList url.toList version := by
  have kind := readAs_classify table line
  rw [shown] at kind
  cases kind with
  | @address own _ read =>
    rw [@String.toList_ofList own]
    exact asks_of_readAddress read
  | requestLine read =>
    rw [upperToken, String.toList_ofList, String.toList_ofList, String.toList_ofList]
    exact asks_of_readRequestLine read

/-- The name that a line gives was read as one. -/
theorem readIdentifier_of_nameDirective {name : String} (shown : classify table line = .nameDirective name) :
    ∃ text behind, readIdentifier requestMarks text = some (name.toList, behind) := by
  have kind := readAs_classify table line
  rw [shown] at kind
  cases kind with
  | nameDirective read =>
    rw [String.toList_ofList]
    simp only [readDirective, Option.bind_eq_bind, Option.bind_eq_some_iff] at read
    obtain ⟨rest, _, read⟩ := read
    split at read
    · split at read
      · obtain ⟨⟨own, behind⟩, named, last⟩ := Option.bind_eq_some_iff.mp read
        dsimp only at last
        split at last
        · cases last
          exact ⟨_, behind, named⟩
        · cases last
      · cases read
    · cases read

theorem trimmed_of_comment {text : String} (shown : classify table line = .comment text) :
    Trimmed text.toList := by
  have kind := readAs_classify table line
  rw [shown] at kind
  cases kind with
  | comment =>
    rw [String.toList_ofList]
    exact trimmed_trim _

theorem trimmed_of_separatorTitle? {title : String} (shown : separatorTitle? line = some (some title)) :
    title.toList ≠ [] ∧ Trimmed title.toList := by
  obtain ⟨rest, _, eq⟩ := Option.map_eq_some_iff.mp shown
  dsimp only at eq
  split at eq
  next => cases eq
  next filled =>
    cases eq
    rw [String.toList_ofList]
    exact ⟨by simpa using filled, trimmed_trim _⟩

/-- A version behind a target ends the target, and is read. -/
theorem endsTarget_version {version : Option String} (written : ∀ v ∈ version, Version v.toList) :
    EndsTarget (versionPart version) ∧ readVersion (versionPart version) = some version := by
  cases version with
  | none => exact ⟨by simp [EndsTarget, versionPart], rfl⟩
  | some v =>
    have inked := (written v rfl).inked
    refine ⟨⟨by simp [versionPart, isBlank], ?_⟩, ?_⟩
    · simp only [versionPart, List.mem_cons, not_or]
      exact ⟨by decide, inked.2⟩
    · have trimmed : trimStart (' ' :: v.toList) = v.toList :=
        trimStart_space (trimmed_of_inked inked.1).1
      simp [readVersion, versionPart, trimmed, (written v rfl).isVersion, isBlank]

theorem readAddress_eq_none {c : Char} (upper : c ≠ 'h') : readAddress (c :: rest) = none := by
  simp [readAddress, dropStart?, Ne.symm upper]

theorem readRequestLine_ofRequest {method url : String} {version : Option String}
    (capitals : Capitals method.toList) (target : Target url.toList) (filled : url.toList ≠ [])
    (written : ∀ v ∈ version, Version v.toList) :
    readRequestLine (ofRequest method url version) = some (method.toList, url.toList, version) := by
  obtain ⟨ends, read⟩ := endsTarget_version written
  have token : (ofRequest method url version).takeWhile isAsciiLetter = method.toList := by
    rw [ofRequest, List.takeWhile_append_of_pos capitals.letter]
    simp [isAsciiLetter]
  have behind : (ofRequest method url version).dropWhile isAsciiLetter =
      ' ' :: (url.toList ++ versionPart version) := by
    rw [ofRequest, List.dropWhile_append_of_pos capitals.letter]
    simp [isAsciiLetter]
  have start : trimStart (' ' :: (url.toList ++ versionPart version)) = url.toList ++ versionPart version := by
    refine trimStart_space ?_
    rw [List.head?_append_of_ne_nil _ filled]
    exact target.head?_inked
  rw [readRequestLine, token, behind, start, target.readTarget_append ends]
  simp [read, isBlank, capitals.1, filled]

theorem getLast?_version {url : List Char} {version : Option String} (target : Target url)
    (written : ∀ v ∈ version, Version v.toList) :
    ∀ c ∈ (url ++ versionPart version).getLast?, isBlank c = false := by
  cases version with
  | none =>
    rw [versionPart, List.append_nil]
    exact target.getLast?_inked
  | some v =>
    have filled : v.toList ≠ [] := by
      rintro empty
      obtain ⟨major, _, _, eq | ⟨minor, _, _, eq⟩⟩ := written v rfl <;> simp [empty] at eq
    rw [versionPart, List.append_cons, List.getLast?_append_of_ne_nil _ filled]
    exact (trimmed_of_inked (written v rfl).inked.1).2

theorem trimmed_ofRequest {method url : String} {version : Option String}
    (capitals : Capitals method.toList) (target : Target url.toList) (filled : url.toList ≠ [])
    (written : ∀ v ∈ version, Version v.toList) : Trimmed (ofRequest method url version) := by
  have start : ∀ c ∈ (method.toList ++ [' ']).head?, isBlank c = false := by
    rw [List.head?_append_of_ne_nil _ capitals.1]
    exact fun c head => isBlank_of_letter (capitals.letter c (List.mem_of_mem_head? head))
  rw [ofRequest, List.append_cons]
  exact trimmed_append (by simp) (by simp [filled]) start (getLast?_version target written)

theorem classify_ofRequest {method url : String} {version : Option String}
    (capitals : Capitals method.toList) (target : Target url.toList) (filled : url.toList ≠ [])
    (written : ∀ v ∈ version, Version v.toList) :
    classify table (ofRequest method url version) = .requestLine method url version := by
  have shown := (trimmed_ofRequest capitals target filled written).trim_eq
  have read := readRequestLine_ofRequest capitals target filled written
  have same : upperToken method = method := by
    rw [upperToken, upper_of_capitals capitals.2, String.ofList_toList]
  cases spelled : method.toList with
  | nil => exact absurd spelled capitals.1
  | cons c rest =>
    have first : 'A' ≤ c ∧ c ≤ 'Z' := capitals.2 c (by simp [spelled])
    have line : ofRequest method url version =
        c :: (rest ++ ' ' :: (url.toList ++ versionPart version)) := by
      rw [ofRequest, spelled, List.cons_append]
    have other : c ≠ 'h' := by
      rintro rfl
      exact absurd first.2 (by decide)
    rw [line] at shown read
    rw [line, classify_letter shown (capitals.letter c (by simp [spelled])), classifyRequest,
      readAddress_eq_none other, read]
    simp [same]

/-- A header that reads as one: its name is not empty and holds no colon, and it starts no comment. -/
structure Writable (header : String × String) : Prop where
  filled : header.1.toList ≠ []
  unmarked : ':' ∉ header.1.toList
  plain : isComment header.1.toList = false
  name : Neat header.1.toList
  value : Neat header.2.toList

instance : DecidablePred Writable := fun header =>
  decidable_of_iff (header.1.toList ≠ [] ∧ ':' ∉ header.1.toList ∧ isComment header.1.toList = false ∧
      Neat header.1.toList ∧ Neat header.2.toList)
    ⟨fun ⟨filled, unmarked, plain, name, value⟩ => ⟨filled, unmarked, plain, name, value⟩,
      fun ⟨filled, unmarked, plain, name, value⟩ => ⟨filled, unmarked, plain, name, value⟩⟩

theorem isComment_colon {name behind : List Char} (plain : isComment name = false)
    (filled : name ≠ []) : isComment (name ++ ':' :: behind) = false := by
  match name with
  | [] => contradiction
  | [c] => simpa [isComment, dropStart?] using plain
  | c :: d :: rest => simpa [isComment, dropStart?] using plain

theorem trim_ofHeader {header : String × String} (writable : Writable header) :
    trim (ofHeader header) = header.1.toList ++ ':' :: trimEnd (' ' :: header.2.toList) := by
  have front : Trimmed (header.1.toList ++ [':']) :=
    trimmed_append writable.filled (by simp) writable.name.1.1 (by simp [isBlank])
  have shape : ofHeader header = (header.1.toList ++ [':']) ++ ' ' :: header.2.toList := by
    simp [ofHeader]
  rw [shape, front.trim_append (by simp)]
  simp

theorem head?_ofHeader {header : String × String} (writable : Writable header) :
    (ofHeader header).head? = header.1.toList.head? := by
  rw [ofHeader, List.append_assoc, List.head?_append_of_ne_nil _ writable.filled]

theorem classifyHeader_ofHeader {header : String × String} (writable : Writable header) :
    classifyHeader (ofHeader header) = .field header.1 header.2 := by
  have indented : (ofHeader header).head?.any isBlank = false := by
    rw [head?_ofHeader writable]
    cases start : header.1.toList.head? with
    | none => rfl
    | some c => exact writable.name.1.1 c start
  rw [classifyHeader, indented, trim_ofHeader writable]
  simp only [Bool.false_eq_true, if_false, isComment_colon writable.plain writable.filled,
    cutAt?_append writable.unmarked, writable.name.1.trim_eq, trim_trimEnd_space writable.value.1]
  simp [writable.filled]

theorem named_of_field {name value : String} (shown : classifyHeader line = .field name value) :
    name.toList ≠ [] ∧ Trimmed name.toList ∧ ':' ∉ name.toList := by
  unfold classifyHeader at shown
  split at shown
  next => cases shown
  next =>
    dsimp only at shown
    split at shown
    next => cases shown
    next =>
      split at shown
      next => cases shown
      next before after cut =>
        split at shown
        next => cases shown
        next filled =>
          cases shown
          rw [String.toList_ofList]
          refine ⟨by simpa using filled, trimmed_trim _, fun member => ?_⟩
          exact unmarked_of_cutAt? cut (mem_of_mem_trim member)

theorem separatorTitle?_ofHeader {header : String × String} (writable : Writable header) :
    separatorTitle? (ofHeader header) = none := by
  refine separatorTitle?_eq_none ?_
  rw [trim_ofHeader writable]
  have plain := writable.plain
  cases name : header.1.toList with
  | nil => exact absurd name writable.filled
  | cons c rest =>
    have apart : c ≠ '#' := by
      rintro rfl
      simp [name, isComment, dropStart?] at plain
    simp [Ne.symm apart]

theorem allBlank_ofHeader {header : String × String} (writable : Writable header) :
    allBlank (ofHeader header) = false := by
  have head := head?_ofHeader writable
  cases name : header.1.toList with
  | nil => exact absurd name writable.filled
  | cons c rest =>
    have visible := writable.name.1.1 c (by rw [name]; rfl)
    rw [name, List.head?_cons] at head
    obtain ⟨behind, eq⟩ := List.head?_eq_some_iff.mp head
    simp [eq, allBlank, visible]

theorem separatorTitle?_ofSeparator {title : Option String}
    (written : ∀ text ∈ title, text.toList ≠ [] ∧ Trimmed text.toList) :
    separatorTitle? (ofSeparator title) = some title := by
  cases title with
  | none => rfl
  | some text =>
    obtain ⟨filled, trimmed⟩ := written text rfl
    have marks : Trimmed "###".toList := by decide
    have shown : trim (ofSeparator (some text)) = "###".toList ++ ' ' :: text.toList := by
      rw [← trimEnd_space trimmed filled]
      exact marks.trim_append (by decide) (' ' :: text.toList)
    have title : trim (' ' :: text.toList) = text.toList := by
      rw [← trimEnd_space trimmed filled, trim_trimEnd_space trimmed]
    rw [separatorTitle?, shown, dropStart?_append]
    simp [title, filled]

theorem trim_ofFile {path : String} (trimmed : Trimmed path.toList) (filled : path.toList ≠ []) :
    trim (ofFile path) = ofFile path :=
  (trimmed_append (by simp) filled (by simp [isBlank]) trimmed.2).trim_eq

theorem fileReference?_ofFile {path : String} (trimmed : Trimmed path.toList) (filled : path.toList ≠ []) :
    Reading.fileReference? (ofFile path) = some path := by
  have start : trimStart (ofFile path) = '<' :: ' ' :: path.toList := rfl
  have inside : trim (' ' :: path.toList) = path.toList := by
    rw [← trimEnd_space trimmed filled, trim_trimEnd_space trimmed]
  rw [Reading.fileReference?, start]
  simp [inside, filled, isBlank]

theorem neat_of_fileReference? {path : String} (unbroken : Unbroken line)
    (found : Reading.fileReference? line = some path) : path.toList ≠ [] ∧ Neat path.toList := by
  unfold Reading.fileReference? at found
  split at found
  next rest start =>
    dsimp only at found
    split at found
    next shown =>
      cases found
      rw [String.toList_ofList]
      refine ⟨by simpa using (Bool.and_eq_true_iff.mp shown).2, trimmed_trim _, fun c member => unbroken c ?_⟩
      have inside : c ∈ trimStart line := by
        rw [start]
        exact List.mem_cons_of_mem _ (mem_of_mem_trim member)
      exact (List.dropWhile_sublist _).subset inside
    next => cases found
  next => cases found

theorem separatorTitle?_ofFile {path : String} (trimmed : Trimmed path.toList) (filled : path.toList ≠ []) :
    separatorTitle? (ofFile path) = none := by
  refine separatorTitle?_eq_none ?_
  rw [trim_ofFile trimmed filled]
  simp [ofFile]

end Lines

section Unbroken

theorem unbroken_ofDeclaration {binding : String × String} (declarable : Declarable binding) :
    Unbroken (ofDeclaration binding) := by
  have name := unbroken_of_inked (declarable.name.inked (by decide))
  have mark : Unbroken ['@'] := by decide
  have sign : Unbroken " = ".toList := by decide
  exact mark.append ((name.append sign).append declarable.value.2)

theorem unbroken_ofSeparator {title : Option String} (unbroken : ∀ text ∈ title, Unbroken text.toList) :
    Unbroken (ofSeparator title) := by
  cases title with
  | none => exact (by decide : Unbroken "###".toList)
  | some text =>
    have marks : Unbroken "### ".toList := by decide
    exact marks.append (unbroken text rfl)

theorem unbroken_ofComment {text : String} (unbroken : Unbroken text.toList) : Unbroken (ofComment text) := by
  have mark : Unbroken "# ".toList := by decide
  exact mark.append unbroken

theorem unbroken_ofName {name : String} (identifier : IsIdentifier requestMarks name.toList) :
    Unbroken (ofName name) := by
  have directive : Unbroken "# @name ".toList := by decide
  exact directive.append (unbroken_of_inked (identifier.inked (by decide)))

theorem unbroken_ofRequest {method url : String} {version : Option String}
    (capitals : Capitals method.toList) (unbroken : Unbroken url.toList)
    (written : ∀ v ∈ version, Version v.toList) : Unbroken (ofRequest method url version) := by
  have token := unbroken_of_inked fun c member => isBlank_of_letter (capitals.letter c member)
  have space : Unbroken [' '] := by decide
  have behind : Unbroken (versionPart version) := by
    cases version with
    | none => exact (by decide : Unbroken [])
    | some v => exact space.append (unbroken_of_inked (written v rfl).inked.1)
  exact token.append (space.append (unbroken.append behind))

theorem unbroken_ofHeader {header : String × String} (writable : Writable header) :
    Unbroken (ofHeader header) := by
  have colon : Unbroken ": ".toList := by decide
  exact (writable.name.2.append colon).append writable.value.2

theorem unbroken_ofFile {path : String} (unbroken : Unbroken path.toList) : Unbroken (ofFile path) := by
  have mark : Unbroken "< ".toList := by decide
  exact mark.append unbroken

end Unbroken

end Line

end RequestBook
