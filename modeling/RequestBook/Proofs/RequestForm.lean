import RequestBook.Proofs.Lines

/-! The forms of a request line. A request line is a token, blanks and a target, or a target that
starts like a web address; a version may follow behind blanks. The two forms are stated without the
reader, and a line is read as a request line exactly when it has one of them. A target may hold
blanks inside of placeholders, also in front of what looks like a version, but still no text can be
taken apart in two ways. -/
namespace RequestBook.Line

open Text

/-- The parts of a request line. A web address alone has no token. -/
structure Parts where
  token : Option (List Char)
  url : List Char
  version : Option (List Char)

/-- What may stand behind a target, and the version in it. -/
inductive Closing : List Char → Option (List Char) → Prop where
  | none : Closing [] none
  | version {blanks version : List Char} : blanks ≠ [] → allBlank blanks = true → Version version →
      Closing (blanks ++ version) (some version)

def IsAddress (url : List Char) : Prop := ∃ scheme ∈ ["http://", "https://"], scheme.toList <+: url

inductive Spells : Parts → List Char → Prop where
  | request {token blanks url behind : List Char} {version : Option (List Char)} : token ≠ [] →
      (∀ c ∈ token, isAsciiLetter c = true) → blanks ≠ [] → allBlank blanks = true → url ≠ [] →
      Target url → Closing behind version →
      Spells ⟨some token, url, version⟩ (token ++ (blanks ++ (url ++ behind)))
  | address {url behind : List Char} {version : Option (List Char)} : IsAddress url → Target url →
      Closing behind version → Spells ⟨none, url, version⟩ (url ++ behind)

/-- The method asked for: the token in upper case, and for a web address alone the one that fetches. -/
def Parts.method (parts : Parts) : String :=
  match parts.token with
  | some token => upperToken (String.ofList token)
  | none => Method.get.name

section Closing

variable {behind : List Char} {version : Option (List Char)}

theorem Closing.endsTarget (closing : Closing behind version) : EndsTarget behind := by
  cases closing with
  | none => simp [EndsTarget]
  | @version blanks version filled blank written =>
    constructor
    · exact isBlank_of_head? filled blank version
    · intro member
      rcases List.mem_append.mp member with inside | inside
      · have closes := List.all_eq_true.mp blank _ inside
        cases closes
      · exact written.inked.2 inside

theorem Closing.readVersion (closing : Closing behind version) :
    Line.readVersion behind = some (version.map String.ofList) := by
  cases closing with
  | none => rfl
  | @version blanks version filled blank written =>
    have found : trimStart (blanks ++ version) = version := by
      rw [trimStart_append blank]
      exact trimStart_of_head (trimmed_of_inked written.inked.1).1
    cases blanks with
    | nil => contradiction
    | cons c rest =>
      have first : isBlank c = true := List.all_eq_true.mp blank c List.mem_cons_self
      rw [List.cons_append] at found ⊢
      simp [Line.readVersion, found, first, written.isVersion]

theorem closing_of_readVersion {read : Option String} (found : readVersion behind = some read) :
    ∃ version, Closing behind version ∧ read = version.map String.ofList := by
  unfold readVersion at found
  split at found
  next =>
    cases found
    exact ⟨none, .none, rfl⟩
  next c rest =>
    dsimp only at found
    split at found
    next shown =>
      obtain ⟨first, written⟩ := Bool.and_eq_true_iff.mp shown
      cases found
      refine ⟨some (trimStart (c :: rest)), ?_, rfl⟩
      have blanks : (c :: rest).takeWhile isBlank ≠ [] := by simp [first]
      have closing := Closing.version blanks
        (List.all_eq_true.mpr fun d member => List.mem_takeWhile_imp member) (version_of_isVersion written)
      rwa [trimStart, List.takeWhile_append_dropWhile] at closing
    next => cases found

end Closing

theorem append_of_targetHead? {text head after : List Char} (found : targetHead? text = some (head, after)) :
    text = head ++ after := by
  unfold targetHead? at found
  split at found
  · cases found
  · split at found
    next inside =>
      cases found
      simp [(placeholderInner?_eq_some.mp inside).1]
    next =>
      cases found
      rfl
  · split at found
    · cases found
    · cases found
      rfl

/-- Nothing is lost in reading a target. -/
theorem readTarget_append (text : List Char) : (readTarget text).1 ++ (readTarget text).2 = text := by
  fun_induction readTarget text with
  | case1 => rfl
  | case2 text head after found _ target behind more ih =>
    rw [more] at ih
    rw [append_of_targetHead? found, List.append_assoc, ih]

/-- Behind plain characters a target goes on as one. -/
theorem Target.of_append {start rest : List Char} (plain : '{' ∉ start) (target : Target (start ++ rest)) :
    Target rest := by
  induction start with
  | nil => exact target
  | cons c start ih =>
    obtain ⟨first, others⟩ := not_or.mp (mt List.mem_cons.mpr plain)
    rw [List.cons_append] at target
    generalize more : start ++ rest = text at target
    cases target with
    | char _ behind => exact ih others (more ▸ behind)
    | placeholder => simp at first

section Readers

variable {line url : List Char}

theorem readAddress_scheme {scheme : String} {rest : List Char} (known : scheme ∈ ["http://", "https://"]) :
    readAddress (scheme.toList ++ rest) =
      (readVersion (readTarget rest).2).map fun version => (scheme.toList ++ (readTarget rest).1, version) := by
  have found : ["http://", "https://"].find? (fun s => (dropStart? s.toList (scheme.toList ++ rest)).isSome) =
      some scheme := by
    simp only [List.mem_cons, List.not_mem_nil, or_false] at known
    rcases known with rfl | rfl <;> simp [List.find?, dropStart?]
  rw [readAddress, found]
  simp only [Option.bind_eq_bind, Option.bind_some, dropStart?_append]
  cases readVersion (readTarget rest).2 <;> rfl

/-- A web address is read with its version. -/
theorem readAddress_append {behind : List Char} {version : Option (List Char)} (web : IsAddress url)
    (target : Target url) (closing : Closing behind version) :
    readAddress (url ++ behind) = some (url, version.map String.ofList) := by
  obtain ⟨scheme, known, rest, rfl⟩ := web
  have plain : '{' ∉ scheme.toList := by
    simp only [List.mem_cons, List.not_mem_nil, or_false] at known
    rcases known with rfl | rfl <;> decide
  rw [List.append_assoc, readAddress_scheme known,
    (target.of_append plain).readTarget_append closing.endsTarget, closing.readVersion]
  rfl

theorem spells_of_readAddress {version : Option String} (read : readAddress line = some (url, version)) :
    ∃ closing, Spells ⟨none, url, closing⟩ line ∧ version = closing.map String.ofList := by
  have asks := asks_of_readAddress read
  simp only [readAddress, Option.bind_eq_bind, Option.bind_eq_some_iff] at read
  obtain ⟨scheme, known, rest, start, found, behind, eq⟩ := read
  cases eq
  obtain ⟨closing, ends, same⟩ := closing_of_readVersion behind
  refine ⟨closing, ?_, same⟩
  have whole : line = scheme.toList ++ (readTarget rest).1 ++ (readTarget rest).2 := by
    rw [dropStart?_eq_some.mp start, List.append_assoc, readTarget_append]
  rw [whole]
  exact .address ⟨scheme, List.mem_of_find?_eq_some known, List.prefix_append _ _⟩ asks.target ends

theorem spells_of_readRequestLine {token : List Char} {version : Option String}
    (read : readRequestLine line = some (token, url, version)) :
    ∃ closing, Spells ⟨some token, url, closing⟩ line ∧ version = closing.map String.ofList := by
  unfold readRequestLine at read
  dsimp only at read
  split at read
  next => cases read
  next filled =>
    obtain ⟨version, behind, eq⟩ := Option.bind_eq_some_iff.mp read
    cases eq
    obtain ⟨closing, ends, same⟩ := closing_of_readVersion behind
    refine ⟨closing, ?_, same⟩
    simp only [Bool.or_eq_true, not_or, List.isEmpty_iff, Bool.not_eq_true', Bool.not_eq_false] at filled
    obtain ⟨⟨named, apart⟩, filled⟩ := filled
    have blank : allBlank ((line.dropWhile isAsciiLetter).takeWhile isBlank) = true :=
      List.all_eq_true.mpr fun c member => List.mem_takeWhile_imp member
    have spells := Spells.request named (fun c member => List.mem_takeWhile_imp member) ?_ blank filled
      (target_of_readTarget _) ends
    · rwa [readTarget_append, trimStart, List.takeWhile_append_dropWhile,
        List.takeWhile_append_dropWhile] at spells
    · cases rest : line.dropWhile isAsciiLetter with
      | nil => simp [rest] at apart
      | cons c more =>
        rw [rest] at apart
        have first : isBlank c = true := apart
        simp [first]

/-- Behind a token the letters end. -/
theorem span_token {token blanks : List Char} (rest : List Char)
    (letters : ∀ c ∈ token, isAsciiLetter c = true) (filled : blanks ≠ []) (blank : allBlank blanks = true) :
    (token ++ (blanks ++ rest)).takeWhile isAsciiLetter = token ∧
      (token ++ (blanks ++ rest)).dropWhile isAsciiLetter = blanks ++ rest := by
  rw [List.takeWhile_append_of_pos letters, List.dropWhile_append_of_pos letters]
  cases blanks with
  | nil => contradiction
  | cons c more =>
    have first : isAsciiLetter c = false := by
      have space : isBlank c = true := List.all_eq_true.mp blank c List.mem_cons_self
      rw [Bool.eq_false_iff]
      intro letter
      rw [isBlank_of_letter letter] at space
      cases space
    simp [first]

theorem readRequestLine_append {token blanks behind : List Char} {version : Option (List Char)}
    (named : token ≠ []) (letters : ∀ c ∈ token, isAsciiLetter c = true) (apart : blanks ≠ [])
    (blank : allBlank blanks = true) (filled : url ≠ []) (target : Target url)
    (closing : Closing behind version) :
    readRequestLine (token ++ (blanks ++ (url ++ behind))) =
      some (token, url, version.map String.ofList) := by
  obtain ⟨taken, rest⟩ := span_token (url ++ behind) letters apart blank
  have start : trimStart (blanks ++ (url ++ behind)) = url ++ behind := by
    rw [trimStart_append blank]
    refine trimStart_of_head ?_
    rw [List.head?_append_of_ne_nil _ filled]
    exact target.head?_inked
  have space : (blanks ++ (url ++ behind)).head?.any isBlank = true := by
    cases blanks with
    | nil => contradiction
    | cons c more => exact List.all_eq_true.mp blank c List.mem_cons_self
  rw [readRequestLine, taken, rest, start, target.readTarget_append closing.endsTarget, space]
  simp [closing.readVersion, named, filled]

/-- Behind the letters of a web address stands a colon, and behind a token a blank. -/
theorem readAddress_token {token blanks rest : List Char} (letters : ∀ c ∈ token, isAsciiLetter c = true)
    (apart : blanks ≠ []) (blank : allBlank blanks = true) :
    readAddress (token ++ (blanks ++ rest)) = none := by
  cases read : readAddress (token ++ (blanks ++ rest)) with
  | none => rfl
  | some found =>
    obtain ⟨scheme, known, more, start, _⟩ := by
      simpa only [readAddress, Option.bind_eq_bind, Option.bind_eq_some_iff] using read
    have behind := (span_token rest letters apart blank).2
    rw [dropStart?_eq_some.mp start] at behind
    have colon : ((scheme.toList ++ more).dropWhile isAsciiLetter).head? = some ':' := by
      have listed := List.mem_of_find?_eq_some known
      simp only [List.mem_cons, List.not_mem_nil, or_false] at listed
      rcases listed with rfl | rfl <;> simp [isAsciiLetter]
    rw [behind, List.head?_append_of_ne_nil _ apart] at colon
    have space := List.all_eq_true.mp blank ':' (List.mem_of_mem_head? colon)
    cases space

theorem readAddress_of_spells {version : Option (List Char)} (spells : Spells ⟨none, url, version⟩ line) :
    readAddress line = some (url, version.map String.ofList) := by
  cases spells with
  | address web target closing => exact readAddress_append web target closing

theorem readAddress_of_spells_token {token : List Char} {version : Option (List Char)}
    (spells : Spells ⟨some token, url, version⟩ line) : readAddress line = none := by
  cases spells with
  | request _ letters apart blank _ _ _ => exact readAddress_token letters apart blank

theorem readRequestLine_of_spells {token : List Char} {version : Option (List Char)}
    (spells : Spells ⟨some token, url, version⟩ line) :
    readRequestLine line = some (token, url, version.map String.ofList) := by
  cases spells with
  | request named letters apart blank filled target closing =>
    exact readRequestLine_append named letters apart blank filled target closing

end Readers

/-- A text can be taken apart in one way only, since the readers find every way there is. -/
theorem Spells.unique {first second : Parts} {text : List Char} (left : Spells first text)
    (right : Spells second text) : first = second := by
  have shown : ∀ {a b : Option (List Char)}, a.map String.ofList = b.map String.ofList → a = b :=
    fun same => Option.map_injective (fun _ _ => String.ofList_injective) same
  obtain ⟨_ | token, url, version⟩ := first <;> obtain ⟨_ | token', url', version'⟩ := second
  case none.none =>
    have same := (readAddress_of_spells left).symm.trans (readAddress_of_spells right)
    simp only [Option.some.injEq, Prod.mk.injEq] at same
    rw [same.1, shown same.2]
  case none.some =>
    cases (readAddress_of_spells left).symm.trans (readAddress_of_spells_token right)
  case some.none =>
    cases (readAddress_of_spells_token left).symm.trans (readAddress_of_spells right)
  case some.some =>
    have same := (readRequestLine_of_spells left).symm.trans (readRequestLine_of_spells right)
    simp only [Option.some.injEq, Prod.mk.injEq] at same
    rw [same.1, same.2.1, shown same.2.2]

/-- Both forms begin with a letter. -/
theorem Spells.letter {parts : Parts} {text : List Char} (spells : Spells parts text) :
    ∃ c rest, text = c :: rest ∧ isAsciiLetter c = true := by
  cases spells with
  | @request token _ _ _ _ named letters _ _ _ _ _ =>
    cases token with
    | nil => contradiction
    | cons c more => exact ⟨c, _, rfl, letters c List.mem_cons_self⟩
  | address web _ _ =>
    obtain ⟨scheme, known, rest, rfl⟩ := web
    simp only [List.mem_cons, List.not_mem_nil, or_false] at known
    rcases known with rfl | rfl <;> exact ⟨'h', _, rfl, rfl⟩

section Classify

variable {table : MethodTable} {line : List Char}

theorem classify_of_spells {parts : Parts} (spells : Spells parts (trim line)) :
    classify table line =
      .requestLine parts.method (String.ofList parts.url) (parts.version.map String.ofList) := by
  obtain ⟨c, rest, shown, letter⟩ := spells.letter
  rw [classify_letter shown letter, ← shown, classifyRequest]
  obtain ⟨_ | token, url, version⟩ := parts
  case none =>
    rw [readAddress_of_spells spells]
    rfl
  case some =>
    rw [readAddress_of_spells_token spells, readRequestLine_of_spells spells]
    rfl

theorem spells_of_classify {method url : String} {version : Option String}
    (shown : classify table line = .requestLine method url version) :
    ∃ parts, Spells parts (trim line) ∧ method = parts.method ∧ url = String.ofList parts.url ∧
      version = parts.version.map String.ofList := by
  have kind := readAs_classify table line
  rw [shown] at kind
  cases kind with
  | address read =>
    obtain ⟨closing, spells, same⟩ := spells_of_readAddress read
    exact ⟨_, spells, rfl, rfl, same⟩
  | requestLine read =>
    obtain ⟨closing, spells, same⟩ := spells_of_readRequestLine read
    exact ⟨_, spells, rfl, rfl, same⟩

end Classify

/-- A line is read as a request line exactly when it has one of the two forms, and what is read are
the parts that it has in this form. No text has two such forms with different parts. Blank lines,
separators, declarations and comments have none of them, so they need not be set apart. -/
theorem classify_eq_requestLine_iff (table : MethodTable) (line : List Char) :
    (∀ method url version, classify table line = .requestLine method url version ↔
      ∃ parts, Spells parts (trim line) ∧ method = parts.method ∧ url = String.ofList parts.url ∧
        version = parts.version.map String.ofList) ∧
    ∀ text first second, Spells first text → Spells second text → first = second := by
  refine ⟨fun method url version => ⟨spells_of_classify, ?_⟩, fun text first second => Spells.unique⟩
  rintro ⟨parts, spells, rfl, rfl, rfl⟩
  exact classify_of_spells spells

/-- The blank before what looks like a version belongs to a placeholder. -/
example : classify .standard " get \x7b\x7ba HTTP/1.1\x7d\x7d\x7b\x7b HTTP/2".toList =
    .requestLine "GET" "\x7b\x7ba HTTP/1.1\x7d\x7d\x7b\x7b" (some "HTTP/2") := by decide +kernel

end RequestBook.Line
