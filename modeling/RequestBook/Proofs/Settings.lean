import RequestBook.Proofs.Acceptance
import RequestBook.Proofs.Decoding
import RequestBook.Proofs.RequestForm
import RequestBook.Settings

/-! Settings that were loaded. A section says what the settings are, each value by itself and with a default
when it is missing; it counts as a whole or not at all. Settings in bounds are loaded as they are, and others
are refused for the first value that is out of bounds. What was loaded comes back when it is stored, and its
methods open requests without a warning. -/
namespace RequestBook

open Text

def SettingsError.field : SettingsError → String
  | .zeroDepth => "maxNestingDepth"
  | .zeroTimeout => "timeout"
  | .notAMethod _ => "additionalMethods"

theorem SettingsError.message_eq (e : SettingsError) :
    ∃ reason, e.message = "invalid value for " ++ e.field ++ ": " ++ reason := by
  cases e with
  | zeroDepth => exact ⟨"must be greater than 0", by decide⟩
  | zeroTimeout => exact ⟨"must be greater than 0", by decide⟩
  | notAMethod token =>
    have front : "invalid value for additionalMethods: '" =
        "invalid value for " ++ "additionalMethods" ++ ": " ++ "'" := by decide
    refine ⟨"'" ++ (token ++ "' is not a method token"), ?_⟩
    calc "invalid value for additionalMethods: '" ++ token ++ "' is not a method token"
      _ = "invalid value for additionalMethods: '" ++ (token ++ "' is not a method token") :=
        String.append_assoc
      _ = "invalid value for " ++ "additionalMethods" ++ ": " ++ "'" ++
          (token ++ "' is not a method token") := congrArg (· ++ _) front
      _ = _ := String.append_assoc

namespace Settings

def IsMethod (m : String) : Prop := trim m.toList ≠ [] ∧ ∀ c ∈ trim m.toList, isAsciiLetter c = true

structure InBounds (s : Settings) : Prop where
  depth : 0 < s.depth
  timeout : 0 < s.timeout
  methods : ∀ m ∈ s.methods, IsMethod m

/-- The first value that is out of bounds: the depth, then the timeout, then the methods in their order. -/
inductive Violates (s : Settings) : SettingsError → Prop where
  | depth : s.depth = 0 → Violates s .zeroDepth
  | timeout : 0 < s.depth → s.timeout = 0 → Violates s .zeroTimeout
  | method {before behind : List String} {token : String} : 0 < s.depth → 0 < s.timeout →
      s.methods = before ++ token :: behind → (∀ m ∈ before, IsMethod m) → ¬ IsMethod token →
      Violates s (.notAMethod token)

inductive Given {α : Type} (default : α) (decode : Json → Option α) : Option Json → α → Prop where
  | missing : Given default decode none default
  | decoded {value : Json} {a : α} : decode value = some a → Given default decode (some value) a

structure HasValues (methods directory depth timeout validate : Option Json) (s : Settings) : Prop where
  methods : Given [] (Json.list? Json.string?) methods s.methods
  directory : Given none (Json.option? Json.string?) directory s.bodyDirectory
  depth : Given 10 Json.nat? depth s.depth
  timeout : Given 30000 Json.nat? timeout s.timeout
  validate : Given true Json.bool? validate s.validateCertificates

/-- The settings that a section states: its values stand under their names, or in an array by place. -/
inductive States : Json → Settings → Prop where
  | object {fields : List (String × Json)} {s : Settings} :
      HasValues ((Json.object fields).field? "additionalMethods") ((Json.object fields).field? "bodyBaseDir")
        ((Json.object fields).field? "maxNestingDepth") ((Json.object fields).field? "timeout")
        ((Json.object fields).field? "validateSSL") s → States (.object fields) s
  | array {items : List Json} {s : Settings} : items.length ≤ 5 →
      HasValues items[0]? items[1]? items[2]? items[3]? items[4]? s → States (.array items) s

structure Small (s : Settings) : Prop where
  depth : s.depth < unsignedLimit
  timeout : s.timeout < unsignedLimit

def StatedIn (document : Option Json) (s : Settings) : Prop :=
  ∃ value, document.bind (Json.field? sectionName) = some value ∧ States value s

section Check

variable {s c : Settings} {e : SettingsError}

theorem isMethodToken_iff {m : String} : isMethodToken m = true ↔ IsMethod m := by
  simp [isMethodToken, IsMethod]

theorem check_of_inBounds (within : s.InBounds) : check s = .ok s := by
  have methods : s.methods.find? (fun m => !isMethodToken m) = none := by
    rw [List.find?_eq_none]
    intro m member
    simp [isMethodToken_iff.mpr (within.methods m member)]
  rw [check, if_neg within.depth.ne', if_neg within.timeout.ne', methods]

theorem check_of_violates (violates : s.Violates e) : check s = .error e := by
  cases violates with
  | depth zero => rw [check, if_pos zero]
  | timeout depth zero => rw [check, if_neg depth.ne', if_pos zero]
  | @method before behind token depth timeout split fine wrong =>
    have methods : s.methods.find? (fun m => !isMethodToken m) = some token := by
      rw [List.find?_eq_some_iff_append]
      refine ⟨by simpa using mt isMethodToken_iff.mp wrong, before, behind, split, ?_⟩
      intro m member
      simp [isMethodToken_iff.mpr (fine m member)]
    rw [check, if_neg depth.ne', if_neg timeout.ne', methods]

/-- Settings are in bounds, or one of their values is the first that is not. -/
theorem inBounds_or_violates (s : Settings) : s.InBounds ∨ ∃ e, s.Violates e := by
  rcases Nat.eq_zero_or_pos s.depth with zero | depth
  · exact .inr ⟨_, .depth zero⟩
  rcases Nat.eq_zero_or_pos s.timeout with zero | timeout
  · exact .inr ⟨_, .timeout depth zero⟩
  cases found : s.methods.find? fun m => !isMethodToken m with
  | none =>
    rw [List.find?_eq_none] at found
    refine .inl ⟨depth, timeout, fun m member => isMethodToken_iff.mp ?_⟩
    simpa using found m member
  | some token =>
    obtain ⟨wrong, before, behind, split, fine⟩ := List.find?_eq_some_iff_append.mp found
    refine .inr ⟨_, .method depth timeout split (fun m member => isMethodToken_iff.mp ?_) ?_⟩
    · simpa using fine m member
    · rw [← isMethodToken_iff]
      simpa using wrong

theorem check_eq_ok_iff : check s = .ok c ↔ c = s ∧ s.InBounds := by
  constructor
  · intro passed
    rcases s.inBounds_or_violates with within | ⟨e, violates⟩
    · rw [check_of_inBounds within] at passed
      cases passed
      exact ⟨rfl, within⟩
    · rw [check_of_violates violates] at passed
      cases passed
  · rintro ⟨rfl, within⟩
    exact check_of_inBounds within

theorem check_eq_error_iff : check s = .error e ↔ s.Violates e := by
  refine ⟨fun failed => ?_, check_of_violates⟩
  rcases s.inBounds_or_violates with within | ⟨other, violates⟩
  · rw [check_of_inBounds within] at failed
    cases failed
  · rw [check_of_violates violates] at failed
    cases failed
    exact violates

end Check

section Sections

variable {s : Settings} {value : Json} {α : Type} {default a : α} {decode : Json → Option α}

theorem orDefault_eq_some_iff {value : Option Json} :
    orDefault default decode value = some a ↔ Given default decode value a := by
  cases value with
  | none =>
    constructor
    · intro eq
      cases eq
      exact .missing
    · rintro ⟨⟩
      rfl
  | some value =>
    constructor
    · exact .decoded
    · rintro (_ | found)
      exact found

theorem ofValues?_eq_some_iff {methods directory depth timeout validate : Option Json} :
    ofValues? methods directory depth timeout validate = some s ↔
      HasValues methods directory depth timeout validate s := by
  simp only [ofValues?, Option.bind_eq_bind, Option.bind_eq_some_iff, orDefault_eq_some_iff]
  constructor
  · rintro ⟨m, methods, d, directory, n, depth, t, timeout, v, validate, eq⟩
    cases eq
    exact ⟨methods, directory, depth, timeout, validate⟩
  · intro has
    exact ⟨_, has.methods, _, has.directory, _, has.depth, _, has.timeout, _, has.validate, rfl⟩

theorem ofJson?_eq_some_iff : ofJson? value = some s ↔ States value s := by
  constructor
  · intro read
    unfold ofJson? at read
    split at read
    next => exact .object (ofValues?_eq_some_iff.mp read)
    next =>
      split at read
      next => cases read
      next few => exact .array (Nat.le_of_not_lt few) (ofValues?_eq_some_iff.mp read)
    next => cases read
  · rintro (values | ⟨few, values⟩)
    · exact ofValues?_eq_some_iff.mpr values
    · rw [ofJson?, if_neg (Nat.not_lt.mpr few)]
      exact ofValues?_eq_some_iff.mpr values

/-- What holds of the default and of whatever is decoded holds of what is given. -/
theorem Given.holds {value : Option Json} {P : α → Prop} (given : Given default decode value a)
    (own : P default) (each : ∀ value b, decode value = some b → P b) : P a := by
  cases given with
  | missing => exact own
  | decoded read => exact each _ a read

theorem HasValues.small {methods directory depth timeout validate : Option Json}
    (has : HasValues methods directory depth timeout validate s) : s.Small where
  depth := has.depth.holds (P := (· < unsignedLimit)) (by decide) fun _ _ => Json.lt_of_nat?
  timeout := has.timeout.holds (P := (· < unsignedLimit)) (by decide) fun _ _ => Json.lt_of_nat?

theorem States.small (stated : States value s) : s.Small := by
  cases stated with
  | object values => exact values.small
  | array _ values => exact values.small

/-- Settings with small numbers are what their own section says. -/
theorem states_toJson (small : s.Small) : States s.toJson s := by
  refine .object ⟨?_, ?_, ?_, ?_, ?_⟩
  · exact .decoded (Json.list?_ofStrings s.methods)
  · exact .decoded (Json.option?_string s.bodyDirectory)
  · exact .decoded (Json.nat?_ofNat small.depth)
  · exact .decoded (Json.nat?_ofNat small.timeout)
  · exact .decoded rfl

end Sections

section Load

variable {s c : Settings} {document : Option Json}

theorem statedIn_iff :
    StatedIn document s ↔ (document.bind (Json.field? sectionName)).bind ofJson? = some s := by
  simp only [StatedIn, Option.bind_eq_some_iff, ofJson?_eq_some_iff]

theorem load_of_statedIn (stated : StatedIn document s) : load document = check s := by
  rw [load, statedIn_iff.mp stated, Option.getD_some]

theorem standard_inBounds : standard.InBounds := ⟨by decide, by decide, by simp [standard]⟩

theorem load_of_silent (silent : ∀ s, ¬ StatedIn document s) : load document = .ok standard := by
  have nothing : (document.bind (Json.field? sectionName)).bind ofJson? = none :=
    Option.eq_none_iff_forall_ne_some.mpr fun s stated => silent s (statedIn_iff.mpr stated)
  rw [load, nothing, Option.getD_none]
  exact check_of_inBounds standard_inBounds

/-- What is checked was stated, or nothing was. -/
theorem stated_or_silent (document : Option Json) :
    (∃ s, StatedIn document s) ∨ ∀ s, ¬ StatedIn document s := by
  rw [← not_exists]
  exact em _

theorem load_eq_ok_iff : load document = .ok c ↔
    c.InBounds ∧ (StatedIn document c ∨ (∀ s, ¬ StatedIn document s) ∧ c = standard) := by
  constructor
  · intro loaded
    rcases stated_or_silent document with ⟨s, stated⟩ | silent
    · rw [load_of_statedIn stated, check_eq_ok_iff] at loaded
      obtain ⟨rfl, within⟩ := loaded
      exact ⟨within, .inl stated⟩
    · rw [load_of_silent silent] at loaded
      cases loaded
      exact ⟨standard_inBounds, .inr ⟨silent, rfl⟩⟩
  · rintro ⟨within, stated | ⟨silent, rfl⟩⟩
    · rw [load_of_statedIn stated, check_of_inBounds within]
    · exact load_of_silent silent

theorem load_eq_error_iff {e : SettingsError} :
    load document = .error e ↔ ∃ s, StatedIn document s ∧ s.Violates e := by
  constructor
  · intro failed
    rcases stated_or_silent document with ⟨s, stated⟩ | silent
    · rw [load_of_statedIn stated, check_eq_error_iff] at failed
      exact ⟨s, stated, failed⟩
    · rw [load_of_silent silent] at failed
      cases failed
  · rintro ⟨s, stated, violates⟩
    rw [load_of_statedIn stated, check_of_violates violates]

theorem small_of_load (loaded : load document = .ok c) : c.Small := by
  obtain ⟨_, ⟨value, _, stated⟩ | ⟨_, rfl⟩⟩ := load_eq_ok_iff.mp loaded
  · exact stated.small
  · exact ⟨by decide, by decide⟩

/-- Loaded settings come back when they are stored. -/
theorem load_stored (loaded : load document = .ok c) :
    load (some (.object [(sectionName, c.toJson)])) = .ok c := by
  have stated : StatedIn (some (.object [(sectionName, c.toJson)])) c :=
    ⟨c.toJson, by simp [Json.field?], states_toJson (small_of_load loaded)⟩
  rw [load_of_statedIn stated, check_of_inBounds (load_eq_ok_iff.mp loaded).1]

end Load

end Settings

namespace Text

theorem isAsciiLetter_eq_isAlpha (c : Char) : isAsciiLetter c = c.isAlpha := by
  simp [isAsciiLetter, Char.isAlpha, Char.isUpper, Char.isLower, Bool.or_comm, Char.le_def]

theorem upper_of_ascii {text : List Char} (ascii : Ascii text) : upper text = text.map Char.toUpper := by
  have each : ∀ c ∈ text, upperChar c = [c.toUpper] := by
    intro c member
    rw [upperChar, if_pos (ascii c member)]
  rw [upper, List.flatMap_congr each, List.map_eq_flatMap]

section Letters

variable {first second : List Char}

/-- Letters in another case are letters. -/
theorem letters_of_lowerAscii (same : lowerAscii first = lowerAscii second)
    (letters : ∀ c ∈ second, isAsciiLetter c = true) : ∀ c ∈ first, isAsciiLetter c = true := by
  intro c member
  have listed : c.toLower ∈ lowerAscii second := same ▸ List.mem_map_of_mem member
  obtain ⟨d, inside, lowered⟩ := List.mem_map.mp listed
  rw [isAsciiLetter_eq_isAlpha, ← Char.isAlpha_toLower_eq_isAlpha, ← lowered,
    Char.isAlpha_toLower_eq_isAlpha, ← isAsciiLetter_eq_isAlpha]
  exact letters d inside

theorem upper_eq_of_lowerAscii (same : lowerAscii first = lowerAscii second)
    (left : Ascii first) (right : Ascii second) : upper first = upper second := by
  have raised : ∀ text : List Char, text.map Char.toUpper = (lowerAscii text).map Char.toUpper := by
    intro text
    rw [lowerAscii, List.map_map]
    exact List.map_congr_left fun c _ => (Char.toUpper_toLower_eq_toUpper c).symm
  rw [upper_of_ascii left, upper_of_ascii right, raised, same, ← raised]

end Letters

section Names

variable {token other : String}

theorem lowerAscii_of_sameName (same : sameName token other = true) :
    lowerAscii token.toList = lowerAscii other.toList :=
  String.ofList_injective (sameName_iff.mp same)

theorem letters_of_sameName (same : sameName token other = true)
    (letters : ∀ c ∈ other.toList, isAsciiLetter c = true) : ∀ c ∈ token.toList, isAsciiLetter c = true :=
  letters_of_lowerAscii (lowerAscii_of_sameName same) letters

/-- Letters have one upper case, whatever case they are in. -/
theorem upperToken_of_sameName (same : sameName token other = true)
    (letters : ∀ c ∈ other.toList, isAsciiLetter c = true) : upperToken token = upperToken other := by
  rw [upperToken, upperToken]
  refine congrArg _ (upper_eq_of_lowerAscii (lowerAscii_of_sameName same) (fun c member => ?_) fun c member => ?_)
  · exact isAscii_of_isAsciiLetter (letters_of_sameName same letters c member)
  · exact isAscii_of_isAsciiLetter (letters c member)

theorem upperToken_upperToken (letters : ∀ c ∈ token.toList, isAsciiLetter c = true) :
    upperToken (upperToken token) = upperToken token := by
  have capitals : upper (upper token.toList) = upper token.toList :=
    upper_of_capitals (capital_of_mem_upper letters)
  simp only [upperToken, String.toList_ofList, capitals]

end Names

end Text

/-- A line that opens a request without a finding wherever a request can be opened. Alone in a text it is
a document with this request. -/
structure OpensRequest (table : MethodTable) (line : List Char) (method url : String) : Prop where
  anywhere (d : Document) (p : Preamble) (number : Nat) :
    Reading.read table ⟨d, .preamble p⟩ ⟨number, line⟩ =
      ⟨d, .headers { Request.ofLine method url number with
        name := p.name, title := p.title, comments := p.comments, bindings := p.bindings } none⟩
  alone (path : String) : path ≠ "" → Unbroken line →
    ∃ d, Document.parse table path (String.ofList line) = .ok d ∧ d.diagnostics = [] ∧
      ∃ r, d.requests = [r] ∧ r.method = method ∧ r.url = url ∧ r.line = 1

section Opening

variable {table : MethodTable} {line : List Char} {method url : String}

/-- A request line with an accepted method and no version. -/
theorem opensRequest_of_classify (shown : Line.classify table line = .requestLine method url none)
    (accepted : table.contains method = true) : OpensRequest table line method url := by
  have plain : Line.separatorTitle? line = none := by
    refine @Line.separatorTitle?_of_classify table line fun title separates => ?_
    rw [shown] at separates
    cases separates
  have anywhere : ∀ (d : Document) (p : Preamble) (number : Nat),
      Reading.read table ⟨d, .preamble p⟩ ⟨number, line⟩ =
        ⟨d, .headers { Request.ofLine method url number with
          name := p.name, title := p.title, comments := p.comments, bindings := p.bindings } none⟩ := by
    intro d p number
    have opens : Block.requestLine? table ⟨number, line⟩ = some (method, url, none) := by
      simp only [Block.requestLine?, shown]
    rw [Block.read_preamble (by simp [Block.isSeparator, plain]), Block.readPreamble_requestLine opens,
      if_pos accepted, Document.reported_nil]
    rfl
  refine ⟨anywhere, fun path placed unbroken => ⟨_, if_neg (by simpa using placed), ?_⟩⟩
  have whole : Document.read table path (String.ofList line) =
      { Document.empty path with requests := [(Document.empty path).link (.ofLine method url 1)] } := by
    rw [Document.read, String.toList_ofList, lines_unbroken unbroken]
    change (Reading.read table (.start path) ⟨1, line⟩).close.document = _
    rw [Reading.start, anywhere]
    rfl
  rw [whole]
  exact ⟨rfl, _, rfl, rfl, rfl, rfl⟩

/-- A token, a space and a target are a request line of the token's method. -/
theorem classify_token {token : String} (named : token.toList ≠ [])
    (letters : ∀ c ∈ token.toList, isAsciiLetter c = true) (filled : url.toList ≠ [])
    (target : Line.Target url.toList) :
    Line.classify table (token.toList ++ ' ' :: url.toList) = .requestLine (upperToken token) url none := by
  have blank : allBlank [' '] = true := rfl
  have spells := Line.Spells.request named letters (List.cons_ne_nil _ _) blank filled target .none
  rw [List.append_nil, List.singleton_append] at spells
  have trimmed : Trimmed (token.toList ++ ' ' :: url.toList) := by
    refine trimmed_append named (by simp) (fun c first => ?_) fun c last => ?_
    · exact isBlank_of_letter (letters c (List.mem_of_mem_head? first))
    · rw [List.getLast?_cons_of_ne_nil filled] at last
      exact target.getLast?_inked c last
  rw [← trimmed.trim_eq] at spells
  rw [Line.classify_of_spells spells]
  simp only [Line.Parts.method, String.ofList_toList, Option.map_none]

/-- A method that settings add opens requests, in any letter case. -/
theorem opensRequest_of_method {extra : List String} {m token : String} (member : m ∈ extra)
    (own : Settings.IsMethod m) (same : sameName token (String.ofList (trim m.toList)) = true)
    (filled : url ≠ "") (target : Line.Target url.toList) :
    OpensRequest (.withExtra extra) (token.toList ++ ' ' :: url.toList)
      (upperToken (String.ofList (trim m.toList))) url := by
  have letters : ∀ c ∈ (String.ofList (trim m.toList)).toList, isAsciiLetter c = true := by
    rw [String.toList_ofList]
    exact own.2
  have named : token.toList ≠ [] := by
    intro empty
    have folded := lowerAscii_of_sameName same
    rw [empty, String.toList_ofList] at folded
    exact own.1 (List.map_eq_nil_iff.mp folded.symm)
  apply opensRequest_of_classify
  · rw [classify_token named (letters_of_sameName same letters) (by simpa using filled) target,
      upperToken_of_sameName same letters]
  · -- methods are kept in upper case and looked up in upper case, which is taken twice here
    rw [MethodTable.contains_withExtra, decide_eq_true_eq]
    exact .inr ⟨m, member, (upperToken_upperToken letters).symm⟩

end Opening

namespace Settings

/-- Loading gives settings in bounds, those of the section if it states any and else the standard ones,
or the first value that is out of bounds. Settings that were loaded come back when they are stored. Each of
their methods opens a request in any letter case, with any target. -/
theorem load_dependable (document : Option Json) :
    (∀ c, load document = .ok c ↔
      c.InBounds ∧ (StatedIn document c ∨ (∀ s, ¬ StatedIn document s) ∧ c = standard)) ∧
    (∀ e, load document = .error e ↔ ∃ s, StatedIn document s ∧ s.Violates e) ∧
    (∀ e, load document = .error e →
      ∃ reason, e.message = "invalid value for " ++ e.field ++ ": " ++ reason) ∧
    ∀ c, load document = .ok c →
      load (some (.object [(sectionName, c.toJson)])) = .ok c ∧
      ∀ m ∈ c.methods, ∀ token url, sameName token (String.ofList (trim m.toList)) = true →
        url ≠ "" → Line.Target url.toList →
        OpensRequest (.withExtra c.methods) (token.toList ++ ' ' :: url.toList)
          (upperToken (String.ofList (trim m.toList))) url := by
  refine ⟨fun c => load_eq_ok_iff, fun e => load_eq_error_iff, fun e _ => e.message_eq, ?_⟩
  intro c loaded
  refine ⟨load_stored loaded, fun m member token url same filled target => ?_⟩
  have own : IsMethod m := (load_eq_ok_iff.mp loaded).1.methods m member
  exact opensRequest_of_method member own same filled target

def purging : Json :=
  .object [(sectionName,
    .object [("timeout", Json.ofNat 5), ("additionalMethods", Json.ofStrings [" purge\n"])])]

/-- A document with a value out of bounds and, before it, a method that is none. -/
def refusing : Json :=
  .object [(sectionName,
    .object [("additionalMethods", Json.ofStrings ["x-1"]), ("timeout", Json.ofNat 0)])]

theorem load_dependable_purge :
    load (some purging) = .ok ⟨[" purge\n"], none, 10, 5, true⟩ ∧
    load (some (.object [(sectionName, toJson ⟨[" purge\n"], none, 10, 5, true⟩)])) =
      .ok ⟨[" purge\n"], none, 10, 5, true⟩ ∧
    upperToken (String.ofList (trim " purge\n".toList)) = "PURGE" ∧
    OpensRequest (.withExtra [" purge\n"]) ("pUrGe".toList ++ ' ' :: "\x7b\x7ba b\x7d\x7d/c".toList)
      (upperToken (String.ofList (trim " purge\n".toList))) "\x7b\x7ba b\x7d\x7d/c" ∧
    (∃ s, StatedIn (some refusing) s ∧ s.Violates .zeroTimeout) := by
  have loaded : load (some purging) = .ok ⟨[" purge\n"], none, 10, 5, true⟩ := by rfl
  have target : Line.Target "\x7b\x7ba b\x7d\x7d/c".toList :=
    .placeholder (by decide : '}' ∉ "a b".toList) (Line.target_of_inked (by decide))
  obtain ⟨stored, opens⟩ := (load_dependable (some purging)).2.2.2 _ loaded
  refine ⟨loaded, stored, by decide, ?_, ?_⟩
  · exact opens _ List.mem_cons_self _ _ (by decide) (by decide) target
  · exact ((load_dependable (some refusing)).2.1 .zeroTimeout).mp rfl

end Settings

end RequestBook
