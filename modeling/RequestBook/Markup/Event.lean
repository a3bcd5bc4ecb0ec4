import RequestBook.Markup.Attribute
import RequestBook.Text.Digit

/-! The pieces of an XML text in the order in which they stand: tags, character data, references
and the rest. Whether the tags nest is not asked here. -/
namespace RequestBook.Markup

open Text (keeping length_of_keeping length_dropWhile_le)

inductive Event where
  | start (tag : Tag)
  /-- a tag that ends with a slash -/
  | empty (tag : Tag)
  | finish (name : String)
  | text (content : List Char)
  /-- the name between an ampersand and a semicolon -/
  | reference (name : List Char)
  | cdata (content : List Char)
  /-- comments, processing instructions and document type declarations -/
  | aside
  deriving DecidableEq, Repr

/-- The text of a tag up to the first closing bracket outside quotes, and what follows it. -/
def tagContent? (quote : Option Char) : List Char → Option (List Char × List Char)
  | [] => none
  | c :: rest =>
    match quote with
    | some q => keeping c (tagContent? (if c = q then none else some q) rest)
    | none =>
      if c = '>' then some ([], rest)
      else if c = '"' ∨ c = '\'' then keeping c (tagContent? (some c) rest)
      else keeping c (tagContent? none rest)

/-- The text up to the closing bracket that has as many opening brackets before it as closing
ones, and what follows it. -/
def balanced? (depth : Nat) : List Char → Option (List Char × List Char)
  | [] => none
  | c :: rest =>
    if c = '<' then keeping c (balanced? (depth + 1) rest)
    else if c = '>' then
      match depth with
      | 0 => some ([], rest)
      | depth + 1 => keeping c (balanced? depth rest)
    else keeping c (balanced? depth rest)

def openingTag (content : List Char) : Event :=
  match Text.dropEnd? ['/'] content with
  | some inner => .empty (Tag.ofContent inner)
  | none => .start (Tag.ofContent content)

/-- A closing tag's name has no white space at its end, unless it consists of white space. -/
def closingTag (content : List Char) : Event :=
  .finish (String.ofList
    (if content.all isSpace then content else (content.reverse.dropWhile isSpace).reverse))

/-- A document type declaration starts with its word in any case and says something behind it. -/
def isDoctype (content : List Char) : Bool :=
  (content.take 7).map Char.toLower == "doctype".toList && !(content.drop 7).all isSpace

def readDeclaration (text : List Char) : Option (Event × List Char) :=
  match Text.dropStart? "--".toList text with
  | some body => (Text.cutAtWord? "-->".toList body).map fun (_, after) => (.aside, after)
  | none =>
    match Text.dropStart? "[CDATA[".toList text with
    | some body => (Text.cutAtWord? "]]>".toList body).map fun (content, after) => (.cdata content, after)
    | none =>
      match balanced? 0 text with
      | some (content, after) => if isDoctype content then some (.aside, after) else none
      | none => none

def readMarkup (text : List Char) : Option (Event × List Char) :=
  match text with
  | [] => none
  | '!' :: rest => readDeclaration rest
  | '?' :: '>' :: _ => none
  | '?' :: rest => (Text.cutAtWord? "?>".toList rest).map fun (_, after) => (.aside, after)
  | '/' :: rest => (tagContent? none rest).map fun (content, after) => (closingTag content, after)
  | _ => (tagContent? none text).map fun (content, after) => (openingTag content, after)

def readReference (text : List Char) : Option (List Char × List Char) :=
  let isInner (c : Char) : Bool := c != ';' && c != '&' && c != '<'
  match text.dropWhile isInner with
  | ';' :: after => some (text.takeWhile isInner, after)
  | _ => none

def isCharacterData (c : Char) : Bool := c != '<' && c != '&'

theorem length_of_tagContent? {quote : Option Char} {text content after : List Char}
    (read : tagContent? quote text = some (content, after)) : after.length < text.length := by
  fun_induction tagContent? quote text generalizing content with
  | case1 => contradiction
  | case2 c rest q ih => exact length_of_keeping read fun _ => ih
  | case3 => cases read; simp
  | case4 c rest _ _ ih => exact length_of_keeping read fun _ => ih
  | case5 c rest _ _ ih => exact length_of_keeping read fun _ => ih

theorem length_of_balanced? {depth : Nat} {text content after : List Char}
    (read : balanced? depth text = some (content, after)) : after.length < text.length := by
  fun_induction balanced? depth text generalizing content with
  | case1 => contradiction
  | case2 depth rest ih => exact length_of_keeping read fun _ => ih
  | case3 => cases read; simp
  | case4 rest _ depth ih => exact length_of_keeping read fun _ => ih
  | case5 depth c rest _ _ ih => exact length_of_keeping read fun _ => ih

theorem length_of_readDeclaration {text after : List Char} {event : Event}
    (read : readDeclaration text = some (event, after)) : after.length ≤ text.length := by
  simp only [readDeclaration] at read
  split at read
  next body start =>
    obtain ⟨⟨_, _⟩, found, eq⟩ := Option.map_eq_some_iff.mp read
    cases eq
    have := Text.length_of_dropStart? start
    have := Text.length_of_cutAtWord? found
    dsimp only at *
    omega
  next =>
    split at read
    next body start =>
      obtain ⟨⟨_, _⟩, found, eq⟩ := Option.map_eq_some_iff.mp read
      cases eq
      have := Text.length_of_dropStart? start
      have := Text.length_of_cutAtWord? found
      dsimp only at *
      omega
    next =>
      split at read
      next found =>
        split at read
        · cases read; exact Nat.le_of_lt (length_of_balanced? found)
        · contradiction
      next => contradiction

theorem length_of_readMarkup {text after : List Char} {event : Event}
    (read : readMarkup text = some (event, after)) : after.length ≤ text.length := by
  simp only [readMarkup] at read
  split at read
  · contradiction
  · have := length_of_readDeclaration read
    simp only [List.length_cons]; omega
  · contradiction
  · obtain ⟨⟨_, _⟩, found, eq⟩ := Option.map_eq_some_iff.mp read
    cases eq
    have := Text.length_of_cutAtWord? found
    simp only [List.length_cons]; omega
  · obtain ⟨⟨_, _⟩, found, eq⟩ := Option.map_eq_some_iff.mp read
    cases eq
    have := length_of_tagContent? found
    simp only [List.length_cons]; omega
  · obtain ⟨⟨_, _⟩, found, eq⟩ := Option.map_eq_some_iff.mp read
    cases eq
    exact Nat.le_of_lt (length_of_tagContent? found)

theorem length_of_readReference {text name after : List Char}
    (read : readReference text = some (name, after)) : after.length ≤ text.length := by
  simp only [readReference] at read
  split at read
  next found =>
    cases read
    have := length_dropWhile_le (fun c => c != ';' && c != '&' && c != '<') text
    rw [found] at this
    simp only [List.length_cons] at this
    omega
  next => contradiction

def readEvents (text : List Char) : Option (List Event) :=
  match text with
  | [] => some []
  | '<' :: rest =>
    match read : readMarkup rest with
    | some (event, after) =>
      have := length_of_readMarkup read
      (readEvents after).map (event :: ·)
    | none => none
  | '&' :: rest =>
    match read : readReference rest with
    | some (name, after) =>
      have := length_of_readReference read
      (readEvents after).map (.reference name :: ·)
    | none => none
  | c :: rest =>
    (readEvents (rest.dropWhile isCharacterData)).map
      (.text (c :: rest.takeWhile isCharacterData) :: ·)
termination_by text.length
decreasing_by
  · exact Nat.lt_succ_of_le this
  · exact Nat.lt_succ_of_le this
  · exact Nat.lt_succ_of_le (length_dropWhile_le _ _)

def events? (text : List Char) : Option (List Event) :=
  readEvents ((Text.dropStart? [Char.ofNat 0xFEFF] text).getD text)

end RequestBook.Markup
