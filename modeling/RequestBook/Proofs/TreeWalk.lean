import Mathlib.Data.List.DropRight
import RequestBook.Markup.Element

/-! Element trees as they are walked through. A walk meets opening tags, closing tags and characters,
and the tree that is built from the pieces of a text is walked as the pieces say: tag by tag, and
between two tags their character data, without the white space that stands at its end as texts of its
own. -/
namespace RequestBook.Markup

inductive Sign where
  | opening (tag : Tag)
  | closing (name : String)
  | char (c : Char)
  deriving DecidableEq

mutual

def Node.signs : Node → List Sign
  | .text content => content.map .char
  | .element tag children => .opening tag :: (signsOf children ++ [.closing tag.name])

def signsOf : List Node → List Sign
  | [] => []
  | node :: rest => node.signs ++ signsOf rest

end

theorem signsOf_append (nodes others : List Node) :
    signsOf (nodes ++ others) = signsOf nodes ++ signsOf others := by
  induction nodes with
  | nil => rfl
  | cons node rest ih => rw [List.cons_append, signsOf, signsOf, ih, List.append_assoc]

namespace Event

def isTag : Event → Bool
  | .start _ => true
  | .empty _ => true
  | .finish _ => true
  | _ => false

/-- A tag as a walk meets it; an empty one opens and closes. -/
def tagSigns : Event → List Sign
  | .start tag => [.opening tag]
  | .empty tag => [.opening tag, .closing tag.name]
  | .finish name => [.closing name]
  | _ => []

def data? : Event → Option (List Char)
  | .text content => some content
  | .reference name => (resolveReference? name).map fun c => [c]
  | .cdata content => some content
  | _ => none

def isLayout : Event → Bool
  | .text content => Text.allBlank content
  | _ => false

end Event

/-- The character data of events, without the run of white space texts at its end. -/
def characterData (events : List Event) : List Char :=
  ((events.filter fun e => e.data?.isSome).rdropWhile Event.isLayout).flatMap fun e => e.data?.getD []

/-- The events before the first tag, and every tag with the events up to the next one. -/
def stretches : List Event → List Event × List (Event × List Event)
  | [] => ([], [])
  | event :: rest =>
    let (first, others) := stretches rest
    if event.isTag then ([], (event, first) :: others) else (event :: first, others)

/-- The walk that events ask for: their tags, and the character data before, between and after them. -/
def spoken (events : List Event) : List Sign :=
  (characterData (stretches events).1).map .char ++
    (stretches events).2.flatMap fun (tag, after) => tag.tagSigns ++ (characterData after).map .char

def Speaks (events : List Event) : Prop := ∃ e ∈ events, e.data?.isSome ∧ e.isLayout = false

section CharacterData

variable {e : Event} {events rest : List Event}

theorem rdropWhile_cons {α : Type} {p : α → Bool} {x : α} {l : List α} (kept : ∃ y ∈ x :: l, p y = false) :
    (x :: l).rdropWhile p = x :: l.rdropWhile p := by
  rw [List.rdropWhile, List.rdropWhile, List.reverse_cons, List.dropWhile_append]
  split
  next all =>
    rw [List.isEmpty_iff, List.dropWhile_eq_nil_iff] at all
    obtain ⟨y, member, stays⟩ := kept
    obtain rfl | later := List.mem_cons.mp member
    · rw [List.dropWhile_eq_nil_iff.mpr all, List.dropWhile_cons_of_neg (by simp [stays])]
      rfl
    · have := all y (List.mem_reverse.mpr later)
      rw [stays] at this
      cases this
  next => rw [List.reverse_append]; rfl

theorem speaks_cons : Speaks (e :: rest) ↔ (e.data?.isSome ∧ e.isLayout = false) ∨ Speaks rest := by
  simp [Speaks, or_and_right, exists_or]

theorem characterData_of_silent (silent : ¬ Speaks events) : characterData events = [] := by
  have layout : ∀ e ∈ events.filter fun e => e.data?.isSome, e.isLayout := by
    intro e member
    obtain ⟨among, data⟩ := List.mem_filter.mp member
    by_contra spoken
    exact silent ⟨e, among, data, by simpa using spoken⟩
  rw [characterData, List.rdropWhile_eq_nil_iff.mpr layout, List.flatMap_nil]

/-- As long as something is to be said, white space is said too. -/
theorem characterData_cons (speaks : Speaks (e :: rest)) :
    characterData (e :: rest) = e.data?.getD [] ++ characterData rest := by
  unfold characterData
  cases data : e.data? with
  | none => simp [data]
  | some content =>
    have kept : ∃ y ∈ e :: rest.filter fun e => e.data?.isSome, y.isLayout = false := by
      obtain ⟨y, among, data', spoken⟩ := speaks
      refine ⟨y, ?_, spoken⟩
      obtain rfl | later := List.mem_cons.mp among
      · exact List.mem_cons_self
      · exact List.mem_cons_of_mem _ (List.mem_filter.mpr ⟨later, data'⟩)
    rw [List.filter_cons_of_pos (by simp [data]), rdropWhile_cons kept, List.flatMap_cons, data]

end CharacterData

section Stretches

variable {e : Event} (rest : List Event)

theorem stretches_tag (tag : e.isTag = true) :
    stretches (e :: rest) = ([], (e, (stretches rest).1) :: (stretches rest).2) := by
  simp [stretches, tag]

theorem stretches_plain (plain : e.isTag = false) :
    stretches (e :: rest) = (e :: (stretches rest).1, (stretches rest).2) := by
  simp [stretches, plain]

end Stretches

/-- The walk that events ask for behind white space that has been held back. -/
def spokenAfter (held : List Char) (events : List Event) : List Sign :=
  (characterData (.text held :: (stretches events).1)).map .char ++
    (stretches events).2.flatMap fun (tag, after) => tag.tagSigns ++ (characterData after).map .char

section SpokenAfter

variable {held content : List Char} {e : Event} {rest : List Event}

theorem spokenAfter_nil (blank : Text.allBlank held = true) : spokenAfter held [] = [] := by
  have silent : ¬ Speaks [.text held] := by simp [Speaks, Event.isLayout, blank]
  rw [spokenAfter, stretches, characterData_of_silent silent]
  rfl

theorem spokenAfter_empty (events : List Event) : spokenAfter [] events = spoken events := by
  have same : characterData (.text [] :: (stretches events).1) = characterData (stretches events).1 := by
    by_cases speaks : Speaks (.text [] :: (stretches events).1)
    · rw [characterData_cons speaks]
      rfl
    · have silent : ¬ Speaks (stretches events).1 := fun later => speaks (speaks_cons.mpr (.inr later))
      rw [characterData_of_silent speaks, characterData_of_silent silent]
  rw [spokenAfter, spoken, same]

/-- A tag ends a stretch, and white space held back before it is left out. -/
theorem spokenAfter_tag (blank : Text.allBlank held = true) (tag : e.isTag = true) :
    spokenAfter held (e :: rest) = e.tagSigns ++ spoken rest := by
  have silent : ¬ Speaks [.text held] := by simp [Speaks, Event.isLayout, blank]
  rw [spokenAfter, stretches_tag rest tag, characterData_of_silent silent, spoken]
  simp

theorem spokenAfter_silent (plain : e.isTag = false) (silent : e.data? = none) :
    spokenAfter held (e :: rest) = spokenAfter held rest := by
  rw [spokenAfter, spokenAfter, stretches_plain rest plain]
  simp [characterData, List.filter_cons, silent]

/-- More white space is held back together with what is held already. -/
theorem spokenAfter_layout (blank : Text.allBlank held = true) (blank' : Text.allBlank content = true) :
    spokenAfter held (.text content :: rest) = spokenAfter (held ++ content) rest := by
  have blanks : Text.allBlank (held ++ content) = true := by
    simp_all [Text.allBlank]
  rw [spokenAfter, spokenAfter, stretches_plain rest rfl]
  congr 2
  by_cases speaks : Speaks (stretches rest).1
  · rw [characterData_cons (speaks_cons.mpr (.inr (speaks_cons.mpr (.inr speaks)))),
      characterData_cons (speaks_cons.mpr (.inr speaks)), characterData_cons (speaks_cons.mpr (.inr speaks))]
    simp [Event.data?]
  · rw [characterData_of_silent, characterData_of_silent]
    all_goals simp [speaks_cons, Event.isLayout, speaks, blank, blank', blanks]

/-- Other character data is written behind the white space that is held back. -/
theorem spokenAfter_data (plain : e.isTag = false) (data : e.data? = some content)
    (spoken' : e.isLayout = false) :
    spokenAfter held (e :: rest) = (held ++ content).map .char ++ spoken rest := by
  have speaks : Speaks (e :: (stretches rest).1) := speaks_cons.mpr (.inl ⟨by rw [data]; rfl, spoken'⟩)
  rw [spokenAfter, stretches_plain rest plain, characterData_cons (speaks_cons.mpr (.inr speaks)),
    characterData_cons speaks, data, spoken]
  simp [Event.data?]

end SpokenAfter

section Parts

variable {events others : List Event}

theorem stretches_append (plain : ∀ e ∈ others, e.isTag = false) (events : List Event) :
    stretches (others ++ events) = (others ++ (stretches events).1, (stretches events).2) := by
  induction others with
  | nil => rfl
  | cons e rest ih =>
    obtain ⟨first, behind⟩ := List.forall_mem_cons.mp plain
    rw [List.cons_append, stretches_plain _ first, ih behind]
    rfl

/-- Pieces that say the same in a place say the same behind more pieces. -/
theorem spokenAfter_append {held : List Char} (front : List Event) (blank : Text.allBlank held = true)
    (same : ∀ held, Text.allBlank held = true → spokenAfter held events = spokenAfter held others) :
    spokenAfter held (front ++ events) = spokenAfter held (front ++ others) := by
  induction front generalizing held with
  | nil => exact same held blank
  | cons e rest ih =>
    rw [List.cons_append, List.cons_append]
    cases tag : e.isTag with
    | true =>
      rw [spokenAfter_tag blank tag, spokenAfter_tag blank tag, ← spokenAfter_empty, ← spokenAfter_empty, ih rfl]
    | false =>
      cases data : e.data? with
      | none => rw [spokenAfter_silent tag data, spokenAfter_silent tag data, ih blank]
      | some content =>
        cases layout : e.isLayout with
        | false =>
          rw [spokenAfter_data tag data layout, spokenAfter_data tag data layout, ← spokenAfter_empty,
            ← spokenAfter_empty, ih rfl]
        | true =>
          cases e with
          | text white =>
            rw [spokenAfter_layout blank layout, spokenAfter_layout blank layout]
            exact ih (by simp_all [Text.allBlank, Event.isLayout])
          | _ => cases layout

/-- The walk through an element without elements in it. -/
theorem spoken_leaf (plain : ∀ e ∈ others, e.isTag = false) (tag : Tag) (name : String) :
    spoken (.start tag :: (others ++ [.finish name])) =
      .opening tag :: ((characterData others).map .char ++ [.closing name]) := by
  have inside : stretches (others ++ [.finish name]) = (others ++ [], [(.finish name, [])]) :=
    stretches_append plain [.finish name]
  rw [spoken, stretches_tag _ rfl, inside, List.append_nil]
  rfl

end Parts

def Unclosed.signs (u : Unclosed) : List Sign := signsOf u.children.reverse

theorem Unclosed.signs_add (u : Unclosed) (node : Node) : (u.add node).signs = u.signs ++ node.signs := by
  rw [signs, add, List.reverse_cons, signsOf_append, signsOf, signsOf, List.append_nil]
  rfl

def signsWithin (inner : Unclosed) : List Unclosed → List Sign
  | [] => inner.signs
  | parent :: outer => signsWithin parent outer ++ .opening inner.tag :: inner.signs

theorem signsWithin_add (inner : Unclosed) (node : Node) (outer : List Unclosed) :
    signsWithin (inner.add node) outer = signsWithin inner outer ++ node.signs := by
  cases outer with
  | nil => exact inner.signs_add node
  | cons parent outer =>
    rw [signsWithin, signsWithin, inner.signs_add, List.append_assoc, List.cons_append]
    rfl

namespace Building

def signs (b : Building) : List Sign := signsWithin b.inner b.outer

variable {b next : Building} {e : Event} {events : List Event}

theorem signs_addText (b : Building) (content : List Char) :
    (b.addText content).signs = b.signs ++ (b.held ++ content).map .char :=
  signsWithin_add b.inner (.text (b.held ++ content)) b.outer

theorem feed_tag (tag : e.isTag = true) (fed : b.feed e = some next) :
    next.signs = b.signs ++ e.tagSigns ∧ next.held = [] := by
  cases e with
  | start element =>
    rw [feed] at fed
    split at fed
    · cases fed
      exact ⟨rfl, rfl⟩
    · cases fed
  | empty element =>
    cases fed
    exact ⟨signsWithin_add b.inner (.element element []) b.outer, rfl⟩
  | finish name =>
    obtain ⟨inner, outer, held⟩ := b
    cases outer with
    | nil => cases fed
    | cons parent outer =>
      dsimp only [feed] at fed
      split at fed
      next named =>
        cases fed
        refine ⟨?_, rfl⟩
        subst named
        rw [signs, signsWithin_add, signs, signsWithin]
        simp [Node.signs, Unclosed.signs, Event.tagSigns]
      next => cases fed
  | _ => cases tag

/-- Whatever is no tag is taken, and what is still to be written has it in front. -/
theorem feed_plain (plain : e.isTag = false) (blank : Text.allBlank b.held = true) :
    ∃ next, b.feed e = some next ∧ Text.allBlank next.held = true ∧ next.outer = b.outer ∧
      ∀ rest, next.signs ++ spokenAfter next.held rest = b.signs ++ spokenAfter b.held (e :: rest) := by
  have writes {content : List Char} (data : e.data? = some content) (spoken' : e.isLayout = false)
      (rest : List Event) : (b.addText content).signs ++ spokenAfter (b.addText content).held rest =
        b.signs ++ spokenAfter b.held (e :: rest) := by
    rw [spokenAfter_data plain data spoken', signs_addText, ← List.append_assoc]
    exact congrArg _ (spokenAfter_empty rest)
  cases e with
  | text content =>
    cases white : Text.allBlank content with
    | true =>
      refine ⟨{ b with held := b.held ++ content }, by rw [feed, if_pos white], ?_, rfl, fun rest => ?_⟩
      · simp_all [Text.allBlank]
      · rw [spokenAfter_layout blank white]
        rfl
    | false => exact ⟨b.addText content, by simp [feed, white], rfl, rfl, writes rfl white⟩
  | reference name =>
    cases resolved : resolveReference? name with
    | none =>
      refine ⟨b, by rw [feed, resolved], blank, rfl, fun rest => ?_⟩
      rw [spokenAfter_silent rfl (by rw [Event.data?, resolved]; rfl)]
    | some c =>
      exact ⟨b.addText [c], by rw [feed, resolved], rfl, rfl, writes (by rw [Event.data?, resolved]; rfl) rfl⟩
  | cdata content => exact ⟨b.addText content, rfl, rfl, rfl, writes rfl rfl⟩
  | aside => exact ⟨b, rfl, blank, rfl, fun rest => by rw [spokenAfter_silent rfl rfl]⟩
  | _ => cases plain

/-- Building from events adds the walk that they ask for. -/
theorem signs_run (blank : Text.allBlank b.held = true) (built : b.run events = some next) :
    next.signs = b.signs ++ spokenAfter b.held events := by
  induction events generalizing b with
  | nil =>
    cases built
    rw [spokenAfter_nil blank, List.append_nil]
  | cons e rest ih =>
    rw [run] at built
    split at built
    next b' fed =>
      cases tag : e.isTag with
      | true =>
        obtain ⟨written, held⟩ := feed_tag tag fed
        rw [ih (by rw [held]; rfl) built, written, held, spokenAfter_empty, spokenAfter_tag blank tag,
          List.append_assoc]
      | false =>
        obtain ⟨_, fed', blank', -, written⟩ := feed_plain tag blank
        cases fed.symm.trans fed'
        rw [ih blank' built, written]
    next => cases built

end Building

end RequestBook.Markup
