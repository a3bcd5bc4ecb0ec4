import RequestBook.Proofs.TreeWalk

/-! Which events make up a document. A tree is built exactly when the tags nest, no more than 128
elements are open at once and there is an element; and the tree is walked through as the events say. -/
namespace RequestBook.Markup

namespace Event

def opens : Event → Bool
  | .start _ => true
  | _ => false

def closes : Event → Bool
  | .finish _ => true
  | _ => false

end Event

/-- Events whose tags nest: every opening tag is followed by a closing one of the same name, with
nested tags between the two. -/
inductive Balanced : List Event → Prop where
  | nil : Balanced []
  | beside {e : Event} {rest : List Event} :
      e.opens = false → e.closes = false → Balanced rest → Balanced (e :: rest)
  | element {tag : Tag} {inside rest : List Event} :
      Balanced inside → Balanced rest → Balanced (.start tag :: (inside ++ .finish tag.name :: rest))

/-- No more than 128 elements are open at any place. -/
def Shallow (events : List Event) : Prop :=
  ∀ before, before <+: events → before.countP Event.opens ≤ before.countP Event.closes + 128

theorem Balanced.countP_eq {events : List Event} (balanced : Balanced events) :
    events.countP Event.opens = events.countP Event.closes := by
  induction balanced with
  | nil => rfl
  | beside opens closes _ ih =>
    rw [List.countP_cons_of_neg (by simp [opens]), List.countP_cons_of_neg (by simp [closes]), ih]
  | element _ _ inside rest =>
    simp only [List.countP_cons, List.countP_append, inside, rest, Event.opens, Event.closes]
    simp
    omega

/-- Events that close elements with the given tags, the innermost first, and are nested otherwise. -/
inductive Unwinds : List Tag → List Event → Prop where
  | last {events : List Event} : Balanced events → Unwinds [] events
  | close {tag : Tag} {tags : List Tag} {inside rest : List Event} :
      Balanced inside → Unwinds tags rest → Unwinds (tag :: tags) (inside ++ .finish tag.name :: rest)

namespace Unwinds

variable {tags : List Tag} {rest : List Event}

theorem beside {e : Event} (opens : e.opens = false) (closes : e.closes = false) (unwinds : Unwinds tags rest) :
    Unwinds tags (e :: rest) := by
  cases unwinds with
  | last balanced => exact .last (.beside opens closes balanced)
  | close inside others => exact .close (.beside opens closes inside) others

theorem element {tag : Tag} {inside : List Event} (balanced : Balanced inside) (unwinds : Unwinds tags rest) :
    Unwinds tags (.start tag :: (inside ++ .finish tag.name :: rest)) := by
  cases unwinds with
  | last others => exact .last (.element balanced others)
  | @close outer tags between others nested unwinds =>
    have all : Unwinds (outer :: tags)
        ((.start tag :: (inside ++ .finish tag.name :: between)) ++ .finish outer.name :: others) :=
      .close (.element balanced nested) unwinds
    simpa using all

end Unwinds

namespace Building

variable {b next : Building} {e : Event} {events : List Event} {tag : Tag} {tags : List Tag}

def frames (b : Building) : List Tag := (b.inner :: b.outer).map Unclosed.tag

/-- The tags of the unclosed elements behind an event. -/
def framesAfter (frames : List Tag) : Event → Option (List Tag)
  | .start tag => if frames.length ≤ 128 then some (tag :: frames) else none
  | .finish name =>
    match frames with
    | tag :: parent :: outer => if tag.name = name then some (parent :: outer) else none
    | _ => none
  | _ => some frames

theorem frames_feed (b : Building) (e : Event) : (b.feed e).map frames = framesAfter b.frames e := by
  obtain ⟨inner, outer, held⟩ := b
  cases e with
  | start tag =>
    have room : (frames ⟨inner, outer, held⟩).length ≤ 128 ↔ outer.length < maxOpen := by
      simp only [frames, maxOpen, List.length_map, List.length_cons]
      omega
    simp only [feed, framesAfter, room]
    split <;> rfl
  | finish name =>
    cases outer with
    | nil => rfl
    | cons parent outer =>
      by_cases named : inner.tag.name = name
      · simp [feed, framesAfter, frames, named, Unclosed.add]
      · simp [feed, framesAfter, frames, named]
  | text content =>
    rw [feed]
    split <;> rfl
  | reference name =>
    rw [feed]
    split <;> rfl
  | _ => rfl

/-- An event opens an element, closes the innermost one, or stays inside it. -/
theorem feed_cases (fed : b.feed e = some next) :
    (∃ tag, e = .start tag ∧ b.frames.length ≤ 128 ∧ next.frames = tag :: b.frames) ∨
    (∃ tag, e = .finish tag.name ∧ b.frames = tag :: next.frames) ∨
    (e.opens = false ∧ e.closes = false ∧ next.frames = b.frames) := by
  have after : framesAfter b.frames e = some next.frames := by rw [← frames_feed, fed, Option.map_some]
  cases e with
  | start tag =>
    rw [framesAfter] at after
    split at after
    next room => exact .inl ⟨tag, rfl, room, (Option.some.inj after).symm⟩
    next => cases after
  | finish name =>
    dsimp only [framesAfter] at after
    split at after
    next innermost parent outer open' =>
      split at after
      next named => exact .inr (.inl ⟨innermost, by rw [named], by rw [open', Option.some.inj after]⟩)
      next => cases after
    next => cases after
  | _ => exact .inr (.inr ⟨rfl, rfl, (Option.some.inj after).symm⟩)

theorem feed_start (room : b.frames.length ≤ 128) (tag : Tag) :
    ∃ next, b.feed (.start tag) = some next ∧ next.frames = tag :: b.frames :=
  Option.map_eq_some_iff.mp ((b.frames_feed (.start tag)).trans (if_pos room))

theorem feed_finish (innermost : b.frames = tag :: tags) (nested : tags ≠ []) :
    ∃ next, b.feed (.finish tag.name) = some next ∧ next.frames = tags := by
  obtain ⟨parent, outer, rfl⟩ := List.exists_cons_of_ne_nil nested
  refine Option.map_eq_some_iff.mp ((b.frames_feed (.finish tag.name)).trans ?_)
  rw [innermost]
  exact if_pos rfl

theorem feed_beside (b : Building) (opens : e.opens = false) (closes : e.closes = false) :
    ∃ next, b.feed e = some next ∧ next.frames = b.frames := by
  refine Option.map_eq_some_iff.mp ((b.frames_feed e).trans ?_)
  cases e with
  | start => cases opens
  | finish => cases closes
  | _ => rfl

theorem run_cons (b : Building) (e : Event) (rest : List Event) :
    b.run (e :: rest) = (b.feed e).bind fun next => next.run rest := by
  rw [run]
  cases b.feed e <;> rfl

theorem run_append (b : Building) (events others : List Event) :
    b.run (events ++ others) = (b.run events).bind fun next => next.run others := by
  induction events generalizing b with
  | nil => rfl
  | cons e rest ih =>
    rw [List.cons_append, run_cons, run_cons, Option.bind_assoc]
    exact Option.bind_congr fun next _ => ih next

/-- Whether events may come where there are that many frames without more than 128 elements ever being
open. -/
def Room (count : Nat) (events : List Event) : Prop :=
  ∀ before, before <+: events → count + before.countP Event.opens ≤ before.countP Event.closes + 129

section Room

variable {count count' : Nat} {before after : List Event}

theorem Room.ahead (room : Room count (before ++ after)) : Room count before :=
  fun start within => room start (within.trans (List.prefix_append before after))

theorem Room.behind (before : List Event) (room : Room count (before ++ after))
    (shift : count + before.countP Event.opens = count' + before.countP Event.closes) : Room count' after := by
  intro start within
  have bound := room (before ++ start) ((List.prefix_append_right_inj before).mpr within)
  rw [List.countP_append, List.countP_append] at bound
  omega

end Room

/-- Nested events are taken where there is room, and leave the same elements open. -/
theorem run_of_balanced (balanced : Balanced events) (room : Room b.frames.length events) :
    ∃ next, b.run events = some next ∧ next.frames = b.frames := by
  induction balanced generalizing b with
  | nil => exact ⟨b, rfl, rfl⟩
  | @beside e rest opens closes _ ih =>
    obtain ⟨b', fed, same⟩ := b.feed_beside opens closes
    have room' : Room b'.frames.length rest := room.behind [e] (by simp [opens, closes, same])
    obtain ⟨next, built, frames⟩ := ih room'
    exact ⟨next, by rw [run_cons, fed, Option.bind_some, built], frames.trans same⟩
  | @element tag inside rest balanced _ ihInside ihRest =>
    have deep : b.frames.length ≤ 128 := by
      have := room [.start tag] (by simp)
      simp only [List.countP_singleton, Event.opens, Event.closes] at this
      simp at this
      omega
    obtain ⟨b₁, fed₁, frames₁⟩ := feed_start deep tag
    have room₁ : Room b₁.frames.length (inside ++ .finish tag.name :: rest) :=
      room.behind [.start tag] (by simp [frames₁, Event.opens, Event.closes])
    obtain ⟨b₂, run₂, frames₂⟩ := ihInside room₁.ahead
    obtain ⟨b₃, fed₃, frames₃⟩ := feed_finish (frames₂.trans frames₁) (by simp [frames])
    have room₃ : Room b₃.frames.length rest := by
      refine Room.behind (inside ++ [.finish tag.name]) (by simpa using room₁) ?_
      rw [List.countP_append, List.countP_append, balanced.countP_eq, frames₁, frames₃]
      simp [Event.opens, Event.closes]
      omega
    obtain ⟨next, run₄, frames₄⟩ := ihRest room₃
    refine ⟨next, ?_, frames₄.trans frames₃⟩
    rw [run_cons, fed₁, Option.bind_some, run_append, run₂, Option.bind_some, run_cons, fed₃,
      Option.bind_some, run₄]

/-- Behind events there are as many frames more as they open elements more than they close. -/
theorem frames_length_run (built : b.run events = some next) :
    next.frames.length + events.countP Event.closes = b.frames.length + events.countP Event.opens := by
  induction events generalizing b with
  | nil =>
    cases built
    rfl
  | cons e rest ih =>
    rw [run_cons] at built
    obtain ⟨b', fed, onward⟩ := Option.bind_eq_some_iff.mp built
    have counted := ih onward
    obtain ⟨tag, rfl, -, frames⟩ | ⟨tag, rfl, frames⟩ | ⟨opens, closes, frames⟩ := feed_cases fed
    · rw [frames] at counted
      simp [List.countP_cons, Event.opens, Event.closes] at counted ⊢
      omega
    · have lengths : b.frames.length = b'.frames.length + 1 := by rw [frames, List.length_cons]
      simp [List.countP_cons, Event.opens, Event.closes] at counted ⊢
      omega
    · simp only [List.countP_cons, opens, closes, ← frames]
      exact counted

theorem deep_run (built : b.run events = some next) (deep : b.frames.length ≤ 129) :
    next.frames.length ≤ 129 := by
  induction events generalizing b with
  | nil =>
    cases built
    exact deep
  | cons e rest ih =>
    rw [run_cons] at built
    obtain ⟨b', fed, onward⟩ := Option.bind_eq_some_iff.mp built
    refine ih onward ?_
    obtain ⟨tag, -, room, frames⟩ | ⟨tag, -, frames⟩ | ⟨-, -, frames⟩ := feed_cases fed
    · rw [frames, List.length_cons]
      omega
    · rw [frames, List.length_cons] at deep
      omega
    · rwa [frames]

/-- Events that are taken never open more than 128 elements. -/
theorem room_of_run (built : b.run events = some next) (deep : b.frames.length ≤ 129) :
    Room b.frames.length events := by
  rintro before ⟨after, rfl⟩
  rw [run_append] at built
  obtain ⟨b', front, -⟩ := Option.bind_eq_some_iff.mp built
  have counted := frames_length_run front
  have bound := deep_run front deep
  omega

/-- Events behind which nothing is open close what is open before them. -/
theorem unwinds_of_run {root root' : Tag} (opened : b.frames = tags ++ [root])
    (built : b.run events = some next) (closed : next.frames = [root']) : Unwinds tags events := by
  induction events generalizing b tags with
  | nil =>
    cases built
    obtain rfl : tags = [] := by
      rw [opened] at closed
      exact (List.append_eq_singleton_iff.mp closed).elim And.left fun both => absurd both.2 (by simp)
    exact .last .nil
  | cons e rest ih =>
    rw [run_cons] at built
    obtain ⟨b', fed, onward⟩ := Option.bind_eq_some_iff.mp built
    obtain ⟨tag, rfl, -, frames⟩ | ⟨tag, rfl, frames⟩ | ⟨opens, closes, frames⟩ := feed_cases fed
    · have unwinds : Unwinds (tag :: tags) rest := ih (by rw [frames, opened, List.cons_append]) onward
      cases unwinds with
      | close inside others => exact .element inside others
    · cases tags with
      | nil =>
        have none := (List.cons.inj (opened.symm.trans frames)).2
        exact absurd none.symm (List.cons_ne_nil _ _)
      | cons innermost tags =>
        obtain ⟨rfl, frames'⟩ := List.cons.inj (opened.symm.trans frames)
        exact .close .nil (ih frames'.symm onward)
    · exact (ih (frames.trans opened) onward).beside opens closes

end Building

section Document

variable {events : List Event}

theorem document?_eq_some_iff {document : Element} : document? events = some document ↔
    ∃ b, Building.start.run events = some b ∧ b.outer = [] ∧ document = ⟨b.inner.tag, b.inner.children.reverse⟩ ∧
      document.elements ≠ [] := by
  rw [document?]
  split
  next root held built =>
    have answers (e : Element) : (if e.elements.isEmpty then none else some e) = some document ↔
        document = e ∧ document.elements ≠ [] := by
      cases none : e.elements.isEmpty with
      | true =>
        rw [List.isEmpty_iff] at none
        simp only [if_true, reduceCtorEq, false_iff]
        rintro ⟨rfl, filled⟩
        exact filled none
      | false =>
        have filled : e.elements ≠ [] := by simpa using none
        simp only [Bool.false_eq_true, if_false, Option.some_inj, eq_comm (a := e), iff_self_and]
        rintro rfl
        exact filled
    rw [built, answers]
    simp only [Option.some_inj]
    constructor
    · rintro ⟨rfl, filled⟩
      exact ⟨_, rfl, rfl, rfl, filled⟩
    · rintro ⟨_, rfl, -, rfl, filled⟩
      exact ⟨rfl, filled⟩
  next other =>
    constructor
    · intro none
      cases none
    · rintro ⟨⟨inner, outer, held⟩, built, rfl, -⟩
      exact absurd built (other inner held)

theorem map_fst_stretches (events : List Event) :
    (stretches events).2.map Prod.fst = events.filter Event.isTag := by
  induction events with
  | nil => rfl
  | cons e rest ih =>
    cases tag : e.isTag with
    | true => rw [stretches_tag rest tag, List.map_cons, ih, List.filter_cons_of_pos tag]
    | false => rw [stretches_plain rest tag, ih, List.filter_cons_of_neg (by simp [tag])]

theorem opening_mem_spoken {tag : Tag} :
    .opening tag ∈ spoken events ↔ .start tag ∈ events ∨ .empty tag ∈ events := by
  have said (e : Event) : .opening tag ∈ e.tagSigns ↔ e = .start tag ∨ e = .empty tag := by
    cases e <;> simp [Event.tagSigns, eq_comm]
  calc .opening tag ∈ spoken events
      ↔ ∃ e ∈ (stretches events).2.map Prod.fst, .opening tag ∈ e.tagSigns := by
        simp [spoken]
    _ ↔ ∃ e ∈ events, e.isTag ∧ (e = .start tag ∨ e = .empty tag) := by
        simp only [map_fst_stretches, List.mem_filter, said, and_assoc]
    _ ↔ .start tag ∈ events ∨ .empty tag ∈ events := by
        constructor
        · rintro ⟨_, member, -, rfl | rfl⟩
          · exact .inl member
          · exact .inr member
        · rintro (member | member)
          · exact ⟨_, member, rfl, .inl rfl⟩
          · exact ⟨_, member, rfl, .inr rfl⟩

theorem elements_ne_nil_iff (e : Element) : e.elements ≠ [] ↔ ∃ tag, .opening tag ∈ signsOf e.children := by
  obtain ⟨tag, children⟩ := e
  change children.filterMap Node.element? ≠ [] ↔ _
  induction children with
  | nil => simp [signsOf]
  | cons node rest ih =>
    cases node with
    | text content => simpa [signsOf, Node.signs, Node.element?] using ih
    | element tag below => simp [signsOf, Node.signs, Node.element?]

/-- A document is built exactly from events whose tags nest, with no more than 128 elements open at any
place and with an element; and it is walked through as the events say. -/
theorem document?_walked (events : List Event) :
    ((document? events).isSome ↔ Balanced events ∧ Shallow events ∧
      ∃ tag, .start tag ∈ events ∨ .empty tag ∈ events) ∧
    ∀ document, document? events = some document → signsOf document.children = spoken events := by
  have walked {b : Building} (built : Building.start.run events = some b) (closed : b.outer = []) :
      signsOf b.inner.children.reverse = spoken events := by
    have written := Building.signs_run rfl built
    rw [Building.signs, closed] at written
    exact written.trans (spokenAfter_empty events)
  constructor
  case left =>
    constructor
    · intro answer
      obtain ⟨document, made⟩ := Option.isSome_iff_exists.mp answer
      obtain ⟨b, built, closed, rfl, filled⟩ := document?_eq_some_iff.mp made
      have unwinds : Unwinds [] events :=
        Building.unwinds_of_run rfl built (by rw [Building.frames, closed]; rfl)
      cases unwinds with
      | last balanced =>
        refine ⟨balanced, fun before within => ?_, ?_⟩
        · have bound := Building.room_of_run built (by decide) before within
          have one : Building.start.frames.length = 1 := rfl
          omega
        · obtain ⟨tag, opening⟩ := (elements_ne_nil_iff _).mp filled
          rw [walked built closed] at opening
          exact ⟨tag, opening_mem_spoken.mp opening⟩
    · rintro ⟨balanced, shallow, tag, occurs⟩
      have room : Building.Room Building.start.frames.length events := fun before within => by
        have bound := shallow before within
        have one : Building.start.frames.length = 1 := rfl
        omega
      obtain ⟨b, built, frames⟩ := Building.run_of_balanced balanced room
      have closed : b.outer = [] := List.map_eq_nil_iff.mp (List.cons.inj frames).2
      refine Option.isSome_iff_exists.mpr ⟨_, document?_eq_some_iff.mpr ⟨b, built, closed, rfl, ?_⟩⟩
      refine (elements_ne_nil_iff _).mpr ⟨tag, ?_⟩
      rw [walked built closed]
      exact opening_mem_spoken.mpr occurs
  case right =>
    intro document made
    obtain ⟨b, built, closed, rfl, -⟩ := document?_eq_some_iff.mp made
    exact walked built closed

theorem document?_walked_mixed :
    let events : List Event := [.text "\n".toList, .start ⟨"a", [("k", "v")]⟩, .text " ".toList,
      .reference "amp".toList, .text " ".toList, .aside, .cdata "x".toList, .text " ".toList, .empty ⟨"b", []⟩,
      .text "y ".toList, .reference "what".toList, .text " ".toList, .finish "a"]
    Balanced events ∧ Shallow events ∧ ∃ document, document? events = some document ∧
      signsOf document.children = [.opening ⟨"a", [("k", "v")]⟩, .char ' ', .char '&', .char ' ', .char 'x',
        .opening ⟨"b", []⟩, .closing "b", .char 'y', .char ' ', .closing "a"] := by
  intro events
  have answer : (document? events).isSome := by decide
  obtain ⟨accepted, walked⟩ := document?_walked events
  obtain ⟨balanced, shallow, -⟩ := accepted.mp answer
  obtain ⟨document, made⟩ := Option.isSome_iff_exists.mp answer
  refine ⟨balanced, shallow, document, made, (walked document made).trans ?_⟩
  decide

end Document

end RequestBook.Markup
