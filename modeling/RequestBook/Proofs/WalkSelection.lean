import RequestBook.Markup.Query
import RequestBook.Proofs.ElementPlaces
import RequestBook.Proofs.TagNesting

/-! What a query can see of a document: its tags, and the characters between them. Two documents that are
walked through in the same way give the same text for every query, however their character data is cut
into pieces. -/
namespace RequestBook.Markup

/-- The signs before and behind the closing tag of the element that was opened `depth` elements further out. -/
def cutInside (depth : Nat) : List Sign → List Sign × List Sign
  | [] => ([], [])
  | .opening tag :: rest =>
    let (inside, behind) := cutInside (depth + 1) rest
    (.opening tag :: inside, behind)
  | .char c :: rest =>
    let (inside, behind) := cutInside depth rest
    (.char c :: inside, behind)
  | .closing name :: rest =>
    match depth with
    | 0 => ([], rest)
    | depth + 1 =>
      let (inside, behind) := cutInside depth rest
      (.closing name :: inside, behind)

theorem length_cutInside_le (depth : Nat) (signs : List Sign) :
    (cutInside depth signs).2.length ≤ signs.length := by
  fun_induction cutInside depth signs <;> simp_all <;> omega

/-- What is seen of an element: its tag, and the walk inside it. -/
abbrev Sight : Type := Tag × List Sign

/-- The characters and elements of a walk that lie in no other element. -/
def items : List Sign → List (Char ⊕ Sight)
  | [] => []
  | .opening tag :: rest => .inr (tag, (cutInside 0 rest).1) :: items (cutInside 0 rest).2
  | .char c :: rest => .inl c :: items rest
  | .closing _ :: rest => items rest
termination_by signs => signs.length
decreasing_by
  · exact Nat.lt_succ_of_le (length_cutInside_le 0 rest)
  · exact Nat.lt_succ_self _
  · exact Nat.lt_succ_self _

def Sign.char? : Sign → Option Char
  | .char c => some c
  | _ => none

def Element.sight (e : Element) : Sight := (e.tag, signsOf e.children)

mutual

theorem Node.cutInside_signs (depth : Nat) (rest : List Sign) : (node : Node) →
    cutInside depth (node.signs ++ rest) = (node.signs ++ (cutInside depth rest).1, (cutInside depth rest).2)
  | .text content => by
    rw [Node.signs]
    induction content with
    | nil => rfl
    | cons c content ih => simp only [List.map_cons, List.cons_append, cutInside, ih]
  | .element tag children => by
    simp [Node.signs, cutInside, cutInside_signsOf (depth + 1) _ children]

theorem cutInside_signsOf (depth : Nat) (rest : List Sign) : (nodes : List Node) →
    cutInside depth (signsOf nodes ++ rest) =
      (signsOf nodes ++ (cutInside depth rest).1, (cutInside depth rest).2)
  | [] => rfl
  | node :: nodes => by
    rw [signsOf, List.append_assoc, node.cutInside_signs, cutInside_signsOf depth rest nodes, List.append_assoc]

end

/-- The walk inside an element ends at its closing tag. -/
theorem cutInside_closing (nodes : List Node) (name : String) (rest : List Sign) :
    cutInside 0 (signsOf nodes ++ .closing name :: rest) = (signsOf nodes, rest) := by
  rw [cutInside_signsOf, cutInside, List.append_nil]

mutual

theorem Node.filterMap_signs : (node : Node) → node.signs.filterMap Sign.char? = node.textContent
  | .text content => by simp [Node.signs, Node.textContent, List.filterMap_map, Function.comp_def, Sign.char?]
  | .element tag children => by
    simp [Node.signs, Node.textContent, List.filterMap_cons, Sign.char?, filterMap_signsOf children]

theorem filterMap_signsOf : (nodes : List Node) → (signsOf nodes).filterMap Sign.char? = textOf nodes
  | [] => rfl
  | node :: nodes => by rw [signsOf, List.filterMap_append, node.filterMap_signs, filterMap_signsOf nodes, textOf]

end

def Node.items : Node → List (Char ⊕ Sight)
  | .text content => content.map .inl
  | .element tag children => [.inr (tag, signsOf children)]

theorem items_signsOf (nodes : List Node) : items (signsOf nodes) = nodes.flatMap Node.items := by
  induction nodes with
  | nil => simp [signsOf, items]
  | cons node rest ih =>
    rw [signsOf, List.flatMap_cons, ← ih]
    cases node with
    | text content =>
      rw [Node.signs, Node.items]
      induction content with
      | nil => rfl
      | cons c content inner => rw [List.map_cons, List.cons_append, Markup.items, inner]; rfl
    | element tag children =>
      simp [Node.signs, Node.items, Markup.items, cutInside_closing]

namespace Element

theorem map_sight_elements (e : Element) :
    e.elements.map sight = (items (signsOf e.children)).filterMap Sum.getRight? := by
  rw [items_signsOf, elements]
  induction e.children with
  | nil => rfl
  | cons node rest ih =>
    cases node with
    | text content =>
      simpa [Node.element?, Node.items, List.filterMap_cons, List.filterMap_map, Function.comp_def] using ih
    | element tag children => simpa [Node.element?, Node.items, sight, List.filterMap_cons] using ih

theorem ownText_eq (e : Element) : e.ownText = (items (signsOf e.children)).filterMap Sum.getLeft? := by
  rw [items_signsOf, ownText]
  induction e.children with
  | nil => rfl
  | cons node rest ih =>
    cases node with
    | text content => simpa [Node.ownText, Node.items, List.filterMap_map, Function.comp_def] using ih
    | element tag children => simpa [Node.ownText, Node.items, List.filterMap_cons] using ih

theorem textContent_eq (e : Element) : e.textContent = (signsOf e.children).filterMap Sign.char? :=
  (filterMap_signsOf e.children).symm

end Element

section Alike

variable {e e' : Element} {found found' : List Element}

/-- Steps that see the same go on from what looks the same. -/
theorem flatMap_sight {step step' : Element → List Element}
    (alike : found.map Element.sight = found'.map Element.sight)
    (steps : ∀ c ∈ found, ∀ c', c.sight = c'.sight → (step c).map Element.sight = (step' c').map Element.sight) :
    (found.flatMap step).map Element.sight = (found'.flatMap step').map Element.sight := by
  induction found generalizing found' with
  | nil =>
    obtain rfl := List.map_eq_nil_iff.mp alike.symm
    rfl
  | cons c rest ih =>
    obtain ⟨c', rest', rfl, first, others⟩ := List.map_eq_cons_iff.mp alike.symm
    obtain ⟨step₀, steps'⟩ := List.forall_mem_cons.mp steps
    rw [List.flatMap_cons, List.flatMap_cons, List.map_append, List.map_append, step₀ c' first.symm,
      ih others.symm steps']

theorem filter_sight (alike : found.map Element.sight = found'.map Element.sight) (seen : Sight → Bool) :
    (found.filter fun c => seen c.sight).map Element.sight =
      (found'.filter fun c => seen c.sight).map Element.sight := by
  have filtered (found : List Element) : (found.filter fun c => seen c.sight).map Element.sight =
      (found.map Element.sight).filter seen := List.filter_map.symm
  rw [filtered, filtered, alike]

theorem elements_sight (alike : e.sight = e'.sight) :
    e.elements.map Element.sight = e'.elements.map Element.sight := by
  rw [e.map_sight_elements, e'.map_sight_elements, (Prod.mk.inj alike).2]

theorem descendants_sight {e e' : Element} (alike : e.sight = e'.sight) :
    e.descendants.map Element.sight = e'.descendants.map Element.sight := by
  rw [e.descendants_eq, e'.descendants_eq]
  refine flatMap_sight (elements_sight alike) fun c member c' same => ?_
  have := Element.sizeOf_lt member
  rw [List.map_cons, List.map_cons, same, descendants_sight same]
termination_by sizeOf e

theorem candidates_sight (axis : Axis) (alike : e.sight = e'.sight) :
    (axis.candidates e).map Element.sight = (axis.candidates e').map Element.sight := by
  cases axis with
  | child => exact elements_sight alike
  | descendant => exact descendants_sight alike

theorem keep_sight (p : Predicate) (alike : found.map Element.sight = found'.map Element.sight) :
    (p.keep found).map Element.sight = (p.keep found').map Element.sight := by
  cases p with
  | position n => simp only [Predicate.keep, List.map_take, List.map_drop, alike]
  | attributeEquals name value => exact filter_sight alike fun sight => sight.1.attribute? name == some value

theorem selectFrom_sight (axis : Axis) (test : String) (p : Option Predicate) (alike : e.sight = e'.sight) :
    (selectFrom axis test p e).map Element.sight = (selectFrom axis test p e').map Element.sight := by
  have matching := filter_sight (candidates_sight axis alike) fun sight => passes test sight.1.name
  cases p with
  | none => exact matching
  | some p => exact keep_sight p matching

theorem head?_sight {α : Type} (alike : found.map Element.sight = found'.map Element.sight) (read : Sight → α) :
    (found.head?.map fun e => read e.sight) = found'.head?.map fun e => read e.sight := by
  have heads (found : List Element) :
      (found.head?.map fun e => read e.sight) = (found.map Element.sight).head?.map read := by
    rw [List.head?_map, Option.map_map]
    rfl
  rw [heads, heads, alike]

/-- A query answers the same from elements that look the same. -/
theorem select?_sight (steps : List Step) (alike : found.map Element.sight = found'.map Element.sight) :
    select? found steps = select? found' steps := by
  induction steps generalizing found found' with
  | nil =>
    simp only [select?, funext Element.textContent_eq]
    exact head?_sight alike fun sight => sight.2.filterMap Sign.char?
  | cons step rest ih =>
    cases step with
    | «attribute» name =>
      have named (found : List Element) : (found.findSome? fun e => e.tag.attribute? name) =
          (found.map Element.sight).findSome? fun sight => sight.1.attribute? name := by
        rw [List.findSome?_map]
        rfl
      rw [select?, select?, named, named, alike]
    | text =>
      simp only [select?, funext Element.ownText_eq]
      exact head?_sight alike fun sight => (items sight.2).filterMap Sum.getLeft?
    | element axis test p =>
      have onward : (found.flatMap (selectFrom axis test p)).map Element.sight =
          (found'.flatMap (selectFrom axis test p)).map Element.sight :=
        flatMap_sight alike fun c _ c' same => selectFrom_sight axis test p same
      rw [select?, select?]
      generalize found.flatMap (selectFrom axis test p) = next at onward ⊢
      generalize found'.flatMap (selectFrom axis test p) = next' at onward ⊢
      cases next with
      | nil =>
        obtain rfl := List.map_eq_nil_iff.mp onward.symm
        rfl
      | cons c others =>
        obtain ⟨c', others', rfl, -⟩ := List.map_eq_cons_iff.mp onward.symm
        exact ih onward

end Alike

namespace Building

/-- Which elements are open depends on the tags alone. -/
theorem frames_run (b : Building) (events : List Event) :
    (b.run events).map frames = (events.filter Event.isTag).foldlM framesAfter b.frames := by
  induction events generalizing b with
  | nil => rfl
  | cons e rest ih =>
    rw [run_cons, Option.map_bind]
    cases tag : e.isTag with
    | true =>
      rw [List.filter_cons_of_pos tag, List.foldlM_cons, ← frames_feed, Option.bind_eq_bind, Option.bind_map]
      exact Option.bind_congr fun next _ => ih next
    | false =>
      have beside : framesAfter b.frames e = some b.frames := by cases e <;> first | rfl | cases tag
      obtain ⟨next, fed, same⟩ := Option.map_eq_some_iff.mp ((b.frames_feed e).trans beside)
      rw [List.filter_cons_of_neg (by simp [tag]), fed, Option.bind_some, Function.comp_apply, ih, same]

end Building

/-- Events with the same tags and the same walk make up documents that look the same. -/
theorem document?_sight {events events' : List Event}
    (tags : events.filter Event.isTag = events'.filter Event.isTag)
    (walk : spoken events = spoken events') :
    (document? events).map Element.sight = (document? events').map Element.sight := by
  have made {events events' : List Event} (tags : events.filter Event.isTag = events'.filter Event.isTag)
      (walk : spoken events = spoken events') {e : Element} (answer : document? events = some e) :
      ∃ e', document? events' = some e' ∧ e'.sight = e.sight := by
    obtain ⟨b, built, closed, rfl, filled⟩ := document?_eq_some_iff.mp answer
    have frames : (Building.start.run events').map Building.frames = some b.frames := by
      rw [Building.frames_run, ← tags, ← Building.frames_run, built, Option.map_some]
    obtain ⟨b', built', frames'⟩ := Option.map_eq_some_iff.mp frames
    obtain ⟨tag, outer⟩ := List.cons.inj frames'
    have closed' : b'.outer = [] := by rwa [closed, List.map_nil, List.map_eq_nil_iff] at outer
    have signs : b'.signs = b.signs := by
      rw [Building.signs_run rfl built, Building.signs_run rfl built']
      exact congrArg _ (by rw [Building.start, spokenAfter_empty, spokenAfter_empty, walk])
    rw [Building.signs, Building.signs, closed, closed'] at signs
    refine ⟨_, document?_eq_some_iff.mpr ⟨b', built', closed', rfl, ?_⟩, Prod.ext tag signs⟩
    rw [elements_ne_nil_iff] at filled ⊢
    obtain ⟨tag', opening⟩ := filled
    refine ⟨tag', ?_⟩
    change .opening tag' ∈ signsWithin b'.inner []
    rw [signs]
    exact opening
  ext sight
  simp only [Option.map_eq_some_iff]
  constructor
  · rintro ⟨e, answer, rfl⟩
    exact made tags walk answer
  · rintro ⟨e, answer, rfl⟩
    exact made tags.symm walk.symm answer

theorem select?_document {events events' : List Event}
    (tags : events.filter Event.isTag = events'.filter Event.isTag)
    (walk : spoken events = spoken events') (steps : List Step) :
    (document? events).bind (fun e => select? [e] steps) =
      (document? events').bind fun e => select? [e] steps := by
  have seen := document?_sight tags walk
  cases answer : document? events with
  | none =>
    rw [answer] at seen
    rw [Option.map_eq_none_iff.mp seen.symm]
  | some e =>
    rw [answer] at seen
    obtain ⟨e', answer', same⟩ := Option.map_eq_some_iff.mp seen.symm
    rw [answer', Option.bind_some, Option.bind_some]
    exact select?_sight steps (by rw [List.map_singleton, List.map_singleton, same])

theorem extract?_eq {body : List Char} {events : List Event} (read : events? body = some events)
    (path : List Char) :
    extract? body path = (query? path).bind fun steps => (document? events).bind fun e => select? [e] steps := by
  rw [extract?, parse?, read, Option.bind_some]
  rfl

/-- Bodies with the same tags and the same walk give the same text for every query. -/
theorem extract?_congr {body body' : List Char} {events events' : List Event} (read : events? body = some events)
    (read' : events? body' = some events') (tags : events.filter Event.isTag = events'.filter Event.isTag)
    (walk : spoken events = spoken events') (path : List Char) : extract? body path = extract? body' path := by
  rw [extract?_eq read, extract?_eq read']
  exact Option.bind_congr fun steps _ => select?_document tags walk steps

end RequestBook.Markup
