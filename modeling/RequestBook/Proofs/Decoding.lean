import Mathlib
import RequestBook.Document.Encoding
import RequestBook.Proofs.JsonText
import RequestBook.Proofs.Positions

/-! Decoding request books. Every part of a book is taken back from the value that it was encoded as,
and the value is read back from its text. Nothing but the places of requests and findings is a number,
and these are no larger than the text that was read, so they fit in 64 bits. -/
namespace RequestBook

open Text

namespace Json

theorem mapM_map {α β : Type} {encode : α → β} {decode : β → Option α} {items : List α}
    (back : ∀ a ∈ items, decode (encode a) = some a) : (items.map encode).mapM decode = some items := by
  induction items with
  | nil => rfl
  | cons a rest ih =>
    obtain ⟨first, others⟩ := List.forall_mem_cons.mp back
    simp [first, ih others]

theorem list?_map {α : Type} {encode : α → Json} {decode : Json → Option α} {items : List α}
    (back : ∀ a ∈ items, decode (encode a) = some a) :
    list? decode (.array (items.map encode)) = some items := mapM_map back

theorem list?_ofStrings (texts : List String) : list? string? (ofStrings texts) = some texts :=
  list?_map fun _ _ => rfl

theorem option?_ofOption {α : Type} {encode : α → Json} {decode : Json → Option α}
    (present : ∀ a, encode a ≠ .null) (back : ∀ a, decode (encode a) = some a) (value : Option α) :
    option? decode (ofOption encode value) = some value := by
  cases value with
  | none => rfl
  | some a =>
    unfold option?
    split
    next absent => exact absurd absent (present a)
    next => simp [ofOption, back]

theorem option?_string (value : Option String) :
    option? string? (ofOption .string value) = some value := by
  apply option?_ofOption
  · intro text absent
    cases absent
  · intro text
    rfl

theorem nat?_ofNat {n : Nat} (small : n < unsignedLimit) : nat? (ofNat n) = some n := by
  simp [nat?, ofNat, small]

theorem lt_of_nat? {value : Json} {n : Nat} (read : nat? value = some n) : n < unsignedLimit := by
  unfold nat? at read
  split at read
  next whole =>
    split at read
    next bounds =>
      cases read
      exact (Int.toNat_lt bounds.1).mpr bounds.2
    next => cases read
  next => cases read

/-- A number among the fields. The decoder is not unfolded, since its bound is large. -/
theorem member?_ofNat {value : Json} {name : String} {n : Nat} (listed : value.field? name = some (ofNat n))
    (small : n < unsignedLimit) : value.member? name nat? = some n := by
  rw [member?, listed, Option.bind_some, nat?_ofNat small]

end Json

theorem Severity.ofJson?_string (s : Severity) : Severity.ofJson? (.string s.jsonName) = some s := by
  cases s <;> decide

theorem Code.ofJson?_string (c : Code) : Code.ofJson? (.string c.jsonName) = some c := by
  cases c <;> decide

theorem Diagnostic.ofJson?_toJson {d : Diagnostic} (line : d.line < unsignedLimit)
    (column : d.column < unsignedLimit) : ofJson? d.toJson = some d := by
  have atLine : d.toJson.member? "line" Json.nat? = some d.line :=
    Json.member?_ofNat (by simp [toJson, Json.field?]) line
  have atColumn : d.toJson.member? "column" Json.nat? = some d.column :=
    Json.member?_ofNat (by simp [toJson, Json.field?]) column
  rw [ofJson?, atLine, atColumn]
  simp [toJson, Json.member?, Json.field?, Json.string?, Code.ofJson?_string, Severity.ofJson?_string]

theorem Body.ofJson?_toJson (b : Body) : ofJson? b.toJson = some b := by
  cases b <;> rfl

theorem Variables.ofJson?_toJson (bindings : Variables) :
    Variables.ofJson? (Variables.toJson bindings) = some bindings := by
  have entries : (bindings.entries.map fun entry => (entry.1, Json.string entry.2)).mapM
      Variables.entryOfJson? = some bindings.entries := Json.mapM_map fun _ _ => rfl
  rw [Variables.toJson, Variables.ofJson?, entries, Option.map_some, Roster.ofList_entries]

theorem Headers.ofJson?_toJson (headers : Headers) :
    Headers.ofJson? (Headers.toJson headers) = some headers := by
  have entries : (headers.entries.map fun entry =>
      (foldName entry.1, Json.array [.string entry.1, .string entry.2])).mapM Headers.entryOfJson? =
        some headers.entries := by
    refine Json.mapM_map fun entry _ => ?_
    simp [Headers.entryOfJson?]
  simp [Headers.toJson, Headers.ofJson?, Json.field?, entries, Roster.ofList_entries]

theorem Request.ofJson?_toJson {r : Request} (line : r.line < unsignedLimit) :
    ofJson? r.toJson = some r := by
  have body : Json.option? Body.ofJson? (Json.ofOption Body.toJson r.body) = some r.body :=
    Json.option?_ofOption (fun b absent => by cases b <;> cases absent) Body.ofJson?_toJson r.body
  have atLine : r.toJson.member? "line_number" Json.nat? = some r.line :=
    Json.member?_ofNat (by simp [toJson, Json.field?]) line
  rw [ofJson?, atLine]
  simp [toJson, Json.member?, Json.field?, Json.string?, Json.bool?, Json.option?_string,
    Json.list?_ofStrings, Headers.ofJson?_toJson, body, Variables.ofJson?_toJson]

/-- Every part of a document is taken back. -/
theorem Document.ofJson?_toJson {d : Document} (within : d.Within unsignedLimit) :
    ofJson? d.toJson = some d := by
  have requests : Json.list? Request.ofJson? (.array (d.requests.map Request.toJson)) = some d.requests :=
    Json.list?_map fun r member => Request.ofJson?_toJson (within.requests r member)
  have diagnostics : Json.list? Diagnostic.ofJson? (.array (d.diagnostics.map Diagnostic.toJson)) =
      some d.diagnostics :=
    Json.list?_map fun x member =>
      Diagnostic.ofJson?_toJson (within.lines x member) (within.columns x member)
  simp [ofJson?, toJson, Json.member?, Json.field?, Json.string?, Variables.ofJson?_toJson, requests,
    diagnostics]

section Readable

open Json

theorem Json.readable_ofNat {n : Nat} (small : n < unsignedLimit) {depth : Nat} :
    Readable depth (ofNat n) := by
  apply Readable.integer
  · omega
  · exact Int.ofNat_lt.mpr small

theorem Json.readable_ofOption {α : Type} {encode : α → Json} {depth : Nat}
    (each : ∀ a, Readable depth (encode a)) (value : Option α) : Readable depth (ofOption encode value) := by
  cases value with
  | none => exact .null
  | some a => exact each a

theorem Json.readable_map {α : Type} {encode : α → Json} {depth : Nat} {items : List α}
    (each : ∀ a ∈ items, Readable depth (encode a)) : Readable (depth + 1) (.array (items.map encode)) := by
  apply Readable.array
  intro item member
  obtain ⟨a, inside, rfl⟩ := List.mem_map.mp member
  exact each a inside

theorem Diagnostic.readable {d : Diagnostic} (line : d.line < unsignedLimit)
    (column : d.column < unsignedLimit) {depth : Nat} : Readable (depth + 1) d.toJson := by
  apply Readable.object
  rw [← List.forall_iff_forall_mem]
  exact ⟨.string _, .string _, .string _, readable_ofNat line, readable_ofNat column⟩

theorem Body.readable (b : Body) {depth : Nat} : Readable (depth + 1) b.toJson := by
  cases b <;> exact .object (List.forall_mem_singleton.mpr (.string _))

theorem Variables.readable (bindings : Variables) {depth : Nat} :
    Readable (depth + 1) (Variables.toJson bindings) := by
  apply Readable.object
  intro field member
  obtain ⟨entry, _, rfl⟩ := List.mem_map.mp member
  exact .string _

theorem Headers.readable (headers : Headers) : Readable 3 (Headers.toJson headers) := by
  have entry : ∀ name value : String, Readable 1 (.array [.string name, .string value]) := by
    intro name value
    apply Readable.array
    rw [← List.forall_iff_forall_mem]
    exact ⟨.string _, .string _⟩
  apply Readable.object
  rw [List.forall_mem_singleton]
  apply Readable.object
  intro field member
  obtain ⟨pair, _, rfl⟩ := List.mem_map.mp member
  exact entry pair.1 pair.2

theorem Request.readable {r : Request} (line : r.line < unsignedLimit) : Readable 4 r.toJson := by
  have texts : ∀ texts : List String, Readable 3 (ofStrings texts) := fun texts =>
    readable_map fun text _ => .string text
  have optional : ∀ text : Option String, Readable 3 (ofOption .string text) :=
    readable_ofOption .string
  apply Readable.object
  rw [← List.forall_iff_forall_mem]
  exact ⟨.string _, .string _, optional _, optional _, optional _, readable_ofNat line, texts _,
    Headers.readable _, readable_ofOption (fun b => b.readable) _, Variables.readable _, texts _, .bool _⟩

/-- The headers of a request are where the arrays and objects of a document are nested most. -/
theorem Document.readable {d : Document} (within : d.Within unsignedLimit) : Readable 6 d.toJson := by
  apply Readable.object
  rw [← List.forall_iff_forall_mem]
  refine ⟨.string _, Variables.readable _, ?_, ?_⟩
  · exact readable_map fun r member => Request.readable (within.requests r member)
  · exact readable_map fun x member => Diagnostic.readable (within.lines x member) (within.columns x member)

end Readable

namespace Document

/-- A document that was read is decoded from its own encoding, with everything in the same order. The
encoding is a JSON text for the value with these fields in their order, and of the characters in its
strings those are escaped that are quotes, backslashes or control characters. A text in memory has fewer
characters than a signed number of 64 bits can count. -/
theorem decode?_encode {table : MethodTable} {path content : String} {d : Document}
    (parsed : parse table path content = .ok d) (sized : content.length < signedLimit) :
    decode? d.encode = some d ∧ Json.parse? d.encode.toList = some d.toJson ∧
      ∀ c, Json.escape c = [c] ↔ c ≠ '"' ∧ c ≠ '\\' ∧ 0x20 ≤ c.toNat := by
  have fits : content.length + 1 < unsignedLimit := by
    simp only [signedLimit, unsignedLimit] at sized ⊢
    omega
  have within : d.Within unsignedLimit := within_of_parse parsed fits
  have text : Json.parse? d.encode.toList = some d.toJson := by
    rw [encode, Json.compact, String.toList_ofList, Json.parse?_write (readable within) (by decide)]
  refine ⟨?_, text, fun c => Json.escape_eq_self_iff⟩
  rw [decode?, text, Option.bind_some, ofJson?_toJson within]

def quoting : String := "@a = \"\\\x01é\nGET /\nB: b\n\nx"

def quotingBook : Document :=
  { Document.empty "book" with
    bindings := .ofList [("a", "\"\\\x01é")]
    requests := [{ Request.ofLine "GET" "/" 2 with
      headers := .ofList [("B", "b")], body := some (.inline "x") }] }

theorem parse_quoting : parse .standard "book" quoting = .ok quotingBook := by
  have read : Document.read .standard "book" quoting = quotingBook := by cbv
  exact congrArg Except.ok read

theorem decode?_encode_quoting : parse .standard "book" quoting = .ok quotingBook ∧
    quoting.length < signedLimit ∧
    (Variables.toJson quotingBook.bindings).compact = "\x7b\"a\":\"\\\"\\\\\\u0001é\"\x7d" ∧
    decode? quotingBook.encode = some quotingBook ∧
    Json.parse? quotingBook.encode.toList = some quotingBook.toJson ∧
    ∀ c, Json.escape c = [c] ↔ c ≠ '"' ∧ c ≠ '\\' ∧ 0x20 ≤ c.toNat := by
  have sized : quoting.length < signedLimit := by decide
  exact ⟨parse_quoting, sized, by decide +kernel, decode?_encode parse_quoting sized⟩

end Document

end RequestBook
