import Mathlib

/-! # Event Streams

    Server-sent events with one `data` field each, ended by a blank line, and
    a stream of them that ends with the event `[DONE]`.

    A payload without line breaks cannot be confused with the framing, so a
    stream of such payloads is parsed back, provided none of them is `[DONE]`
    itself (`parse_frames`).
-/

namespace EventStream

def frame (payload : String) : String := "data: " ++ payload ++ "\n\n"

/-- Cut at every blank line. The text after the last one is the last piece. -/
def split_events : List Char → List (List Char)
  | [] => [[]]
  | '\n' :: '\n' :: rest => [] :: split_events rest
  | c :: rest =>
    match split_events rest with
    | [] => [[c]]
    | event :: events => (c :: event) :: events

/-- The payload of an event. -/
def strip_data (event : List Char) : Option String :=
  if "data: ".toList.isPrefixOf event then
    some (String.ofList (event.drop "data: ".toList.length))
  else
    none

/-- Decode the payloads up to `[DONE]`, after which nothing may follow. -/
def read_events {β : Type} (decode : String → Option β) : List (List Char) → Option (List β)
  | [] => none
  | event :: events => do
    let payload ← strip_data event
    if payload = "[DONE]" then
      if events = [[]] then return [] else none
    else
      let v ← decode payload
      let vs ← read_events decode events
      return v :: vs

def parse {β : Type} (decode : String → Option β) (stream : String) : Option (List β) :=
  read_events decode (split_events stream.toList)

/-! ### Frames are parsed back -/

theorem split_events_append {payload : List Char} (h : '\n' ∉ payload) (rest : List Char) :
    split_events (payload ++ '\n' :: '\n' :: rest) = payload :: split_events rest := by
  induction payload with
  | nil => rfl
  | cons c payload ih =>
    have hc : c ≠ '\n' := fun hc => h (hc ▸ List.mem_cons_self ..)
    have hrest := ih (fun hmem => h (List.mem_cons_of_mem _ hmem))
    rw [List.cons_append, split_events, hrest]
    -- the two-character pattern needs a line break in front
    intro _ hbreak
    exact absurd hbreak hc

theorem strip_data_frame (payload : String) :
    strip_data ("data: ".toList ++ payload.toList) = some payload := by
  have hprefix : "data: ".toList.isPrefixOf ("data: ".toList ++ payload.toList) := by
    rw [List.isPrefixOf_iff_prefix]
    exact List.prefix_append _ _
  rw [strip_data, if_pos hprefix, List.drop_left, String.ofList_toList]

theorem split_events_frame {payload : String} (h : '\n' ∉ payload.toList) (rest : List Char) :
    split_events ((frame payload).toList ++ rest) =
      ("data: ".toList ++ payload.toList) :: split_events rest := by
  have hframe : (frame payload).toList ++ rest =
      ("data: ".toList ++ payload.toList) ++ '\n' :: '\n' :: rest := by
    simp [frame]
  have hdata : '\n' ∉ "data: ".toList := by decide
  rw [hframe, split_events_append]
  intro hmem
  rcases List.mem_append.mp hmem with hmem | hmem
  · exact hdata hmem
  · exact h hmem

/-- What makes a payload safe to send: no line break, not the terminator, and
    decoded to `v`. -/
structure Carries {β : Type} (decode : String → Option β) (payload : String) (v : β) : Prop where
  no_break : '\n' ∉ payload.toList
  not_done : payload ≠ "[DONE]"
  decoded : decode payload = some v

/-- **Round trip**: the frames of safe payloads and the terminator are parsed
    back to what the payloads carry. -/
theorem parse_frames {β : Type} {decode : String → Option β} {payloads : List String}
    {vs : List β} (h : List.Forall₂ (Carries decode) payloads vs) :
    parse decode (String.join (payloads.map frame ++ [frame "[DONE]"])) = some vs := by
  unfold parse
  rw [String.toList_join]
  induction h with
  | nil =>
    have hdone : '\n' ∉ "[DONE]".toList := by decide
    simp only [List.map_nil, List.nil_append, List.flatMap_cons, List.flatMap_nil]
    rw [split_events_frame hdone, read_events, strip_data_frame]
    rfl
  | @cons payload v payloads vs hcarries _ ih =>
    simp only [List.map_cons, List.cons_append, List.flatMap_cons]
    rw [split_events_frame hcarries.no_break, read_events, strip_data_frame]
    simp only [Option.bind_eq_bind, Option.bind_some, if_neg hcarries.not_done,
      hcarries.decoded, ih]
    rfl

end EventStream
