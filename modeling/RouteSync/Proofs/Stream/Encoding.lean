import RouteSync.Proofs.Stream.Decoder
import RouteSync.Proofs.Stream.Line

/-! Events that are written as lines are read as they were, whatever comments and idle fields stand
between their lines. -/
namespace RouteSync.Stream

open Text

section Lines

/-- Lines with their ends. -/
def written (ends : LineEnd) (lines : List (List UInt8)) : List UInt8 :=
  (lines.map (· ++ ends.returns)).flatMap (· ++ [lineFeed])

/-- The lines of an event: its name, its data line by line, and a blank one. -/
def RawEvent.lines (e : RawEvent) : List String :=
  fieldLine "event" e.name :: (cut '\n' e.data).map (fieldLine "data") ++ [""]

/-- Nothing in the event can be taken for a line end. -/
structure RawEvent.Encodable (e : RawEvent) : Prop where
  oneLine : '\n' ∉ e.name.toList
  name : e.name.toList.getLast? ≠ some '\r'
  data : ∀ piece ∈ cut '\n' e.data, piece.toList.getLast? ≠ some '\r'

/-- A line that says nothing of an event: a comment, or a field that is not read. -/
def IsIdle (line : List UInt8) : Prop :=
  lineFeed ∉ line ∧ (Utf8.bytes ":" <+: line ∨
    ∃ name ∈ ["id", "retry"], line = Utf8.bytes name ∨ Utf8.bytes (name ++ ":") <+: line)

instance : DecidablePred IsIdle := fun _ => inferInstanceAs (Decidable (_ ∧ _))

theorem bounded_lines {lines : List (List UInt8)} (h : ∀ line ∈ lines, lineFeed ∉ line) :
    Bounded (lines.flatMap (· ++ [lineFeed])) ↔ ∀ line ∈ lines, line.length ≤ maxLine := by
  induction lines with
  | nil => simp [bounded_nil]
  | cons line lines ih =>
    obtain ⟨hline, hlines⟩ := List.forall_mem_cons.1 h
    rw [List.flatMap_cons, List.append_assoc, List.singleton_append, bounded_append_cons hline,
      ih hlines, List.forall_mem_cons]

end Lines

namespace Decoder

variable {d : Decoder} {line : List UInt8} {lines : List (List UInt8)}

theorem after_of_notMem (hfits : d.overlong = false) (hline : lineFeed ∉ line)
    (hsize : d.line.size + line.length ≤ maxLine) :
    d.after line = { d with line := d.line ++ line } := by
  induction line generalizing d with
  | nil => simp [after]
  | cons b bytes ih =>
    obtain ⟨hb, hbytes⟩ := not_or.1 (mt List.mem_cons.2 hline)
    rw [List.length_cons] at hsize
    have hlt : d.line.size < maxLine := by omega
    have hfeed : (d.feed b).1 = { d with line := d.line.push b } := by
      simp [feed, hfits, Ne.symm hb, hlt]
    have hrest : (d.line.push b).size + bytes.length ≤ maxLine := by
      rw [Array.size_push]
      omega
    have hafter : d.after (b :: bytes) = (d.feed b).1.after bytes := rfl
    rw [hafter, hfeed, ih (d := { d with line := d.line.push b }) hfits hbytes hrest]
    simp

/-- No line is open. -/
structure AtStart (d : Decoder) : Prop where
  fits : d.overlong = false
  line : d.line = #[]

theorem AtStart.take (h : d.AtStart) (l : Line) : (d.take l).1.AtStart := by
  obtain ⟨hline, hfits⟩ := line_take d l
  exact ⟨hfits.trans h.fits, hline.trans h.line⟩

theorem AtStart.feed_line (h : d.AtStart) (hline : lineFeed ∉ line)
    (hsize : line.length ≤ maxLine) :
    d.after (line ++ [lineFeed]) = (d.take (.ofBytes line)).1 ∧
      d.found (line ++ [lineFeed]) = (d.take (.ofBytes line)).2.toList := by
  have hafter := after_of_notMem h.fits hline (by simpa [h.line] using hsize)
  have hstart : { d with line := #[] } = d := by rw [← h.line]
  have hfeed : (d.after line).feed lineFeed = d.take (.ofBytes line) := by
    rw [hafter, feed, if_neg (by simp [h.fits]), if_pos rfl]
    dsimp only
    rw [hstart, h.line]
    simp
  rw [after_append, found_append, found_of_notMem hline, ← hfeed]
  exact ⟨rfl, List.append_nil _⟩

/-- Takes complete lines one after another. -/
def takes (d : Decoder) : List (List UInt8) → Decoder × List RawEvent
  | [] => (d, [])
  | line :: lines =>
    let taken := d.take (.ofBytes line)
    let rest := taken.1.takes lines
    (rest.1, taken.2.toList ++ rest.2)

theorem AtStart.feed_lines (h : d.AtStart) (hlines : ∀ line ∈ lines, lineFeed ∉ line)
    (hsizes : ∀ line ∈ lines, line.length ≤ maxLine) :
    d.after (lines.flatMap (· ++ [lineFeed])) = (d.takes lines).1 ∧
      d.found (lines.flatMap (· ++ [lineFeed])) = (d.takes lines).2 := by
  induction lines generalizing d with
  | nil => exact ⟨rfl, rfl⟩
  | cons line lines ih =>
    obtain ⟨hline, hlines⟩ := List.forall_mem_cons.1 hlines
    obtain ⟨hsize, hsizes⟩ := List.forall_mem_cons.1 hsizes
    obtain ⟨hafter, hfound⟩ := h.feed_line hline hsize
    obtain ⟨hrest, hmore⟩ := ih (h.take (.ofBytes line)) hlines hsizes
    rw [List.flatMap_cons, after_append, found_append, hafter, hfound, hrest, hmore]
    exact ⟨rfl, rfl⟩

theorem takes_append (d : Decoder) (lines more : List (List UInt8)) :
    d.takes (lines ++ more) =
      (((d.takes lines).1.takes more).1,
        (d.takes lines).2 ++ ((d.takes lines).1.takes more).2) := by
  induction lines generalizing d with
  | nil => rfl
  | cons line lines ih => simp [takes, ih]

section Idle

theorem take_of_isIdle (h : IsIdle line) (ends : LineEnd) (d : Decoder) :
    d.take (.ofBytes (line ++ ends.returns)) = (d, none) := by
  have hfield {name : String} (hname : name ∈ ["id", "retry"]) (value : String) :
      d.take (.field name value) = (d, none) := by
    rcases List.mem_pair.1 hname with rfl | rfl <;> rfl
  obtain ⟨-, ⟨rest, rfl⟩ | ⟨name, hname, rfl | ⟨rest, rfl⟩⟩⟩ := h
  · rw [List.append_assoc, Line.ofBytes_comment]
    rfl
  · have hshort : name.toList.getLast? ≠ some '\r' ∧ Line.ofChars name.toList = .field name "" := by
      rcases List.mem_pair.1 hname with rfl | rfl <;> decide
    rw [Line.ofBytes_text hshort.1, hshort.2, hfield hname]
  · have hplain : name ≠ "" ∧ ':' ∉ name.toList ∧ '\r' ∉ name.toList := by
      rcases List.mem_pair.1 hname with rfl | rfl <;> decide
    obtain ⟨hne, hcolon, hreturn⟩ := hplain
    obtain ⟨value, hvalue⟩ := Line.ofBytes_field hne hcolon hreturn (rest ++ ends.returns)
    rw [List.append_assoc, hvalue, hfield hname]

/-- Idle lines leave no trace. -/
theorem takes_filter (d : Decoder) (lines : List (List UInt8)) (ends : LineEnd) :
    d.takes (lines.map (· ++ ends.returns)) =
      d.takes ((lines.filter (¬ IsIdle ·)).map (· ++ ends.returns)) := by
  induction lines generalizing d with
  | nil => rfl
  | cons line lines ih =>
    by_cases hidle : IsIdle line
    · rw [List.filter_cons_of_neg (by simpa using hidle), ← ih, List.map_cons, takes,
        take_of_isIdle hidle]
      rfl
    · rw [List.filter_cons_of_pos (by simpa using hidle), List.map_cons, List.map_cons, takes,
        takes, ih]

end Idle

section Events

variable {e : RawEvent} {events : List RawEvent}

theorem takes_data {pieces : List String}
    (h : ∀ piece ∈ pieces, piece.toList.getLast? ≠ some '\r') (ends : LineEnd)
    (name : Option String) (before : List String) :
    takes { name, data := before }
        (((pieces.map (fieldLine "data")).map Utf8.bytes).map (· ++ ends.returns)) =
      ({ name, data := pieces.reverse ++ before }, []) := by
  induction pieces generalizing before with
  | nil => rfl
  | cons piece pieces ih =>
    obtain ⟨hpiece, hpieces⟩ := List.forall_mem_cons.1 h
    have hline : Line.ofBytes (Utf8.bytes (fieldLine "data" piece) ++ ends.returns) =
        .field "data" piece := Line.ofBytes_fieldLine (by decide) (by decide) hpiece ends
    have htake : take { name, data := before } (.field "data" piece) =
        ({ name, data := piece :: before }, none) := rfl
    rw [List.map_cons, List.map_cons, List.map_cons, takes, hline, htake]
    dsimp only
    rw [ih hpieces]
    simp

/-- The lines of an event make the event, and the decoder is as it was before them. -/
theorem takes_lines (h : e.Encodable) (ends : LineEnd) :
    takes {} ((e.lines.map Utf8.bytes).map (· ++ ends.returns)) = ({}, [e]) := by
  have hname : Line.ofBytes (Utf8.bytes (fieldLine "event" e.name) ++ ends.returns) =
      .field "event" e.name := Line.ofBytes_fieldLine (by decide) (by decide) h.name ends
  have hblank : Line.ofBytes (Utf8.bytes "" ++ ends.returns) = .blank := by
    rw [Line.ofBytes_text (by decide)]
    rfl
  have htake : take {} (.field "event" e.name) = ({ name := some e.name }, none) := rfl
  have hdata : "\n".intercalate (cut '\n' e.data) = e.data := join_cut '\n' e.data
  have hend : take { name := some e.name, data := (cut '\n' e.data).reverse } .blank =
      ({}, some e) := by
    simp [take, dispatch?, hdata]
  rw [RawEvent.lines, List.cons_append, List.map_cons, List.map_cons, takes, hname, htake]
  dsimp only
  rw [List.map_append, List.map_append, takes_append, takes_data h.data, List.append_nil]
  dsimp only
  rw [List.map_singleton, List.map_singleton, takes, hblank, hend]
  rfl

theorem takes_events (h : ∀ e ∈ events, e.Encodable) (ends : LineEnd) :
    takes {} (((events.flatMap RawEvent.lines).map Utf8.bytes).map (· ++ ends.returns)) =
      ({}, events) := by
  induction events with
  | nil => rfl
  | cons e events ih =>
    obtain ⟨he, hevents⟩ := List.forall_mem_cons.1 h
    rw [List.flatMap_cons, List.map_append, List.map_append, takes_append, takes_lines he,
      ih hevents]
    rfl

end Events

end Decoder

theorem RawEvent.Encodable.lineFeed_notMem {e : RawEvent} (h : e.Encodable) {line : String}
    (hline : line ∈ e.lines) : lineFeed ∉ Utf8.bytes line := by
  intro hmem
  have hfeed : '\n' ∈ line.toList := Utf8.mem_of_mem_bytes (by decide) hmem
  have hfield {name value : String} (hmem : '\n' ∈ (fieldLine name value).toList)
      (hname : '\n' ∉ name.toList) : '\n' ∈ value.toList := by
    simpa [fieldLine, hname] using hmem
  rcases List.mem_append.1 hline with hline | hline
  · rcases List.mem_cons.1 hline with rfl | hline
    · exact h.oneLine (hfield hfeed (by decide))
    · obtain ⟨piece, hpiece, rfl⟩ := List.mem_map.1 hline
      exact notMem_of_mem_cut hpiece (hfield hfeed (by decide))
  · rw [List.mem_singleton.1 hline] at hfeed
    simp at hfeed

theorem lineFeed_notMem_of_events {events : List RawEvent} (hevents : ∀ e ∈ events, e.Encodable)
    {lines : List (List UInt8)}
    (hlines : lines.filter (¬ IsIdle ·) = (events.flatMap RawEvent.lines).map Utf8.bytes)
    {line : List UInt8} (hline : line ∈ lines) : lineFeed ∉ line := by
  by_cases hidle : IsIdle line
  · exact hidle.1
  · have hmem : line ∈ lines.filter (¬ IsIdle ·) :=
      List.mem_filter.2 ⟨hline, by simpa using hidle⟩
    rw [hlines] at hmem
    obtain ⟨s, hs, rfl⟩ := List.mem_map.1 hmem
    obtain ⟨e, he, hs⟩ := List.mem_flatMap.1 hs
    exact (hevents e he).lineFeed_notMem hs

/-- Events that are written are read, in their order and no others, and leave no trace, however the
stream is cut into chunks. A carriage return counts as part of the line that it ends. -/
theorem Decoder.pushes_written {events : List RawEvent} (hevents : ∀ e ∈ events, e.Encodable)
    {lines : List (List UInt8)}
    (hlines : lines.filter (¬ IsIdle ·) = (events.flatMap RawEvent.lines).map Utf8.bytes)
    (ends : LineEnd)
    (hsizes : ∀ line ∈ (written ends lines).splitOn lineFeed, line.length ≤ maxLine)
    {chunks : List (List UInt8)} (hchunks : chunks.flatten = written ends lines) :
    ∃ parts : List (List RawEvent),
      pushes {} chunks = ({}, parts.map some) ∧ parts.flatten = events := by
  have hfeeds : ∀ line ∈ lines.map (· ++ ends.returns), lineFeed ∉ line := by
    refine List.forall_mem_map.2 fun line hline hmem => ?_
    have hreturns : lineFeed ∉ ends.returns := by cases ends <;> decide
    exact (List.mem_append.1 hmem).elim (lineFeed_notMem_of_events hevents hlines hline) hreturns
  have hstart : AtStart {} := ⟨rfl, rfl⟩
  obtain ⟨hafter, hfound⟩ := hstart.feed_lines hfeeds ((bounded_lines hfeeds).1 hsizes)
  rw [takes_filter, hlines, takes_events hevents] at hafter hfound
  have hfits : (after {} chunks.flatten).overlong = false := by
    rw [hchunks, written, hafter]
  obtain ⟨parts, hpushes, hparts⟩ := pushes_of_fits hfits
  rw [hchunks] at hpushes hparts
  exact ⟨parts, hpushes.trans (by rw [written, hafter]), hparts.trans hfound⟩

/-- An event without name and data and one of three lines, with a cut inside a character. -/
theorem Decoder.pushes_written_among_idle_lines :
    ∃ parts : List (List RawEvent),
      pushes {} [Utf8.bytes ": hi\r\nevent: \r\nid\r\ndata: \r\n\r\nid: 4\r\n",
          Utf8.bytes "event:  a: b\r\ndata:  " ++ [0xC3],
          0xA9 :: Utf8.bytes "\r\ndata: \r\nretry:3\r\ndata: :y\r\n\r\n:\r\n"] =
        ({}, parts.map some) ∧
      parts.flatten = [⟨"", ""⟩, ⟨" a: b", " é\n\n:y"⟩] := by
  have hevents : ∀ e ∈ [RawEvent.mk "" "", ⟨" a: b", " é\n\n:y"⟩], e.Encodable := by
    intro e he
    rcases List.mem_pair.1 he with rfl | rfl <;> exact ⟨by decide, by decide, by decide⟩
  let lines := [": hi", "event: ", "id", "data: ", "", "id: 4", "event:  a: b", "data:  é",
    "data: ", "retry:3", "data: :y", "", ":"].map Utf8.bytes
  have hlines : lines.filter (¬ IsIdle ·) =
      ([RawEvent.mk "" "", ⟨" a: b", " é\n\n:y"⟩].flatMap RawEvent.lines).map Utf8.bytes := by
    decide +kernel
  exact pushes_written hevents hlines .returnFeed (by decide +kernel) (by decide +kernel)

end RouteSync.Stream
