import Mathlib.Tactic.ByContra
import RouteSync.Stream.Decoder

/-! What a decoder makes of a stream does not depend on how the stream is cut into chunks, and it
goes wrong for an overlong line only. -/
namespace RouteSync.Stream

/-- No line is too long, the open one at the end included. -/
def Bounded (bytes : List UInt8) : Prop :=
  ∀ line ∈ bytes.splitOn lineFeed, line.length ≤ maxLine

theorem bounded_iff_of_notMem {line : List UInt8} (h : lineFeed ∉ line) :
    Bounded line ↔ line.length ≤ maxLine := by
  rw [Bounded, List.splitOn_eq_singleton h]
  exact List.forall_mem_singleton

theorem bounded_nil : Bounded [] := (bounded_iff_of_notMem List.not_mem_nil).2 (Nat.zero_le _)

theorem bounded_append_cons {line : List UInt8} (h : lineFeed ∉ line) (rest : List UInt8) :
    Bounded (line ++ lineFeed :: rest) ↔ line.length ≤ maxLine ∧ Bounded rest := by
  rw [Bounded, List.splitOn_append_cons_self_of_not_mem h]
  exact List.forall_mem_cons

/-- Bytes without a line feed are the start of one line, whatever follows them. -/
theorem splitOn_append_of_notMem {start : List UInt8} (h : lineFeed ∉ start) (rest : List UInt8) :
    ∃ more lines, (start ++ rest).splitOn lineFeed = (start ++ more) :: lines := by
  by_cases hmem : lineFeed ∈ rest
  · obtain ⟨more, after, rfl, hmore⟩ := List.eq_append_cons_of_mem hmem
    have hline : lineFeed ∉ start ++ more := by simp [h, hmore]
    refine ⟨more, after.splitOn lineFeed, ?_⟩
    rw [← List.append_assoc, List.splitOn_append_cons_self_of_not_mem hline]
  · exact ⟨rest, [], List.splitOn_eq_singleton (by simp [h, hmem])⟩

theorem Bounded.length_le {start rest : List UInt8} (h : Bounded (start ++ rest))
    (hstart : lineFeed ∉ start) : start.length ≤ maxLine := by
  obtain ⟨more, lines, hsplit⟩ := splitOn_append_of_notMem hstart rest
  have hfirst : (start ++ more).length ≤ maxLine := h _ (by rw [hsplit]; exact List.mem_cons_self)
  rw [List.length_append] at hfirst
  omega

namespace Decoder

/-- The decoder after some bytes. -/
def after (d : Decoder) (bytes : List UInt8) : Decoder :=
  bytes.foldl (fun d b => (d.feed b).1) d

/-- The events that end within some bytes. -/
def found (d : Decoder) : List UInt8 → List RawEvent
  | [] => []
  | b :: bytes => (d.feed b).2.toList ++ found (d.feed b).1 bytes

theorem foldl_feedInto (d : Decoder) (before : List RawEvent) (bytes : List UInt8) :
    bytes.foldl feedInto (d, before) = (d.after bytes, (d.found bytes).reverse ++ before) := by
  induction bytes generalizing d before with
  | nil => rfl
  | cons b bytes ih =>
    have hone : feedInto (d, before) b = ((d.feed b).1, (d.feed b).2.toList ++ before) := by
      unfold feedInto
      cases hb : d.feed b with
      | mk d' event? => cases event? <;> rfl
    rw [List.foldl_cons, hone, ih]
    cases hb : (d.feed b).2 <;> simp [found, after, hb]

theorem push_eq (d : Decoder) (chunk : List UInt8) :
    d.push chunk = (d.after chunk,
      if (d.after chunk).overlong then none else some (d.found chunk)) := by
  simp [push, foldl_feedInto]

theorem found_of_notMem {bytes : List UInt8} (h : lineFeed ∉ bytes) (d : Decoder) :
    d.found bytes = [] := by
  induction bytes generalizing d with
  | nil => rfl
  | cons b bytes ih =>
    obtain ⟨hb, hbytes⟩ := not_or.1 (mt List.mem_cons.2 h)
    have hfeed : (d.feed b).2 = none := by
      unfold feed
      rw [if_neg (Ne.symm hb)]
      split
      · rfl
      · split <;> rfl
    rw [found, hfeed, ih hbytes]
    rfl

theorem after_append (d : Decoder) (bytes more : List UInt8) :
    d.after (bytes ++ more) = (d.after bytes).after more :=
  List.foldl_append

theorem found_append (d : Decoder) (bytes more : List UInt8) :
    d.found (bytes ++ more) = d.found bytes ++ (d.after bytes).found more := by
  induction bytes generalizing d with
  | nil => rfl
  | cons b bytes ih =>
    simp only [List.cons_append, found, ih, List.append_assoc]
    rfl

theorem after_of_overlong {d : Decoder} (h : d.overlong = true) (bytes : List UInt8) :
    d.after bytes = d := by
  induction bytes with
  | nil => rfl
  | cons b bytes ih =>
    have hfeed : (d.feed b).1 = d := by rw [feed, if_pos h]
    rw [after, List.foldl_cons, hfeed]
    exact ih

theorem overlong_of_append {d : Decoder} {bytes more : List UInt8}
    (h : (d.after (bytes ++ more)).overlong = false) : (d.after bytes).overlong = false := by
  cases hb : (d.after bytes).overlong with
  | false => rfl
  | true =>
    rw [after_append, after_of_overlong hb, hb] at h
    cases h

/-- A decoder that no overlong line has stopped. -/
structure Live (d : Decoder) : Prop where
  fits : d.overlong = false
  size_le : d.line.size ≤ maxLine
  notMem : lineFeed ∉ d.line.toList

theorem live_start : Live {} := ⟨rfl, Nat.zero_le _, List.not_mem_nil⟩

theorem line_take (d : Decoder) (l : Line) :
    (d.take l).1.line = d.line ∧ (d.take l).1.overlong = d.overlong := by
  cases l with
  | blank => exact ⟨rfl, rfl⟩
  | comment => exact ⟨rfl, rfl⟩
  | field name value =>
    dsimp only [take]
    split
    · exact ⟨rfl, rfl⟩
    · split <;> exact ⟨rfl, rfl⟩

namespace Live

variable {d : Decoder}

theorem feed_lineFeed (h : d.Live) :
    (d.feed lineFeed).1.Live ∧ (d.feed lineFeed).1.line = #[] := by
  have hfeed : d.feed lineFeed = { d with line := #[] }.take (.ofBytes d.line.toList) := by
    simp [feed, h.fits]
  obtain ⟨hline, hfits⟩ := line_take { d with line := #[] } (.ofBytes d.line.toList)
  rw [hfeed]
  refine ⟨⟨hfits.trans h.fits, ?_, ?_⟩, hline⟩ <;> rw [hline]
  · exact Nat.zero_le _
  · exact List.not_mem_nil

theorem feed_of_lt (h : d.Live) {b : UInt8} (hb : b ≠ lineFeed) (hlt : d.line.size < maxLine) :
    (d.feed b).1.Live ∧ (d.feed b).1.line = d.line.push b := by
  have hfeed : d.feed b = ({ d with line := d.line.push b }, none) := by
    simp [feed, h.fits, hb, hlt]
  rw [hfeed]
  refine ⟨⟨h.fits, ?_, ?_⟩, rfl⟩
  · simpa using Nat.succ_le_of_lt hlt
  · simp [h.notMem, Ne.symm hb]

theorem feed_of_full (h : d.Live) {b : UInt8} (hb : b ≠ lineFeed) (hfull : d.line.size = maxLine) :
    (d.feed b).1.overlong = true := by
  simp [feed, h.fits, hb, hfull]

/-- A decoder is stopped by a line that is too long, and by nothing else. -/
theorem after_iff (h : d.Live) (bytes : List UInt8) :
    (Bounded (d.line.toList ++ bytes) → (d.after bytes).Live) ∧
      (¬ Bounded (d.line.toList ++ bytes) → (d.after bytes).overlong = true) := by
  induction bytes generalizing d with
  | nil =>
    refine ⟨fun _ => h, fun hlong => absurd ?_ hlong⟩
    rw [List.append_nil, bounded_iff_of_notMem h.notMem]
    simpa using h.size_le
  | cons b bytes ih =>
    have hafter : d.after (b :: bytes) = (d.feed b).1.after bytes := rfl
    rw [hafter]
    by_cases hb : b = lineFeed
    · subst hb
      obtain ⟨hlive, hline⟩ := h.feed_lineFeed
      have hbounded : Bounded (d.line.toList ++ lineFeed :: bytes) ↔ Bounded bytes := by
        rw [bounded_append_cons h.notMem]
        exact and_iff_right (by simpa using h.size_le)
      rw [hbounded]
      simpa [hline] using ih hlive
    · by_cases hlt : d.line.size < maxLine
      · obtain ⟨hlive, hline⟩ := h.feed_of_lt hb hlt
        simpa [hline] using ih hlive
      · have hfull : d.line.size = maxLine := Nat.le_antisymm h.size_le (Nat.le_of_not_lt hlt)
        have hstop := h.feed_of_full hb hfull
        have hlong : ¬ Bounded (d.line.toList ++ b :: bytes) := fun hbounded => by
          rw [List.append_cons] at hbounded
          have hle := hbounded.length_le (by simp [h.notMem, Ne.symm hb])
          have hlen : (d.line.toList ++ [b]).length = maxLine + 1 := by simp [hfull]
          omega
        refine ⟨fun hbounded => absurd hbounded hlong, fun _ => ?_⟩
        rw [after_of_overlong hstop, hstop]

theorem overlong_iff (h : d.Live) (bytes : List UInt8) :
    (d.after bytes).overlong = false ↔ Bounded (d.line.toList ++ bytes) := by
  obtain ⟨hlive, hstop⟩ := h.after_iff bytes
  constructor
  · intro hfits
    by_contra hlong
    rw [hstop hlong] at hfits
    cases hfits
  · exact fun hbounded => (hlive hbounded).fits

end Live

/-- The decoders that pushes lead to as long as they succeed. -/
inductive Reached : Decoder → Prop
  | start : Reached {}
  | push {d d' : Decoder} {chunk : List UInt8} {events : List RawEvent} (h : Reached d)
      (hpush : d.push chunk = (d', some events)) : Reached d'

theorem Reached.live {d : Decoder} (h : Reached d) : d.Live := by
  induction h with
  | start => exact live_start
  | @push d d' chunk events _ hpush ih =>
    rw [push_eq, Prod.mk.injEq] at hpush
    obtain ⟨rfl, hevents⟩ := hpush
    have hfits : (d.after chunk).overlong = false := by
      cases hlong : (d.after chunk).overlong with
      | false => rfl
      | true => simp [hlong] at hevents
    exact (ih.after_iff chunk).1 ((ih.overlong_iff chunk).1 hfits)

/-- Pushes one chunk after another, whatever comes of each. -/
def pushes (d : Decoder) : List (List UInt8) → Decoder × List (Option (List RawEvent))
  | [] => (d, [])
  | chunk :: chunks =>
    let (d, events) := d.push chunk
    let (d, more) := pushes d chunks
    (d, events :: more)

theorem pushes_cons (d : Decoder) (chunk : List UInt8) (chunks : List (List UInt8)) :
    d.pushes (chunk :: chunks) =
      (((d.push chunk).1.pushes chunks).1,
        (d.push chunk).2 :: ((d.push chunk).1.pushes chunks).2) :=
  rfl

theorem after_pushes (d : Decoder) (chunks : List (List UInt8)) :
    (d.pushes chunks).1 = d.after chunks.flatten := by
  induction chunks generalizing d with
  | nil => rfl
  | cons chunk chunks ih => rw [pushes_cons, ih, push_eq, List.flatten_cons, after_append]

/-- As long as no line is too long, all pushes succeed and find what one push finds. -/
theorem pushes_of_fits {d : Decoder} {chunks : List (List UInt8)}
    (h : (d.after chunks.flatten).overlong = false) :
    ∃ parts : List (List RawEvent),
      d.pushes chunks = (d.after chunks.flatten, parts.map some) ∧
        parts.flatten = d.found chunks.flatten := by
  induction chunks generalizing d with
  | nil => exact ⟨[], rfl, rfl⟩
  | cons chunk chunks ih =>
    rw [List.flatten_cons] at h ⊢
    have hchunk := overlong_of_append h
    rw [after_append] at h
    obtain ⟨parts, hpushes, hparts⟩ := ih h
    refine ⟨d.found chunk :: parts, ?_, ?_⟩
    · simp [pushes, push_eq d chunk, hchunk, hpushes, after_append]
    · rw [List.flatten_cons, hparts, found_append]

/-- However a stream without overlong lines is cut into chunks, every push succeeds, and together
they find the same events and leave the same decoder as one push of all of it. -/
theorem Reached.pushes_eq_push {d : Decoder} (h : Reached d) {bytes : List UInt8}
    (hbytes : ∀ line ∈ (d.line.toList ++ bytes).splitOn lineFeed, line.length ≤ maxLine)
    {chunks : List (List UInt8)} (hchunks : chunks.flatten = bytes) :
    ∃ (d' : Decoder) (parts : List (List RawEvent)),
      d.pushes chunks = (d', parts.map some) ∧ d.push bytes = (d', some parts.flatten) := by
  subst hchunks
  have hfits := (h.live.overlong_iff chunks.flatten).2 hbytes
  obtain ⟨parts, hpushes, hparts⟩ := pushes_of_fits hfits
  refine ⟨d.after chunks.flatten, parts, hpushes, ?_⟩
  rw [push_eq, hfits, hparts]
  rfl

/-- Cuts within a character and within a line end. -/
theorem event_through_cuts :
    ∃ d, Reached d ∧ d.line = #[100, 97, 116, 97, 58, 0xC3] ∧
      ∃ (d' : Decoder) (parts : List (List RawEvent)),
      d.pushes [[0xA9, 13], [], [10, 10]] = (d', parts.map some) ∧
        d.push [0xA9, 13, 10, 10] = (d', some parts.flatten) ∧
        parts.flatten = [⟨"message", "é"⟩] := by
  have hstart : Decoder.push {} [100, 97, 116, 97, 58, 0xC3] =
      ({ line := #[100, 97, 116, 97, 58, 0xC3] }, some []) := by decide +kernel
  have hreached := Reached.start.push hstart
  have hbytes : ∀ line ∈ ((#[100, 97, 116, 97, 58, 0xC3] : Array UInt8).toList ++
      [0xA9, 13, 10, 10]).splitOn lineFeed, line.length ≤ maxLine := by decide +kernel
  have hcut : [[0xA9, 13], [], [10, 10]].flatten = ([0xA9, 13, 10, 10] : List UInt8) := rfl
  obtain ⟨d', parts, hpushes, hpush⟩ := hreached.pushes_eq_push hbytes hcut
  have hfound : (Decoder.push { line := #[100, 97, 116, 97, 58, 0xC3] } [0xA9, 13, 10, 10]).2 =
      some [⟨"message", "é"⟩] := by decide +kernel
  rw [hpush] at hfound
  exact ⟨_, hreached, rfl, d', parts, hpushes, hpush, Option.some.inj hfound⟩

end Decoder
end RouteSync.Stream
