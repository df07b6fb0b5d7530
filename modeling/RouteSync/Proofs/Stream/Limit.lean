import Mathlib.Data.List.ReduceOption
import RouteSync.Proofs.Stream.Encoding
import RouteSync.Proofs.Stream.Subscription
import RouteSync.Proofs.Text.Split

/-! A decoder that looks for line ends in a buffer, and leaves an overlong line in it with all that
follows. It answers as the one that reads byte by byte, and both fail for good with the first chunk
that makes a line too long. -/
namespace RouteSync.Stream

open Text

/-- The bytes that are not read yet, and the fields of an open event, the data last first. -/
structure Buffer where
  bytes : List UInt8 := []
  name : Option String := none
  data : List String := []
  deriving DecidableEq, Inhabited

namespace Buffer

/-- Reads complete lines one after another. At an overlong one, complete or still open, it stops in
front of it, and the events found so far are lost. -/
def drain (b : Buffer) : Buffer × Option (List RawEvent) :=
  match _h : splitFirst? lineFeed b.bytes with
  | none => (b, if maxLine < b.bytes.length then none else some [])
  | some (line, rest) =>
    if maxLine < line.length then (b, none)
    else
      let (d, event?) := ({ name := b.name, data := b.data } : Decoder).take (.ofBytes line)
      let (b, events?) := drain ⟨rest, d.name, d.data⟩
      (b, events?.map (event?.toList ++ ·))
termination_by b.bytes.length
decreasing_by
  rw [append_of_splitFirst? _h, List.length_append, List.length_cons]
  omega

def push (b : Buffer) (chunk : List UInt8) : Buffer × Option (List RawEvent) :=
  { b with bytes := b.bytes ++ chunk }.drain

/-- Pushes one chunk after another, whatever comes of each. -/
def pushes (b : Buffer) : List (List UInt8) → Buffer × List (Option (List RawEvent))
  | [] => (b, [])
  | chunk :: chunks =>
    let (b, events) := b.push chunk
    let (b, more) := pushes b chunks
    (b, events :: more)

variable {b : Buffer} {line rest : List UInt8} {name : Option String} {data : List String}

theorem drain_of_notMem (h : lineFeed ∉ b.bytes) :
    b.drain = (b, if maxLine < b.bytes.length then none else some []) := by
  rw [drain]
  split
  · rfl
  · rename_i hsplit
    rw [splitFirst?_eq_none.2 h] at hsplit
    cases hsplit

theorem drain_append_cons (h : lineFeed ∉ line) :
    drain ⟨line ++ lineFeed :: rest, name, data⟩ =
      if maxLine < line.length then (⟨line ++ lineFeed :: rest, name, data⟩, none)
      else
        let taken := ({ name, data } : Decoder).take (.ofBytes line)
        let drained := drain ⟨rest, taken.1.name, taken.1.data⟩
        (drained.1, drained.2.map (taken.2.toList ++ ·)) := by
  rw [drain]
  split
  · rename_i hsplit
    rw [splitFirst?_append h] at hsplit
    cases hsplit
  · rename_i hsplit
    rw [splitFirst?_append h] at hsplit
    cases hsplit
    rfl

/-- An overlong line is never read, whatever comes after it. -/
theorem drain_of_long {long : List UInt8} (hbytes : b.bytes = long ++ rest)
    (hline : lineFeed ∉ long) (hlong : maxLine < long.length) : b.drain = (b, none) := by
  obtain ⟨bytes, name, data⟩ := b
  obtain rfl : bytes = long ++ rest := hbytes
  by_cases hmem : lineFeed ∈ rest
  · obtain ⟨more, rest, rfl, hmore⟩ := List.eq_append_cons_of_mem hmem
    have hwhole : maxLine < (long ++ more).length := by
      rw [List.length_append]
      omega
    rw [← List.append_assoc, drain_append_cons (by simp [hline, hmore]), if_pos hwhole]
  · have hwhole : maxLine < (long ++ rest).length := by
      rw [List.length_append]
      omega
    rw [drain_of_notMem (by simp [hline, hmem])]
    dsimp only
    rw [if_pos hwhole]

end Buffer

namespace Decoder.AtStart

variable {d : Decoder} {long : List UInt8}

theorem eq_of_fields (h : d.AtStart) : { name := d.name, data := d.data } = d := by
  obtain ⟨line, name, data, overlong⟩ := d
  obtain ⟨rfl, rfl⟩ := h
  rfl

theorem live (h : d.AtStart) : d.Live := ⟨h.fits, by simp [h.line], by simp [h.line]⟩

theorem overlong_after (h : d.AtStart) (hline : lineFeed ∉ long) (hlong : maxLine < long.length)
    (rest : List UInt8) : (d.after (long ++ rest)).overlong = true := by
  refine (h.live.after_iff _).2 fun hbounded => absurd hlong (Nat.not_lt.2 ?_)
  have hall : Bounded (long ++ rest) := by simpa [h.line] using hbounded
  exact hall.length_le hline

end Decoder.AtStart

namespace Buffer

/-- The buffer holds what the decoder has of an open line. Where the decoder has stopped, the line
that stopped it is still in the buffer. -/
inductive Shows : Buffer → Decoder → Prop
  | live {d : Decoder} (h : d.Live) : Shows ⟨d.line.toList, d.name, d.data⟩ d
  | stuck {b : Buffer} {d : Decoder} {long rest : List UInt8} (hstop : d.overlong = true)
      (hbytes : b.bytes = long ++ rest) (hline : lineFeed ∉ long) (hlong : maxLine < long.length) :
      Shows b d

/-- The buffer after a drain shows what the decoder has come to, and both answer the same. -/
def Agrees (drained : Buffer × Option (List RawEvent)) (d : Decoder) (bytes : List UInt8) : Prop :=
  Shows drained.1 (d.after bytes) ∧
    drained.2 = if (d.after bytes).overlong then none else some (d.found bytes)

variable {d : Decoder} {long bytes rest : List UInt8}

theorem agrees_of_long (h : d.AtStart) {b : Buffer} (hbytes : b.bytes = long ++ rest)
    (hline : lineFeed ∉ long) (hlong : maxLine < long.length) :
    Agrees (b, none) d (long ++ rest) := by
  have hstop := h.overlong_after hline hlong rest
  exact ⟨.stuck hstop hbytes hline hlong, by rw [hstop]; rfl⟩

theorem agrees_of_open (h : d.AtStart) (hopen : lineFeed ∉ bytes) (hle : bytes.length ≤ maxLine) :
    Agrees (⟨bytes, d.name, d.data⟩, some []) d bytes := by
  have hafter := Decoder.after_of_notMem h.fits hopen (by simpa [h.line] using hle)
  have hbounded : Bounded (d.line.toList ++ bytes) := by
    simpa [h.line] using (bounded_iff_of_notMem hopen).2 hle
  have hlive := (h.live.after_iff bytes).1 hbounded
  have hshows := Shows.live hlive
  refine ⟨?_, by rw [hlive.fits, Decoder.found_of_notMem hopen]; rfl⟩
  rw [hafter] at hshows ⊢
  simpa [h.line] using hshows

theorem agrees_drain (h : d.AtStart) (bytes : List UInt8) :
    Agrees (drain ⟨bytes, d.name, d.data⟩) d bytes := by
  induction hn : bytes.length using Nat.strongRecOn generalizing bytes d with
  | _ n ih =>
    by_cases hmem : lineFeed ∈ bytes
    · obtain ⟨line, rest, rfl, hline⟩ := List.eq_append_cons_of_mem hmem
      rw [drain_append_cons hline, h.eq_of_fields]
      by_cases hlong : maxLine < line.length
      · rw [if_pos hlong]
        exact agrees_of_long h rfl hline hlong
      · obtain ⟨hafter, hfound⟩ := h.feed_line hline (Nat.not_lt.1 hlong)
        have hlt : rest.length < n := by
          rw [← hn, List.length_append, List.length_cons]
          omega
        obtain ⟨hshows, hevents⟩ := ih rest.length hlt (h.take (.ofBytes line)) rest rfl
        rw [if_neg hlong, Agrees, List.append_cons, Decoder.after_append, Decoder.found_append,
          hafter, hfound]
        refine ⟨hshows, ?_⟩
        dsimp only
        rw [hevents]
        split <;> rfl
    · rw [drain_of_notMem hmem]
      by_cases hlong : maxLine < bytes.length
      · have hall := agrees_of_long h (b := ⟨bytes, d.name, d.data⟩) (List.append_nil bytes).symm
          hmem hlong
        rw [List.append_nil] at hall
        rwa [if_pos hlong]
      · rw [if_neg hlong]
        exact agrees_of_open h hmem (Nat.not_lt.1 hlong)

/-- A push keeps the buffer and the decoder together, whether it succeeds or fails. -/
theorem Shows.push {b : Buffer} (h : Shows b d) (chunk : List UInt8) :
    Shows (b.push chunk).1 (d.push chunk).1 ∧ (b.push chunk).2 = (d.push chunk).2 := by
  rw [Decoder.push_eq]
  cases h with
  | live h =>
    -- the decoder is where it gets from the start of its open line
    let start : Decoder := { d with line := #[] }
    have hstart : start.AtStart := ⟨h.fits, rfl⟩
    have hopen : start.after d.line.toList = d := by
      rw [Decoder.after_of_notMem hstart.fits h.notMem (by simpa [start] using h.size_le)]
      simp [start]
    have hagrees := agrees_drain hstart (d.line.toList ++ chunk)
    rw [Agrees, Decoder.after_append, Decoder.found_append, hopen,
      Decoder.found_of_notMem h.notMem] at hagrees
    exact hagrees
  | @stuck _ _ long rest hstop hbytes hline hlong =>
    have hall : b.bytes ++ chunk = long ++ (rest ++ chunk) := by
      rw [hbytes, List.append_assoc]
    rw [Decoder.after_of_overlong hstop, hstop, Buffer.push, drain_of_long hall hline hlong]
    exact ⟨.stuck hstop hall hline hlong, rfl⟩

theorem Shows.pushes {b : Buffer} (h : Shows b d) (chunks : List (List UInt8)) :
    Shows (b.pushes chunks).1 (d.pushes chunks).1 ∧ (b.pushes chunks).2 = (d.pushes chunks).2 := by
  induction chunks generalizing b d with
  | nil => exact ⟨h, rfl⟩
  | cons chunk chunks ih =>
    obtain ⟨hpush, hanswer⟩ := h.push chunk
    obtain ⟨hrest, hanswers⟩ := ih hpush
    exact ⟨hrest, congrArg₂ List.cons hanswer hanswers⟩

theorem shows_start : Shows {} {} := .live Decoder.live_start

theorem Shows.eq_of_fits {b : Buffer} (h : Shows b d) (hfits : d.overlong = false) :
    b = ⟨d.line.toList, d.name, d.data⟩ := by
  cases h with
  | live h => rfl
  | stuck hstop =>
    rw [hfits] at hstop
    cases hstop

/-- However what comes after some chunks is cut, the events and the buffer at its end are those of
one push of all of it, unless some line is too long. -/
theorem pushes_of_bounded {early chunks : List (List UInt8)}
    (h : Bounded (early.flatten ++ chunks.flatten)) :
    ∃ (b : Buffer) (parts : List (List RawEvent)),
      (pushes {} early).1.pushes chunks = (b, parts.map some) ∧
        (pushes {} early).1.push chunks.flatten = (b, some parts.flatten) := by
  obtain ⟨hshows, -⟩ := shows_start.pushes early
  rw [Decoder.after_pushes] at hshows
  have hfits : ((({} : Decoder).after early.flatten).after chunks.flatten).overlong = false := by
    rw [← Decoder.after_append]
    exact (Decoder.live_start.overlong_iff _).2 h
  obtain ⟨parts, hparts, hfound⟩ := Decoder.pushes_of_fits hfits
  obtain ⟨hcut, hanswers⟩ := hshows.pushes chunks
  obtain ⟨hwhole, hanswer⟩ := hshows.push chunks.flatten
  rw [hparts] at hcut hanswers
  rw [Decoder.push_eq, hfits, ← hfound] at hanswer
  rw [Decoder.push_eq] at hwhole
  exact ⟨_, parts, Prod.ext (hcut.eq_of_fits hfits) hanswers,
    Prod.ext (hwhole.eq_of_fits hfits) hanswer⟩

end Buffer

/-- A stream is within the limit as long as it is with more behind it. -/
theorem Bounded.of_append {bytes more : List UInt8} (h : Bounded (bytes ++ more)) :
    Bounded bytes :=
  (Decoder.live_start.overlong_iff bytes).1
    (Decoder.overlong_of_append ((Decoder.live_start.overlong_iff _).2 h))

namespace Decoder

variable {d : Decoder} {chunks : List (List UInt8)}

theorem pushes_append (d : Decoder) (early later : List (List UInt8)) :
    d.pushes (early ++ later) =
      (((d.pushes early).1.pushes later).1,
        (d.pushes early).2 ++ ((d.pushes early).1.pushes later).2) := by
  induction early generalizing d with
  | nil => rfl
  | cons chunk early ih => simp [pushes_cons, ih]

/-- A decoder that has stopped answers no push any more. -/
theorem pushes_of_overlong (h : d.overlong = true) (chunks : List (List UInt8)) :
    d.pushes chunks = (d, List.replicate chunks.length none) := by
  induction chunks with
  | nil => rfl
  | cons chunk chunks ih =>
    have hpush : d.push chunk = (d, none) := by
      rw [push_eq, after_of_overlong h, h]
      rfl
    rw [pushes_cons, hpush, ih]
    rfl

/-- A push fails if and only if it leaves the decoder stopped. -/
theorem push_eq_none_iff {chunk : List UInt8} :
    (d.push chunk).2 = none ↔ (d.push chunk).1.overlong = true := by
  rw [push_eq]
  dsimp only
  split <;> simp_all

/-- All chunks so far count, wherever they were cut. -/
theorem overlong_push_iff (chunks : List (List UInt8)) (chunk : List UInt8) :
    ((({} : Decoder).pushes chunks).1.push chunk).1.overlong = true ↔
      ¬ Bounded (chunks.flatten ++ chunk) := by
  rw [push_eq, after_pushes, ← after_append]
  refine (Bool.not_eq_false _).symm.to_iff.trans (not_congr ?_)
  exact live_start.overlong_iff _

/-- Whatever pushes answer in a stream with an overlong line comes before the first such line. -/
theorem exists_lost_of_pushes (h : ¬ Bounded chunks.flatten) :
    ∃ lost, (({} : Decoder).push (beforeOverlong chunks.flatten)).2 =
      some ((({} : Decoder).pushes chunks).2.reduceOption.flatten ++ lost) := by
  obtain ⟨-, -, -, -, -, hbefore, -⟩ := exists_overlong h
  have hfits : (({} : Decoder).after (beforeOverlong chunks.flatten)).overlong = false :=
    (live_start.overlong_iff _).2 hbefore
  obtain ⟨early, bad, later, rfl, hearly, hbad⟩ :=
    exists_first (P := fun chunks => Bounded chunks.flatten) bounded_nil h
  have hsplit : (early ++ bad :: later).flatten = early.flatten ++ (bad :: later).flatten :=
    List.flatten_append
  obtain ⟨lost, hlost⟩ := exists_lost (hsplit ▸ h) hearly {}
  obtain ⟨parts, hpushes, hparts⟩ := pushes_of_fits ((live_start.overlong_iff _).2 hearly)
  have hstop : ((({} : Decoder).pushes early).1.push bad).1.overlong = true := by
    rw [overlong_push_iff]
    simpa using hbad
  have hnone := push_eq_none_iff.2 hstop
  have hanswers : (({} : Decoder).pushes (early ++ bad :: later)).2 =
      parts.map some ++ none :: List.replicate later.length none := by
    rw [pushes_append, pushes_cons, hnone, pushes_of_overlong hstop, hpushes]
  have hevents : (({} : Decoder).pushes (early ++ bad :: later)).2.reduceOption = parts := by
    rw [hanswers, List.reduceOption_append, List.reduceOption_cons_of_none,
      List.reduceOption_replicate_none, List.append_nil]
    simp [List.reduceOption]
  refine ⟨lost, ?_⟩
  rw [hevents, hparts, push_eq, hfits, ← hlost, hsplit]
  rfl

end Decoder

/-- A push fails if and only if some line is too long by then, be it complete or still open. One
that succeeds keeps the start of an open line at most. After one that fails all others fail, and
what was answered at all comes before the first overlong line. A decoder with a buffer and one that
reads byte by byte agree in all of it. -/
theorem Buffer.push_fails_iff_overlong (chunks : List (List UInt8)) (chunk : List UInt8) :
    let b : Buffer × Option (List RawEvent) := (Buffer.pushes {} chunks).1.push chunk
    let d : Decoder × Option (List RawEvent) := (Decoder.pushes {} chunks).1.push chunk
    b.2 = d.2 ∧
    (d.2 = none ↔ ∃ line ∈ (chunks.flatten ++ chunk).splitOn lineFeed, maxLine < line.length) ∧
    (d.2 ≠ none →
      b.1.bytes = d.1.line.toList ∧ lineFeed ∉ b.1.bytes ∧ b.1.bytes.length ≤ maxLine) ∧
    (d.2 = none → ∀ more : List (List UInt8),
      (b.1.pushes more).2 = List.replicate more.length none ∧
      (d.1.pushes more).2 = List.replicate more.length none ∧
      ∃ lost, (Decoder.push {} (beforeOverlong (chunks ++ chunk :: more).flatten)).2 =
        some ((Decoder.pushes {} (chunks ++ chunk :: more)).2.reduceOption.flatten ++ lost)) := by
  intro b d
  obtain ⟨hshows, hanswer⟩ : Shows b.1 d.1 ∧ b.2 = d.2 := (shows_start.pushes chunks).1.push chunk
  have hstops : d.2 = none ↔ ¬ Bounded (chunks.flatten ++ chunk) :=
    Decoder.push_eq_none_iff.trans (Decoder.overlong_push_iff chunks chunk)
  refine ⟨hanswer, ?_, fun hsome => ?_, fun hnone more => ?_⟩
  · rw [hstops]
    simp [Bounded]
  · rw [ne_eq, Decoder.push_eq_none_iff] at hsome
    generalize b.1 = buffer, d.1 = decoder at hshows hsome
    cases hshows with
    | live h => exact ⟨rfl, h.notMem, by simpa using h.size_le⟩
    | stuck hstop => exact absurd hstop hsome
  · have hpushes := Decoder.pushes_of_overlong (Decoder.push_eq_none_iff.1 hnone) more
    have hlong : ¬ Bounded (chunks ++ chunk :: more).flatten := by
      rw [List.flatten_append, List.flatten_cons, ← List.append_assoc]
      exact mt Bounded.of_append (hstops.1 hnone)
    refine ⟨?_, by rw [hpushes], Decoder.exists_lost_of_pushes hlong⟩
    rw [(hshows.pushes more).2, hpushes]

end RouteSync.Stream
